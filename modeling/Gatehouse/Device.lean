import Gatehouse.Json.Record
import Gatehouse.Json.Write
import Gatehouse.Text.Inspect

/-! Push registration tokens of users' devices: the request that brings one, and the store that
keeps the last one of each user. -/

namespace Gatehouse

/-- An identifier taken from a request that has passed its gate. -/
structure ResourceId where
  text : String
  deriving DecidableEq

namespace ResourceId

def reader : Json.Reader ResourceId := do return ⟨← Json.Reader.string⟩

def toJson (id : ResourceId) : Json.Value := .text id.text

def inspect (id : ResourceId) : Text.Inspect := .wrap "ResourceId" (.text id.text)

end ResourceId

structure TokenUpdate where
  fcmToken : String
  deriving DecidableEq

namespace TokenUpdate

structure Draft where
  fcmToken : Option String

def record : Json.Record Draft TokenUpdate where
  name := "UpdateFcmTokenRequest"
  fields := [
    ⟨"fcmToken", false, (·.fcmToken.isSome), fun _ => do return ⟨some (← Json.Reader.string)⟩⟩]
  blank := ⟨none⟩
  finish d :=
    match d with
    | ⟨none⟩ => .error "fcmToken"
    | ⟨some token⟩ => .ok ⟨token⟩

def reader : Json.Reader TokenUpdate := record.reader

def toJson (update : TokenUpdate) : Json.Value := .object [("fcmToken", .text update.fcmToken)]

def inspect (update : TokenUpdate) : Text.Inspect :=
  .record "UpdateFcmTokenRequest" [("fcm_token", .text update.fcmToken)]

end TokenUpdate

/-- The token held for each user, the newest entry first. -/
abbrev TokenTable := List (ResourceId × String)

namespace TokenTable

def get? (table : TokenTable) (id : ResourceId) : Option String := List.lookup id table

def put (table : TokenTable) (id : ResourceId) (token : String) : TokenTable :=
  (id, token) :: table.filter fun entry => entry.1 ≠ id

end TokenTable

structure TokenSet where
  contains : String → Bool

namespace TokenSet

instance : Membership String TokenSet := ⟨fun set token => set.contains token = true⟩

instance (token : String) (set : TokenSet) : Decidable (token ∈ set) :=
  inferInstanceAs (Decidable (set.contains token = true))

instance : Coe (List String) TokenSet := ⟨fun tokens => ⟨fun token => decide (token ∈ tokens)⟩⟩

end TokenSet

/-- A store that refuses some tokens, always with the same failure text. -/
structure Store where
  refused : TokenSet
  failure : String
  table : TokenTable

namespace Store

def permissive : Store := ⟨([] : List String), "", []⟩

def update (store : Store) (id : ResourceId) (token : String) : Except String Store :=
  if token ∈ store.refused then .error store.failure
  else .ok { store with table := store.table.put id token }

end Store

end Gatehouse

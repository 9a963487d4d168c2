import Gatehouse.Json.Record
import Gatehouse.Role

/-! What tokens say about their bearer: the claims of a short-lived access token, and those of a
refresh token, which names the stored token so that one session can be revoked by itself. -/

namespace Gatehouse

structure AccessClaims where
  sub : String
  email : Option String
  phoneNumber : String
  role : Role
  iat : Int64
  exp : Int64
  deriving DecidableEq

namespace AccessClaims

structure Draft where
  sub : Option String
  email : Option (Option String)
  phoneNumber : Option String
  role : Option Role
  iat : Option Int64
  exp : Option Int64

open Json.Reader

def record : Json.Record Draft AccessClaims where
  name := "AccessClaims"
  fields := [
    ⟨"sub", false, (·.sub.isSome), fun d => do return { d with sub := some (← string) }⟩,
    ⟨"email", true, (·.email.isSome), fun d => do
      return { d with email := some (← option string) }⟩,
    ⟨"phoneNumber", false, (·.phoneNumber.isSome), fun d => do
      return { d with phoneNumber := some (← string) }⟩,
    ⟨"role", false, (·.role.isSome), fun d => do return { d with role := some (← Role.reader) }⟩,
    ⟨"iat", false, (·.iat.isSome), fun d => do return { d with iat := some (← int64) }⟩,
    ⟨"exp", false, (·.exp.isSome), fun d => do return { d with exp := some (← int64) }⟩]
  blank := ⟨none, none, none, none, none, none⟩
  finish d :=
    match d with
    | ⟨none, _, _, _, _, _⟩ => .error "sub"
    | ⟨_, _, none, _, _, _⟩ => .error "phoneNumber"
    | ⟨_, _, _, none, _, _⟩ => .error "role"
    | ⟨_, _, _, _, none, _⟩ => .error "iat"
    | ⟨_, _, _, _, _, none⟩ => .error "exp"
    | ⟨some sub, email, some phoneNumber, some role, some iat, some exp⟩ =>
      .ok ⟨sub, email.join, phoneNumber, role, iat, exp⟩

def reader : Json.Reader AccessClaims := record.reader

def members (claims : AccessClaims) : List (String × Json.Value) :=
  ("sub", .text claims.sub) :: Json.Value.optional "email" (claims.email.map .text) ++
    [("phoneNumber", .text claims.phoneNumber), ("role", claims.role.toJson),
      ("iat", .integer claims.iat.toInt), ("exp", .integer claims.exp.toInt)]

def toJson (claims : AccessClaims) : Json.Value := .object claims.members

def inspect (claims : AccessClaims) : Text.Inspect :=
  .record "AccessClaims"
    [("sub", .text claims.sub), ("email", .option .text claims.email),
      ("phone_number", .text claims.phoneNumber), ("role", claims.role.inspect),
      ("iat", .number claims.iat.toInt), ("exp", .number claims.exp.toInt)]

end AccessClaims

structure RefreshClaims where
  sub : String
  tokenId : String
  deriving DecidableEq

namespace RefreshClaims

structure Draft where
  sub : Option String
  tokenId : Option String

open Json.Reader

def record : Json.Record Draft RefreshClaims where
  name := "RefreshClaims"
  fields := [
    ⟨"sub", false, (·.sub.isSome), fun d => do return { d with sub := some (← string) }⟩,
    ⟨"tokenId", false, (·.tokenId.isSome), fun d => do
      return { d with tokenId := some (← string) }⟩]
  blank := ⟨none, none⟩
  finish d :=
    match d with
    | ⟨none, _⟩ => .error "sub"
    | ⟨_, none⟩ => .error "tokenId"
    | ⟨some sub, some tokenId⟩ => .ok ⟨sub, tokenId⟩

def reader : Json.Reader RefreshClaims := record.reader

def members (claims : RefreshClaims) : List (String × Json.Value) :=
  [("sub", .text claims.sub), ("tokenId", .text claims.tokenId)]

def toJson (claims : RefreshClaims) : Json.Value := .object claims.members

def inspect (claims : RefreshClaims) : Text.Inspect :=
  .record "RefreshClaims" [("sub", .text claims.sub), ("token_id", .text claims.tokenId)]

end RefreshClaims

end Gatehouse

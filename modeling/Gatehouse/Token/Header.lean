import Gatehouse.Json.Record
import Gatehouse.Token.Key

/-! The header of a token. Only the algorithm is required; a key inside a header is read and
written, and otherwise left alone. -/

namespace Gatehouse.Token

structure Header where
  typ : Option String
  alg : Algorithm
  cty : Option String
  jku : Option String
  jwk : Option Key
  kid : Option String
  x5u : Option String
  x5c : Option (List String)
  x5t : Option String
  x5tS256 : Option String
  deriving DecidableEq

namespace Header

def standard : Header := ⟨some "JWT", .hs256, none, none, none, none, none, none, none, none⟩

structure Draft where
  typ : Option (Option String)
  alg : Option Algorithm
  cty : Option (Option String)
  jku : Option (Option String)
  jwk : Option (Option Key)
  kid : Option (Option String)
  x5u : Option (Option String)
  x5c : Option (Option (List String))
  x5t : Option (Option String)
  x5tS256 : Option (Option String)

open Json.Reader

def record : Json.Record Draft Header where
  name := "Header"
  fields := [
    ⟨"typ", false, (·.typ.isSome), fun d => do return { d with typ := some (← option string) }⟩,
    ⟨"alg", false, (·.alg.isSome), fun d => do
      return { d with alg := some (← Algorithm.reader) }⟩,
    ⟨"cty", false, (·.cty.isSome), fun d => do return { d with cty := some (← option string) }⟩,
    ⟨"jku", false, (·.jku.isSome), fun d => do return { d with jku := some (← option string) }⟩,
    ⟨"jwk", false, (·.jwk.isSome), fun d => do
      return { d with jwk := some (← option Key.reader) }⟩,
    ⟨"kid", false, (·.kid.isSome), fun d => do return { d with kid := some (← option string) }⟩,
    ⟨"x5u", false, (·.x5u.isSome), fun d => do return { d with x5u := some (← option string) }⟩,
    ⟨"x5c", false, (·.x5c.isSome), fun d => do
      return { d with x5c := some (← option (list string)) }⟩,
    ⟨"x5t", false, (·.x5t.isSome), fun d => do return { d with x5t := some (← option string) }⟩,
    ⟨"x5t#S256", false, (·.x5tS256.isSome), fun d => do
      return { d with x5tS256 := some (← option string) }⟩]
  blank := ⟨none, none, none, none, none, none, none, none, none, none⟩
  finish d :=
    match d.alg with
    | none => .error "alg"
    | some alg =>
      .ok ⟨d.typ.join, alg, d.cty.join, d.jku.join, d.jwk.join, d.kid.join, d.x5u.join,
        d.x5c.join, d.x5t.join, d.x5tS256.join⟩

def reader : Json.Reader Header := record.reader

def toJson (header : Header) : Json.Value :=
  let text (name : String) (value : Option String) :=
    Json.Value.optional name (value.map .text)
  .object (text "typ" header.typ ++ ("alg", header.alg.toJson) :: text "cty" header.cty ++
    text "jku" header.jku ++ Json.Value.optional "jwk" (header.jwk.map Key.toJson) ++
    text "kid" header.kid ++ text "x5u" header.x5u ++
    Json.Value.optional "x5c" (header.x5c.map fun keys => .list (keys.map .text)) ++
    text "x5t" header.x5t ++ text "x5t#S256" header.x5tS256)

end Header

end Gatehouse.Token

import Gatehouse.Json.Tree
import Gatehouse.Token.Algorithm

/-! Keys that the header of a token may carry. Only their form matters, for they are not used to
check a signature: what a key is for, and its material, whose members depend on its type. Members
of other names are passed by. -/

namespace Gatehouse.Token

open Json (Problem Tree)

inductive Curve where
  | p256
  | p384
  | p521
  | ed25519
  deriving DecidableEq

namespace Curve

def name : Curve → String
  | p256 => "P-256"
  | p384 => "P-384"
  | p521 => "P-521"
  | ed25519 => "Ed25519"

def all : List Curve := [p256, p384, p521, ed25519]

end Curve

inductive KeyType where
  | ellipticCurve
  | rsa
  | octets
  | octetPair
  deriving DecidableEq

namespace KeyType

def name : KeyType → String
  | ellipticCurve => "EC"
  | rsa => "RSA"
  | octets => "oct"
  | octetPair => "OKP"

def all : List KeyType := [ellipticCurve, rsa, octets, octetPair]

end KeyType

inductive Material where
  | ellipticCurve (curve : Curve) (x y : String)
  | rsa (modulus exponent : String)
  | octets (value : String)
  | octetPair (curve : Curve) (x : String)
  deriving DecidableEq

namespace Material

def only? (members : List (String × Tree)) (name : String) : Option Tree :=
  match members.filter (·.1 == name) with
  | [(_, value)] => some value
  | _ => none

def text? (members : List (String × Tree)) (name : String) : Option String := do
  (← only? members name).text?

def choice? (known : List (String × α)) (members : List (String × Tree)) (name : String) :
    Option α := do
  ((← only? members name).asChoice Tree.isNull known).toOption

def curve? (members : List (String × Tree)) : Option Curve :=
  choice? (Curve.all.map fun curve => (curve.name, curve)) members "crv"

def type? (members : List (String × Tree)) : Option KeyType :=
  choice? (KeyType.all.map fun type => (type.name, type)) members "kty"

/-- The material that members spell out; each that the type of the key asks for stands once. -/
def ofMembers? (members : List (String × Tree)) : Option Material := do
  match ← type? members with
  | .ellipticCurve =>
    return .ellipticCurve (← curve? members) (← text? members "x") (← text? members "y")
  | .rsa => return .rsa (← text? members "n") (← text? members "e")
  | .octets => return .octets (← text? members "k")
  | .octetPair => return .octetPair (← curve? members) (← text? members "x")

def type : Material → KeyType
  | ellipticCurve .. => .ellipticCurve
  | rsa .. => .rsa
  | octets .. => .octets
  | octetPair .. => .octetPair

def texts : Material → List (String × String)
  | ellipticCurve curve x y => [("crv", curve.name), ("x", x), ("y", y)]
  | rsa modulus exponent => [("n", modulus), ("e", exponent)]
  | octets value => [("k", value)]
  | octetPair curve x => [("crv", curve.name), ("x", x)]

def toMembers (material : Material) : List (String × Json.Value) :=
  (("kty", material.type.name) :: material.texts).map fun (name, text) => (name, .text text)

end Material

structure KeyUsage where
  use : Option String
  keyOps : Option (List String)
  alg : Option Algorithm
  kid : Option String
  x5u : Option String
  x5c : Option (List String)
  x5t : Option String
  x5tS256 : Option String
  deriving DecidableEq

namespace KeyUsage

def names : List String := ["use", "key_ops", "alg", "kid", "x5u", "x5c", "x5t", "x5t#S256"]

def blank : KeyUsage := ⟨none, none, none, none, none, none, none, none⟩

def text (tree : Tree) : Except Problem (Option String) := tree.asOption Tree.asText

def texts (tree : Tree) : Except Problem (Option (List String)) :=
  tree.asOption (Tree.asList Tree.asText)

def algorithm (tree : Tree) : Except Problem (Option Algorithm) :=
  tree.asOption (Tree.asChoice Tree.isVoid (Algorithm.all.map fun alg => (alg.name, alg)))

def insert (usage : KeyUsage) (name : String) (tree : Tree) : Except Problem KeyUsage :=
  match name with
  | "use" => do return { usage with use := ← text tree }
  | "key_ops" => do return { usage with keyOps := ← texts tree }
  | "alg" => do return { usage with alg := ← algorithm tree }
  | "kid" => do return { usage with kid := ← text tree }
  | "x5u" => do return { usage with x5u := ← text tree }
  | "x5c" => do return { usage with x5c := ← texts tree }
  | "x5t" => do return { usage with x5t := ← text tree }
  | "x5t#S256" => do return { usage with x5tS256 := ← text tree }
  | _ => .ok usage

def insertAll (seen : List String) (usage : KeyUsage) :
    List (String × Tree) → Except Problem KeyUsage
  | [] => .ok usage
  | (name, tree) :: members => do
    if seen.contains name then .error (.duplicateField name)
    else insertAll (name :: seen) (← usage.insert name tree) members

def toMembers (usage : KeyUsage) : List (String × Json.Value) :=
  let text (name : String) (value : Option String) :=
    Json.Value.optional name (value.map .text)
  let texts (name : String) (values : Option (List String)) :=
    Json.Value.optional name (values.map fun values => .list (values.map .text))
  text "use" usage.use ++ texts "key_ops" usage.keyOps ++
    Json.Value.optional "alg" (usage.alg.map Algorithm.toJson) ++ text "kid" usage.kid ++
    text "x5u" usage.x5u ++ texts "x5c" usage.x5c ++ text "x5t" usage.x5t ++
    text "x5t#S256" usage.x5tS256

end KeyUsage

structure Key where
  usage : KeyUsage
  material : Material
  deriving DecidableEq

namespace Key

def ofMembers (members : List (String × Tree)) : Except Problem Key := do
  let (common, others) := members.partition fun member => KeyUsage.names.contains member.1
  let usage ← KeyUsage.blank.insertAll [] common
  match Material.ofMembers? others with
  | some material => return ⟨usage, material⟩
  | none => .error (.noVariant "AlgorithmParameters")

def maxDepth : Nat := 125

open Json.Reader

/-- Reads an object to its end before anything is looked for in it. -/
def reader : Json.Reader Key := settle do
  match ← peekSolid? with
  | none => failAhead .endInValue
  | some '\x7b' => do
    advance
    closedBy (do
      match ofMembers (← Tree.members (Tree.reader maxDepth)) with
      | .ok key => return key
      | .error problem => complain problem) closeObject
  | some _ => wrongType "struct Jwk"

def toJson (key : Key) : Json.Value := .object (key.usage.toMembers ++ key.material.toMembers)

end Key

end Gatehouse.Token

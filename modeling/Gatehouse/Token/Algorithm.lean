import Gatehouse.Json.FieldValue
import Gatehouse.Json.Write

/-! The signature algorithms that a token can name. Only the first is used for signing. -/

namespace Gatehouse.Token

inductive Algorithm where
  | hs256
  | hs384
  | hs512
  | es256
  | es384
  | rs256
  | rs384
  | rs512
  | ps256
  | ps384
  | ps512
  | edDsa
  deriving DecidableEq

namespace Algorithm

def name : Algorithm → String
  | hs256 => "HS256"
  | hs384 => "HS384"
  | hs512 => "HS512"
  | es256 => "ES256"
  | es384 => "ES384"
  | rs256 => "RS256"
  | rs384 => "RS384"
  | rs512 => "RS512"
  | ps256 => "PS256"
  | ps384 => "PS384"
  | ps512 => "PS512"
  | edDsa => "EdDSA"

def all : List Algorithm :=
  [hs256, hs384, hs512, es256, es384, rs256, rs384, rs512, ps256, ps384, ps512, edDsa]

def reader : Json.Reader Algorithm := Json.Reader.choice (all.map fun alg => (alg.name, alg))

def toJson (alg : Algorithm) : Json.Value := .text alg.name

end Algorithm

end Gatehouse.Token

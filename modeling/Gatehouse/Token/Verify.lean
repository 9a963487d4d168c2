import Gatehouse.Token.Registered
import Gatehouse.Token.Sign

/-! Verifying tokens: the header names the algorithm, the signature has to be the one computed, the
payload has to hold the claims asked for, and these have to agree with the policy. -/

namespace Gatehouse.Token

inductive Error where
  | invalidToken
  | invalidAlgorithm
  | invalidSignature
  | base64 (cause : Text.Base64Url.Error)
  | json (cause : Json.Error)
  | missingClaim (name : ClaimName)
  | expired
  | immature
  | invalidSubject
  | invalidIssuer
  | invalidAudience

namespace Error

def name : Error → String
  | invalidToken => "InvalidToken"
  | invalidAlgorithm => "InvalidAlgorithm"
  | invalidSignature => "InvalidSignature"
  | base64 _ => "Base64"
  | json _ => "Json"
  | missingClaim _ => "MissingRequiredClaim"
  | expired => "ExpiredSignature"
  | immature => "ImmatureSignature"
  | invalidSubject => "InvalidSubject"
  | invalidIssuer => "InvalidIssuer"
  | invalidAudience => "InvalidAudience"

def message (error : Error) : String :=
  match error with
  | base64 cause => "Base64 error: " ++ cause.message
  | json cause => "JSON error: " ++ cause.message
  | missingClaim claim => "Missing required claim: " ++ claim.text
  | _ => error.name

end Error

def cutLastDot (cs : List Char) : Option (List Char × List Char) :=
  match (cs.reverse.dropWhile (· != '.')).reverse with
  | [] => none
  | front => some (front.dropLast, (cs.reverse.takeWhile (· != '.')).reverse)

/-- The three parts of a token; further dots belong to the first. -/
structure Parts where
  header : String
  payload : String
  signature : String

def Parts.ofToken? (token : String) : Option Parts := do
  let (message, signature) ← cutLastDot token.toList
  let (header, payload) ← cutLastDot message
  return ⟨.ofList header, .ofList payload, .ofList signature⟩

def Parts.message (parts : Parts) : String := parts.header ++ "." ++ parts.payload

def decodeBase64 (part : String) : Except Error Bytes :=
  (Text.Base64Url.decode (Text.Utf8.encode part)).mapError .base64

def decodeJson (reader : Json.Reader α) (bytes : Bytes) : Except Error α :=
  (reader.decode bytes).mapError .json

namespace Policy

/-- Names are checked only where the token gives any. -/
def checkNames (given : Option (List String)) (accepted : List String) (error : Error) :
    Except Error Unit :=
  match given with
  | some names => if names.any accepted.contains then .ok () else .error error
  | none => .ok ()

def checkSubject (policy : Policy) (claims : Registered) : Except Error Unit :=
  match policy.subject, claims.sub with
  | some expected, some given =>
    if given = expected then .ok () else .error .invalidSubject
  | _, _ => .ok ()

def check (policy : Policy) (now : Nat) (claims : Registered) : Except Error Unit := do
  match policy.required.find? fun name => !claims.has name with
  | some name => throw (.missingClaim name)
  | none => pure ()
  if policy.checksExpiry && claims.exp.any (· < now - policy.leeway) then throw .expired
  if policy.checksNotBefore && claims.nbf.any (now + policy.leeway < ·) then throw .immature
  policy.checkSubject claims
  checkNames claims.iss policy.issuers .invalidIssuer
  checkNames claims.aud policy.audiences .invalidAudience

end Policy

def verify (key : Bytes) (policy : Policy) (now : Nat) (reader : Json.Reader α) (token : String) :
    Except Error (Header × α) := do
  let some parts := Parts.ofToken? token | throw .invalidToken
  let header ← decodeJson Header.reader (← decodeBase64 parts.header)
  if header.alg ∉ policy.algorithms then throw .invalidAlgorithm
  if parts.signature ≠ signature key parts.message then throw .invalidSignature
  let payload ← decodeBase64 parts.payload
  let claims ← decodeJson reader payload
  policy.check now (← decodeJson Registered.reader payload)
  return (header, claims)

end Gatehouse.Token

import Gatehouse.Settings
import Gatehouse.Text.Utf8
import Gatehouse.Token.Algorithm

/-! What a token has to be like to be accepted, beside its signature: who issued it, for whom, and
when it expires. Settings pin one issuer and one audience. -/

namespace Gatehouse

namespace Token

inductive ClaimName where
  | exp
  | nbf
  | sub
  | iss
  | aud
  deriving DecidableEq

def ClaimName.text : ClaimName → String
  | exp => "exp"
  | nbf => "nbf"
  | sub => "sub"
  | iss => "iss"
  | aud => "aud"

structure Policy where
  algorithms : List Algorithm
  issuers : List String
  audiences : List String
  leeway : Nat
  checksExpiry : Bool
  checksNotBefore : Bool
  subject : Option String
  required : List ClaimName

end Token

namespace TokenSettings

def key (settings : TokenSettings) : Bytes := Text.Utf8.encode settings.secret

def policy (settings : TokenSettings) : Token.Policy where
  algorithms := [.hs256]
  issuers := [settings.issuer]
  audiences := [settings.audience]
  leeway := 60
  checksExpiry := true
  checksNotBefore := false
  subject := none
  required := [.exp]

end TokenSettings

end Gatehouse

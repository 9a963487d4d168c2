import Gatehouse.Crypto.Hmac
import Gatehouse.Text.Base64Url
import Gatehouse.Token.Header
import Gatehouse.Token.Policy

/-! Signing tokens: header and payload in base64, and the signature over both, joined by dots. -/

namespace Gatehouse.Token

open Text

def encodeJson (value : Json.Value) : String :=
  Base64Url.encodeText (Utf8.encode value.render)

def signature (key : Bytes) (message : String) : String :=
  Base64Url.encodeText (Crypto.Hmac.sign key (Utf8.encode message))

def sign (key : Bytes) (header : Header) (payload : Json.Value) : String :=
  let message := encodeJson header.toJson ++ "." ++ encodeJson payload
  message ++ "." ++ signature key message

def pins (settings : TokenSettings) : List (String × Json.Value) :=
  [("iss", .text settings.issuer), ("aud", .text settings.audience)]

end Gatehouse.Token

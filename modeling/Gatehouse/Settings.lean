import Gatehouse.Duration
import Gatehouse.Net.Address
import Gatehouse.Text.Inspect

/-! What the service is told from outside: how tokens are signed and how long they live, and the
address it binds. The texts that show settings never show the secret. -/

namespace Gatehouse

inductive Variable where
  | secret
  | accessExpiration
  | refreshExpiration
  | issuer
  | audience
  | host
  | port
  deriving DecidableEq

namespace Variable

def key : Variable → String
  | secret => "JWT_SECRET"
  | accessExpiration => "JWT_ACCESS_EXPIRATION"
  | refreshExpiration => "JWT_REFRESH_EXPIRATION"
  | issuer => "JWT_ISSUER"
  | audience => "JWT_AUDIENCE"
  | host => "HOST"
  | port => "PORT"

def all : List Variable :=
  [secret, accessExpiration, refreshExpiration, issuer, audience, host, port]

end Variable

/-- The settings of token signing. The lifetimes are kept both as given and as counted. -/
structure TokenSettings where
  secret : String
  accessExpiration : String
  refreshExpiration : String
  accessTtl : Duration
  refreshTtl : Duration
  issuer : String
  audience : String
  deriving DecidableEq

namespace TokenSettings

/-- The secret in force where none is given. Only fit for local runs. -/
def placeholderSecret : String := "change-me-in-production"

def standard : TokenSettings where
  secret := placeholderSecret
  accessExpiration := "15m"
  refreshExpiration := "7d"
  accessTtl := ⟨900000, by decide⟩
  refreshTtl := ⟨604800000, by decide⟩
  issuer := "homeservices.sa"
  audience := "homeservices-app"

def inspect (settings : TokenSettings) : Text.Inspect :=
  .record "JwtConfig"
    [("secret", .text "<redacted>"),
      ("access_expiration", .text settings.accessExpiration),
      ("refresh_expiration", .text settings.refreshExpiration),
      ("issuer", .text settings.issuer),
      ("audience", .text settings.audience)]

end TokenSettings

structure ServerSettings where
  bind : Net.Socket
  deriving DecidableEq

namespace ServerSettings

def standard : ServerSettings := ⟨⟨.unspecified, 3000⟩⟩

def inspect (settings : ServerSettings) : Text.Inspect :=
  .record "ServerConfig" [("bind", .word settings.bind.render)]

end ServerSettings

structure Settings where
  token : TokenSettings
  server : ServerSettings
  deriving DecidableEq

namespace Settings

def inspect (settings : Settings) : Text.Inspect :=
  .record "AppConfig" [("jwt", settings.token.inspect), ("server", settings.server.inspect)]

inductive Error where
  | invalidDuration (key value : String)
  | invalidValue (key value : String)
  deriving DecidableEq

namespace Error

def message : Error → String
  | invalidDuration key value =>
    key ++ " must be a duration such as \"15m\" or \"7d\", got " ++ Text.Quoted.quote value
  | invalidValue key value => key ++ " has an invalid value " ++ Text.Quoted.quote value

def inspect : Error → Text.Inspect
  | invalidDuration key value =>
    .record "InvalidDuration" [("key", .text key), ("value", .text value)]
  | invalidValue key value => .record "InvalidValue" [("key", .text key), ("value", .text value)]

end Error

end Settings

end Gatehouse

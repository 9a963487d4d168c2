import Gatehouse.Json.FieldValue
import Gatehouse.Json.Write
import Gatehouse.Text.Inspect

/-! The roles that an access token can grant. -/

namespace Gatehouse

inductive Role where
  | customer
  | provider
  | admin
  deriving DecidableEq

namespace Role

def wireName : Role → String
  | customer => "customer"
  | provider => "provider"
  | admin => "admin"

def all : List Role := [customer, provider, admin]

def reader : Json.Reader Role := Json.Reader.choice (all.map fun role => (role.wireName, role))

def toJson (role : Role) : Json.Value := .text role.wireName

def inspect : Role → Text.Inspect
  | customer => .word "Customer"
  | provider => .word "Provider"
  | admin => .word "Admin"

end Role

end Gatehouse

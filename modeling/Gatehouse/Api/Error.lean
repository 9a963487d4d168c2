import Gatehouse.Malformed

/-! What the service itself can find wrong: a malformed parameter, or a failure of the store. -/

namespace Gatehouse.Api

inductive Error where
  | malformed (cause : Malformed)
  | store (cause : String)
  deriving DecidableEq

namespace Error

def message : Error → String
  | malformed cause => cause.message
  | store _ => "error during device token store operation"

def source? : Error → Option String
  | malformed _ => none
  | store cause => some cause

def inspect : Error → Text.Inspect
  | malformed cause => .wrap "Validation" cause.inspect
  | store cause => .record "StoreError" [("source", .text cause)]

end Error

end Gatehouse.Api

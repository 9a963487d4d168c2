import Gatehouse.Calendar.Timestamp
import Gatehouse.Json.Write

/-! The body that tells that the service is alive, and when it was asked. -/

namespace Gatehouse.Health

def body (timestamp : String) : Json.Value :=
  .object [("status", .text "ok"), ("timestamp", .text timestamp)]

def render (t : Calendar.Timestamp) : Except Calendar.Timestamp.Error String := do
  return (body (← t.write)).render

end Gatehouse.Health

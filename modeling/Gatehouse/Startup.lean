import Gatehouse.Log.Filter
import Gatehouse.Settings.Load

/-! Starting the service: the log is set up, the settings are loaded, the start is reported, and the
address is bound. The log takes what its filter lets pass. -/

namespace Gatehouse

inductive Ending where
  | unfiltered (cut : Text.BrokenCut)
  | misconfigured (error : Settings.Error)
  | unbound (bind : Net.Socket)
  | serving (settings : Settings)

namespace Ending

def exitCode? : Ending → Option UInt8
  | unfiltered _ => some 101
  | misconfigured _ => some 1
  | unbound _ => some 101
  | serving _ => none

def complaint? : Ending → Option String
  | unfiltered cut => some ("panic: " ++ cut.message)
  | misconfigured error => some ("Error: " ++ error.message)
  | unbound bind => some ("panic: error binding to " ++ bind.render)
  | serving _ => none

end Ending

structure Startup where
  events : List Log.Event
  ending : Ending

namespace Startup

def canBind (interfaces : List Net.Address) (address : Net.Address) : Bool :=
  address == .unspecified || address == .v6 ⟨Vector.replicate 8 0⟩ || interfaces.contains address

def startingEvent (settings : Settings) : Log.Event :=
  .starting settings.server.bind settings.token.issuer settings.token.accessExpiration

def run (interfaces : List Net.Address) (lookup : Lookup) : Startup :=
  let (result, journal) := Settings.loader.load lookup
  match result with
  | .error error => ⟨journal.events, .misconfigured error⟩
  | .ok settings =>
    let bind := settings.server.bind
    let events := journal.events ++ [startingEvent settings]
    if canBind interfaces bind.address then
      ⟨events ++ [.listening bind], .serving settings⟩
    else ⟨events, .unbound bind⟩

def lines (startup : Startup) (filter : Log.Filter) : List String :=
  startup.events.filterMap filter.line?

structure Outcome where
  lines : List String
  ending : Ending

/-- A start whose log is set up by a setting; where that fails, nothing else happens. -/
def outcome (interfaces : List Net.Address) (lookup : Lookup) (logSetting : Option String) :
    Outcome :=
  match Log.Filter.ofSetting logSetting with
  | .error cut => ⟨[], .unfiltered cut⟩
  | .ok filter =>
    let startup := run interfaces lookup
    ⟨startup.lines filter, startup.ending⟩

end Startup

end Gatehouse

import Gatehouse.Log
import Gatehouse.Settings
import Gatehouse.Text.Utf8

/-! Loading settings from a lookup. A missing and an empty value both stand for the default, the
first unusable value ends the load, and the journal keeps which variables were asked for and what
was reported on the way. -/

namespace Gatehouse

abbrev Lookup := Variable → Option String

structure Journal where
  asked : List Variable
  events : List Log.Event

/-- A load reads the lookup, may fail, and keeps a journal even then. -/
abbrev Loader := ReaderT Lookup (ExceptT Settings.Error (StateM Journal))

namespace Loader

/-- Asks for a variable; an empty value counts as none. -/
def ask? (v : Variable) : Loader (Option String) := do
  modify fun journal => { journal with asked := journal.asked ++ [v] }
  let lookup ← read
  return (lookup v).filter (· ≠ "")

def ask (v : Variable) (default : String) : Loader String := do
  return (← ask? v).getD default

def report (event : Log.Event) : Loader Unit :=
  modify fun journal => { journal with events := journal.events ++ [event] }

def load (loader : Loader α) (lookup : Lookup) : Except Settings.Error α × Journal :=
  (loader lookup).run ⟨[], []⟩

end Loader

def Duration.read (key value : String) : Except Settings.Error Duration :=
  match Duration.parse? value with
  | some duration => .ok duration
  | none => .error (.invalidDuration key value)

namespace TokenSettings

def loader : Loader TokenSettings := do
  let secret ← Loader.ask .secret standard.secret
  let accessExpiration ← Loader.ask .accessExpiration standard.accessExpiration
  let refreshExpiration ← Loader.ask .refreshExpiration standard.refreshExpiration
  let accessTtl ← Duration.read Variable.accessExpiration.key accessExpiration
  let refreshTtl ← Duration.read Variable.refreshExpiration.key refreshExpiration
  if secret = placeholderSecret then Loader.report .placeholderSecret
  let issuer ← Loader.ask .issuer standard.issuer
  let audience ← Loader.ask .audience standard.audience
  return { secret, accessExpiration, refreshExpiration, accessTtl, refreshTtl, issuer, audience }

end TokenSettings

namespace ServerSettings

def askParsed (v : Variable) (default : α) (parse? : String → Option α) : Loader α := do
  match ← Loader.ask? v with
  | none => return default
  | some value =>
    match parse? value with
    | some a => return a
    | none => throw (.invalidValue v.key value)

def loader : Loader ServerSettings := do
  let address ← askParsed .host standard.bind.address Net.Address.parse?
  let port ← askParsed .port standard.bind.port Net.port?
  return ⟨⟨address, port⟩⟩

end ServerSettings

namespace Settings

def loader : Loader Settings := do
  let token ← TokenSettings.loader
  let server ← ServerSettings.loader
  return { token, server }

end Settings

abbrev Environment := List (String × Bytes)

namespace Environment

/-- The value of a key; one that is not text counts as missing. -/
def get? (env : Environment) (key : String) : Option String :=
  (List.lookup key env).bind Text.Utf8.decode?

def lookup (env : Environment) : Lookup := fun v => env.get? v.key

end Environment

end Gatehouse

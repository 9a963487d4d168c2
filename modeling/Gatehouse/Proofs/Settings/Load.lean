import Gatehouse.Settings.Load
import Mathlib.Data.List.Basic

/-! What a loader does to a lookup and a journal, step by step, and what is left of it when the
journal is set aside: settings made from the values that a lookup has, an empty one being none. -/

namespace Gatehouse

namespace Variable

def reads : Variable → String → Bool
  | accessExpiration, value => (Duration.parse? value).isSome
  | refreshExpiration, value => (Duration.parse? value).isSome
  | host, value => (Net.Address.parse? value).isSome
  | port, value => (Net.port? value).isSome
  | _, _ => true

def complaint (v : Variable) (value : String) : Settings.Error :=
  match v with
  | accessExpiration | refreshExpiration => .invalidDuration v.key value
  | _ => .invalidValue v.key value

def judged : List Variable := [accessExpiration, refreshExpiration, host, port]

def askedUpTo : Variable → Nat
  | accessExpiration => 3
  | refreshExpiration => 3
  | host => 6
  | _ => 7

end Variable

namespace Lookup

def values (lookup : Lookup) : Lookup := fun v => (lookup v).filter (· ≠ "")

variable {α : Type} (values : Lookup) (v : Variable)

def text (default : String) : String := (values v).getD default

def parsed (default : α) (parse? : String → Option α) : Except Settings.Error α :=
  match values v with
  | none => .ok default
  | some value =>
    match parse? value with
    | some a => .ok a
    | none => .error (v.complaint value)

def isBad : Bool := (values v).any fun value => !v.reads value

def firstBad? : Option Variable := Variable.judged.find? values.isBad

theorem parsed_cases {parse? : String → Option α} (default : α)
    (hreads : ∀ value, v.reads value = (parse? value).isSome) :
    (values.isBad v = false ∧
      ∃ a, values.parsed v default parse? = .ok a ∧
        (values v).elim (some default) parse? = some a) ∨
    (values.isBad v = true ∧
      ∃ value, values v = some value ∧ v.reads value = false ∧
        values.parsed v default parse? = .error (v.complaint value)) := by
  rw [isBad, parsed]
  cases hvalue : values v with
  | none => exact .inl ⟨rfl, default, rfl, rfl⟩
  | some value =>
    rw [Option.any_some, hreads]
    cases hparse : parse? value with
    | some a => exact .inl ⟨rfl, a, by simp only [hparse], hparse⟩
    | none =>
      have hunread : v.reads value = false := by rw [hreads, hparse, Option.isSome_none]
      exact .inr ⟨rfl, value, rfl, hunread, by simp only [hparse]⟩

theorem parse?_text {parse? : String → Option α} {default : String} {a : α}
    (hdefault : parse? default = some a) :
    parse? (values.text v default) = (values v).elim (some a) parse? := by
  rw [text]
  cases values v with
  | none => exact hdefault
  | some value => rfl

theorem read_text {default : String} (ttl : Duration)
    (hdefault : Duration.parse? default = some ttl)
    (hcomplaint : ∀ value, v.complaint value = .invalidDuration v.key value) :
    Duration.read v.key (values.text v default) = values.parsed v ttl Duration.parse? := by
  rw [text, parsed, Duration.read]
  cases values v with
  | none => rw [Option.getD_none, hdefault]
  | some value =>
    rw [Option.getD_some]
    dsimp only
    rw [hcomplaint]
    cases Duration.parse? value <;> rfl

end Lookup

-- The steps of `do` blocks over `Except`, as rules that rewrite.
theorem ok_bind {ε α β : Type} (a : α) (f : α → Except ε β) :
    (.ok a : Except ε α) >>= f = f a := rfl

theorem error_bind {ε α β : Type} (error : ε) (f : α → Except ε β) :
    (.error error : Except ε α) >>= f = .error error := rfl

theorem pure_eq_ok {ε α : Type} (a : α) : (pure a : Except ε α) = .ok a := rfl

namespace Loader

variable {α β : Type} (lookup : Lookup) (journal : Journal)

def runFrom (loader : Loader α) : Except Settings.Error α × Journal :=
  (loader lookup).run journal

theorem runFrom_pure (a : α) : runFrom lookup journal (pure a) = (.ok a, journal) := rfl

theorem runFrom_bind (x : Loader α) (f : α → Loader β) :
    runFrom lookup journal (x >>= f) =
      match runFrom lookup journal x with
      | (.ok a, journal') => runFrom lookup journal' (f a)
      | (.error error, journal') => (.error error, journal') := by
  change (match (x lookup).run journal with
    | (a, s) => ExceptT.bindCont (fun a => f a lookup) a s) = _
  rw [runFrom]
  obtain ⟨_ | _, _⟩ := (x lookup).run journal <;> rfl

theorem runFrom_report (event : Log.Event) :
    runFrom lookup journal (report event) =
      (.ok (), { journal with events := journal.events ++ [event] }) := rfl

theorem runFrom_read (x : Except Settings.Error α) :
    runFrom lookup journal (liftM x) = (x, journal) := rfl

theorem runFrom_ask (v : Variable) (default : String) :
    runFrom lookup journal (ask v default) =
      (.ok (lookup.values.text v default), { journal with asked := journal.asked ++ [v] }) := rfl

theorem runFrom_askParsed {v : Variable} (default : α) (parse? : String → Option α)
    (hcomplaint : ∀ value, v.complaint value = .invalidValue v.key value) :
    runFrom lookup journal (ServerSettings.askParsed v default parse?) =
      (lookup.values.parsed v default parse?, { journal with asked := journal.asked ++ [v] }) := by
  have hask : runFrom lookup journal (ask? v) =
      (.ok (lookup.values v), { journal with asked := journal.asked ++ [v] }) := rfl
  rw [ServerSettings.askParsed, runFrom_bind, hask, Lookup.parsed]
  cases lookup.values v with
  | none => rfl
  | some value =>
    dsimp only
    rw [hcomplaint]
    cases parse? value <;> rfl

end Loader

namespace TokenSettings

def ofValues (values : Lookup) : Except Settings.Error TokenSettings := do
  let accessTtl ← values.parsed .accessExpiration standard.accessTtl Duration.parse?
  let refreshTtl ← values.parsed .refreshExpiration standard.refreshTtl Duration.parse?
  return {
    secret := values.text .secret standard.secret
    accessExpiration := values.text .accessExpiration standard.accessExpiration
    refreshExpiration := values.text .refreshExpiration standard.refreshExpiration
    accessTtl
    refreshTtl
    issuer := values.text .issuer standard.issuer
    audience := values.text .audience standard.audience }

def warnings (settings : TokenSettings) : List Log.Event :=
  if settings.secret = placeholderSecret then [.placeholderSecret] else []

theorem runFrom_loader (lookup : Lookup) (journal : Journal) :
    Loader.runFrom lookup journal loader =
      match ofValues lookup.values with
      | .ok settings => (.ok settings,
          ⟨journal.asked ++ Variable.all.take 5, journal.events ++ settings.warnings⟩)
      | .error error => (.error error,
          { journal with asked := journal.asked ++ Variable.all.take 3 }) := by
  rw [loader, ofValues]
  simp only [Loader.runFrom_bind, Loader.runFrom_ask, Loader.runFrom_read]
  rw [Lookup.read_text _ _ standard.accessTtl (by decide) fun _ => rfl,
    Lookup.read_text _ _ standard.refreshTtl (by decide) fun _ => rfl]
  cases lookup.values.parsed .accessExpiration standard.accessTtl Duration.parse? with
  | error error => simp only [error_bind, List.append_assoc, List.cons_append, List.nil_append]; rfl
  | ok accessTtl =>
    simp only [ok_bind]
    cases lookup.values.parsed .refreshExpiration standard.refreshTtl Duration.parse? with
    | error error =>
      simp only [error_bind, List.append_assoc, List.cons_append, List.nil_append]
      rfl
    | ok refreshTtl =>
      -- The secret decides about one event and nothing else.
      by_cases hsecret : lookup.values.text .secret standard.secret = placeholderSecret
      · simp only [ok_bind, pure_eq_ok, warnings, if_pos hsecret, Loader.runFrom_bind,
          Loader.runFrom_report, Loader.runFrom_ask, Loader.runFrom_pure, List.append_assoc,
          List.cons_append, List.nil_append]
        rfl
      · simp only [ok_bind, pure_eq_ok, warnings, if_neg hsecret, Loader.runFrom_bind,
          Loader.runFrom_ask, Loader.runFrom_pure, List.append_assoc, List.cons_append,
          List.nil_append, List.append_nil]
        rfl

end TokenSettings

namespace ServerSettings

def ofValues (values : Lookup) : Except Settings.Error ServerSettings := do
  let address ← values.parsed .host standard.bind.address Net.Address.parse?
  let port ← values.parsed .port standard.bind.port Net.port?
  return ⟨⟨address, port⟩⟩

theorem runFrom_loader (lookup : Lookup) (journal : Journal) :
    Loader.runFrom lookup journal loader =
      (ofValues lookup.values, { journal with
        asked := journal.asked ++
          if lookup.values.isBad .host then [.host] else [.host, .port] }) := by
  have hhost := lookup.values.parsed_cases .host standard.bind.address (fun _ => rfl)
  rw [loader, ofValues, Loader.runFrom_bind, Loader.runFrom_askParsed _ _ _ _ fun _ => rfl]
  obtain ⟨hgood, address, hparsed, -⟩ | ⟨hbad, value, -, -, hparsed⟩ := hhost
  · rw [hparsed, hgood]
    dsimp only
    rw [Loader.runFrom_bind, Loader.runFrom_askParsed _ _ _ _ fun _ => rfl]
    rw [ok_bind]
    cases lookup.values.parsed .port standard.bind.port Net.port? with
    | error error => simp only [error_bind, List.append_assoc, List.singleton_append]; rfl
    | ok port => simp only [List.append_assoc, List.singleton_append]; rfl
  · rw [hparsed, hbad]
    rfl

end ServerSettings

namespace Settings

def ofValues (values : Lookup) : Except Settings.Error Settings := do
  let token ← TokenSettings.ofValues values
  let server ← ServerSettings.ofValues values
  return { token, server }

end Settings

end Gatehouse

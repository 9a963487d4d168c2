import Gatehouse.Proofs.Settings.Load

/-! A load is decided by the first variable, in a fixed order, with a value that cannot be used. It
decides the answer, how far the variables are asked for, and what is reported. -/

namespace Gatehouse

/-- An answer made from some values is decided by the first bad one of some variables: it is the
complaint about that one, or good if there is none. -/
def Lookup.Decides {α : Type} (values : Lookup) (vs : List Variable) (good : α → Prop)
    (answer : Except Settings.Error α) : Prop :=
  match vs.find? values.isBad with
  | some v => ∃ value, values v = some value ∧ v.reads value = false ∧
      answer = .error (v.complaint value)
  | none => ∃ a, answer = .ok a ∧ good a

namespace Lookup.Decides

variable {α β : Type} {values : Lookup} {vs ws : List Variable} {good : α → Prop}
  {better : β → Prop}

theorem pure {a : α} (h : good a) : values.Decides [] good (.ok a) := ⟨a, rfl, h⟩

theorem bind {x : Except Settings.Error α} {f : α → Except Settings.Error β}
    (h : values.Decides vs good x) (hf : ∀ a, good a → values.Decides ws better (f a)) :
    values.Decides (vs ++ ws) better (x >>= f) := by
  rw [Decides, List.find?_append]
  rw [Decides] at h
  cases hfound : vs.find? values.isBad with
  | some v =>
    rw [hfound] at h
    obtain ⟨value, hvalue, hunread, rfl⟩ := h
    exact ⟨value, hvalue, hunread, rfl⟩
  | none =>
    rw [hfound] at h
    obtain ⟨a, rfl, hgood⟩ := h
    exact hf a hgood

theorem parsed {v : Variable} {parse? : String → Option α} (default : α)
    (hreads : ∀ value, v.reads value = (parse? value).isSome) :
    values.Decides [v] (fun a => (values v).elim (some default) parse? = some a)
      (values.parsed v default parse?) := by
  obtain ⟨hgood, hread⟩ | ⟨hbad, hunread⟩ := values.parsed_cases v default hreads
  · rw [Decides, List.find?_cons_of_neg (by simp [hgood]), List.find?_nil]
    exact hread
  · rw [Decides, List.find?_cons_of_pos hbad]
    exact hunread

end Lookup.Decides

namespace TokenSettings

structure Reflects (settings : TokenSettings) (values : Lookup) : Prop where
  secret : settings.secret = values.text .secret "change-me-in-production"
  accessExpiration : settings.accessExpiration = values.text .accessExpiration "15m"
  refreshExpiration : settings.refreshExpiration = values.text .refreshExpiration "7d"
  accessTtl : Duration.parse? settings.accessExpiration = some settings.accessTtl
  refreshTtl : Duration.parse? settings.refreshExpiration = some settings.refreshTtl
  issuer : settings.issuer = values.text .issuer "homeservices.sa"
  audience : settings.audience = values.text .audience "homeservices-app"

theorem decides_ofValues (values : Lookup) :
    values.Decides [.accessExpiration, .refreshExpiration] (Reflects · values)
      (ofValues values) := by
  refine .bind (.parsed standard.accessTtl fun _ => rfl) fun accessTtl haccess => ?_
  refine .bind (.parsed standard.refreshTtl fun _ => rfl) fun refreshTtl hrefresh => ?_
  refine .pure ⟨rfl, rfl, rfl, ?_, ?_, rfl, rfl⟩
  · exact (Lookup.parse?_text values _ (by decide)).trans haccess
  · exact (Lookup.parse?_text values _ (by decide)).trans hrefresh

end TokenSettings

namespace ServerSettings

structure Reflects (settings : ServerSettings) (values : Lookup) : Prop where
  address : (values .host).elim (some .unspecified) Net.Address.parse? = some settings.bind.address
  port : (values .port).elim (some 3000) Net.port? = some settings.bind.port

theorem decides_ofValues (values : Lookup) :
    values.Decides [.host, .port] (Reflects · values) (ofValues values) := by
  refine .bind (.parsed standard.bind.address fun _ => rfl) fun address haddress => ?_
  refine .bind (.parsed standard.bind.port fun _ => rfl) fun port hport => ?_
  exact .pure ⟨haddress, hport⟩

end ServerSettings

namespace Settings

theorem decides_ofValues (values : Lookup) :
    values.Decides Variable.judged
      (fun settings => settings.token.Reflects values ∧ settings.server.Reflects values)
      (ofValues values) := by
  refine .bind (TokenSettings.decides_ofValues values) fun token htoken => ?_
  refine .bind (ServerSettings.decides_ofValues values) fun server hserver => ?_
  exact .pure ⟨htoken, hserver⟩

def Warns (values : Lookup) : Prop :=
  values.isBad .accessExpiration = false ∧ values.isBad .refreshExpiration = false ∧
    values.text .secret TokenSettings.placeholderSecret = TokenSettings.placeholderSecret

instance (values : Lookup) : Decidable (Warns values) := inferInstanceAs (Decidable (_ ∧ _ ∧ _))

def journalOf (values : Lookup) : Journal where
  asked := Variable.all.take (values.firstBad?.elim 7 Variable.askedUpTo)
  events := if Warns values then [.placeholderSecret] else []

theorem firstBad?_eq (values : Lookup) :
    values.firstBad? = ([Variable.accessExpiration, .refreshExpiration].find? values.isBad).or
      ([Variable.host, .port].find? values.isBad) := by
  rw [← List.find?_append]
  rfl

theorem journalOf_of_lifetime_bad {values : Lookup} {v : Variable}
    (h : [Variable.accessExpiration, .refreshExpiration].find? values.isBad = some v) :
    journalOf values = ⟨Variable.all.take 3, []⟩ := by
  have hbad : values.isBad v = true := List.find?_some h
  have hv : v = .accessExpiration ∨ v = .refreshExpiration := by
    simpa using List.mem_of_find?_eq_some h
  have hwarns : ¬Warns values := by
    rintro ⟨haccess, hrefresh, -⟩
    rcases hv with rfl | rfl
    · exact Bool.noConfusion (haccess.symm.trans hbad)
    · exact Bool.noConfusion (hrefresh.symm.trans hbad)
  rw [journalOf, firstBad?_eq, h, if_neg hwarns]
  rcases hv with rfl | rfl <;> rfl

theorem journalOf_of_lifetimes_good {values : Lookup} {token : TokenSettings}
    (h : [Variable.accessExpiration, .refreshExpiration].find? values.isBad = none)
    (hreflects : token.Reflects values) :
    journalOf values = ⟨Variable.all.take 5 ++
      (if values.isBad .host then [.host] else [.host, .port]), token.warnings⟩ := by
  have hgood :
      values.isBad .accessExpiration = false ∧ values.isBad .refreshExpiration = false := by
    simpa using h
  have hwarns : Warns values ↔ token.secret = TokenSettings.placeholderSecret := by
    rw [Warns, hreflects.secret, and_iff_right hgood.1, and_iff_right hgood.2]
    rfl
  have hevents : (if Warns values then [Log.Event.placeholderSecret] else []) = token.warnings :=
    if_congr hwarns rfl rfl
  rw [journalOf, hevents, firstBad?_eq, h, Option.none_or, List.find?_cons, List.find?_singleton]
  cases values.isBad .host <;> cases values.isBad .port <;> rfl

theorem load_eq (lookup : Lookup) :
    loader.load lookup = (ofValues lookup.values, journalOf lookup.values) := by
  have htoken := TokenSettings.decides_ofValues lookup.values
  change Loader.runFrom lookup ⟨[], []⟩ loader = _
  simp only [loader, Loader.runFrom_bind, TokenSettings.runFrom_loader,
    ServerSettings.runFrom_loader, Loader.runFrom_pure, ofValues]
  rw [Lookup.Decides] at htoken
  cases hfound : [Variable.accessExpiration, .refreshExpiration].find? lookup.values.isBad with
  | some v =>
    rw [hfound] at htoken
    obtain ⟨value, -, -, herror⟩ := htoken
    rw [herror, error_bind, journalOf_of_lifetime_bad hfound]
    rfl
  | none =>
    rw [hfound] at htoken
    obtain ⟨token, htoken, hreflects⟩ := htoken
    rw [htoken, ok_bind, journalOf_of_lifetimes_good hfound hreflects]
    cases ServerSettings.ofValues lookup.values <;> rfl

/-- A load asks in a fixed order and is decided by the first variable with a value that cannot be
used. A value that is empty counts as missing. -/
theorem load_decided (lookup : Lookup) :
    let (result, journal) := loader.load lookup
    (match lookup.values.firstBad? with
      | some v => ∃ value, lookup v = some value ∧ value ≠ "" ∧ v.reads value = false ∧
          result = .error (v.complaint value)
      | none => ∃ settings, result = .ok settings ∧ settings.token.Reflects lookup.values ∧
          settings.server.Reflects lookup.values) ∧
    journal.asked.map Variable.key =
      ["JWT_SECRET", "JWT_ACCESS_EXPIRATION", "JWT_REFRESH_EXPIRATION", "JWT_ISSUER",
        "JWT_AUDIENCE", "HOST", "PORT"].take
          (lookup.values.firstBad?.elim 7 Variable.askedUpTo) ∧
    journal.events = (if Warns lookup.values then [.placeholderSecret] else []) ∧
    ∀ other : Lookup, other.values = lookup.values → loader.load other = loader.load lookup := by
  rw [load_eq]
  refine ⟨?_, List.map_take, rfl, fun other hsame => ?_⟩
  · have hdecides := decides_ofValues lookup.values
    rw [Lookup.Decides] at hdecides
    rw [Lookup.firstBad?]
    cases hfound : Variable.judged.find? lookup.values.isBad with
    | none =>
      rw [hfound] at hdecides
      exact hdecides
    | some v =>
      rw [hfound] at hdecides
      obtain ⟨value, hvalue, hunread, herror⟩ := hdecides
      obtain ⟨hlookup, hnonempty⟩ := Option.filter_eq_some_iff.mp hvalue
      exact ⟨value, hlookup, by simpa using hnonempty, hunread, herror⟩
  · rw [load_eq, hsame]

theorem load_decided_lifetime :
    let values : Lookup := fun
      | .refreshExpiration => some "forever"
      | .port => some "70000"
      | _ => none
    let blank : Lookup := fun
      | .secret => some ""
      | v => values v
    blank.values = values.values ∧ loader.load blank = loader.load values ∧
      (loader.load values).1 = .error (.invalidDuration "JWT_REFRESH_EXPIRATION" "forever") ∧
      (loader.load values).2.asked = [.secret, .accessExpiration, .refreshExpiration] := by
  intro values blank
  have hsame : blank.values = values.values := by
    funext v
    cases v <;> rfl
  exact ⟨hsame, (load_decided values).2.2.2 blank hsame, by decide, by decide⟩

end Settings

end Gatehouse

import Gatehouse.Proofs.Net.Address
import Gatehouse.Proofs.Settings.Decision

/-! Settings written out variable by variable load as what they were. A load leaves no text empty
and keeps the lifetimes that the texts read as, and this is all that loading them again needs. -/

namespace Gatehouse

namespace TokenSettings

structure Loadable (settings : TokenSettings) : Prop where
  secret : settings.secret ≠ ""
  accessExpiration : settings.accessExpiration ≠ ""
  refreshExpiration : settings.refreshExpiration ≠ ""
  accessTtl : Duration.parse? settings.accessExpiration = some settings.accessTtl
  refreshTtl : Duration.parse? settings.refreshExpiration = some settings.refreshTtl
  issuer : settings.issuer ≠ ""
  audience : settings.audience ≠ ""

theorem loadable_standard : Loadable standard where
  secret := by decide
  accessExpiration := by decide
  refreshExpiration := by decide
  accessTtl := by decide
  refreshTtl := by decide
  issuer := by decide
  audience := by decide

theorem text_values_ne_empty (lookup : Lookup) (v : Variable) {default : String}
    (hdefault : default ≠ "") : lookup.values.text v default ≠ "" := by
  rw [Lookup.text]
  cases hvalue : lookup.values v with
  | none => exact hdefault
  | some value => simpa using (Option.filter_eq_some_iff.mp hvalue).2

theorem Reflects.loadable {settings : TokenSettings} {lookup : Lookup}
    (h : settings.Reflects lookup.values) : settings.Loadable where
  secret := h.secret ▸ text_values_ne_empty lookup _ (by decide)
  accessExpiration := h.accessExpiration ▸ text_values_ne_empty lookup _ (by decide)
  refreshExpiration := h.refreshExpiration ▸ text_values_ne_empty lookup _ (by decide)
  accessTtl := h.accessTtl
  refreshTtl := h.refreshTtl
  issuer := h.issuer ▸ text_values_ne_empty lookup _ (by decide)
  audience := h.audience ▸ text_values_ne_empty lookup _ (by decide)

end TokenSettings

namespace Lookup

variable {lookup : Lookup} {v : Variable} {value : String}

theorem values_eq_some (h : lookup v = some value) (hvalue : value ≠ "") :
    lookup.values v = some value := by
  rw [values, h]
  exact Option.filter_some_pos (by simpa using hvalue)

theorem text_of_eq_some {default : String} (h : lookup v = some value) (hvalue : value ≠ "") :
    lookup.values.text v default = value := by
  rw [text, values_eq_some h hvalue, Option.getD_some]

theorem parsed_of_eq_some {α : Type} {default a : α} {parse? : String → Option α}
    (h : lookup v = some value) (hvalue : value ≠ "") (hparse : parse? value = some a) :
    lookup.values.parsed v default parse? = .ok a := by
  rw [parsed, values_eq_some h hvalue]
  simp only [hparse]

end Lookup

namespace ServerSettings

theorem ofValues_rendered {lookup : Lookup} {address : Net.Address} {port : UInt16}
    (hhost : lookup .host = some address.render)
    (hport : lookup .port = some (toString port.toNat)) :
    ofValues lookup.values = .ok ⟨⟨address, port⟩⟩ := by
  rw [ofValues, Lookup.parsed_of_eq_some hhost address.render_ne_empty address.parse?_render,
    ok_bind, Lookup.parsed_of_eq_some hport (Net.toString_port_ne_empty port)
      (Net.port?_toString port)]
  rfl

end ServerSettings

namespace Settings

def exported (settings : Settings) : Lookup := fun
  | .secret => some settings.token.secret
  | .accessExpiration => some settings.token.accessExpiration
  | .refreshExpiration => some settings.token.refreshExpiration
  | .issuer => some settings.token.issuer
  | .audience => some settings.token.audience
  | .host => some settings.server.bind.address.render
  | .port => some (toString settings.server.bind.port.toNat)

theorem token_ofValues_exported {settings : Settings} (h : settings.token.Loadable) :
    TokenSettings.ofValues settings.exported.values = .ok settings.token := by
  rw [TokenSettings.ofValues, Lookup.parsed_of_eq_some rfl h.accessExpiration h.accessTtl, ok_bind,
    Lookup.parsed_of_eq_some rfl h.refreshExpiration h.refreshTtl, ok_bind,
    Lookup.text_of_eq_some rfl h.secret, Lookup.text_of_eq_some rfl h.accessExpiration,
    Lookup.text_of_eq_some rfl h.refreshExpiration, Lookup.text_of_eq_some rfl h.issuer,
    Lookup.text_of_eq_some rfl h.audience]
  rfl

theorem ofValues_exported {settings : Settings} (h : settings.token.Loadable) :
    ofValues settings.exported.values = .ok settings := by
  rw [ofValues, token_ofValues_exported h, ok_bind, ServerSettings.ofValues_rendered rfl rfl]
  rfl

theorem journalOf_of_ok {values : Lookup} {settings : Settings}
    (h : ofValues values = .ok settings) :
    settings.token.Reflects values ∧
      journalOf values = ⟨Variable.all, settings.token.warnings⟩ := by
  have hdecides := decides_ofValues values
  rw [h, Lookup.Decides] at hdecides
  cases hfound : Variable.judged.find? values.isBad with
  | some v =>
    rw [hfound] at hdecides
    obtain ⟨_, -, -, herror⟩ := hdecides
    cases herror
  | none =>
    rw [hfound] at hdecides
    obtain ⟨_, hok, hreflects, -⟩ := hdecides
    cases hok
    have hgood : ∀ v ∈ Variable.judged, ¬values.isBad v = true := List.find?_eq_none.mp hfound
    have hlifetimes : [Variable.accessExpiration, .refreshExpiration].find? values.isBad = none :=
      List.find?_eq_none.mpr fun v hv =>
        hgood v (List.mem_append_left [Variable.host, .port] hv)
    have hhost : ¬values.isBad .host = true := hgood .host (by decide)
    refine ⟨hreflects, ?_⟩
    rw [journalOf_of_lifetimes_good hlifetimes hreflects, if_neg hhost]
    rfl

/-- Settings written out load as themselves and with the same events. So do the settings of an
environment that says nothing, and every address and port in their printed forms. -/
theorem load_exported :
    (∀ lookup settings journal, loader.load lookup = (.ok settings, journal) →
      loader.load settings.exported = (.ok settings, journal)) ∧
    (∀ server, (TokenSettings.loader.load (exported ⟨.standard, server⟩)).1 = .ok .standard) ∧
    ∀ (lookup : Lookup) (address : Net.Address) (port : UInt16),
      lookup .host = some address.render → lookup .port = some (toString port.toNat) →
      (ServerSettings.loader.load lookup).1 = .ok ⟨⟨address, port⟩⟩ := by
  refine ⟨fun lookup settings journal h => ?_, fun server => ?_,
    fun lookup address port hhost hport => ?_⟩
  · rw [load_eq, Prod.mk.injEq] at h
    obtain ⟨hok, rfl⟩ := h
    obtain ⟨hreflects, hjournal⟩ := journalOf_of_ok hok
    have hagain := ofValues_exported hreflects.loadable
    rw [load_eq, hagain, hjournal, (journalOf_of_ok hagain).2]
  · change (Loader.runFrom _ ⟨[], []⟩ _).1 = _
    rw [TokenSettings.runFrom_loader, token_ofValues_exported TokenSettings.loadable_standard]
  · change (Loader.runFrom lookup ⟨[], []⟩ _).1 = _
    rw [ServerSettings.runFrom_loader, ServerSettings.ofValues_rendered hhost hport]

theorem load_exported_address :
    let lookup : Lookup := fun
      | .refreshExpiration => some "36h"
      | .host => some "2001:DB8:0:0:01::1"
      | .port => some "+8080"
      | _ => none
    let settings : Settings := {
      token := { TokenSettings.standard with
        refreshExpiration := "36h", refreshTtl := ⟨129600000, by decide⟩ }
      server := ⟨⟨.v6 ⟨#v[0x2001, 0xdb8, 0, 0, 1, 0, 0, 1]⟩, 8080⟩⟩ }
    let journal : Journal := ⟨Variable.all, [.placeholderSecret]⟩
    settings.exported .host = some "2001:db8::1:0:0:1" ∧
      loader.load lookup = (.ok settings, journal) ∧
      loader.load settings.exported = (.ok settings, journal) ∧
      (ServerSettings.loader.load settings.exported).1 = .ok settings.server := by
  intro lookup settings journal
  have hjournal : (loader.load lookup).2 = journal := congrArg₂ Journal.mk (by decide) (by decide)
  have hload : loader.load lookup = (.ok settings, journal) := Prod.ext (by decide) hjournal
  exact ⟨by decide, hload, load_exported.1 lookup settings journal hload,
    load_exported.2.2 settings.exported _ _ rfl rfl⟩

end Settings

end Gatehouse

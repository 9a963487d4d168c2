import Gatehouse.Proofs.Settings.Decision
import Gatehouse.Startup

/-! Two loads that differ in the secret alone cannot be told apart by what they show: the error, the
texts of the settings and the report of the start are the same. Only one fixed warning depends on
the secret, and only on whether it is the placeholder. -/

namespace Gatehouse

def Lookup.AgreeOffSecret (a b : Lookup) : Prop := ∀ v, v ≠ .secret → a v = b v

def Settings.signedWith (settings : Settings) (secret : String) : Settings :=
  { settings with token := { settings.token with secret } }

namespace Lookup.AgreeOffSecret

variable {α : Type} {a b : Lookup} {v : Variable}

theorem values (h : AgreeOffSecret a b) : AgreeOffSecret a.values b.values := fun v hv => by
  rw [Lookup.values, Lookup.values, h v hv]

theorem text (h : AgreeOffSecret a b) (hv : v ≠ .secret) (default : String) :
    a.text v default = b.text v default := by
  rw [Lookup.text, Lookup.text, h v hv]

theorem parsed (h : AgreeOffSecret a b) (hv : v ≠ .secret) (default : α)
    (parse? : String → Option α) : a.parsed v default parse? = b.parsed v default parse? := by
  rw [Lookup.parsed, Lookup.parsed, h v hv]

theorem isBad (h : AgreeOffSecret a b) : a.isBad = b.isBad := by
  funext v
  by_cases hv : v = .secret
  · -- Any secret can be used.
    subst hv
    rw [Lookup.isBad, Lookup.isBad]
    cases a .secret <;> cases b .secret <;> rfl
  · rw [Lookup.isBad, Lookup.isBad, h v hv]

theorem firstBad? (h : AgreeOffSecret a b) : a.firstBad? = b.firstBad? := by
  rw [Lookup.firstBad?, Lookup.firstBad?, h.isBad]

theorem tokenOfValues (h : AgreeOffSecret a b) :
    TokenSettings.ofValues b = (TokenSettings.ofValues a).map fun settings =>
      { settings with secret := b.text .secret TokenSettings.placeholderSecret } := by
  rw [TokenSettings.ofValues, TokenSettings.ofValues, h.parsed (v := .accessExpiration) (by decide),
    h.parsed (v := .refreshExpiration) (by decide), h.text (v := .accessExpiration) (by decide),
    h.text (v := .refreshExpiration) (by decide), h.text (v := .issuer) (by decide),
    h.text (v := .audience) (by decide)]
  cases b.parsed .accessExpiration TokenSettings.standard.accessTtl Duration.parse? with
  | error error => rfl
  | ok accessTtl =>
    cases b.parsed .refreshExpiration TokenSettings.standard.refreshTtl Duration.parse? <;> rfl

theorem serverOfValues (h : AgreeOffSecret a b) :
    ServerSettings.ofValues b = ServerSettings.ofValues a := by
  rw [ServerSettings.ofValues, ServerSettings.ofValues, h.parsed (v := .host) (by decide),
    h.parsed (v := .port) (by decide)]

theorem ofValues (h : AgreeOffSecret a b) :
    Settings.ofValues b = (Settings.ofValues a).map fun settings =>
      settings.signedWith (b.text .secret TokenSettings.placeholderSecret) := by
  rw [Settings.ofValues, Settings.ofValues, h.tokenOfValues, h.serverOfValues]
  cases TokenSettings.ofValues a with
  | error error => rfl
  | ok token => cases ServerSettings.ofValues a <;> rfl

end Lookup.AgreeOffSecret

namespace Settings

/-- Whether two answers of a load show the same: one error, with its variable, value and text, or
settings that differ in nothing that is printed, reported or used beside the secret. -/
def ShowSame : Except Settings.Error Settings → Except Settings.Error Settings → Prop
  | .error a, .error b => a = b
  | .ok a, .ok b =>
    a.token.inspect.compact = b.token.inspect.compact ∧
      a.token.inspect.pretty = b.token.inspect.pretty ∧
      a.inspect.compact = b.inspect.compact ∧ a.inspect.pretty = b.inspect.pretty ∧
      a.token.accessTtl = b.token.accessTtl ∧ a.token.refreshTtl = b.token.refreshTtl ∧
      a.token.issuer = b.token.issuer ∧ a.token.audience = b.token.audience ∧
      a.server.bind = b.server.bind ∧
      (Startup.startingEvent a).fields = (Startup.startingEvent b).fields
  | _, _ => False

theorem showSame_signedWith (settings : Settings) (secret : String) :
    ShowSame (.ok settings) (.ok (settings.signedWith secret)) :=
  ⟨rfl, rfl, rfl, rfl, rfl, rfl, rfl, rfl, rfl, rfl⟩

theorem showSame_of_agree {a b : Lookup} (h : a.AgreeOffSecret b) :
    ShowSame (ofValues a.values) (ofValues b.values) := by
  rw [h.values.ofValues]
  cases ofValues a.values with
  | error error => exact rfl
  | ok settings => exact settings.showSame_signedWith _

theorem eq_placeholder_of_mem_events {values : Lookup} {event : Log.Event}
    (h : event ∈ (journalOf values).events) : event = .placeholderSecret := by
  rw [journalOf] at h
  split at h
  · exact List.mem_singleton.mp h
  · exact absurd h List.not_mem_nil

/-- What a load shows does not depend on the secret, but for one warning of a fixed text, which
tells whether the placeholder is in force. -/
theorem load_hides_secret (a b : Lookup) (h : ∀ v, v ≠ .secret → a v = b v) :
    let (resultA, journalA) := loader.load a
    let (resultB, journalB) := loader.load b
    ShowSame resultA resultB ∧ journalA.asked = journalB.asked ∧
    journalA.events = (if Warns a.values then [.placeholderSecret] else []) ∧
    journalB.events = (if Warns b.values then [.placeholderSecret] else []) ∧
    ∀ event ∈ journalA.events ++ journalB.events, event.line event.activity? =
      "WARN homeservices_gate::config: JWT_SECRET is not set, tokens will be signed with the " ++
        "placeholder secret" := by
  have hagree : a.AgreeOffSecret b := h
  rw [load_eq, load_eq]
  refine ⟨showSame_of_agree hagree, ?_, rfl, rfl, fun event hevent => ?_⟩
  · rw [journalOf, journalOf, hagree.values.firstBad?]
  · have hplaceholder : event = .placeholderSecret :=
      (List.mem_append.mp hevent).elim eq_placeholder_of_mem_events eq_placeholder_of_mem_events
    rw [hplaceholder]
    decide

theorem load_hides_secret_given :
    let given : Lookup := fun
      | .secret => some "s3cret"
      | .accessExpiration => some "30m"
      | _ => none
    let missing : Lookup := fun
      | .accessExpiration => some "30m"
      | _ => none
    (∀ v, v ≠ .secret → given v = missing v) ∧
      ShowSame (loader.load given).1 (loader.load missing).1 ∧
      (loader.load given).2.events = [] ∧
      (loader.load missing).2.events = [.placeholderSecret] := by
  intro given missing
  have hagree : ∀ v, v ≠ .secret → given v = missing v := by
    intro v hv
    cases v with
    | secret => exact absurd rfl hv
    | _ => rfl
  have hhides := load_hides_secret given missing hagree
  exact ⟨hagree, hhides.1, hhides.2.2.1.trans (if_neg (by decide)),
    hhides.2.2.2.1.trans (if_pos (by decide))⟩

end Settings

end Gatehouse

import Gatehouse.Proofs.Net.Socket
import Gatehouse.Proofs.Text.Inspect
import Gatehouse.Settings

/-! What the shown settings tell: each value but the secret, whatever syntax the values imitate. No
value breaks a line, be it in the texts of the settings or in that of an error. -/

namespace Gatehouse

open Text

theorem Net.Socket.plain_word (socket : Net.Socket) : (Inspect.word socket.render).Plain := by
  have hmarks {c : Char} (hmark : c ∈ marks) : ¬Breaks c ∧ isStop c = false := by
    have hall : marks.all (fun c => decide (¬Breaks c ∧ isStop c = false)) = true := by decide
    exact of_decide_eq_true (List.all_eq_true.mp hall c hmark)
  have hdigits {c : Char} (hmem : c ∈ socket.render.toList) (hmark : c ∉ marks) :
      (hexValue? c.toNat).isSome = true := by
    rw [Option.isSome_iff_ne_none]
    exact fun hnone => not_mem_render hmark hnone socket hmem
  constructor
  · intro c hmem
    by_cases hmark : c ∈ marks
    · exact (hmarks hmark).1
    · exact not_breaks_of_isSome (hdigits hmem hmark)
  · intro c hmem
    by_cases hmark : c ∈ marks
    · exact (hmarks hmark).2
    · have hdigit := hdigits hmem hmark
      rw [Bool.eq_false_iff]
      intro hstop
      simp only [isStop, Bool.or_eq_true, beq_iff_eq] at hstop
      rcases hstop with (rfl | rfl) | rfl <;> cases hdigit

namespace TokenSettings

def shown (settings : TokenSettings) : String × String × String × String :=
  (settings.accessExpiration, settings.refreshExpiration, settings.issuer, settings.audience)

theorem frame_inspect (a b : TokenSettings) : a.inspect.frame = b.inspect.frame := rfl

theorem plain_inspect (settings : TokenSettings) : settings.inspect.Plain := by
  have hname : ∀ name ∈ ["JwtConfig", "secret", "access_expiration", "refresh_expiration",
      "issuer", "audience"], Unbroken name := by decide
  simp only [List.forall_mem_cons] at hname
  obtain ⟨htoken, hsecret, haccess, hrefresh, hissuer, haudience, -⟩ := hname
  exact ⟨htoken, hsecret, trivial, haccess, trivial, hrefresh, trivial, hissuer, trivial,
    haudience, trivial, trivial⟩

theorem inspect_eq_iff {a b : TokenSettings} : a.inspect = b.inspect ↔ a.shown = b.shown := by
  simp [inspect, shown]

end TokenSettings

namespace Settings

theorem frame_inspect (a b : Settings) : a.inspect.frame = b.inspect.frame := rfl

theorem plain_inspect (settings : Settings) : settings.inspect.Plain := by
  have hname : ∀ name ∈ ["AppConfig", "jwt", "server", "ServerConfig", "bind"],
      Unbroken name := by decide
  simp only [List.forall_mem_cons] at hname
  obtain ⟨hsettings, hjwt, hserver, hconfig, hbind, -⟩ := hname
  exact ⟨hsettings, hjwt, settings.token.plain_inspect, hserver,
    ⟨hconfig, hbind, settings.server.bind.plain_word, trivial⟩, trivial⟩

theorem inspect_eq_iff {a b : Settings} :
    a.inspect = b.inspect ↔ a.token.shown = b.token.shown ∧ a.server.bind = b.server.bind := by
  have hbind : a.server.bind.render = b.server.bind.render ↔ a.server.bind = b.server.bind :=
    ⟨Net.Socket.render_inj, congrArg _⟩
  simp [inspect, ServerSettings.inspect, TokenSettings.inspect_eq_iff, hbind]

namespace Error

def key : Error → String
  | invalidDuration key _ => key
  | invalidValue key _ => key

theorem message_invalidDuration_inj {key value value' : String}
    (h : (invalidDuration key value).message = (invalidDuration key value').message) :
    value = value' :=
  Quoted.quote_inj ((String.append_right_inj _).mp h)

theorem message_invalidValue_inj {key value value' : String}
    (h : (invalidValue key value).message = (invalidValue key value').message) :
    value = value' :=
  Quoted.quote_inj ((String.append_right_inj _).mp h)

theorem unbroken_message {error : Error} (h : Unbroken error.key) : Unbroken error.message := by
  cases error with
  | invalidDuration key value =>
    have hmiddle : Unbroken " must be a duration such as \"15m\" or \"7d\", got " := by decide
    exact (Unbroken.append h hmiddle).append (Quoted.unbroken_quote value)
  | invalidValue key value =>
    have hmiddle : Unbroken " has an invalid value " := by decide
    exact (Unbroken.append h hmiddle).append (Quoted.unbroken_quote value)

end Error

/-- Either text of the settings tells exactly their values, the secret excepted, and an error tells
its value. No value puts a control or a break of the line into a text, and the long text of the
token settings always has its seven lines. -/
theorem texts_tell_values :
    (∀ a b : TokenSettings,
      (a.inspect.compact = b.inspect.compact ↔ a.shown = b.shown) ∧
      (a.inspect.pretty = b.inspect.pretty ↔ a.shown = b.shown)) ∧
    (∀ a b : Settings,
      (a.inspect.compact = b.inspect.compact ↔
        a.token.shown = b.token.shown ∧ a.server.bind = b.server.bind) ∧
      (a.inspect.pretty = b.inspect.pretty ↔
        a.token.shown = b.token.shown ∧ a.server.bind = b.server.bind)) ∧
    (∀ key value value',
      ((Error.invalidDuration key value).message = (Error.invalidDuration key value').message →
        value = value') ∧
      ((Error.invalidValue key value).message = (Error.invalidValue key value').message →
        value = value')) ∧
    (∀ settings : TokenSettings, Unbroken settings.inspect.compact) ∧
    (∀ settings : Settings, Unbroken settings.inspect.compact) ∧
    (∀ error : Error, Unbroken error.key → Unbroken error.message) ∧
    ∀ settings : TokenSettings, ∃ lines : List String,
      settings.inspect.pretty.toList.splitOn '\n' = lines.map String.toList ∧
      lines.length = 7 ∧ ∀ line ∈ lines, Unbroken line := by
  refine ⟨fun a b => ?_, fun a b => ?_,
    fun _ _ _ => ⟨Error.message_invalidDuration_inj, Error.message_invalidValue_inj⟩,
    fun settings => Inspect.unbroken_compact settings.plain_inspect,
    fun settings => Inspect.unbroken_compact settings.plain_inspect,
    fun _ => Error.unbroken_message, fun settings => ?_⟩
  · have hframe := a.frame_inspect b
    rw [← TokenSettings.inspect_eq_iff]
    exact ⟨⟨Inspect.compact_inj a.plain_inspect b.plain_inspect hframe, congrArg _⟩,
      ⟨Inspect.pretty_inj a.plain_inspect b.plain_inspect hframe, congrArg _⟩⟩
  · have hframe := a.frame_inspect b
    rw [← inspect_eq_iff]
    exact ⟨⟨Inspect.compact_inj a.plain_inspect b.plain_inspect hframe, congrArg _⟩,
      ⟨Inspect.pretty_inj a.plain_inspect b.plain_inspect hframe, congrArg _⟩⟩
  · exact ⟨settings.inspect.lines, Inspect.splitOn_pretty settings.plain_inspect, rfl,
      Inspect.unbroken_lines settings.plain_inspect⟩

/-- An issuer that writes out the end of its field and another audience is not taken for the two
values it imitates, and a value that is a line break stays on the line of its error. -/
theorem texts_tell_imitated_values :
    let a := { TokenSettings.standard with issuer := "i\", audience: \"a", audience := "b" }
    let b := { TokenSettings.standard with issuer := "i", audience := "a\", audience: \"b" }
    a.inspect.compact ≠ b.inspect.compact ∧ a.inspect.pretty ≠ b.inspect.pretty ∧
    (Error.invalidValue "PORT" "80\n").message ≠ (Error.invalidValue "PORT" "80\\n").message ∧
    Unbroken (Error.invalidValue "PORT" "80\n").message := by
  intro a b
  obtain ⟨htoken, -, herror, -, -, hmessage, -⟩ := texts_tell_values
  have hissuer : a.shown ≠ b.shown := by decide
  exact ⟨fun h => hissuer ((htoken a b).1.mp h), fun h => hissuer ((htoken a b).2.mp h),
    fun h => absurd ((herror "PORT" "80\n" "80\\n").2 h) (by decide),
    hmessage (.invalidValue "PORT" "80\n") (by decide)⟩

end Settings

end Gatehouse

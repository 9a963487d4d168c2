import Gatehouse.Proofs.Json.Reading
import Gatehouse.Proofs.Text.Mended
import Mathlib.Data.List.TakeWhile

/-! What the smallest readers have taken where they answer: the converse of following a reader along
an input whose front is known. What was passed by without being decoded is told as it is mended. -/

namespace Gatehouse.Json.Reader

open Grammar Text.Utf8

variable {α β σ : Type} {s rest : Bytes}

namespace Reads

theorem of_pure {a b : α} (h : Reads (Pure.pure a) s b rest) : a = b ∧ s = rest := by
  obtain ⟨hanswer, hrest⟩ := Prod.mk.inj h
  exact ⟨Except.ok.inj hanswer, hrest⟩

theorem of_bind {x : Reader α} {f : α → Reader β} {b : β} (h : Reads (x >>= f) s b rest) :
    ∃ a middle, Reads x s a middle ∧ Reads (f a) middle b rest := by
  have hbind : (x >>= f) s = (.ok b, rest) := h
  cases hx : x s with
  | mk answer middle =>
    simp only [Bind.bind, hx] at hbind
    cases answer with
    | ok a => exact ⟨a, middle, hx, hbind⟩
    | error fault => cases hbind

theorem of_map {x : Reader α} {f : α → β} {b : β} (h : Reads (do return f (← x)) s b rest) :
    ∃ a, Reads x s a rest ∧ f a = b := by
  obtain ⟨a, middle, hx, hpure⟩ := h.of_bind
  obtain ⟨hb, rfl⟩ := of_pure hpure
  exact ⟨a, hx, hb⟩

theorem not_of_fault {x : Reader α} {fault : Fault} {left : Bytes} {a : α}
    (hfault : x s = (.error fault, left)) : ¬Reads x s a rest := by
  intro h
  cases hfault.symm.trans h

end Reads

def Took (s text rest : Bytes) : Prop := ∃ taken, s = taken ++ rest ∧ MendsTo taken text

namespace Took

theorem of_ascii {taken : Bytes} (h : Ascii taken) (rest : Bytes) :
    Took (taken ++ rest) taken rest := ⟨taken, rfl, mendsTo_of_ascii h⟩

theorem trans {text more middle : Bytes} (h : Took s text middle) (hmore : Took middle more rest) :
    Took s (text ++ more) rest := by
  obtain ⟨taken, rfl, htaken⟩ := h
  obtain ⟨takenMore, rfl, htakenMore⟩ := hmore
  exact ⟨taken ++ takenMore, (List.append_assoc _ _ _).symm, htaken.append htakenMore⟩

theorem length_le {text : Bytes} (h : Took s text rest) : rest.length ≤ s.length := by
  obtain ⟨taken, rfl, -⟩ := h
  rw [List.length_append]
  omega

theorem length_lt {text : Bytes} (h : Took s text rest) (hne : text ≠ []) :
    rest.length < s.length := by
  obtain ⟨taken, rfl, htaken⟩ := h
  have htaken' : taken ≠ [] := by
    rintro rfl
    have hnil := htaken.mended_eq
    rw [mended] at hnil
    exact hne hnil.symm
  have hpos := List.length_pos_iff.mpr htaken'
  rw [List.length_append]
  omega

theorem mended_eq {text : Bytes} (h : Took s text []) : mended s = text := by
  obtain ⟨taken, rfl, htaken⟩ := h
  rw [List.append_nil]
  exact htaken.mended_eq

end Took

theorem eq_cons_of_head? {c : Char} (hmark : IsMark c)
    (h : s.head?.map Char.ofUInt8 = some c) : ∃ tail, s = byte c :: tail :=
  List.head?_eq_some_iff.mp (byte_mem_head? hmark h)

theorem eq_nil_of_head? (h : s.head?.map Char.ofUInt8 = none) : s = [] :=
  List.head?_eq_none_iff.mp (Option.map_eq_none_iff.mp h)

theorem peek?_sound {c : Option Char} (h : Reads peek? s c rest) :
    c = s.head?.map Char.ofUInt8 ∧ s = rest := by
  obtain ⟨hanswer, hrest⟩ := Prod.mk.inj h
  exact ⟨(Except.ok.inj hanswer).symm, hrest⟩

theorem advance_sound {u : Unit} (h : Reads advance s u rest) : s.tail = rest :=
  (Prod.mk.inj h).2

theorem Reads.of_advance {x : Reader β} {b : β} (h : Reads (do advance; x) s b rest) :
    Reads x s.tail b rest := by
  obtain ⟨_, middle, hadvance, hx⟩ := h.of_bind
  obtain rfl := advance_sound hadvance
  exact hx

theorem takeWhile_sound {p : UInt8 → Bool} {run : Bytes} (h : Reads (takeWhile p) s run rest) :
    s = run ++ rest ∧ ∀ b ∈ run, p b = true := by
  obtain ⟨hanswer, rfl⟩ := Prod.mk.inj h
  obtain rfl := Except.ok.inj hanswer
  exact ⟨List.takeWhile_append_dropWhile.symm, fun b hb => List.mem_takeWhile_imp hb⟩

theorem next?_sound {c : Option Char} (h : Reads next? s c rest) :
    c = s.head?.map Char.ofUInt8 ∧ s.tail = rest := by
  obtain ⟨_, _, hpeek, h⟩ := h.of_bind
  obtain ⟨rfl, rfl⟩ := peek?_sound hpeek
  obtain ⟨rfl, hrest⟩ := h.of_advance.of_pure
  exact ⟨rfl, hrest⟩

theorem mem_blanks {b : UInt8} (h : isBlank b = true) : b ∈ [' ', '\n', '\t', '\r'].map byte := by
  simp only [isBlank, Bool.or_eq_true, beq_iff_eq] at h
  rcases h with ((rfl | rfl) | rfl) | rfl <;> decide

theorem peekSolid?_sound {c : Option Char} (h : Reads peekSolid? s c rest) :
    ∃ blanks, Blanks blanks ∧ s = blanks ++ rest ∧ c = rest.head?.map Char.ofUInt8 := by
  obtain ⟨blanks, middle, hblanks, h⟩ := h.of_bind
  obtain ⟨hs, hall⟩ := takeWhile_sound hblanks
  obtain ⟨rfl, rfl⟩ := peek?_sound h
  exact ⟨blanks, fun b hb => mem_blanks (hall b hb), hs, rfl⟩

theorem literal_sound {letters : List Char}
    (hmarks : letters.all (fun c => decide (IsMark c)) = true) {u : Unit}
    (h : Reads (literal letters) s u rest) : s = word letters ++ rest := by
  induction letters generalizing s with
  | nil => exact h.of_pure.2
  | cons letter letters ih =>
    rw [List.all_cons, Bool.and_eq_true, decide_eq_true_eq] at hmarks
    obtain ⟨c, middle, hnext, h⟩ := h.of_bind
    obtain ⟨rfl, rfl⟩ := next?_sound hnext
    split at h
    · exact absurd h (Reads.not_of_fault rfl)
    · next c hc =>
      split at h
      · next hletter =>
        obtain ⟨tail, rfl⟩ := eq_cons_of_head? hmarks.1 (hletter ▸ hc)
        rw [List.tail_cons] at h
        rw [ih hmarks.2 h]
        rfl
      · exact absurd h (Reads.not_of_fault rfl)

theorem settle_sound {x : Reader α} {a : α} (h : Reads (settle x) s a rest) : Reads x s a rest := by
  change settle x s = (.ok a, rest) at h
  rw [settle] at h
  split at h
  · cases h
  · exact h

theorem closedBy_sound {x : Reader α} {close : Reader Unit} {a : α}
    (h : Reads (closedBy x close) s a rest) :
    ∃ middle, Reads x s a middle ∧ Reads close middle () rest := by
  change closedBy x close s = (.ok a, rest) at h
  rw [closedBy] at h
  split at h
  · cases h
  · next b middle hx =>
    split at h
    · next rest' hclose =>
      cases h
      exact ⟨middle, hx, hclose⟩
    · cases h

theorem iterate_sound {step : σ → Reader (Turn σ)} {a c : σ} (h : Reads (iterate step a) s c rest) :
    Reads (step a) s (.last c) rest ∨
      ∃ b middle, Reads (step a) s (.more b) middle ∧
        (middle.length < s.length ∧ Reads (iterate step b) middle c rest ∨
          ¬middle.length < s.length ∧ b = c ∧ middle = rest) := by
  change iterate step a s = (.ok c, rest) at h
  rw [iterate] at h
  split at h
  · next b middle hstep =>
    split at h
    · next hshorter => exact .inr ⟨b, middle, hstep, .inl ⟨hshorter, h⟩⟩
    · next hlong =>
      cases h
      exact .inr ⟨c, rest, hstep, .inr ⟨hlong, rfl, rfl⟩⟩
  · next b middle hstep =>
    cases h
    exact .inl hstep
  · cases h

theorem decode_sound {x : Reader α} {a : α} (h : decode x s = .ok a) :
    ∃ blanks, Reads x s a blanks ∧ Blanks blanks := by
  simp only [decode] at h
  split at h
  · next b hwhole =>
    cases h
    obtain ⟨b, middle, hx, hend⟩ := Reads.of_bind (Prod.ext hwhole rfl)
    obtain ⟨c, left, hpeek, hend⟩ := hend.of_bind
    split at hend
    · obtain ⟨rfl, rfl⟩ := hend.of_pure
      obtain ⟨blanks, hblanks, rfl, hnone⟩ := peekSolid?_sound hpeek
      rw [eq_nil_of_head? hnone.symm, List.append_nil] at hx
      exact ⟨blanks, hx, hblanks⟩
    · exact absurd hend (Reads.not_of_fault rfl)
  · cases h

end Gatehouse.Json.Reader

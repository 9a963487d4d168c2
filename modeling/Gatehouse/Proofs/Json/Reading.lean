import Gatehouse.Json.Reader
import Gatehouse.Proofs.Json.Grammar

/-! What the smallest readers make of an input whose front is known. `Reads x s a rest` tells that a
reader answers with a value and leaves the rest, and follows the reader bind by bind. -/

namespace Gatehouse.Json.Reader

open Grammar

variable {α β σ : Type}

/-- The reader takes the front of an input and answers with a value. -/
def Reads (x : Reader α) (s : Bytes) (a : α) (rest : Bytes) : Prop := x s = (.ok a, rest)

namespace Reads

theorem pure (a : α) (s : Bytes) : Reads (Pure.pure a) s a s := rfl

theorem bind {x : Reader α} {f : α → Reader β} {a : α} {b : β} {s middle rest : Bytes}
    (h : Reads x s a middle) (hf : Reads (f a) middle b rest) : Reads (x >>= f) s b rest := by
  have hx : x s = (.ok a, middle) := h
  have hbind : (x >>= f) s = f a middle := by simp only [Bind.bind, hx]
  exact hbind.trans hf

theorem map {x : Reader α} {a : α} {s rest : Bytes} (h : Reads x s a rest) (f : α → β) :
    Reads (do return f (← x)) s (f a) rest :=
  h.bind (pure (f a) rest)

end Reads

-- The loop answers through `Except`, so its steps are stated for inputs and not for readers.
theorem reads_iterate_of_last {step : σ → Reader (Turn σ)} {a b : σ} {s rest : Bytes}
    (h : Reads (step a) s (.last b) rest) : Reads (iterate step a) s b rest := by
  have hstep : step a s = (.ok (.last b), rest) := h
  change iterate step a s = (.ok b, rest)
  rw [iterate, hstep]

theorem iterate_of_more {step : σ → Reader (Turn σ)} {a b : σ} {s rest : Bytes}
    (h : Reads (step a) s (.more b) rest) (hshorter : rest.length < s.length) :
    iterate step a s = iterate step b rest := by
  have hstep : step a s = (.ok (.more b), rest) := h
  rw [iterate, hstep]
  simp only [if_pos hshorter]

theorem reads_iterate_of_more {step : σ → Reader (Turn σ)} {a b c : σ} {s middle rest : Bytes}
    (h : Reads (step a) s (.more b) middle) (hshorter : middle.length < s.length)
    (hmore : Reads (iterate step b) middle c rest) : Reads (iterate step a) s c rest :=
  (iterate_of_more h hshorter).trans hmore

def IsMark (c : Char) : Prop := Char.ofUInt8 (byte c) = c ∧ isBlank (byte c) = false

instance (c : Char) : Decidable (IsMark c) := inferInstanceAs (Decidable (_ ∧ _))

theorem eq_byte {c : Char} (h : IsMark c) {b : UInt8} (hb : Char.ofUInt8 b = c) : b = byte c :=
  UInt8.toNat_inj.mp (congrArg Char.toNat (hb.trans h.1.symm))

theorem ofUInt8_ne {c : Char} (h : IsMark c) {p : UInt8 → Prop} {b : UInt8} (hb : p b)
    (hc : ¬p (byte c)) : Char.ofUInt8 b ≠ c := by
  intro heq
  obtain rfl := eq_byte h heq
  exact hc hb

theorem byte_mem_head? {c : Char} (h : IsMark c) {s : Bytes}
    (hs : s.head?.map Char.ofUInt8 = some c) : byte c ∈ s.head? := by
  obtain ⟨b, hb, hchar⟩ := Option.map_eq_some_iff.mp hs
  exact eq_byte h hchar ▸ hb

theorem reads_peek? (s : Bytes) : Reads peek? s (s.head?.map Char.ofUInt8) s := rfl

theorem reads_peek?_mark {c : Char} (h : IsMark c) (rest : Bytes) :
    Reads peek? (byte c :: rest) (some c) (byte c :: rest) := by
  rw [Reads, peek?, List.head?_cons, Option.map_some, h.1]

theorem reads_advance (b : UInt8) (rest : Bytes) : Reads advance (b :: rest) () rest := rfl

theorem reads_next? {c : Char} (h : IsMark c) (rest : Bytes) :
    Reads next? (byte c :: rest) (some c) rest :=
  (reads_peek?_mark h rest).bind ((reads_advance _ rest).bind (.pure _ rest))

theorem reads_takeWhile {p : UInt8 → Bool} {run rest : Bytes} (hrun : ∀ b ∈ run, p b = true)
    (hrest : ∀ b ∈ rest.head?, p b = false) : Reads (takeWhile p) (run ++ rest) run rest := by
  rw [Reads, takeWhile, List.takeWhile_append_of_pos hrun, List.dropWhile_append_of_pos hrun]
  cases rest with
  | nil => simp
  | cons b rest => simp [hrest b rfl]

theorem isBlank_of_blanks {blanks : Bytes} (h : Blanks blanks) :
    ∀ b ∈ blanks, isBlank b = true := by
  intro b hb
  have hmem := h b hb
  simp only [List.map_cons, List.map_nil, List.mem_cons, List.not_mem_nil, or_false] at hmem
  rcases hmem with rfl | rfl | rfl | rfl <;> rfl

theorem reads_peekSolid? {blanks s : Bytes} (hblanks : Blanks blanks)
    (hsolid : ∀ b ∈ s.head?, isBlank b = false) :
    Reads peekSolid? (blanks ++ s) (s.head?.map Char.ofUInt8) s :=
  (reads_takeWhile (isBlank_of_blanks hblanks) hsolid).bind (reads_peek? s)

theorem reads_peekSolid?_mark {blanks : Bytes} (hblanks : Blanks blanks) {c : Char} (h : IsMark c)
    (rest : Bytes) : Reads peekSolid? (blanks ++ byte c :: rest) (some c) (byte c :: rest) := by
  have hread := reads_peekSolid? (s := byte c :: rest) hblanks (by simp [h.2])
  rwa [List.head?_cons, Option.map_some, h.1] at hread

theorem reads_peekSolid?_end {blanks : Bytes} (hblanks : Blanks blanks) :
    Reads peekSolid? blanks none [] := by
  have hread := reads_peekSolid? (s := []) hblanks (by simp)
  rwa [List.append_nil] at hread

theorem reads_literal {letters : List Char}
    (h : letters.all (fun c => decide (IsMark c)) = true) (rest : Bytes) :
    Reads (literal letters) (word letters ++ rest) () rest := by
  induction letters with
  | nil => exact .pure () rest
  | cons letter letters ih =>
    rw [List.all_cons, Bool.and_eq_true, decide_eq_true_eq] at h
    obtain ⟨hletter, hletters⟩ := h
    -- The reader compares the letter that it finds with the one it looks for.
    refine (reads_next? hletter _).bind ?_
    change Reads (if letter = letter then literal letters else _) _ _ _
    rw [if_pos rfl]
    exact ih hletters

theorem reads_settle {x : Reader α} {a : α} {s rest : Bytes} (h : Reads x s a rest) :
    Reads (settle x) s a rest := by
  have hx : x s = (.ok a, rest) := h
  change settle x s = (.ok a, rest)
  rw [settle, hx]

theorem reads_closedBy {x : Reader α} {close : Reader Unit} {a : α} {s middle rest : Bytes}
    (h : Reads x s a middle) (hclose : Reads close middle () rest) :
    Reads (closedBy x close) s a rest := by
  have hx : x s = (.ok a, middle) := h
  have hend : close middle = (.ok (), rest) := hclose
  change closedBy x close s = (.ok a, rest)
  simp only [closedBy, hx, hend]

theorem decode_of_reads {x : Reader α} {a : α} {s blanks : Bytes} (hblanks : Blanks blanks)
    (h : Reads x s a blanks) : decode x s = .ok a := by
  have hx : x s = (.ok a, blanks) := h
  have hend : peekSolid? blanks = (.ok none, []) := reads_peekSolid?_end hblanks
  simp only [decode, Bind.bind, hx, hend, Pure.pure]

end Gatehouse.Json.Reader

import Gatehouse.Proofs.Text.Hex
import Gatehouse.Text.Quoted
import Mathlib.Data.List.Basic

/-! A quoted text ends at its own closing quote and nowhere else, whatever it says: the characters
are written by a code of which no word begins another. Nor does it ever break the line. -/

namespace Gatehouse.Text

def Breaks (c : Char) : Prop :=
  c.toNat < 0x20 ∨ 0x7f ≤ c.toNat ∧ c.toNat < 0xa0 ∨ c.toNat = 0x2028 ∨ c.toNat = 0x2029

instance (c : Char) : Decidable (Breaks c) := inferInstanceAs (Decidable (_ ∨ _))

theorem not_isVisible_of_mem {c : Char} (range : Nat × Nat) (hrange : range ∈ unprintable)
    (hlarge : 0x7f ≤ c.toNat) (h : range.1 ≤ c.toNat ∧ c.toNat ≤ range.2) :
    isVisible c = false := by
  have hin : inRanges unprintable c.toNat = true := by
    rw [inRanges, List.any_eq_true]
    exact ⟨range, hrange, by simpa using h⟩
  rw [isVisible, if_neg (by omega), hin]
  rfl

theorem not_breaks_of_isVisible {c : Char} (h : isVisible c = true) : ¬Breaks c := by
  rintro (hlow | ⟨hdelete, hhigh⟩ | hline | hparagraph)
  · exact Bool.noConfusion (h.symm.trans (not_isVisible_of_lt hlow))
  · have hhidden : isVisible c = false :=
      not_isVisible_of_mem (0x7f, 0xa0) (.tail _ (.head _)) hdelete (by omega)
    exact Bool.noConfusion (h.symm.trans hhidden)
  · have hhidden : isVisible c = false :=
      not_isVisible_of_mem (0x2028, 0x202f) (by decide) (by omega) (by omega)
    exact Bool.noConfusion (h.symm.trans hhidden)
  · have hhidden : isVisible c = false :=
      not_isVisible_of_mem (0x2028, 0x202f) (by decide) (by omega) (by omega)
    exact Bool.noConfusion (h.symm.trans hhidden)

theorem not_breaks_of_isSome {c : Char} (h : (hexValue? c.toNat).isSome = true) : ¬Breaks c := by
  obtain ⟨value, hvalue⟩ := Option.isSome_iff_exists.mp h
  unfold hexValue? at hvalue
  unfold Breaks
  split at hvalue
  · omega
  · split at hvalue
    · omega
    · split at hvalue
      · omega
      · cases hvalue

def Unbroken (s : String) : Prop := ∀ c ∈ s.toList, ¬Breaks c

instance (s : String) : Decidable (Unbroken s) := List.decidableBAll _ s.toList

theorem Unbroken.append {s t : String} (hs : Unbroken s) (ht : Unbroken t) : Unbroken (s ++ t) := by
  intro c hc
  rw [String.toList_append] at hc
  exact (List.mem_append.mp hc).elim (hs c) (ht c)

theorem append_inj_of_run {α : Type} {p : α → Bool} {run run' rest rest' : List α}
    (hrun : ∀ a ∈ run, p a = true) (hrun' : ∀ a ∈ run', p a = true)
    (hrest : ∀ a ∈ rest.head?, p a = false) (hrest' : ∀ a ∈ rest'.head?, p a = false)
    (h : run ++ rest = run' ++ rest') : run = run' ∧ rest = rest' := by
  have htake {run rest : List α} (hrun : ∀ a ∈ run, p a = true)
      (hrest : ∀ a ∈ rest.head?, p a = false) : (run ++ rest).takeWhile p = run := by
    rw [List.takeWhile_append_of_pos hrun]
    cases rest with
    | nil => simp
    | cons a rest => simp [hrest a rfl]
  have hsame : run = run' := by rw [← htake hrun hrest, h, htake hrun' hrest']
  subst hsame
  exact ⟨rfl, List.append_cancel_left h⟩

theorem hexDigits_inj {m n : Nat} (h : hexDigits m = hexDigits n) : m = n := by
  obtain ⟨values, hvalues, hfold⟩ := mapM_hexValue?_hexDigits m
  obtain ⟨others, hothers, hfold'⟩ := mapM_hexValue?_hexDigits n
  rw [h] at hvalues
  obtain rfl := Option.some.inj (hvalues.symm.trans hothers)
  exact hfold.symm.trans hfold'

namespace Quoted

def letters : List (Char × Char) :=
  [('"', '"'), ('\\', '\\'), ('n', '\n'), ('r', '\r'), ('t', '\t'), ('0', '\x00')]

inductive Writes : Char → List Char → Prop
  | plain {c : Char} (hvisible : isVisible c = true) (hquote : c ≠ '"') (hbackslash : c ≠ '\\') :
      Writes c [c]
  | letter {letter c : Char} (h : (letter, c) ∈ letters) : Writes c ['\\', letter]
  | point (c : Char) : Writes c ('\\' :: 'u' :: '\x7b' :: hexDigits c.toNat ++ ['\x7d'])

theorem writes_escape (c : Char) : Writes c (escape c) := by
  unfold escape
  split
  iterate 6 exact .letter (by decide)
  next c hquote hbackslash _ _ _ _ =>
    split
    · next hvisible => exact .plain hvisible hquote hbackslash
    · exact .point _

/-- No word begins another. -/
theorem Writes.append_inj {c d : Char} {word word' rest rest' : List Char} (hc : Writes c word)
    (hd : Writes d word') (h : word ++ rest = word' ++ rest') : c = d ∧ rest = rest' := by
  have hletters : ∀ entry ∈ letters, entry.1 ≠ 'u' ∧
      ∀ other ∈ letters, entry.1 = other.1 → entry.2 = other.2 := by decide
  have hdigits (n : Nat) : ∀ digit ∈ hexDigits n, (hexValue? digit.toNat).isSome = true :=
    fun digit => isSome_hexValue?_of_mem
  have hend (rest : List Char) :
      ∀ mark ∈ ('\x7d' :: rest).head?, (hexValue? mark.toNat).isSome = false := by
    rintro _ ⟨rfl⟩
    rfl
  cases hc with
  | plain _ _ hbackslash =>
    cases hd with
    | plain => exact List.cons.inj h
    | letter => exact absurd (List.cons.inj h).1 hbackslash
    | point => exact absurd (List.cons.inj h).1 hbackslash
  | letter hmem =>
    cases hd with
    | plain _ _ hbackslash => exact absurd (List.cons.inj h).1.symm hbackslash
    | letter hother =>
      obtain ⟨hletter, hrest⟩ := List.cons.inj (List.cons.inj h).2
      exact ⟨(hletters _ hmem).2 _ hother hletter, hrest⟩
    | point =>
      have hletter := (List.cons.inj (List.cons.inj h).2).1
      exact absurd hletter (hletters _ hmem).1
  | point =>
    cases hd with
    | plain _ _ hbackslash => exact absurd (List.cons.inj h).1.symm hbackslash
    | letter hother =>
      have hletter := (List.cons.inj (List.cons.inj h).2).1
      exact absurd hletter.symm (hletters _ hother).1
    | point =>
      simp only [List.cons_append, List.append_assoc, List.nil_append, List.cons.injEq,
        true_and] at h
      obtain ⟨hhex, hrest⟩ :=
        append_inj_of_run (hdigits c.toNat) (hdigits d.toNat) (hend rest) (hend rest') h
      exact ⟨Char.toNat_inj.mp (hexDigits_inj hhex), (List.cons.inj hrest).2⟩

theorem Writes.head?_ne {c : Char} {word : List Char} (h : Writes c word) (rest : List Char) :
    (word ++ rest).head? ≠ some '"' := by
  cases h with
  | plain _ hquote _ => simpa using hquote
  | letter => simp
  | point => simp

theorem Writes.not_breaks {c : Char} {word : List Char} (h : Writes c word) :
    ∀ d ∈ word, ¬Breaks d := by
  cases h with
  | plain hvisible => exact List.forall_mem_singleton.mpr (not_breaks_of_isVisible hvisible)
  | letter hmem =>
    have hletters : ∀ entry ∈ letters, ¬Breaks entry.1 := by decide
    exact List.forall_mem_cons.mpr
      ⟨by decide, List.forall_mem_singleton.mpr (hletters _ hmem)⟩
  | point =>
    intro d hd
    simp only [List.mem_cons, List.mem_append, List.not_mem_nil, or_false] at hd
    rcases hd with (rfl | rfl | rfl | hdigit) | rfl
    iterate 3 decide
    · exact not_breaks_of_isSome (isSome_hexValue?_of_mem hdigit)
    · decide

theorem encode_append (cs rest : List Char) :
    encode cs ++ rest = '"' :: (cs.flatMap escape ++ '"' :: rest) := by
  simp [encode]

theorem encode_append_inj {cs ds rest rest' : List Char}
    (h : encode cs ++ rest = encode ds ++ rest') : cs = ds ∧ rest = rest' := by
  rw [encode_append, encode_append] at h
  replace h := (List.cons.inj h).2
  induction cs generalizing ds with
  | nil =>
    cases ds with
    | nil => exact ⟨rfl, (List.cons.inj h).2⟩
    | cons d ds =>
      rw [List.flatMap_cons, List.append_assoc] at h
      exact absurd (congrArg List.head? h).symm ((writes_escape d).head?_ne _)
  | cons c cs ih =>
    rw [List.flatMap_cons, List.append_assoc] at h
    cases ds with
    | nil => exact absurd (congrArg List.head? h) ((writes_escape c).head?_ne _)
    | cons d ds =>
      rw [List.flatMap_cons, List.append_assoc] at h
      obtain ⟨rfl, hmore⟩ := (writes_escape c).append_inj (writes_escape d) h
      obtain ⟨rfl, hrest⟩ := ih hmore
      exact ⟨rfl, hrest⟩

theorem toList_quote (s : String) : (quote s).toList = encode s.toList := String.toList_ofList

theorem quote_inj {s t : String} (h : quote s = quote t) : s = t := by
  have hencode := congrArg String.toList h
  rw [toList_quote, toList_quote, ← List.append_nil (encode _),
    ← List.append_nil (encode t.toList)] at hencode
  exact String.toList_inj.mp (encode_append_inj hencode).1

theorem unbroken_quote (s : String) : Unbroken (quote s) := by
  intro c hc
  rw [toList_quote, encode] at hc
  simp only [List.cons_append, List.mem_cons, List.mem_append, List.mem_flatMap, List.not_mem_nil,
    or_false] at hc
  rcases hc with rfl | ⟨d, -, hc⟩ | rfl
  · decide
  · exact (writes_escape d).not_breaks c hc
  · decide

end Quoted

end Gatehouse.Text

import Gatehouse.Text.Hex
import Mathlib.Data.List.Basic

/-! Reading hexadecimal digits undoes writing them, in either case, and groups of digits are told by
the marks between them. -/

namespace Gatehouse.Text

theorem hexValue?_digitChar {d : Nat} (h : d < 16) : hexValue? d.digitChar.toNat = some d := by
  have hall : ∀ digit : Fin 16, hexValue? digit.val.digitChar.toNat = some digit.val := by decide
  exact hall ⟨d, h⟩

theorem mapM_hexValue?_hexDigits (n : Nat) :
    ∃ values, (hexDigits n).mapM (fun c => hexValue? c.toNat) = some values ∧
      values.foldl (fun m value => 16 * m + value) 0 = n := by
  induction n using Nat.strongRecOn with
  | ind n ih =>
    by_cases hsmall : n < 16
    · refine ⟨[n], ?_, by simp⟩
      rw [hexDigits, Nat.toDigits_of_lt_base hsmall, List.mapM_cons, List.mapM_nil,
        hexValue?_digitChar hsmall]
      rfl
    · obtain ⟨values, hvalues, hfold⟩ := ih (n / 16) (by omega)
      refine ⟨values ++ [n % 16], ?_, ?_⟩
      · rw [hexDigits] at hvalues ⊢
        rw [Nat.toDigits_of_base_le (by decide) (by omega), List.mapM_append, hvalues,
          List.mapM_cons, List.mapM_nil, hexValue?_digitChar (by omega)]
        rfl
      · rw [List.foldl_append, hfold, List.foldl_cons, List.foldl_nil]
        omega

theorem isSome_hexValue?_of_mem {n : Nat} {c : Char} (h : c ∈ hexDigits n) :
    (hexValue? c.toNat).isSome = true := by
  induction n using Nat.strongRecOn with
  | ind n ih =>
    rw [hexDigits, Nat.toDigits_eq_if (by decide)] at h
    split at h
    · rw [List.mem_singleton.mp h, hexValue?_digitChar (by assumption)]
      rfl
    · rcases List.mem_append.mp h with hfront | hlast
      · exact ih (n / 16) (by omega) hfront
      · rw [List.mem_singleton.mp hlast, hexValue?_digitChar (by omega)]
        rfl

theorem hexDigits_ne_nil (n : Nat) : hexDigits n ≠ [] := Nat.toDigits_ne_nil

theorem toNat_digitChar_lt {d : Nat} (h : d < 16) : d.digitChar.toNat < 128 := by
  have hall : ∀ digit : Fin 16, digit.val.digitChar.toNat < 128 := by decide
  exact hall ⟨d, h⟩

theorem toNat_lt_of_toLower_eq {c lower : Char} (h : c.toLower = lower)
    (hlower : lower.toNat < 128) : c.toNat < 128 := by
  by_contra hlarge
  have hupper : ¬(c.val ≥ 'A'.val ∧ c.val ≤ 'Z'.val) := by
    rintro ⟨-, hz⟩
    have hle : c.toNat ≤ 'Z'.toNat := UInt32.le_iff_toNat_le.mp hz
    exact hlarge (Nat.lt_of_le_of_lt hle (by decide))
  unfold Char.toLower at h
  rw [dif_neg hupper] at h
  exact hlarge (h ▸ hlower)

theorem hexValue?_eq_some_iff {c : Char} {d : Nat} :
    hexValue? c.toNat = some d ↔ d < 16 ∧ c.toLower = d.digitChar := by
  have hall : ∀ code : Fin 128, ∀ d : Fin 16,
      hexValue? code = some d.val ↔ (Char.ofNat code).toLower = d.val.digitChar := by
    decide +kernel
  constructor
  · intro h
    have hd := hexValue?_lt h
    have hc : c.toNat < 128 := by
      by_contra hlarge
      have hnone : hexValue? c.toNat = none := by
        unfold hexValue?
        rw [if_neg (by omega), if_neg (by omega), if_neg (by omega)]
      exact absurd (hnone.symm.trans h) (by simp)
    refine ⟨hd, ?_⟩
    have hlower := (hall ⟨c.toNat, hc⟩ ⟨d, hd⟩).mp h
    rwa [Char.ofNat_toNat] at hlower
  · rintro ⟨hd, hlower⟩
    have hc := toNat_lt_of_toLower_eq hlower (toNat_digitChar_lt hd)
    apply (hall ⟨c.toNat, hc⟩ ⟨d, hd⟩).mpr
    rwa [Char.ofNat_toNat]

theorem octet?_eq_some_iff {high low : Char} {b : UInt8} :
    octet? high.toNat low.toNat = some b ↔
      high.toLower = (b.toNat / 16).digitChar ∧ low.toLower = (b.toNat % 16).digitChar := by
  have hb := b.toNat_lt
  constructor
  · intro h
    obtain ⟨upper, hupper, h⟩ := Option.bind_eq_some_iff.mp h
    obtain ⟨lower, hlower, h⟩ := Option.bind_eq_some_iff.mp h
    obtain ⟨hu, hhigh⟩ := hexValue?_eq_some_iff.mp hupper
    obtain ⟨hl, hlow⟩ := hexValue?_eq_some_iff.mp hlower
    have hvalue : b.toNat = 16 * upper + lower := by
      have hsum : (16 * upper + lower) % 256 = 16 * upper + lower := Nat.mod_eq_of_lt (by omega)
      rw [← Option.some.inj h, UInt8.toNat_ofNat', hsum]
    have hdiv : b.toNat / 16 = upper := by omega
    have hmod : b.toNat % 16 = lower := by omega
    rw [hdiv, hmod]
    exact ⟨hhigh, hlow⟩
  · rintro ⟨hhigh, hlow⟩
    have hupper : hexValue? high.toNat = some (b.toNat / 16) :=
      hexValue?_eq_some_iff.mpr ⟨by omega, hhigh⟩
    have hlower : hexValue? low.toNat = some (b.toNat % 16) :=
      hexValue?_eq_some_iff.mpr ⟨by omega, hlow⟩
    have hsum : UInt8.ofNat (16 * (b.toNat / 16) + b.toNat % 16) = b := by
      rw [Nat.div_add_mod, UInt8.ofNat_toNat]
    rw [octet?, hupper, hlower]
    exact congrArg some hsum

theorem of_mem_intercalate {c mark : Char} {pieces : List (List Char)}
    (h : c ∈ [mark].intercalate pieces) : c = mark ∨ ∃ piece ∈ pieces, c ∈ piece := by
  induction pieces with
  | nil => cases h
  | cons piece more ih =>
    cases more with
    | nil => exact .inr ⟨piece, List.mem_singleton_self _, by simpa using h⟩
    | cons next more =>
      rw [List.intercalate_cons_cons, List.append_assoc, List.mem_append] at h
      rcases h with h | h
      · exact .inr ⟨piece, List.mem_cons_self, h⟩
      · rcases List.mem_cons.mp h with rfl | h
        · exact .inl rfl
        · exact (ih h).imp_right fun ⟨other, hother, hc⟩ =>
            ⟨other, List.mem_cons_of_mem _ hother, hc⟩

end Gatehouse.Text

import Gatehouse.Gate
import Gatehouse.Proofs.Text.Hex
import Gatehouse.Proofs.Text.Utf8
import Mathlib.Algebra.GroupWithZero.Nat
import Mathlib.Data.List.SplitLengths

/-! Which texts the UUID rules let through. Each form that can be read is related to how it is
written, digits in either case; of the four only the hyphenated one has the length that the rules
ask for, and version and variant stand in it at fixed places. -/

namespace Gatehouse

namespace Uuid

def digits (octets : List UInt8) : List Char :=
  octets.flatMap fun b => [(b.toNat / 16).digitChar, (b.toNat % 16).digitChar]

def simple (u : Uuid) : List Char := digits u.octets.toList

def hyphenated (u : Uuid) : List Char :=
  ['-'].intercalate (([4, 2, 2, 2, 6].splitLengths u.octets.toList).map digits)

def Spells (form cs : List Char) : Prop := cs.map Char.toLower = form

/-- Whether characters are a UUID in one of the forms that are read and never let through. -/
def SpelledOtherwise (u : Uuid) (cs : List Char) : Prop :=
  Spells u.simple cs ∨
    (∃ inner, cs = '\x7b' :: (inner ++ ['\x7d']) ∧ Spells u.hyphenated inner) ∨
    ∃ name, cs = "urn:uuid:".toList ++ name ∧ Spells u.hyphenated name

theorem spells_append_iff {form more cs : List Char} :
    Spells (form ++ more) cs ↔
      ∃ front rest, cs = front ++ rest ∧ Spells form front ∧ Spells more rest :=
  List.map_eq_append_iff

theorem spells_cons_iff {c : Char} {form cs : List Char} :
    Spells (c :: form) cs ↔ ∃ d rest, cs = d :: rest ∧ d.toLower = c ∧ Spells form rest :=
  List.map_eq_cons_iff

theorem spells_nil_iff {cs : List Char} : Spells [] cs ↔ cs = [] := List.map_eq_nil_iff

theorem eq_hyphen {c : Char} : c.toLower = '-' ↔ c = '-' := by
  have hall : ∀ code : Fin 128, (Char.ofNat code).toLower = '-' → Char.ofNat code = '-' := by
    decide +kernel
  constructor
  · intro h
    have hc : c.toNat < 128 := Text.toNat_lt_of_toLower_eq h (by decide)
    have hsame := hall ⟨c.toNat, hc⟩
    rw [Char.ofNat_toNat] at hsame
    exact hsame h
  · rintro rfl
    rfl

theorem digits_cons (b : UInt8) (octets : List UInt8) :
    digits (b :: octets) =
      (b.toNat / 16).digitChar :: (b.toNat % 16).digitChar :: digits octets := rfl

theorem readOctets_eq_some_iff {n : Nat} {cs rest : List Char} {octets : List UInt8} :
    readOctets n cs = some (octets, rest) ↔
      octets.length = n ∧ ∃ front, cs = front ++ rest ∧ Spells (digits octets) front := by
  induction n generalizing cs octets with
  | zero =>
    simp only [readOctets, Option.some.injEq, Prod.mk.injEq, List.length_eq_zero_iff]
    constructor
    · rintro ⟨rfl, rfl⟩
      exact ⟨rfl, [], rfl, rfl⟩
    · rintro ⟨rfl, front, rfl, hfront⟩
      rw [spells_nil_iff.mp hfront]
      exact ⟨rfl, rfl⟩
  | succ n ih =>
    constructor
    · intro h
      match cs, h with
      | high :: low :: cs, h =>
        obtain ⟨b, hb, h⟩ := Option.bind_eq_some_iff.mp h
        obtain ⟨⟨more, rest'⟩, hmore, h⟩ := Option.bind_eq_some_iff.mp h
        obtain ⟨rfl, rfl⟩ := Prod.mk.inj (Option.some.inj h)
        obtain ⟨hlength, front, rfl, hfront⟩ := ih.mp hmore
        obtain ⟨hhigh, hlow⟩ := Text.octet?_eq_some_iff.mp hb
        have hpair : Spells (digits (b :: more)) (high :: low :: front) := by
          apply spells_cons_iff.mpr
          exact ⟨high, _, rfl, hhigh, spells_cons_iff.mpr ⟨low, _, rfl, hlow, hfront⟩⟩
        exact ⟨by rw [List.length_cons, hlength], high :: low :: front, rfl, hpair⟩
    · rintro ⟨hlength, front, rfl, hfront⟩
      obtain ⟨b, more, rfl⟩ := List.exists_cons_of_length_eq_add_one hlength
      rw [digits_cons] at hfront
      obtain ⟨high, front', rfl, hhigh, hfront⟩ := spells_cons_iff.mp hfront
      obtain ⟨low, front, rfl, hlow, hfront⟩ := spells_cons_iff.mp hfront
      have hmore : readOctets n (front ++ rest) = some (more, rest) :=
        ih.mpr ⟨Nat.succ.inj hlength, front, rfl, hfront⟩
      have hb := Text.octet?_eq_some_iff.mpr ⟨hhigh, hlow⟩
      simp only [List.cons_append, readOctets, hb, hmore]
      rfl

theorem splitLengths_append {front more : List UInt8} {n : Nat} (h : front.length = n)
    (sizes : List Nat) :
    (n :: sizes).splitLengths (front ++ more) = front :: sizes.splitLengths more := by
  rw [List.splitLengths_cons, List.take_left' h, List.drop_left' h]

theorem readGroups_cons {n m : Nat} {sizes : List Nat} {cs rest : List Char}
    {octets : List UInt8} :
    readGroups (n :: m :: sizes) cs = some (octets, rest) ↔
      ∃ first behind more, readOctets n cs = some (first, '-' :: behind) ∧
        readGroups (m :: sizes) behind = some (more, rest) ∧ octets = first ++ more := by
  constructor
  · intro h
    obtain ⟨⟨first, mark⟩, hfirst, h⟩ := Option.bind_eq_some_iff.mp h
    split at h
    · next _ behind heq =>
      obtain ⟨rfl, rfl⟩ := Prod.mk.inj heq
      obtain ⟨⟨more, rest'⟩, hmore, h⟩ := Option.bind_eq_some_iff.mp h
      obtain ⟨rfl, rfl⟩ := Prod.mk.inj (Option.some.inj h)
      exact ⟨_, behind, more, hfirst, hmore, rfl⟩
    · cases h
  · rintro ⟨first, behind, more, hfirst, hmore, rfl⟩
    simp [readGroups, hfirst, hmore]

theorem readGroups_eq_some_iff {n : Nat} {sizes : List Nat} {cs rest : List Char}
    {octets : List UInt8} :
    readGroups (n :: sizes) cs = some (octets, rest) ↔
      octets.length = (n :: sizes).sum ∧ ∃ front, cs = front ++ rest ∧
        Spells (['-'].intercalate (((n :: sizes).splitLengths octets).map digits)) front := by
  induction sizes generalizing n cs octets with
  | nil =>
    rw [readGroups, readOctets_eq_some_iff, List.sum_singleton]
    refine and_congr_right fun h => ?_
    have hone : [n].splitLengths octets = [octets] := by
      rw [List.splitLengths_cons, List.splitLengths_nil, List.take_of_length_le h.le]
    rw [hone, List.map_singleton, List.intercalate_singleton]
  | cons m sizes ih =>
    have hsplit {first more : List UInt8} (h : first.length = n) :
        ['-'].intercalate (((n :: m :: sizes).splitLengths (first ++ more)).map digits) =
          digits first ++
            ('-' :: ['-'].intercalate (((m :: sizes).splitLengths more).map digits)) := by
      rw [splitLengths_append h, List.splitLengths_cons, List.map_cons, List.map_cons,
        List.intercalate_cons_cons, List.append_assoc]
      rfl
    rw [readGroups_cons, List.sum_cons]
    constructor
    · rintro ⟨first, behind, more, hfirst, hmore, rfl⟩
      obtain ⟨hn, front, rfl, hfront⟩ := readOctets_eq_some_iff.mp hfirst
      obtain ⟨hlength, back, rfl, hback⟩ := ih.mp hmore
      refine ⟨by rw [List.length_append, hn, hlength], front ++ '-' :: back, by simp, ?_⟩
      rw [hsplit hn]
      apply spells_append_iff.mpr
      exact ⟨front, _, rfl, hfront, spells_cons_iff.mpr ⟨'-', back, rfl, rfl, hback⟩⟩
    · rintro ⟨hlength, text, rfl, htext⟩
      have hn : (octets.take n).length = n := by
        rw [List.length_take]
        omega
      rw [← List.take_append_drop n octets, hsplit hn] at htext
      obtain ⟨front, _, rfl, hfront, htext⟩ := spells_append_iff.mp htext
      obtain ⟨mark, back, rfl, hmark, hback⟩ := spells_cons_iff.mp htext
      obtain rfl := eq_hyphen.mp hmark
      refine ⟨octets.take n, back ++ rest, octets.drop n, ?_, ?_,
        (List.take_append_drop n octets).symm⟩
      · exact readOctets_eq_some_iff.mpr ⟨hn, front, by simp, hfront⟩
      · refine ih.mpr ⟨?_, back, rfl, hback⟩
        rw [List.length_drop, hlength, Nat.add_sub_cancel_left]

theorem ofReading?_eq_some_iff {octets : List UInt8} {rest : List Char} {u : Uuid} :
    ofReading? (octets, rest) = some u ↔ rest = [] ∧ octets = u.octets.toList := by
  obtain ⟨⟨bytes, hsize⟩⟩ := u
  unfold ofReading?
  cases rest with
  | cons c rest => simp
  | nil =>
    by_cases h : octets.toArray.size = 16
    · simp only [dif_pos h, Option.some.injEq, Uuid.mk.injEq, Vector.mk.injEq, true_and]
      constructor
      · rintro rfl
        rfl
      · rintro rfl
        rfl
    · simp only [dif_neg h, reduceCtorEq, true_and, false_iff]
      rintro rfl
      exact h hsize

theorem bind_ofReading?_eq_some_iff {reading : Option (List UInt8 × List Char)} {u : Uuid} :
    reading.bind ofReading? = some u ↔ reading = some (u.octets.toList, []) := by
  constructor
  · intro h
    obtain ⟨⟨octets, rest⟩, hreading, h⟩ := Option.bind_eq_some_iff.mp h
    obtain ⟨rfl, rfl⟩ := ofReading?_eq_some_iff.mp h
    exact hreading
  · rintro rfl
    exact ofReading?_eq_some_iff.mpr ⟨rfl, rfl⟩

theorem simple?_eq_some_iff {cs : List Char} {u : Uuid} :
    simple? cs = some u ↔ Spells u.simple cs := by
  rw [simple?, bind_ofReading?_eq_some_iff, readOctets_eq_some_iff]
  simp [simple]

theorem hyphenated?_eq_some_iff {cs : List Char} {u : Uuid} :
    hyphenated? cs = some u ↔ Spells u.hyphenated cs := by
  rw [hyphenated?, bind_ofReading?_eq_some_iff, groupSizes, readGroups_eq_some_iff]
  simp [hyphenated]

theorem braced?_eq_some_iff {cs : List Char} {u : Uuid} :
    braced? cs = some u ↔
      ∃ inner, cs = '\x7b' :: (inner ++ ['\x7d']) ∧ Spells u.hyphenated inner := by
  constructor
  · intro h
    unfold braced? at h
    split at h
    · next behind =>
      split at h
      · next hlast =>
        obtain ⟨inner, rfl⟩ := List.getLast?_eq_some_iff.mp hlast
        rw [List.dropLast_concat] at h
        exact ⟨inner, rfl, hyphenated?_eq_some_iff.mp h⟩
      · cases h
    · cases h
  · rintro ⟨inner, rfl, hinner⟩
    rw [braced?, List.getLast?_concat, if_pos rfl, List.dropLast_concat]
    exact hyphenated?_eq_some_iff.mpr hinner

theorem urn?_eq_some_iff {cs : List Char} {u : Uuid} :
    urn? cs = some u ↔ ∃ name, cs = urnMark ++ name ∧ Spells u.hyphenated name := by
  constructor
  · intro h
    unfold urn? at h
    split at h
    · next hmark =>
      obtain ⟨name, rfl⟩ := List.isPrefixOf_iff_prefix.mp hmark
      rw [List.drop_left] at h
      exact ⟨name, rfl, hyphenated?_eq_some_iff.mp h⟩
    · cases h
  · rintro ⟨name, rfl, hname⟩
    have hmark : urnMark.isPrefixOf (urnMark ++ name) = true :=
      List.isPrefixOf_iff_prefix.mpr (List.prefix_append urnMark name)
    rw [urn?, if_pos hmark, List.drop_left]
    exact hyphenated?_eq_some_iff.mpr hname

theorem length_digits (octets : List UInt8) : (digits octets).length = 2 * octets.length := by
  induction octets with
  | nil => rfl
  | cons b octets ih =>
    rw [digits_cons, List.length_cons, List.length_cons, ih, List.length_cons]
    omega

theorem length_simple (u : Uuid) : u.simple.length = 32 := by
  rw [simple, length_digits, Vector.length_toList]

theorem length_hyphenated (u : Uuid) : u.hyphenated.length = 36 := by
  simp [hyphenated, List.splitLengths_cons, List.intercalate_cons_cons, length_digits]

theorem of_mem_digits {octets : List UInt8} {c : Char} (h : c ∈ digits octets) :
    ∃ d < 16, c = d.digitChar := by
  obtain ⟨b, -, h⟩ := List.mem_flatMap.mp h
  have hb := b.toNat_lt
  simp only [List.mem_cons, List.not_mem_nil, or_false] at h
  rcases h with rfl | rfl
  · exact ⟨_, by omega, rfl⟩
  · exact ⟨_, by omega, rfl⟩

theorem of_mem_hyphenated {u : Uuid} {c : Char} (h : c ∈ u.hyphenated) :
    c = '-' ∨ ∃ d < 16, c = d.digitChar := by
  rcases Text.of_mem_intercalate h with rfl | ⟨piece, hpiece, hc⟩
  · exact .inl rfl
  · obtain ⟨group, -, rfl⟩ := List.mem_map.mp hpiece
    exact .inr (of_mem_digits hc)

theorem ascii_of_spells {form cs : List Char} (h : Spells form cs)
    (hform : ∀ c ∈ form, c = '-' ∨ ∃ d < 16, c = d.digitChar) : ∀ c ∈ cs, c.toNat < 128 := by
  intro c hc
  have hmem : c.toLower ∈ form := h ▸ List.mem_map_of_mem hc
  apply Text.toNat_lt_of_toLower_eq rfl
  rcases hform _ hmem with hhyphen | ⟨d, hd, hdigit⟩
  · rw [hhyphen]
    decide
  · rw [hdigit]
    exact Text.toNat_digitChar_lt hd

theorem length_of_spells {form cs : List Char} (h : Spells form cs) : cs.length = form.length := by
  rw [← h, List.length_map]

theorem simple_ascii {u : Uuid} {cs : List Char} (h : Spells u.simple cs) :
    ∀ c ∈ cs, c.toNat < 128 := ascii_of_spells h fun _ hc => .inr (of_mem_digits hc)

theorem hyphenated_ascii {u : Uuid} {cs : List Char} (h : Spells u.hyphenated cs) :
    ∀ c ∈ cs, c.toNat < 128 := ascii_of_spells h fun _ hc => of_mem_hyphenated hc

theorem length_encode_of_hyphenated {u : Uuid} {s : String} (h : Spells u.hyphenated s.toList) :
    (Text.Utf8.encode s).length = hyphenatedLength := by
  rw [Text.Utf8.length_encode_of_ascii (hyphenated_ascii h), length_of_spells h, length_hyphenated,
    hyphenatedLength]

theorem parse?_eq_some_iff {s : String} {u : Uuid} :
    parse? s = some u ↔ Spells u.hyphenated s.toList ∨ u.SpelledOtherwise s.toList := by
  unfold parse?
  constructor
  · intro h
    split at h
    · exact .inr (.inl (simple?_eq_some_iff.mp h))
    · exact .inl (hyphenated?_eq_some_iff.mp h)
    · exact .inr (.inr (.inl (braced?_eq_some_iff.mp h)))
    · exact .inr (.inr (.inr (urn?_eq_some_iff.mp h)))
    · cases h
  · rintro (h | h | ⟨inner, hs, h⟩ | ⟨name, hs, h⟩)
    · simp only [length_encode_of_hyphenated h, hyphenatedLength]
      exact hyphenated?_eq_some_iff.mpr h
    · have hlength : (Text.Utf8.encode s).length = 32 := by
        rw [Text.Utf8.length_encode_of_ascii (simple_ascii h), length_of_spells h, length_simple]
      simp only [hlength]
      exact simple?_eq_some_iff.mpr h
    · have hascii : ∀ c ∈ s.toList, c.toNat < 128 := by
        rw [hs]
        simp only [List.forall_mem_cons, List.forall_mem_append]
        exact ⟨by decide, hyphenated_ascii h, by decide, List.forall_mem_nil _⟩
      have hlength : (Text.Utf8.encode s).length = 38 := by
        rw [Text.Utf8.length_encode_of_ascii hascii, hs]
        simp [length_of_spells h, length_hyphenated]
      simp only [hlength]
      exact braced?_eq_some_iff.mpr ⟨inner, hs, h⟩
    · have hmark : ∀ c ∈ "urn:uuid:".toList, c.toNat < 128 := by simp
      have hascii : ∀ c ∈ s.toList, c.toNat < 128 := by
        rw [hs]
        exact List.forall_mem_append.mpr ⟨hmark, hyphenated_ascii h⟩
      have hlength : (Text.Utf8.encode s).length = 45 := by
        rw [Text.Utf8.length_encode_of_ascii hascii, hs, List.length_append, length_of_spells h,
          length_hyphenated]
        rfl
      simp only [hlength]
      exact urn?_eq_some_iff.mpr ⟨name, hs, h⟩

theorem length_ne_of_spelledOtherwise {u : Uuid} {cs : List Char} (h : u.SpelledOtherwise cs) :
    cs.length ≠ hyphenatedLength := by
  rcases h with h | ⟨inner, rfl, h⟩ | ⟨name, rfl, h⟩
  · rw [length_of_spells h, length_simple]
    decide
  · have hlength : ('\x7b' :: (inner ++ ['\x7d'])).length = inner.length + 2 := by simp
    rw [hlength, length_of_spells h, length_hyphenated]
    decide
  · rw [List.length_append, length_of_spells h, length_hyphenated]
    decide +kernel

theorem parse?_of_length {s : String} (h : (Text.Utf8.encode s).length = hyphenatedLength) :
    parse? s = hyphenated? s.toList := by
  unfold parse?
  simp only [h, hyphenatedLength]

theorem Rule.accepts_iff {rule : Rule} {s : String} :
    rule.accepts s = true ↔ ∃ u, Spells u.hyphenated s.toList ∧ rule.admits u = true := by
  rw [accepts, Bool.and_eq_true, beq_iff_eq, Option.any_eq_true]
  constructor
  · rintro ⟨hlength, u, hparse, hadmits⟩
    rw [parse?_of_length hlength] at hparse
    exact ⟨u, hyphenated?_eq_some_iff.mp hparse, hadmits⟩
  · rintro ⟨u, hspells, hadmits⟩
    have hlength := length_encode_of_hyphenated hspells
    refine ⟨hlength, u, ?_, hadmits⟩
    rw [parse?_of_length hlength]
    exact hyphenated?_eq_some_iff.mpr hspells

theorem Rule.slash_not_mem {rule : Rule} {s : String} (h : rule.accepts s = true) :
    '/' ∉ s.toList := by
  intro hslash
  obtain ⟨u, hspells, -⟩ := accepts_iff.mp h
  have hmem : '/' ∈ u.hyphenated := by
    rw [← hspells]
    exact List.mem_map_of_mem hslash
  have hdigit : ∀ d < 16, '/' ≠ d.digitChar := by decide
  obtain hhyphen | ⟨d, hd, heq⟩ := of_mem_hyphenated hmem
  · exact absurd hhyphen (by decide)
  · exact hdigit d hd heq

theorem toNat_version (u : Uuid) : u.version.toNat = (u.octets.get ⟨6, by decide⟩).toNat / 16 := by
  have hshift : (4 : UInt8).toNat % 8 = 4 := rfl
  rw [version, UInt8.toNat_shiftRight, hshift, Nat.shiftRight_eq_div_pow]
  rfl

theorem shiftRight_six_eq_iff (b : UInt8) : b >>> 6 = 2 ↔ b.toNat / 16 / 4 = 2 := by
  have hshift : (6 : UInt8).toNat % 8 = 6 := rfl
  have htwo : (2 : UInt8).toNat = 2 := rfl
  rw [← UInt8.toNat_inj, UInt8.toNat_shiftRight, hshift, htwo, Nat.shiftRight_eq_div_pow,
    Nat.div_div_eq_div_mul]

theorem mem_digits_iff {c : Char} {d : Nat} (hd : d < 16) (h : c.toLower = d.digitChar) :
    (c ∈ "12345".toList ↔ 1 ≤ d ∧ d ≤ 5) ∧ (c ∈ "89abAB".toList ↔ d / 4 = 2) := by
  have hall : ∀ code : Fin 128, ∀ d : Fin 16, (Char.ofNat code).toLower = d.val.digitChar →
      (Char.ofNat code ∈ "12345".toList ↔ 1 ≤ d.val ∧ d.val ≤ 5) ∧
        (Char.ofNat code ∈ "89abAB".toList ↔ d.val / 4 = 2) := by
    decide +kernel
  have hc : c.toNat < 128 := Text.toNat_lt_of_toLower_eq h (Text.toNat_digitChar_lt hd)
  have hchar := hall ⟨c.toNat, hc⟩ ⟨d, hd⟩
  rw [Char.ofNat_toNat] at hchar
  exact hchar h

theorem hyphenated_marks (u : Uuid) :
    u.hyphenated[14]? = some ((u.octets.get ⟨6, by decide⟩).toNat / 16).digitChar ∧
      u.hyphenated[19]? = some ((u.octets.get ⟨8, by decide⟩).toNat / 16).digitChar := by
  obtain ⟨⟨bytes, hsize⟩⟩ := u
  obtain ⟨bytes⟩ := bytes
  match bytes, hsize with
  | [a, b, c, d, e, f, g, h, i, j, k, l, m, n, o, p], _ => exact ⟨rfl, rfl⟩

theorem exists_of_spells {form cs : List Char} {n : Nat} {d : Char} (h : Spells form cs)
    (hd : form[n]? = some d) : ∃ c, cs[n]? = some c ∧ c.toLower = d := by
  rw [← h, List.getElem?_map] at hd
  exact Option.map_eq_some_iff.mp hd

theorem admits_rfc4122_iff {u : Uuid} {cs : List Char} (h : Spells u.hyphenated cs) :
    Rule.rfc4122.admits u = true ↔ (∃ c ∈ "12345".toList, cs[14]? = some c) ∧
      ∃ c ∈ "89abAB".toList, cs[19]? = some c := by
  have h6 := (u.octets.get ⟨6, by decide⟩).toNat_lt
  have h8 := (u.octets.get ⟨8, by decide⟩).toNat_lt
  obtain ⟨c, hc, hcdigit⟩ := exists_of_spells h u.hyphenated_marks.1
  obtain ⟨d, hd, hddigit⟩ := exists_of_spells h u.hyphenated_marks.2
  have hversion := (mem_digits_iff (by omega) hcdigit).1
  have hvariant := (mem_digits_iff (by omega) hddigit).2
  simp only [Rule.admits, isRfc4122, Bool.and_eq_true, beq_iff_eq, decide_eq_true_eq,
    UInt8.le_iff_toNat_le, toNat_version, shiftRight_six_eq_iff, hc, hd, Option.some.injEq,
    exists_eq_right', hversion, hvariant]
  constructor
  · rintro ⟨⟨h1, h2⟩, h3⟩
    exact ⟨⟨h2, h3⟩, h1⟩
  · rintro ⟨⟨h2, h3⟩, h1⟩
    exact ⟨⟨h1, h2⟩, h3⟩

namespace Rule

theorem accepts_eq_false_of_spelledOtherwise {s : String} {u : Uuid}
    (h : u.SpelledOtherwise s.toList) (rule : Rule) : rule.accepts s = false := by
  rw [Bool.eq_false_iff]
  intro haccepts
  obtain ⟨v, hspells, -⟩ := accepts_iff.mp haccepts
  apply length_ne_of_spelledOtherwise h
  rw [length_of_spells hspells, length_hyphenated, hyphenatedLength]

theorem spells_unique {u v : Uuid} {cs : List Char} (hu : Spells u.hyphenated cs)
    (hv : Spells v.hyphenated cs) : u = v := by
  have hread := (hyphenated?_eq_some_iff.mpr hu).symm.trans (hyphenated?_eq_some_iff.mpr hv)
  exact Option.some.inj hread

/-- What each rule lets through, in bytes and in characters, and that the gates refuse the rest with
the text as it came; the other forms that can be read are never let through. -/
theorem accepts_grammar (s : String) :
    (any.accepts s = true ↔ ∃ u : Uuid, Spells u.hyphenated s.toList) ∧
    (∀ u v : Uuid, Spells u.hyphenated s.toList → Spells v.hyphenated s.toList → u = v) ∧
    (rfc4122.accepts s = true ↔ ∃ u : Uuid, Spells u.hyphenated s.toList ∧
      u.octets.get ⟨8, by decide⟩ >>> 6 = 2 ∧
        (1 : UInt8) ≤ u.octets.get ⟨6, by decide⟩ >>> 4 ∧ u.octets.get ⟨6, by decide⟩ >>> 4 ≤ 5) ∧
    (rfc4122.accepts s = true ↔ (∃ u : Uuid, Spells u.hyphenated s.toList) ∧
      (∃ c ∈ "12345".toList, s.toList[14]? = some c) ∧
      ∃ c ∈ "89abAB".toList, s.toList[19]? = some c) ∧
    (∀ n, (version n).accepts s = true ↔ ∃ u : Uuid, Spells u.hyphenated s.toList ∧
      u.octets.get ⟨8, by decide⟩ >>> 6 = 2 ∧ u.octets.get ⟨6, by decide⟩ >>> 4 = n) ∧
    (∀ u, parse? s = some u ↔ Spells u.hyphenated s.toList ∨ u.SpelledOtherwise s.toList) ∧
    (∀ u : Uuid, u.SpelledOtherwise s.toList → ∀ rule : Rule, rule.accepts s = false) ∧
    (∀ rule, ((Gate.uuid rule).pass s).refusal =
      if rule.accepts s = true then none else some ⟨"UUID", s⟩) ∧
    validateUuid s = if rfc4122.accepts s = true then .ok s else .error ⟨"UUID", s⟩ := by
  refine ⟨?_, fun u v => spells_unique, ?_, ?_, fun n => ?_, fun u => parse?_eq_some_iff,
    fun u => accepts_eq_false_of_spelledOtherwise, fun rule => ?_, rfl⟩
  · simp [accepts_iff, admits]
  · simp only [accepts_iff, admits, Bool.and_eq_true, decide_eq_true_eq, isRfc4122, beq_iff_eq,
      and_assoc]
    rfl
  · rw [accepts_iff]
    constructor
    · rintro ⟨u, hspells, hadmits⟩
      exact ⟨⟨u, hspells⟩, (admits_rfc4122_iff hspells).mp hadmits⟩
    · rintro ⟨⟨u, hspells⟩, hdigits⟩
      exact ⟨u, hspells, (admits_rfc4122_iff hspells).mpr hdigits⟩
  · simp only [accepts_iff, admits, Bool.and_eq_true, isRfc4122, beq_iff_eq]
    rfl
  · cases h : rule.accepts s <;> simp [Gate.uuid, Gate.refuseIf, Gate.ofObjection, Gate.pass, h]

end Rule

end Uuid

end Gatehouse

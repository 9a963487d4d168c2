import Gatehouse.Proofs.Text.Decimal
import Gatehouse.Proofs.Text.Slice
import Gatehouse.Settings.Load
import Mathlib.Data.List.TakeWhile

/-! Lifetimes. What is read is a numeral with a unit behind it, its number of milliseconds exact and
below the bound of 64 bits. Cutting the text by bytes and counting in words comes to the same:
every cut is between two characters, and each operation that would overflow is found out before. -/

namespace Gatehouse

namespace Duration

open Text Text.Decimal

def units : List (String × Nat) :=
  [("", 1), ("ms", 1), ("s", 1000), ("m", 60 * 1000), ("h", 60 * 60 * 1000),
    ("d", 24 * 60 * 60 * 1000), ("w", 7 * 24 * 60 * 60 * 1000)]

def Written (s : String) (n unit : Nat) : Prop :=
  ∃ digits name, s.toList = digits ++ String.toList name ∧ digits ≠ [] ∧
    (∀ c ∈ digits, '0' ≤ c ∧ c ≤ '9') ∧ (name, unit) ∈ units ∧
    n = Nat.ofDigits 10 (digits.reverse.map fun c => c.toNat - '0'.toNat)

def digits (s : String) : List Char := s.toList.takeWhile isDigit

def unitName (s : String) : String := String.ofList (s.toList.dropWhile isDigit)

theorem unitMillis?_eq_some_iff {name : String} {unit : Nat} :
    unitMillis? name = some unit ↔ (name, unit) ∈ units := by
  constructor
  · unfold unitMillis?
    split <;> intro h <;> cases h <;> decide
  · intro h
    simp only [units, List.mem_cons, Prod.mk.injEq, List.not_mem_nil, or_false] at h
    rcases h with ⟨rfl, rfl⟩ | ⟨rfl, rfl⟩ | ⟨rfl, rfl⟩ | ⟨rfl, rfl⟩ | ⟨rfl, rfl⟩ | ⟨rfl, rfl⟩ |
      ⟨rfl, rfl⟩ <;> rfl

theorem takeWhile_unit {name : String} {unit : Nat} (h : (name, unit) ∈ units) :
    name.toList.takeWhile isDigit = [] := by
  have hall : ∀ entry ∈ units, (String.toList entry.1).takeWhile isDigit = [] := by decide
  exact hall (name, unit) h

theorem written_iff {s : String} {n unit : Nat} : Written s n unit ↔
    Decimal.parse? (digits s) = some n ∧ unitMillis? (unitName s) = some unit := by
  rw [parse?_eq_some_iff, unitMillis?_eq_some_iff]
  constructor
  · rintro ⟨run, name, hs, hne, hdigits, hunit, rfl⟩
    have hall : ∀ c ∈ run, isDigit c = true := fun c hc => isDigit_iff.mpr (hdigits c hc)
    have hrun : digits s = run := by
      rw [digits, hs, List.takeWhile_append_of_pos hall, takeWhile_unit hunit, List.append_nil]
    have hname : unitName s = name := by
      rw [unitName, hs, List.dropWhile_append_of_pos hall, ← String.toList_inj,
        String.toList_ofList]
      have hsplit := List.takeWhile_append_dropWhile (p := isDigit) (l := name.toList)
      rwa [takeWhile_unit hunit, List.nil_append] at hsplit
    rw [hrun, hname]
    exact ⟨⟨hne, hall, value_eq_ofDigits run⟩, hunit⟩
  · rintro ⟨⟨hne, hall, rfl⟩, hunit⟩
    refine ⟨digits s, unitName s, ?_, hne, fun c hc => isDigit_iff.mp (hall c hc), hunit,
      value_eq_ofDigits _⟩
    rw [unitName, String.toList_ofList, digits, List.takeWhile_append_dropWhile]

theorem ofMillis?_eq_some_iff {millis : Nat} {d : Duration} :
    ofMillis? millis = some d ↔ millis < UInt64.size ∧ d.millis = millis := by
  obtain ⟨count, fits⟩ := d
  by_cases h : millis < UInt64.size <;> simp [ofMillis?, h, eq_comm]

theorem parse?_eq_some_iff {s : String} {d : Duration} : parse? s = some d ↔
    ∃ n unit, Written s n unit ∧ n < UInt64.size ∧ n * unit < UInt64.size ∧
      d.millis = n * unit := by
  simp only [parse?, Option.bind_eq_bind, Option.bind_eq_some_iff, written_iff, digits, unitName,
    Option.ite_none_right_eq_some, ofMillis?_eq_some_iff]
  constructor
  · rintro ⟨n, hn, unit, hunit, hfits, hmillis⟩
    exact ⟨n, unit, ⟨hn, hunit⟩, hfits, hmillis⟩
  · rintro ⟨n, unit, ⟨hn, hunit⟩, hfits, hmillis⟩
    exact ⟨n, hn, unit, hunit, hfits, hmillis⟩

theorem parse?_eq_none_iff {s : String} : parse? s = none ↔
    ¬∃ n unit, Written s n unit ∧ n < UInt64.size ∧ n * unit < UInt64.size := by
  rw [Option.eq_none_iff_forall_ne_some]
  constructor
  · rintro hnone ⟨n, unit, hwritten, hn, hfits⟩
    exact hnone ⟨n * unit, hfits⟩ (parse?_eq_some_iff.mpr ⟨n, unit, hwritten, hn, hfits, rfl⟩)
  · intro hnone d hd
    obtain ⟨n, unit, hwritten, hn, hfits, -⟩ := parse?_eq_some_iff.mp hd
    exact hnone ⟨n, unit, hwritten, hn, hfits⟩

theorem Written.unique {s : String} {n unit n' unit' : Nat} (h : Written s n unit)
    (h' : Written s n' unit') : n = n' ∧ unit = unit' := by
  obtain ⟨hn, hunit⟩ := written_iff.mp h
  obtain ⟨hn', hunit'⟩ := written_iff.mp h'
  exact ⟨Option.some_inj.mp (hn.symm.trans hn'), Option.some_inj.mp (hunit.symm.trans hunit')⟩

theorem read_eq (key value : String) :
    read key value = (parse? value).elim (.error (.invalidDuration key value)) .ok := by
  rw [read]
  cases parse? value <;> rfl

/-! ### The same in bytes and words -/

def maxWord : UInt64 := UInt64.ofNat (UInt64.size - 1)

def plus? (a b : UInt64) : Option UInt64 :=
  if a ≤ a + b then some (a + b) else none

def times? (a b : UInt64) : Option UInt64 :=
  if b = 0 ∨ a ≤ maxWord / b then some (a * b) else none

def append? (n : UInt64) (c : Char) : Option UInt64 := do
  let tens ← times? n 10
  plus? tens (UInt64.ofNat (c.toNat - '0'.toNat))

def count? (numeral name : String) : Option UInt64 := do
  guard (numeral ≠ "")
  let amount ← numeral.toList.foldlM append? 0
  let unit ← unitMillis? name
  times? amount (UInt64.ofNat unit)

/-- Reads a lifetime by cutting it at the byte behind its digits and counting in words. A cut inside
a character would be an error. -/
def readWords (s : String) : Except BrokenCut (Option UInt64) := do
  let place := byteLength (digits s)
  let numeral ← slice s.toList 0 place
  let name ← slice s.toList place (byteLength s.toList)
  return count? numeral name

theorem plus?_eq_some_iff {a b c : UInt64} : plus? a b = some c ↔ a.toNat + b.toNat = c.toNat := by
  have ha := a.toNat_lt_size
  have hb := b.toNat_lt_size
  have hc := c.toNat_lt_size
  have htest : a ≤ a + b ↔ a.toNat + b.toNat < UInt64.size := by
    rw [UInt64.le_iff_toNat_le, UInt64.toNat_add]
    simp only [UInt64.size] at *
    omega
  rw [plus?, Option.ite_none_right_eq_some, Option.some_inj, htest, ← UInt64.toNat_inj,
    UInt64.toNat_add]
  simp only [UInt64.size] at *
  omega

theorem times?_eq_some_iff {a b c : UInt64} :
    times? a b = some c ↔ a.toNat * b.toNat = c.toNat := by
  have hc := c.toNat_lt_size
  have htest : b = 0 ∨ a ≤ maxWord / b ↔ a.toNat * b.toNat < UInt64.size := by
    by_cases hb : b = 0
    · have hzero : a.toNat * b.toNat < UInt64.size := by
        rw [hb]
        exact Nat.zero_lt_of_lt hc
      exact iff_of_true (.inl hb) hzero
    · have hpos : 0 < b.toNat := Nat.pos_of_ne_zero fun hzero => hb (UInt64.toNat_inj.mp hzero)
      have hmax : maxWord.toNat = UInt64.size - 1 := rfl
      rw [or_iff_right hb, UInt64.le_iff_toNat_le, UInt64.toNat_div, hmax,
        Nat.le_div_iff_mul_le hpos, Nat.le_sub_one_iff_lt (by decide)]
  rw [times?, Option.ite_none_right_eq_some, Option.some_inj, htest, ← UInt64.toNat_inj,
    UInt64.toNat_mul]
  constructor
  · rintro ⟨hfits, heq⟩
    rwa [Nat.mod_eq_of_lt hfits] at heq
  · intro heq
    rw [heq]
    exact ⟨hc, Nat.mod_eq_of_lt hc⟩

theorem append?_eq_some_iff {n m : UInt64} {c : Char} (hc : isDigit c = true) :
    append? n c = some m ↔ 10 * n.toNat + (c.toNat - '0'.toNat) = m.toNat := by
  have hdigit : c.toNat - '0'.toNat < UInt64.size :=
    Nat.lt_of_le_of_lt (Nat.sub_le_sub_right (toNat_of_isDigit hc).2 48) (by decide)
  have hm := m.toNat_lt_size
  simp only [append?, Option.bind_eq_bind, Option.bind_eq_some_iff, plus?_eq_some_iff,
    times?_eq_some_iff, UInt64.toNat_ofNat_of_lt' hdigit]
  constructor
  · rintro ⟨tens, htens, hsum⟩
    rw [Nat.mul_comm, ← hsum, ← htens]
    rfl
  · intro heq
    have htens : 10 * n.toNat < UInt64.size := by omega
    refine ⟨UInt64.ofNat (10 * n.toNat), ?_, ?_⟩
    · rw [UInt64.toNat_ofNat_of_lt' htens, Nat.mul_comm]
      rfl
    · rw [UInt64.toNat_ofNat_of_lt' htens, heq]

/-- A numeral is counted in words up to the first digit that they cannot take. The number only
grows, so that this happens exactly where the whole number is too large. -/
theorem foldlM_append?_eq_some_iff {run : List Char} (h : ∀ c ∈ run, isDigit c = true)
    {m : UInt64} : run.foldlM append? 0 = some m ↔ value run = m.toNat := by
  induction run using List.reverseRecOn generalizing m with
  | nil => exact Option.some_inj.trans UInt64.toNat_inj.symm
  | append_singleton run c ih =>
    obtain ⟨hrun, hc⟩ := List.forall_mem_append.mp h
    simp only [List.foldlM_append, List.foldlM_cons, List.foldlM_nil, bind_pure,
      Option.bind_eq_bind, Option.bind_eq_some_iff, ih hrun, value_concat,
      append?_eq_some_iff (hc c (List.mem_singleton_self c))]
    constructor
    · rintro ⟨front, hfront, heq⟩
      rw [hfront, heq]
    · intro heq
      have hm := m.toNat_lt_size
      have hfits : value run < UInt64.size := by omega
      refine ⟨UInt64.ofNat (value run), ?_, ?_⟩ <;> rw [UInt64.toNat_ofNat_of_lt' hfits]
      exact heq

theorem toNat_ofNat_unit {name : String} {unit : Nat} (h : unitMillis? name = some unit) :
    (UInt64.ofNat unit).toNat = unit := by
  have hall : ∀ entry ∈ units, (UInt64.ofNat entry.2).toNat = entry.2 := by decide
  exact hall (name, unit) (unitMillis?_eq_some_iff.mp h)

theorem count?_eq_some_iff {numeral name : String} (h : ∀ c ∈ numeral.toList, isDigit c = true)
    {m : UInt64} : count? numeral name = some m ↔
      ∃ n unit, Decimal.parse? numeral.toList = some n ∧ unitMillis? name = some unit ∧
        n < UInt64.size ∧ n * unit = m.toNat := by
  simp only [count?, guard, Option.pure_def, Option.failure_eq_none, Option.bind_eq_bind,
    Option.bind_eq_some_iff, Option.ite_none_right_eq_some, Decimal.parse?_eq_some_iff,
    foldlM_append?_eq_some_iff h, times?_eq_some_iff]
  constructor
  · rintro ⟨-, ⟨hne, -⟩, amount, hamount, unit, hunit, hm⟩
    rw [toNat_ofNat_unit hunit] at hm
    have hdigits : numeral.toList ≠ [] := fun hnil => hne (String.toList_eq_nil_iff.mp hnil)
    exact ⟨amount.toNat, unit, ⟨hdigits, h, hamount⟩, hunit, amount.toNat_lt_size, hm⟩
  · rintro ⟨_, unit, ⟨hdigits, -, rfl⟩, hunit, hn, hm⟩
    have hne : numeral ≠ "" := fun hempty => hdigits (String.toList_eq_nil_iff.mpr hempty)
    have hamount := UInt64.toNat_ofNat_of_lt' hn
    refine ⟨(), ⟨hne, trivial⟩, UInt64.ofNat (value numeral.toList), hamount.symm, unit, hunit, ?_⟩
    rwa [hamount, toNat_ofNat_unit hunit]

def word (d : Duration) : UInt64 := UInt64.ofNatLT d.millis d.fits

theorem map_word_eq_some_iff {s : String} {m : UInt64} : (parse? s).map word = some m ↔
    ∃ n unit, Written s n unit ∧ n < UInt64.size ∧ n * unit = m.toNat := by
  simp only [Option.map_eq_some_iff, parse?_eq_some_iff, word, ← UInt64.toNat_inj,
    UInt64.toNat_ofNatLT]
  constructor
  · rintro ⟨d, ⟨n, unit, hwritten, hn, -, hmillis⟩, hm⟩
    exact ⟨n, unit, hwritten, hn, hmillis.symm.trans hm⟩
  · rintro ⟨n, unit, hwritten, hn, hm⟩
    have hfits : n * unit < UInt64.size := hm ▸ m.toNat_lt_size
    exact ⟨⟨n * unit, hfits⟩, ⟨n, unit, hwritten, hn, hfits, rfl⟩, hm⟩

/-- No cut is inside a character, and no operation wraps around where the reading gives a word. -/
theorem readWords_eq (s : String) : readWords s = .ok ((parse? s).map word) := by
  have hs : digits s ++ s.toList.dropWhile isDigit = s.toList :=
    List.takeWhile_append_dropWhile
  have hfront := slice_front (digits s) (s.toList.dropWhile isDigit)
  have hback := slice_back (digits s) (s.toList.dropWhile isDigit)
  have hrun : ∀ c ∈ (String.ofList (digits s)).toList, isDigit c = true := by
    rw [String.toList_ofList]
    exact fun c hc => List.mem_takeWhile_imp hc
  rw [hs] at hfront hback
  rw [readWords, hfront, hback]
  refine congrArg Except.ok (Option.ext fun m => ?_)
  rw [map_word_eq_some_iff, ← unitName, count?_eq_some_iff hrun, String.toList_ofList]
  simp only [written_iff, and_assoc]

/-- A value is a lifetime exactly when it is a numeral with a unit behind it that is below the bound
as it stands and in milliseconds; it then lasts just so long, and it is written in no second way.
Every other value is refused together with its key. Counted in words it is the same. -/
theorem read_exact (key value : String) :
    (∀ d, read key value = .ok d ↔ ∃ n unit, Written value n unit ∧ n < UInt64.size ∧
      n * unit < UInt64.size ∧ d.millis = n * unit) ∧
    (∀ e, read key value = .error e ↔ e = .invalidDuration key value ∧
      ¬∃ n unit, Written value n unit ∧ n < UInt64.size ∧ n * unit < UInt64.size) ∧
    (∀ n unit n' unit', Written value n unit → Written value n' unit' → n = n' ∧ unit = unit') ∧
    readWords value = .ok ((read key value).toOption.map word) := by
  refine ⟨fun d => ?_, fun e => ?_, fun _ _ _ _ => Written.unique, ?_⟩
  · rw [read_eq, ← parse?_eq_some_iff]
    cases parse? value <;> simp
  · rw [read_eq, ← parse?_eq_none_iff]
    cases parse? value <;> simp [eq_comm]
  · rw [readWords_eq, read_eq]
    cases parse? value <;> rfl

example : (parse? "30500568904w").isSome = true ∧ parse? "30500568905w" = none := by
  decide

end Duration

end Gatehouse

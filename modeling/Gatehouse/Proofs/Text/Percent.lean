import Gatehouse.Proofs.Text.Hex
import Gatehouse.Proofs.Text.Mended
import Gatehouse.Text.Percent

/-! Percent-decoding as a relation. Bytes decode to exactly one text of bytes, each escape taken
where the pass from left to right comes to it; and however bytes are spelled with escapes, they
decode to what was spelled, an escape that they spell among them left as it is. -/

namespace Gatehouse.Text.Percent

def Escapes (b : UInt8) (bytes : Bytes) : Prop :=
  ∃ high low : Char, high.toLower = (b.toNat / 16).digitChar ∧
    low.toLower = (b.toNat % 16).digitChar ∧
    bytes = ['%', high, low].map fun c => UInt8.ofNat c.toNat

def Opens (raw : Bytes) : Prop := ∃ b triplet, Escapes b triplet ∧ triplet <+: raw

/-- One pass over bytes. An escape becomes its byte; a byte that opens no escape stays. -/
inductive Decodes : Bytes → Bytes → Prop
  | nil : Decodes [] []
  | escape {b : UInt8} {triplet raw bytes : Bytes} (h : Escapes b triplet)
    (hrest : Decodes raw bytes) : Decodes (triplet ++ raw) (b :: bytes)
  | copy {b : UInt8} {raw bytes : Bytes} (h : ¬Opens (b :: raw)) (hrest : Decodes raw bytes) :
    Decodes (b :: raw) (b :: bytes)

/-- Bytes as they can be spelled: any of them as an escape, and each that is no `%` also as it
stands. -/
inductive Spells : Bytes → Bytes → Prop
  | nil : Spells [] []
  | plain {b : UInt8} {raw bytes : Bytes} (h : b ≠ sign) (hrest : Spells raw bytes) :
    Spells (b :: raw) (b :: bytes)
  | escape {b : UInt8} {triplet raw bytes : Bytes} (h : Escapes b triplet)
    (hrest : Spells raw bytes) : Spells (triplet ++ raw) (b :: bytes)

theorem toNat_ofNat_digit {c : Char} {d : Nat} (hd : d < 16) (h : c.toLower = d.digitChar) :
    (UInt8.ofNat c.toNat).toNat = c.toNat := by
  have hc := toNat_lt_of_toLower_eq h (toNat_digitChar_lt hd)
  rw [UInt8.toNat_ofNat']
  exact Nat.mod_eq_of_lt (by omega)

theorem triplet?_eq_some_iff {first high low b : UInt8} :
    triplet? first high low = some b ↔ Escapes b [first, high, low] := by
  rw [triplet?, Option.ite_none_right_eq_some]
  constructor
  · rintro ⟨rfl, h⟩
    have hpair : octet? (Char.ofUInt8 high).toNat (Char.ofUInt8 low).toNat = some b := h
    obtain ⟨hhigh, hlow⟩ := octet?_eq_some_iff.mp hpair
    have hchar : ∀ byte : UInt8, UInt8.ofNat (Char.ofUInt8 byte).toNat = byte :=
      fun byte => UInt8.ofNat_toNat
    refine ⟨Char.ofUInt8 high, Char.ofUInt8 low, hhigh, hlow, ?_⟩
    rw [List.map_cons, List.map_cons, List.map_cons, hchar, hchar]
    rfl
  · rintro ⟨highDigit, lowDigit, hhigh, hlow, hbytes⟩
    cases hbytes
    have hb := b.toNat_lt
    refine ⟨rfl, ?_⟩
    rw [toNat_ofNat_digit (by omega) hhigh, toNat_ofNat_digit (by omega) hlow]
    exact octet?_eq_some_iff.mpr ⟨hhigh, hlow⟩

theorem Escapes.eq_triplet {b : UInt8} {bytes : Bytes} (h : Escapes b bytes) :
    ∃ high low, bytes = [sign, high, low] := by
  obtain ⟨high, low, -, -, rfl⟩ := h
  exact ⟨_, _, rfl⟩

theorem Opens.exists_triplet {raw : Bytes} (h : Opens raw) :
    ∃ high low rest, raw = sign :: high :: low :: rest ∧ triplet? sign high low ≠ none := by
  obtain ⟨b, triplet, hescapes, rest, rfl⟩ := h
  obtain ⟨high, low, rfl⟩ := hescapes.eq_triplet
  refine ⟨high, low, rest, rfl, ?_⟩
  rw [triplet?_eq_some_iff.mpr hescapes]
  exact Option.some_ne_none b

theorem decode_escape {b : UInt8} {triplet : Bytes} (h : Escapes b triplet) (raw : Bytes) :
    decode (triplet ++ raw) = b :: decode raw := by
  obtain ⟨high, low, rfl⟩ := h.eq_triplet
  change decode (sign :: high :: low :: raw) = _
  rw [decode, triplet?_eq_some_iff.mpr h]

theorem decode_copy {b : UInt8} {raw : Bytes} (h : ¬Opens (b :: raw)) :
    decode (b :: raw) = b :: decode raw := by
  match raw, h with
  | [], _ => rfl
  | [_], _ => rfl
  | high :: low :: rest, h =>
    have hnone : triplet? b high low = none := by
      refine Option.eq_none_iff_forall_ne_some.mpr fun other hother => h ?_
      exact ⟨other, _, triplet?_eq_some_iff.mp hother, rest, rfl⟩
    rw [decode, hnone]

theorem Decodes.decode_eq {raw bytes : Bytes} (h : Decodes raw bytes) : decode raw = bytes := by
  induction h with
  | nil => rfl
  | escape h hrest ih => rw [decode_escape h, ih]
  | copy h hrest ih => rw [decode_copy h, ih]

theorem decodes_decode (raw : Bytes) : Decodes raw (decode raw) := by
  -- Three bytes are an escape or none, or too few are left for one.
  fun_induction decode raw with
  | case1 first high low rest b h ih => exact .escape (triplet?_eq_some_iff.mp h) ih
  | case2 first high low rest hnone ih =>
    refine .copy (fun hopens => ?_) ih
    obtain ⟨high', low', rest', heq, hsome⟩ := hopens.exists_triplet
    cases heq
    exact hsome hnone
  | case3 b rest hfew ih =>
    refine .copy (fun hopens => ?_) ih
    obtain ⟨high, low, rest', heq, -⟩ := hopens.exists_triplet
    cases heq
    exact hfew _ _ _ rfl
  | case4 => exact .nil

theorem decodes_iff {raw bytes : Bytes} : Decodes raw bytes ↔ bytes = decode raw :=
  ⟨fun h => h.decode_eq.symm, fun h => h ▸ decodes_decode raw⟩

theorem decodeText?_eq_some_iff {segment text : String} :
    decodeText? segment = some text ↔ Decodes (Utf8.encode segment) (Utf8.encode text) := by
  rw [decodes_iff, decodeText?]
  constructor
  · intro h
    exact (Utf8.decode?_eq_some h).symm
  · intro h
    rw [← h, Utf8.decode?_encode]

theorem Spells.decodes {raw bytes : Bytes} (h : Spells raw bytes) : Decodes raw bytes := by
  induction h with
  | nil => exact .nil
  | plain h hrest ih =>
    refine .copy (fun hopens => ?_) ih
    obtain ⟨high, low, rest, heq, -⟩ := hopens.exists_triplet
    exact h (List.cons_eq_cons.mp heq).1
  | escape h hrest ih => exact .escape h ih

end Gatehouse.Text.Percent

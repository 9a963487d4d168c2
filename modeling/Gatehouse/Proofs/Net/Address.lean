import Gatehouse.Net.Address
import Gatehouse.Proofs.Text.Decimal
import Gatehouse.Proofs.Text.Hex
import Mathlib.Data.List.TakeWhile

/-! Every address reads back from its printed form. The text falls into its groups at the marks
between them, and the one gap that printing may leave is where reading cuts. -/

namespace Gatehouse.Net

open Text

namespace V4

theorem part?_digits (part : UInt8) : part? (Decimal.digits part.toNat) = some part := by
  rw [part?, Decimal.parse?_digits, Option.bind_eq_bind, Option.bind_some,
    if_pos ⟨part.toNat_lt, rfl⟩, UInt8.ofNat_toNat]

def pieces (address : V4) : List (List Char) :=
  address.toList.map fun part => Decimal.digits part.toNat

theorem toList_render (address : V4) :
    address.render.toList = ['.'].intercalate address.pieces := by
  rw [render, String.toList_intercalate, List.map_map, pieces]
  congr 1
  refine List.map_congr_left fun part _ => ?_
  rw [Function.comp, Nat.toString_eq_repr, Nat.toList_repr]
  rfl

theorem not_mem_pieces {address : V4} {c : Char} (hc : Decimal.isDigit c = false)
    {piece : List Char} (h : piece ∈ address.pieces) : c ∉ piece := by
  obtain ⟨part, -, rfl⟩ := List.mem_map.mp h
  intro hmem
  exact Bool.noConfusion (hc.symm.trans (Decimal.isDigit_of_mem_digits hmem))

theorem not_mem_render {address : V4} {c : Char} (hdot : c ≠ '.')
    (hc : Decimal.isDigit c = false) : c ∉ address.render.toList := by
  rw [toList_render]
  intro hmem
  rcases of_mem_intercalate hmem with h | ⟨piece, hpiece, h⟩
  · exact hdot h
  · exact not_mem_pieces hc hpiece h

theorem splitOn_render (address : V4) : address.render.toList.splitOn '.' = address.pieces := by
  rw [toList_render]
  exact List.splitOn_intercalate '.' (fun piece hpiece => not_mem_pieces (by decide) hpiece)
    (List.cons_ne_nil _ _)

theorem parse?_render (address : V4) : parse? address.render.toList = some address := by
  rw [parse?, splitOn_render]
  simp only [pieces, toList, List.map_cons, List.map_nil, part?_digits]
  rfl

theorem parse?_of_not_mem {cs : List Char} (h : '.' ∉ cs) : parse? cs = none := by
  rw [parse?, List.splitOn_eq_singleton h]

end V4

namespace V6

def joinGroups (groups : List UInt16) : List Char :=
  [':'].intercalate (groups.map fun g => hexDigits g.toNat)

theorem toList_renderGroups (groups : List UInt16) :
    (renderGroups groups).toList = joinGroups groups := by
  rw [renderGroups, String.toList_intercalate, List.map_map, joinGroups]
  congr 1
  exact List.map_congr_left fun g _ => String.toList_ofList

theorem not_mem_hexDigits {c : Char} (hc : hexValue? c.toNat = none) (n : Nat) :
    c ∉ hexDigits n := by
  intro hmem
  have hsome := isSome_hexValue?_of_mem hmem
  rw [hc] at hsome
  cases hsome

theorem group?_hexDigits (g : UInt16) : group? (hexDigits g.toNat) = some g := by
  obtain ⟨values, hvalues, hfold⟩ := mapM_hexValue?_hexDigits g.toNat
  have hlength : (hexDigits g.toNat).length ≤ 4 :=
    (Nat.length_toDigits_le_iff (by decide) (by decide)).mpr g.toNat_lt
  have hshort : ((hexDigits g.toNat).isEmpty || 4 < (hexDigits g.toNat).length) = false := by
    rw [Bool.or_eq_false_iff, decide_eq_false_iff_not]
    exact ⟨List.isEmpty_eq_false_iff.mpr (hexDigits_ne_nil _), by omega⟩
  rw [group?, hshort, hvalues, Option.bind_eq_bind, Option.bind_some, hfold]
  exact congrArg some (UInt16.ofNat_toNat)

theorem lastGroups?_hexDigits (g : UInt16) : lastGroups? (hexDigits g.toNat) = some [g] := by
  rw [lastGroups?, V4.parse?_of_not_mem (not_mem_hexDigits (by decide) _), group?_hexDigits]
  rfl

theorem groupsOfPieces?_map (groups : List UInt16) :
    groupsOfPieces? (groups.map fun g => hexDigits g.toNat) = some groups := by
  induction groups with
  | nil => rfl
  | cons g groups ih =>
    cases groups with
    | nil => exact lastGroups?_hexDigits g
    | cons h groups =>
      rw [List.map_cons] at ih ⊢
      rw [List.map_cons, groupsOfPieces?, group?_hexDigits, ih]
      · rfl
      · exact List.cons_ne_nil _ _

theorem mapM_group? (groups : List UInt16) :
    (groups.map fun g => hexDigits g.toNat).mapM group? = some groups := by
  induction groups with
  | nil => rfl
  | cons g groups ih =>
    rw [List.map_cons, List.mapM_cons, group?_hexDigits, ih]
    rfl

theorem splitOn_joinGroups {groups : List UInt16} (h : groups ≠ []) :
    (joinGroups groups).splitOn ':' = groups.map fun g => hexDigits g.toNat := by
  refine List.splitOn_intercalate ':' (fun piece hpiece => ?_) (by simpa using h)
  obtain ⟨g, -, rfl⟩ := List.mem_map.mp hpiece
  exact not_mem_hexDigits (by decide) _

theorem joinGroups_cons_cons (g h : UInt16) (groups : List UInt16) :
    joinGroups (g :: h :: groups) = hexDigits g.toNat ++ ':' :: joinGroups (h :: groups) := by
  rw [joinGroups, List.map_cons, List.map_cons, List.intercalate_cons_cons]
  simp [joinGroups]

theorem joinGroups_ne_nil {groups : List UInt16} (h : groups ≠ []) : joinGroups groups ≠ [] := by
  cases groups with
  | nil => exact absurd rfl h
  | cons g groups =>
    cases groups with
    | nil => simpa [joinGroups] using hexDigits_ne_nil g.toNat
    | cons h groups =>
      rw [joinGroups_cons_cons]
      exact List.append_ne_nil_of_right_ne_nil _ (List.cons_ne_nil _ _)

theorem head?_joinGroups_append (g : UInt16) (groups : List UInt16) (rest : List Char) :
    (joinGroups (g :: groups) ++ rest).head? ≠ some ':' := by
  obtain ⟨more, hmore⟩ : ∃ more, joinGroups (g :: groups) = hexDigits g.toNat ++ more := by
    cases groups with
    | nil => exact ⟨[], by simp [joinGroups]⟩
    | cons h groups => exact ⟨_, joinGroups_cons_cons g h groups⟩
  intro hhead
  rw [hmore, List.append_assoc, List.head?_append_of_ne_nil _ (hexDigits_ne_nil _)] at hhead
  exact not_mem_hexDigits (by decide) _ (List.mem_of_head? hhead)

theorem groups?_joinGroups (groups : List UInt16) : groups? (joinGroups groups) = some groups := by
  by_cases h : groups = []
  · rw [h]
    rfl
  · rw [groups?, if_neg (List.isEmpty_iff.not.mpr (joinGroups_ne_nil h)), splitOn_joinGroups h,
      groupsOfPieces?_map]

theorem frontGroups?_joinGroups (groups : List UInt16) :
    frontGroups? (joinGroups groups) = some groups := by
  by_cases h : groups = []
  · rw [h]
    rfl
  · rw [frontGroups?, if_neg (List.isEmpty_iff.not.mpr (joinGroups_ne_nil h)),
      splitOn_joinGroups h, mapM_group?]

theorem cutGap?_cons {c : Char} {cs : List Char} (h : c ≠ ':' ∨ cs.head? ≠ some ':') :
    cutGap? (c :: cs) = (cutGap? cs).map fun (front, back) => (c :: front, back) := by
  rw [cutGap?]
  rintro rest rfl rfl
  rcases h with h | h
  · exact h rfl
  · exact h rfl

theorem cutGap?_append {piece : List Char} (h : ':' ∉ piece) (rest : List Char) :
    cutGap? (piece ++ rest) =
      (cutGap? rest).map fun (front, back) => (piece ++ front, back) := by
  induction piece with
  | nil => exact Option.map_id'.symm
  | cons c piece ih =>
    obtain ⟨hc, hpiece⟩ := not_or.mp (List.mem_cons.not.mp h)
    rw [List.cons_append, cutGap?_cons (.inl (Ne.symm hc)), ih hpiece, Option.map_map]
    rfl

theorem cutGap?_joinGroups_append (groups : List UInt16) (rest : List Char) :
    cutGap? (joinGroups groups ++ rest) =
      (cutGap? rest).map fun (front, back) => (joinGroups groups ++ front, back) := by
  induction groups with
  | nil => exact cutGap?_append (List.not_mem_nil) rest
  | cons g groups ih =>
    have hg : ':' ∉ hexDigits g.toNat := not_mem_hexDigits (by decide) _
    cases groups with
    | nil =>
      have hone : joinGroups [g] = hexDigits g.toNat := List.intercalate_singleton
      rw [hone]
      exact cutGap?_append hg rest
    | cons h groups =>
      rw [joinGroups_cons_cons, List.append_assoc, cutGap?_append hg, List.cons_append,
        cutGap?_cons (.inr (head?_joinGroups_append h groups rest)), ih, Option.map_map,
        Option.map_map]
      congr 1
      funext ⟨front, back⟩
      simp

theorem cutGap?_joinGroups (groups : List UInt16) : cutGap? (joinGroups groups) = none := by
  have hcut := cutGap?_joinGroups_append groups []
  rwa [List.append_nil] at hcut

theorem cutGap?_gap (front back : List UInt16) :
    cutGap? (joinGroups front ++ ':' :: ':' :: joinGroups back) =
      some (joinGroups front, joinGroups back) := by
  rw [cutGap?_joinGroups_append]
  simp [cutGap?]

theorem ofGroups?_toList (address : V6) : ofGroups? address.groups.toList = some address := by
  obtain ⟨⟨groups, hsize⟩⟩ := address
  rw [ofGroups?]
  simp [hsize]

theorem eq_replicate_append (groups : List UInt16) :
    groups = List.replicate (leadingZeros groups) 0 ++ groups.dropWhile (· == 0) := by
  have hzeros : groups.takeWhile (· == 0) = List.replicate (leadingZeros groups) 0 :=
    List.eq_replicate_of_mem fun g hg =>
      eq_of_beq (List.mem_takeWhile_imp (p := fun g : UInt16 => g == 0) hg)
  rw [← hzeros, List.takeWhile_append_dropWhile]

theorem longestRun_eq (groups : List UInt16) :
    ∃ front back, groups = front ++ (List.replicate (longestRun groups).2 0 ++ back) ∧
      (longestRun groups).1 = front.length := by
  induction groups with
  | nil => exact ⟨[], [], rfl, rfl⟩
  | cons g groups ih =>
    rw [longestRun]
    split
    · exact ⟨[], _, eq_replicate_append (g :: groups), rfl⟩
    · obtain ⟨front, back, heq, hlength⟩ := ih
      exact ⟨g :: front, back, congrArg (g :: ·) heq, congrArg (· + 1) hlength⟩

theorem fillGap?_of_eq {address : V6} (front : List UInt16) {back : List UInt16} {n : Nat}
    (hn : 0 < n) (h : address.groups.toList = front ++ (List.replicate n 0 ++ back)) :
    fillGap? front back = some address := by
  have hlength : front.length + (n + back.length) = 8 := by
    have hall := congrArg List.length h
    simpa using hall.symm
  have hn' : 8 - (front.length + back.length) = n := by omega
  rw [fillGap?, if_pos (by omega), hn', List.append_assoc, ← h, ofGroups?_toList]

theorem joined_split (g : UInt16) : joined (g >>> 8).toUInt8 g.toUInt8 = g := by
  have hg : g.toNat < 65536 := g.toNat_lt
  have hhigh : ((g >>> 8).toUInt8).toNat = g.toNat / 256 := by
    rw [UInt16.toNat_toUInt8, UInt16.toNat_shiftRight]
    change g.toNat >>> 8 % 256 = _
    rw [Nat.shiftRight_eq_div_pow]
    omega
  rw [joined, hhigh, UInt16.toNat_toUInt8, Nat.div_add_mod, UInt16.ofNat_toNat]

theorem lastGroups?_render (address : V4) :
    lastGroups? address.render.toList =
      some [joined address.a address.b, joined address.c address.d] := by
  rw [lastGroups?, V4.parse?_render]

theorem mapped?_eq_some {address : V6} {mapped : V4} (h : address.mapped? = some mapped) :
    address.groups.toList =
      [0, 0, 0, 0, 0, 0xffff, joined mapped.a mapped.b, joined mapped.c mapped.d] := by
  unfold mapped? at h
  split at h
  · cases h
    rw [joined_split, joined_split]
    assumption
  · cases h

theorem groups?_mapped (address : V4) :
    groups? ('f' :: 'f' :: 'f' :: 'f' :: ':' :: address.render.toList) =
      some [0xffff, joined address.a address.b, joined address.c address.d] := by
  have hsplit : ('f' :: 'f' :: 'f' :: 'f' :: ':' :: address.render.toList).splitOn ':' =
      [['f', 'f', 'f', 'f'], address.render.toList] := by
    have hpieces : ∀ piece ∈ [['f', 'f', 'f', 'f'], address.render.toList], ':' ∉ piece := by
      intro piece hpiece
      rcases List.mem_pair.mp hpiece with rfl | rfl
      · decide
      · exact V4.not_mem_render (by decide) (by decide)
    have hjoined : 'f' :: 'f' :: 'f' :: 'f' :: ':' :: address.render.toList =
        [':'].intercalate [['f', 'f', 'f', 'f'], address.render.toList] := by
      simp [List.intercalate_cons_cons]
    rw [hjoined, List.splitOn_intercalate ':' hpieces (List.cons_ne_nil _ _)]
  have hgroup : group? ['f', 'f', 'f', 'f'] = some 0xffff := by decide
  rw [groups?, if_neg (by simp), hsplit, groupsOfPieces?, groupsOfPieces?, lastGroups?_render,
    hgroup]
  · rfl
  · exact List.cons_ne_nil _ _

theorem parse?_render (address : V6) : parse? address.render.toList = some address := by
  rw [render]
  cases hmapped : address.mapped? with
  | some mapped =>
    have htext : ("::ffff:" ++ mapped.render).toList =
        ':' :: ':' :: 'f' :: 'f' :: 'f' :: 'f' :: ':' :: mapped.render.toList := by
      rw [String.toList_append]
      rfl
    rw [htext, parse?, cutGap?]
    change (frontGroups? []).bind _ = _
    rw [show frontGroups? [] = some [] from rfl, Option.bind_some, groups?_mapped]
    exact fillGap?_of_eq [] (n := 5) (by decide) (mapped?_eq_some hmapped)
  | none =>
    obtain ⟨front, back, hgroups, hstart⟩ := longestRun_eq address.groups.toList
    dsimp only
    rw [hstart]
    generalize (longestRun address.groups.toList).2 = length at hgroups ⊢
    split
    · next hlength =>
      have hfront : address.groups.toList.take front.length = front := by
        rw [hgroups, List.take_left]
      have hback : address.groups.toList.drop (front.length + length) = back := by
        rw [hgroups]
        simp
      rw [hfront, hback, String.toList_append, String.toList_append, toList_renderGroups,
        toList_renderGroups, List.append_assoc, parse?,
        show "::".toList ++ joinGroups back = ':' :: ':' :: joinGroups back from rfl, cutGap?_gap]
      change (frontGroups? _).bind _ = _
      rw [frontGroups?_joinGroups, Option.bind_some, groups?_joinGroups]
      exact fillGap?_of_eq front (Nat.zero_lt_of_lt hlength) hgroups
    · rw [toList_renderGroups, parse?, cutGap?_joinGroups]
      change (groups? _).bind _ = _
      rw [groups?_joinGroups, Option.bind_some, ofGroups?_toList]

theorem not_mem_joinGroups {c : Char} (hcolon : c ≠ ':') (hc : hexValue? c.toNat = none)
    (groups : List UInt16) : c ∉ joinGroups groups := by
  intro hmem
  rcases of_mem_intercalate hmem with h | ⟨piece, hpiece, h⟩
  · exact hcolon h
  · obtain ⟨g, -, rfl⟩ := List.mem_map.mp hpiece
    exact not_mem_hexDigits hc _ h

theorem v4_parse?_mapped (address : V4) :
    V4.parse? ("::ffff:".toList ++ address.render.toList) = none := by
  have hjoined : "::ffff:".toList ++ address.render.toList =
      ['.'].intercalate (("::ffff:".toList ++ Decimal.digits address.a.toNat) ::
        address.pieces.tail) := by
    rw [V4.toList_render]
    simp [V4.pieces, V4.toList, List.intercalate_cons_cons]
  have hpieces : ∀ piece ∈ ("::ffff:".toList ++ Decimal.digits address.a.toNat) ::
      address.pieces.tail, '.' ∉ piece := by
    intro piece hpiece
    rcases List.mem_cons.mp hpiece with rfl | hpiece
    · have hmem : Decimal.digits address.a.toNat ∈ address.pieces := List.mem_cons_self
      rw [List.mem_append, not_or]
      exact ⟨by decide, V4.not_mem_pieces (by decide) hmem⟩
    · exact V4.not_mem_pieces (by decide) (List.mem_of_mem_tail hpiece)
  rw [V4.parse?, hjoined, List.splitOn_intercalate '.' hpieces (List.cons_ne_nil _ _)]
  rfl

theorem v4_parse?_render (address : V6) : V4.parse? address.render.toList = none := by
  rw [render]
  cases address.mapped? with
  | some mapped =>
    rw [String.toList_append]
    exact v4_parse?_mapped mapped
  | none =>
    refine V4.parse?_of_not_mem ?_
    have hgroups := not_mem_joinGroups (c := '.') (by decide) (by decide)
    dsimp only
    split
    · rw [String.toList_append, String.toList_append, toList_renderGroups, toList_renderGroups,
        List.mem_append, List.mem_append, not_or, not_or]
      exact ⟨⟨hgroups _, by decide⟩, hgroups _⟩
    · rw [toList_renderGroups]
      exact hgroups _

end V6

namespace Address

/-- Every address reads back from its printed form. -/
theorem parse?_render (address : Address) : parse? address.render = some address := by
  cases address with
  | v4 address => rw [parse?, render, V4.parse?_render]
  | v6 address =>
    rw [parse?, render, V6.v4_parse?_render, V6.parse?_render]
    rfl

theorem render_ne_empty (address : Address) : address.render ≠ "" := by
  intro hempty
  have hparse := parse?_render address
  have hnone : parse? "" = none := by decide
  rw [hempty, hnone] at hparse
  cases hparse

end Address

theorem port?_toString (port : UInt16) : port? (toString port.toNat) = some port := by
  rw [port?, Decimal.parseBelow?_toString port.toNat_lt]
  exact congrArg some UInt16.ofNat_toNat

theorem toString_port_ne_empty (port : UInt16) : toString port.toNat ≠ "" := by
  intro hempty
  have hport := port?_toString port
  have hnone : port? "" = none := by decide
  rw [hempty, hnone] at hport
  cases hport

end Gatehouse.Net

import Gatehouse.Http.Request
import Mathlib.Data.List.TakeWhile

/-! The segments of a path, all at once. Routes take them one by one from the front; here each step
is related to the whole list, so that a route can be told by the segments it asks for. -/

namespace Gatehouse.Http.Path

def segments (path : Path) : List (List Char) := path.splitOn '/'

def segment (path : Path) (n : Nat) : List Char := path.segments.getD n []

def endsAfter (path : Path) (n : Nat) : Prop :=
  path.segments.drop n = [] ∨ path.segments.drop n = [[]]

instance (path : Path) (n : Nat) : Decidable (path.endsAfter n) :=
  inferInstanceAs (Decidable (_ ∨ _))

def IsSegment (s : String) : Prop := ∀ c ∈ s.toList, c ≠ '/' ∧ isQueryMark c = false

instance (s : String) : Decidable (IsSegment s) := List.decidableBAll _ s.toList

theorem ne_slash_of_not_mem {cs : List Char} (h : '/' ∉ cs) : ∀ c ∈ cs, (c != '/') = true := by
  intro c hc
  rw [bne_iff_ne]
  rintro rfl
  exact h hc

theorem next_of_not_mem {path : Path} (h : '/' ∉ path) : path.next = (path, []) := by
  have hall := ne_slash_of_not_mem h
  rw [next, List.takeWhile_eq_self_iff.mpr hall, List.dropWhile_eq_nil_iff.mpr hall, List.drop_nil]

theorem next_append {first : List Char} (h : '/' ∉ first) (rest : List Char) :
    next (first ++ '/' :: rest) = (first, rest) := by
  have hall := ne_slash_of_not_mem h
  rw [next, List.takeWhile_append_of_pos hall, List.dropWhile_append_of_pos hall]
  simp

theorem segments_of_not_mem {path : Path} (h : '/' ∉ path) : path.segments = [path] :=
  List.splitOn_eq_singleton h

theorem segments_append {first : List Char} (h : '/' ∉ first) (rest : List Char) :
    segments (first ++ '/' :: rest) = first :: segments rest :=
  List.splitOn_append_cons_self_of_not_mem h rest

theorem segments_nil : segments [] = [[]] := List.splitOn_nil '/'

theorem segments_ne_nil (path : Path) : path.segments ≠ [] := List.splitOn_ne_nil '/' path

theorem eq_first_or_append (path : Path) :
    '/' ∉ path ∨ ∃ first rest, '/' ∉ first ∧ path = first ++ '/' :: rest := by
  by_cases h : '/' ∈ path
  · obtain ⟨first, rest, hpath, hfirst⟩ := List.eq_append_cons_of_mem h
    exact .inr ⟨first, rest, hfirst, hpath⟩
  · exact .inl h

theorem segment_zero (path : Path) : path.segment 0 = path.next.1 := by
  rcases eq_first_or_append path with h | ⟨first, rest, hfirst, rfl⟩
  · rw [segment, segments_of_not_mem h, next_of_not_mem h, List.getD_cons_zero]
  · rw [segment, segments_append hfirst, next_append hfirst, List.getD_cons_zero]

theorem segment_succ (path : Path) (n : Nat) : path.segment (n + 1) = path.next.2.segment n := by
  rcases eq_first_or_append path with h | ⟨first, rest, hfirst, rfl⟩
  · rw [segment, segments_of_not_mem h, next_of_not_mem h, segment, segments_nil]
    cases n <;> rfl
  · rw [segment, segments_append hfirst, next_append hfirst, List.getD_cons_succ, segment]

theorem endsAfter_zero (path : Path) : path.endsAfter 0 ↔ path = [] := by
  constructor
  · intro h
    rcases h with hnil | hblank
    · exact absurd hnil path.segments_ne_nil
    · rw [List.drop_zero, segments] at hblank
      have hjoin : ['/'].intercalate (path.splitOn '/') = path := List.intercalate_splitOn '/'
      rw [← hjoin, hblank]
      rfl
  · rintro rfl
    exact .inr segments_nil

theorem endsAfter_succ (path : Path) (n : Nat) :
    path.endsAfter (n + 1) ↔ path.next.2.endsAfter n := by
  rcases eq_first_or_append path with h | ⟨first, rest, hfirst, rfl⟩
  · rw [endsAfter, segments_of_not_mem h, next_of_not_mem h, endsAfter, segments_nil]
    cases n <;> simp
  · rw [endsAfter, segments_append hfirst, next_append hfirst, List.drop_succ_cons, endsAfter]

theorem segment_append_zero {first : List Char} (h : '/' ∉ first) (rest : Path) :
    segment (first ++ '/' :: rest) 0 = first := by
  rw [segment_zero, next_append h]

theorem segment_append_succ {first : List Char} (h : '/' ∉ first) (rest : Path) (n : Nat) :
    segment (first ++ '/' :: rest) (n + 1) = rest.segment n := by
  rw [segment_succ, next_append h]

theorem endsAfter_append_succ {first : List Char} (h : '/' ∉ first) (rest : Path) (n : Nat) :
    endsAfter (first ++ '/' :: rest) (n + 1) ↔ rest.endsAfter n := by
  rw [endsAfter_succ, next_append h]

theorem segment_eq_nil_of_endsAfter {path : Path} {m n : Nat} (h : path.endsAfter m)
    (hn : m ≤ n) : path.segment n = [] := by
  obtain ⟨k, rfl⟩ := Nat.exists_eq_add_of_le hn
  have hdrop : path.segment (m + k) = (path.segments.drop m).getD k [] := by
    rw [segment, List.getD_eq_getElem?_getD, List.getD_eq_getElem?_getD, List.getElem?_drop]
  obtain hnil | hblank := h
  · rw [hdrop, hnil, List.getD_nil]
  · rw [hdrop, hblank]
    cases k <;> rfl

theorem step?_eq (name : String) (path : Path) :
    path.step? name = if path.segment 0 = name.toList then some path.next.2 else none := by
  rw [step?, segment_zero]

theorem ofRequestTarget_slash (rest : List Char) :
    ofRequestTarget (String.ofList ('/' :: rest)) = rest.takeWhile fun c => !isQueryMark c := by
  simp [ofRequestTarget, ofTarget, isQueryMark]

end Gatehouse.Http.Path

import Gatehouse.Proofs.Http.Path

/-! From targets to paths. A query or a fragment leaves the path as it is, and one more slash behind
a path leaves the segments that routes look at. -/

namespace Gatehouse.Http.Path

def Unmarked (cs : List Char) : Prop := ∀ c ∈ cs, isQueryMark c = false

instance (cs : List Char) : Decidable (Unmarked cs) := List.decidableBAll _ cs

def IsTail (cs : List Char) : Prop := ∀ c, cs.head? = some c → isQueryMark c = true

def IsOrigin (cs : List Char) : Prop :=
  cs = [] ∨ ∃ scheme authority, cs = scheme ++ "://".toList ++ authority ∧
    (∀ c ∈ scheme, c ≠ ':' ∧ c ≠ '/' ∧ isQueryMark c = false) ∧
    ∀ c ∈ authority, c ≠ '/' ∧ isQueryMark c = false

def Open (path : Path) : Prop := path ≠ [] ∧ path.getLast? ≠ some '/'

def behindSlash : List Char → Path
  | '/' :: rest => rest
  | path => path

def read (target : List Char) : Path := behindSlash (ofTarget target)

theorem ofRequestTarget_eq (target : String) : ofRequestTarget target = read target.toList := rfl

theorem takeWhile_tail {base tail : List Char} (hbase : Unmarked base) (htail : IsTail tail) :
    (base ++ tail).takeWhile (fun c => !isQueryMark c) = base := by
  have hall : ∀ c ∈ base, (!isQueryMark c) = true := by
    intro c hc
    rw [hbase c hc]
    rfl
  rw [List.takeWhile_append_of_pos hall]
  cases tail with
  | nil => rw [List.takeWhile_nil, List.append_nil]
  | cons c tail =>
    have hmark : isQueryMark c = true := htail c rfl
    simp [hmark]

theorem isTail_nil : IsTail [] := nofun

theorem read_append {base tail : List Char} (hbase : Unmarked base) (htail : IsTail tail) :
    read (base ++ tail) = read base := by
  have hcut := takeWhile_tail hbase isTail_nil
  rw [List.append_nil] at hcut
  simp only [read, ofTarget, takeWhile_tail hbase htail, hcut]

theorem afterScheme?_mark (rest : List Char) :
    afterScheme? ("://".toList ++ rest) = some rest := rfl

theorem afterScheme?_cons {c : Char} {cs : List Char}
    (h : ∀ rest, c :: cs ≠ "://".toList ++ rest) : afterScheme? (c :: cs) = afterScheme? cs := by
  rw [afterScheme?]
  intro rest hc hcs
  exact h rest (by rw [hc, hcs]; rfl)

theorem afterScheme?_concat {cs : List Char} (h : cs.getLast? ≠ some '/') :
    afterScheme? (cs ++ ['/']) = (afterScheme? cs).map (· ++ ['/']) := by
  induction cs with
  | nil => rfl
  | cons c cs ih =>
    by_cases hmark : ∃ rest, c :: cs = "://".toList ++ rest
    · obtain ⟨rest, hrest⟩ := hmark
      rw [hrest, List.append_assoc, afterScheme?_mark, afterScheme?_mark, Option.map_some]
    · have hnot : ∀ rest, c :: cs ≠ "://".toList ++ rest := fun rest hrest => hmark ⟨rest, hrest⟩
      have hnotConcat : ∀ rest, c :: (cs ++ ['/']) ≠ "://".toList ++ rest := by
        intro rest hrest
        rw [← List.cons_append] at hrest
        obtain rfl | ⟨front, last, rfl⟩ := List.eq_nil_or_concat rest
        · obtain ⟨hcs, -⟩ := List.append_inj' (hrest.trans (by rfl : _ = [':', '/'] ++ ['/'])) rfl
          exact h (by rw [hcs]; rfl)
        · rw [List.concat_eq_append, ← List.append_assoc] at hrest
          exact hnot front (List.append_inj' hrest rfl).1
      rw [List.cons_append, afterScheme?_cons hnotConcat, afterScheme?_cons hnot]
      apply ih
      cases cs with
      | nil => nofun
      | cons d cs => rwa [List.getLast?_cons_cons] at h

theorem exists_of_afterScheme? {cs rest : List Char} (h : afterScheme? cs = some rest) :
    ∃ front, cs = front ++ ("://".toList ++ rest) := by
  induction cs with
  | nil => cases h
  | cons c cs ih =>
    by_cases hmark : ∃ rest, c :: cs = "://".toList ++ rest
    · obtain ⟨other, hother⟩ := hmark
      rw [hother, afterScheme?_mark] at h
      cases h
      exact ⟨[], hother⟩
    · rw [afterScheme?_cons fun rest hrest => hmark ⟨rest, hrest⟩] at h
      obtain ⟨front, rfl⟩ := ih h
      exact ⟨c :: front, rfl⟩

theorem read_slash {path : Path} (h : Unmarked ('/' :: path)) : read ('/' :: path) = path := by
  have hcut := takeWhile_tail h isTail_nil
  rw [List.append_nil] at hcut
  simp only [read, ofTarget, hcut, behindSlash]

theorem read_other {cs : List Char} (h : Unmarked cs) (hslash : cs.head? ≠ some '/')
    (hstar : cs ≠ ['*']) : read cs = ((afterScheme? cs).map fun rest => (next rest).2).getD [] := by
  have hcut := takeWhile_tail h isTail_nil
  rw [List.append_nil] at hcut
  unfold read ofTarget
  simp only [hcut]
  split
  · exact absurd rfl hslash
  · exact absurd rfl hstar
  · cases afterScheme? cs with
    | none => rfl
    | some rest =>
      obtain hnot | ⟨first, more, hfirst, rfl⟩ := eq_first_or_append rest
      · simp only [List.dropWhile_eq_nil_iff.mpr (ne_slash_of_not_mem hnot), Option.map_some,
          Option.getD_some, next_of_not_mem hnot]
        rfl
      · have hdrop : (first ++ '/' :: more).dropWhile (· != '/') = '/' :: more := by
          rw [List.dropWhile_append_of_pos (ne_slash_of_not_mem hfirst)]
          rfl
        simp only [hdrop, Option.map_some, Option.getD_some, next_append hfirst]
        rfl

theorem open_of_getLast? (first : List Char) {rest : List Char}
    (h : (first ++ '/' :: rest).getLast? ≠ some '/') : Open rest := by
  constructor
  · rintro rfl
    exact h List.getLast?_concat
  · intro hlast
    apply h
    rw [List.getLast?_append, List.getLast?_cons, hlast]
    rfl

theorem next_concat {path : Path} (h : path.getLast? ≠ some '/') :
    (next (path ++ ['/'])).1 = path.next.1 ∧
      ((next (path ++ ['/'])).2 = path.next.2 ∨
        path.next.2.Open ∧ (next (path ++ ['/'])).2 = path.next.2 ++ ['/']) := by
  obtain hnot | ⟨first, rest, hfirst, rfl⟩ := path.eq_first_or_append
  · rw [next_append hnot, next_of_not_mem hnot]
    exact ⟨rfl, .inl rfl⟩
  · rw [List.append_assoc, List.cons_append, next_append hfirst, next_append hfirst]
    exact ⟨rfl, .inr ⟨open_of_getLast? first h, rfl⟩⟩

theorem segment_concat {path : Path} (h : path.getLast? ≠ some '/') (n : Nat) :
    (path ++ ['/']).segment n = path.segment n := by
  induction n generalizing path with
  | zero => rw [segment_zero, segment_zero, (next_concat h).1]
  | succ n ih =>
    rw [segment_succ, segment_succ]
    obtain heq | ⟨hopen, heq⟩ := (next_concat h).2
    · rw [heq]
    · rw [heq, ih hopen.2]

theorem endsAfter_concat {path : Path} (h : path.Open) (n : Nat) :
    (path ++ ['/']).endsAfter n ↔ path.endsAfter n := by
  induction n generalizing path with
  | zero =>
    rw [endsAfter_zero, endsAfter_zero]
    exact iff_of_false (by simp) h.1
  | succ n ih =>
    rw [endsAfter_succ, endsAfter_succ]
    obtain heq | ⟨hopen, heq⟩ := (next_concat h.2).2
    · rw [heq]
    · rw [heq, ih hopen]

theorem read_concat {base : List Char} (hbase : Unmarked base)
    (hlast : base.getLast? ≠ some '/') :
    read (base ++ ['/']) = read base ∨
      (read base).Open ∧ read (base ++ ['/']) = read base ++ ['/'] ∨ base = ['*'] := by
  have hconcat : Unmarked (base ++ ['/']) :=
    List.forall_mem_append.mpr ⟨hbase, List.forall_mem_singleton.mpr rfl⟩
  match base with
  | [] => exact .inl rfl
  | c :: cs =>
    by_cases hslash : c = '/'
    · subst hslash
      have hbehind : read ('/' :: (cs ++ ['/'])) = cs ++ ['/'] := read_slash hconcat
      rw [read_slash hbase, List.cons_append, hbehind]
      exact .inr (.inl ⟨open_of_getLast? [] hlast, rfl⟩)
    by_cases hstar : c :: cs = ['*']
    · exact .inr (.inr hstar)
    have hother : (c :: cs ++ ['/']) ≠ ['*'] := by simp
    rw [read_other hbase (by simpa using hslash) hstar,
      read_other hconcat (by simpa using hslash) hother, afterScheme?_concat hlast]
    cases hscheme : afterScheme? (c :: cs) with
    | none => exact .inl rfl
    | some rest =>
      obtain ⟨front, hfront⟩ := exists_of_afterScheme? hscheme
      have hrest : rest.getLast? ≠ some '/' := by
        intro hrest
        apply hlast
        rw [hfront, List.getLast?_append, List.getLast?_append, hrest]
        rfl
      obtain heq | ⟨hopen, heq⟩ := (next_concat hrest).2
      · exact .inl heq
      · exact .inr (.inl ⟨hopen, heq⟩)

theorem afterScheme?_scheme {scheme : List Char} (h : ∀ c ∈ scheme, c ≠ ':') (rest : List Char) :
    afterScheme? (scheme ++ ("://".toList ++ rest)) = some rest := by
  induction scheme with
  | nil => rfl
  | cons c scheme ih =>
    obtain ⟨hc, hscheme⟩ := List.forall_mem_cons.mp h
    have hnot : ∀ other, c :: (scheme ++ ("://".toList ++ rest)) ≠ "://".toList ++ other :=
      fun other hother => hc (List.cons.inj hother).1
    rw [List.cons_append, afterScheme?_cons hnot, ih hscheme]

theorem IsOrigin.unmarked {origin : List Char} (h : IsOrigin origin) : Unmarked origin := by
  obtain rfl | ⟨scheme, authority, rfl, hscheme, hauthority⟩ := h
  · exact List.forall_mem_nil _
  · have hmark : Unmarked "://".toList := by decide
    refine List.forall_mem_append.mpr ⟨?_, fun c hc => (hauthority c hc).2⟩
    exact List.forall_mem_append.mpr ⟨fun c hc => (hscheme c hc).2.2, hmark⟩

theorem read_origin {origin path : List Char} (horigin : IsOrigin origin)
    (hpath : Unmarked path) : read (origin ++ '/' :: path) = path := by
  have hslash : Unmarked ('/' :: path) := List.forall_mem_cons.mpr ⟨rfl, hpath⟩
  obtain rfl | ⟨scheme, authority, rfl, hscheme, hauthority⟩ := horigin
  · exact read_slash hslash
  · have hall : Unmarked (scheme ++ "://".toList ++ authority ++ '/' :: path) :=
      List.forall_mem_append.mpr
        ⟨IsOrigin.unmarked (.inr ⟨scheme, authority, rfl, hscheme, hauthority⟩), hslash⟩
    rw [List.append_assoc, List.append_assoc] at hall ⊢
    have hhead : (scheme ++ ("://".toList ++ (authority ++ '/' :: path))).head? ≠ some '/' := by
      cases scheme with
      | nil => simp
      | cons c scheme =>
        intro hc
        exact (hscheme c List.mem_cons_self).2.1 (Option.some.inj hc)
    have hstar : scheme ++ ("://".toList ++ (authority ++ '/' :: path)) ≠ ['*'] := by
      intro hstar
      have hlength := congrArg List.length hstar
      simp at hlength
      omega
    have hfree : '/' ∉ authority := fun hmem => (hauthority '/' hmem).1 rfl
    rw [read_other hall hhead hstar, afterScheme?_scheme (fun c hc => (hscheme c hc).1),
      Option.map_some, Option.getD_some, next_append hfree]

end Gatehouse.Http.Path

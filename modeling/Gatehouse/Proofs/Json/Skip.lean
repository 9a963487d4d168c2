import Gatehouse.Json.Skip
import Gatehouse.Proofs.Json.Number
import Gatehouse.Proofs.Json.Text

/-! Every value of the grammar is passed by, whatever is nested in it. A skip that stands before a
value goes on as one that stands behind it, with the same frames open. -/

namespace Gatehouse.Json.Reader

open Grammar

theorem EndsNumber.append {blanks rest : Bytes} (hblanks : Blanks blanks) (h : EndsNumber rest) :
    EndsNumber (blanks ++ rest) := by
  cases blanks with
  | nil => exact h
  | cons b blanks =>
    intro first hfirst
    cases hfirst
    have hmem := hblanks b List.mem_cons_self
    simp only [List.map_cons, List.map_nil, List.mem_cons, List.not_mem_nil, or_false] at hmem
    rcases hmem with rfl | rfl | rfl | rfl <;> decide

theorem endsNumber_comma (rest : Bytes) : EndsNumber (byte ',' :: rest) := by
  intro b hb
  cases hb
  decide

theorem endsNumber_append_comma {comma : Bytes} (h : Mark ',' comma) (rest : Bytes) :
    EndsNumber (comma ++ rest) := by
  obtain ⟨before, after, hbefore, -, rfl⟩ := h
  rw [List.append_assoc]
  exact EndsNumber.append hbefore (endsNumber_comma _)

theorem endsNumber_closing (frame : Frame) (rest : Bytes) :
    EndsNumber (byte frame.closing :: rest) := by
  intro b hb
  cases hb
  cases frame <;> decide

theorem Frame.isMark_closing (frame : Frame) : IsMark frame.closing := by
  cases frame <;> decide

theorem iterate_skipStep {x : Reader (Stage × List Frame)} {state next : Stage × List Frame}
    {s rest : Bytes}
    (hstep : skipStep state = do
      match ← x with
      | (.behind, []) => return .last (.behind, [])
      | state => return .more state)
    (h : Reads x s next rest) (hshorter : rest.length < s.length) :
    iterate skipStep state s = iterate skipStep next rest := by
  obtain ⟨stage, frames⟩ := next
  have hmore (hread : Reads (skipStep state) s (.more (stage, frames)) rest) :
      iterate skipStep state s = iterate skipStep (stage, frames) rest :=
    iterate_of_more hread hshorter
  cases stage with
  | before => exact hmore (hstep ▸ h.bind (.pure _ rest))
  | behind =>
    cases frames with
    | nil =>
      -- The loop ends here, and so would one that started behind the value.
      have hlast : Reads (skipStep state) s (.last (.behind, [])) rest :=
        hstep ▸ h.bind (.pure _ rest)
      have hstop : Reads (skipStep (.behind, [])) rest (.last (.behind, [])) rest := .pure _ rest
      exact (reads_iterate_of_last hlast).trans (reads_iterate_of_last hstop).symm
    | cons frame frames => exact hmore (hstep ▸ h.bind (.pure _ rest))

theorem iterate_before {frames : List Frame} {next : Stage × List Frame} {s rest : Bytes}
    (h : Reads (skipValueStep frames) s next rest) (hshorter : rest.length < s.length) :
    iterate skipStep (.before, frames) s = iterate skipStep next rest :=
  iterate_skipStep rfl h hshorter

theorem iterate_behind {frame : Frame} {frames : List Frame} {next : Stage × List Frame}
    {s rest : Bytes} (h : Reads (skipBehindStep frame frames) s next rest)
    (hshorter : rest.length < s.length) :
    iterate skipStep (.behind, frame :: frames) s = iterate skipStep next rest :=
  iterate_skipStep rfl h hshorter

theorem reads_skipValueStep_literal {blanks : Bytes} (hblanks : Blanks blanks) {cs : List Char}
    (h : cs ∈ ["null".toList, "true".toList, "false".toList]) (frames : List Frame) (rest : Bytes) :
    Reads (skipValueStep frames) (blanks ++ (word cs ++ rest)) (.behind, frames) rest := by
  have hletters (letters : List Char) (hmarks : letters.all (fun c => decide (IsMark c)) = true)
      (first : UInt8) :
      Reads (skipLiteral letters) (first :: (word letters ++ rest)) () rest :=
    (reads_advance first _).bind (reads_literal hmarks rest)
  simp only [List.mem_cons, List.not_mem_nil, or_false] at h
  rcases h with rfl | rfl | rfl
  · exact (reads_peekSolid?_mark hblanks (by decide) _).bind
      ((hletters ['u', 'l', 'l'] (by decide) _).map _)
  · exact (reads_peekSolid?_mark hblanks (by decide) _).bind
      ((hletters ['r', 'u', 'e'] (by decide) _).map _)
  · exact (reads_peekSolid?_mark hblanks (by decide) _).bind
      ((hletters ['a', 'l', 's', 'e'] (by decide) _).map _)

theorem reads_skipValueStep_text {blanks : Bytes} (hblanks : Blanks blanks) {bytes : Bytes}
    (h : Quoted bytes) (frames : List Frame) (rest : Bytes) :
    Reads (skipValueStep frames) (blanks ++ (bytes ++ rest)) (.behind, frames) rest := by
  obtain ⟨tail, rfl, htail⟩ := reads_skipText h
  exact (reads_peekSolid?_mark hblanks (by decide) _).bind
    ((reads_advance _ _).bind ((htail rest).map _))

theorem isBlank_of_number {b : UInt8} (h : b = byte '-' ∨ Grammar.isDigit b) :
    isBlank b = false := by
  rw [Bool.eq_false_iff]
  intro hblank
  simp only [isBlank, Bool.or_eq_true, beq_iff_eq] at hblank
  rcases hblank with ((rfl | rfl) | rfl) | rfl <;> exact absurd h (by decide)

theorem reads_skipValueStep_number {blanks : Bytes} (hblanks : Blanks blanks) {bytes rest : Bytes}
    (h : Grammar.Number bytes) (hrest : EndsNumber rest) (frames : List Frame) :
    Reads (skipValueStep frames) (blanks ++ (bytes ++ rest)) (.behind, frames) rest := by
  have hskip := reads_skipNumber h hrest
  obtain ⟨b, tail, rfl, hb⟩ := number_head h
  refine (reads_peekSolid? (s := b :: (tail ++ rest)) hblanks ?_).bind ?_
  · intro first hfirst
    cases hfirst
    exact isBlank_of_number hb
  · -- Every other kind of value opens with a mark that no number opens with.
    split
    · next heq => cases heq
    · next heq => exact absurd heq (ne_mark_of_number hb (by decide) (by decide))
    · next heq => exact absurd heq (ne_mark_of_number hb (by decide) (by decide))
    · next heq => exact absurd heq (ne_mark_of_number hb (by decide) (by decide))
    · next heq => exact absurd heq (ne_mark_of_number hb (by decide) (by decide))
    · next heq => exact absurd heq (ne_mark_of_number hb (by decide) (by decide))
    · next heq => exact absurd heq (ne_mark_of_number hb (by decide) (by decide))
    · next heq =>
      cases heq
      rw [if_pos (opensNumber_of_head hb)]
      exact hskip.map _

theorem reads_colon {before : Bytes} (hbefore : Blanks before) (rest : Bytes) :
    Reads colon (before ++ byte ':' :: rest) () rest :=
  (reads_peekSolid?_mark hbefore (by decide) rest).bind (reads_advance _ rest)

inductive Lead : Frame → Bytes → Prop
  | list : Lead .list []
  | object {name colon : Bytes} (hname : Quoted name) (hcolon : Mark ':' colon) :
      Lead .object (name ++ colon)

theorem reads_enterValue {frame : Frame} {lead blanks : Bytes} (hlead : Lead frame lead)
    (hblanks : Blanks blanks) :
    ∃ ahead, Blanks ahead ∧ ahead.length ≤ (blanks ++ lead).length ∧
      ∀ rest, Reads (enterValue frame) (blanks ++ (lead ++ rest)) () (ahead ++ rest) := by
  cases hlead with
  | list => exact ⟨blanks, hblanks, by simp, fun rest => .pure () _⟩
  | object hname hcolon =>
    obtain ⟨tail, rfl, htail⟩ := reads_skipText hname
    obtain ⟨before, after, hbefore, hafter, rfl⟩ := hcolon
    refine ⟨after, hafter, ?_, fun rest => ?_⟩
    · simp only [List.length_append]
      omega
    · simp only [List.append_assoc, List.cons_append]
      exact (reads_peekSolid?_mark hblanks (by decide) _).bind
        ((reads_advance _ _).bind ((htail _).bind (reads_colon hbefore _)))

/-- What stands between two brackets: a skip that has entered it comes out behind the closing
one. -/
structure Enters (frame : Frame) (inside : Bytes) : Prop where
  head : ∃ b tail, inside = b :: tail ∧ isBlank b = false ∧ Char.ofUInt8 b ≠ frame.closing
  enter {blanks behind : Bytes} (hblanks : Blanks blanks) (hbehind : Blanks behind)
    (frames : List Frame) (rest : Bytes) :
    ∃ s,
      Reads (enterValue frame) (blanks ++ (inside ++ (behind ++ byte frame.closing :: rest))) () s ∧
      s.length ≤ (blanks ++ (inside ++ (behind ++ byte frame.closing :: rest))).length ∧
      iterate skipStep (.before, frame :: frames) s = iterate skipStep (.behind, frames) rest

theorem iterate_closing {behind : Bytes} (hbehind : Blanks behind) (frame : Frame)
    (frames : List Frame) (rest : Bytes) :
    iterate skipStep (.behind, frame :: frames) (behind ++ byte frame.closing :: rest) =
      iterate skipStep (.behind, frames) rest := by
  refine iterate_behind ((reads_peekSolid?_mark hbehind frame.isMark_closing rest).bind ?_) ?_
  · have hcomma : frame.closing ≠ ',' := by cases frame <;> decide
    dsimp only
    rw [if_neg hcomma, if_pos rfl]
    exact (reads_advance _ rest).bind (.pure _ rest)
  · simp only [List.length_append, List.length_cons]
    omega

theorem iterate_comma {frame : Frame} {comma more behind : Bytes} (hcomma : Mark ',' comma)
    (hmore : Enters frame more) (hbehind : Blanks behind) (frames : List Frame) (rest : Bytes) :
    iterate skipStep (.behind, frame :: frames)
        (comma ++ (more ++ (behind ++ byte frame.closing :: rest))) =
      iterate skipStep (.behind, frames) rest := by
  obtain ⟨before, after, hbefore, hafter, rfl⟩ := hcomma
  obtain ⟨s, henter, hlength, hskip⟩ := hmore.enter hafter hbehind frames rest
  simp only [List.append_assoc, List.singleton_append]
  rw [← hskip]
  refine iterate_behind ((reads_peekSolid?_mark hbefore (by decide) _).bind ?_) ?_
  · dsimp only
    rw [if_pos rfl]
    exact (reads_advance _ _).bind (henter.bind (.pure _ s))
  · simp only [List.length_append, List.length_cons] at hlength ⊢
    omega

namespace Frame

def opening : Frame → Char
  | list => '['
  | object => '\x7b'

end Frame

theorem reads_skipValueStep_opening {frame : Frame} {frames : List Frame} {blanks s rest : Bytes}
    {next : Stage × List Frame} (hblanks : Blanks blanks)
    (h : Reads (skipOpening frame frames) (byte frame.opening :: s) next rest) :
    Reads (skipValueStep frames) (blanks ++ byte frame.opening :: s) next rest := by
  cases frame with
  | list => exact (reads_peekSolid?_mark hblanks (by decide) s).bind h
  | object => exact (reads_peekSolid?_mark hblanks (by decide) s).bind h

theorem iterate_empty {blanks inside : Bytes} (hblanks : Blanks blanks) (hinside : Blanks inside)
    (frame : Frame) (frames : List Frame) (rest : Bytes) :
    iterate skipStep (.before, frames)
        (blanks ++ byte frame.opening :: (inside ++ byte frame.closing :: rest)) =
      iterate skipStep (.behind, frames) rest := by
  refine iterate_before (reads_skipValueStep_opening hblanks ?_) ?_
  · refine (reads_advance _ _).bind
      ((reads_peekSolid?_mark hinside frame.isMark_closing rest).bind ?_)
    dsimp only
    rw [if_pos rfl]
    exact (reads_advance _ rest).bind (.pure _ rest)
  · simp only [List.length_append, List.length_cons]
    omega

theorem iterate_opening {frame : Frame} {blanks inside bytes : Bytes} (hblanks : Blanks blanks)
    (hinside : Enters frame inside) (hpadded : Padded inside bytes) (frames : List Frame)
    (rest : Bytes) :
    iterate skipStep (.before, frames)
        (blanks ++ byte frame.opening :: (bytes ++ byte frame.closing :: rest)) =
      iterate skipStep (.behind, frames) rest := by
  obtain ⟨before, behind, hbefore, hbehind, rfl⟩ := hpadded
  obtain ⟨s, henter, hlength, hskip⟩ := hinside.enter Blanks.nil hbehind frames rest
  obtain ⟨b, tail, rfl, hsolid, hopen⟩ := hinside.head
  -- The blanks in front are gone once the reader has looked for the closing bracket.
  rw [← hskip]
  refine iterate_before (reads_skipValueStep_opening hblanks ?_) ?_
  · simp only [List.append_assoc]
    refine (reads_advance _ _).bind ((reads_peekSolid? hbefore ?_).bind ?_)
    · intro first hfirst
      cases hfirst
      exact hsolid
    · change Reads (if Char.ofUInt8 b = frame.closing then _ else _) _ _ _
      rw [if_neg hopen]
      exact henter.bind (.pure _ s)
  · simp only [List.length_append, List.length_cons, List.length_nil] at hlength ⊢
    omega

theorem value_head {bytes : Bytes} (h : Derives .value bytes) :
    ∃ b tail, bytes = b :: tail ∧ isBlank b = false ∧ Char.ofUInt8 b ≠ ']' := by
  cases h with
  | literal hcs =>
    simp only [List.mem_cons, List.not_mem_nil, or_false] at hcs
    rcases hcs with rfl | rfl | rfl <;> exact ⟨_, _, rfl, by decide, by decide⟩
  | number hnumber =>
    obtain ⟨b, tail, rfl, hb⟩ := number_head hnumber
    exact ⟨b, tail, rfl, isBlank_of_number hb,
      ofUInt8_ne (by decide) (p := fun b => b = byte '-' ∨ Grammar.isDigit b) hb (by decide)⟩
  | text htext =>
    obtain ⟨pieces, -, rfl⟩ := htext
    exact ⟨_, _, rfl, by decide, by decide⟩
  | emptyList => exact ⟨_, _, rfl, by decide, by decide⟩
  | list => exact ⟨_, _, rfl, by decide, by decide⟩
  | emptyObject => exact ⟨_, _, rfl, by decide, by decide⟩
  | object => exact ⟨_, _, rfl, by decide, by decide⟩

theorem length_lt_of_value {value : Bytes} (h : Derives .value value) (blanks rest : Bytes) :
    rest.length < (blanks ++ (value ++ rest)).length := by
  obtain ⟨b, tail, rfl, -⟩ := value_head h
  simp only [List.length_append, List.length_cons]
  omega

theorem lead_value_head {frame : Frame} {lead value : Bytes} (hlead : Lead frame lead)
    (hvalue : Derives .value value) (more : Bytes) :
    ∃ b tail, lead ++ (value ++ more) = b :: tail ∧ isBlank b = false ∧
      Char.ofUInt8 b ≠ frame.closing := by
  cases hlead with
  | list =>
    obtain ⟨b, tail, rfl, hhead⟩ := value_head hvalue
    exact ⟨b, _, rfl, hhead⟩
  | object hname =>
    obtain ⟨pieces, -, rfl⟩ := hname
    exact ⟨_, _, rfl, by decide, by decide⟩

def Skipped : Kind → Bytes → Prop
  | .value, bytes => ∀ {blanks rest : Bytes}, Blanks blanks → EndsNumber rest → ∀ frames,
      iterate skipStep (.before, frames) (blanks ++ (bytes ++ rest)) =
        iterate skipStep (.behind, frames) rest
  | .elements, bytes => Enters .list bytes
  | .members, bytes => Enters .object bytes

theorem enters_last {frame : Frame} {lead value : Bytes} (hlead : Lead frame lead)
    (hvalue : Derives .value value) (hskip : Skipped .value value) :
    Enters frame (lead ++ value) where
  head := by
    have hhead := lead_value_head hlead hvalue []
    rwa [List.append_nil] at hhead
  enter {blanks behind} hblanks hbehind frames rest := by
    obtain ⟨ahead, hahead, hlength, henter⟩ := reads_enterValue hlead hblanks
    refine ⟨_, by rw [List.append_assoc]; exact henter _, ?_, ?_⟩
    · simp only [List.length_append] at hlength ⊢
      omega
    · rw [hskip hahead (EndsNumber.append hbehind (endsNumber_closing frame rest))]
      exact iterate_closing hbehind frame frames rest

theorem enters_more {frame : Frame} {lead value comma more : Bytes} (hlead : Lead frame lead)
    (hvalue : Derives .value value) (hskip : Skipped .value value) (hcomma : Mark ',' comma)
    (hmore : Enters frame more) : Enters frame (lead ++ (value ++ (comma ++ more))) where
  head := lead_value_head hlead hvalue _
  enter {blanks behind} hblanks hbehind frames rest := by
    obtain ⟨ahead, hahead, hlength, henter⟩ := reads_enterValue hlead hblanks
    refine ⟨_, by rw [List.append_assoc]; exact henter _, ?_, ?_⟩
    · simp only [List.length_append] at hlength ⊢
      omega
    · simp only [List.append_assoc]
      rw [hskip hahead (endsNumber_append_comma hcomma _)]
      exact iterate_comma hcomma hmore hbehind frames rest

theorem skipped_of_derives {kind : Kind} {bytes : Bytes} (h : Derives kind bytes) :
    Skipped kind bytes := by
  -- An open bracket is entered, and its texts come out behind the closing one.
  induction h with
  | literal hcs =>
    intro blanks rest hblanks _ frames
    exact iterate_before (reads_skipValueStep_literal hblanks hcs frames rest)
      (length_lt_of_value (.literal hcs) blanks rest)
  | number hnumber =>
    intro blanks rest hblanks hrest frames
    exact iterate_before (reads_skipValueStep_number hblanks hnumber hrest frames)
      (length_lt_of_value (.number hnumber) blanks rest)
  | text htext =>
    intro blanks rest hblanks _ frames
    exact iterate_before (reads_skipValueStep_text hblanks htext frames rest)
      (length_lt_of_value (.text htext) blanks rest)
  | emptyList hinside =>
    intro blanks rest hblanks _ frames
    simp only [List.cons_append, List.append_assoc, List.nil_append]
    exact iterate_empty hblanks hinside .list frames rest
  | list _ hpadded ih =>
    intro blanks rest hblanks _ frames
    simp only [List.cons_append, List.append_assoc, List.nil_append]
    exact iterate_opening hblanks ih hpadded frames rest
  | emptyObject hinside =>
    intro blanks rest hblanks _ frames
    simp only [List.cons_append, List.append_assoc, List.nil_append]
    exact iterate_empty hblanks hinside .object frames rest
  | object _ hpadded ih =>
    intro blanks rest hblanks _ frames
    simp only [List.cons_append, List.append_assoc, List.nil_append]
    exact iterate_opening hblanks ih hpadded frames rest
  | element hvalue ih => exact enters_last .list hvalue ih
  | elements hvalue hcomma _ ih ihmore => exact enters_more .list hvalue ih hcomma ihmore
  | member hname hcolon hvalue ih =>
    rw [← List.append_assoc]
    exact enters_last (.object hname hcolon) hvalue ih
  | members hname hcolon hvalue hcomma _ ih ihmore =>
    rw [← List.append_assoc]
    exact enters_more (.object hname hcolon) hvalue ih hcomma ihmore

theorem reads_skipValue {blanks value rest : Bytes} (hblanks : Blanks blanks)
    (hvalue : Derives .value value) (hrest : EndsNumber rest) :
    Reads skipValue (blanks ++ (value ++ rest)) () rest := by
  have hstop : Reads (skipStep (.behind, [])) rest (.last (.behind, [])) rest := .pure _ rest
  have hloop :
      Reads (iterate skipStep (.before, [])) (blanks ++ (value ++ rest)) (.behind, []) rest :=
    (skipped_of_derives hvalue hblanks hrest []).trans (reads_iterate_of_last hstop)
  exact hloop.bind (.pure () rest)

end Gatehouse.Json.Reader

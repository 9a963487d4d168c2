import Gatehouse.Proofs.Json.Skip
import Gatehouse.Proofs.Json.Sound.Number
import Gatehouse.Proofs.Json.Sound.Text

/-! What is passed by as a value is one. The stack says which brackets are still open; each frame
asks for the rest of its list or object, and hands what follows to the frame around it. -/

namespace Gatehouse.Json.Reader

open Grammar Text.Utf8

variable {s rest : Bytes}

theorem ascii_of_blanks {blanks : Bytes} (h : Blanks blanks) : Ascii blanks := by
  have hall : Ascii ([' ', '\n', '\t', '\r'].map byte) := by decide
  exact fun b hb => hall b (h b hb)

theorem ascii_of_mark {c : Char} (hc : (byte c).toNat < 128) {bytes : Bytes} (h : Mark c bytes) :
    Ascii bytes := by
  obtain ⟨before, after, hbefore, hafter, rfl⟩ := h
  exact (ascii_of_blanks hbefore).append ((Ascii.singleton hc).append (ascii_of_blanks hafter))

theorem Took.mark {blanks : Bytes} (hblanks : Blanks blanks) {c : Char}
    (hc : (byte c).toNat < 128) (tail : Bytes) :
    Took (blanks ++ byte c :: tail) (blanks ++ [byte c]) tail := by
  rw [List.append_cons]
  exact .of_ascii ((ascii_of_blanks hblanks).append (.singleton hc)) tail

theorem peekSolid?_mark_sound {c : Char} (hmark : IsMark c)
    (h : Reads peekSolid? s (some c) rest) :
    ∃ blanks tail, Blanks blanks ∧ s = blanks ++ byte c :: tail ∧ rest = byte c :: tail := by
  obtain ⟨blanks, hblanks, rfl, hc⟩ := peekSolid?_sound h
  obtain ⟨tail, rfl⟩ := eq_cons_of_head? hmark hc.symm
  exact ⟨blanks, tail, hblanks, rfl, rfl⟩

theorem colon_sound {u : Unit} (h : Reads colon s u rest) :
    ∃ blanks, Blanks blanks ∧ s = blanks ++ byte ':' :: rest := by
  obtain ⟨c, _, hpeek, hmore⟩ := h.of_bind
  split at hmore
  · obtain ⟨blanks, tail, hblanks, rfl, rfl⟩ := peekSolid?_mark_sound (by decide) hpeek
    obtain rfl := advance_sound hmore
    exact ⟨blanks, hblanks, rfl⟩
  · exact absurd hmore (Reads.not_of_fault rfl)
  · exact absurd hmore (Reads.not_of_fault rfl)

/-- A value inside a frame is read behind its lead. The blanks in front of the value are taken with
it, so they are told here with the value's reading. -/
theorem enterValue_sound {frame : Frame} {u : Unit} (h : Reads (enterValue frame) s u rest) :
    rest.length ≤ s.length ∧ ∀ {blanks value behind : Bytes}, Blanks blanks →
      Took rest (blanks ++ value) behind →
        ∃ gap lead, Blanks gap ∧ Lead frame lead ∧ Took s (gap ++ (lead ++ value)) behind := by
  cases frame with
  | list =>
    obtain ⟨-, rfl⟩ := h.of_pure
    exact ⟨Nat.le_refl _, fun hblanks hvalue => ⟨_, [], hblanks, .list, hvalue⟩⟩
  | object =>
    obtain ⟨c, _, hpeek, hmore⟩ := Reads.of_bind (x := peekSolid?) h
    split at hmore
    · obtain ⟨gap, tail, hgap, rfl, rfl⟩ := peekSolid?_mark_sound (by decide) hpeek
      replace hmore := hmore.of_advance
      obtain ⟨_, _, hskip, hcolon⟩ := hmore.of_bind
      obtain ⟨quoted, htook, hquoted⟩ := skipText_sound hskip
      obtain ⟨before, hbefore, rfl⟩ := colon_sound hcolon
      have hfront := ((Took.mark hgap (c := '"') (by decide) tail).trans htook).trans
        (.mark hbefore (c := ':') (by decide) rest)
      refine ⟨hfront.length_le, fun {blanks value behind} hblanks hvalue => ?_⟩
      refine ⟨gap, _, hgap, .object hquoted ⟨before, blanks, hbefore, hblanks, rfl⟩, ?_⟩
      simpa using hfront.trans hvalue
    · exact absurd hmore (Reads.not_of_fault rfl)
    · exact absurd hmore (Reads.not_of_fault rfl)

inductive Remains (frame : Frame) : Bytes → Prop
  | close {blanks : Bytes} (h : Blanks blanks) : Remains frame (blanks ++ [byte frame.closing])
  | more {comma lead value tail : Bytes} (hcomma : Mark ',' comma) (hlead : Lead frame lead)
      (hvalue : Derives .value value) (htail : Remains frame tail) :
      Remains frame (comma ++ (lead ++ (value ++ tail)))

def Frame.kind : Frame → Kind
  | list => .elements
  | object => .members

theorem derives_last {frame : Frame} {lead value : Bytes} (hlead : Lead frame lead)
    (hvalue : Derives .value value) : Derives frame.kind (lead ++ value) := by
  cases hlead with
  | list => exact .element hvalue
  | object hname hcolon =>
    rw [List.append_assoc]
    exact .member hname hcolon hvalue

theorem derives_more {frame : Frame} {lead value comma more : Bytes} (hlead : Lead frame lead)
    (hvalue : Derives .value value) (hcomma : Mark ',' comma) (hmore : Derives frame.kind more) :
    Derives frame.kind (lead ++ (value ++ (comma ++ more))) := by
  cases hlead with
  | list =>
    rw [List.nil_append]
    exact .elements hvalue hcomma hmore
  | object hname hcolon =>
    rw [List.append_assoc]
    exact .members hname hcolon hvalue hcomma hmore

theorem Remains.derives {frame : Frame} {tail : Bytes} (h : Remains frame tail) :
    ∀ {lead value : Bytes}, Lead frame lead → Derives .value value →
      ∃ inside behind, Derives frame.kind inside ∧ Blanks behind ∧
        lead ++ (value ++ tail) = inside ++ (behind ++ [byte frame.closing]) := by
  induction h with
  | @close blanks hblanks =>
    intro lead value hlead hvalue
    exact ⟨lead ++ value, blanks, derives_last hlead hvalue, hblanks, by simp⟩
  | more hcomma hnext hvalueNext _ ih =>
    intro lead value hlead hvalue
    obtain ⟨inside, behind, hinside, hbehind, heq⟩ := ih hnext hvalueNext
    refine ⟨_, behind, derives_more hlead hvalue hcomma hinside, hbehind, ?_⟩
    simp [heq]

theorem derives_brackets {frame : Frame} {gap inside behind : Bytes}
    (hinside : Derives frame.kind inside) (hgap : Blanks gap) (hbehind : Blanks behind) :
    Derives .value
      (byte frame.opening :: (gap ++ (inside ++ (behind ++ [byte frame.closing])))) := by
  have hpadded : Padded inside (gap ++ (inside ++ behind)) := ⟨gap, behind, hgap, hbehind, rfl⟩
  cases frame with
  | list => simpa [Frame.opening, Frame.closing] using Derives.list hinside hpadded
  | object => simpa [Frame.opening, Frame.closing] using Derives.object hinside hpadded

theorem derives_empty (frame : Frame) {blanks : Bytes} (h : Blanks blanks) :
    Derives .value (byte frame.opening :: (blanks ++ [byte frame.closing])) := by
  cases frame with
  | list => exact .emptyList h
  | object => exact .emptyObject h

inductive StepsBefore (frames : List Frame) (s : Bytes) : Stage × List Frame → Bytes → Prop
  | value {blanks value rest : Bytes} (hblanks : Blanks blanks) (hvalue : Derives .value value)
      (htook : Took s (blanks ++ value) rest) : StepsBefore frames s (.behind, frames) rest
  | opened {frame : Frame} {blanks gap ahead rest : Bytes} (hblanks : Blanks blanks)
      (hgap : Blanks gap) (htook : Took s (blanks ++ byte frame.opening :: gap) ahead)
      (henter : Reads (enterValue frame) ahead () rest) :
      StepsBefore frames s (.before, frame :: frames) rest

theorem StepsBefore.length_lt {frames : List Frame} {next : Stage × List Frame}
    (h : StepsBefore frames s next rest) : rest.length < s.length := by
  cases h with
  | value _ hvalue htook =>
    obtain ⟨b, tail, rfl, -⟩ := value_head hvalue
    exact htook.length_lt (List.append_ne_nil_of_right_ne_nil _ (List.cons_ne_nil _ _))
  | opened _ _ htook henter =>
    exact Nat.lt_of_le_of_lt (enterValue_sound henter).1
      (htook.length_lt (List.append_ne_nil_of_right_ne_nil _ (List.cons_ne_nil _ _)))

theorem skipOpening_sound (frame : Frame) {frames : List Frame} {next : Stage × List Frame}
    {blanks tail : Bytes} (hblanks : Blanks blanks)
    (h : Reads (skipOpening frame frames) (byte frame.opening :: tail) next rest) :
    StepsBefore frames (blanks ++ byte frame.opening :: tail) next rest := by
  have hascii : (byte frame.opening).toNat < 128 := by cases frame <;> decide
  have hclosing : (byte frame.closing).toNat < 128 := by cases frame <;> decide
  have hmore := h.of_advance
  obtain ⟨c, ahead, hpeek, hmore⟩ := hmore.of_bind
  obtain ⟨gap, hgap, hsplit, hc⟩ := peekSolid?_sound hpeek
  rw [List.tail_cons] at hsplit
  rw [hsplit]
  have hopened := Took.mark hblanks hascii (gap ++ ahead)
  split at hmore
  · exact absurd hmore (Reads.not_of_fault rfl)
  · next c =>
    split at hmore
    · next hclosed =>
      obtain ⟨more, rfl⟩ := eq_cons_of_head? frame.isMark_closing (hclosed ▸ hc.symm)
      have hend := hmore.of_advance
      obtain ⟨rfl, rfl⟩ := hend.of_pure
      refine .value hblanks (derives_empty frame hgap) ?_
      simpa using hopened.trans (.mark hgap hclosing more)
    · obtain ⟨_, henter, rfl⟩ := hmore.of_map
      refine .opened hblanks hgap ?_ henter
      simpa using hopened.trans (.of_ascii (ascii_of_blanks hgap) ahead)

theorem skipLiteral_sound {frames : List Frame} {next : Stage × List Frame} {first : Char}
    {letters : List Char} {ahead : Bytes}
    (hmem : first :: letters ∈ ["null".toList, "true".toList, "false".toList])
    (hmarks : (first :: letters).all (fun c => decide (IsMark c)) = true)
    (hpeek : Reads peekSolid? s (some first) ahead)
    (h : Reads (do skipLiteral letters; return (.behind, frames)) ahead next rest) :
    StepsBefore frames s next rest := by
  rw [List.all_cons, Bool.and_eq_true, decide_eq_true_eq] at hmarks
  obtain ⟨blanks, tail, hblanks, rfl, rfl⟩ := peekSolid?_mark_sound hmarks.1 hpeek
  obtain ⟨_, hskip, rfl⟩ := h.of_map
  obtain rfl := literal_sound hmarks.2 (Reads.of_advance hskip)
  have hascii : ∀ cs ∈ ["null".toList, "true".toList, "false".toList], Ascii (word cs) := by
    decide
  refine .value hblanks (.literal hmem) ?_
  simpa [word] using Took.of_ascii ((ascii_of_blanks hblanks).append (hascii _ hmem)) rest

theorem skipValueStep_sound {frames : List Frame} {next : Stage × List Frame}
    (h : Reads (skipValueStep frames) s next rest) : StepsBefore frames s next rest := by
  obtain ⟨c, _, hpeek, hmore⟩ := h.of_bind
  split at hmore
  · exact absurd hmore (Reads.not_of_fault rfl)
  · obtain ⟨blanks, tail, hblanks, rfl, rfl⟩ := peekSolid?_mark_sound (by decide) hpeek
    exact skipOpening_sound .list hblanks hmore
  · obtain ⟨blanks, tail, hblanks, rfl, rfl⟩ := peekSolid?_mark_sound (by decide) hpeek
    exact skipOpening_sound .object hblanks hmore
  · obtain ⟨blanks, tail, hblanks, rfl, rfl⟩ := peekSolid?_mark_sound (by decide) hpeek
    replace hmore := hmore.of_advance
    obtain ⟨_, hskip, rfl⟩ := hmore.of_map
    obtain ⟨quoted, htook, hquoted⟩ := skipText_sound hskip
    refine .value hblanks (.text hquoted) ?_
    simpa using (Took.mark hblanks (c := '"') (by decide) tail).trans htook
  · exact skipLiteral_sound (by decide) (by decide) hpeek hmore
  · exact skipLiteral_sound (by decide) (by decide) hpeek hmore
  · exact skipLiteral_sound (by decide) (by decide) hpeek hmore
  · split at hmore
    · obtain ⟨blanks, hblanks, rfl, -⟩ := peekSolid?_sound hpeek
      obtain ⟨_, hskip, rfl⟩ := hmore.of_map
      obtain ⟨number, hnumber, rfl⟩ := skipNumber_sound hskip
      refine .value hblanks (.number hnumber) ?_
      rw [← List.append_assoc]
      exact .of_ascii ((ascii_of_blanks hblanks).append (ascii_of_number hnumber)) _
    · exact absurd hmore (Reads.not_of_fault rfl)

inductive StepsBehind (frame : Frame) (frames : List Frame) (s : Bytes) :
    Stage × List Frame → Bytes → Prop
  | close {blanks rest : Bytes} (hblanks : Blanks blanks)
      (htook : Took s (blanks ++ [byte frame.closing]) rest) :
      StepsBehind frame frames s (.behind, frames) rest
  | comma {blanks ahead rest : Bytes} (hblanks : Blanks blanks)
      (htook : Took s (blanks ++ [byte ',']) ahead)
      (henter : Reads (enterValue frame) ahead () rest) :
      StepsBehind frame frames s (.before, frame :: frames) rest

theorem StepsBehind.length_lt {frame : Frame} {frames : List Frame} {next : Stage × List Frame}
    (h : StepsBehind frame frames s next rest) : rest.length < s.length := by
  cases h with
  | close _ htook =>
    exact htook.length_lt (List.append_ne_nil_of_right_ne_nil _ (List.cons_ne_nil _ _))
  | comma _ htook henter =>
    exact Nat.lt_of_le_of_lt (enterValue_sound henter).1
      (htook.length_lt (List.append_ne_nil_of_right_ne_nil _ (List.cons_ne_nil _ _)))

theorem skipBehindStep_sound {frame : Frame} {frames : List Frame} {next : Stage × List Frame}
    (h : Reads (skipBehindStep frame frames) s next rest) :
    StepsBehind frame frames s next rest := by
  obtain ⟨c, _, hpeek, hmore⟩ := h.of_bind
  split at hmore
  · exact absurd hmore (Reads.not_of_fault rfl)
  · next c =>
    split at hmore
    · next hcomma =>
      obtain ⟨blanks, tail, hblanks, rfl, rfl⟩ :=
        peekSolid?_mark_sound (c := ',') (by decide) (hcomma ▸ hpeek)
      replace hmore := hmore.of_advance
      obtain ⟨_, henter, rfl⟩ := hmore.of_map
      exact .comma hblanks (.mark hblanks (by decide) tail) henter
    · split at hmore
      · next hclosed =>
        obtain ⟨blanks, tail, hblanks, rfl, rfl⟩ :=
          peekSolid?_mark_sound frame.isMark_closing (hclosed ▸ hpeek)
        have hend := hmore.of_advance
        obtain ⟨rfl, rfl⟩ := hend.of_pure
        exact .close hblanks (.mark hblanks (by cases frame <;> decide) tail)
      · exact absurd hmore (Reads.not_of_fault rfl)

theorem exists_step {x : Reader (Stage × List Frame)} {state final : Stage × List Frame}
    (hstep : skipStep state = do
      match ← x with
      | (.behind, []) => return .last (.behind, [])
      | state => return .more state)
    (h : Reads (iterate skipStep state) s final rest) : ∃ next middle, Reads x s next middle := by
  obtain hlast | ⟨_, _, hmore, -⟩ := iterate_sound h
  · rw [hstep] at hlast
    obtain ⟨next, middle, hread, -⟩ := hlast.of_bind
    exact ⟨next, middle, hread⟩
  · rw [hstep] at hmore
    obtain ⟨next, middle, hread, -⟩ := hmore.of_bind
    exact ⟨next, middle, hread⟩

def BeforeSound (s : Bytes) : Prop :=
  ∀ {frames final rest}, Reads (iterate skipStep (.before, frames)) s final rest →
    ∃ blanks value middle, Blanks blanks ∧ Derives .value value ∧ Took s (blanks ++ value) middle ∧
      Reads (iterate skipStep (.behind, frames)) middle final rest

def BehindSound (s : Bytes) : Prop :=
  ∀ {frame frames final rest}, Reads (iterate skipStep (.behind, frame :: frames)) s final rest →
    ∃ tail middle, Remains frame tail ∧ Took s tail middle ∧
      Reads (iterate skipStep (.behind, frames)) middle final rest

theorem entered_sound {frame : Frame} {frames : List Frame} {ahead rest : Bytes}
    {state : Stage × List Frame} (henter : Reads (enterValue frame) ahead () s)
    (hbefore : BeforeSound s)
    (hbehind : ∀ middle : Bytes, middle.length < s.length → BehindSound middle)
    (h : Reads (iterate skipStep (.before, frame :: frames)) s state rest) :
    ∃ gap lead value tail middle, Blanks gap ∧ Lead frame lead ∧ Derives .value value ∧
      Remains frame tail ∧ Took ahead (gap ++ (lead ++ (value ++ tail))) middle ∧
      Reads (iterate skipStep (.behind, frames)) middle state rest := by
  obtain ⟨blanks, value, behind, hblanks, hvalue, htook, hloop⟩ := hbefore h
  have hless : behind.length < s.length := by
    obtain ⟨b, tail, rfl, -⟩ := value_head hvalue
    exact htook.length_lt (List.append_ne_nil_of_right_ne_nil _ (List.cons_ne_nil _ _))
  obtain ⟨tail, middle, htail, htookTail, hloop⟩ := hbehind behind hless hloop
  obtain ⟨gap, lead, hgap, hlead, hall⟩ := (enterValue_sound henter).2 hblanks htook
  refine ⟨gap, lead, value, tail, middle, hgap, hlead, hvalue, htail, ?_, hloop⟩
  simpa using hall.trans htookTail

theorem skipLoop_sound (s : Bytes) : BeforeSound s ∧ BehindSound s := by
  -- Each step takes something, so one induction on the input carries both.
  induction hlength : s.length using Nat.strongRecOn generalizing s with
  | ind n ih =>
    subst hlength
    refine ⟨fun {frames final rest} h => ?_, fun {frame frames final rest} h => ?_⟩
    · obtain ⟨next, middle, hstep⟩ := exists_step rfl h
      have hsound := skipValueStep_sound hstep
      have hless := hsound.length_lt
      replace h : Reads (iterate skipStep next) middle final rest :=
        (iterate_before hstep hless).symm.trans h
      cases hsound with
      | value hblanks hvalue htook => exact ⟨_, _, _, hblanks, hvalue, htook, h⟩
      | @opened frame blanks gap ahead _ hblanks hgap htook henter =>
        have hbehind (behind : Bytes) (hshorter : behind.length < middle.length) :
            BehindSound behind :=
          (ih behind.length (Nat.lt_trans hshorter hless) behind rfl).2
        obtain ⟨more, lead, value, tail, left, hmore, hlead, hvalue, htail, htookInside, hloop⟩ :=
          entered_sound henter (ih middle.length hless middle rfl).1 hbehind h
        obtain ⟨inside, behind, hinside, hbehind, heq⟩ := htail.derives hlead hvalue
        have hgaps : Blanks (gap ++ more) := List.forall_mem_append.mpr ⟨hgap, hmore⟩
        refine ⟨blanks, _, left, hblanks, derives_brackets hinside hgaps hbehind, ?_, hloop⟩
        rw [heq] at htookInside
        simpa using htook.trans htookInside
    · obtain ⟨next, middle, hstep⟩ := exists_step rfl h
      have hsound := skipBehindStep_sound hstep
      have hless := hsound.length_lt
      replace h : Reads (iterate skipStep next) middle final rest :=
        (iterate_behind hstep hless).symm.trans h
      cases hsound with
      | close hblanks htook => exact ⟨_, _, .close hblanks, htook, h⟩
      | @comma blanks ahead _ hblanks htook henter =>
        have hbehind (behind : Bytes) (hshorter : behind.length < middle.length) :
            BehindSound behind :=
          (ih behind.length (Nat.lt_trans hshorter hless) behind rfl).2
        obtain ⟨gap, lead, value, tail, left, hgap, hlead, hvalue, htail, htookInside, hloop⟩ :=
          entered_sound henter (ih middle.length hless middle rfl).1 hbehind h
        refine ⟨_, left, .more ⟨blanks, gap, hblanks, hgap, rfl⟩ hlead hvalue htail, ?_, hloop⟩
        simpa using htook.trans htookInside

theorem skipValue_sound {u : Unit} (h : Reads skipValue s u rest) :
    ∃ blanks value, Blanks blanks ∧ Derives .value value ∧ Took s (blanks ++ value) rest := by
  obtain ⟨_, _, hloop, hend⟩ := h.of_bind
  obtain ⟨-, rfl⟩ := hend.of_pure
  obtain ⟨blanks, value, middle, hblanks, hvalue, htook, hlast⟩ := (skipLoop_sound s).1 hloop
  have hstop : Reads (iterate skipStep (.behind, [])) middle (.behind, []) middle :=
    reads_iterate_of_last (.pure _ middle)
  obtain ⟨-, rfl⟩ := Prod.mk.inj (hstop.symm.trans hlast)
  exact ⟨blanks, value, hblanks, hvalue, htook⟩

end Gatehouse.Json.Reader

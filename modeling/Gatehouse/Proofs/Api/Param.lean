import Gatehouse.Proofs.Api.Admission
import Gatehouse.Proofs.Gate
import Gatehouse.Proofs.Text.Percent

/-! What a path parameter comes to. The segment is decoded once, and the pipeline is asked about the
text that comes out; where none does, it is not asked at all. So the escapes by which a text is
spelled make no difference. -/

namespace Gatehouse

open Text

namespace Api.Param

def pass (pipeline : Pipeline) (segment : String) : Passage :=
  match decode segment with
  | .error refusal => ⟨[], some refusal⟩
  | .ok value => pipeline.pass value

def outcome (rest : Http.Path) :
    Except Malformed String → Except Http.Rejection (ResourceId × Http.Path)
  | .ok value => .ok (⟨value⟩, rest)
  | .error refusal => .error (.of (.api (.malformed refusal)))

variable (pipeline : Pipeline) {path : Http.Path}

theorem accept_eq (segment : String) :
    accept pipeline segment = (decode segment >>= pipeline.run).map ResourceId.mk := by
  rw [accept]
  cases decode segment with
  | error refusal => rfl
  | ok value =>
    change (do return ResourceId.mk (← pipeline.run value)) = (pipeline.run value).map _
    cases pipeline.run value <;> rfl

theorem take_eq_outcome (h : path.next.1 ≠ []) : take pipeline path =
    outcome path.next.2 (decode (String.ofList path.next.1) >>= pipeline.run) := by
  have hnot : ¬path.next.1.isEmpty = true := by simpa using h
  rw [take]
  simp only [if_neg hnot, accept_eq]
  cases decode (String.ofList path.next.1) >>= pipeline.run <;> rfl

theorem outcome_eq_error_iff {rest : Http.Path} {found : Except Malformed String}
    {refusal : Malformed} :
    outcome rest found = .error (.of (.api (.malformed refusal))) ↔ found = .error refusal := by
  cases found with
  | error other =>
    constructor
    · intro h
      cases h
      rfl
    · intro h
      cases h
      rfl
  | ok value => exact iff_of_false nofun nofun

theorem take_eq_error_iff (h : path.next.1 ≠ []) {refusal : Malformed} :
    take pipeline path = .error (.of (.api (.malformed refusal))) ↔
      (pass pipeline (String.ofList path.next.1)).refusal = some refusal := by
  rw [take_eq_outcome pipeline h, outcome_eq_error_iff, pass]
  cases decode (String.ofList path.next.1) with
  | error found =>
    change Except.error found = .error refusal ↔ some found = some refusal
    rw [Except.error.injEq, Option.some.injEq]
  | ok value =>
    change pipeline.run value = .error refusal ↔ (pipeline.pass value).refusal = some refusal
    rw [Pipeline.run_eq]
    cases (pipeline.pass value).refusal <;> simp

theorem decode_of_decodes {segment text : String}
    (h : Percent.Decodes (Utf8.encode segment) (Utf8.encode text)) : decode segment = .ok text := by
  rw [decode, Percent.decodeText?_eq_some_iff.mpr h]

theorem decode_of_not_decodes {segment : String}
    (h : ¬∃ text, Percent.Decodes (Utf8.encode segment) (Utf8.encode text)) :
    decode segment = .error ⟨"UUID", segment⟩ := by
  have hnone : Percent.decodeText? segment = none :=
    Option.eq_none_iff_forall_ne_some.mpr fun text htext =>
      h ⟨text, Percent.decodeText?_eq_some_iff.mp htext⟩
  rw [decode, hnone]

/-- The segment is decoded in one pass, and the pipeline alone decides about the text that comes
out, which an accepted parameter is; a segment that is no text is refused as it stands before any
check is made. A text is treated alike however it is spelled with escapes. -/
theorem take_decodes_once (pipeline : Pipeline) (path : Http.Path) (h : path.next.1 ≠ []) :
    let segment := String.ofList path.next.1
    (∃ bytes, ∀ other, Percent.Decodes (Utf8.encode segment) other ↔ other = bytes) ∧
    (∀ refusal, take pipeline path = .error (.of (.api (.malformed refusal))) ↔
      (pass pipeline segment).refusal = some refusal) ∧
    (∀ text, Percent.Decodes (Utf8.encode segment) (Utf8.encode text) →
      take pipeline path = outcome path.next.2 (pipeline.run text) ∧
      (∀ accepted, pipeline.run text = .ok accepted → accepted = text) ∧
      pass pipeline segment = pipeline.pass text) ∧
    ((¬∃ text, Percent.Decodes (Utf8.encode segment) (Utf8.encode text)) →
      take pipeline path = .error (.of (.api (.malformed ⟨"UUID", segment⟩))) ∧
      pass pipeline segment = ⟨[], some ⟨"UUID", segment⟩⟩) ∧
    (∀ text, Percent.Spells (Utf8.encode segment) (Utf8.encode text) →
      take pipeline path = outcome path.next.2 (pipeline.run text) ∧
      take .uuid path = outcome path.next.2 (validateUuid text)) := by
  intro segment
  have htake : ∀ (p : Pipeline) (text : String),
      Percent.Decodes (Utf8.encode segment) (Utf8.encode text) →
      take p path = outcome path.next.2 (p.run text) := by
    intro p text htext
    rw [take_eq_outcome p h, decode_of_decodes htext]
    rfl
  refine ⟨⟨_, fun _ => Percent.decodes_iff⟩, fun _ => take_eq_error_iff pipeline h, ?_, ?_, ?_⟩
  · intro text htext
    refine ⟨htake pipeline text htext, ?_, by rw [pass, decode_of_decodes htext]⟩
    intro accepted haccepted
    rw [Pipeline.run_eq] at haccepted
    split at haccepted <;> cases haccepted
    rfl
  · intro hnone
    have hdecode : decode segment = .error ⟨"UUID", segment⟩ := decode_of_not_decodes hnone
    refine ⟨?_, by rw [pass, hdecode]⟩
    rw [take_eq_outcome pipeline h, hdecode]
    rfl
  · intro text hspells
    refine ⟨htake pipeline text hspells.decodes, ?_⟩
    rw [htake .uuid text hspells.decodes, Pipeline.uuid_run]

/-- The sign itself escaped, a refused text with an escape in it, and bytes that are no text. -/
theorem take_decodes_once_sign :
    take .empty "%2530/fcm-token".toList = .ok (⟨"%30"⟩, "fcm-token".toList) ∧
      take .uuid "n%6F".toList = .error (.of (.api (.malformed ⟨"UUID", "no"⟩))) ∧
      take (.push .empty (.mark "seen")) "%f0%9f".toList =
        .error (.of (.api (.malformed ⟨"UUID", "%f0%9f"⟩))) := by
  have hsign : Percent.Spells (Utf8.encode "%2530") (Utf8.encode "%30") := by
    have hraw : Utf8.encode "%2530" = [37, 50, 53] ++ [51, 48] := by decide
    have htext : Utf8.encode "%30" = [37, 51, 48] := by decide
    rw [hraw, htext]
    exact .escape ⟨'2', '5', by decide⟩ (.plain (by decide) (.plain (by decide) .nil))
  have hletter : Percent.Spells (Utf8.encode "n%6F") (Utf8.encode "no") := by
    have hraw : Utf8.encode "n%6F" = 110 :: ([37, 54, 70] ++ []) := by decide
    have htext : Utf8.encode "no" = [110, 111] := by decide
    rw [hraw, htext]
    exact .plain (by decide) (.escape ⟨'6', 'F', by decide⟩ .nil)
  refine ⟨?_, ?_, ?_⟩
  · exact ((take_decodes_once .empty "%2530/fcm-token".toList (by decide)).2.2.2.2 _ hsign).1
  · exact ((take_decodes_once .uuid "n%6F".toList (by decide)).2.2.2.2 _ hletter).2
  · refine ((take_decodes_once _ "%f0%9f".toList (by decide)).2.2.2.1 ?_).1
    rintro ⟨text, htext⟩
    have hnone : Percent.decodeText? "%f0%9f" = none := by decide +kernel
    cases hnone.symm.trans (Percent.decodeText?_eq_some_iff.mpr htext)

end Api.Param

end Gatehouse

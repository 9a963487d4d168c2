import Gatehouse.Proofs.Text.Quoted
import Gatehouse.Text.Inspect

/-! What a shown value tells. Of two values with the same frame, the names and nothing else, either
form tells their words and texts apart, whatever the texts imitate; the one-line form stays on its
line, and no line of the other form is broken. -/

namespace Gatehouse.Text

def isStop (c : Char) : Bool := c == ' ' || c == ',' || c == ')'

def Stops (rest : List Char) : Prop := ∀ c ∈ rest.head?, isStop c = true

theorem stops_nil : Stops [] := nofun

theorem stops_cons {c : Char} (h : isStop c = true) (rest : List Char) : Stops (c :: rest) := by
  rintro _ ⟨rfl⟩
  exact h

namespace Inspect

mutual

def frame : Inspect → Inspect
  | .word _ => .word ""
  | .text _ => .text ""
  | .wrap name content => .wrap name (frame content)
  | .record name fields => .record name (frameFields fields)

def frameFields : List (String × Inspect) → List (String × Inspect)
  | [] => []
  | (field, value) :: rest => (field, frame value) :: frameFields rest

end

mutual

def Plain : Inspect → Prop
  | .word w => Unbroken w ∧ ∀ c ∈ w.toList, isStop c = false
  | .text _ => True
  | .wrap name content => Unbroken name ∧ Plain content
  | .record name fields => Unbroken name ∧ PlainFields fields

def PlainFields : List (String × Inspect) → Prop
  | [] => True
  | (field, value) :: rest => Unbroken field ∧ Plain value ∧ PlainFields rest

end

def fieldsText (fields : List (String × Inspect)) : List Char :=
  (", ".intercalate (compactFields fields)).toList

theorem fieldsText_singleton (field : String) (value : Inspect) :
    fieldsText [(field, value)] = field.toList ++ (": ".toList ++ value.compact.toList) := by
  simp [fieldsText, compactFields]

theorem fieldsText_cons_cons (field : String) (value : Inspect) (next : String × Inspect)
    (rest : List (String × Inspect)) :
    fieldsText ((field, value) :: next :: rest) =
      field.toList ++ (": ".toList ++ (value.compact.toList ++
        (", ".toList ++ fieldsText (next :: rest)))) := by
  obtain ⟨name, other⟩ := next
  simp [fieldsText, compactFields, String.toList_intercalate]

theorem toList_compact_wrap (name : String) (content : Inspect) :
    (wrap name content).compact.toList =
      name.toList ++ ('(' :: (content.compact.toList ++ [')'])) := by
  simp [compact]

theorem toList_compact_record (name : String) (fields : List (String × Inspect)) :
    (record name fields).compact.toList =
      name.toList ++ (" \x7b ".toList ++ (fieldsText fields ++ " \x7d".toList)) := by
  simp [compact, fieldsText]

mutual

theorem compact_append_inj {a b : Inspect} (ha : a.Plain) (hb : b.Plain)
    (hframe : a.frame = b.frame) {rest rest' : List Char} (hrest : Stops rest)
    (hrest' : Stops rest') (h : a.compact.toList ++ rest = b.compact.toList ++ rest') :
    a = b ∧ rest = rest' := by
  match a, b with
  | .word w, .word w' =>
    have hrun {w : String} (hw : (word w).Plain) : ∀ c ∈ w.toList, (!isStop c) = true := by
      intro c hc
      rw [hw.2 c hc]
      rfl
    have hend {rest : List Char} (hrest : Stops rest) :
        ∀ c ∈ rest.head?, (!isStop c) = false := by
      intro c hc
      rw [hrest c hc]
      rfl
    obtain ⟨hw, hsame⟩ := append_inj_of_run (hrun ha) (hrun hb) (hend hrest) (hend hrest') h
    exact ⟨congrArg word (String.toList_inj.mp hw), hsame⟩
  | .text s, .text s' =>
    rw [compact, compact, Quoted.toList_quote, Quoted.toList_quote] at h
    obtain ⟨hs, hsame⟩ := Quoted.encode_append_inj h
    exact ⟨congrArg text (String.toList_inj.mp hs), hsame⟩
  | .wrap name content, .wrap name' content' =>
    obtain ⟨rfl, hcontent⟩ := wrap.inj hframe
    simp only [toList_compact_wrap, List.append_assoc, List.cons_append, List.nil_append] at h
    have hinside := (List.cons.inj (List.append_cancel_left h)).2
    obtain ⟨rfl, hsame⟩ :=
      compact_append_inj ha.2 hb.2 hcontent (stops_cons rfl _) (stops_cons rfl _) hinside
    exact ⟨rfl, (List.cons.inj hsame).2⟩
  | .record name fields, .record name' fields' =>
    obtain ⟨rfl, hfields⟩ := record.inj hframe
    simp only [toList_compact_record, List.append_assoc] at h
    have hinside := List.append_cancel_left (List.append_cancel_left h)
    have hclose (rest : List Char) : Stops (" \x7d".toList ++ rest) := stops_cons rfl _
    obtain ⟨rfl, hsame⟩ :=
      fieldsText_append_inj ha.2 hb.2 hfields (hclose rest) (hclose rest') hinside
    exact ⟨rfl, List.append_cancel_left hsame⟩

theorem fieldsText_append_inj {fields fields' : List (String × Inspect)}
    (hfields : PlainFields fields) (hfields' : PlainFields fields')
    (hframe : frameFields fields = frameFields fields') {rest rest' : List Char}
    (hrest : Stops rest) (hrest' : Stops rest')
    (h : fieldsText fields ++ rest = fieldsText fields' ++ rest') :
    fields = fields' ∧ rest = rest' := by
  match fields, fields' with
  | [], [] => exact ⟨rfl, h⟩
  | (field, value) :: more, (field', value') :: more' =>
    obtain ⟨hhead, hmore⟩ := List.cons.inj hframe
    obtain ⟨rfl, hvalue⟩ := Prod.mk.inj hhead
    match more, more' with
    | [], [] =>
      simp only [fieldsText_singleton, List.append_assoc] at h
      have hinside := List.append_cancel_left (List.append_cancel_left h)
      obtain ⟨rfl, hsame⟩ :=
        compact_append_inj hfields.2.1 hfields'.2.1 hvalue hrest hrest' hinside
      exact ⟨rfl, hsame⟩
    | next :: more, next' :: more' =>
      simp only [fieldsText_cons_cons, List.append_assoc] at h
      have hinside := List.append_cancel_left (List.append_cancel_left h)
      have hcomma (rest : List Char) : Stops (", ".toList ++ rest) := stops_cons rfl _
      obtain ⟨rfl, hsame⟩ := compact_append_inj hfields.2.1 hfields'.2.1 hvalue
        (hcomma _) (hcomma _) hinside
      obtain ⟨hnext, hend⟩ := fieldsText_append_inj hfields.2.2 hfields'.2.2 hmore hrest hrest'
        (List.append_cancel_left hsame)
      exact ⟨by rw [hnext], hend⟩

end

theorem compact_inj {a b : Inspect} (ha : a.Plain) (hb : b.Plain) (hframe : a.frame = b.frame)
    (h : a.compact = b.compact) : a = b :=
  (compact_append_inj ha hb hframe stops_nil stops_nil (by rw [h])).1

mutual

theorem unbroken_compact {a : Inspect} (h : a.Plain) : Unbroken a.compact := by
  match a with
  | .word w => exact h.1
  | .text s => exact Quoted.unbroken_quote s
  | .wrap name content =>
    exact ((h.1.append (by decide)).append (unbroken_compact h.2)).append (by decide)
  | .record name fields =>
    refine ((h.1.append (by decide)).append ?_).append (by decide)
    exact unbroken_fieldsText h.2

theorem unbroken_fieldsText {fields : List (String × Inspect)} (h : PlainFields fields) :
    ∀ c ∈ fieldsText fields, ¬Breaks c := by
  match fields with
  | [] => exact nofun
  | [(field, value)] =>
    have hcolon : Unbroken ": " := by decide
    rw [fieldsText_singleton]
    simp only [List.forall_mem_append]
    exact ⟨h.1, hcolon, unbroken_compact h.2.1⟩
  | (field, value) :: next :: more =>
    have hcolon : Unbroken ": " := by decide
    have hcomma : Unbroken ", " := by decide
    rw [fieldsText_cons_cons]
    simp only [List.forall_mem_append]
    exact ⟨h.1, hcolon, unbroken_compact h.2.1, hcomma, unbroken_fieldsText h.2.2⟩

end

theorem length_entry (name : String) (lines : List String) :
    (entry name lines).length = max 1 lines.length := by
  match lines with
  | [] => rfl
  | [line] => rfl
  | first :: next :: more => simp [entry]

theorem dropLast_append_getLastD {lines : List String} (h : lines ≠ []) :
    lines.dropLast ++ [lines.getLastD ""] = lines := by
  rw [List.getLastD_eq_getLast?, List.getLast?_eq_some_getLast h]
  exact List.dropLast_append_getLast h

theorem entry_inj {name : String} {lines lines' : List String}
    (hlength : lines.length = lines'.length) (h : entry name lines = entry name lines') :
    lines = lines' := by
  match lines, lines' with
  | [], [] => rfl
  | [line], [line'] =>
    have hline := (List.cons.inj h).1
    rw [String.append_left_inj, String.append_right_inj] at hline
    rw [hline]
  | first :: next :: more, first' :: next' :: more' =>
    obtain ⟨hfirst, hrest⟩ := List.cons.inj h
    obtain ⟨hfront, hlast⟩ := List.append_inj' hrest rfl
    rw [String.append_right_inj] at hfirst
    rw [List.cons.injEq, String.append_left_inj] at hlast
    rw [hfirst, ← dropLast_append_getLastD (List.cons_ne_nil next more), hfront, hlast.1,
      dropLast_append_getLastD (List.cons_ne_nil next' more')]

theorem indent_inj {lines lines' : List String} (h : indent lines = indent lines') :
    lines = lines' :=
  List.map_injective_iff.mpr (fun _ _ => (String.append_right_inj _).mp) h

mutual

theorem length_lines (a : Inspect) : a.frame.lines.length = a.lines.length := by
  match a with
  | .word w => rfl
  | .text s => rfl
  | .wrap name content =>
    simp [frame, lines, indent, length_entry, length_lines content]
  | .record name fields =>
    simp [frame, lines, length_fieldLines fields]

theorem length_fieldLines (fields : List (String × Inspect)) :
    (fieldLines (frameFields fields)).length = (fieldLines fields).length := by
  match fields with
  | [] => rfl
  | (field, value) :: more =>
    simp [frameFields, fieldLines, indent, length_entry, length_lines value,
      length_fieldLines more]

end

theorem length_lines_of_frame {a b : Inspect} (h : a.frame = b.frame) :
    a.lines.length = b.lines.length := by
  rw [← length_lines a, h, length_lines b]

mutual

theorem lines_inj {a b : Inspect} (hframe : a.frame = b.frame) (h : a.lines = b.lines) :
    a = b := by
  match a, b with
  | .word w, .word w' => exact congrArg word (List.cons.inj h).1
  | .text s, .text s' => exact congrArg text (Quoted.quote_inj (List.cons.inj h).1)
  | .wrap name content, .wrap name' content' =>
    obtain ⟨rfl, hcontent⟩ := wrap.inj hframe
    have hinside := List.append_cancel_right (List.cons.inj h).2
    have hlines := entry_inj (length_lines_of_frame hcontent) (indent_inj hinside)
    rw [lines_inj hcontent hlines]
  | .record name fields, .record name' fields' =>
    obtain ⟨rfl, hfields⟩ := record.inj hframe
    have hinside := List.append_cancel_right (List.cons.inj h).2
    rw [fieldLines_inj hfields hinside]

theorem fieldLines_inj {fields fields' : List (String × Inspect)}
    (hframe : frameFields fields = frameFields fields')
    (h : fieldLines fields = fieldLines fields') : fields = fields' := by
  match fields, fields' with
  | [], [] => rfl
  | (field, value) :: more, (field', value') :: more' =>
    obtain ⟨hhead, hmore⟩ := List.cons.inj hframe
    obtain ⟨rfl, hvalue⟩ := Prod.mk.inj hhead
    have hlength := length_lines_of_frame hvalue
    have hentry : (indent (entry (field ++ ": ") value.lines)).length =
        (indent (entry (field ++ ": ") value'.lines)).length := by
      simp [indent, length_entry, hlength]
    obtain ⟨hfirst, hrest⟩ := List.append_inj h hentry
    rw [lines_inj hvalue (entry_inj hlength (indent_inj hfirst)), fieldLines_inj hmore hrest]

end

theorem unbroken_entry {name : String} {lines : List String} (hname : Unbroken name)
    (hlines : ∀ line ∈ lines, Unbroken line) : ∀ line ∈ entry name lines, Unbroken line := by
  have hcomma : Unbroken "," := by decide
  match lines with
  | [] => exact List.forall_mem_singleton.mpr (hname.append hcomma)
  | [line] =>
    have hline := hlines line (List.mem_singleton.mpr rfl)
    exact List.forall_mem_singleton.mpr ((hname.append hline).append hcomma)
  | first :: next :: more =>
    obtain ⟨hfirst, hrest⟩ := List.forall_mem_cons.mp hlines
    rw [← dropLast_append_getLastD (List.cons_ne_nil next more), List.forall_mem_append,
      List.forall_mem_singleton] at hrest
    simp only [entry, List.cons_append, List.forall_mem_cons, List.forall_mem_append]
    exact ⟨hname.append hfirst, hrest.1, hrest.2.append hcomma, nofun⟩

theorem unbroken_indent {lines : List String} (h : ∀ line ∈ lines, Unbroken line) :
    ∀ line ∈ indent lines, Unbroken line := by
  have hspaces : Unbroken "    " := by decide
  exact List.forall_mem_map.mpr fun line hline => hspaces.append (h line hline)

mutual

theorem unbroken_lines {a : Inspect} (h : a.Plain) : ∀ line ∈ a.lines, Unbroken line := by
  match a with
  | .word w => exact List.forall_mem_singleton.mpr h.1
  | .text s => exact List.forall_mem_singleton.mpr (Quoted.unbroken_quote s)
  | .wrap name content =>
    simp only [lines, List.cons_append, List.forall_mem_cons, List.forall_mem_append]
    exact ⟨h.1.append (by decide),
      unbroken_indent (unbroken_entry (by decide) (unbroken_lines h.2)), by decide⟩
  | .record name fields =>
    simp only [lines, List.cons_append, List.forall_mem_cons, List.forall_mem_append]
    exact ⟨h.1.append (by decide), unbroken_fieldLines h.2, by decide⟩

theorem unbroken_fieldLines {fields : List (String × Inspect)} (h : PlainFields fields) :
    ∀ line ∈ fieldLines fields, Unbroken line := by
  match fields with
  | [] => exact nofun
  | (field, value) :: more =>
    exact List.forall_mem_append.mpr
      ⟨unbroken_indent (unbroken_entry (h.1.append (by decide)) (unbroken_lines h.2.1)),
        unbroken_fieldLines h.2.2⟩

end

theorem lines_ne_nil (a : Inspect) : a.lines ≠ [] := by
  cases a with
  | word w => exact List.cons_ne_nil _ _
  | text s => exact List.cons_ne_nil _ _
  | wrap name content => exact List.cons_ne_nil _ _
  | record name fields => exact List.cons_ne_nil _ _

theorem splitOn_pretty {a : Inspect} (h : a.Plain) :
    a.pretty.toList.splitOn '\n' = a.lines.map String.toList := by
  have hbreak : Breaks '\n' := by decide
  have hlines : ∀ line ∈ a.lines.map String.toList, '\n' ∉ line :=
    List.forall_mem_map.mpr fun line hline hmem => unbroken_lines h line hline _ hmem hbreak
  rw [pretty, String.toList_intercalate]
  exact List.splitOn_intercalate '\n' hlines (by simpa using lines_ne_nil a)

/-- The form with a line for each field tells values of one frame apart. -/
theorem pretty_inj {a b : Inspect} (ha : a.Plain) (hb : b.Plain) (hframe : a.frame = b.frame)
    (h : a.pretty = b.pretty) : a = b := by
  have hlines : a.lines.map String.toList = b.lines.map String.toList := by
    rw [← splitOn_pretty ha, h, splitOn_pretty hb]
  exact lines_inj hframe
    (List.map_injective_iff.mpr (fun _ _ => String.toList_inj.mp) hlines)

end Inspect

end Gatehouse.Text

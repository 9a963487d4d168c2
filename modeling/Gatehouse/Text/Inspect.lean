import Gatehouse.Text.Quoted

/-! Showing a value for a reader of logs: named fields in their order, either on one line or one
field a line. -/

namespace Gatehouse.Text

inductive Inspect where
  | word (text : String)
  | text (value : String)
  | wrap (name : String) (content : Inspect)
  | record (name : String) (fields : List (String × Inspect))

namespace Inspect

def number (n : Int) : Inspect := .word (toString n)

def option (f : α → Inspect) : Option α → Inspect
  | none => .word "None"
  | some a => .wrap "Some" (f a)

mutual

def compact : Inspect → String
  | .word w => w
  | .text s => Quoted.quote s
  | .wrap name content => name ++ "(" ++ compact content ++ ")"
  | .record name fields => name ++ " \x7b " ++ ", ".intercalate (compactFields fields) ++ " \x7d"

def compactFields : List (String × Inspect) → List String
  | [] => []
  | (field, value) :: rest => (field ++ ": " ++ compact value) :: compactFields rest

end

def entry (name : String) : List String → List String
  | [] => [name ++ ","]
  | [line] => [name ++ line ++ ","]
  | line :: lines =>
    (name ++ line) :: lines.dropLast ++ [lines.getLastD "" ++ ","]

def indent (lines : List String) : List String := lines.map ("    " ++ ·)

mutual

def lines : Inspect → List String
  | .word w => [w]
  | .text s => [Quoted.quote s]
  | .wrap name content => (name ++ "(") :: indent (entry "" (lines content)) ++ [")"]
  | .record name fields => (name ++ " \x7b") :: fieldLines fields ++ ["\x7d"]

def fieldLines : List (String × Inspect) → List String
  | [] => []
  | (field, value) :: rest => indent (entry (field ++ ": ") (lines value)) ++ fieldLines rest

end

def pretty (value : Inspect) : String := "\n".intercalate (lines value)

end Inspect

end Gatehouse.Text

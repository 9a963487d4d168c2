import Gatehouse.Text.Hex

/-! Writing JSON without blanks. Only quotes, backslashes and controls are escaped. -/

namespace Gatehouse.Json

inductive Value where
  | null
  | integer (value : Int)
  | text (value : String)
  | list (items : List Value)
  | object (members : List (String × Value))

namespace Value

def escape (c : Char) : List Char :=
  match c with
  | '"' => ['\\', '"']
  | '\\' => ['\\', '\\']
  | '\x08' => ['\\', 'b']
  | '\t' => ['\\', 't']
  | '\n' => ['\\', 'n']
  | '\x0c' => ['\\', 'f']
  | '\r' => ['\\', 'r']
  | c =>
    if c.toNat < 16 then '\\' :: 'u' :: '0' :: '0' :: '0' :: Text.hexDigits c.toNat
    else if c.toNat < 32 then '\\' :: 'u' :: '0' :: '0' :: Text.hexDigits c.toNat
    else [c]

def quoteChars (cs : List Char) : List Char := '"' :: cs.flatMap escape ++ ['"']

def quote (s : String) : String := String.ofList (quoteChars s.toList)

mutual

def render : Value → String
  | .null => "null"
  | .integer n => toString n
  | .text s => quote s
  | .list items => "[" ++ ",".intercalate (renderItems items) ++ "]"
  | .object members => "\x7b" ++ ",".intercalate (renderMembers members) ++ "\x7d"

def renderItems : List Value → List String
  | [] => []
  | item :: items => render item :: renderItems items

def renderMembers : List (String × Value) → List String
  | [] => []
  | (name, value) :: members => (quote name ++ ":" ++ render value) :: renderMembers members

end

def optional (name : String) (value : Option Value) : List (String × Value) :=
  match value with
  | some value => [(name, value)]
  | none => []

end Value

end Gatehouse.Json

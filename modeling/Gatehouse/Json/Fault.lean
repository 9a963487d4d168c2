import Gatehouse.Text.Quoted
import Gatehouse.Text.Utf8

/-! What can be wrong with a JSON text, and where. A place is kept as the input still ahead of it,
so readers need not count; lines and columns are worked out when a fault is told. -/

namespace Gatehouse.Json

inductive Found where
  | null
  | boolean (value : Bool)
  | integer (value : Int)
  | real (spelling : String)
  | text (value : String)
  | list
  | object
  deriving DecidableEq

namespace Found

def name : Found → String
  | null => "null"
  | boolean value => "boolean `" ++ toString value ++ "`"
  | integer value => "integer `" ++ toString value ++ "`"
  | real spelling => "floating point `" ++ spelling ++ "`"
  | text value => "string " ++ Text.Quoted.quote value
  | list => "sequence"
  | object => "map"

end Found

inductive Problem where
  | endInValue
  | endInList
  | endInObject
  | endInText
  | expectedColon
  | expectedListComma
  | expectedObjectComma
  | expectedLiteral
  | expectedValue
  | invalidEscape
  | invalidNumber
  | numberOutOfRange
  | invalidCodePoint
  | controlCharacter
  | keyNotText
  | loneSurrogate
  | brokenSurrogatePair
  | trailingComma
  | trailingCharacters
  | tooDeep
  | wrongType (found : Found) (expected : String)
  | wrongValue (found : Found) (expected : String)
  | wrongLength (length : Nat) (expected : String)
  | unknownVariant (name : String) (known : List String)
  | missingField (name : String)
  | duplicateField (name : String)
  | noVariant (name : String)
  deriving DecidableEq

namespace Problem

def message : Problem → String
  | endInValue => "EOF while parsing a value"
  | endInList => "EOF while parsing a list"
  | endInObject => "EOF while parsing an object"
  | endInText => "EOF while parsing a string"
  | expectedColon => "expected `:`"
  | expectedListComma => "expected `,` or `]`"
  | expectedObjectComma => "expected `,` or `\x7d`"
  | expectedLiteral => "expected ident"
  | expectedValue => "expected value"
  | invalidEscape => "invalid escape"
  | invalidNumber => "invalid number"
  | numberOutOfRange => "number out of range"
  | invalidCodePoint => "invalid unicode code point"
  | controlCharacter => "control character (\\u0000-\\u001F) found while parsing a string"
  | keyNotText => "key must be a string"
  | loneSurrogate => "lone leading surrogate in hex escape"
  | brokenSurrogatePair => "unexpected end of hex escape"
  | trailingComma => "trailing comma"
  | trailingCharacters => "trailing characters"
  | tooDeep => "recursion limit exceeded"
  | wrongType found expected => "invalid type: " ++ found.name ++ ", expected " ++ expected
  | wrongValue found expected => "invalid value: " ++ found.name ++ ", expected " ++ expected
  | wrongLength length expected =>
    "invalid length " ++ toString length ++ ", expected " ++ expected
  | unknownVariant name known =>
    "unknown variant `" ++ name ++ "`, expected one of " ++
      ", ".intercalate (known.map fun one => "`" ++ one ++ "`")
  | missingField name => "missing field `" ++ name ++ "`"
  | duplicateField name => "duplicate field `" ++ name ++ "`"
  | noVariant name => "data did not match any variant of untagged enum " ++ name

end Problem

/-- A place in the input: what is ahead of it, and by how many columns it is told too far left. -/
structure Place where
  ahead : Bytes
  back : Nat
  deriving DecidableEq

structure Fault where
  problem : Problem
  place : Option Place
  deriving DecidableEq

namespace Fault

def settle (fault : Fault) (ahead : Bytes) : Fault :=
  match fault.place with
  | some _ => fault
  | none => { fault with place := some ⟨ahead, 0⟩ }

end Fault

structure Position where
  line : Nat
  column : Nat
  deriving DecidableEq

namespace Place

def lineFeed : UInt8 := 10

def position (input : Bytes) (place : Place) : Position :=
  let before := input.take (input.length - place.ahead.length)
  ⟨1 + before.count lineFeed, (before.reverse.takeWhile (· != lineFeed)).length - place.back⟩

end Place

structure Error where
  problem : Problem
  position : Option Position
  deriving DecidableEq

namespace Error

def message (error : Error) : String :=
  match error.position with
  | some ⟨line, column⟩ =>
    error.problem.message ++ " at line " ++ toString line ++ " column " ++ toString column
  | none => error.problem.message

end Error

end Gatehouse.Json

import Gatehouse.Json.Reader
import Gatehouse.Text.Hex

/-! Texts between double quotes. A text is collected as bytes, escapes worked out, and has to be
valid UTF-8 as a whole; a text that is only skipped need not be. -/

namespace Gatehouse.Json.Reader

def quoteByte : UInt8 := 34

def backslashByte : UInt8 := 92

def isPlain (b : UInt8) : Bool := 32 ≤ b && b != quoteByte && b != backslashByte

def hexUnit : Reader Nat := fun s =>
  match s with
  | a :: b :: c :: d :: rest =>
    match [a, b, c, d].mapM fun digit => Text.hexValue? digit.toNat with
    | some values => (.ok (values.foldl (fun n value => 16 * n + value) 0), rest)
    | none => fail .invalidEscape rest
  | _ => fail .endInText []

def isLeading (unit : Nat) : Bool := 0xd800 ≤ unit && unit ≤ 0xdbff

def isTrailing (unit : Nat) : Bool := 0xdc00 ≤ unit && unit ≤ 0xdfff

def joinPair (leading trailing : Nat) : Char :=
  Char.ofNat ((leading - 0xd800) * 0x400 + (trailing - 0xdc00) + 0x10000)

def expectPair (c : Char) : Reader Unit := do
  match ← peek? with
  | none => fail .endInText
  | some found => do
    advance
    if found = c then return else fail .brokenSurrogatePair

/-- The character of a `\u` escape; one outside the first plane takes two of them. -/
def unicodeEscape : Reader Char := do
  let unit ← hexUnit
  if isTrailing unit then fail .loneSurrogate
  else if isLeading unit then do
    expectPair '\\'
    expectPair 'u'
    let second ← hexUnit
    if isTrailing second then return joinPair unit second else fail .loneSurrogate
  else return Char.ofNat unit

def shortEscape? : Char → Option Char
  | '"' => some '"'
  | '\\' => some '\\'
  | '/' => some '/'
  | 'b' => some '\x08'
  | 'f' => some '\x0c'
  | 'n' => some '\n'
  | 'r' => some '\r'
  | 't' => some '\t'
  | _ => none

def escape : Reader Bytes := do
  match ← next? with
  | none => fail .endInText
  | some 'u' => do return String.utf8EncodeChar (← unicodeEscape)
  | some letter =>
    match shortEscape? letter with
    | some c => return String.utf8EncodeChar c
    | none => fail .invalidEscape

/-- Passes an escape by; surrogates need no partner. -/
def skipEscape : Reader Bytes := do
  match ← next? with
  | none => fail .endInText
  | some 'u' => do
    let _ ← hexUnit
    return []
  | some letter => if (shortEscape? letter).isSome then return [] else fail .invalidEscape

def refuseControl : Reader Bytes := do
  advance
  fail .controlCharacter

def textStep (escape control : Reader Bytes) (done : Bytes) : Reader (Turn Bytes) := do
  let plain ← takeWhile isPlain
  match ← peek? with
  | none => fail .endInText
  | some '"' => do
    advance
    return .last (done ++ plain)
  | some '\\' => do
    advance
    return .more (done ++ (plain ++ (← escape)))
  | some _ => do
    return .more (done ++ (plain ++ (← control)))

def textBytes : Reader Bytes := iterate (textStep escape refuseControl) []

def text : Reader String := do
  let bytes ← textBytes
  match Text.Utf8.decode? bytes with
  | some s => return s
  | none => failBehind .invalidCodePoint (bytes.length - Text.Utf8.validLength bytes)

def skipText : Reader Unit := do
  let _ ← iterate (textStep skipEscape (fail .controlCharacter)) []

end Gatehouse.Json.Reader

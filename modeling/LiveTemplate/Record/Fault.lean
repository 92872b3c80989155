import LiveTemplate.Decimal.Shortest
import LiveTemplate.Text.Quoted
import LiveTemplate.Text.Utf8

namespace LiveTemplate.Record

/-- A value that stands where another kind of value belongs. -/
inductive Found where
  | null
  | boolean (b : Bool)
  | integer (i : Int)
  | float (x : Binary64)
  | string (s : List Char)
  | sequence
  | map
  deriving DecidableEq, Repr

def Found.text : Found → String
  | null => "null"
  | boolean b => "boolean `" ++ (if b then "true" else "false") ++ "`"
  | integer i => "integer `" ++ toString i ++ "`"
  | float x => "floating point `" ++ String.ofList x.toText ++ "`"
  | string s => "string " ++ String.ofList (quoted s)
  | sequence => "sequence"
  | map => "map"

inductive Reason where
  | endOfValue
  | endOfObject
  | endOfList
  | endOfString
  | noValue
  | noWord
  | keyNotString
  | noColon
  | noCommaOrBrace
  | noCommaOrBracket
  | trailingComma
  | trailingCharacters
  | invalidNumber
  | numberOutOfRange
  | controlCharacter
  | invalidEscape
  | loneSurrogate
  | endOfHexEscape
  | wrongType (found : Found) (wanted : String)
  | duplicateField (name : String)
  deriving DecidableEq, Repr

def Reason.text : Reason → String
  | endOfValue => "EOF while parsing a value"
  | endOfObject => "EOF while parsing an object"
  | endOfList => "EOF while parsing a list"
  | endOfString => "EOF while parsing a string"
  | noValue => "expected value"
  | noWord => "expected ident"
  | keyNotString => "key must be a string"
  | noColon => "expected `:`"
  | noCommaOrBrace => "expected `,` or `\x7d`"
  | noCommaOrBracket => "expected `,` or `]`"
  | trailingComma => "trailing comma"
  | trailingCharacters => "trailing characters"
  | invalidNumber => "invalid number"
  | numberOutOfRange => "number out of range"
  | controlCharacter => "control character (\\u0000-\\u001F) found while parsing a string"
  | invalidEscape => "invalid escape"
  | loneSurrogate => "lone leading surrogate in hex escape"
  | endOfHexEscape => "unexpected end of hex escape"
  | wrongType found wanted => "invalid type: " ++ found.text ++ ", expected " ++ wanted
  | duplicateField name => "duplicate field `" ++ name ++ "`"

/-- A reason, and the number of bytes that were left unread. -/
structure Fault where
  reason : Reason
  left : Nat
  deriving DecidableEq, Repr

namespace Fault

/-- A fault noticed before `rest`. -/
def before (reason : Reason) (rest : List Char) : Fault := ⟨reason, byteLength rest⟩

/-- A fault of the first byte of `rest`, if any is left. -/
def within (reason : Reason) (rest : List Char) : Fault := ⟨reason, byteLength rest - 1⟩

/-- A fault of the end of the text. -/
def atEnd (reason : Reason) : Fault := ⟨reason, 0⟩

end Fault

/-- The line and column that lie `offset` bytes further. -/
def locate (line column offset : Nat) : List Char → Nat × Nat
  | [] => (line, column)
  | c :: rest =>
    if offset < c.utf8Size then (line, column + offset)
    else if c = '\n' then locate (line + 1) 0 (offset - 1) rest
    else locate line (column + c.utf8Size) (offset - c.utf8Size) rest

/-- What is wrong with a text, and where. -/
def Fault.message (f : Fault) (text : List Char) : String :=
  let (line, column) := locate 1 0 (byteLength text - f.left) text
  f.reason.text ++ " at line " ++ toString line ++ " column " ++ toString column

end LiveTemplate.Record

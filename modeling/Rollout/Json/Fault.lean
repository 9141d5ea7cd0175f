import Rollout.Decimal
import Rollout.Unicode.Quoted

/-!
Why a JSON text is refused. A reader stops at the first problem in text order, so a fault names
one cause. Three classes: the text ended too early, the text is malformed, or it is well formed so
far and does not fit the type that is read.
-/
namespace Rollout.Json

/-- What stood where another kind of value was wanted. -/
inductive Found where
  | null
  | boolean (b : Bool)
  | integer (n : Int)
  | float (bits : UInt64)
  | text (s : String)
  | sequence
  | map
  deriving Repr, DecidableEq

/-- The cause of a refusal. -/
inductive Fault where
  | endOfList
  | endOfObject
  | endOfString
  | endOfValue
  | expectedColon
  | expectedListEnd
  | expectedObjectEnd
  | expectedLiteral
  | expectedValue
  | badEscape
  | badNumber
  | numberOutOfRange
  | badCodePoint
  | controlCharacter
  | keyNotString
  | loneSurrogate
  | cutSurrogate
  | trailingComma
  | trailingText
  | tooDeep
  | wrongType (found : Found) (expected : String)
  | wrongValue (n : Int) (expected : String)
  | wrongLength (n : Nat) (name : String) (count : Nat)
  | unknownVariant (found : String) (known : List String)
  | missingField (name : String)
  | duplicateField (name : String)
  deriving Repr, DecidableEq

/-- The class of a fault. -/
inductive FaultClass where
  | truncated
  | malformed
  | unfit
  deriving Repr, DecidableEq

def Fault.class : Fault → FaultClass
  | .endOfList | .endOfObject | .endOfString | .endOfValue => .truncated
  | .wrongType _ _ | .wrongValue _ _ | .wrongLength _ _ _ | .unknownVariant _ _
  | .missingField _ | .duplicateField _ => .unfit
  | _ => .malformed

/-- How a message speaks of what it found. A text is quoted, so that the message is one line. -/
def Found.message : Found → String
  | .null => "null"
  | .boolean b => "boolean `" ++ (if b then "true" else "false") ++ "`"
  | .integer n => "integer `" ++ toString n ++ "`"
  | .float bits => "floating point `" ++ Decimal.textOfBits bits ++ "`"
  | .text s => "string " ++ Unicode.quoted s
  | .sequence => "sequence"
  | .map => "map"

/-- Names in backticks, with commas between them. -/
def quotedNames (names : List String) : String :=
  ", ".intercalate (names.map fun n => "`" ++ n ++ "`")

/-- The wording of a fault. -/
def Fault.message : Fault → String
  | .endOfList => "EOF while parsing a list"
  | .endOfObject => "EOF while parsing an object"
  | .endOfString => "EOF while parsing a string"
  | .endOfValue => "EOF while parsing a value"
  | .expectedColon => "expected `:`"
  | .expectedListEnd => "expected `,` or `]`"
  | .expectedObjectEnd => "expected `,` or `\x7d`"
  | .expectedLiteral => "expected ident"
  | .expectedValue => "expected value"
  | .badEscape => "invalid escape"
  | .badNumber => "invalid number"
  | .numberOutOfRange => "number out of range"
  | .badCodePoint => "invalid unicode code point"
  | .controlCharacter => "control character (\\u0000-\\u001F) found while parsing a string"
  | .keyNotString => "key must be a string"
  | .loneSurrogate => "lone leading surrogate in hex escape"
  | .cutSurrogate => "unexpected end of hex escape"
  | .trailingComma => "trailing comma"
  | .trailingText => "trailing characters"
  | .tooDeep => "recursion limit exceeded"
  | .wrongType found expected => "invalid type: " ++ found.message ++ ", expected " ++ expected
  | .wrongValue n expected => "invalid value: integer `" ++ toString n ++ "`, expected " ++ expected
  | .wrongLength n name count =>
    "invalid length " ++ toString n ++ ", expected struct " ++ name ++ " with " ++ toString count
      ++ (if count = 1 then " element" else " elements")
  | .unknownVariant found known =>
    "unknown variant `" ++ found ++ "`, expected one of " ++ quotedNames known
  | .missingField name => "missing field `" ++ name ++ "`"
  | .duplicateField name => "duplicate field `" ++ name ++ "`"

end Rollout.Json

import UnlockProof.Json.Number
import UnlockProof.Text.Quoted

/-!
# Faults of JSON documents

A document fails because its text is no JSON, or because a value is not of the shape that is
wanted. Both kinds of fault have one type, because a reader reports whichever comes first.
-/

namespace UnlockProof.Json

/-- What a document holds in place of the wanted value. -/
inductive Found where
  | null
  | bool (b : Bool)
  | number (n : Number)
  | string (s : String)
  | list
  | object

/-- Names what was found. -/
def Found.describe : Found → String
  | null => "null"
  | bool b => s!"boolean \x60{b}\x60"
  | number (.double s m) =>
      let text := String.ofList (Number.double s m).render
      s!"floating point \x60{text}\x60"
  | number n =>
      let text := String.ofList n.render
      s!"integer \x60{text}\x60"
  | string s =>
      let text := Text.quoted s
      s!"string {text}"
  | list => "sequence"
  | object => "map"

/-- Why a document cannot be read. -/
inductive Fault where
  /-- The text ends where a value should stand or inside one. -/
  | endInValue
  /-- The text ends inside a list. -/
  | endInList
  /-- The text ends inside an object. -/
  | endInObject
  /-- The text ends inside a string. -/
  | endInString
  /-- No value starts here. -/
  | noValue
  /-- One of the three words is misspelt. -/
  | noWord
  /-- A key is not followed by a colon. -/
  | noColon
  /-- An item is followed by neither a comma nor the end of its list. -/
  | noListComma
  /-- A member is followed by neither a comma nor the end of its object. -/
  | noObjectComma
  /-- A comma stands before the end of a list or object. -/
  | trailingComma
  /-- The document goes on after its value. -/
  | trailingCharacters
  /-- A key is no string. -/
  | keyNotString
  /-- A number literal is malformed. -/
  | badNumber
  /-- A number is too large. -/
  | numberRange
  /-- A backslash is followed by no escape. -/
  | badEscape
  /-- The second half of a surrogate pair is missing or the first half is. -/
  | loneSurrogate
  /-- The first half of a surrogate pair is followed by no escape. -/
  | halfPair
  /-- A string holds a control character. -/
  | control
  /-- Lists and objects are nested too deeply. -/
  | tooDeep
  /-- A value of another type is found. -/
  | wrongType (found : Found) (wanted : String)
  /-- A value of the right type is found that is not allowed. -/
  | wrongValue (found : Found) (wanted : String)
  /-- A list has another length. -/
  | wrongLength (length : Nat) (wanted : String)
  /-- A member is missing. -/
  | missing (key : String)
  /-- A member occurs twice. -/
  | duplicate (key : String)
  /-- A value fits none of the forms of a type. -/
  | noForm (type : String)
  /-- A value is refused for a reason of its own. -/
  | refused (reason : String)

/-- The text of a fault. -/
def Fault.message : Fault → String
  | endInValue => "EOF while parsing a value"
  | endInList => "EOF while parsing a list"
  | endInObject => "EOF while parsing an object"
  | endInString => "EOF while parsing a string"
  | noValue => "expected value"
  | noWord => "expected ident"
  | noColon => "expected \x60:\x60"
  | noListComma => "expected \x60,\x60 or \x60]\x60"
  | noObjectComma => "expected \x60,\x60 or \x60\x7d\x60"
  | trailingComma => "trailing comma"
  | trailingCharacters => "trailing characters"
  | keyNotString => "key must be a string"
  | badNumber => "invalid number"
  | numberRange => "number out of range"
  | badEscape => "invalid escape"
  | loneSurrogate => "lone leading surrogate in hex escape"
  | halfPair => "unexpected end of hex escape"
  | control => "control character (\\u0000-\\u001F) found while parsing a string"
  | tooDeep => "recursion limit exceeded"
  | wrongType found wanted => "invalid type: " ++ found.describe ++ ", expected " ++ wanted
  | wrongValue found wanted => "invalid value: " ++ found.describe ++ ", expected " ++ wanted
  | wrongLength length wanted => s!"invalid length {length}, expected {wanted}"
  | missing key => s!"missing field \x60{key}\x60"
  | duplicate key => s!"duplicate field \x60{key}\x60"
  | noForm type => s!"data did not match any variant of untagged enum {type}"
  | refused reason => reason

end UnlockProof.Json

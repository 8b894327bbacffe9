import UnlockProof.Json.Number
import UnlockProof.Text.Basic

/-!
# JSON values

Values and their text. The members of an object are kept in the order of their keys, each key
once; a later member takes the place of an earlier one with the same key.
-/

namespace UnlockProof.Json

/-- A JSON value. -/
inductive Value where
  | null
  | bool (b : Bool)
  | number (n : Number)
  | string (s : String)
  | array (items : List Value)
  | object (members : List (String × Value))

namespace Value

/-- Puts a member into a list ordered by key, in place of a member with the same key. -/
def put (key : String) (value : Value) : List (String × Value) → List (String × Value)
  | [] => [(key, value)]
  | m :: rest =>
      if key < m.1 then (key, value) :: m :: rest
      else if key = m.1 then (key, value) :: rest
      else m :: put key value rest

/-- An object with the given members; of members with the same key the last one counts. -/
def ofMembers (members : List (String × Value)) : Value :=
  object (members.foldl (fun acc m => put m.1 m.2 acc) [])

/-- The value under a key. -/
def member? (key : String) (members : List (String × Value)) : Option Value :=
  (members.find? fun m => m.1 = key).map Prod.snd

/-- A natural number below `2 ^ 64` as a value. -/
def ofUInt64 (n : UInt64) : Value := number (.natural n)

/-- A character inside a string of a JSON text. -/
def escapeChar (c : Char) : List Char :=
  if c = '"' then ['\\', '"']
  else if c = '\\' then ['\\', '\\']
  else if c = '\n' then ['\\', 'n']
  else if c = '\r' then ['\\', 'r']
  else if c = '\t' then ['\\', 't']
  else if c = '\x08' then ['\\', 'b']
  else if c = '\x0c' then ['\\', 'f']
  else if c.toNat < 0x20 then
    let ds := Text.hexDigits c.toNat
    '\\' :: 'u' :: List.replicate (4 - ds.length) '0' ++ ds
  else [c]

/-- The text of a string. -/
def renderString (s : String) : List Char := '"' :: s.toList.flatMap escapeChar ++ ['"']

mutual
/-- The text of a value, without any space. -/
def renderChars : Value → List Char
  | null => "null".toList
  | bool true => "true".toList
  | bool false => "false".toList
  | number n => n.render
  | string s => renderString s
  | array [] => ['[', ']']
  | array (v :: rest) => '[' :: renderChars v ++ renderItems rest
  | object [] => ['{', '}']
  | object ((k, v) :: rest) => '{' :: renderString k ++ ':' :: renderChars v ++ renderMembers rest
/-- The text of the remaining items of an array. -/
def renderItems : List Value → List Char
  | [] => [']']
  | v :: rest => ',' :: renderChars v ++ renderItems rest
/-- The text of the remaining members of an object. -/
def renderMembers : List (String × Value) → List Char
  | [] => ['}']
  | (k, v) :: rest => ',' :: renderString k ++ ':' :: renderChars v ++ renderMembers rest
end

/-- The text of a value. -/
def render (v : Value) : String := String.ofList v.renderChars

end Value
end UnlockProof.Json

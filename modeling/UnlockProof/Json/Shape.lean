import UnlockProof.Json.Tree

/-!
# Reading typed values

Readers of the scalar types and of records. A record is an object with named members or a list of
the same values in the order of their declaration.

## Implementation notes

A text that is read straight into a record is read in its own order: members that nobody knows are
skipped, a second member of a known name is a fault, and what is missing shows at the end. A value
that was read before without regard to its type is ordered by key, and that order decides which of
several faults is reported.
-/

namespace UnlockProof.Json

/-- A member of a record: its name, what its value must pass and whether a list may end before it.
-/
structure Member (δ : Type) where
  key : String
  check : δ → Except Fault Unit
  mayLack : Bool

/-- The member that a reader reads. -/
def Member.of {δ α : Type} (key : String) (read : δ → Except Fault α) : Member δ :=
  ⟨key, fun d => (read d).map fun _ => (), false⟩

/-- The member that a reader reads and before which a list may end. -/
def Member.lacking {δ α : Type} (key : String) (read : δ → Except Fault α) : Member δ :=
  ⟨key, fun d => (read d).map fun _ => (), true⟩

/-- The values of a record that were found, by name. -/
abbrev Found.Members (δ : Type) := List (String × δ)

namespace Found.Members
variable {δ α : Type}

/-- The value of a member. -/
def get? (found : Found.Members δ) (key : String) : Option δ :=
  (found.find? fun m => m.1 = key).map Prod.snd

/-- Reads a member that must be there. -/
def need (found : Found.Members δ) (key : String) (read : δ → Except Fault α) : Except Fault α :=
  match found.get? key with
  | some d => read d
  | none => .error (.missing key)

/-- Reads a member that may be missing. -/
def orElse (found : Found.Members δ) (key : String) (read : δ → Except Fault α) (default : α) :
    Except Fault α :=
  match found.get? key with
  | some d => read d
  | none => .ok default

end Found.Members

/-- The name of a record with the number of its members. -/
def recordName (name : String) (count : Nat) : String := s!"struct {name} with {count} elements"

namespace Tree

/-- The fault of a tree that is not what is wanted. A broken place counts first. -/
def mismatch (wanted : String) : Tree → Fault
  | null => .wrongType .null wanted
  | bool b => .wrongType (.bool b) wanted
  | number (.ok n) => .wrongType (.number n) wanted
  | number (.error f) => f
  | string (.ok s) => .wrongType (.string s) wanted
  | string (.error f) => f
  | list .. => .wrongType .list wanted
  | object .. => .wrongType .object wanted
  | broken reading _ => reading

/-- Reads a string. -/
def asString : Tree → Except Fault String
  | string content => content
  | t => .error (t.mismatch "a string")

/-- Reads a truth value. -/
def asBool : Tree → Except Fault Bool
  | bool b => .ok b
  | t => .error (t.mismatch "a boolean")

/-- Reads a natural number of the type `wanted`, which is below a bound of at most `2 ^ 64`. -/
def asNatural (wanted : String) (bound : Nat) : Tree → Except Fault Nat
  | number (.ok (.natural n)) =>
      if n.toNat < bound then .ok n.toNat else .error (.wrongValue (.number (.natural n)) wanted)
  | number (.ok (.negative n)) => .error (.wrongValue (.number (.negative n)) wanted)
  | t => .error (t.mismatch wanted)

/-- Reads a natural number below `2 ^ 64`. -/
def asUInt64 (t : Tree) : Except Fault UInt64 := (t.asNatural "u64" UInt64.size).map UInt64.ofNat

/-- Reads a byte. -/
def asByte (t : Tree) : Except Fault UInt8 := (t.asNatural "u8" 256).map UInt8.ofNat

/-- Reads a whole number from `-2 ^ 63` to `2 ^ 63 - 1`. -/
def asInt64 : Tree → Except Fault Int64
  | number (.ok (.double s m)) => .error (.wrongType (.number (.double s m)) "i64")
  | number (.ok n) =>
      match n.toInt64? with
      | some i => .ok i
      | none => .error (.wrongValue (.number n) "i64")
  | t => .error (t.mismatch "i64")

/-- Reads a value that may be null. -/
def optional {α : Type} (read : Tree → Except Fault α) : Tree → Except Fault (Option α)
  | null => .ok none
  | t => (read t).map some

/-- The values of the members of an object, in the order of the text. -/
def collect (members : List (Member Tree)) (found : Found.Members Tree) :
    List (Except Fault String × Tree) → Except Fault (Found.Members Tree)
  | [] => .ok found
  | (key, t) :: rest => do
      let k ← key
      match members.find? fun m => m.key = k with
      | none =>
          t.skip
          collect members found rest
      | some m =>
          if (found.get? k).isSome then throw (.duplicate k)
          m.check t
          collect members ((k, t) :: found) rest

/-- The values of the items of a list, and the items left over. -/
def take (wanted : String) (ending : Ending) (place : Nat) :
    List (Member Tree) → List Tree → Except Fault (Found.Members Tree × List Tree)
  | [], items => .ok ([], items)
  | m :: members, t :: items => do
      m.check t
      let (found, left) ← take wanted ending (place + 1) members items
      return ((m.key, t) :: found, left)
  | m :: members, [] => do
      orFault (listFault ending)
      if m.mayLack then take wanted ending (place + 1) members []
      else throw (.wrongLength place wanted)

/-- The fault that a reader meets who wants nothing more from a list. -/
def leftOver : List Tree → Ending → Option Fault
  | [], .closed => none
  | [], .cut => some .endInList
  | [], .danglingComma => some .trailingComma
  | _, _ => some .trailingCharacters

/-- The values of a record with the given members. -/
def record (name : String) (members : List (Member Tree)) :
    Tree → Except Fault (Found.Members Tree)
  | object ms ending => do
      let found ← collect members [] ms
      orFault (objectFault ending)
      return found
  | list items ending => do
      let (found, left) ← take (recordName name members.length) ending 0 members items
      orFault (leftOver left ending)
      return found
  | t => .error (t.mismatch s!"struct {name}")

end Tree

namespace Value

/-- What a value is called in a fault. -/
def toFound : Value → Found
  | null => .null
  | bool b => .bool b
  | number n => .number n
  | string s => .string s
  | array _ => .list
  | object _ => .object

/-- Reads a string. -/
def asString : Value → Except Fault String
  | string s => .ok s
  | v => .error (.wrongType v.toFound "a string")

/-- Reads a value that may be null. -/
def optional {α : Type} (read : Value → Except Fault α) : Value → Except Fault (Option α)
  | null => .ok none
  | v => (read v).map some

/-- Reads a list of values of one type. -/
def asList {α : Type} (read : Value → Except Fault α) : Value → Except Fault (List α)
  | array vs => vs.mapM read
  | v => .error (.wrongType v.toFound "a sequence")

/-- Checks the members that an object has, in the order of their keys. -/
def checkMembers (object : List (String × Value)) (members : List (Member Value)) :
    Except Fault Unit :=
  (members.mergeSort fun a b => decide (a.key ≤ b.key)).forM fun m =>
    match member? m.key object with
    | some v => m.check v
    | none => .ok ()

/-- The values of the items of a list, and the number of items left over. -/
def take (wanted : String) (place : Nat) :
    List (Member Value) → List Value → Except Fault (Found.Members Value × Nat)
  | [], items => .ok ([], items.length)
  | m :: members, v :: items => do
      m.check v
      let (found, left) ← take wanted (place + 1) members items
      return ((m.key, v) :: found, left)
  | m :: members, [] =>
      if m.mayLack then take wanted (place + 1) members [] else .error (.wrongLength place wanted)

/-- The values of a record with the given members. -/
def record (name : String) (members : List (Member Value)) :
    Value → Except Fault (Found.Members Value)
  | object ms => do
      checkMembers ms members
      return ms
  | array items => do
      let (found, left) ← take (recordName name members.length) 0 members items
      if left ≠ 0 then throw (.wrongLength items.length "fewer elements in array")
      return found
  | v => .error (.wrongType v.toFound s!"struct {name}")

end Value
end UnlockProof.Json

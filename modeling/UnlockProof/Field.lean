import UnlockProof.Failure

/-!
# Fields of an endpoint's answer

Each field is brought into its typed form by the one reader for its form. What cannot be brought
into that form is a mismatch that names the field.

## Implementation notes

Byte strings need their mark `0x` or `0X`; white space around a text does not matter.
-/

namespace UnlockProof.Field

/-- The failure of a field that has not its form. -/
def mismatch (field : String) (form : Form) (fault : FormFault) : Failure :=
  .encodingMismatch field (.form form fault)

/-- Reads marked hexadecimal text. -/
def decodeHex (field : String) (form : Form) (s : String) : Except Failure Bytes :=
  let cs := Text.trimmed s.toList
  match Quantity.unmarked? cs with
  | none => .error (mismatch field form (.unmarked (String.ofList cs)))
  | some ds =>
      match Hex.decodeChars ds with
      | .error f => .error (mismatch field form (.hex (String.ofList cs) f))
      | .ok bs => .ok bs

/-- Reads a byte string of fixed length. -/
def fixed (n : Nat) (form : Form) (field s : String) : Except Failure (FixedBytes n) :=
  match decodeHex field form s with
  | .error f => .error f
  | .ok bs =>
      match FixedBytes.ofList? bs with
      | some f => .ok f
      | none => .error (mismatch field form (.width bs.length))

/-- Reads a hash. -/
def hash (field s : String) : Except Failure Hash := fixed 32 .hash field s

/-- Reads a hash that may be absent. -/
def optionalHash (field : String) : Option String → Except Failure (Option Hash)
  | none => .ok none
  | some s => (hash field s).map some

/-- Reads an address. -/
def address (field s : String) : Except Failure Address := fixed 20 .address field s

/-- Reads a log filter. -/
def bloom (field s : String) : Except Failure Bloom := fixed 256 .bloom field s

/-- Reads a byte string of any length. -/
def bytes (field s : String) : Except Failure Bytes := decodeHex field .bytes s

/-- Reads a quantity of one form. -/
def quantity (form : Form) (field : String) (q : Quantity) : Except Failure U256 :=
  q.read.mapError fun f => mismatch field form (.quantity f)

/-- Narrows a number to 64 bits. -/
def narrow (form : Form) (field : String) (v : U256) : Except Failure UInt64 :=
  if v.toNat < UInt64.size then .ok (UInt64.ofNat v.toNat)
  else .error (mismatch field form (.tooWide v))

/-- Reads a number below `2 ^ 256`. -/
def integer (field : String) (q : Quantity) : Except Failure U256 := quantity .integer field q

/-- Reads a number below `2 ^ 64`. -/
def integer64 (field : String) (q : Quantity) : Except Failure UInt64 := do
  narrow .integer field (← quantity .integer field q)

/-- Reads a number that older blocks do not have. -/
def optionalInteger (field : String) : Option Quantity → Except Failure (Option UInt64)
  | none => .ok none
  | some q => do return some (← narrow .optionalInteger field (← quantity .optionalInteger field q))

/-- Reads a number that newer blocks may leave out; it is zero then. -/
def integerOrZero (field : String) : Option Quantity → Except Failure U256
  | none => .ok 0
  | some q => quantity .defaultedInteger field q

/-- Reads the nonce of a header, which may be written without its leading zeros. -/
def nonce (field : String) (q : Quantity) : Except Failure BlockNonce := do
  return bytesOfUInt64 (← narrow .nonce field (← quantity .nonce field q))

end UnlockProof.Field

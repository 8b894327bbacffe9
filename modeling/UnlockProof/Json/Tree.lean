import UnlockProof.Json.Fault
import UnlockProof.Json.Value

/-!
# JSON documents, read as far as they go

A tree holds what a text spells up to the first place where it stops being JSON. A typed reader
walks the tree in the order of the text and reports the first thing it cannot accept, be it a
fault of the text or a value of the wrong type.

## Implementation notes

A value that nobody asked for is skipped, and skipping is more lenient than reading: it bounds
neither nesting nor numbers and accepts half a surrogate pair, and it names some faults
differently. So a broken place holds two faults, for a reader and for one who skips, and numbers
and strings hold what is wrong with their content beside their place in the tree. Nothing follows
a broken place, because there the text is left.
-/

namespace UnlockProof.Json

/-- How a list or an object ends. -/
inductive Ending where
  /-- By its bracket. -/
  | closed
  /-- The text ends where a comma or the bracket should stand. -/
  | cut
  /-- Another character stands where a comma or the bracket should. -/
  | stray
  /-- By its bracket right after a comma. -/
  | danglingComma
  /-- The text ends after a comma. -/
  | cutAfterComma
  /-- No string stands where a key should. -/
  | noKey
  /-- The string of a key does not end properly. -/
  | brokenKey (reading skipping : Fault)

/-- What a text spells as far as it can be read. -/
inductive Tree where
  | null
  | bool (b : Bool)
  | number (content : Except Fault Number)
  | string (content : Except Fault String)
  | list (items : List Tree) (ending : Ending)
  | object (members : List (Except Fault String × Tree)) (ending : Ending)
  | broken (reading skipping : Fault)

/-- Tells whether a character is a space between the parts of a document. -/
def isSpace (c : Char) : Bool := c == ' ' || c == '\n' || c == '\t' || c == '\r'

/-- The value of a decimal digit. -/
def digit? (c : Char) : Option Nat :=
  if '0' ≤ c && c ≤ '9' then some (c.toNat - '0'.toNat) else none

/-- The digits at the start of a text and what follows them. -/
def digits : List Char → List Nat × List Char
  | [] => ([], [])
  | c :: rest =>
      match digit? c with
      | some d => let (ds, after) := digits rest; (d :: ds, after)
      | none => ([], c :: rest)

/-- The value of a hexadecimal digit of either case. -/
def hexDigit? (c : Char) : Option Nat :=
  if '0' ≤ c && c ≤ '9' then some (c.toNat - '0'.toNat)
  else if 'a' ≤ c && c ≤ 'f' then some (c.toNat - 'a'.toNat + 10)
  else if 'A' ≤ c && c ≤ 'F' then some (c.toNat - 'A'.toNat + 10)
  else none

/-- Reads the four digits of a numbered escape. Fewer than four bytes are the end of the text. -/
def hexUnit : List Char → Except Fault (Nat × List Char)
  | a :: b :: c :: d :: rest =>
      match hexDigit? a, hexDigit? b, hexDigit? c, hexDigit? d with
      | some a, some b, some c, some d => .ok (((a * 16 + b) * 16 + c) * 16 + d, rest)
      | _, _, _, _ => .error .badEscape
  | short => .error (if (Text.utf8 short).length < 4 then .endInString else .badEscape)

theorem length_of_hexUnit {cs rest : List Char} {n : Nat} (h : hexUnit cs = .ok (n, rest)) :
    rest.length < cs.length := by
  unfold hexUnit at h
  split at h
  · split at h
    · cases h; simp; omega
    · cases h
  · cases h

/-- The character of an escape of one letter. -/
def simpleEscape? : Char → Option Char
  | '"' => some '"'
  | '\\' => some '\\'
  | '/' => some '/'
  | 'b' => some '\x08'
  | 'f' => some '\x0c'
  | 'n' => some '\n'
  | 'r' => some '\r'
  | 't' => some '\t'
  | _ => none

/-- Reads what follows a backslash in a string. Two numbered escapes may form a pair. -/
def unescape : List Char → Except Fault (Char × List Char)
  | [] => .error .endInString
  | 'u' :: rest => do
      let (n, rest) ← hexUnit rest
      if 0xdc00 ≤ n && n ≤ 0xdfff then throw .loneSurrogate
      if 0xd800 ≤ n && n ≤ 0xdbff then
        match rest with
        | [] => throw .endInString
        | ['\\'] => throw .endInString
        | '\\' :: 'u' :: rest =>
            let (m, rest) ← hexUnit rest
            if 0xdc00 ≤ m && m ≤ 0xdfff then
              return (Char.ofNat (0x10000 + (n - 0xd800) * 0x400 + (m - 0xdc00)), rest)
            else throw .loneSurrogate
        | _ => throw .halfPair
      else return (Char.ofNat n, rest)
  | c :: rest =>
      match simpleEscape? c with
      | some e => .ok (e, rest)
      | none => .error .badEscape

theorem length_of_unescape {cs rest : List Char} {c : Char} (h : unescape cs = .ok (c, rest)) :
    rest.length < cs.length := by
  unfold unescape at h
  split at h
  · cases h
  · rename_i tail
    cases hu : hexUnit tail with
    | error e => simp [hu, bind, Except.bind] at h
    | ok p =>
        obtain ⟨n, after⟩ := p
        have hn := length_of_hexUnit hu
        simp only [hu, bind, Except.bind, pure, Except.pure] at h
        split at h
        · cases h
        · split at h
          · split at h
            · cases h
            · cases h
            · rename_i more
              cases hv : hexUnit more with
              | error e => simp [hv] at h
              | ok q =>
                  obtain ⟨m, last⟩ := q
                  have hm := length_of_hexUnit hv
                  simp only [hv] at h
                  split at h
                  · rw [← (Prod.mk.inj (Except.ok.inj h)).2]
                    simp only [List.length_cons] at hn hm ⊢
                    omega
                  · cases h
            · cases h
          · rw [← (Prod.mk.inj (Except.ok.inj h)).2]
            simp only [List.length_cons]
            omega
  · split at h
    · cases h; simp
    · cases h

/-- Reads a string after its opening quote; `before` holds what is read, backwards. -/
def readString (before : List Char) (cs : List Char) : Except Fault (String × List Char) :=
  match cs with
  | [] => .error .endInString
  | '"' :: rest => .ok (String.ofList before.reverse, rest)
  | '\\' :: rest =>
      match h : unescape rest with
      | .error f => .error f
      | .ok (c, after) =>
          have := length_of_unescape h
          readString (c :: before) after
  | c :: rest => if c.toNat < 0x20 then .error .control else readString (c :: before) rest
termination_by cs.length
decreasing_by
  all_goals simp only [List.length_cons]; omega

/-- Finds the end of a string after its opening quote without reading it. -/
def skipString (cs : List Char) : Except Fault (List Char) :=
  match cs with
  | [] => .error .endInString
  | '"' :: rest => .ok rest
  | ['\\'] => .error .endInString
  | '\\' :: 'u' :: rest =>
      match h : hexUnit rest with
      | .error f => .error f
      | .ok (_, after) =>
          have := length_of_hexUnit h
          skipString after
  | '\\' :: c :: rest => if (simpleEscape? c).isSome then skipString rest else .error .badEscape
  | c :: rest => if c.toNat < 0x20 then .error .control else skipString rest
termination_by cs.length
decreasing_by
  all_goals simp only [List.length_cons]; omega

/-- A string after its opening quote: its content and what follows it, or where it breaks. -/
def scanString (cs : List Char) : Except (Fault × Fault) (Except Fault String × List Char) :=
  let content := (readString [] cs).map Prod.fst
  match skipString cs with
  | .ok rest => .ok (content, rest)
  | .error skipping =>
      match content with
      | .error reading => .error (reading, skipping)
      | .ok _ => .error (skipping, skipping)

/-- The fault of a number literal that lacks a digit before the given rest of the text. -/
def noDigit (rest : List Char) : Fault × Fault :=
  (if rest.isEmpty then .endInValue else .badNumber, .badNumber)

/-- A number literal and what follows it, or where it breaks. -/
def scanNumber (cs : List Char) : Except (Fault × Fault) (Literal × List Char) := do
  let (isNegative, cs) := match cs with
    | '-' :: rest => (true, rest)
    | cs => (false, cs)
  let (whole, cs) := digits cs
  if whole.isEmpty then throw (noDigit cs)
  if whole.head? = some 0 && whole.length > 1 then throw (.badNumber, .badNumber)
  let (fraction, cs) ← match cs with
    | '.' :: rest =>
        let (ds, rest) := digits rest
        if ds.isEmpty then throw (noDigit rest) else pure (some ds, rest)
    | cs => pure (none, cs)
  let signed (isNegative : Bool) (rest : List Char) := do
    let (ds, after) := digits rest
    if ds.isEmpty then throw (noDigit after) else pure (some (isNegative, ds), after)
  let (exponent, cs) ← match cs with
    | 'e' :: '-' :: rest | 'E' :: '-' :: rest => signed true rest
    | 'e' :: '+' :: rest | 'E' :: '+' :: rest => signed false rest
    | 'e' :: rest | 'E' :: rest => signed false rest
    | cs => pure (none, cs)
  return (⟨isNegative, whole, fraction, exponent⟩, cs)

/-- Reads the rest of a word. -/
def scanWord : List Char → List Char → Except Fault (List Char)
  | [], cs => .ok cs
  | _ :: _, [] => .error .endInValue
  | w :: ws, c :: cs => if w = c then scanWord ws cs else .error .noWord

namespace Tree

/-- The rest of a text after a tree; none where the text broke off. -/
abbrev Rest := Option (List Char)

/-- A tree for the rest of a word. -/
def ofWord (word : List Char) (t : Tree) (cs : List Char) : Tree × Rest :=
  match scanWord word cs with
  | .ok rest => (t, some rest)
  | .error f => (broken f f, none)

mutual
/-- Reads a value. The first argument bounds the recursion. -/
def read : Nat → List Char → Tree × Rest
  | 0, _ => (broken .endInValue .endInValue, none)
  | fuel + 1, cs =>
      match cs.dropWhile isSpace with
      | [] => (broken .endInValue .endInValue, none)
      | 'n' :: rest => ofWord "ull".toList null rest
      | 't' :: rest => ofWord "rue".toList (bool true) rest
      | 'f' :: rest => ofWord "alse".toList (bool false) rest
      | '"' :: rest =>
          match scanString rest with
          | .ok (content, rest) => (string content, some rest)
          | .error (reading, skipping) => (broken reading skipping, none)
      | '[' :: rest =>
          match rest.dropWhile isSpace with
          | [] => (list [] .cut, none)
          | ']' :: rest => (list [] .closed, some rest)
          | rest =>
              let (items, ending, rest) := readItems fuel rest
              (list items ending, rest)
      | '{' :: rest =>
          match rest.dropWhile isSpace with
          | [] => (object [] .cut, none)
          | '}' :: rest => (object [] .closed, some rest)
          | rest =>
              let (members, ending, rest) := readMembers fuel rest
              (object members ending, rest)
      | c :: rest =>
          if c = '-' || (digit? c).isSome then
            match scanNumber (c :: rest) with
            | .ok (l, rest) =>
                (number (match l.toNumber with
                  | some n => .ok n
                  | none => .error .numberRange), some rest)
            | .error (reading, skipping) => (broken reading skipping, none)
          else (broken .noValue .noValue, none)
/-- Reads the items of a list, the first of which must be there. -/
def readItems : Nat → List Char → List Tree × Ending × Rest
  | 0, _ => ([], .cut, none)
  | fuel + 1, cs =>
      match read fuel cs with
      | (item, none) => ([item], .cut, none)
      | (item, some rest) =>
          match rest.dropWhile isSpace with
          | [] => ([item], .cut, none)
          | ']' :: rest => ([item], .closed, some rest)
          | ',' :: rest =>
              match rest.dropWhile isSpace with
              | [] => ([item], .cutAfterComma, none)
              | ']' :: _ => ([item], .danglingComma, none)
              | rest =>
                  let (items, ending, rest) := readItems fuel rest
                  (item :: items, ending, rest)
          | _ => ([item], .stray, none)
/-- Reads the members of an object, the first of which must be there. -/
def readMembers : Nat → List Char → List (Except Fault String × Tree) × Ending × Rest
  | 0, _ => ([], .cut, none)
  | fuel + 1, cs =>
      match cs with
      | '"' :: rest =>
          match scanString rest with
          | .error (reading, skipping) => ([], .brokenKey reading skipping, none)
          | .ok (key, rest) =>
              let (value, rest) : Tree × Rest := match rest.dropWhile isSpace with
                | [] => (broken .endInObject .endInObject, none)
                | ':' :: rest => read fuel rest
                | _ => (broken .noColon .noColon, none)
              match rest with
              | none => ([(key, value)], .cut, none)
              | some rest =>
                  match rest.dropWhile isSpace with
                  | [] => ([(key, value)], .cut, none)
                  | '}' :: rest => ([(key, value)], .closed, some rest)
                  | ',' :: rest =>
                      match rest.dropWhile isSpace with
                      | [] => ([(key, value)], .cutAfterComma, none)
                      | '}' :: _ => ([(key, value)], .danglingComma, none)
                      | rest =>
                          let (members, ending, rest) := readMembers fuel rest
                          ((key, value) :: members, ending, rest)
                  | _ => ([(key, value)], .stray, none)
      | _ => ([], .noKey, none)
end

/-- The fault that a reader of all items meets at the end of a list. -/
def listFault : Ending → Option Fault
  | .closed => none
  | .cut => some .endInList
  | .danglingComma => some .trailingComma
  | .cutAfterComma => some .endInValue
  | _ => some .noListComma

/-- The fault that a reader of all members meets at the end of an object. -/
def objectFault : Ending → Option Fault
  | .closed => none
  | .cut => some .endInObject
  | .danglingComma => some .trailingComma
  | .cutAfterComma => some .endInValue
  | .noKey => some .keyNotString
  | .brokenKey reading _ => some reading
  | .stray => some .noObjectComma

/-- The fault that skipping meets at the end of a list. -/
def skippedListFault : Ending → Option Fault
  | .danglingComma => some .noValue
  | ending => listFault ending

/-- The fault that skipping meets at the end of an object. -/
def skippedObjectFault : Ending → Option Fault
  | .danglingComma => some .keyNotString
  | .cutAfterComma => some .endInObject
  | .brokenKey _ skipping => some skipping
  | ending => objectFault ending

/-- Succeeds if there is no fault. -/
def orFault : Option Fault → Except Fault Unit
  | none => .ok ()
  | some f => .error f

mutual
/-- Skips a value: only where the text stops being JSON is there a fault. -/
def skip : Tree → Except Fault Unit
  | broken _ skipping => .error skipping
  | list items ending => do skipItems items; orFault (skippedListFault ending)
  | object members ending => do skipMembers members; orFault (skippedObjectFault ending)
  | _ => .ok ()
/-- Skips the items of a list. -/
def skipItems : List Tree → Except Fault Unit
  | [] => .ok ()
  | t :: rest => do skip t; skipItems rest
/-- Skips the members of an object. -/
def skipMembers : List (Except Fault String × Tree) → Except Fault Unit
  | [] => .ok ()
  | (_, t) :: rest => do skip t; skipMembers rest
end

/-- How many lists and objects may stand inside one another. -/
def greatestDepth : Nat := 127

mutual
/-- Reads a value of any type that stands inside `outer` lists and objects. -/
def value (outer : Nat) : Tree → Except Fault Value
  | null => .ok .null
  | bool b => .ok (.bool b)
  | number content => content.map .number
  | string content => content.map .string
  | list items ending => do
      if outer ≥ greatestDepth then throw .tooDeep
      let vs ← values (outer + 1) items
      orFault (listFault ending)
      return .array vs
  | object members ending => do
      if outer ≥ greatestDepth then throw .tooDeep
      let ms ← memberValues (outer + 1) members
      orFault (objectFault ending)
      return .ofMembers ms
  | broken reading _ => .error reading
/-- Reads the items of a list. -/
def values (outer : Nat) : List Tree → Except Fault (List Value)
  | [] => .ok []
  | t :: rest => do
      let v ← value outer t
      return v :: (← values outer rest)
/-- Reads the members of an object. -/
def memberValues (outer : Nat) : List (Except Fault String × Tree) →
    Except Fault (List (String × Value))
  | [] => .ok []
  | (key, t) :: rest => do
      let k ← key
      let v ← value outer t
      return (k, v) :: (← memberValues outer rest)
end

end Tree

/-- Reads a whole document with a reader of its value. Only spaces may follow the value. -/
def decode {α : Type} (reader : Tree → Except Fault α) (text : String) : Except Fault α := do
  let cs := text.toList
  let (tree, rest) := Tree.read (2 * cs.length + 2) cs
  let a ← reader tree
  if (rest.getD []).all isSpace then return a else throw .trailingCharacters

/-- Reads a whole document of any type. -/
def Value.ofText (text : String) : Except Fault Value := decode (Tree.value 0) text

end UnlockProof.Json

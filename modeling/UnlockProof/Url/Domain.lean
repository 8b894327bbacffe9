import UnlockProof.Url.Domain.Composition
import UnlockProof.Url.Domain.Direction
import UnlockProof.Url.Domain.Folding
import UnlockProof.Url.Domain.Joining
import UnlockProof.Url.Punycode

/-!
# Domain names

A domain name is brought into lower-case ASCII: its characters are folded and composed, full
stops separate its labels, and each label is written in ASCII. Where a label runs from right to
left, every label has to hold to one direction.

A label of ASCII characters is written as it is, any other in Punycode after the mark `xn--`. A
label that has this mark already must be the written form of such a label. No label begins with a
mark, and its joiners are in place.

## Implementation notes

A label in characters holds at most 1000 of them, and one in Punycode at most 2000 after its
mark, which bounds the work.
-/

namespace UnlockProof.Url

/-- A label: the characters that it shows and its form in ASCII. -/
structure Label where
  shown : List Char
  written : List Char
deriving DecidableEq

namespace Label

/-- The mark of a label that is written in Punycode. -/
def punycodeMark : List Char := ['x', 'n', '-', '-']

/-- Tells whether characters that make a label may follow each other so. -/
def isWellFormed (cs : List Char) : Bool :=
  !cs.head?.any Text.isMark && joinersFit [] cs

/-- Tells whether a text is its own composed form and holds only characters of domain names. -/
def isSettled (cs : List Char) : Bool := cs.all isPlain && compose cs == cs

/-- Reads what follows the mark of a label in Punycode. -/
def ofPunycode (digits : List Char) : Option Label :=
  if digits.getLast? = some '-' || 2000 < digits.length then none
  else do
    let shown ← Punycode.decode digits
    if shown.all Punycode.isAscii || !isSettled shown || !isWellFormed shown then none
    else some ⟨shown, punycodeMark ++ digits⟩

/-- Makes a label of settled characters. -/
def ofText (cs : List Char) : Option Label :=
  let isAscii := cs.all Punycode.isAscii
  if punycodeMark.isPrefixOf cs then if isAscii then ofPunycode (cs.drop 4) else none
  else if isAscii then some ⟨cs, cs⟩
  else if 1000 < cs.length || !isWellFormed cs then none
  else some ⟨cs, punycodeMark ++ Punycode.encode cs⟩

end Label

/-- The ASCII characters that no domain name holds. -/
def isForbiddenInDomain (c : Char) : Bool :=
  c.toNat ≤ 0x20 || c.toNat = 0x7f
    || ['%', '#', '/', ':', '<', '>', '?', '@', '[', '\\', ']', '^', '|'].contains c

/-- The labels of a domain name, if it is one. -/
def labelsOf (name : List Char) : Option (List Label) := do
  let folded ← name.mapM fold?
  let settled := compose folded.flatten
  if settled.any isForbiddenInDomain then none
  else
    let labels ← (Text.splitOn (· == '.') settled).mapM Label.ofText
    if labels.any fun l => hasRightToLeft l.shown then
      if labels.all fun l => holdsDirection l.shown then some labels else none
    else some labels

/-- A domain name in lower-case ASCII, if it is one. -/
def domainToAscii (name : List Char) : Option (List Char) :=
  (labelsOf name).map fun labels => ((labels.map Label.written).intersperse ['.']).flatten

end UnlockProof.Url

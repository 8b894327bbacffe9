import UnlockProof.Text.Mark
import UnlockProof.Text.Unassigned

/-!
# Quoted text

Texts inside messages stand in double quotes, single characters in single quotes. The five usual
escapes stand for their characters. Unassigned and private code points, controls, format
characters, separators other than the space, characters that are not drawn and such as extend the
character before them have no shape of their own. Quoted text shows them by their number in braces,
so that two texts that look alike read differently.

## Implementation notes

Every nonspacing mark extends the character before it. The table holds what is neither
unassigned nor such a mark; its ranges may run across code points that are.
-/

namespace UnlockProof.Text

/-- The ranges of escaped characters that are assigned and no nonspacing marks. -/
def escaped : List (Nat × Nat) :=
  [(0x0, 0x1f), (0x7f, 0xa0), (0xad, 0xad), (0x600, 0x605), (0x61c, 0x61c), (0x6dd, 0x6dd),
    (0x70f, 0x70f), (0x890, 0x891), (0x8e2, 0x8e2), (0x9be, 0x9be), (0x9d7, 0x9d7), (0xb3e, 0xb3e),
    (0xb57, 0xb57), (0xbbe, 0xbbe), (0xbd7, 0xbd7), (0xcc0, 0xcc0), (0xcc2, 0xcc2), (0xcc7, 0xcd6),
    (0xd3e, 0xd3e), (0xd57, 0xd57), (0xdcf, 0xdcf), (0xddf, 0xddf), (0x115f, 0x1160),
    (0x1680, 0x1680), (0x1715, 0x1715), (0x1734, 0x1734), (0x180e, 0x180e), (0x1b35, 0x1b3d),
    (0x1b43, 0x1b44), (0x1baa, 0x1baa), (0x1bf2, 0x1bf3), (0x2000, 0x200f), (0x2028, 0x202f),
    (0x205f, 0x206f), (0x3000, 0x3000), (0x302e, 0x302f), (0x3164, 0x3164), (0xa953, 0xa953),
    (0xa9c0, 0xa9c0), (0xe000, 0xf8ff), (0xfeff, 0xfeff), (0xff9e, 0xffa0), (0xfff9, 0xfffb),
    (0x110bd, 0x110bd), (0x110cd, 0x110cd), (0x111c0, 0x111c0), (0x11235, 0x11235),
    (0x1133e, 0x1133e), (0x1134d, 0x1134d), (0x11357, 0x11357), (0x113b8, 0x113b8),
    (0x113c2, 0x113c9), (0x113cf, 0x113cf), (0x114b0, 0x114b0), (0x114bd, 0x114bd),
    (0x115af, 0x115af), (0x116b6, 0x116b6), (0x11930, 0x11930), (0x1193d, 0x1193d),
    (0x11f41, 0x11f41), (0x13430, 0x1343f), (0x16ff0, 0x16ff1), (0x1bca0, 0x1bca3),
    (0x1d165, 0x1d166), (0x1d16d, 0x1d17a), (0xe0001, 0x10fffd)]

/-- Tells whether quoted text writes a character by its number. -/
def isEscaped (c : Char) : Bool :=
  inRanges escaped c.toNat || isNonspacing c || isUnassigned c

/-- The escape that shows a character by its number. -/
def numberEscape (c : Char) : List Char :=
  '\\' :: 'u' :: '\x7b' :: hexDigits c.toNat ++ ['\x7d']

/-- A character as it stands between quotes of one kind. -/
def escape (quote c : Char) : List Char :=
  if c = '\x00' then ['\\', '0']
  else if c = '\t' then ['\\', 't']
  else if c = '\r' then ['\\', 'r']
  else if c = '\n' then ['\\', 'n']
  else if c = '\\' || c = quote then ['\\', c]
  else if isEscaped c then numberEscape c
  else [c]

/-- A text in double quotes. -/
def quoted (s : String) : String :=
  String.ofList ('"' :: s.toList.flatMap (escape '"') ++ ['"'])

/-- A character in single quotes. -/
def quotedChar (c : Char) : String :=
  String.ofList ('\x27' :: escape '\x27' c ++ ['\x27'])

end UnlockProof.Text

import UnlockProof.Url.Host
import UnlockProof.Url.Path

/-!
# URLs

The place of an endpoint. A text is read without a base: it must name its scheme. The special
schemes have a host, take a backslash for a slash and leave their usual port out; other schemes
may go without a host and then with a path that is kept as it is. The text of a URL is its one
normal form.

## Implementation notes

Spaces and controls around the text are dropped first, then every tab and line break in it.
-/

namespace UnlockProof

/-- Who is asked for at a host, and at which port. -/
structure Authority where
  user : List Char
  password : List Char
  /-- Without a host, the name is empty. -/
  host : Option Url.Host
  port : Option Nat
deriving DecidableEq

/-- A URL in its parts, each in encoded form. -/
structure Url where
  scheme : List Char
  authority : Option Authority
  /-- With its leading slash, if it has one. -/
  path : List Char
  query : Option (List Char)
  fragment : Option (List Char)
deriving DecidableEq

namespace Url

/-- The usual port of a special scheme; the scheme for files has none. -/
def specialPort? (scheme : List Char) : Option (Option Nat) :=
  match String.ofList scheme with
  | "http" | "ws" => some (some 80)
  | "https" | "wss" => some (some 443)
  | "ftp" => some (some 21)
  | "file" => some none
  | _ => none

/-- Tells whether a scheme is special. -/
def isSpecial (scheme : List Char) : Bool := (specialPort? scheme).isSome

/-- Tells whether a scheme is the one for files. -/
def isFile (scheme : List Char) : Bool := scheme = ['f', 'i', 'l', 'e']

/-- Tells whether a character separates segments under a scheme. -/
def isSlash (special : Bool) (c : Char) : Bool := c == '/' || (special && c == '\\')

/-- Tells whether a character ends an authority. -/
def endsAuthority (special : Bool) (c : Char) : Bool := isSlash special c || c == '?' || c == '#'

/-- The text that is read: without spaces and controls around it, tabs and line breaks in it. -/
def significant (cs : List Char) : List Char :=
  let isOuter (c : Char) : Bool := c.toNat ≤ 0x20
  let inner := ((cs.dropWhile isOuter).reverse.dropWhile isOuter).reverse
  inner.filter fun c => !(c == '\t' || c == '\n' || c == '\r')

/-- Tells whether a character may stand in a scheme. -/
def isSchemeChar (c : Char) : Bool := c.isAlphanum || c == '+' || c == '-' || c == '.'

/-- The scheme of a text in lower case and what follows its colon. -/
def splitScheme (cs : List Char) : Option (List Char × List Char) :=
  match cs with
  | [] => none
  | c :: _ =>
      if c.isAlpha then
        match cs.dropWhile isSchemeChar with
        | ':' :: rest => some ((cs.takeWhile isSchemeChar).map Char.toLower, rest)
        | _ => none
      else none

/-- The text before the last at sign and the text after it. -/
def splitUser (cs : List Char) : Option (List Char × List Char) :=
  let back := cs.reverse
  match back.dropWhile (· ≠ '@') with
  | [] => none
  | _ :: user => some (user.reverse, (back.takeWhile (· ≠ '@')).reverse)

/-- The text of a host and, after the first colon outside brackets, the text that starts with a
port. -/
def splitPort (inBrackets : Bool) : List Char → List Char × Option (List Char)
  | [] => ([], none)
  | c :: rest =>
      if c = ':' && !inBrackets then ([], some rest)
      else
        let (host, port) := splitPort (c == '[' || (inBrackets && c != ']')) rest
        (c :: host, port)

/-- Reads a port. The usual one of the scheme is left out. -/
def parsePort (usual : Option Nat) (cs : List Char) : Except Fault (Option Nat) :=
  match spelledIn 10 cs with
  | none => .error .badPort
  | some n =>
      if 65535 < n then .error .badPort
      else .ok (if cs.isEmpty || usual = some n then none else some n)

/-- Reads the host of a scheme, which only under other schemes may be empty. -/
def parseHost (special hasPort : Bool) (cs : List Char) : Except Fault (Option Host) :=
  if cs.isEmpty then
    if special || hasPort then .error .emptyHost else .ok none
  else if special then (Host.parse cs).map some
  else (Host.parseKept cs).map some

/-- Reads an authority; `isLast` tells whether the URL ends with it. What follows a backslash after
the digits of a port is left over. -/
def parseAuthority (scheme : List Char) (isLast : Bool) (cs : List Char) :
    Except Fault (Authority × List Char) := do
  let (userText, rest) := (splitUser cs).getD ([], cs)
  if (splitUser cs).isSome && userText.isEmpty && rest.isEmpty && !isLast then
    throw .emptyHost
  let user := percentEncode userSet (userText.takeWhile (· ≠ ':'))
  let password := percentEncode userSet ((userText.dropWhile (· ≠ ':')).drop 1)
  let (hostText, portText) := splitPort false rest
  let host ← parseHost (isSpecial scheme) portText.isSome hostText
  let port ← match portText with
    | some cs => parsePort ((specialPort? scheme).getD none) (cs.takeWhile (· ≠ '\\'))
    | none => pure none
  if host.isNone && !(user.isEmpty && password.isEmpty) then throw .emptyHost
  return (⟨user, password, host, port⟩, (portText.getD []).dropWhile (· ≠ '\\'))

/-- The text of an authority. -/
def authorityText (a : Authority) : List Char :=
  let password := if a.password.isEmpty then [] else ':' :: a.password
  let user := a.user ++ password
  let port : List Char := match a.port with
    | some n => ':' :: Nat.toDigits 10 n
    | none => []
  (if user.isEmpty then [] else user ++ ['@'])
    ++ ((a.host.map Host.text).getD []) ++ port

/-- The parts of the text after the authority: path, query and fragment, not yet encoded. -/
def splitTail (cs : List Char) : List Char × Option (List Char) × Option (List Char) :=
  let main := cs.takeWhile (· ≠ '#')
  let after (c : Char) (cs : List Char) : Option (List Char) :=
    match cs.dropWhile (· ≠ c) with
    | [] => none
    | _ :: rest => some rest
  (main.takeWhile (· ≠ '?'), after '?' main, after '#' cs)

/-- The URL with the given parts, whose path is encoded by `encode`. -/
def withTail (scheme : List Char) (authority : Option Authority) (tail : List Char)
    (encode : List Char → List Char) : Url :=
  let (path, query, fragment) := splitTail tail
  let set := if isSpecial scheme then specialQuerySet else querySet
  ⟨scheme, authority, encode path, query.map (percentEncode set),
    fragment.map (percentEncode fragmentSet)⟩

/-- A text without one leading slash of either kind. -/
def dropSlash : List Char → List Char
  | c :: rest => if isSlash true c then rest else c :: rest
  | [] => []

/-- The path after an authority. A special scheme always has one; under any other a backslash is
part of the first segment. -/
def authorityPath (special : Bool) : List Char → List Char
  | [] => if special then ['/'] else []
  | c :: rest =>
      let text := if isSlash special c then rest else c :: rest
      segmentsText (segmentsOf (isSlash special) text)

/-- The path of a URL without authority. -/
def barePath : List Char → List Char
  | '/' :: rest => segmentsText (segmentsOf (isSlash false) rest)
  | cs => percentEncode controlSet cs

/-- Reads what follows the two slashes before an authority. -/
def parseAuthorityOn (scheme cs : List Char) : Except Fault Url := do
  let special := isSpecial scheme
  let isPart (c : Char) : Bool := !endsAuthority special c
  let tail := cs.dropWhile isPart
  let (authority, left) ← parseAuthority scheme tail.isEmpty (cs.takeWhile isPart)
  return withTail scheme (some authority) (left ++ tail) (authorityPath special)

/-- The URL of a file at a host. A drive has no host. -/
def fileUrl (host : Option Host) (tail : List Char) : Url :=
  let trail := fileTrail (isSlash true) (splitTail tail).1
  let host := if trail.atDrive then none else host
  withTail ['f', 'i', 'l', 'e'] (some ⟨[], [], host, none⟩) tail fun _ =>
    segmentsText trail.segments

/-- Reads the URL of a file from the text after the two slashes. Where there is no host the path
is all of the text, and otherwise what comes after the host's slash. -/
def parseFileOn (cs : List Char) : Except Fault Url :=
  let isPart (c : Char) : Bool := !endsAuthority true c
  let name := cs.takeWhile isPart
  if name.isEmpty || isDrive name then .ok (fileUrl none cs)
  else do
    let host ← Host.parse name
    let tail := cs.dropWhile isPart
    if host = .named "localhost".toList then return fileUrl none tail
    else return fileUrl (some host) (dropSlash tail)

/-- Reads what follows the scheme for files. -/
def parseFile (cs : List Char) : Except Fault Url :=
  match cs with
  | a :: b :: rest =>
      if isSlash true a && isSlash true b then parseFileOn rest
      else .ok (fileUrl none (dropSlash cs))
  | _ => .ok (fileUrl none (dropSlash cs))

/-- Reads a URL. -/
def parse (s : String) : Except Fault Url :=
  match splitScheme (significant s.toList) with
  | none => .error .noScheme
  | some (scheme, rest) =>
      if isFile scheme then parseFile rest
      else if isSpecial scheme then
        parseAuthorityOn scheme (rest.dropWhile (isSlash true))
      else match rest with
        | '/' :: '/' :: cs => parseAuthorityOn scheme cs
        | _ => .ok (withTail scheme none rest barePath)

/-- The text of a URL. A path that would read as an authority is kept apart by a dot. -/
def text (u : Url) : String :=
  let main : List Char := match u.authority with
    | some a => '/' :: '/' :: authorityText a ++ u.path
    | none =>
        match u.path with
        | '/' :: '/' :: _ => '/' :: '.' :: u.path
        | _ => u.path
  let marked (mark : Char) : Option (List Char) → List Char
    | some cs => mark :: cs
    | none => []
  String.ofList (u.scheme ++ ':' :: main ++ marked '?' u.query ++ marked '#' u.fragment)

end Url
end UnlockProof

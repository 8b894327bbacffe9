import UnlockProof.Url.Percent

/-!
# Paths

A path is a list of segments. A segment of one dot stands for nothing, one of two dots takes the
segment before it away; a dot may be written in percent-encoded form. At the end of a path both
leave an empty segment.

## Implementation notes

A segment that looks like a drive is never taken away, under whatever scheme. Only under the
scheme for files does a drive at the root count as one: it is written with a colon, and the path
then belongs to no host.
-/

namespace UnlockProof.Url

/-- A segment in which each encoded dot is a plain one. -/
def plainDots : List Char → List Char
  | '%' :: '2' :: 'e' :: rest | '%' :: '2' :: 'E' :: rest => '.' :: plainDots rest
  | c :: rest => c :: plainDots rest
  | [] => []

/-- Tells whether a segment names a drive: a letter and a colon or a bar. -/
def isDrive : List Char → Bool
  | [letter, mark] => letter.isAlpha && (mark == ':' || mark == '|')
  | _ => false

/-- A segment that names a drive, written with a colon. -/
def drive? (segment : List Char) : Option (List Char) :=
  if isDrive segment then some (segment.take 1 ++ [':']) else none

/-- Tells whether two dots leave a segment in place: it starts with a drive, which ends the
segment or comes before a backslash. -/
def isKept (segment : List Char) : Bool :=
  isDrive (segment.take 2) && (segment.drop 2).head?.all (· == '\\')

/-- Takes the last segment away, unless it is kept. -/
def shorten (segments : List (List Char)) : List (List Char) :=
  if segments.getLast?.any isKept then segments else segments.dropLast

/-- A path as far as it is read. -/
structure Trail where
  segments : List (List Char)
  /-- Tells whether the path starts at a drive. -/
  atDrive : Bool
deriving DecidableEq

/-- Walks along raw segments. -/
def Trail.walk (isFile : Bool) (trail : Trail) : List (List Char) → Trail
  | [] => trail
  | raw :: rest =>
      let segment := percentEncode pathSet raw
      let ending := if rest.isEmpty then [[]] else []
      if plainDots segment = ['.', '.'] then
        Trail.walk isFile { trail with segments := shorten trail.segments ++ ending } rest
      else if plainDots segment = ['.'] then
        Trail.walk isFile { trail with segments := trail.segments ++ ending } rest
      else match (if isFile && trail.segments.isEmpty then drive? segment else none) with
        | some drive => Trail.walk isFile ⟨[drive], true⟩ rest
        | none => Trail.walk isFile { trail with segments := trail.segments ++ [segment] } rest

/-- Drops empty segments in front, but not the last segment. -/
def dropEmpty : List (List Char) → List (List Char)
  | [] :: segment :: rest => dropEmpty (segment :: rest)
  | segments => segments

/-- The segments of a path whose first slash is read already. -/
def segmentsOf (isSlash : Char → Bool) (cs : List Char) : List (List Char) :=
  (Trail.walk false ⟨[], false⟩ (Text.splitOn isSlash cs)).segments

/-- A file's path, without empty segments in front. -/
def fileTrail (isSlash : Char → Bool) (cs : List Char) : Trail :=
  let trail := Trail.walk true ⟨[], false⟩ (Text.splitOn isSlash cs)
  { trail with segments := dropEmpty trail.segments }

/-- The text of segments, each after its slash. -/
def segmentsText (segments : List (List Char)) : List Char :=
  segments.flatMap fun segment => '/' :: segment

end UnlockProof.Url

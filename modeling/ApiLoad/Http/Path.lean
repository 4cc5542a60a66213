import ApiLoad.Http.Percent
import ApiLoad.Text.Pieces

/-!
# Paths

The path of a URL in segments, each after a slash. A segment of one dot vanishes and one of two dots
takes the segment before it away, unless that one names a drive. What a path does not admit is encoded.
-/
set_option autoImplicit false

namespace ApiLoad.Http.Path

def isSingleDot (segment : List Char) : Bool :=
  [".", "%2e"].contains (String.ofList (segment.map Char.toLower))

def isDoubleDot (segment : List Char) : Bool :=
  ["..", ".%2e", "%2e.", "%2e%2e"].contains (String.ofList (segment.map Char.toLower))

def isDrive : List Char → Bool
  | [letter, mark] => letter.isAlpha && (mark == ':' || mark == '|')
  | _ => false

/-- Two dots leave a drive where it is, also with more after a backslash. -/
def isFixed (segment : List Char) : Bool := isDrive (segment.takeWhile (· != '\\'))

/-- The segments before the last one. `done` holds the last first. -/
def parent (done : List (List Char)) : List (List Char) :=
  if (done.head?.map isFixed).getD false then done else done.drop 1

def encode (segment : List Char) : List Char := Percent.encode Percent.inPath segment

/-- Resolves a segment. The last one leaves an empty one behind if it vanishes. -/
def visit (isLast : Bool) (done : List (List Char)) (segment : List Char) : List (List Char) :=
  let close (kept : List (List Char)) := if isLast then [] :: kept else kept
  if isDoubleDot segment then close (parent done)
  else if isSingleDot segment then close done
  else encode segment :: done

def resolve (done : List (List Char)) : List (List Char) → List (List Char)
  | [] => done.reverse
  | segment :: rest => resolve (visit rest.isEmpty done segment) rest

def text (segments : List (List Char)) : List Char := segments.flatMap ('/' :: ·)

def isSlash (special : Bool) (c : Char) : Bool := c == '/' || (special && c == '\\')

def absolute (special : Bool) (path : List Char) : List Char :=
  text (resolve [] (Text.splitOn (isSlash special) path))

/-! The path of a file has no empty segments at its start. If its first segment is a drive, it is on no
host. Gaps are characters that have no meaning in a URL, except that one splits a drive from what follows
it. -/

def isGap (c : Char) : Bool := c == '\t' || c == '\n' || c == '\r'

def withoutGaps (chars : List Char) : List Char := chars.filter (!isGap ·)

def splitDrive (segment : List Char) : Option (List Char × List Char) :=
  match segment.dropWhile isGap with
  | [] => none
  | letter :: afterLetter =>
    match afterLetter.dropWhile isGap with
    | ':' :: gap :: rest =>
      let rest := withoutGaps rest
      if letter.isAlpha && isGap gap && rest != [] then some ([letter, ':'], rest) else none
    | _ => none

structure FilePath where
  done : List (List Char) := []
  onDrive : Bool := false

/-- Resolves a segment of a file. A drive at the start gets a colon, and what a gap splits from it is no
dot. -/
def visitFile (isLast : Bool) (path : FilePath) (segment : List Char) : FilePath :=
  let plain := withoutGaps segment
  match path.done, splitDrive segment with
  | [], some (drive, rest) => { path with done := [encode rest, drive] }
  | done, _ =>
    if done = [] ∧ isDrive plain then ⟨[[plain.headD ':', ':']], true⟩
    else { path with done := visit isLast done plain }

def resolveFile (path : FilePath) : List (List Char) → FilePath
  | [] => path
  | segment :: rest => resolveFile (visitFile rest.isEmpty path segment) rest

def file (path : List Char) : List Char × Bool :=
  let path := resolveFile {} (Text.splitOn (isSlash true) path)
  let segments := path.done.reverse.dropWhile (· = [])
  (text (if segments = [] then [[]] else segments), path.onDrive)

end ApiLoad.Http.Path

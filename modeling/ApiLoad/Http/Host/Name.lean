import ApiLoad.Http.Host.Mapping
import ApiLoad.Http.Punycode
import ApiLoad.Text.Direction
import ApiLoad.Text.Joining

/-!
# Names in ASCII

A host name stands in a URL in ASCII: its characters are mapped and composed, and every label that is
still not in ASCII is encoded behind a mark. A label that comes with the mark must decode to one that
would be encoded the same way.
-/
set_option autoImplicit false

namespace ApiLoad.Http.Host

def isForbidden (c : Char) : Bool :=
  c.toNat ≤ 0x20 || c == '\x7f' ||
    ['#', '/', ':', '<', '>', '?', '@', '[', '\\', ']', '^', '|', '%'].contains c

def encodedMark : List Char := "xn--".toList

def maxLabel : Nat := 1000

def maxEncoded : Nat := 2000

structure Label where
  chars : List Char
  ascii : List Char
deriving DecidableEq, Repr

namespace Label

/-- The label holds nothing that mapping and composing would change. -/
def isSettled (chars : List Char) : Bool :=
  (chars.all fun c => mapChar? c == some [c]) && Text.composed chars == chars

/-- A decoded label, which would not have been encoded if it were in ASCII. -/
def decode? (ascii : List Char) : Option Label :=
  let encoded := ascii.drop encodedMark.length
  if !encoded.all isAscii ∨ maxEncoded < encoded.length then none
  else do
    let chars ← Punycode.decode? encoded
    if chars.all isAscii ∨ !isSettled chars then none else pure ⟨chars, ascii⟩

def encode (chars : List Char) : Label :=
  ⟨chars, if chars.all isAscii then chars else encodedMark ++ Punycode.encode chars⟩

/-- Forbidden characters, a mark at the start and joiners out of place make a label no part of a name,
and so does its length if it is not in ASCII. -/
def isValid (label : Label) : Bool :=
  !label.chars.any isForbidden &&
    (label.chars.all isAscii ||
      label.chars.length ≤ maxLabel && !(label.chars.head?.map Text.isMark).getD false &&
        Text.Joining.joinersFit [] label.chars)

def ofMapped? (chars : List Char) : Option Label :=
  (if encodedMark.isPrefixOf chars then decode? chars else some (encode chars)).filter isValid

end Label

/-- A name in ASCII. If a label of it is written from right to left, all labels must be consistent. -/
def nameToAscii? (name : List Char) : Option (List Char) := do
  let mapped ← mapName? name
  let labels ← (Text.splitOn (· == '.') (Text.composed mapped)).mapM Label.ofMapped?
  let texts := labels.map Label.chars
  if texts.any Text.Direction.turns && !texts.all Text.Direction.isConsistent then none
  else pure (Text.joinWith ['.'] (labels.map Label.ascii))

end ApiLoad.Http.Host

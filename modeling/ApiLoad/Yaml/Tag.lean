import ApiLoad.Text.Hex
import ApiLoad.Text.Utf8
import ApiLoad.Yaml.Cursor

/-!
# Tags

A tag is a sequence of bytes, since its escapes can write bytes that are no text. No byte of it is zero:
it ends before the first zero byte that is written.
-/
set_option autoImplicit false

namespace ApiLoad.Yaml

abbrev Tag := List UInt8

namespace Tag

def ofString (text : String) : Tag := text.toUTF8.data.toList

def beforeZero (bytes : List UInt8) : Tag := bytes.takeWhile (· ≠ 0)

def text? (tag : Tag) : Option String := Text.Utf8.decode? tag

def isLocal (tag : Tag) : Bool := tag.head? == some 0x21

/-- The name of a local tag, without its mark. A second mark goes too if more follows it, and a mark
alone is its own name. -/
def localName? (tag : Tag) : Option String :=
  match tag with
  | [0x21] => some "!"
  | [0x21, 0x21] => some "!"
  | 0x21 :: 0x21 :: name | 0x21 :: name => text? name
  | _ => none

def marks : List Char :=
  [';', '/', '?', ':', '@', '&', '=', '+', '$', '.', '!', '~', '*', '\'', '(', ')']

/-- The characters of a written tag. A bracket or a comma is one only where no collection could end. -/
def isChar (verbatim : Bool) (c : Char) : Bool :=
  isNameChar c || marks.contains c || (verbatim && (c == ',' || c == '[' || c == ']'))

/-- How many bytes follow the first byte of a character, told from its leading bits alone. -/
def following? (first : UInt8) : Option Nat :=
  if first < 0x80 then some 0
  else if first < 0xC0 then none
  else if first < 0xE0 then some 1
  else if first < 0xF0 then some 2
  else if first < 0xF8 then some 3
  else none

def octet? : List Char → Option (UInt8 × List Char)
  | '%' :: high :: low :: rest =>
    (Text.Hex.number? [high, low]).map fun n => (UInt8.ofNat n, rest)
  | _ => none

def continued? : Nat → List Char → Option (List UInt8)
  | 0, _ => some []
  | n + 1, text => do
    let (byte, rest) ← octet? text
    if byte < 0x80 ∨ 0xC0 ≤ byte then none
    else (continued? n rest).map (byte :: ·)

def escaped? (text : List Char) : Option (List UInt8) := do
  let (first, rest) ← octet? text
  let more ← continued? (← following? first) rest
  pure (first :: more)

/-- The bytes that the longest run of tag characters writes, and its length as written. -/
def written? (verbatim : Bool) (text : List Char) : Option (List UInt8 × Nat) :=
  match text with
  | [] => some ([], 0)
  | c :: rest =>
    if c = '%' then do
      let bytes ← escaped? text
      let (more, used) ← written? verbatim (rest.drop (3 * bytes.length - 1))
      pure (bytes ++ more, 3 * bytes.length + used)
    else if isChar verbatim c then do
      let (more, used) ← written? verbatim rest
      pure (c.toUInt8 :: more, used + 1)
    else some ([], 0)
termination_by text.length
decreasing_by
  · simp only [List.length_drop, List.length_cons]
    omega
  · simp only [List.length_cons]
    omega

end Tag
end ApiLoad.Yaml

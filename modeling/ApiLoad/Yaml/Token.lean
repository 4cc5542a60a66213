import ApiLoad.Yaml.Tag

/-!
# Tokens

The tokens of a document, with the lexical rules of those that are neither punctuation nor scalars:
tags, anchors, aliases and directives. Each rule gives the token and the number of characters it takes.
-/
set_option autoImplicit false

namespace ApiLoad.Yaml

inductive Token
  | version (major minor : Nat)
  | tagDirective (handle : String) (start : Tag)
  | documentStart
  | documentEnd
  | blockSequenceStart
  | blockMappingStart
  | blockEnd
  | flowSequenceStart
  | flowSequenceEnd
  | flowMappingStart
  | flowMappingEnd
  | blockEntry
  | flowEntry
  | key
  | value
  | alias (name : String)
  | anchor (name : String)
  | tag (handle : String) (suffix : Tag)
  | scalar (text : String) (plain : Bool)
deriving DecidableEq, Repr, Inhabited

namespace Token

/-- An exclamation mark and name characters, with a second mark if the handle is a named one. -/
def handle? : List Char → Option (List Char)
  | '!' :: rest =>
    let name := rest.takeWhile isNameChar
    if (rest.drop name.length).head? = some '!' then some ('!' :: name ++ ['!'])
    else some ('!' :: name)
  | _ => none

/-- A tag between angle brackets, with a handle of two marks, or local. A mark alone is the tag with
no handle. -/
def tag? (text : List Char) : Option (Token × Nat) :=
  match text with
  | '!' :: '<' :: rest => do
    let (suffix, used) ← Tag.written? true rest
    if used = 0 ∨ (rest.drop used).head? ≠ some '>' then none
    else pure (.tag "" (Tag.beforeZero suffix), used + 3)
  | _ => do
    let handle ← handle? text
    let (suffix, used) ← Tag.written? false (text.drop handle.length)
    if 1 < handle.length ∧ handle.getLast? = some '!' then
      if used = 0 then none
      else pure (.tag (String.ofList handle) (Tag.beforeZero suffix), handle.length + used)
    else
      let suffix := Tag.beforeZero ((handle.drop 1).map Char.toUInt8 ++ suffix)
      let token := if suffix = [] then Token.tag "" (Tag.ofString "!") else .tag "!" suffix
      pure (token, handle.length + used)

def endsTag (inFlow : Bool) (text : List Char) : Bool :=
  startsBlank text || (inFlow && text.head? == some ',')

/-- The characters other than white space that may stand right after an anchor or alias. -/
def anchorEnds : List Char := ['?', ':', ',', ']', '\x7d', '%', '@', '\x60']

def anchorName? (text : List Char) : Option String :=
  let name := text.takeWhile isNameChar
  let rest := text.drop name.length
  let ends := startsBlank rest || (rest.head?.map anchorEnds.contains).getD false
  if name = [] ∨ !ends then none else some (String.ofList name)

def versionNumber? (text : List Char) : Option (Nat × Nat) :=
  let digits := text.takeWhile Char.isDigit
  if digits = [] ∨ 9 < digits.length then none
  else some (digits.foldl (fun n c => 10 * n + (c.toNat - '0'.toNat)) 0, digits.length)

def blanks (text : List Char) : Nat := (text.takeWhile isBlank).length

def versionDirective? (text : List Char) : Option (Token × Nat) := do
  let lead := blanks text
  let (major, majorLength) ← versionNumber? (text.drop lead)
  let '.' :: rest := text.drop (lead + majorLength) | none
  let (minor, minorLength) ← versionNumber? rest
  pure (.version major minor, lead + majorLength + 1 + minorLength)

def tagDirective? (text : List Char) : Option (Token × Nat) := do
  let lead := blanks text
  let handle ← handle? (text.drop lead)
  let afterHandle := text.drop (lead + handle.length)
  let between := blanks afterHandle
  let (start, used) ← Tag.written? true (afterHandle.drop between)
  if (handle ≠ ['!'] ∧ handle.getLast? ≠ some '!') ∨ between = 0 ∨ used = 0 ∨
      !startsBlank (afterHandle.drop (between + used)) then none
  else
    pure (.tagDirective (String.ofList handle) (Tag.beforeZero start),
      lead + handle.length + between + used)

def directive? (text : List Char) : Option (Token × Nat) :=
  let name := text.takeWhile isNameChar
  let rest := text.drop name.length
  let directive? := match String.ofList name with
    | "YAML" => versionDirective? rest
    | "TAG" => tagDirective? rest
    | _ => none
  if startsBlank rest then directive?.map fun (token, used) => (token, name.length + used) else none

end Token
end ApiLoad.Yaml

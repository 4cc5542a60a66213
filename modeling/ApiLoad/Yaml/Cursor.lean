/-!
# A place in a text

A cursor is the rest of the text and the mark of its first character: how many bytes of UTF-8, and how
many lines, come before it, and its column in characters. Every move says what it leaves of the rest.
-/
set_option autoImplicit false

namespace ApiLoad.Yaml

/-- A line ends at a carriage return, a line feed, both in this order, U+0085, U+2028 or U+2029. -/
def isBreak (c : Char) : Bool :=
  c == '\r' || c == '\n' || c == '\u0085' || c == '\u2028' || c == '\u2029'

def isBlank (c : Char) : Bool := c == ' ' || c == '\t'

def isSpace (c : Char) : Bool := isBlank c || isBreak c

/-- A line break as it stands in a value: every kind is a line feed, but for the two separators. -/
def breakChar (c : Char) : Char := if c = '\u2028' ∨ c = '\u2029' then c else '\n'

def isNameChar (c : Char) : Bool := c.isAlphanum || c == '_' || c == '-'

def startsBlank (text : List Char) : Bool := (text.head?.map isSpace).getD true

structure Mark where
  index : Nat
  line : Nat
  column : Nat
deriving DecidableEq, Repr, Inhabited

structure Cursor where
  rest : List Char
  mark : Mark
deriving Repr, Inhabited

namespace Cursor

def ofText (text : List Char) : Cursor := ⟨text, ⟨0, 0, 0⟩⟩

def column (c : Cursor) : Nat := c.mark.column

def byteCount (text : List Char) : Nat := text.foldl (fun n c => n + c.utf8Size) 0

def skip (n : Nat) (c : Cursor) : Cursor :=
  ⟨c.rest.drop n, ⟨c.mark.index + byteCount (c.rest.take n), c.mark.line, c.mark.column + n⟩⟩

def dropWhile (p : Char → Bool) (c : Cursor) : Cursor := c.skip (c.rest.takeWhile p).length

def dropBreak (c : Cursor) : Cursor :=
  match c.rest with
  | '\r' :: '\n' :: rest => ⟨rest, ⟨c.mark.index + 2, c.mark.line + 1, 0⟩⟩
  | b :: rest => if isBreak b then ⟨rest, ⟨c.mark.index + b.utf8Size, c.mark.line + 1, 0⟩⟩ else c
  | [] => c

/-- A line of its own starts here with three dashes or three dots. -/
def startsIndicator (dots : Bool) (c : Cursor) : Bool :=
  let mark := if dots then '.' else '-'
  c.column == 0 && c.rest.take 3 == [mark, mark, mark] && startsBlank (c.rest.drop 3)

def startsDocumentMark (c : Cursor) : Bool := c.startsIndicator false || c.startsIndicator true

@[simp] theorem rest_skip (n : Nat) (c : Cursor) : (c.skip n).rest = c.rest.drop n := rfl

theorem length_dropBreak_lt {c : Cursor} {b : Char} {rest : List Char} (hRest : c.rest = b :: rest)
    (hBreak : isBreak b = true) : c.dropBreak.rest.length < c.rest.length := by
  unfold dropBreak
  rw [hRest]
  split
  · rename_i h
    cases h
    simp only [List.length_cons]
    omega
  · rename_i h
    cases h
    simp [hBreak]
  · rename_i h
    cases h

end Cursor
end ApiLoad.Yaml

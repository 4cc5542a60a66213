import ApiLoad.Yaml.Scalar.Gap

/-!
# Block scalars

A header says whether line breaks are kept (`|`) or folded (`>`), what becomes of those at the end,
and the indentation, which otherwise is that of the first line that is not blank.
-/
set_option autoImplicit false

namespace ApiLoad.Yaml

/-- What becomes of the line breaks at the end: none is kept, one, or all. -/
inductive Chomping
  | strip
  | clip
  | keep
deriving DecidableEq, Repr

def chomping? : Char → Option Chomping
  | '-' => some .strip
  | '+' => some .keep
  | _ => none

/-- The chomping and the indentation that a header gives, in either order; zero is no indentation. -/
def blockHeader? (text : List Char) : Option (Chomping × Option Nat × List Char) :=
  let increment? (text : List Char) : Option (Option Nat × List Char) :=
    match text with
    | d :: rest =>
      if d = '0' then none
      else if d.isDigit then some (some (d.toNat - '0'.toNat), rest)
      else some (none, text)
    | [] => some (none, text)
  match text with
  | [] => some (.clip, none, text)
  | c :: rest =>
    match chomping? c with
    | some chomping => (increment? rest).map fun (increment, rest) => (chomping, increment, rest)
    | none => do
      let (increment, rest) ← increment? text
      match increment, rest with
      | some _, d :: after =>
        match chomping? d with
        | some chomping => pure (chomping, increment, after)
        | none => pure (.clip, increment, rest)
      | _, _ => pure (.clip, increment, rest)

/-- The line breaks before the next line with content and the greatest column reached. Without a
known indentation all leading spaces are taken. -/
def blockBreaks? (indent : Option Nat) (reached : Nat) (c : Cursor) :
    Option (List Char × Nat × Cursor) :=
  let spaces := (c.rest.takeWhile (· == ' ')).length
  let next := c.skip (match indent with
    | none => spaces
    | some n => min spaces (n - c.column))
  let reached := max reached next.column
  let short := match indent with
    | none => true
    | some n => decide (next.column < n)
  match next.rest with
  | [] => some ([], reached, next)
  | b :: _ =>
    if short && b == '\t' then none
    else if isBreak b then
      if _h : next.dropBreak.rest.length < c.rest.length then do
        let (more, reached, last) ← blockBreaks? indent reached next.dropBreak
        pure (breakChar b :: more, reached, last)
      else none
    else some ([], reached, next)
termination_by c.rest.length

structure BlockText where
  text : List Char
  last : List Char
  trailing : List Char

/-- The lines of a block. `before` is the break of the line before, `trailing` the breaks after that,
and `indented` says whether that line started with white space: next to such a line nothing is
folded. -/
def blockLines? (folded : Bool) (indent : Nat) (c : Cursor) (before trailing : List Char)
    (indented : Bool) : Option (BlockText × Cursor) :=
  match c.rest with
  | [] => some (⟨[], before, trailing⟩, c)
  | b :: _ =>
    if c.column = indent then
      let joins := folded && before == ['\n'] && !indented && !isBlank b
      let joint := if joins then (if trailing = [] then [' '] else []) else before
      let line := c.rest.takeWhile (!isBreak ·)
      let afterLine := c.dropWhile (!isBreak ·)
      let lineBreak := (afterLine.rest.head?.map fun b => [breakChar b]).getD []
      do
        let (more, _, next) ← blockBreaks? (some indent) 0 afterLine.dropBreak
        if _h : next.rest.length < c.rest.length then do
          let (block, last) ← blockLines? folded indent next lineBreak more (isBlank b)
          pure ({ block with text := joint ++ trailing ++ line ++ block.text }, last)
        else none
    else some (⟨[], before, trailing⟩, c)
termination_by c.rest.length

/-- A block scalar after its indicator. `parent` is the indentation of the block around it, if there
is one. -/
def blockScalar? (folded : Bool) (parent : Option Nat) (c : Cursor) : Option (List Char × Cursor) := do
  let (chomping, increment, rest) ← blockHeader? c.rest
  let c := (c.skip (c.rest.length - rest.length)).dropWhile isBlank
  let c := if c.rest.head? = some '#' then c.dropWhile (!isBreak ·) else c
  if !((c.rest.head?.map isBreak).getD true) then none
  else do
    let given := increment.map fun n => parent.getD 0 + n
    let (leading, reached, c) ← blockBreaks? given 0 c.dropBreak
    let least := max 1 ((parent.map (· + 1)).getD 0)
    let indent := given.getD (max reached least)
    let (block, last) ← blockLines? folded indent c [] leading false
    pure (match chomping with
      | .strip => block.text
      | .clip => block.text ++ block.last
      | .keep => block.text ++ block.last ++ block.trailing, last)

end ApiLoad.Yaml

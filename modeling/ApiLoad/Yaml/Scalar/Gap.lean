import ApiLoad.Yaml.Cursor

/-!
# Space inside a scalar

Space that stays on one line is kept. Space with line breaks is folded: the indentation goes, and one
break becomes a space while of several the first goes.
-/
set_option autoImplicit false

namespace ApiLoad.Yaml

/-- The line breaks of a run of space. A tab left of column `limit` violates the indentation. -/
def breaks? (limit : Nat) (c : Cursor) : Option (List Char × Cursor) :=
  match _hRest : c.rest with
  | [] => some ([], c)
  | b :: _ =>
    if _hBreak : isBreak b = true then
      (breaks? limit c.dropBreak).map fun (more, next) => (breakChar b :: more, next)
    else if b = ' ' then breaks? limit (c.skip 1)
    else if b = '\t' then if c.column < limit then none else breaks? limit (c.skip 1)
    else some ([], c)
termination_by c.rest.length
decreasing_by
  · exact Cursor.length_dropBreak_lt _hRest _hBreak
  · simp [_hRest]
  · simp [_hRest]

def foldBreaks : List Char → List Char
  | ['\n'] => [' ']
  | '\n' :: more => more
  | breaks => breaks

/-- A run of space: the text that it stands for, whether it spans lines, and what follows it. -/
def gap? (limit : Nat) (c : Cursor) : Option (List Char × Bool × Cursor) :=
  let next := c.dropWhile isBlank
  if (next.rest.head?.map isBreak).getD false then
    (breaks? limit next).map fun (breaks, next) => (foldBreaks breaks, true, next)
  else some (c.rest.takeWhile isBlank, false, next)

end ApiLoad.Yaml

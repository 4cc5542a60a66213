import ApiLoad.Yaml.Scalar.Gap

/-!
# Plain scalars

A plain scalar runs until a colon before white space, a comment, a line that is indented too little or
a document mark. Inside brackets and braces it also ends before a bracket, a brace or a comma.
-/
set_option autoImplicit false

namespace ApiLoad.Yaml

def isFlowIndicator (c : Char) : Bool := c == ',' || c == '[' || c == ']' || c == '{' || c == '}'

/-- The characters up to the next white space or end of the scalar. Inside brackets a colon must not
stand right before an indicator. -/
def plainRun? (inFlow : Bool) : List Char → Option (List Char)
  | [] => some []
  | c :: rest =>
    if isSpace c then some []
    else if c = ':' then
      if inFlow && (rest.head?.map fun d => isFlowIndicator d || d == '?').getD false then none
      else if startsBlank rest then some []
      else (plainRun? inFlow rest).map (c :: ·)
    else if inFlow && isFlowIndicator c then some []
    else (plainRun? inFlow rest).map (c :: ·)

/-- What follows a run: the text, what comes after the scalar, and whether a line break separates the
two. -/
def plainRest? (inFlow : Bool) (indent : Nat) (c : Cursor) : Option (List Char × Cursor × Bool) :=
  if (c.rest.head?.map isSpace).getD false then do
    let (space, broken, next) ← gap? indent c
    if !inFlow && next.column < indent || next.startsDocumentMark || next.rest.head? == some '#' then
      pure ([], next, broken)
    else do
      let run ← plainRun? inFlow next.rest
      let after := next.skip run.length
      if run = [] then pure ([], next, broken)
      else if _h : after.rest.length < c.rest.length then do
        let (text, last, broken) ← plainRest? inFlow indent after
        pure (space ++ run ++ text, last, broken)
      else none
  else some ([], c, false)
termination_by c.rest.length
decreasing_by assumption

def plain? (inFlow : Bool) (indent : Nat) (c : Cursor) : Option (List Char × Cursor × Bool) := do
  let run ← plainRun? inFlow c.rest
  let (text, last, broken) ← plainRest? inFlow indent (c.skip run.length)
  pure (run ++ text, last, broken)

end ApiLoad.Yaml

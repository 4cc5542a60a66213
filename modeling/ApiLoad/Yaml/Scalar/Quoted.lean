import ApiLoad.Text.Hex
import ApiLoad.Yaml.Scalar.Gap

/-!
# Quoted scalars

Between single quotes a quote is written twice. Between double quotes a backslash starts an escape,
and one at the end of a line joins it with the next. A line with a document mark ends neither kind:
it is refused.
-/
set_option autoImplicit false

namespace ApiLoad.Yaml

def letterEscape? : Char → Option Char
  | '0' => some '\x00'
  | 'a' => some '\x07'
  | 'b' => some '\x08'
  | 't' | '\t' => some '\t'
  | 'n' => some '\n'
  | 'v' => some '\x0b'
  | 'f' => some '\x0c'
  | 'r' => some '\r'
  | 'e' => some '\x1b'
  | ' ' => some ' '
  | '"' => some '"'
  | '/' => some '/'
  | '\\' => some '\\'
  | 'N' => some '\u0085'
  | '_' => some '\u00a0'
  | 'L' => some '\u2028'
  | 'P' => some '\u2029'
  | _ => none

def codeLength? : Char → Option Nat
  | 'x' => some 2
  | 'u' => some 4
  | 'U' => some 8
  | _ => none

def codeChar? (code : Nat) : Option Char :=
  if h : code.isValidChar then some (Char.ofNatAux code h) else none

def escape? : List Char → Option (Char × Nat)
  | [] => none
  | c :: rest =>
    match codeLength? c with
    | none => (letterEscape? c).map fun char => (char, 1)
    | some n =>
      let digits := rest.take n
      if digits.length = n then do
        let char ← codeChar? (← Text.Hex.number? digits)
        pure (char, n + 1)
      else none

def doubleQuoted? (c : Cursor) : Option (List Char × Cursor) :=
  if c.startsDocumentMark then none
  else match _hRest : c.rest with
    | [] => none
    | '"' :: _ => some ([], c.skip 1)
    | '\\' :: rest =>
      if (rest.head?.map isBreak).getD false then do
        let (breaks, next) ← breaks? 0 (c.skip 1).dropBreak
        if _h : next.rest.length < c.rest.length then do
          let (text, last) ← doubleQuoted? next
          pure (breaks ++ text, last)
        else none
      else do
        let (char, length) ← escape? rest
        let (text, last) ← doubleQuoted? (c.skip (length + 1))
        pure (char :: text, last)
    | char :: _ =>
      if isSpace char then do
        let (space, _, next) ← gap? 0 c
        if _h : next.rest.length < c.rest.length then do
          let (text, last) ← doubleQuoted? next
          pure (space ++ text, last)
        else none
      else do
        let (text, last) ← doubleQuoted? (c.skip 1)
        pure (char :: text, last)
termination_by c.rest.length
decreasing_by
  · assumption
  · simp only [Cursor.rest_skip, _hRest, List.length_drop, List.length_cons]
    omega
  · assumption
  · simp [_hRest]

def singleQuoted? (c : Cursor) : Option (List Char × Cursor) :=
  if c.startsDocumentMark then none
  else match _hRest : c.rest with
    | [] => none
    | '\'' :: '\'' :: _ => do
      let (text, last) ← singleQuoted? (c.skip 2)
      pure ('\'' :: text, last)
    | '\'' :: _ => some ([], c.skip 1)
    | char :: _ =>
      if isSpace char then do
        let (space, _, next) ← gap? 0 c
        if _h : next.rest.length < c.rest.length then do
          let (text, last) ← singleQuoted? next
          pure (space ++ text, last)
        else none
      else do
        let (text, last) ← singleQuoted? (c.skip 1)
        pure (char :: text, last)
termination_by c.rest.length
decreasing_by
  · simp only [Cursor.rest_skip, _hRest, List.length_drop, List.length_cons]
    omega
  · assumption
  · simp [_hRest]

end ApiLoad.Yaml

import ApiLoad.Yaml.Scalar.Block
import ApiLoad.Yaml.Scalar.Plain
import ApiLoad.Yaml.Scalar.Quoted
import ApiLoad.Yaml.Token

/-!
# From text to tokens

Outside brackets and braces the column of a token opens and closes blocks. A token that could start a
simple key is remembered with its place; when a colon follows it on the same line and within 1024
bytes, a key token goes in at that place. A key that a block needs must find its colon.
-/
set_option autoImplicit false

namespace ApiLoad.Yaml

/-- A place where a simple key may have started: the number of tokens before it, and whether the block
around it can only go on with a key. -/
structure PossibleKey where
  place : Nat
  mark : Mark
  required : Bool
deriving DecidableEq, Repr

structure Layout where
  cursor : Cursor
  tokens : List Token
  indents : List Nat
  possible : Option PossibleKey
  outer : List (Option PossibleKey)
  keyAllowed : Bool

namespace Layout

def start (text : List Char) : Layout := ⟨.ofText text, [], [], none, [], true⟩

def inFlow (s : Layout) : Bool := s.outer ≠ []
def indent (s : Layout) : Option Nat := s.indents.head?

def isDeeper (s : Layout) (column : Nat) : Bool := (s.indent.map fun n => decide (n < column)).getD true

def emit (token : Token) (s : Layout) : Layout := { s with tokens := token :: s.tokens }
def skip (n : Nat) (s : Layout) : Layout := { s with cursor := s.cursor.skip n }
def allowKey (allowed : Bool) (s : Layout) : Layout := { s with keyAllowed := allowed }

def insert (place : Nat) (token : Token) (s : Layout) : Layout :=
  let later := s.tokens.length - place
  { s with tokens := s.tokens.take later ++ token :: s.tokens.drop later }

def openBlock (column : Nat) (place : Option Nat) (token : Token) (s : Layout) : Layout :=
  if !s.inFlow && s.isDeeper column then
    let s := { s with indents := column :: s.indents }
    match place with
    | none => s.emit token
    | some place => s.insert place token
  else s

def closeBlocks (stays : Nat → Bool) (s : Layout) : Layout :=
  if s.inFlow then s
  else
    let closed := s.indents.takeWhile (!stays ·)
    { s with
      indents := s.indents.drop closed.length
      tokens := closed.map (fun _ => Token.blockEnd) ++ s.tokens }

def dropKey? (s : Layout) : Option Layout :=
  if (s.possible.map (·.required)).getD false then none else some { s with possible := none }

def saveKey? (s : Layout) : Option Layout :=
  if s.keyAllowed then do
    let required := !s.inFlow && s.indent == some s.cursor.column
    let s ← s.dropKey?
    pure { s with possible := some ⟨s.tokens.length, s.cursor.mark, required⟩ }
  else some s

/-- A possible key stays one on its line and within 1024 bytes. -/
def isFresh (mark : Mark) (key : PossibleKey) : Bool :=
  key.mark.line == mark.line && mark.index ≤ key.mark.index + 1024

def dropStale? (s : Layout) : Option Layout :=
  let fresh := isFresh s.cursor.mark
  if (s.possible :: s.outer).any (fun key => (key.map fun k => !fresh k && k.required).getD false) then
    none
  else some { s with
    possible := s.possible.filter fresh
    outer := s.outer.map (·.filter fresh) }

/-- Moves over space, comments and line breaks. Outside brackets a line break allows a key, and a tab
is no space where a key could start. -/
def skipSpace (s : Layout) : Layout :=
  let c := s.cursor
  let c := if c.column = 0 && c.rest.head? == some '\ufeff' then c.skip 1 else c
  let tabs := s.inFlow || !s.keyAllowed
  let c := c.dropWhile fun ch => ch == ' ' || (tabs && ch == '\t')
  let c := if c.rest.head? == some '#' then c.dropWhile (!isBreak ·) else c
  if (c.rest.head?.map isBreak).getD false then
    let next : Layout := { s with cursor := c.dropBreak, keyAllowed := s.keyAllowed || !s.inFlow }
    if _h : next.cursor.rest.length < s.cursor.rest.length then skipSpace next else next
  else { s with cursor := c }
termination_by s.cursor.rest.length
decreasing_by assumption

/-- A token of one character that may itself start a key. -/
def startsKey? (s : Layout) : Option Layout := do
  let s ← s.saveKey?
  pure (s.allowKey false)

def openFlow? (token : Token) (s : Layout) : Option Layout := do
  let s ← s.saveKey?
  let s := { s with possible := none, outer := s.possible :: s.outer }
  pure ((s.allowKey true).skip 1 |>.emit token)

def closeFlow? (token : Token) (s : Layout) : Option Layout := do
  let s ← s.dropKey?
  let s := match s.outer with
    | [] => s
    | possible :: outer => { s with possible := possible, outer := outer }
  pure ((s.allowKey false).skip 1 |>.emit token)

def flowEntry? (s : Layout) : Option Layout := do
  let s ← s.dropKey?
  pure ((s.allowKey true).skip 1 |>.emit .flowEntry)

def blockEntry? (s : Layout) : Option Layout :=
  if !s.inFlow && !s.keyAllowed then none
  else do
    let s ← (s.openBlock s.cursor.column none .blockSequenceStart).dropKey?
    pure ((s.allowKey true).skip 1 |>.emit .blockEntry)

def key? (s : Layout) : Option Layout :=
  if !s.inFlow && !s.keyAllowed then none
  else do
    let s ← (s.openBlock s.cursor.column none .blockMappingStart).dropKey?
    pure ((s.allowKey (!s.inFlow)).skip 1 |>.emit .key)

def value? (s : Layout) : Option Layout :=
  match s.possible with
  | some key =>
    let s := s.insert key.place .key
    let s := s.openBlock key.mark.column (some key.place) .blockMappingStart
    some (({ s with possible := none }.allowKey false).skip 1 |>.emit .value)
  | none =>
    if !s.inFlow && !s.keyAllowed then none
    else
      let s := s.openBlock s.cursor.column none .blockMappingStart
      some ((s.allowKey (!s.inFlow)).skip 1 |>.emit .value)

/-- A document mark or a directive closes every block. -/
def atMargin? (s : Layout) : Option Layout := do
  let s ← (s.closeBlocks fun _ => false).dropKey?
  pure (s.allowKey false)

def documentMark? (token : Token) (s : Layout) : Option Layout := do
  let s ← s.atMargin?
  pure (s.skip 3 |>.emit token)

def directive? (s : Layout) : Option Layout := do
  let s ← s.atMargin?
  let (token, used) ← Token.directive? (s.cursor.rest.drop 1)
  let c := (s.cursor.skip (used + 1)).dropWhile isBlank
  let c := if c.rest.head? = some '#' then c.dropWhile (!isBreak ·) else c
  if (c.rest.head?.map isBreak).getD true then
    pure ({ s with cursor := c.dropBreak }.emit token)
  else none

def anchor? (token : String → Token) (s : Layout) : Option Layout := do
  let s ← s.startsKey?
  let name ← Token.anchorName? (s.cursor.rest.drop 1)
  pure (s.skip (name.length + 1) |>.emit (token name))

def tag? (s : Layout) : Option Layout := do
  let s ← s.startsKey?
  let (token, used) ← Token.tag? s.cursor.rest
  if Token.endsTag s.inFlow (s.cursor.rest.drop used) then pure (s.skip used |>.emit token) else none

def blockScalar? (folded : Bool) (s : Layout) : Option Layout := do
  let s ← s.dropKey?
  let (text, c) ← Yaml.blockScalar? folded s.indent (s.cursor.skip 1)
  pure ({ s with cursor := c, keyAllowed := true }.emit (.scalar (String.ofList text) false))

def quoted? (lex : Cursor → Option (List Char × Cursor)) (s : Layout) : Option Layout := do
  let s ← s.startsKey?
  let (text, c) ← lex (s.cursor.skip 1)
  pure ({ s with cursor := c }.emit (.scalar (String.ofList text) false))

def plain? (s : Layout) : Option Layout := do
  let s ← s.startsKey?
  let least := (s.indent.map (· + 1)).getD 0
  let (text, c, broken) ← Yaml.plain? s.inFlow least s.cursor
  pure ({ s with cursor := c, keyAllowed := broken }.emit (.scalar (String.ofList text) true))

def indicators : List Char :=
  [',', '[', ']', '\x7b', '\x7d', '#', '&', '*', '!', '|', '>', '\'', '"', '%', '@', '\x60']

/-- A plain scalar starts with no white space and no indicator. A dash, a question mark or a colon
starts one only before a character that is no white space. -/
def startsPlain (inFlow : Bool) (c : Char) (rest : List Char) : Bool :=
  if c = '-' then !(rest.head?.map isBlank).getD false
  else if c = '?' || c = ':' then !inFlow && !startsBlank rest
  else !isSpace c && !indicators.contains c

def token? (s : Layout) : Option Layout :=
  match s.cursor.rest with
  | [] => none
  | c :: rest =>
    if s.cursor.column = 0 && c == '%' then s.directive?
    else if s.cursor.startsIndicator false then s.documentMark? .documentStart
    else if s.cursor.startsIndicator true then s.documentMark? .documentEnd
    else if c = '[' then s.openFlow? .flowSequenceStart
    else if c = '{' then s.openFlow? .flowMappingStart
    else if c = ']' then s.closeFlow? .flowSequenceEnd
    else if c = '}' then s.closeFlow? .flowMappingEnd
    else if c = ',' then s.flowEntry?
    else if c = '-' && startsBlank rest then s.blockEntry?
    else if c = '?' && (s.inFlow || startsBlank rest) then s.key?
    else if c = ':' && (s.inFlow || startsBlank rest) then s.value?
    else if c = '*' then s.anchor? .alias
    else if c = '&' then s.anchor? .anchor
    else if c = '!' then s.tag?
    else if c = '|' && !s.inFlow then s.blockScalar? false
    else if c = '>' && !s.inFlow then s.blockScalar? true
    else if c = '\'' then s.quoted? singleQuoted?
    else if c = '"' then s.quoted? doubleQuoted?
    else if startsPlain s.inFlow c rest then s.plain?
    else none

/-- The end of the text closes every block and must not come where a key is required. -/
def finish? (s : Layout) : Option (List Token) := do
  let s ← (s.closeBlocks fun _ => false).dropKey?
  pure s.tokens.reverse

/-- All tokens from the cursor on. Every token takes at least one character. -/
def run? (s : Layout) : Option (List Token) := do
  let s' ← s.skipSpace.dropStale?
  let column := s'.cursor.column
  let s' := s'.closeBlocks (· ≤ column)
  if s'.cursor.rest = [] then s'.finish?
  else do
    let next ← s'.token?
    if _h : next.cursor.rest.length < s.cursor.rest.length then run? next else none
termination_by s.cursor.rest.length
decreasing_by assumption

end Layout

def isAllowed (c : Char) : Bool :=
  let n := c.toNat
  n == 0x09 || n == 0x0A || n == 0x0D || (0x20 ≤ n && n ≤ 0x7E) || n == 0x85 ||
    (0xA0 ≤ n && n ≤ 0xD7FF) || (0xE000 ≤ n && n ≤ 0xFFFD) || 0x10000 ≤ n

def Token.ofText? (text : List Char) : Option (List Token) :=
  if text.all isAllowed then (Layout.start text).run? else none

end ApiLoad.Yaml

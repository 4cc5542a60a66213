import ApiLoad.Number.Decimal
import ApiLoad.Text.Hex
import ApiLoad.Text.Pieces

/-!
# Addresses

An address of version 4 is written in one to four numbers, one of version 6 in eight pieces, with a gap
for zeros. Both have one normal form.
-/
set_option autoImplicit false

namespace ApiLoad.Http.Host

/-- A number of an address: decimal, octal after a zero, or hexadecimal after `0x`. -/
def number? : List Char → Option Nat
  | [] => none
  | '0' :: 'x' :: digits | '0' :: 'X' :: digits => Text.Hex.inBase? 16 digits
  | '0' :: d :: digits => Text.Hex.inBase? 8 (d :: digits)
  | digits => Text.Hex.inBase? 10 digits

def labels (name : List Char) : List (List Char) :=
  let parts := Text.splitOn (· == '.') name
  if 1 < parts.length && parts.getLast? == some [] then parts.dropLast else parts

def endsInNumber (name : List Char) : Bool :=
  match (labels name).getLast? with
  | none | some [] => false
  | some last => last.all Char.isDigit || (last.take 2 == ['0', 'x'] && (number? last).isSome)

/-- The address that one to four numbers give: the last fills all remaining bytes. -/
def address4? (name : List Char) : Option Nat := do
  let numbers ← (labels name).mapM number?
  let last ← numbers.getLast?
  let leading := numbers.dropLast
  if 4 < numbers.length ∨ leading.any (255 < ·) ∨ Nat.pow 256 (4 - leading.length) ≤ last then none
  else pure (leading.foldl (fun n b => 256 * n + b) 0 * Nat.pow 256 (4 - leading.length) + last)

def text4 (address : Nat) : List Char :=
  Text.joinWith ['.'] ([3, 2, 1, 0].map fun place => Decimal.digitsOf (address / Nat.pow 256 place % 256))

/-- Four numbers up to 255 without leading zeros, as the last two pieces. -/
def tail4? (text : List Char) : Option (List Nat) := do
  let parts := Text.splitOn (· == '.') text
  let bytes ← parts.mapM fun part =>
    if part = [] ∨ !part.all Char.isDigit ∨ (1 < part.length ∧ part.head? = some '0') then none
    else some (Decimal.valueOf part)
  match bytes with
  | [a, b, c, d] =>
    if bytes.any (255 < ·) then none else pure [256 * a + b, 256 * c + d]
  | _ => none

/-- Pieces between colons. The last may be an address of version 4. -/
def pieces? : List (List Char) → Option (List Nat)
  | [] => some []
  | [part] =>
    if part.contains '.' then tail4? part
    else if part = [] ∨ 4 < part.length then none
    else (Text.Hex.number? part).map ([·])
  | part :: rest => do
    if part = [] ∨ 4 < part.length then none
    else pure ((← Text.Hex.number? part) :: (← pieces? rest))

def group? (text : List Char) : Option (List Nat) :=
  if text = [] then some [] else pieces? (Text.splitOn (· == ':') text)

def splitGap : List Char → Option (List Char × List Char)
  | ':' :: ':' :: rest => some ([], rest)
  | c :: rest => (splitGap rest).map fun (before, after) => (c :: before, after)
  | [] => none

/-- Eight pieces. A gap stands for at least one zero piece. -/
def address6? (text : List Char) : Option (List Nat) :=
  match splitGap text with
  | none => (group? text).filter (·.length = 8)
  | some (before, after) => do
    let left ← if before.contains '.' then none else group? before
    let right ← group? after
    if 7 < left.length + right.length then none
    else pure (left ++ List.replicate (8 - left.length - right.length) 0 ++ right)

def zeroRuns : List Nat → List Nat
  | [] => []
  | n :: rest =>
    let runs := zeroRuns rest
    (if n = 0 then runs.headD 0 + 1 else 0) :: runs

/-- The first longest run of at least two zeros is written as a gap. -/
def text6 (pieces : List Nat) : List Char :=
  let hex (part : List Nat) : List Char := Text.joinWith [':'] (part.map Text.Hex.digits)
  let runs := zeroRuns pieces
  let longest := runs.foldl max 0
  if longest < 2 then hex pieces
  else
    let place := runs.findIdx (· == longest)
    hex (pieces.take place) ++ [':', ':'] ++ hex (pieces.drop (place + longest))

end ApiLoad.Http.Host

/-!
# UTF-8

A byte sequence splits into pieces, each a character or a longest start of one that the next byte
does not continue. Strict reading wants characters only; lenient reading puts U+FFFD for every other
piece.
-/
set_option autoImplicit false

namespace ApiLoad.Text.Utf8

/-- How many bytes follow a first byte, and the least and greatest value of the first of them. -/
def following? (first : UInt8) : Option (Nat × UInt8 × UInt8) :=
  if first < 0x80 then some (0, 0x80, 0xBF)
  else if first < 0xC2 then none
  else if first < 0xE0 then some (1, 0x80, 0xBF)
  else if first = 0xE0 then some (2, 0xA0, 0xBF)
  else if first = 0xED then some (2, 0x80, 0x9F)
  else if first < 0xF0 then some (2, 0x80, 0xBF)
  else if first = 0xF0 then some (3, 0x90, 0xBF)
  else if first < 0xF4 then some (3, 0x80, 0xBF)
  else if first = 0xF4 then some (3, 0x80, 0x8F)
  else none

/-- The bytes, at most `count`, that continue a character: the first within the given bounds. -/
def continuing : Nat → UInt8 → UInt8 → List UInt8 → List UInt8
  | count + 1, low, high, b :: rest =>
    if low ≤ b ∧ b ≤ high then b :: continuing count 0x80 0xBF rest else []
  | _, _, _, _ => []

def leadBits (count : Nat) (first : UInt8) : Nat :=
  if count = 0 then first.toNat else first.toNat % Nat.pow 2 (6 - count)

def codePoint (count : Nat) (first : UInt8) (rest : List UInt8) : Nat :=
  rest.foldl (fun n b => 64 * n + b.toNat % 64) (leadBits count first)

/-- The piece that starts with `first`, and how many of the bytes after it belong to it. -/
def piece (first : UInt8) (rest : List UInt8) : Option Char × Nat :=
  match following? first with
  | none => (none, 0)
  | some (count, low, high) =>
    let more := continuing count low high rest
    if more.length = count then (some (Char.ofNat (codePoint count first more)), count)
    else (none, more.length)

def pieces : List UInt8 → List (Option Char)
  | [] => []
  | first :: rest =>
    let (char?, used) := piece first rest
    char? :: pieces (rest.drop used)
termination_by bytes => bytes.length
decreasing_by
  simp only [List.length_drop, List.length_cons]
  omega

def decode? (bytes : List UInt8) : Option String :=
  ((pieces bytes).mapM id).map String.ofList

def decodeLenient (bytes : List UInt8) : String :=
  String.ofList ((pieces bytes).map (·.getD '\uFFFD'))

end ApiLoad.Text.Utf8

import ApiLoad.Random.Source
import ApiLoad.Text.Hex

/-!
# Draws

A draw reads words from a source. It gives no value only when it rejects words for longer than the
source has patience.
-/
set_option autoImplicit false

namespace ApiLoad

abbrev Draw := StateT Source Option

namespace Draw

def word : Draw UInt64 := fun source =>
  some (source.word source.position, { source with position := source.position + 1 })

def bits (width : Nat) : Draw Nat := do
  let w ← word
  pure (w.toNat % Nat.pow 2 width)

/-- A number below `n`: the high part of a draw times `n`. When the low part is so great that one more
draw, scaled in the same way, can carry into the high part, that draw is taken. -/
def below (width n : Nat) : Draw Nat := do
  let first := (← bits width) * n
  let high := first / Nat.pow 2 width
  let low := first % Nat.pow 2 width
  if Nat.pow 2 width - n < low then do
    let carry := (← bits width) * n / Nat.pow 2 width
    pure (if Nat.pow 2 width ≤ low + carry then high + 1 else high)
  else pure high

def pick {α : Type} [Inhabited α] (items : List α) : Draw α := do
  let index ← below 32 items.length
  pure (items.getD index default)

def coin : Draw Bool := do
  let w ← word
  pure (decide (w < 0x8000000000000000))

def byte : Draw UInt8 := do
  let n ← bits 8
  pure (UInt8.ofNat n)

def bytes : Nat → Draw (List UInt8)
  | 0 => pure []
  | n + 1 => do
    let first ← byte
    let rest ← bytes n
    pure (first :: rest)

/-- Sets the bits that mark the version and the variant of a random identifier. -/
def stamp (bytes : List UInt8) : List UInt8 :=
  (bytes.modify 6 fun b => b &&& 0x0f ||| 0x40).modify 8 fun b => b &&& 0x3f ||| 0x80

def identifier : Draw (List Char) := do
  let random ← bytes 16
  pure (Text.Hex.ofBytes (stamp random))

end Draw
end ApiLoad

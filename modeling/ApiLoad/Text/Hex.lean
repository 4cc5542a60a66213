/-!
# Hexadecimal digits

Written in lower case, read in either case.
-/
set_option autoImplicit false

namespace ApiLoad.Text.Hex

def digit (n : Nat) : Char := Nat.digitChar n

def digits (n : Nat) : List Char := Nat.toDigits 16 n

def value? (c : Char) : Option Nat :=
  if '0' ≤ c ∧ c ≤ '9' then some (c.toNat - '0'.toNat)
  else if 'a' ≤ c ∧ c ≤ 'f' then some (c.toNat - 'a'.toNat + 10)
  else if 'A' ≤ c ∧ c ≤ 'F' then some (c.toNat - 'A'.toNat + 10)
  else none

def number? (digits : List Char) : Option Nat :=
  digits.foldlM (fun n c => (value? c).map (16 * n + ·)) 0

def inBase? (base : Nat) (digits : List Char) : Option Nat :=
  digits.foldlM (fun n c => do
    let d ← value? c
    if d < base then pure (base * n + d) else none) 0

def ofBytes (bytes : List UInt8) : List Char :=
  bytes.flatMap fun b => [digit (b.toNat / 16), digit (b.toNat % 16)]

def toBytes? : List Char → Option (List UInt8)
  | [] => some []
  | [_] => none
  | high :: low :: rest => do
    let h ← value? high
    let l ← value? low
    let bytes ← toBytes? rest
    pure (UInt8.ofNat (16 * h + l) :: bytes)

end ApiLoad.Text.Hex

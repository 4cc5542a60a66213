/-!
# Base 64

Three bytes in four characters. Equals signs fill the last four up where bytes are missing.
-/
set_option autoImplicit false

namespace ApiLoad.Text.Base64

def alphabet : List Char :=
  "ABCDEFGHIJKLMNOPQRSTUVWXYZabcdefghijklmnopqrstuvwxyz0123456789+/".toList

def digit (n : Nat) : Char := alphabet.getD (n % 64) '='

def digits (n : Nat) : List Char := [digit (n / 262144), digit (n / 4096), digit (n / 64), digit n]

def encode : List UInt8 → List Char
  | a :: b :: c :: rest => digits (65536 * a.toNat + 256 * b.toNat + c.toNat) ++ encode rest
  | [a, b] => (digits (65536 * a.toNat + 256 * b.toNat)).take 3 ++ ['=']
  | [a] => (digits (65536 * a.toNat)).take 2 ++ ['=', '=']
  | [] => []

end ApiLoad.Text.Base64

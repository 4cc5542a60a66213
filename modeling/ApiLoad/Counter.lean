/-!
# Counters

Sums of 64 bits. A sum that does not fit is refused, and ends the program.
-/
set_option autoImplicit false

namespace ApiLoad.Counter

def limit : Nat := 0x10000000000000000

def add? (a b : Nat) : Option Nat := if a + b < limit then some (a + b) else none

def sum? (counts : List Nat) : Option Nat := counts.foldlM add? 0

def overflow : String := "attempt to add with overflow"

end ApiLoad.Counter

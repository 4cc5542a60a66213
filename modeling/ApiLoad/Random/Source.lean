import ApiLoad.Counter

/-!
# Sources of random words

A source is an endless sequence of words of 64 bits, read in order. Two kinds are given: a finite list
over and over, and a mixed counter.
-/
set_option autoImplicit false

namespace ApiLoad

structure Source where
  word : Nat → UInt64
  position : Nat := 0
  /-- After this many rejections in a row a draw gives up. Where the words repeat, nothing new comes
  after one period. -/
  patience : Nat

namespace Source

def cyclic (words : Array UInt64) : Source where
  word n := words.getD (n % words.size) 0
  patience := words.size + 1

def mix (z : UInt64) : UInt64 :=
  let z := (z ^^^ (z >>> 30)) * 0xBF58476D1CE4E5B9
  let z := (z ^^^ (z >>> 27)) * 0x94D049BB133111EB
  z ^^^ (z >>> 31)

/-- SplitMix64: each word mixes a counter that moves by a constant. -/
def splitMix (seed : UInt64) : Source where
  word n := mix (seed + UInt64.ofNat (n + 1) * 0x9E3779B97F4A7C15)
  patience := Counter.limit

end Source
end ApiLoad

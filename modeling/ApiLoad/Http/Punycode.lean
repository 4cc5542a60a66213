/-!
# Punycode

A label of a host name in ASCII: its ASCII characters, then the others in ascending order as
differences, in digits to base 36 with thresholds that adapt to the differences before. A difference
counts the places at which the next character could come in.
-/
set_option autoImplicit false

namespace ApiLoad.Http.Punycode

def digit (d : Nat) : Char := Char.ofNat (if d < 26 then 0x61 + d else 0x30 + (d - 26))

/-- The least digit that does not end a number, at a place. -/
def threshold (place bias : Nat) : Nat := min 26 (max 1 (place - bias))

def digits (bias place n : Nat) : List Char :=
  let t := threshold place bias
  if _h : n < t then [digit n]
  else digit (t + (n - t) % (36 - t)) :: digits bias (place + 36) ((n - t) / (36 - t))
termination_by n
decreasing_by
  have hPos : 1 ≤ threshold place bias := by
    unfold threshold
    omega
  have hDiv := Nat.div_le_self (n - threshold place bias) (36 - threshold place bias)
  omega

def settle (place difference : Nat) : Nat :=
  if 455 < difference then settle (place + 36) (difference / 35)
  else place + 36 * difference / (difference + 38)
termination_by difference

def adapt (first : Bool) (difference count : Nat) : Nat :=
  let halved := difference / (if first then 700 else 2)
  settle 0 (halved + halved / count)

structure State where
  output : List Char := []
  difference : Nat := 0
  bias : Nat := 72
  count : Nat

def visit (basic point : Nat) (s : State) (c : Char) : State :=
  if c.toNat < point then { s with difference := s.difference + 1 }
  else if c.toNat = point then
    ⟨s.output ++ digits s.bias 36 s.difference, 0,
      adapt (s.count == basic) s.difference (s.count + 1), s.count + 1⟩
  else s

/-- One round for each code point beyond ASCII, in ascending order. -/
def rounds (label : List Char) (basic : Nat) : List Nat → Nat → State → List Char
  | [], _, s => s.output
  | point :: rest, reached, s =>
    let s := { s with difference := s.difference + (point - reached) * (s.count + 1) }
    let s := label.foldl (visit basic point) s
    rounds label basic rest (point + 1) { s with difference := s.difference + 1 }

def encode (label : List Char) : List Char :=
  let basic := label.filter (·.toNat < 0x80)
  let points := ((label.map Char.toNat).filter (0x80 ≤ ·)).eraseDups.mergeSort
  basic ++ (if basic = [] then [] else ['-']) ++
    rounds label basic.length points 0x80 ⟨[], 0, 72, basic.length⟩

def digitValue? (c : Char) : Option Nat :=
  if 'a' ≤ c ∧ c ≤ 'z' then some (c.toNat - 0x61)
  else if '0' ≤ c ∧ c ≤ '9' then some (c.toNat - 0x30 + 26)
  else none

/-- The number at the start of a text, as far as its digits weigh at this place, and the rest. -/
def number? (bias : Nat) : Nat → Nat → List Char → Option (Nat × List Char)
  | _, _, [] => none
  | place, weight, c :: rest => do
    let d ← digitValue? c
    let t := threshold place bias
    if d < t then pure (d * weight, rest)
    else
      let (more, rest) ← number? bias (place + 36) (weight * (36 - t)) rest
      pure (d * weight + more, rest)

theorem length_number? {bias place weight n : Nat} {text rest : List Char}
    (h : number? bias place weight text = some (n, rest)) : rest.length < text.length := by
  induction text generalizing place weight n with
  | nil => cases h
  | cons c text ih =>
    unfold number? at h
    cases hd : digitValue? c with
    | none => simp only [hd, Option.bind_eq_bind, Option.bind_none, reduceCtorEq] at h
    | some d =>
      simp only [hd, Option.bind_eq_bind, Option.bind_some] at h
      split at h
      · cases h
        simp only [List.length_cons]
        omega
      · cases hMore : number? bias (place + 36) (weight * (36 - threshold place bias)) text with
        | none => simp only [hMore, Option.bind_none, reduceCtorEq] at h
        | some more =>
          simp only [hMore, Option.bind_some] at h
          cases h
          have := ih hMore
          simp only [List.length_cons]
          omega

/-- Puts one character after another into a label. `point` and `place` are where the search for the next
difference starts. -/
def restore? (bias point place : Nat) (label : List Char) (text : List Char) : Option (List Char) :=
  if text = [] then some label
  else match _h : number? bias 36 1 text with
    | none => none
    | some (difference, rest) =>
      let count := label.length + 1
      let next := point + (place + difference) / count
      let target := (place + difference) % count
      if next.isValidChar then
        restore? (adapt (place == 0) difference count) next (target + 1)
          (label.take target ++ Char.ofNat next :: label.drop target) rest
      else none
termination_by text.length
decreasing_by exact length_number? _h

/-- The label that a text encodes. ASCII characters stand before the last dash, if any do. -/
def decode? (text : List Char) : Option (List Char) :=
  let digits := (text.reverse.takeWhile (· != '-')).reverse
  let basic := text.take (text.length - digits.length)
  if basic = ['-'] then none else restore? 72 0x80 0 basic.dropLast digits

end ApiLoad.Http.Punycode

import ApiLoad.Text.Hex
import ApiLoad.Text.Pieces

/-!
# Tables of code points

Tables are texts of entries in hexadecimal digits. A set lists code points and the bounds of ranges, as
in `30-39 5F`. An assignment says what code points stand for. `41-5A>61` shifts a range so that it
starts at the target, `100-12E/2>101` every second one of a range, `FE00-FE0F>` drops a range, and
`BC>31.2044.34,31.2044.32` lists what a code point and those after it stand for.
-/
set_option autoImplicit false

namespace ApiLoad.Text

namespace CodePoints

def entries (table : String) : List (List Char) :=
  (splitOn (fun c => c == ' ' || c == '\n') table.toList).filter (· ≠ [])

def number (digits : List Char) : Nat := (Hex.number? digits).getD 0

def bounds (text : List Char) : Nat × Nat :=
  let (first, last) := before (· == '-') text
  (number first, number (if last = [] then first else last.drop 1))

end CodePoints

abbrev CodeSet := List (Nat × Nat)

def CodeSet.ofTable (table : String) : CodeSet := (CodePoints.entries table).map CodePoints.bounds

def CodeSet.contains (set : CodeSet) (c : Char) : Bool :=
  set.any fun (first, last) => first ≤ c.toNat && c.toNat ≤ last

inductive CodeRun
  | shifted (first last step target : Nat)
  | dropped (first last : Nat)
  | listed (first : Nat) (targets : List (List Nat))
deriving DecidableEq, Repr

namespace CodeRun

def expand? (code : Nat) : CodeRun → Option (List Nat)
  | .shifted first last step target =>
    if first ≤ code ∧ code ≤ last ∧ (code - first) % step = 0 then some [target + (code - first)]
    else none
  | .dropped first last => if first ≤ code ∧ code ≤ last then some [] else none
  | .listed first targets => if first ≤ code then targets[code - first]? else none

def source? (target : List Nat) : CodeRun → Option Char
  | .listed first targets => (targets.idxOf? target).map fun place => Char.ofNat (first + place)
  | _ => none

def ofEntry (entry : List Char) : CodeRun :=
  let (source, target) := before (· == '>') entry
  let target := target.drop 1
  if source.contains '-' then
    let (range, step) := before (· == '/') source
    let (first, last) := CodePoints.bounds range
    if target = [] then .dropped first last
    else .shifted first last (if step = [] then 1 else CodePoints.number (step.drop 1))
      (CodePoints.number target)
  else
    .listed (CodePoints.number source) <| (splitOn (· == ',') target).map fun codes =>
      if codes = [] then [] else (splitOn (· == '.') codes).map CodePoints.number

end CodeRun

abbrev CodeMap := List CodeRun

def CodeMap.ofTable (table : String) : CodeMap := (CodePoints.entries table).map CodeRun.ofEntry

def CodeMap.expand? (runs : CodeMap) (c : Char) : Option (List Char) :=
  (runs.findSome? (CodeRun.expand? c.toNat)).map (·.map Char.ofNat)

end ApiLoad.Text

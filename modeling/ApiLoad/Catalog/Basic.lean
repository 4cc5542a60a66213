import ApiLoad.Error
import ApiLoad.Json.Basic
import ApiLoad.Random.Draw

/-!
# The catalog

The examples that traffic is made from: at least one, in the order of the description. A pick gives
each of them the same chance.
-/
set_option autoImplicit false

namespace ApiLoad

structure Example where
  path : String
  template : Json
deriving BEq, Repr, Inhabited

structure Catalog where
  examples : List Example
  nonempty : examples ≠ []

namespace Catalog

def ofExamples (examples : List Example) : Except Error Catalog :=
  if h : examples = [] then .error .noExamples else .ok ⟨examples, h⟩

theorem ofExamples_eq_ok_iff {examples : List Example} {catalog : Catalog} :
    ofExamples examples = .ok catalog ↔ catalog.examples = examples := by
  unfold ofExamples
  split
  · rename_i hNone
    constructor
    · nofun
    · rintro rfl
      exact absurd hNone catalog.nonempty
  · constructor
    · rintro ⟨⟩
      rfl
    · rintro rfl
      rfl

theorem ofExamples_eq_error_iff {examples : List Example} {error : Error} :
    ofExamples examples = .error error ↔ error = .noExamples ∧ examples = [] := by
  unfold ofExamples
  split
  · rename_i hNone
    simp [hNone, eq_comm]
  · rename_i hSome
    simp [hSome]

def size (c : Catalog) : Nat := c.examples.length
def isEmpty (c : Catalog) : Bool := c.examples.isEmpty
def paths (c : Catalog) : List String := c.examples.map (·.path)

def choose (c : Catalog) : Draw Example := Draw.pick c.examples

end Catalog
end ApiLoad

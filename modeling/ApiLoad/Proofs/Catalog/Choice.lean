import ApiLoad.Catalog.Basic
import ApiLoad.Proofs.Random.Uniform

/-!
# Picks from a catalog

A pick scales two draws down to the size of the catalog, so every example is picked by as many pairs of
draws as any other, up to a single pair.
-/
set_option autoImplicit false

namespace ApiLoad.Catalog

/-- The place of the example that two draws of 32 bits pick: the draws are the digits of a number of 64 bits,
which is scaled down to the size of the catalog. -/
def placeOf (c : Catalog) (draws : Nat × Nat) : Nat :=
  (draws.1 * 2 ^ 32 + draws.2) * c.size / 2 ^ 64

open Finset in
def drawsOf (c : Catalog) (place : Nat) : Finset (Nat × Nat) :=
  (range (2 ^ 32) ×ˢ range (2 ^ 32)).filter (c.placeOf · = place)

section Pick

variable (c : Catalog)

theorem size_pos : 0 < c.size := List.length_pos_iff.mpr c.nonempty

theorem placeOf_eq (draws : Nat × Nat) : c.placeOf draws = Draw.share (2 ^ 32) c.size draws := rfl

theorem run_choose (hSize : c.size ≤ 2 ^ 32) (source : Source) : ∃ e s,
    c.choose.run source = some (e, s) ∧
      c.examples[c.placeOf (source.draw 32 0, source.draw 32 1)]? = some e := by
  have hPlace : c.placeOf (source.draw 32 0, source.draw 32 1) < c.examples.length :=
    Draw.share_lt c.size_pos (Nat.mod_lt _ (by decide)) (Nat.mod_lt _ (by decide))
  obtain ⟨s, hRun⟩ := Draw.run_below c.size_pos hSize source
  refine ⟨_, s, ?_, List.getElem?_eq_getElem hPlace⟩
  rw [choose, Draw.pick, StateT.run_bind, ← size, hRun, ← placeOf_eq]
  simp [List.getD_eq_getElem?_getD, List.getElem?_eq_getElem hPlace]

/-- A pick is uniform. It takes the example at the place of two draws of 32 bits, whether or not the second
is made. Every example is picked by some pairs of draws, and by as many as any other, up to one. -/
theorem choice_is_uniform (hSize : c.size < 2 ^ 32) :
    (∀ source : Source, ∃ e s, c.choose.run source = some (e, s) ∧
      c.examples[c.placeOf (source.draw 32 0, source.draw 32 1)]? = some e) ∧
    (∀ first < 2 ^ 32, ∀ second < 2 ^ 32, c.placeOf (first, second) < c.size) ∧
    (∀ place < c.size, (c.drawsOf place).Nonempty) ∧
    ∀ place < c.size, ∀ other < c.size, (c.drawsOf place).card ≤ (c.drawsOf other).card + 1 := by
  have hBase : 0 < 2 ^ 32 := Nat.two_pow_pos 32
  have hRoom : 0 < 2 ^ 32 * 2 ^ 32 / c.size :=
    Nat.div_pos (Nat.le_trans (Nat.le_of_lt hSize) (Nat.le_mul_of_pos_right _ hBase)) c.size_pos
  have hBounds (place : Nat) (hPlace : place < c.size) :=
    Draw.card_shareOf_bounds c.size_pos hPlace hBase
  refine ⟨c.run_choose (Nat.le_of_lt hSize), fun first hFirst second hSecond =>
    Draw.share_lt c.size_pos hFirst hSecond, fun place hPlace => ?_, fun place hPlace other hOther => ?_⟩
  · exact Finset.card_pos.mp (Nat.lt_of_lt_of_le hRoom (hBounds place hPlace).1)
  · exact Nat.le_trans (hBounds place hPlace).2 (Nat.succ_le_succ (hBounds other hOther).1)

end Pick

namespace Carrying

def catalog : Catalog := ⟨[⟨"/a", .null⟩, ⟨"/b", .null⟩, ⟨"/c", .null⟩], by decide⟩

/-- The first draw is a third of all, rounded down, and the second is great enough to carry. -/
def source : Source := .cyclic #[0x55555555, 0x80000000]

end Carrying

theorem choice_of_carrying : Carrying.catalog.size < 2 ^ 32 ∧
    Carrying.catalog.placeOf (Carrying.source.draw 32 0, Carrying.source.draw 32 1) = 1 ∧
    (∃ e s, Carrying.catalog.choose.run Carrying.source = some (e, s) ∧ e.path = "/b") ∧
    (Carrying.catalog.drawsOf 0).card ≤ (Carrying.catalog.drawsOf 1).card + 1 := by
  have hSize : Carrying.catalog.size < 2 ^ 32 := by decide
  have hPlace : Carrying.catalog.placeOf
      (Carrying.source.draw 32 0, Carrying.source.draw 32 1) = 1 := by decide +kernel
  obtain ⟨hChoice, -, -, hShares⟩ := choice_is_uniform Carrying.catalog hSize
  obtain ⟨e, s, hRun, hFound⟩ := hChoice Carrying.source
  rw [hPlace] at hFound
  exact ⟨hSize, hPlace, ⟨e, s, hRun, by cases hFound; rfl⟩, hShares 0 (by decide) 1 (by decide)⟩

end ApiLoad.Catalog

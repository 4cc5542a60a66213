import ApiLoad.Random.Draw
import Mathlib.Algebra.Order.Ring.Nat
import Mathlib.Data.List.Basic

/-!
# What draws can give

A draw of several parts gives only what its parts can give. A number drawn below a bound is below it,
so a pick is one of the items, and an identifier has its marks, whatever the source.
-/
set_option autoImplicit false

namespace ApiLoad

namespace Draw

theorem run_bind_eq_some {α β : Type} {first : Draw α} {next : α → Draw β} {source s : Source}
    {b : β} (h : (first >>= next).run source = some (b, s)) :
    ∃ a between, first.run source = some (a, between) ∧ (next a).run between = some (b, s) := by
  rw [StateT.run_bind, Option.bind_eq_bind, Option.bind_eq_some_iff] at h
  obtain ⟨⟨a, between⟩, hFirst, hNext⟩ := h
  exact ⟨a, between, hFirst, hNext⟩

theorem run_pure_eq_some {α : Type} {a b : α} {source s : Source}
    (h : (pure a : Draw α).run source = some (b, s)) : b = a ∧ s = source := by
  cases h
  exact ⟨rfl, rfl⟩

/-- Some source lets the draw give the value. -/
def Gives {α : Type} (draw : Draw α) (a : α) : Prop := ∃ source s, draw.run source = some (a, s)

theorem Gives.of_run {α : Type} {draw : Draw α} {source : Source} {drawn : α × Source}
    (h : draw.run source = some drawn) : draw.Gives drawn.1 :=
  ⟨source, drawn.2, h⟩

theorem Gives.of_bind {α β : Type} {first : Draw α} {next : α → Draw β} {b : β}
    (h : (first >>= next).Gives b) : ∃ a, first.Gives a ∧ (next a).Gives b := by
  obtain ⟨source, s, h⟩ := h
  obtain ⟨a, between, hFirst, hNext⟩ := run_bind_eq_some h
  exact ⟨a, ⟨source, between, hFirst⟩, between, s, hNext⟩

theorem Gives.of_pure {α : Type} {a b : α} (h : (pure a : Draw α).Gives b) : b = a := by
  obtain ⟨source, s, h⟩ := h
  exact (run_pure_eq_some h).1

theorem Gives.bits_lt {width n : Nat} (h : (bits width).Gives n) : n < Nat.pow 2 width := by
  obtain ⟨w, -, h⟩ := h.of_bind
  rw [h.of_pure]
  exact Nat.mod_lt _ (Nat.pow_pos Nat.two_pos)

theorem Gives.below_lt {width n k : Nat} (hBound : 0 < n) (h : (below width n).Gives k) : k < n := by
  obtain ⟨drawn, hDrawn, h⟩ := h.of_bind
  have hDrawn := hDrawn.bits_lt
  have hScaled : drawn * n + n ≤ n * Nat.pow 2 width := by
    calc drawn * n + n = (drawn + 1) * n := (Nat.succ_mul ..).symm
      _ ≤ Nat.pow 2 width * n := Nat.mul_le_mul_right n hDrawn
      _ = n * Nat.pow 2 width := Nat.mul_comm ..
  have hParts := Nat.div_add_mod' (drawn * n) (Nat.pow 2 width)
  have hHigh : drawn * n / Nat.pow 2 width < n :=
    Nat.div_lt_of_lt_mul (by rw [Nat.mul_comm (Nat.pow 2 width)]; omega)
  dsimp only at h
  split at h
  · rename_i hLow
    obtain ⟨carried, -, h⟩ := h.of_bind
    rw [h.of_pure]
    split
    · -- The highest part leaves too little for a low part that can carry.
      refine Nat.lt_of_le_of_ne hHigh fun hLast => ?_
      have hTop : n * Nat.pow 2 width =
          drawn * n / Nat.pow 2 width * Nat.pow 2 width + Nat.pow 2 width := by
        rw [← Nat.succ_mul]
        exact congrArg (· * Nat.pow 2 width) hLast.symm
      omega
    · exact hHigh
  · rw [h.of_pure]
    exact hHigh

theorem Gives.pick_mem {α : Type} [Inhabited α] {items : List α} {a : α} (hItems : items ≠ [])
    (h : (pick items).Gives a) : a ∈ items := by
  obtain ⟨index, hIndex, h⟩ := h.of_bind
  have hIndex := hIndex.below_lt (List.length_pos_iff.mpr hItems)
  rw [h.of_pure, List.getD_eq_getElem?_getD, List.getElem?_eq_getElem hIndex]
  exact List.getElem_mem hIndex

theorem Gives.length_bytes {n : Nat} {drawn : List UInt8} (h : (bytes n).Gives drawn) :
    drawn.length = n := by
  induction n generalizing drawn with
  | zero => rw [h.of_pure, List.length_nil]
  | succ n ih =>
    obtain ⟨first, -, h⟩ := h.of_bind
    obtain ⟨rest, hRest, h⟩ := h.of_bind
    rw [h.of_pure, List.length_cons, ih hRest]

end Draw

namespace Text.Hex

def lower : List Char := "0123456789abcdef".toList

theorem digit_mem_lower {n : Nat} (h : n < 16) : digit n ∈ lower := by
  have hAll : ∀ n < 16, digit n ∈ lower := by decide
  exact hAll n h

theorem length_ofBytes (bytes : List UInt8) : (ofBytes bytes).length = 2 * bytes.length := by
  simp [ofBytes, List.length_flatMap, Nat.mul_comm]

theorem mem_lower_of_mem_ofBytes {bytes : List UInt8} {c : Char} (h : c ∈ ofBytes bytes) :
    c ∈ lower := by
  obtain ⟨b, -, hDigit⟩ := List.mem_flatMap.mp h
  have hByte := b.toNat_lt
  rcases List.mem_pair.mp hDigit with rfl | rfl
  · exact digit_mem_lower (by omega)
  · exact digit_mem_lower (by omega)

/-- The first digit of a byte stands at twice its place. -/
theorem getElem?_ofBytes (bytes : List UInt8) (place : Nat) :
    (ofBytes bytes)[2 * place]? = bytes[place]?.map fun b => digit (b.toNat / 16) := by
  induction bytes generalizing place with
  | nil => rfl
  | cons b rest ih =>
    cases place with
    | zero => rfl
    | succ place => exact ih place

end Text.Hex

namespace Draw

/-- The digits of a random identifier: those of sixteen bytes, marked with the version and the variant. -/
structure IsIdentifier (digits : List Char) : Prop where
  length : digits.length = 32
  lower : ∀ c ∈ digits, c ∈ Text.Hex.lower
  version : digits[12]? = some '4'
  variant : ∃ c ∈ ['8', '9', 'a', 'b'], digits[16]? = some c

theorem version_digit (b : UInt8) : Text.Hex.digit ((b &&& 0x0f ||| 0x40).toNat / 16) = '4' := by
  have hAll : ∀ n < 256, Text.Hex.digit ((UInt8.ofNat n &&& 0x0f ||| 0x40).toNat / 16) = '4' := by
    decide +kernel
  simpa only [UInt8.ofNat_toNat] using hAll b.toNat b.toNat_lt

theorem variant_digit (b : UInt8) :
    Text.Hex.digit ((b &&& 0x3f ||| 0x80).toNat / 16) ∈ ['8', '9', 'a', 'b'] := by
  have hAll : ∀ n < 256,
      Text.Hex.digit ((UInt8.ofNat n &&& 0x3f ||| 0x80).toNat / 16) ∈ ['8', '9', 'a', 'b'] := by
    decide +kernel
  simpa only [UInt8.ofNat_toNat] using hAll b.toNat b.toNat_lt

theorem Gives.isIdentifier {digits : List Char} (h : identifier.Gives digits) :
    IsIdentifier digits := by
  obtain ⟨drawn, hDrawn, h⟩ := h.of_bind
  have hLength := hDrawn.length_bytes
  rw [h.of_pure]
  refine ⟨?_, fun c hc => Text.Hex.mem_lower_of_mem_ofBytes hc, ?_, ?_⟩
  · simp [Text.Hex.length_ofBytes, stamp, hLength]
  · have hByte : (stamp drawn)[6]? = some (drawn[6] &&& 0x0f ||| 0x40) := by
      simp [stamp, hLength]
    have hDigit := Text.Hex.getElem?_ofBytes (stamp drawn) 6
    rwa [hByte, Option.map_some, version_digit] at hDigit
  · have hByte : (stamp drawn)[8]? = some (drawn[8] &&& 0x3f ||| 0x80) := by
      simp [stamp, hLength]
    have hDigit := Text.Hex.getElem?_ofBytes (stamp drawn) 8
    rw [hByte, Option.map_some] at hDigit
    exact ⟨_, variant_digit drawn[8], hDigit⟩

def Total {α : Type} (draw : Draw α) : Prop := ∀ source, ∃ a s, draw.run source = some (a, s)

theorem total_pure {α : Type} (a : α) : (pure a : Draw α).Total := fun source => ⟨a, source, rfl⟩

theorem total_word : word.Total := fun _ => ⟨_, _, rfl⟩

theorem Total.bind {α β : Type} {first : Draw α} {next : α → Draw β} (hFirst : first.Total)
    (hNext : ∀ a, (next a).Total) : (first >>= next).Total := by
  intro source
  obtain ⟨a, between, hRun⟩ := hFirst source
  obtain ⟨b, s, hRest⟩ := hNext a between
  exact ⟨b, s, by rw [StateT.run_bind, hRun]; exact hRest⟩

theorem total_bits (width : Nat) : (bits width).Total := total_word.bind fun _ => total_pure _

theorem total_below (width n : Nat) : (below width n).Total := by
  refine (total_bits width).bind fun first => ?_
  dsimp only
  split
  · exact (total_bits width).bind fun _ => total_pure _
  · exact total_pure _

theorem total_pick {α : Type} [Inhabited α] (items : List α) : (pick items).Total :=
  (total_below 32 items.length).bind fun _ => total_pure _

theorem total_coin : coin.Total := total_word.bind fun _ => total_pure _

end Draw
end ApiLoad

import ApiLoad.Proofs.Random.Draw

/-!
# Bytes and their digits

Two digits in lower case are one byte, read back as it was written. So digits in lower case are the writing
of at most one sequence of bytes, and the first digits are the writing of the first bytes.
-/
set_option autoImplicit false

namespace ApiLoad.Text.Hex

theorem value?_digit {n : Nat} (h : n < 16) : value? (digit n) = some n := by
  have hAll : ∀ n < 16, value? (digit n) = some n := by decide
  exact hAll n h

theorem exists_digit {c : Char} (h : c ∈ lower) : ∃ n < 16, c = digit n := by
  have hLower : lower = (List.range 16).map digit := by decide +kernel
  rw [hLower] at h
  obtain ⟨n, hLess, rfl⟩ := List.mem_map.mp h
  exact ⟨n, List.mem_range.mp hLess, rfl⟩

theorem toBytes?_digits {high low : Nat} (hHigh : high < 16) (hLow : low < 16) (rest : List Char) :
    toBytes? (digit high :: digit low :: rest) =
      (toBytes? rest).map (UInt8.ofNat (16 * high + low) :: ·) := by
  rw [toBytes?, value?_digit hHigh, value?_digit hLow]
  cases toBytes? rest <;> rfl

theorem toBytes?_ofBytes (bytes : List UInt8) : toBytes? (ofBytes bytes) = some bytes := by
  induction bytes with
  | nil => rfl
  | cons b rest ih =>
    have hByte := b.toNat_lt
    change toBytes? (digit (b.toNat / 16) :: digit (b.toNat % 16) :: ofBytes rest) = _
    rw [toBytes?_digits (by omega) (by omega), ih, Nat.div_add_mod, UInt8.ofNat_toNat, Option.map_some]

theorem ofBytes_inj {a b : List UInt8} : ofBytes a = ofBytes b ↔ a = b := by
  constructor
  · intro h
    rw [← Option.some_inj, ← toBytes?_ofBytes a, h, toBytes?_ofBytes b]
  · exact congrArg ofBytes

theorem toBytes?_eq_some_iff {digits : List Char} {bytes : List UInt8}
    (hLower : ∀ c ∈ digits, c ∈ lower) : toBytes? digits = some bytes ↔ digits = ofBytes bytes := by
  constructor
  · intro h
    induction digits using toBytes?.induct generalizing bytes with
    | case1 =>
      cases h
      rfl
    | case2 => cases h
    | case3 first second rest ih =>
      rw [List.forall_mem_cons, List.forall_mem_cons] at hLower
      obtain ⟨high, hHigh, rfl⟩ := exists_digit hLower.1
      obtain ⟨low, hLow, rfl⟩ := exists_digit hLower.2.1
      rw [toBytes?_digits hHigh hLow, Option.map_eq_some_iff] at h
      obtain ⟨more, hMore, rfl⟩ := h
      have hByte : (UInt8.ofNat (16 * high + low)).toNat = 16 * high + low :=
        Nat.mod_eq_of_lt (by omega)
      have hDiv : (16 * high + low) / 16 = high := by omega
      have hMod : (16 * high + low) % 16 = low := by omega
      change _ = digit (_ / 16) :: digit (_ % 16) :: ofBytes more
      rw [hByte, hDiv, hMod, ← ih hLower.2.2 hMore]
  · rintro rfl
    exact toBytes?_ofBytes bytes

theorem take_ofBytes (bytes : List UInt8) (count : Nat) :
    (ofBytes bytes).take (2 * count) = ofBytes (bytes.take count) := by
  induction bytes generalizing count with
  | nil => simp [ofBytes]
  | cons b rest ih =>
    cases count with
    | zero => rfl
    | succ count => exact congrArg (digit (b.toNat / 16) :: digit (b.toNat % 16) :: ·) (ih count)

end ApiLoad.Text.Hex

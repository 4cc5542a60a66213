import ApiLoad.Json.Reader
import ApiLoad.Proofs.Json.Fields

/-!
# The depth of what is read

A value that is read within a depth is no deeper, and neither is a field that a later one of the same name
takes the place of.
-/
set_option autoImplicit false

namespace ApiLoad.Json

theorem depthOfFields_le_iff {fields : List (String × Json)} {limit : Nat} :
    depthOfFields fields ≤ limit ↔ ∀ field ∈ fields, field.2.depth ≤ limit := by
  induction fields with
  | nil => simp [depthOfFields]
  | cons field rest ih =>
    obtain ⟨name, value⟩ := field
    rw [depthOfFields, Nat.max_le, ih, List.forall_mem_cons]

theorem depthOfFields_write_le {values fields : List (String × Json)} {limit : Nat}
    (hValues : depthOfFields values ≤ limit) (hFields : depthOfFields fields ≤ limit) :
    depthOfFields (write values fields) ≤ limit := by
  induction values generalizing fields with
  | nil => exact hFields
  | cons value rest ih =>
    rw [depthOfFields_le_iff, List.forall_mem_cons] at hValues
    rw [write_cons]
    refine ih (depthOfFields_le_iff.mpr hValues.2) (depthOfFields_le_iff.mpr fun field hField => ?_)
    rcases mem_insertField hField with rfl | hField
    · exact hValues.1
    · exact depthOfFields_le_iff.mp hFields field hField

theorem depth_ofFields_le {fields : List (String × Json)} {limit : Nat}
    (h : depthOfFields fields ≤ limit) : (ofFields fields).depth ≤ limit + 1 := by
  rw [ofFields, depth]
  exact Nat.succ_le_succ (depthOfFields_write_le h (Nat.zero_le _))

namespace Reader

-- The induction is on the fuel, one case for each way in which the text can go on.
mutual

theorem depth_of_value? : ∀ (fuel depth : Nat) (text : List Char) {value : Json} {rest : List Char},
    value? fuel depth text = some (value, rest) → value.depth ≤ depth
  | 0, _, _, _, _, h => nomatch h
  | fuel + 1, depth, text, value, rest, h => by
    rw [value?] at h
    split at h
    · cases h
      exact Nat.zero_le _
    · cases h
      exact Nat.zero_le _
    · cases h
      exact Nat.zero_le _
    · obtain ⟨_, -, hValue⟩ := Option.map_eq_some_iff.mp h
      cases hValue
      exact Nat.zero_le _
    · split at h
      · cases h
      · cases h
        exact Nat.le_add_left ..
      · rename_i depth _
        obtain ⟨⟨items, after⟩, hItems, hValue⟩ := Option.map_eq_some_iff.mp h
        cases hValue
        rw [Json.depth]
        exact Nat.succ_le_succ (depth_of_items? fuel depth _ hItems)
    · split at h
      · cases h
      · cases h
        exact Nat.le_add_left ..
      · rename_i depth _
        obtain ⟨⟨fields, after⟩, hFields, hValue⟩ := Option.map_eq_some_iff.mp h
        cases hValue
        exact depth_ofFields_le (depth_of_fields? fuel depth _ hFields)
    · obtain ⟨_, -, hValue⟩ := Option.map_eq_some_iff.mp h
      cases hValue
      exact Nat.zero_le _

theorem depth_of_items? : ∀ (fuel depth : Nat) (text : List Char) {items : List Json}
    {rest : List Char}, items? fuel depth text = some (items, rest) → depthOfItems items ≤ depth
  | 0, _, _, _, _, h => nomatch h
  | fuel + 1, depth, text, items, rest, h => by
    rw [items?] at h
    obtain ⟨⟨item, after⟩, hItem, h⟩ := Option.bind_eq_some_iff.mp h
    have hFirst := depth_of_value? fuel depth text hItem
    dsimp only at h
    split at h
    · obtain ⟨⟨others, _⟩, hOthers, hItems⟩ := Option.bind_eq_some_iff.mp h
      cases hItems
      exact Nat.max_le.mpr ⟨hFirst, depth_of_items? fuel depth _ hOthers⟩
    · cases h
      exact Nat.max_le.mpr ⟨hFirst, Nat.zero_le _⟩
    · cases h

theorem depth_of_fields? : ∀ (fuel depth : Nat) (text : List Char) {fields : List (String × Json)}
    {rest : List Char}, fields? fuel depth text = some (fields, rest) → depthOfFields fields ≤ depth
  | 0, _, _, _, _, h => nomatch h
  | fuel + 1, depth, text, fields, rest, h => by
    rw [fields?] at h
    split at h
    · obtain ⟨⟨name, afterName⟩, -, h⟩ := Option.bind_eq_some_iff.mp h
      dsimp only at h
      split at h
      · obtain ⟨⟨value, after⟩, hValue, h⟩ := Option.bind_eq_some_iff.mp h
        have hFirst := depth_of_value? fuel depth _ hValue
        dsimp only at h
        split at h
        · obtain ⟨⟨others, _⟩, hOthers, hFields⟩ := Option.bind_eq_some_iff.mp h
          cases hFields
          exact Nat.max_le.mpr ⟨hFirst, depth_of_fields? fuel depth _ hOthers⟩
        · cases h
          exact Nat.max_le.mpr ⟨hFirst, Nat.zero_le _⟩
        · cases h
      · cases h
    · cases h

end

end Reader

-- The first field is too deep, and is read before the other takes its place.
example : parseWithin? 2 "\x7b\"a\":[[]],\"a\":0\x7d" = none := by decide +kernel

end ApiLoad.Json

import ApiLoad.Json.Printer
import ApiLoad.Proofs.Number.Numeral
import Mathlib.Data.Bool.AllAny

/-!
# The characters of compact text

Between the texts of items and fields stand single marks, so a character of an array or an object is one
of those marks or belongs to a part. Integers are printed in printable characters.
-/
set_option autoImplicit false

namespace ApiLoad

/-- The characters from the space to the tilde. -/
def Text.IsPrintable (c : Char) : Prop := 0x20 ≤ c.toNat ∧ c.toNat ≤ 0x7E

instance (c : Char) : Decidable (Text.IsPrintable c) := inferInstanceAs (Decidable (_ ∧ _))

theorem Text.isPrintable_of_isDigit {c : Char} (h : c.isDigit = true) : IsPrintable c := by
  obtain ⟨d, hd, rfl⟩ := Decimal.exists_digitChar h
  rw [IsPrintable, Decimal.toNat_digitChar hd]
  omega

namespace Json

open Text (IsPrintable)

theorem stringChars_append (text : String) (rest : List Char) :
    stringChars text ++ rest = '"' :: (text.toList.flatMap escaped ++ '"' :: rest) := by
  rw [stringChars, List.append_assoc, List.cons_append]
  rfl

theorem mem_stringChars {text : String} {c : Char} (h : c ∈ stringChars text) :
    c = '"' ∨ ∃ d ∈ text.toList, c ∈ escaped d := by
  rcases List.mem_append.1 h with h | h
  · rcases List.mem_cons.1 h with rfl | h
    · exact .inl rfl
    · exact .inr (List.mem_flatMap.1 h)
  · exact .inl (List.mem_singleton.1 h)

theorem exists_intText_eq (n : Int) :
    ∃ c rest, (intText n).toList = c :: rest ∧ (c = '-' ∨ c.isDigit = true) := by
  obtain ⟨first, rest, hDigits, -⟩ := Decimal.exists_digitsOf_eq n.natAbs
  rw [intText]
  split
  · exact ⟨'-', Decimal.digitsOf n.natAbs, by simp [natText], .inl rfl⟩
  · have hFirst := Decimal.isDigit_of_mem_digitsOf (n := n.natAbs) (hDigits ▸ List.mem_cons_self)
    exact ⟨first, rest, by rw [natText, String.toList_ofList, hDigits], .inr hFirst⟩

theorem isPrintable_of_mem_intText {n : Int} {c : Char} (h : c ∈ (intText n).toList) :
    IsPrintable c := by
  have hDigits : ∀ c ∈ (natText n.natAbs).toList, IsPrintable c := by
    intro c hc
    rw [natText, String.toList_ofList] at hc
    exact Text.isPrintable_of_isDigit (Decimal.isDigit_of_mem_digitsOf hc)
  unfold intText at h
  split at h
  · rw [String.toList_append] at h
    rcases List.mem_append.1 h with h | h
    · obtain rfl := List.mem_singleton.1 h
      decide
    · exact hDigits c h
  · exact hDigits c h

theorem charsOfItems_cons (item : Json) (items : List Json) : ∃ mark rest,
    charsOfItems (item :: items) = item.chars ++ mark :: rest ∧
      (items = [] ∧ mark = ']' ∧ rest = [] ∨
        items ≠ [] ∧ mark = ',' ∧ rest = charsOfItems items) := by
  cases items with
  | nil => exact ⟨_, _, by rw [charsOfItems], .inl ⟨rfl, rfl, rfl⟩⟩
  | cons second others =>
    refine ⟨_, _, ?_, .inr ⟨List.cons_ne_nil _ _, rfl, rfl⟩⟩
    rw [charsOfItems]
    exact List.cons_ne_nil _ _

theorem charsOfFields_cons (name : String) (value : Json) (fields : List (String × Json)) :
    ∃ mark rest, charsOfFields ((name, value) :: fields) =
        stringChars name ++ ':' :: (value.chars ++ mark :: rest) ∧
      (fields = [] ∧ mark = '\x7d' ∧ rest = [] ∨
        fields ≠ [] ∧ mark = ',' ∧ rest = charsOfFields fields) := by
  cases fields with
  | nil => exact ⟨_, _, by rw [charsOfFields], .inl ⟨rfl, rfl, rfl⟩⟩
  | cons second others =>
    refine ⟨_, _, ?_, .inr ⟨List.cons_ne_nil _ _, rfl, rfl⟩⟩
    rw [charsOfFields]
    exact List.cons_ne_nil _ _

theorem mem_charsOfItems {items : List Json} {c : Char} (h : c ∈ charsOfItems items) :
    c ∈ [',', ']'] ∨ ∃ item ∈ items, c ∈ item.chars := by
  induction items with
  | nil =>
    rw [charsOfItems, List.mem_singleton] at h
    exact .inl (h ▸ List.mem_cons_of_mem _ List.mem_cons_self)
  | cons item items ih =>
    obtain ⟨mark, rest, hText, hRest⟩ := charsOfItems_cons item items
    rw [hText, List.mem_append, List.mem_cons] at h
    rcases h with hItem | rfl | h
    · exact .inr ⟨item, List.mem_cons_self, hItem⟩
    · obtain ⟨-, rfl, -⟩ | ⟨-, rfl, -⟩ := hRest
      · exact .inl (by decide)
      · exact .inl (by decide)
    · obtain ⟨-, -, rfl⟩ | ⟨-, -, rfl⟩ := hRest
      · cases h
      · refine (ih h).imp_right ?_
        rintro ⟨other, hOther, hChar⟩
        exact ⟨other, List.mem_cons_of_mem item hOther, hChar⟩

theorem mem_charsOfFields {fields : List (String × Json)} {c : Char} (h : c ∈ charsOfFields fields) :
    c ∈ [',', ':', '\x7d'] ∨ ∃ field ∈ fields, c ∈ stringChars field.1 ∨ c ∈ field.2.chars := by
  induction fields with
  | nil =>
    rw [charsOfFields, List.mem_singleton] at h
    exact .inl (h ▸ List.mem_cons_of_mem _ (List.mem_cons_of_mem _ List.mem_cons_self))
  | cons field fields ih =>
    obtain ⟨name, value⟩ := field
    obtain ⟨mark, rest, hText, hRest⟩ := charsOfFields_cons name value fields
    rw [hText, List.mem_append, List.mem_cons, List.mem_append, List.mem_cons] at h
    rcases h with hName | rfl | hValue | rfl | h
    · exact .inr ⟨_, List.mem_cons_self, .inl hName⟩
    · exact .inl (by decide)
    · exact .inr ⟨_, List.mem_cons_self, .inr hValue⟩
    · obtain ⟨-, rfl, -⟩ | ⟨-, rfl, -⟩ := hRest
      · exact .inl (by decide)
      · exact .inl (by decide)
    · obtain ⟨-, -, rfl⟩ | ⟨-, -, rfl⟩ := hRest
      · cases h
      · refine (ih h).imp_right ?_
        rintro ⟨other, hOther, hChar⟩
        exact ⟨other, List.mem_cons_of_mem _ hOther, hChar⟩

end Json
end ApiLoad

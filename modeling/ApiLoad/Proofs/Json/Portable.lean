import ApiLoad.Proofs.Json.Compact
import ApiLoad.Proofs.Json.Fields

/-!
# Portable values

The JSON values whose compact text means the same to readers of JSON and of YAML: texts of printable
ASCII characters, integers of 64 bits and names that are not too long. Their compact text is printable
too, and never begins with a character that a reader could pass over.
-/
set_option autoImplicit false

namespace ApiLoad

theorem Text.IsPrintable.ne {c other : Char} (h : IsPrintable c)
    (hOther : other.toNat < 0x20 ∨ 0x7E < other.toNat) : c ≠ other := by
  rintro rfl
  obtain ⟨hLeast, hGreatest⟩ := h
  omega

theorem Text.IsPrintable.utf8Size {c : Char} (h : IsPrintable c) : c.utf8Size = 1 := by
  refine Char.utf8Size_eq_one_iff.2 (UInt32.le_iff_toNat_le.2 ?_)
  exact Nat.le_succ_of_le h.2

namespace Json

def IsPlain (text : String) : Prop := ∀ c ∈ text.toList, Text.IsPrintable c

instance (text : String) : Decidable (IsPlain text) := decidable_of_iff _ List.all_iff_forall_prop

inductive Portable : Json → Prop
  | null : Portable .null
  | bool (b : Bool) : Portable (.bool b)
  | integer {n : Int} (h : Number.inRange n = true) : Portable (.number (.integer n))
  | string {text : String} (h : IsPlain text) : Portable (.string text)
  | array {items : List Json} (h : ∀ item ∈ items, Portable item) : Portable (.array items)
  | object {fields : List (String × Json)} (hAscending : Ascending fields)
      (hNames : ∀ field ∈ fields, IsPlain field.1 ∧ field.1.length ≤ 500)
      (h : ∀ field ∈ fields, Portable field.2) : Portable (.object fields)

section Chars

open Text

theorem escaped_of_ne {c : Char} (h : IsPrintable c) (hQuote : c ≠ '"') (hBackslash : c ≠ '\\') :
    escaped c = [c] := by
  unfold escaped
  split
  · exact absurd rfl hQuote
  · exact absurd rfl hBackslash
  · exact absurd rfl (h.ne (by decide))
  · exact absurd rfl (h.ne (by decide))
  · exact absurd rfl (h.ne (by decide))
  · exact absurd rfl (h.ne (by decide))
  · exact absurd rfl (h.ne (by decide))
  · exact if_neg (Nat.not_lt.2 h.1)

/-- A quote and a backslash get a backslash, other printable characters stay. -/
theorem escaped_cases {c : Char} (h : IsPrintable c) :
    (c = '"' ∨ c = '\\') ∧ escaped c = ['\\', c] ∨ (c ≠ '"' ∧ c ≠ '\\') ∧ escaped c = [c] := by
  by_cases hQuote : c = '"'
  · subst hQuote
    exact .inl ⟨.inl rfl, rfl⟩
  by_cases hBackslash : c = '\\'
  · subst hBackslash
    exact .inl ⟨.inr rfl, rfl⟩
  · exact .inr ⟨⟨hQuote, hBackslash⟩, escaped_of_ne h hQuote hBackslash⟩

theorem isPrintable_of_mem_escaped {c d : Char} (h : IsPrintable c) (hMem : d ∈ escaped c) :
    IsPrintable d := by
  have hBackslash : IsPrintable '\\' := by decide
  obtain ⟨-, hEscaped⟩ | ⟨-, hEscaped⟩ := escaped_cases h
  · rw [hEscaped, List.mem_pair] at hMem
    rcases hMem with rfl | rfl
    · exact hBackslash
    · exact h
  · rw [hEscaped, List.mem_singleton] at hMem
    exact hMem ▸ h

theorem isPrintable_of_mem_stringChars {text : String} (h : IsPlain text) {d : Char}
    (hMem : d ∈ stringChars text) : IsPrintable d := by
  obtain rfl | ⟨c, hChar, hMem⟩ := mem_stringChars hMem
  · decide
  · exact isPrintable_of_mem_escaped (h c hChar) hMem

theorem length_stringChars_le {text : String} (h : IsPlain text) :
    (stringChars text).length ≤ 2 * text.length + 2 := by
  have hChars : ∀ chars : List Char, (∀ c ∈ chars, IsPrintable c) →
      (chars.flatMap escaped).length ≤ 2 * chars.length := by
    intro chars hPrintable
    induction chars with
    | nil => exact Nat.le_refl 0
    | cons c rest ih =>
      have hRest := ih fun d hd => hPrintable d (List.mem_cons_of_mem c hd)
      have hFirst : (escaped c).length ≤ 2 := by
        obtain ⟨-, hEscaped⟩ | ⟨-, hEscaped⟩ := escaped_cases (hPrintable c List.mem_cons_self)
        · rw [hEscaped]; exact Nat.le_refl 2
        · rw [hEscaped]; exact Nat.le_succ 1
      rw [List.flatMap_cons, List.length_append, List.length_cons]
      omega
  have hText := hChars text.toList h
  rw [String.length_toList] at hText
  simp only [stringChars, List.length_append, List.length_cons, List.length_nil]
  omega

theorem Portable.isPrintable {value : Json} (h : value.Portable) :
    ∀ c ∈ value.chars, IsPrintable c := by
  induction h with
  | null => exact List.all_iff_forall_prop.1 rfl
  | bool b => cases b <;> exact List.all_iff_forall_prop.1 rfl
  | integer _ => exact fun _ hc => isPrintable_of_mem_intText hc
  | string hText => exact fun _ hc => isPrintable_of_mem_stringChars hText hc
  | array _ ih =>
    intro c hc
    rcases List.mem_cons.1 hc with rfl | hc
    · decide
    rcases mem_charsOfItems hc with hMark | ⟨item, hItem, hc⟩
    · have hMarks : ∀ c ∈ [',', ']'], IsPrintable c := List.all_iff_forall_prop.1 (by decide)
      exact hMarks c hMark
    · exact ih item hItem c hc
  | object _ hNames _ ih =>
    intro c hc
    rcases List.mem_cons.1 hc with rfl | hc
    · decide
    rcases mem_charsOfFields hc with hMark | ⟨field, hField, hc | hc⟩
    · have hMarks : ∀ c ∈ [',', ':', '\x7d'], IsPrintable c := List.all_iff_forall_prop.1 (by decide)
      exact hMarks c hMark
    · exact isPrintable_of_mem_stringChars (hNames field hField).1 hc
    · exact ih field hField c hc

end Chars

end Json
end ApiLoad

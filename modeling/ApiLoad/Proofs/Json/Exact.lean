import ApiLoad.Json.Reader
import ApiLoad.Proofs.Json.Compact
import ApiLoad.Proofs.Json.Fields
import ApiLoad.Proofs.Number.Reading

/-!
# Exact values

The JSON values without doubles. Their compact text is read back as they are, whatever characters their
texts have: what the printer escapes the reader restores. No control character is left in it.
-/
set_option autoImplicit false

namespace ApiLoad.Json

/-- A value without doubles: integers of 64 bits, fields under ascending names. -/
inductive Exact : Json → Prop
  | null : Exact .null
  | bool (b : Bool) : Exact (.bool b)
  | integer {n : Int} (h : Number.inRange n = true) : Exact (.number (.integer n))
  | string (text : String) : Exact (.string text)
  | array {items : List Json} (h : ∀ item ∈ items, Exact item) : Exact (.array items)
  | object {fields : List (String × Json)} (hAscending : Ascending fields)
      (h : ∀ field ∈ fields, Exact field.2) : Exact (.object fields)

theorem exact_ofNat {n : Nat} (h : n < Counter.limit) : (ofNat n).Exact := by
  refine .integer ?_
  have hLimit : Counter.limit = 0x10000000000000000 := rfl
  simp only [Number.inRange, Bool.and_eq_true, decide_eq_true_eq]
  omega

section Control

theorem le_of_mem_escaped {c d : Char} (h : d ∈ escaped c) : 0x20 ≤ d.toNat := by
  unfold escaped at h
  split at h
  case h_8 =>
    split at h
    · rename_i hControl
      have hAll (n : Fin 0x20) : ∀ d ∈ ['\\', 'u', '0', '0', Text.Hex.digit (n.val / 16),
          Text.Hex.digit (n.val % 16)], 0x20 ≤ d.toNat :=
        List.all_iff_forall_prop.1 (by decide +revert)
      exact hAll ⟨_, hControl⟩ d h
    · rename_i hPlain
      obtain rfl := List.mem_singleton.1 h
      exact Nat.le_of_not_lt hPlain
  all_goals rcases List.mem_pair.1 h with rfl | rfl <;> decide

theorem le_of_mem_stringChars {text : String} {c : Char} (h : c ∈ stringChars text) :
    0x20 ≤ c.toNat := by
  obtain rfl | ⟨d, -, h⟩ := mem_stringChars h
  · decide
  · exact le_of_mem_escaped h

theorem le_of_mem_object {fields : List (String × Json)}
    (h : ∀ field ∈ fields, ∀ c ∈ field.2.chars, 0x20 ≤ c.toNat) :
    ∀ c ∈ (Json.object fields).chars, 0x20 ≤ c.toNat := by
  intro c hc
  rcases List.mem_cons.1 hc with rfl | hc
  · decide
  rcases mem_charsOfFields hc with hMark | ⟨field, hField, hc | hc⟩
  · have hMarks : ∀ c ∈ [',', ':', '\x7d'], 0x20 ≤ c.toNat := List.all_iff_forall_prop.1 (by decide)
    exact hMarks c hMark
  · exact le_of_mem_stringChars hc
  · exact h field hField c hc

theorem Exact.le_of_mem_chars {value : Json} (h : value.Exact) : ∀ c ∈ value.chars, 0x20 ≤ c.toNat := by
  induction h with
  | null => exact List.all_iff_forall_prop.1 rfl
  | bool b => cases b <;> exact List.all_iff_forall_prop.1 rfl
  | integer _ => exact fun c hc => (isPrintable_of_mem_intText hc).1
  | string _ => exact fun c hc => le_of_mem_stringChars hc
  | array _ ih =>
    intro c hc
    rcases List.mem_cons.1 hc with rfl | hc
    · decide
    rcases mem_charsOfItems hc with hMark | ⟨item, hItem, hc⟩
    · have hMarks : ∀ c ∈ [',', ']'], 0x20 ≤ c.toNat := List.all_iff_forall_prop.1 (by decide)
      exact hMarks c hMark
    · exact ih item hItem c hc
  | object _ _ ih => exact le_of_mem_object ih

end Control

/-- A number does not go on with this text. -/
def EndsNumber (text : List Char) : Prop :=
  ∀ c rest, text = c :: rest → c.isDigit = false ∧ c ≠ '.' ∧ c ≠ 'e' ∧ c ≠ 'E'

theorem endsNumber_cons {c : Char} (h : c ∈ [',', ']', '\x7d']) (rest : List Char) :
    EndsNumber (c :: rest) := by
  rintro _ _ ⟨⟩
  have hAll : ∀ c ∈ [',', ']', '\x7d'], c.isDigit = false ∧ c ≠ '.' ∧ c ≠ 'e' ∧ c ≠ 'E' :=
    List.all_iff_forall_prop.1 (by decide)
  exact hAll c h

theorem EndsNumber.afterDigits {text : List Char} (h : EndsNumber text) :
    Decimal.AfterDigits text :=
  fun c rest hText => (h c rest hText).1

namespace Reader

section Strings

variable {c : Char} (rest : List Char)

theorem string?_escape {char : Char} (hUnit : c ≠ 'u') (h : escape? c = some char) :
    string? ('\\' :: c :: rest) = (string? rest).map fun (text, rest) => (char :: text, rest) := by
  rw [string?, h]
  · cases string? rest <;> rfl
  · intro a b d e after hStart
    exact absurd hStart hUnit

theorem string?_unit {a b d e : Char} (hUnit : unitChar? c.toNat = some c)
    (h : Text.Hex.number? [a, b, d, e] = some c.toNat) :
    string? ('\\' :: 'u' :: a :: b :: d :: e :: rest) =
      (string? rest).map fun (text, rest) => (c :: text, rest) := by
  rw [string?, h]
  simp only [Option.bind_eq_bind, Option.bind_some, hUnit]
  cases string? rest <;> rfl

theorem string?_plain (hQuote : c ≠ '"') (hBackslash : c ≠ '\\') (h : 0x20 ≤ c.toNat) :
    string? (c :: rest) = (string? rest).map fun (text, rest) => (c :: text, rest) := by
  rw [string?, if_neg (Nat.not_lt.2 h)]
  · cases string? rest <;> rfl
  · intro hStart
    exact absurd hStart hQuote
  · intro a b d e after hStart
    exact absurd hStart hBackslash
  · intro d after hStart
    exact absurd hStart hBackslash

/-- The four digits of a control character are its code. -/
theorem number?_control {n : Nat} (h : n < 0x20) :
    Text.Hex.number? ['0', '0', Text.Hex.digit (n / 16), Text.Hex.digit (n % 16)] = some n := by
  have hAll : ∀ n : Fin 0x20, Text.Hex.number?
      ['0', '0', Text.Hex.digit (n.val / 16), Text.Hex.digit (n.val % 16)] = some n.val := by decide
  exact hAll ⟨n, h⟩

theorem unitChar?_control (h : c.toNat < 0x20) : unitChar? c.toNat = some c := by
  rw [unitChar?, if_neg (by omega), Char.ofNat_toNat]

theorem string?_escaped (c : Char) : string? (escaped c ++ rest) =
    (string? rest).map fun (text, rest) => (c :: text, rest) := by
  unfold escaped
  split
  case h_8 c hQuote hBackslash _ _ _ _ _ =>
    split
    · rename_i hControl
      exact string?_unit rest (unitChar?_control hControl) (number?_control hControl)
    · rename_i hPlain
      exact string?_plain rest hQuote hBackslash (Nat.le_of_not_lt hPlain)
  all_goals exact string?_escape rest (by decide) rfl

theorem string?_text (text : List Char) :
    string? (text.flatMap escaped ++ '"' :: rest) = some (text, rest) := by
  induction text with
  | nil => rw [List.flatMap_nil, List.nil_append, string?]
  | cons c text ih =>
    rw [List.flatMap_cons, List.append_assoc, string?_escaped, ih]
    rfl

end Strings

section Numbers

variable {rest : List Char}

/-- The digits of a natural are read to their end: a zero stands alone. -/
theorem whole?_digitsOf (n : Nat) (h : EndsNumber rest) :
    whole? (Decimal.digitsOf n ++ rest) = some (Decimal.digitsOf n, rest) := by
  obtain ⟨first, others, hDigits, hZero⟩ := Decimal.exists_digitsOf_eq n
  by_cases hFirst : first = '0'
  · have hOne : Decimal.digitsOf n = ['0'] := by
      rw [hZero hFirst, Decimal.digitsOf_of_lt (by decide)]
      rfl
    have hEnd : (rest.head?.map Char.isDigit).getD false = false := by
      cases rest with
      | nil => rfl
      | cons c after => exact (h c after rfl).1
    rw [hOne, List.singleton_append, whole?, if_neg (by simp [hEnd])]
  · have hAll : IsDigits (Decimal.digitsOf n) := fun c hc => Decimal.isDigit_of_mem_digitsOf hc
    rw [hDigits, List.cons_append, whole?, ← List.cons_append, ← hDigits, digits?,
      Decimal.takeWhile_digits hAll h.afterDigits, Decimal.dropWhile_digits hAll h.afterDigits,
      if_neg (by simp [hDigits])]
    intro after hStart
    exact absurd (List.cons.inj hStart).1 hFirst

theorem fraction?_end (h : EndsNumber rest) : fraction? rest = some ([], rest) := by
  rw [fraction?]
  rintro after rfl
  exact absurd rfl (h '.' after rfl).2.1

theorem exponent?_end (h : EndsNumber rest) : exponent? rest = some (none, rest) := by
  cases rest with
  | nil => rfl
  | cons c after =>
    obtain ⟨-, -, hSmall, hLarge⟩ := h c after rfl
    unfold exponent?
    exact if_neg (not_or.2 ⟨hSmall, hLarge⟩)

theorem unsigned?_digitsOf {negative : Bool} {n : Nat} {value : Int}
    (hValue : (if negative then -(n : Int) else n) = value) (hRange : Number.inRange value = true)
    (hZero : negative = true → n ≠ 0) (h : EndsNumber rest) :
    unsigned? negative (Decimal.digitsOf n ++ rest) = some (.integer value, rest) := by
  have hSign : (!(negative && n == 0)) = true := by
    cases negative with
    | false => rfl
    | true => simpa using hZero rfl
  unfold unsigned?
  simp only [whole?_digitsOf n h, fraction?_end h, exponent?_end h, Option.bind_eq_bind,
    Option.bind_some, List.append_nil, Decimal.valueOf_digitsOf, hValue]
  rw [if_pos ⟨trivial, trivial, hRange, hSign⟩]
  rfl

theorem number?_intText {n : Int} (hRange : Number.inRange n = true) (h : EndsNumber rest) :
    number? ((intText n).toList ++ rest) = some (.integer n, rest) := by
  rcases Int.lt_or_le n 0 with hNegative | hNatural
  · have hText : (intText n).toList ++ rest = '-' :: (Decimal.digitsOf n.natAbs ++ rest) := by
      simp [intText, natText, hNegative]
    have hValue : (if true then -(n.natAbs : Int) else n.natAbs) = n := by
      rw [if_pos rfl]
      omega
    rw [hText, number?]
    exact unsigned?_digitsOf hValue hRange (fun _ => by omega) h
  · have hText : (intText n).toList ++ rest = Decimal.digitsOf n.natAbs ++ rest := by
      rw [intText, if_neg (Int.not_lt.2 hNatural), natText, String.toList_ofList]
    have hValue : (if false then -(n.natAbs : Int) else n.natAbs) = n := by
      rw [if_neg Bool.false_ne_true]
      omega
    rw [hText, number?]
    · exact unsigned?_digitsOf hValue hRange (fun hMinus => absurd hMinus Bool.false_ne_true) h
    · intro after hStart
      obtain ⟨first, others, hDigits, -⟩ := Decimal.exists_digitsOf_eq n.natAbs
      rw [hDigits, List.cons_append] at hStart
      obtain rfl := (List.cons.inj hStart).1
      exact absurd (Decimal.isDigit_of_mem_digitsOf (hDigits ▸ List.mem_cons_self)) (by decide)

end Numbers

section Values

variable {fuel depth : Nat} {text after rest : List Char}

theorem skipBlanks_cons {c : Char} (h : isBlank c = false) : skipBlanks (c :: rest) = c :: rest := by
  rw [skipBlanks, List.dropWhile_cons_of_neg (by simp [h])]

theorem isBlank_of_numeral {c : Char} (h : c = '-' ∨ c.isDigit = true) : isBlank c = false := by
  obtain rfl | hDigit := h
  · rfl
  · obtain ⟨d, hd, rfl⟩ := Decimal.exists_digitChar hDigit
    have hAll : ∀ d : Fin 10, isBlank (Decimal.digitChar d) = false := by decide
    exact hAll ⟨d, hd⟩

theorem value?_numeral {c : Char} (h : c = '-' ∨ c.isDigit = true) : value? (fuel + 1) depth (c :: rest) =
    (number? (c :: rest)).map fun (n, rest) => (.number n, rest) := by
  rw [value?, skipBlanks_cons (isBlank_of_numeral h)]
  split
  case h_7 => rfl
  all_goals
    rename_i hStart
    cases hStart
    exact absurd h (by decide)

theorem value?_integer {n : Int} (hRange : Number.inRange n = true) (h : EndsNumber rest) :
    value? (fuel + 1) depth ((intText n).toList ++ rest) = some (.number (.integer n), rest) := by
  obtain ⟨c, others, hText, hStart⟩ := exists_intText_eq n
  have hNumber := number?_intText hRange h
  rw [hText, List.cons_append] at hNumber ⊢
  rw [value?_numeral hStart, hNumber]
  rfl

theorem value?_string (text : String) : value? (fuel + 1) depth (stringChars text ++ rest) =
    some (.string text, rest) := by
  rw [stringChars_append, value?, skipBlanks_cons rfl]
  simp only [string?_text, Option.map_some, String.ofList_toList]

theorem value?_items {items : List Json} {c : Char} (hBlank : isBlank c = false) (hEnd : c ≠ ']')
    (h : items? fuel depth (c :: text) = some (items, rest)) :
    value? (fuel + 1) (depth + 1) ('[' :: c :: text) = some (.array items, rest) := by
  rw [value?, skipBlanks_cons rfl]
  simp only [skipBlanks_cons hBlank]
  split
  · cases ‹depth + 1 = 0›
  · cases ‹c :: text = _›
    exact absurd rfl hEnd
  · cases ‹depth + 1 = _›
    rw [h]
    rfl

theorem items?_last {item : Json} (h : value? fuel depth text = some (item, ']' :: rest)) :
    items? (fuel + 1) depth text = some ([item], rest) := by
  rw [items?, h]
  rfl

theorem items?_comma {item : Json} {items : List Json}
    (h : value? fuel depth text = some (item, ',' :: after))
    (hItems : items? fuel depth after = some (items, rest)) :
    items? (fuel + 1) depth text = some (item :: items, rest) := by
  rw [items?, h]
  simp only [Option.bind_eq_bind, Option.bind_some, skipBlanks_cons (c := ',') rfl, hItems]
  rfl

theorem fields?_last {name : String} {value : Json}
    (h : value? fuel depth text = some (value, '\x7d' :: rest)) :
    fields? (fuel + 1) depth (stringChars name ++ ':' :: text) = some ([(name, value)], rest) := by
  rw [stringChars_append, fields?]
  simp only [skipBlanks_cons (c := '"') rfl, string?_text, Option.bind_eq_bind, Option.bind_some,
    skipBlanks_cons (c := ':') rfl, h, String.ofList_toList, skipBlanks_cons (c := '\x7d') rfl]
  rfl

theorem fields?_comma {name : String} {value : Json} {fields : List (String × Json)}
    (h : value? fuel depth text = some (value, ',' :: after))
    (hFields : fields? fuel depth after = some (fields, rest)) :
    fields? (fuel + 1) depth (stringChars name ++ ':' :: text) = some ((name, value) :: fields, rest) := by
  rw [stringChars_append, fields?]
  simp only [skipBlanks_cons (c := '"') rfl, string?_text, Option.bind_eq_bind, Option.bind_some,
    skipBlanks_cons (c := ':') rfl, h, String.ofList_toList, skipBlanks_cons (c := ',') rfl, hFields]
  rfl

/-- An object is what its fields make, in whatever order they stand in the text. -/
theorem value?_ofFields {fields : List (String × Json)}
    (h : fields ≠ [] → fields? fuel depth (charsOfFields fields ++ rest) = some (fields, rest)) :
    value? (fuel + 1) (depth + 1) ((Json.object fields).chars ++ rest) = some (ofFields fields, rest) := by
  rw [chars, List.cons_append, value?, skipBlanks_cons rfl]
  cases fields with
  | nil => simp [charsOfFields, skipBlanks_cons (c := '\x7d') rfl, ofFields]
  | cons field fields =>
    obtain ⟨name, value⟩ := field
    obtain ⟨mark, others, hText, -⟩ := charsOfFields_cons name value fields
    have hRead := h (List.cons_ne_nil _ _)
    rw [hText, List.append_assoc, stringChars_append] at hRead ⊢
    change (fields? fuel depth _).map _ = _
    rw [hRead]
    rfl

end Values

end Reader

theorem Exact.exists_chars_eq {value : Json} (h : value.Exact) : ∃ c rest,
    value.chars = c :: rest ∧ Reader.isBlank c = false ∧ c ≠ ']' := by
  cases h with
  | null => exact ⟨'n', _, by rw [chars], rfl, by decide⟩
  | bool b =>
    cases b with
    | false => exact ⟨'f', _, by rw [chars], rfl, by decide⟩
    | true => exact ⟨'t', _, by rw [chars], rfl, by decide⟩
  | integer _ =>
    obtain ⟨c, rest, hText, hStart⟩ := exists_intText_eq _
    refine ⟨c, rest, by rw [chars, numberText, hText], Reader.isBlank_of_numeral hStart, ?_⟩
    rintro rfl
    exact absurd hStart (by decide)
  | string text => exact ⟨'"', _, by rw [chars, ← List.append_nil (stringChars text), stringChars_append],
      rfl, by decide⟩
  | array _ => exact ⟨'[', _, by rw [chars], rfl, by decide⟩
  | object _ _ => exact ⟨'\x7b', _, by rw [chars], rfl, by decide⟩

namespace Reader

-- Each call of the reader has a character of its own to pay for it, so the length of a text is fuel enough.
mutual

theorem value?_chars : ∀ {value : Json}, value.Exact → ∀ (fuel depth : Nat) (rest : List Char),
    value.chars.length ≤ fuel → value.depth ≤ depth → EndsNumber rest →
    value? fuel depth (value.chars ++ rest) = some (value, rest)
  | value, h, 0, _, _, hFuel, _, _ => by
    obtain ⟨c, others, hChars, -⟩ := h.exists_chars_eq
    rw [hChars] at hFuel
    exact absurd hFuel (Nat.not_succ_le_zero _)
  | .null, _, fuel + 1, depth, rest, _, _, _ => by
    rw [chars, value?]
    simp [skipBlanks_cons (c := 'n') rfl]
  | .bool true, _, fuel + 1, depth, rest, _, _, _ => by
    rw [chars, value?]
    simp [skipBlanks_cons (c := 't') rfl]
  | .bool false, _, fuel + 1, depth, rest, _, _, _ => by
    rw [chars, value?]
    simp [skipBlanks_cons (c := 'f') rfl]
  | .number (.integer n), .integer hRange, fuel + 1, depth, rest, _, _, hEnd => by
    rw [chars, numberText]
    exact value?_integer hRange hEnd
  | .string text, _, fuel + 1, depth, rest, _, _, _ => by
    rw [chars]
    exact value?_string text
  | .array items, _, fuel + 1, 0, rest, _, hDepth, _ => by
    rw [Json.depth] at hDepth
    exact absurd hDepth (Nat.not_succ_le_zero _)
  | .object fields, _, fuel + 1, 0, rest, _, hDepth, _ => by
    rw [Json.depth] at hDepth
    exact absurd hDepth (Nat.not_succ_le_zero _)
  | .array [], _, fuel + 1, depth + 1, rest, _, _, _ => by
    rw [chars, charsOfItems, value?]
    simp [skipBlanks_cons (c := '[') rfl, skipBlanks_cons (c := ']') rfl]
  | .array (item :: items), .array hItems, fuel + 1, depth + 1, rest, hFuel, hDepth, _ => by
    obtain ⟨c, others, hChars, hBlank, hEnd⟩ := (hItems item List.mem_cons_self).exists_chars_eq
    obtain ⟨mark, more, hText, -⟩ := charsOfItems_cons item items
    rw [chars, List.length_cons] at hFuel
    rw [Json.depth] at hDepth
    have hRead := items?_chars (item :: items) (List.cons_ne_nil _ _) hItems fuel depth rest
      (Nat.le_of_succ_le_succ hFuel) (Nat.le_of_succ_le_succ hDepth)
    rw [chars, List.cons_append]
    rw [hText, hChars] at hRead ⊢
    exact value?_items hBlank hEnd hRead
  | .object fields, .object hAscending hFields, fuel + 1, depth + 1, rest, hFuel, hDepth, _ => by
    rw [chars, List.length_cons] at hFuel
    rw [Json.depth] at hDepth
    have hObject : ofFields fields = .object fields := ofFields_eq_iff.2 hAscending.collects
    have hRead := value?_ofFields fun hSome =>
      fields?_chars fields hSome hFields fuel depth rest (Nat.le_of_succ_le_succ hFuel)
        (Nat.le_of_succ_le_succ hDepth)
    rwa [hObject] at hRead

theorem items?_chars : ∀ (items : List Json), items ≠ [] → (∀ item ∈ items, item.Exact) →
    ∀ (fuel depth : Nat) (rest : List Char), (charsOfItems items).length ≤ fuel →
    depthOfItems items ≤ depth → items? fuel depth (charsOfItems items ++ rest) = some (items, rest)
  | [], hSome, _, _, _, _, _, _ => absurd rfl hSome
  | item :: items, _, hItems, fuel, depth, rest, hFuel, hDepth => by
    obtain ⟨mark, more, hText, hMore⟩ := charsOfItems_cons item items
    rw [hText, List.length_append, List.length_cons] at hFuel
    obtain ⟨fuel, rfl⟩ := Nat.exists_eq_add_one_of_ne_zero (show fuel ≠ 0 by omega)
    obtain ⟨hFirst, hOthers⟩ := Nat.max_le.1 (depthOfItems.eq_2 item items ▸ hDepth)
    have hItem := value?_chars (hItems item List.mem_cons_self) fuel depth (mark :: (more ++ rest))
      (by omega) hFirst
    rw [hText, List.append_assoc, List.cons_append]
    obtain ⟨rfl, rfl, rfl⟩ | ⟨hSome, rfl, rfl⟩ := hMore
    · exact items?_last (hItem (endsNumber_cons (by decide) _))
    · refine items?_comma (hItem (endsNumber_cons (by decide) _)) ?_
      exact items?_chars items hSome
        (fun other hOther => hItems other (List.mem_cons_of_mem item hOther)) fuel depth rest (by omega)
        hOthers

theorem fields?_chars : ∀ (fields : List (String × Json)), fields ≠ [] →
    (∀ field ∈ fields, field.2.Exact) → ∀ (fuel depth : Nat) (rest : List Char),
    (charsOfFields fields).length ≤ fuel → depthOfFields fields ≤ depth →
    fields? fuel depth (charsOfFields fields ++ rest) = some (fields, rest)
  | [], hSome, _, _, _, _, _, _ => absurd rfl hSome
  | (name, value) :: fields, _, hFields, fuel, depth, rest, hFuel, hDepth => by
    obtain ⟨mark, more, hText, hMore⟩ := charsOfFields_cons name value fields
    rw [hText] at hFuel
    simp only [List.length_append, List.length_cons] at hFuel
    obtain ⟨fuel, rfl⟩ := Nat.exists_eq_add_one_of_ne_zero (show fuel ≠ 0 by omega)
    have hExact : value.Exact := hFields (name, value) List.mem_cons_self
    obtain ⟨hFirst, hOthers⟩ := Nat.max_le.1 (depthOfFields.eq_2 name value fields ▸ hDepth)
    have hValue := value?_chars hExact fuel depth (mark :: (more ++ rest)) (by omega) hFirst
    rw [hText, List.append_assoc, List.cons_append, List.append_assoc, List.cons_append]
    obtain ⟨rfl, rfl, rfl⟩ | ⟨hSome, rfl, rfl⟩ := hMore
    · exact fields?_last (hValue (endsNumber_cons (by decide) _))
    · refine fields?_comma (hValue (endsNumber_cons (by decide) _)) ?_
      exact fields?_chars fields hSome
        (fun other hOther => hFields other (List.mem_cons_of_mem _ hOther)) fuel depth rest (by omega)
        hOthers

end

end Reader

section Depth

-- Every array and every object has a bracket of its own.
mutual

theorem depth_le_length : ∀ value : Json, value.depth ≤ value.chars.length
  | .null | .bool _ | .number _ | .string _ => Nat.zero_le _
  | .array items => by
    rw [depth, chars, List.length_cons]
    exact Nat.succ_le_succ (depthOfItems_le_length items)
  | .object fields => by
    rw [depth, chars, List.length_cons]
    exact Nat.succ_le_succ (depthOfFields_le_length fields)

theorem depthOfItems_le_length : ∀ items : List Json,
    depthOfItems items ≤ (charsOfItems items).length
  | [] => Nat.zero_le _
  | item :: items => by
    obtain ⟨mark, more, hText, hMore⟩ := charsOfItems_cons item items
    have hItem := depth_le_length item
    rw [depthOfItems, hText, List.length_append, List.length_cons]
    obtain ⟨rfl, -, -⟩ | ⟨-, -, rfl⟩ := hMore
    · rw [depthOfItems]
      omega
    · have hItems := depthOfItems_le_length items
      omega

theorem depthOfFields_le_length : ∀ fields : List (String × Json),
    depthOfFields fields ≤ (charsOfFields fields).length
  | [] => Nat.zero_le _
  | (name, value) :: fields => by
    obtain ⟨mark, more, hText, hMore⟩ := charsOfFields_cons name value fields
    have hValue := depth_le_length value
    rw [depthOfFields, hText]
    simp only [List.length_append, List.length_cons]
    obtain ⟨rfl, -, -⟩ | ⟨-, -, rfl⟩ := hMore
    · rw [depthOfFields]
      omega
    · have hFields := depthOfFields_le_length fields
      omega

end

end Depth

/-- The compact text of fields in any order is read as the object that they make. -/
theorem parse?_compact_object {fields : List (String × Json)} (h : ∀ field ∈ fields, field.2.Exact) :
    parse? (Json.object fields).compact = some (ofFields fields) := by
  have hText : (Json.object fields).compact.length = (charsOfFields fields).length + 1 := by
    rw [compact, String.length_ofList, chars, List.length_cons]
  have hRead := Reader.value?_ofFields fun hSome => Reader.fields?_chars fields hSome h
    (2 * (Json.object fields).compact.length + 1) _ [] (by omega) (depthOfFields_le_length fields)
  rw [List.append_nil, ← String.toList_ofList (l := (Json.object fields).chars), ← compact, ← hText]
    at hRead
  unfold parse? parseWithin?
  rw [hRead]
  rfl

end ApiLoad.Json

import ApiLoad.Proofs.Yaml.Compact.Tree
import ApiLoad.Proofs.Yaml.Conversion

/-!
# The document of a value

The compact text of a portable value is a document of the shape of the value, as long as the value
does not nest too deep, and the JSON form of the document is the value. The only plain scalars in it
are three words and integers, which are read back as what they are.
-/
set_option autoImplicit false

namespace ApiLoad

open Yaml (Document Node Scalar)

namespace Text.Hex

theorem value?_digitChar {d : Nat} (h : d < 10) : value? (Decimal.digitChar d) = some d := by
  have hAll : ∀ d : Fin 10, value? (Decimal.digitChar d) = some d.val := by decide
  exact hAll ⟨d, h⟩

theorem inBase?_digitsOf (n : Nat) : inBase? 10 (Decimal.digitsOf n) = some n := by
  refine Decimal.digitsOf_induction (P := fun n digits => inBase? 10 digits = some n)
    (fun d hd => ?_) (fun n d digits _ hd ih => ?_) n
  · simp [inBase?, value?_digitChar hd, hd]
  · rw [inBase?] at ih ⊢
    rw [List.foldlM_append, ih]
    simp [value?_digitChar hd, hd]

end Text.Hex

namespace Yaml.Scalar

section Integers

variable {first : Char} {rest : List Char}

theorem exists_digitsOf (n : Nat) : ∃ first rest, Decimal.digitsOf n = first :: rest ∧
    first.isDigit = true ∧ (first = '0' → rest = []) := by
  obtain ⟨first, rest, hDigits, hZero⟩ := Decimal.exists_digitsOf_eq n
  refine ⟨first, rest, hDigits, Decimal.isDigit_of_mem_digitsOf (hDigits ▸ List.mem_cons_self),
    fun hFirst => ?_⟩
  obtain rfl := hZero hFirst
  rw [Decimal.digitsOf_of_lt (by decide)] at hDigits
  exact (List.cons.inj hDigits).2.symm

theorem isPadded_eq_false (hDigit : first.isDigit = true) (hZero : first = '0' → rest = []) :
    isPadded (first :: rest) = false := by
  unfold isPadded
  split
  · rename_i hText
    cases hText
    cases hDigit
  · rename_i hText
    cases hText
    cases hDigit
  · dsimp only
    split
    · rename_i hText
      cases hText
      cases hZero rfl
    · rfl

theorem magnitude?_digitsOf (n : Nat) : magnitude? (Decimal.digitsOf n) = some n := by
  have hValue := Text.Hex.inBase?_digitsOf n
  obtain ⟨first, rest, hDigits, hDigit, hZero⟩ := exists_digitsOf n
  rw [hDigits] at hValue ⊢
  unfold magnitude?
  split
  · rename_i h
    cases h
    cases hZero rfl
  · rename_i h
    cases h
    cases hZero rfl
  · rename_i h
    cases h
    cases hZero rfl
  · rw [isPadded_eq_false hDigit hZero]
    exact hValue

theorem integer?_intText (n : Int) : integer? (intText n).toList = some n := by
  have hMagnitude := magnitude?_digitsOf n.natAbs
  obtain ⟨first, rest, hDigits, hDigit, -⟩ := exists_digitsOf n.natAbs
  unfold intText natText
  rw [hDigits] at hMagnitude ⊢
  split
  · rw [String.toList_append, String.toList_ofList, String.toList_ofList, List.singleton_append]
    rw [integer?, hMagnitude]
    exact congrArg some (show -(n.natAbs : Int) = n by omega)
  · rw [String.toList_ofList]
    unfold integer?
    split
    · rename_i hText
      cases hText
      cases hDigit
    · rename_i hText
      cases hText
      cases hDigit
    · rw [hMagnitude]
      exact congrArg some (show (n.natAbs : Int) = n by omega)

end Integers

/-- A text with a digit in it is none of the words without one. -/
theorem contains_eq_false {words : List String}
    (hWords : (words.any fun word => word.toList.any Char.isDigit) = false) {text : String} {c : Char}
    (hMem : c ∈ text.toList) (hDigit : c.isDigit = true) : words.contains text = false := by
  rw [← Bool.not_eq_true, List.contains_iff_mem]
  intro hText
  exact List.any_eq_false.1 hWords text hText (List.any_of_mem hMem hDigit)

theorem ofPlain?_intText {n : Int} (h : Number.inRange n = true) :
    ofPlain? (intText n) = some (.number (.integer n)) := by
  obtain ⟨c, hMem, hDigit⟩ : ∃ c ∈ (intText n).toList, c.isDigit = true := by
    obtain ⟨first, rest, hDigits, hDigit, -⟩ := exists_digitsOf n.natAbs
    refine ⟨first, ?_, hDigit⟩
    unfold intText natText
    split <;> simp [hDigits]
  have hEmpty : intText n ≠ "" := by
    intro hEmpty
    rw [hEmpty] at hMem
    cases hMem
  have hNull : isNull (intText n) = false := contains_eq_false rfl hMem hDigit
  have hBool : bool? (intText n) = none := by
    unfold bool?
    rw [contains_eq_false rfl hMem hDigit, contains_eq_false rfl hMem hDigit]
    rfl
  have hRead : readInteger (intText n) = .fits n := by
    rw [readInteger, integer?_intText]
    exact if_pos h
  rw [ofPlain?, if_neg (by simp [hEmpty, hNull]), hBool, hRead]

end Yaml.Scalar

namespace Json

mutual

def document : Json → Document
  | .null => .scalar .null
  | .bool b => .scalar (.bool b)
  | .number n => .scalar (.number n)
  | .string text => .scalar (.string text)
  | .array items => .sequence (itemDocuments items)
  | .object fields => .mapping (fieldDocuments fields)

def itemDocuments : List Json → List Document
  | [] => []
  | item :: rest => document item :: itemDocuments rest

def fieldDocuments : List (String × Json) → List (Document × Document)
  | [] => []
  | (name, value) :: rest => (.scalar (.string name), document value) :: fieldDocuments rest

end

theorem itemNodes_eq {Name : Type} (items : List Json) :
    (itemNodes items : List (Node Name)) = items.map node := by
  induction items with
  | nil => rfl
  | cons item rest ih => rw [itemNodes, ih, List.map_cons]

theorem fieldNodes_eq {Name : Type} (fields : List (String × Json)) :
    (fieldNodes fields : List (Node Name × Node Name)) =
      fields.map fun field => (.scalar {} false field.1, field.2.node) := by
  induction fields with
  | nil => rfl
  | cons field rest ih => rw [fieldNodes, ih, List.map_cons]

theorem itemDocuments_eq (items : List Json) : itemDocuments items = items.map document := by
  induction items with
  | nil => rfl
  | cons item rest ih => rw [itemDocuments, ih, List.map_cons]

theorem fieldDocuments_eq (fields : List (String × Json)) :
    fieldDocuments fields = fields.map fun field => (.scalar (.string field.1), field.2.document) := by
  induction fields with
  | nil => rfl
  | cons field rest ih => rw [fieldDocuments, ih, List.map_cons]

theorem Ascending.distinctKeys {fields : List (String × Json)} (h : Ascending fields) :
    Document.distinctKeys (fieldDocuments fields) = true := by
  induction fields with
  | nil => rfl
  | cons field rest ih =>
    obtain ⟨name, value⟩ := field
    obtain ⟨hFirst, hRest⟩ := List.pairwise_cons.1 h
    rw [fieldDocuments, Document.distinctKeys, ih hRest, Bool.and_true, fieldDocuments_eq, List.all_map,
      List.all_eq_true]
    intro other hOther
    have hNames : (name == other.1) = false := beq_eq_false_iff_ne.2 (hFirst other hOther).ne
    have hSame : Document.same (.scalar (.string name)) (.scalar (.string other.1)) = (name == other.1) := by
      rw [Document.same, Scalar.same]
      · rfl
      · nofun
    exact congrArg not (hSame.trans hNames)

theorem depth_le_depthOfItems {items : List Json} {item : Json} (h : item ∈ items) :
    item.depth ≤ depthOfItems items := by
  induction h with
  | head rest => exact Nat.le_max_left _ _
  | tail first _ ih => exact ih.trans (Nat.le_max_right _ _)

theorem depth_le_depthOfFields {fields : List (String × Json)} {field : String × Json}
    (h : field ∈ fields) : field.2.depth ≤ depthOfFields fields := by
  induction h with
  | head rest => exact Nat.le_max_left _ _
  | tail first _ ih => exact ih.trans (Nat.le_max_right _ _)

theorem mapM_map_of_forall {α β γ : Type} {items : List α} {steps : Nat} {given : α → β}
    {read : β → StateT Nat Option γ} (made : α → γ)
    (h : ∀ item ∈ items, read (given item) steps = some (made item, steps)) :
    (items.map given).mapM read steps = some (items.map made, steps) := by
  induction items with
  | nil => rfl
  | cons item rest ih =>
    have hItem := h item List.mem_cons_self
    have hRest := ih fun other hOther => h other (List.mem_cons_of_mem item hOther)
    rw [List.map_cons, List.mapM_cons, List.map_cons]
    show (read (given item) steps).bind _ = _
    rw [hItem]
    show ((rest.map given).mapM read steps).bind _ = _
    rw [hRest]
    rfl

section Reading

variable (anchored : List (Nat × Node Nat)) {depth steps : Nat} {bare : Bool}

theorem ofNode?_scalar {plain : Bool} {text : String} {value : Scalar}
    (h : Scalar.ofUntagged? plain text = some value) :
    Document.ofNode? anchored depth bare (.scalar {} plain text) steps =
      some (.scalar value, steps) := by
  rw [Document.ofNode?, Document.follow?, pure_bind]
  · simp only [ite_self, Document.ofScalar?, h]
    rfl
  · nofun

theorem ofNode?_items {items : List Json}
    (h : ∀ item ∈ items, Document.ofNode? anchored depth false item.node steps =
      some (item.document, steps)) :
    Document.ofNode? anchored (depth + 1) bare (.sequence {} (itemNodes items)) steps =
      some (.sequence (itemDocuments items), steps) := by
  rw [Document.ofNode?, Document.follow?, pure_bind, itemNodes_eq, itemDocuments_eq]
  · simp only [ite_self]
    show (List.mapM (Document.ofNode? anchored depth false) _ steps).bind _ = _
    rw [mapM_map_of_forall document h]
    rfl
  · nofun

theorem ofNode?_fields {fields : List (String × Json)} (hAscending : Ascending fields)
    (h : ∀ field ∈ fields, Document.ofNode? anchored depth false field.2.node steps =
      some (field.2.document, steps)) :
    Document.ofNode? anchored (depth + 1) bare (.mapping {} (fieldNodes fields)) steps =
      some (.mapping (fieldDocuments fields), steps) := by
  rw [Document.ofNode?, Document.follow?, pure_bind]
  · simp only [ite_self, fieldNodes_eq]
    refine (congrArg (Option.bind · _) (mapM_map_of_forall
      (fun field => (.scalar (.string field.1), field.2.document)) fun field hField => ?_)).trans ?_
    · show (Document.ofNode? anchored depth _ (.scalar {} false field.1) steps).bind _ = _
      rw [ofNode?_scalar anchored rfl]
      show (Document.ofNode? anchored depth false field.2.node steps).bind _ = _
      rw [h field hField]
      rfl
    · have hKeys := hAscending.distinctKeys
      rw [fieldDocuments_eq] at hKeys ⊢
      show (if Document.distinctKeys _ = true then pure _ else failure : StateT Nat Option _) steps = _
      rw [if_pos hKeys]
      rfl
  · nofun

/-- The node of a portable value is read as its document, and no alias is followed. -/
theorem Portable.ofNode?_node {value : Json} (h : value.Portable) (hDepth : value.depth ≤ depth) :
    Document.ofNode? anchored depth bare value.node steps = some (value.document, steps) := by
  induction h generalizing depth bare with
  | null => exact ofNode?_scalar anchored rfl
  | bool b => cases b <;> exact ofNode?_scalar anchored rfl
  | integer h => exact ofNode?_scalar anchored (Scalar.ofPlain?_intText h)
  | string _ => exact ofNode?_scalar anchored rfl
  | array _ ih =>
    cases depth with
    | zero => exact absurd hDepth (Nat.not_succ_le_zero _)
    | succ depth =>
      exact ofNode?_items anchored fun item hItem =>
        ih item hItem ((depth_le_depthOfItems hItem).trans (Nat.le_of_succ_le_succ hDepth))
  | object hAscending _ _ ih =>
    cases depth with
    | zero => exact absurd hDepth (Nat.not_succ_le_zero _)
    | succ depth =>
      exact ofNode?_fields anchored hAscending fun field hField =>
        ih field hField ((depth_le_depthOfFields hField).trans (Nat.le_of_succ_le_succ hDepth))

end Reading

theorem Portable.parse?_compact {value : Json} (h : value.Portable)
    (hDepth : value.depth ≤ Document.maxDepth) :
    Document.parse? value.compact = some value.document := by
  have hTokens : Yaml.Token.ofText? value.compact.toList = some value.tokens := by
    rw [compact, String.toList_ofList]
    exact h.tokens_eq
  have hRoot : Node.numbered? (value.node : Node String) = some value.node := by
    rw [Node.numbered?, number?_node]
    rfl
  unfold Document.parse? Document.ofRoot?
  rw [hTokens]
  simp only [Option.bind_eq_bind, Option.bind_some, ofTokens?_tokens, hRoot, StateT.run]
  rw [h.ofNode?_node _ hDepth]
  rfl

theorem itemsDenote_map {items : List Json} (h : ∀ item ∈ items, item.document.Denotes item) :
    Document.ItemsDenote (itemDocuments items) items := by
  induction items with
  | nil => exact .nil
  | cons item rest ih =>
    rw [itemDocuments]
    exact .cons (h item List.mem_cons_self) (ih fun other hOther => h other (List.mem_cons_of_mem _ hOther))

theorem entriesDenote_map {fields : List (String × Json)}
    (h : ∀ field ∈ fields, field.2.document.Denotes field.2) :
    Document.EntriesDenote (fieldDocuments fields) fields := by
  induction fields with
  | nil => exact .nil
  | cons field rest ih =>
    rw [fieldDocuments]
    exact .cons (.string _) (h field List.mem_cons_self)
      (ih fun other hOther => h other (List.mem_cons_of_mem _ hOther))

theorem Portable.denotes {value : Json} (h : value.Portable) : value.document.Denotes value := by
  induction h with
  | null => exact .null
  | bool b => exact .bool b
  | integer _ => exact .integer _
  | string _ => exact .string _
  | array _ ih =>
    rw [document]
    exact .sequence (itemsDenote_map ih)
  | object hAscending _ _ ih =>
    rw [document]
    exact .mapping (entriesDenote_map ih) hAscending.collects

end Json
end ApiLoad

import ApiLoad.Proofs.Yaml.Compact.Tokens
import ApiLoad.Yaml.Node.Anchors

/-!
# The tree of a value

From the tokens of a value the grammar reads a tree of the same shape, without anchors and tags. Two
steps for each token are enough.
-/
set_option autoImplicit false

namespace ApiLoad

open Yaml (Node Token)

namespace Json

mutual

def node {Name : Type} : Json → Node Name
  | .null => .scalar {} true "null"
  | .bool b => .scalar {} true (if b then "true" else "false")
  | .number n => .scalar {} true (numberText n)
  | .string text => .scalar {} false text
  | .array items => .sequence {} (itemNodes items)
  | .object fields => .mapping {} (fieldNodes fields)

def itemNodes {Name : Type} : List Json → List (Node Name)
  | [] => []
  | item :: rest => node item :: itemNodes rest

def fieldNodes {Name : Type} : List (String × Json) → List (Node Name × Node Name)
  | [] => []
  | (name, value) :: rest => (.scalar {} false name, node value) :: fieldNodes rest

end

end Json

namespace Yaml

def Token.StartsValue : Token → Prop
  | .scalar _ _ | .flowSequenceStart | .flowMappingStart => True
  | _ => False

namespace Node

variable {handles : Handles} {steps : Nat} {member : Bool} {rest : List Token}

theorem node?_scalar (text : String) (plain : Bool) :
    node? handles (steps + 1) member (.scalar text plain :: rest) =
      some (.scalar {} plain text, rest) := by
  simp [node?, properties?]

theorem node?_sequence : node? handles (steps + 1) member (.flowSequenceStart :: rest) =
    (flowItems? handles steps true rest).map fun (items, rest) => (.sequence {} items, rest) := by
  simp [node?, properties?]

theorem node?_mapping : node? handles (steps + 1) member (.flowMappingStart :: rest) =
    (flowEntries? handles steps true rest).map fun (entries, rest) => (.mapping {} entries, rest) := by
  simp [node?, properties?]

theorem flowItems?_end (first : Bool) :
    flowItems? handles (steps + 1) first (.flowSequenceEnd :: rest) = some ([], rest) := by
  rw [flowItems?]

theorem flowItems?_comma : flowItems? handles (steps + 1) false (.flowEntry :: rest) =
    flowItems? handles (steps + 1) true rest := by
  cases rest with
  | nil => simp [flowItems?, separated?]
  | cons token rest => cases token <;> simp [flowItems?, separated?]

theorem flowItems?_item {token : Token} (h : token.StartsValue) {item : Node String}
    {items : List (Node String)} {after last : List Token}
    (hItem : node? handles steps false (token :: rest) = some (item, after))
    (hItems : flowItems? handles steps false after = some (items, last)) :
    flowItems? handles (steps + 1) true (token :: rest) = some (item :: items, last) := by
  cases token with
  | scalar | flowSequenceStart | flowMappingStart =>
    simp [flowItems?, separated?, hItem, hItems]
  | _ => cases h

theorem flowEntries?_end (first : Bool) :
    flowEntries? handles (steps + 1) first (.flowMappingEnd :: rest) = some ([], rest) := by
  rw [flowEntries?]

theorem flowEntries?_comma : flowEntries? handles (steps + 1) false (.flowEntry :: rest) =
    flowEntries? handles (steps + 1) true rest := by
  cases rest with
  | nil => simp [flowEntries?, separated?]
  | cons token rest => cases token <;> simp [flowEntries?, separated?]

theorem flowEntries?_entry {token : Token} (h : token.StartsValue) (name : String) {value : Node String}
    {entries : List (Node String × Node String)} {after last : List Token}
    (hValue : node? handles (steps + 1) false (token :: rest) = some (value, after))
    (hEntries : flowEntries? handles (steps + 1) false after = some (entries, last)) :
    flowEntries? handles (steps + 2) true (.key :: .scalar name false :: .value :: token :: rest) =
      some ((.scalar {} false name, value) :: entries, last) := by
  have hKey : orEmpty (.value :: flowEnds) (node? handles (steps + 1) false)
      (.scalar name false :: .value :: token :: rest) =
        some (.scalar {} false name, .value :: token :: rest) := by
    simp [orEmpty, flowEnds, node?_scalar]
  have hHere : valueOf flowEnds (node? handles (steps + 1) false) (.value :: token :: rest) =
      some (value, after) := by
    cases token with
    | scalar | flowSequenceStart | flowMappingStart => simpa [valueOf, orEmpty, flowEnds] using hValue
    | _ => cases h
  simp [flowEntries?, separated?, hKey, hHere, hEntries]

end Node

end Yaml

namespace Json

open Yaml.Node

theorem exists_tokens_eq (value : Json) :
    ∃ token rest, value.tokens = token :: rest ∧ token.StartsValue := by
  cases value with
  | array items => exact ⟨.flowSequenceStart, _, by rw [tokens], trivial⟩
  | object fields => exact ⟨.flowMappingStart, _, by rw [tokens], trivial⟩
  | string text => exact ⟨.scalar text false, [], by rw [tokens], trivial⟩
  | _ => exact ⟨.scalar _ true, [], by rw [tokens], trivial⟩

theorem tokensOfItems_cons (item : Json) (items : List Json) : ∃ token rest,
    tokensOfItems (item :: items) = item.tokens ++ token :: rest ∧
      (items = [] ∧ token = .flowSequenceEnd ∧ rest = [] ∨
        token = .flowEntry ∧ rest = tokensOfItems items) := by
  cases items with
  | nil => exact ⟨_, _, by rw [tokensOfItems], .inl ⟨rfl, rfl, rfl⟩⟩
  | cons second others =>
    exact ⟨_, _, by rw [tokensOfItems]; exact List.cons_ne_nil _ _, .inr ⟨rfl, rfl⟩⟩

theorem tokensOfFields_cons (name : String) (value : Json) (fields : List (String × Json)) :
    ∃ token rest, tokensOfFields ((name, value) :: fields) =
        .key :: .scalar name false :: .value :: (value.tokens ++ token :: rest) ∧
      (fields = [] ∧ token = .flowMappingEnd ∧ rest = [] ∨
        token = .flowEntry ∧ rest = tokensOfFields fields) := by
  cases fields with
  | nil => exact ⟨_, _, by rw [tokensOfFields], .inl ⟨rfl, rfl, rfl⟩⟩
  | cons second others =>
    exact ⟨_, _, by rw [tokensOfFields]; exact List.cons_ne_nil _ _, .inr ⟨rfl, rfl⟩⟩

mutual

theorem node?_tokens (handles : Handles) : ∀ (value : Json) (steps : Nat) (member : Bool)
    (rest : List Token), 2 * value.tokens.length < steps →
    node? handles steps member (value.tokens ++ rest) = some (value.node, rest)
  | _, 0, _, _, hSteps => absurd hSteps (Nat.not_lt_zero _)
  | .null, _ + 1, _, _, _ => node?_scalar "null" true
  | .bool b, _ + 1, _, _, _ => node?_scalar (if b then "true" else "false") true
  | .number n, _ + 1, _, _, _ => node?_scalar (numberText n) true
  | .string text, _ + 1, _, _, _ => node?_scalar text false
  | .array items, steps + 1, _, rest, hSteps => by
    rw [tokens, List.length_cons] at hSteps
    rw [tokens, List.cons_append, node?_sequence, flowItems?_tokens handles items steps rest (by omega)]
    rfl
  | .object fields, steps + 1, _, rest, hSteps => by
    rw [tokens, List.length_cons] at hSteps
    rw [tokens, List.cons_append, node?_mapping,
      flowEntries?_tokens handles fields steps rest (by omega)]
    rfl

theorem flowItems?_tokens (handles : Handles) : ∀ (items : List Json) (steps : Nat)
    (rest : List Token), 2 * (tokensOfItems items).length < steps →
    flowItems? handles steps true (tokensOfItems items ++ rest) = some (itemNodes items, rest)
  | _, 0, _, hSteps => absurd hSteps (Nat.not_lt_zero _)
  | [], _ + 1, _, _ => flowItems?_end true
  | item :: items, steps + 1, rest, hSteps => by
    obtain ⟨mark, more, hTokens, hMore⟩ := tokensOfItems_cons item items
    obtain ⟨token, others, hFirst, hStart⟩ := item.exists_tokens_eq
    rw [hTokens, List.length_append, List.length_cons] at hSteps
    obtain ⟨steps, rfl⟩ := Nat.exists_eq_add_one_of_ne_zero (show steps ≠ 0 by omega)
    have hItem := node?_tokens handles item (steps + 1) false (mark :: more ++ rest) (by omega)
    have hItems : flowItems? handles (steps + 1) false (mark :: more ++ rest) =
        some (itemNodes items, rest) := by
      obtain ⟨rfl, rfl, rfl⟩ | ⟨rfl, rfl⟩ := hMore
      · exact flowItems?_end false
      · rw [List.cons_append, flowItems?_comma]
        exact flowItems?_tokens handles items (steps + 1) rest (by omega)
    rw [hTokens, List.append_assoc, hFirst]
    rw [hFirst] at hItem
    exact flowItems?_item hStart hItem hItems

theorem flowEntries?_tokens (handles : Handles) : ∀ (fields : List (String × Json)) (steps : Nat)
    (rest : List Token), 2 * (tokensOfFields fields).length < steps →
    flowEntries? handles steps true (tokensOfFields fields ++ rest) = some (fieldNodes fields, rest)
  | _, 0, _, hSteps => absurd hSteps (Nat.not_lt_zero _)
  | [], _ + 1, _, _ => flowEntries?_end true
  | (name, value) :: fields, steps + 1, rest, hSteps => by
    obtain ⟨mark, more, hTokens, hMore⟩ := tokensOfFields_cons name value fields
    obtain ⟨token, others, hFirst, hStart⟩ := value.exists_tokens_eq
    rw [hTokens] at hSteps
    simp only [List.length_cons, List.length_append] at hSteps
    obtain ⟨steps, rfl⟩ := Nat.exists_eq_add_one_of_ne_zero (show steps ≠ 0 by omega)
    have hValue := node?_tokens handles value (steps + 1) false (mark :: more ++ rest) (by omega)
    have hFields : flowEntries? handles (steps + 1) false (mark :: more ++ rest) =
        some (fieldNodes fields, rest) := by
      obtain ⟨rfl, rfl, rfl⟩ | ⟨rfl, rfl⟩ := hMore
      · exact flowEntries?_end false
      · rw [List.cons_append, flowEntries?_comma]
        exact flowEntries?_tokens handles fields (steps + 1) rest (by omega)
    rw [hTokens, List.cons_append, List.cons_append, List.cons_append, List.append_assoc, hFirst]
    rw [hFirst] at hValue
    exact flowEntries?_entry hStart name hValue hFields

end

theorem ofTokens?_tokens (value : Json) : ofTokens? value.tokens = some value.node := by
  obtain ⟨token, rest, hTokens, hStart⟩ := value.exists_tokens_eq
  have hNode := node?_tokens standardHandles value (2 * value.tokens.length + 2) false [] (by omega)
  have hFirst : startsDocument token = false := by
    cases token with
    | scalar | flowSequenceStart | flowMappingStart => rfl
    | _ => cases hStart
  rw [List.append_nil] at hNode
  unfold ofTokens? first?
  rw [hTokens, List.length_cons] at hNode
  rw [hTokens]
  simp [hFirst, hNode]

mutual

theorem number?_node (anchors : Yaml.Anchors) : ∀ value : Json,
    number? anchors value.node = some (value.node, anchors)
  | .null | .bool _ | .number _ | .string _ => rfl
  | .array items => by
    rw [node, node, number?]
    simp [Yaml.Properties.number, numberItems?_itemNodes anchors items]
  | .object fields => by
    rw [node, node, number?]
    simp [Yaml.Properties.number, numberEntries?_fieldNodes anchors fields]

theorem numberItems?_itemNodes (anchors : Yaml.Anchors) : ∀ items : List Json,
    numberItems? anchors (itemNodes items) = some (itemNodes items, anchors)
  | [] => rfl
  | item :: rest => by
    rw [itemNodes, itemNodes, numberItems?, number?_node anchors item]
    simp [numberItems?_itemNodes anchors rest]

theorem numberEntries?_fieldNodes (anchors : Yaml.Anchors) : ∀ fields : List (String × Json),
    numberEntries? anchors (fieldNodes fields) = some (fieldNodes fields, anchors)
  | [] => rfl
  | (name, value) :: rest => by
    rw [fieldNodes, fieldNodes, numberEntries?]
    simp [number?, Yaml.Properties.number, number?_node anchors value,
      numberEntries?_fieldNodes anchors rest]

end

end Json
end ApiLoad

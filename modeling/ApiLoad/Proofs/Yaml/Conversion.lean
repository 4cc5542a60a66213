import ApiLoad.Proofs.Except
import ApiLoad.Proofs.Json.Fields
import ApiLoad.Yaml.Document.Json

/-!
# The JSON form of a document

What it is for a JSON value to be the form of a document is told by the kinds of values alone. A
document has at most one form, and it has one exactly when no key of a mapping anywhere in it is null,
a collection, a tagged value or a float that is not finite.
-/
set_option autoImplicit false

namespace ApiLoad.Yaml.Document

/-- A scalar is the name of a field. -/
inductive Names : Document → String → Prop
  | bool (b : Bool) : Names (.scalar (.bool b)) (if b then "true" else "false")
  | integer (n : Int) : Names (.scalar (.number (.integer n))) (intText n)
  | float {x : Binary64} (h : x.isFinite = true) :
      Names (.scalar (.number (.float x))) (Json.numberLayout.text x)
  | string (text : String) : Names (.scalar (.string text)) text

/-- What keeps a key from being the name of a field. -/
inductive Fault : Document → KeyError → Prop
  | null : Fault (.scalar .null) .notText
  | float {x : Binary64} (h : x.isFinite = false) : Fault (.scalar (.number (.float x))) .notFinite
  | sequence (items : List Document) : Fault (.sequence items) .notText
  | mapping (entries : List (Document × Document)) : Fault (.mapping entries) .notText
  | tagged (name : String) (value : Document) : Fault (.tagged name value) .notText

mutual

inductive Denotes : Document → Json → Prop
  | null : Denotes (.scalar .null) .null
  | bool (b : Bool) : Denotes (.scalar (.bool b)) (.bool b)
  | integer (n : Int) : Denotes (.scalar (.number (.integer n))) (.number (.integer n))
  | float {x : Binary64} (h : x.isFinite = true) :
      Denotes (.scalar (.number (.float x))) (.number (.float x))
  | notFinite {x : Binary64} (h : x.isFinite = false) : Denotes (.scalar (.number (.float x))) .null
  | string (text : String) : Denotes (.scalar (.string text)) (.string text)
  | sequence {items : List Document} {values : List Json} (h : ItemsDenote items values) :
      Denotes (.sequence items) (.array values)
  | mapping {entries : List (Document × Document)} {given fields : List (String × Json)}
      (h : EntriesDenote entries given) (hFields : Json.Collects given fields) :
      Denotes (.mapping entries) (.object fields)
  | tagged {value : Document} {json : Json} (name : String) (h : Denotes value json) :
      Denotes (.tagged name value) (.object [("!" ++ name, json)])

inductive ItemsDenote : List Document → List Json → Prop
  | nil : ItemsDenote [] []
  | cons {item : Document} {json : Json} {items : List Document} {values : List Json}
      (h : Denotes item json) (hRest : ItemsDenote items values) :
      ItemsDenote (item :: items) (json :: values)

inductive EntriesDenote : List (Document × Document) → List (String × Json) → Prop
  | nil : EntriesDenote [] []
  | cons {key value : Document} {name : String} {json : Json}
      {entries : List (Document × Document)} {given : List (String × Json)}
      (hName : Names key name) (h : Denotes value json) (hRest : EntriesDenote entries given) :
      EntriesDenote ((key, value) :: entries) ((name, json) :: given)

end

/-- A key of a mapping somewhere in a document, keys of mappings that are keys included. -/
inductive HasKey : Document → Document → Prop
  | here {entries : List (Document × Document)} {key value : Document} (h : (key, value) ∈ entries) :
      HasKey (.mapping entries) key
  | inKey {entries : List (Document × Document)} {key value inner : Document}
      (h : (key, value) ∈ entries) (hInner : HasKey key inner) : HasKey (.mapping entries) inner
  | inValue {entries : List (Document × Document)} {key value inner : Document}
      (h : (key, value) ∈ entries) (hInner : HasKey value inner) : HasKey (.mapping entries) inner
  | inItem {items : List Document} {item inner : Document} (h : item ∈ items)
      (hInner : HasKey item inner) : HasKey (.sequence items) inner
  | underTag {value inner : Document} (name : String) (hInner : HasKey value inner) :
      HasKey (.tagged name value) inner

theorem Names.keyText {key : Document} {name : String} (h : key.Names name) : key.keyText = .ok name := by
  cases h with
  | float h => simp [Document.keyText, Scalar.keyText, h]
  | _ => rfl

theorem Fault.keyText {key : Document} {reason : KeyError} (h : key.Fault reason) :
    key.keyText = .error reason := by
  cases h with
  | float h => simp [Document.keyText, Scalar.keyText, h]
  | _ => rfl

theorem names_or_fault (key : Document) : (∃ name, key.Names name) ∨ ∃ reason, key.Fault reason := by
  cases key with
  | scalar value =>
    cases value with
    | null => exact .inr ⟨_, .null⟩
    | bool b => exact .inl ⟨_, .bool b⟩
    | string text => exact .inl ⟨_, .string text⟩
    | number n =>
      cases n with
      | integer n => exact .inl ⟨_, .integer n⟩
      | float x =>
        cases h : x.isFinite with
        | true => exact .inl ⟨_, .float h⟩
        | false => exact .inr ⟨_, .float h⟩
  | sequence items => exact .inr ⟨_, .sequence items⟩
  | mapping entries => exact .inr ⟨_, .mapping entries⟩
  | tagged name value => exact .inr ⟨_, .tagged name value⟩

theorem names_of_keyText {key : Document} {name : String} (h : key.keyText = .ok name) :
    key.Names name := by
  obtain ⟨other, hNames⟩ | ⟨reason, hFault⟩ := key.names_or_fault
  · rw [hNames.keyText] at h
    cases h
    exact hNames
  · rw [hFault.keyText] at h
    cases h

theorem fault_of_keyText {key : Document} {reason : KeyError} (h : key.keyText = .error reason) :
    key.Fault reason := by
  obtain ⟨name, hNames⟩ | ⟨other, hFault⟩ := key.names_or_fault
  · rw [hNames.keyText] at h
    cases h
  · rw [hFault.keyText] at h
    cases h
    exact hFault

theorem Names.not_fault {key : Document} {name : String} (h : key.Names name) (reason : KeyError) :
    ¬ key.Fault reason := by
  intro hFault
  have hText := h.keyText
  rw [hFault.keyText] at hText
  cases hText

mutual

theorem Denotes.toJson {value : Document} {json : Json} : value.Denotes json → value.toJson = .ok json
  | .null | .bool _ | .integer _ | .string _ => by rw [Document.toJson]; rfl
  | .float h | .notFinite h => by rw [Document.toJson, Scalar.toJson]; simp [h]
  | .sequence h => by rw [Document.toJson, h.itemsToJson]; rfl
  | .mapping h hFields => by
    rw [Document.toJson, h.fieldsToJson, ← Json.ofFields_eq_iff.mpr hFields]
    rfl
  | .tagged name h => by rw [Document.toJson, h.toJson]; rfl

theorem ItemsDenote.itemsToJson {items : List Document} {values : List Json} :
    ItemsDenote items values → Document.itemsToJson items = .ok values
  | .nil => rfl
  | .cons h hRest => by rw [Document.itemsToJson, h.toJson, hRest.itemsToJson]; rfl

theorem EntriesDenote.fieldsToJson {entries : List (Document × Document)}
    {given : List (String × Json)} :
    EntriesDenote entries given → Document.fieldsToJson entries = .ok given
  | .nil => rfl
  | .cons hName h hRest => by
    rw [Document.fieldsToJson, hName.keyText, h.toJson, hRest.fieldsToJson]
    rfl

end

theorem Scalar.denotes_toJson (value : Scalar) : Denotes (.scalar value) value.toJson := by
  cases value with
  | null => exact .null
  | bool b => exact .bool b
  | string text => exact .string text
  | number n =>
    cases n with
    | integer n => exact .integer n
    | float x =>
      cases h : x.isFinite with
      | true => simpa [Scalar.toJson, h] using Denotes.float h
      | false => simpa [Scalar.toJson, h] using Denotes.notFinite h

mutual

theorem denotes_of_toJson : ∀ (value : Document) {json : Json}, value.toJson = .ok json →
    value.Denotes json
  | .scalar value, _, h => by
    rw [toJson] at h
    cases h
    exact Scalar.denotes_toJson value
  | .sequence items, _, h => by
    rw [toJson] at h
    obtain ⟨values, hItems, h⟩ := bind_eq_ok h
    cases h
    exact .sequence (denote_of_itemsToJson items hItems)
  | .mapping entries, _, h => by
    rw [toJson] at h
    obtain ⟨given, hEntries, h⟩ := bind_eq_ok h
    cases h
    exact .mapping (denote_of_fieldsToJson entries hEntries) (Json.collects_foldl given)
  | .tagged name value, _, h => by
    rw [toJson] at h
    obtain ⟨json, hValue, h⟩ := bind_eq_ok h
    cases h
    exact .tagged name (denotes_of_toJson value hValue)

theorem denote_of_itemsToJson : ∀ (items : List Document) {values : List Json},
    itemsToJson items = .ok values → ItemsDenote items values
  | [], _, h => by
    cases h
    exact .nil
  | item :: rest, _, h => by
    rw [itemsToJson] at h
    obtain ⟨json, hItem, h⟩ := bind_eq_ok h
    obtain ⟨values, hRest, h⟩ := bind_eq_ok h
    cases h
    exact .cons (denotes_of_toJson item hItem) (denote_of_itemsToJson rest hRest)

theorem denote_of_fieldsToJson : ∀ (entries : List (Document × Document))
    {given : List (String × Json)}, fieldsToJson entries = .ok given → EntriesDenote entries given
  | [], _, h => by
    cases h
    exact .nil
  | (key, value) :: rest, _, h => by
    rw [fieldsToJson] at h
    obtain ⟨name, hName, h⟩ := bind_eq_ok h
    obtain ⟨json, hValue, h⟩ := bind_eq_ok h
    obtain ⟨given, hRest, h⟩ := bind_eq_ok h
    cases h
    exact .cons (names_of_keyText hName) (denotes_of_toJson value hValue)
      (denote_of_fieldsToJson rest hRest)

end

theorem toJson_eq_ok_iff {value : Document} {json : Json} :
    value.toJson = .ok json ↔ value.Denotes json :=
  ⟨denotes_of_toJson value, Denotes.toJson⟩

mutual

theorem fault_of_toJson : ∀ (value : Document) {reason : KeyError}, value.toJson = .error reason →
    ∃ key, value.HasKey key ∧ key.Fault reason
  | .scalar value, _, h => by
    rw [toJson] at h
    cases h
  | .sequence items, _, h => by
    rw [toJson] at h
    obtain hItems | ⟨_, _, h⟩ := bind_eq_error h
    · obtain ⟨item, hItem, key, hKey, hFault⟩ := fault_of_itemsToJson items hItems
      exact ⟨key, .inItem hItem hKey, hFault⟩
    · cases h
  | .mapping entries, _, h => by
    rw [toJson] at h
    obtain hEntries | ⟨_, _, h⟩ := bind_eq_error h
    · obtain ⟨key, value, hEntry, hFault | ⟨inner, hInner, hFault⟩⟩ :=
        fault_of_fieldsToJson entries hEntries
      · exact ⟨key, .here hEntry, hFault⟩
      · exact ⟨inner, .inValue hEntry hInner, hFault⟩
    · cases h
  | .tagged name value, _, h => by
    rw [toJson] at h
    obtain hValue | ⟨_, _, h⟩ := bind_eq_error h
    · obtain ⟨key, hKey, hFault⟩ := fault_of_toJson value hValue
      exact ⟨key, .underTag name hKey, hFault⟩
    · cases h

theorem fault_of_itemsToJson : ∀ (items : List Document) {reason : KeyError},
    itemsToJson items = .error reason → ∃ item ∈ items, ∃ key, item.HasKey key ∧ key.Fault reason
  | [], _, h => by cases h
  | item :: rest, _, h => by
    rw [itemsToJson] at h
    obtain hItem | ⟨_, _, h⟩ := bind_eq_error h
    · exact ⟨item, List.mem_cons_self, fault_of_toJson item hItem⟩
    · obtain hRest | ⟨_, _, h⟩ := bind_eq_error h
      · obtain ⟨other, hOther, hKey⟩ := fault_of_itemsToJson rest hRest
        exact ⟨other, List.mem_cons_of_mem _ hOther, hKey⟩
      · cases h

theorem fault_of_fieldsToJson : ∀ (entries : List (Document × Document)) {reason : KeyError},
    fieldsToJson entries = .error reason → ∃ key value, (key, value) ∈ entries ∧
      (key.Fault reason ∨ ∃ inner, value.HasKey inner ∧ inner.Fault reason)
  | [], _, h => by cases h
  | (key, value) :: rest, _, h => by
    rw [fieldsToJson] at h
    obtain hKey | ⟨_, _, h⟩ := bind_eq_error h
    · exact ⟨key, value, List.mem_cons_self, .inl (fault_of_keyText hKey)⟩
    obtain hValue | ⟨_, _, h⟩ := bind_eq_error h
    · exact ⟨key, value, List.mem_cons_self, .inr (fault_of_toJson value hValue)⟩
    obtain hRest | ⟨_, _, h⟩ := bind_eq_error h
    · obtain ⟨key, value, hEntry, hFault⟩ := fault_of_fieldsToJson rest hRest
      exact ⟨key, value, List.mem_cons_of_mem _ hEntry, hFault⟩
    · cases h

end

theorem ItemsDenote.of_mem {items : List Document} {values : List Json} (h : ItemsDenote items values)
    {item : Document} (hItem : item ∈ items) : ∃ json, item.Denotes json := by
  induction items generalizing values with
  | nil => cases hItem
  | cons first rest ih =>
    cases h with
    | cons h hRest =>
      rcases List.mem_cons.mp hItem with rfl | hItem
      · exact ⟨_, h⟩
      · exact ih hRest hItem

theorem EntriesDenote.of_mem {entries : List (Document × Document)} {given : List (String × Json)}
    (h : EntriesDenote entries given) {key value : Document} (hEntry : (key, value) ∈ entries) :
    (∃ name, key.Names name) ∧ ∃ json, value.Denotes json := by
  induction entries generalizing given with
  | nil => cases hEntry
  | cons first rest ih =>
    cases h with
    | cons hName h hRest =>
      rcases List.mem_cons.mp hEntry with hEntry | hEntry
      · cases hEntry
        exact ⟨⟨_, hName⟩, _, h⟩
      · exact ih hRest hEntry

theorem Denotes.not_fault {value key : Document} {json : Json} (h : value.Denotes json)
    (hKey : value.HasKey key) (reason : KeyError) : ¬ key.Fault reason := by
  induction hKey generalizing json with
  | here hEntry =>
    cases h with
    | mapping h _ =>
      obtain ⟨⟨name, hName⟩, -⟩ := h.of_mem hEntry
      exact hName.not_fault reason
  | inKey hEntry hInner _ =>
    cases h with
    | mapping h _ =>
      -- A key that is a name is a scalar, and has no keys in it.
      obtain ⟨⟨name, hName⟩, -⟩ := h.of_mem hEntry
      cases hName <;> cases hInner
  | inValue hEntry _ ih =>
    cases h with
    | mapping h _ =>
      obtain ⟨-, json, hValue⟩ := h.of_mem hEntry
      exact ih hValue
  | inItem hItem _ ih =>
    cases h with
    | sequence h =>
      obtain ⟨json, hValue⟩ := h.of_mem hItem
      exact ih hValue
  | underTag _ _ ih =>
    cases h with
    | tagged _ h => exact ih h

theorem exists_denotes_iff {value : Document} :
    (∃ json, value.Denotes json) ↔ ∀ key, value.HasKey key → ∀ reason, ¬ key.Fault reason := by
  constructor
  · rintro ⟨json, h⟩ key hKey
    exact h.not_fault hKey
  · intro h
    cases hJson : value.toJson with
    | ok json => exact ⟨json, denotes_of_toJson value hJson⟩
    | error reason =>
      obtain ⟨key, hKey, hFault⟩ := fault_of_toJson value hJson
      exact absurd hFault (h key hKey reason)

end ApiLoad.Yaml.Document

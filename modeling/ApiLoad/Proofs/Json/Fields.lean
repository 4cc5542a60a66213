import ApiLoad.Json.Basic
import Mathlib.Data.String.Basic

/-!
# Fields of objects

Writing a field changes what is found under its name and nothing else, in whatever order the fields
are. A field written twice has its last value, and fields of different names are written in any order.
Fields in ascending order stay so, and are determined by what is found under each name. The object of
given fields keeps the last value of each name.
-/
set_option autoImplicit false

namespace ApiLoad.Json

/-- The names ascend, each of them once. -/
def Ascending (fields : List (String × Json)) : Prop := fields.Pairwise fun a b => a.1 < b.1

theorem field?_cons (fields : List (String × Json)) (key name : String) (value : Json) :
    field? ((key, value) :: fields) name = if name = key then some value else field? fields name := by
  rw [field?, List.lookup_cons]
  split <;> simp_all [field?]

theorem field?_append (first second : List (String × Json)) (name : String) :
    field? (first ++ second) name = (field? first name).or (field? second name) :=
  List.lookup_append

theorem field?_insertField (fields : List (String × Json)) (name other : String) (value : Json) :
    field? (insertField name value fields) other =
      if other = name then some value else field? fields other := by
  induction fields with
  | nil => exact field?_cons [] name other value
  | cons field rest ih =>
    obtain ⟨key, old⟩ := field
    rw [insertField]
    split
    · exact field?_cons _ name other value
    · split
      · rename_i hSame
        subst hSame
        rw [field?_cons, field?_cons]
        split <;> rfl
      · rename_i hOther
        rw [field?_cons, ih, field?_cons]
        by_cases hKey : other = key
        · rw [if_pos hKey, if_neg (fun h => hOther (h.symm.trans hKey)), if_pos hKey]
        · rw [if_neg hKey, if_neg hKey]

theorem mem_insertField {fields : List (String × Json)} {name : String} {value : Json}
    {field : String × Json} (h : field ∈ insertField name value fields) :
    field = (name, value) ∨ field ∈ fields := by
  induction fields with
  | nil => exact .inl (List.mem_singleton.mp h)
  | cons first rest ih =>
    rw [insertField] at h
    split at h
    · exact List.mem_cons.mp h
    · split at h
      · exact (List.mem_cons.mp h).imp_right (List.mem_cons_of_mem _)
      · rcases List.mem_cons.mp h with rfl | h
        · exact .inr List.mem_cons_self
        · exact (ih h).imp_right (List.mem_cons_of_mem _)

theorem Ascending.insertField {fields : List (String × Json)} (h : Ascending fields) (name : String)
    (value : Json) : Ascending (insertField name value fields) := by
  induction fields with
  | nil => exact List.pairwise_singleton ..
  | cons first rest ih =>
    obtain ⟨key, old⟩ := first
    obtain ⟨hFirst, hRest⟩ := List.pairwise_cons.mp h
    rw [Json.insertField]
    split
    · rename_i hLess
      refine List.pairwise_cons.mpr ⟨fun field hField => ?_, h⟩
      rcases List.mem_cons.mp hField with rfl | hField
      · exact hLess
      · exact lt_trans hLess (hFirst field hField)
    · split
      · rename_i hSame
        subst hSame
        exact List.pairwise_cons.mpr ⟨hFirst, hRest⟩
      · rename_i hNotLess hOther
        refine List.pairwise_cons.mpr ⟨fun field hField => ?_, ih hRest⟩
        rcases mem_insertField hField with rfl | hField
        · exact lt_of_le_of_ne (not_lt.mp hNotLess) (Ne.symm hOther)
        · exact hFirst field hField

theorem field?_eq_none_of_lt {fields : List (String × Json)} {name : String}
    (h : ∀ field ∈ fields, name < field.1) : field? fields name = none := by
  refine List.lookup_eq_none_iff.mpr fun field hField => ?_
  simpa using (h field hField).ne

/-- Ascending fields are determined by what is found under each name. -/
theorem Ascending.ext {a b : List (String × Json)} (ha : Ascending a) (hb : Ascending b)
    (h : ∀ name, field? a name = field? b name) : a = b := by
  induction a generalizing b with
  | nil =>
    cases b with
    | nil => rfl
    | cons second _ =>
      have hSecond := h second.1
      rw [field?_cons, if_pos rfl] at hSecond
      cases hSecond
  | cons first rest ih =>
    obtain ⟨key, value⟩ := first
    obtain ⟨hFirst, hRest⟩ := List.pairwise_cons.mp ha
    cases b with
    | nil =>
      have hKey := h key
      rw [field?_cons, if_pos rfl] at hKey
      cases hKey
    | cons second others =>
      obtain ⟨other, found⟩ := second
      obtain ⟨hSecond, hOthers⟩ := List.pairwise_cons.mp hb
      -- The lesser of two different first names would be found on one side only.
      rcases lt_trichotomy key other with hLess | rfl | hLess
      · have hKey := h key
        rw [field?_cons, if_pos rfl, field?_cons, if_neg hLess.ne,
          field?_eq_none_of_lt fun field hField => hLess.trans (hSecond field hField)] at hKey
        cases hKey
      · have hValue := h key
        rw [field?_cons, if_pos rfl, field?_cons, if_pos rfl] at hValue
        cases hValue
        refine congrArg _ (ih hRest hOthers fun name => ?_)
        by_cases hName : name = key
        · rw [hName, field?_eq_none_of_lt hFirst, field?_eq_none_of_lt hSecond]
        · simpa [field?_cons, hName] using h name
      · have hKey := h other
        rw [field?_cons, if_neg hLess.ne, field?_cons, if_pos rfl,
          field?_eq_none_of_lt fun field hField => hLess.trans (hFirst field hField)] at hKey
        cases hKey

theorem insertField_insertField (name : String) (old value : Json) (fields : List (String × Json)) :
    insertField name value (insertField name old fields) = insertField name value fields := by
  induction fields with
  | nil => simp [insertField]
  | cons field rest ih =>
    obtain ⟨key, kept⟩ := field
    rcases lt_trichotomy name key with hLess | rfl | hMore
    · simp [insertField, hLess]
    · simp [insertField]
    · simp [insertField, hMore.not_gt, hMore.ne', ih]

theorem insertField_comm_of_lt {first second : String} (h : first < second) (a b : Json)
    (fields : List (String × Json)) :
    insertField first a (insertField second b fields) =
      insertField second b (insertField first a fields) := by
  induction fields with
  | nil => simp [insertField, h, h.not_gt, h.ne']
  | cons field rest ih =>
    obtain ⟨key, kept⟩ := field
    rcases lt_trichotomy second key with hLess | rfl | hMore
    · simp [insertField, h, hLess, h.trans hLess, h.not_gt, h.ne']
    · simp [insertField, h, h.not_gt, h.ne']
    · rcases lt_trichotomy first key with hFirst | rfl | hFirst
      · simp [insertField, hMore.not_gt, hMore.ne', hFirst, h.not_gt, h.ne']
      · simp [insertField, h.not_gt, h.ne']
      · simp [insertField, hMore.not_gt, hMore.ne', hFirst.not_gt, hFirst.ne', ih]

theorem insertField_comm {first second : String} (h : first ≠ second) (a b : Json)
    (fields : List (String × Json)) :
    insertField first a (insertField second b fields) =
      insertField second b (insertField first a fields) := by
  rcases lt_or_gt_of_ne h with hLess | hMore
  · exact insertField_comm_of_lt hLess a b fields
  · exact (insertField_comm_of_lt hMore b a fields).symm

/-- Writes values under their names, one after another. -/
def write (values fields : List (String × Json)) : List (String × Json) :=
  values.foldl (fun done (name, value) => insertField name value done) fields

theorem write_cons (value : String × Json) (values fields : List (String × Json)) :
    write (value :: values) fields = write values (insertField value.1 value.2 fields) := rfl

theorem field?_write (values fields : List (String × Json)) (name : String) :
    field? (write values fields) name = (field? values.reverse name).or (field? fields name) := by
  induction values generalizing fields with
  | nil => rfl
  | cons first rest ih =>
    rw [write_cons, ih, List.reverse_cons, field?_append, Option.or_assoc, field?_insertField,
      field?_cons]
    by_cases hName : name = first.1
    · rw [if_pos hName, if_pos hName, Option.some_or]
    · rw [if_neg hName, if_neg hName]
      exact congrArg _ (Option.none_or ..).symm

/-- What is written under a name does not depend on the fields it is written to. -/
theorem field?_write_of_mem {values : List (String × Json)} {name : String}
    (h : name ∈ values.map (·.1)) :
    ∃ value, ∀ fields, field? (write values fields) name = some value := by
  cases hFound : field? values.reverse name with
  | none =>
    obtain ⟨value, hValue, hName⟩ := List.mem_map.mp h
    have hOther := List.lookup_eq_none_iff.mp hFound value (List.mem_reverse.mpr hValue)
    exact absurd hName.symm (by simpa using hOther)
  | some value =>
    refine ⟨value, fun fields => ?_⟩
    rw [field?_write, hFound, Option.some_or]

theorem field?_write_of_not_mem {values : List (String × Json)} {name : String}
    (h : name ∉ values.map (·.1)) (fields : List (String × Json)) :
    field? (write values fields) name = field? fields name := by
  have hNone : field? values.reverse name = none := by
    refine List.lookup_eq_none_iff.mpr fun value hValue => ?_
    have hOther : value.1 ≠ name := fun hName =>
      h (List.mem_map.mpr ⟨value, List.mem_reverse.mp hValue, hName⟩)
    simpa using hOther.symm
  rw [field?_write, hNone, Option.none_or]

theorem Ascending.write {fields : List (String × Json)} (values : List (String × Json))
    (h : Ascending fields) : Ascending (write values fields) := by
  induction values generalizing fields with
  | nil => exact h
  | cons first rest ih => exact ih (h.insertField first.1 first.2)

theorem write_insertField {values : List (String × Json)} {name : String}
    (h : name ∉ values.map (·.1)) (value : Json) (fields : List (String × Json)) :
    write values (insertField name value fields) = insertField name value (write values fields) := by
  induction values generalizing fields with
  | nil => rfl
  | cons first rest ih =>
    rw [List.map_cons, List.mem_cons, not_or] at h
    rw [write_cons, write_cons, insertField_comm (Ne.symm h.1), ih h.2]

/-- Values written under the same names leave nothing of the old ones. -/
theorem write_write {values old : List (String × Json)} (hNames : values.map (·.1) = old.map (·.1))
    (hDistinct : (old.map (·.1)).Nodup) (fields : List (String × Json)) :
    write values (write old fields) = write values fields := by
  induction values generalizing old fields with
  | nil => rw [List.map_eq_nil_iff.mp hNames.symm]; rfl
  | cons first rest ih =>
    obtain ⟨⟨name, was⟩, others, rfl, hName, hRest⟩ := List.map_eq_cons_iff.mp hNames.symm
    obtain ⟨_, value⟩ := first
    cases hName
    rw [List.map_cons, List.nodup_cons] at hDistinct
    rw [write_cons, write_cons, write_cons, ← write_insertField hDistinct.1, insertField_insertField,
      ih hRest.symm hDistinct.2]

/-- Fields collect given ones: their names ascend, and each has the last value given to it. -/
structure Collects (given fields : List (String × Json)) : Prop where
  ascending : Ascending fields
  last : ∀ name, field? fields name = field? given.reverse name

theorem Collects.eq_nil {given : List (String × Json)} (h : Collects given []) : given = [] := by
  cases given with
  | nil => rfl
  | cons first rest =>
    have hNone : field? (first :: rest).reverse first.1 = none := (h.last first.1).symm
    have hOther := List.lookup_eq_none_iff.mp hNone first (List.mem_reverse.mpr List.mem_cons_self)
    exact absurd hOther (by simp)

theorem Ascending.collects {fields : List (String × Json)} (h : Ascending fields) :
    Collects fields fields := by
  refine ⟨h, fun name => ?_⟩
  induction fields with
  | nil => rfl
  | cons field rest ih =>
    obtain ⟨key, value⟩ := field
    obtain ⟨hFirst, hRest⟩ := List.pairwise_cons.1 h
    rw [List.reverse_cons, field?_append, ← ih hRest, field?_cons, field?_cons]
    by_cases hName : name = key
    · rw [hName, if_pos rfl, field?_eq_none_of_lt hFirst, if_pos rfl, Option.none_or]
    · rw [if_neg hName, if_neg hName]
      exact (Option.or_none ..).symm

theorem collects_foldl (given : List (String × Json)) :
    Collects given (given.foldl (fun done (name, value) => insertField name value done) []) :=
  ⟨Ascending.write given .nil, fun name => (field?_write given [] name).trans (Option.or_none ..)⟩

theorem ofFields_eq_iff {given fields : List (String × Json)} :
    ofFields given = .object fields ↔ Collects given fields := by
  rw [ofFields, Json.object.injEq]
  have hMade := collects_foldl given
  constructor
  · rintro rfl
    exact hMade
  · exact fun h => hMade.ascending.ext h.ascending fun name => (hMade.last name).trans (h.last name).symm

/-- Fields under the same names, related name by name, in ascending order where the given ones are. -/
structure Fieldwise (related : String → Json → Json → Prop) (given made : List (String × Json)) :
    Prop where
  ascending : Ascending given → Ascending made
  related : ∀ name, Option.Rel (related name) (field? given name) (field? made name)

section Fieldwise

variable {first second related : String → Json → Json → Prop}
  {given made : List (String × Json)}

theorem Fieldwise.imp (h : Fieldwise first given made)
    (hImp : ∀ name old new, first name old new → related name old new) :
    Fieldwise related given made := by
  refine ⟨h.ascending, fun name => ?_⟩
  have hRelated := h.related name
  revert hRelated
  generalize field? given name = old, field? made name = new
  rintro (⟨hFirst⟩ | _)
  · exact .some (hImp name _ _ hFirst)
  · exact .none

theorem Fieldwise.refl (h : ∀ name value, field? given name = some value → related name value value) :
    Fieldwise related given given := by
  refine ⟨id, fun name => ?_⟩
  cases hFound : field? given name with
  | none => exact .none
  | some value => exact .some (h name value hFound)

theorem Fieldwise.insertField {name : String} {old value : Json}
    (hFound : field? given name = some old) (hNew : related name old value)
    (hOthers : ∀ other kept, other ≠ name → related other kept kept) :
    Fieldwise related given (insertField name value given) := by
  refine ⟨fun h => h.insertField name value, fun other => ?_⟩
  rw [field?_insertField]
  split
  · subst other
    rw [hFound]
    exact .some hNew
  · cases field? given other with
    | none => exact .none
    | some kept => exact .some (hOthers other kept ‹_›)

theorem Fieldwise.trans {between : List (String × Json)} (h : Fieldwise first given between)
    (h' : Fieldwise second between made) (hBoth : ∀ name old mid new, first name old mid →
      second name mid new → related name old new) : Fieldwise related given made := by
  refine ⟨fun hGiven => h'.ascending (h.ascending hGiven), fun name => ?_⟩
  have hFirst := h.related name
  have hSecond := h'.related name
  revert hFirst hSecond
  generalize field? given name = old, field? between name = mid, field? made name = new
  rintro (⟨hFirst⟩ | _) hSecond
  · cases hSecond with
    | some hSecond => exact .some (hBoth name _ _ _ hFirst hSecond)
  · cases hSecond
    exact .none

theorem Fieldwise.of_some (h : Fieldwise related given made) {name : String} {old : Json}
    (hFound : field? given name = some old) :
    ∃ new, field? made name = some new ∧ related name old new := by
  have hRelated := h.related name
  rw [hFound] at hRelated
  cases hMade : field? made name with
  | none => rw [hMade] at hRelated; cases hRelated
  | some new =>
    rw [hMade] at hRelated
    cases hRelated with
    | some hRelated => exact ⟨new, rfl, hRelated⟩

theorem Fieldwise.of_none (h : Fieldwise related given made) {name : String}
    (hNone : field? given name = none) : field? made name = none := by
  have hRelated := h.related name
  rw [hNone] at hRelated
  cases hMade : field? made name with
  | none => rfl
  | some new => rw [hMade] at hRelated; cases hRelated

theorem Fieldwise.field?_eq (h : Fieldwise related given made) {name : String}
    (hKept : ∀ old new, related name old new → new = old) : field? made name = field? given name := by
  cases hFound : field? given name with
  | none => exact h.of_none hFound
  | some old =>
    obtain ⟨new, hMade, hRelated⟩ := h.of_some hFound
    rw [hMade, hKept old new hRelated]

theorem Fieldwise.isSome_eq (h : Fieldwise related given made) (name : String) :
    (field? made name).isSome = (field? given name).isSome := by
  cases hFound : field? given name with
  | none => rw [h.of_none hFound]
  | some old =>
    obtain ⟨new, hMade, -⟩ := h.of_some hFound
    rw [hMade]
    rfl

end Fieldwise

end ApiLoad.Json

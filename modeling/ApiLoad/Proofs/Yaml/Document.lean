import ApiLoad.Yaml.Document.Json

/-!
# What is found in a document

Values and the texts of keys are looked at through their tags, however many there are. A key that is
looked up is found only without a tag, and of several such keys the first counts. Blank values are
those without content, under any tags.
-/
set_option autoImplicit false

namespace ApiLoad.Yaml.Document

/-- A value is another one under tags, none or several. -/
inductive Wraps : Document → Document → Prop
  | bare (value : Document) : Wraps value value
  | tagged {value inner : Document} (name : String) (h : Wraps value inner) :
      Wraps (.tagged name value) inner

theorem wraps_untagged : ∀ value : Document, value.Wraps value.untagged
  | .tagged name value => by
    rw [untagged]
    exact .tagged name (wraps_untagged value)
  | .scalar _ | .sequence _ | .mapping _ => .bare _

theorem Wraps.untagged_eq {value inner : Document} (h : value.Wraps inner) :
    value.untagged = inner.untagged := by
  induction h with
  | bare => rfl
  | tagged name _ ih => rw [untagged, ih]

theorem text?_eq_some_iff {value : Document} {text : String} :
    value.text? = some text ↔ value.Wraps (.scalar (.string text)) := by
  constructor
  · intro h
    unfold text? at h
    split at h
    · rename_i hInner
      cases h
      exact hInner ▸ value.wraps_untagged
    · cases h
  · intro h
    rw [text?, h.untagged_eq]
    rfl

theorem entries?_eq_some_iff {value : Document} {entries : List (Document × Document)} :
    value.entries? = some entries ↔ value.Wraps (.mapping entries) := by
  constructor
  · intro h
    unfold entries? at h
    split at h
    · rename_i hInner
      cases h
      exact hInner ▸ value.wraps_untagged
    · cases h
  · intro h
    rw [entries?, h.untagged_eq]
    rfl

theorem Wraps.text_eq {value : Document} {text other : String}
    (h : value.Wraps (.scalar (.string text))) (hOther : value.Wraps (.scalar (.string other))) :
    text = other := by
  rw [← text?_eq_some_iff] at h hOther
  exact Option.some.inj (h.symm.trans hOther)

theorem Wraps.entries_eq {value : Document} {entries others : List (Document × Document)}
    (h : value.Wraps (.mapping entries)) (hOthers : value.Wraps (.mapping others)) :
    entries = others := by
  rw [← entries?_eq_some_iff] at h hOthers
  exact Option.some.inj (h.symm.trans hOthers)

/-- The first entry under a key that is the text itself holds a value. -/
inductive Under (name : String) : List (Document × Document) → Document → Prop
  | here (value : Document) (rest : List (Document × Document)) :
      Under name ((.scalar (.string name), value) :: rest) value
  | later {key other value : Document} {rest : List (Document × Document)}
      (hKey : key ≠ .scalar (.string name)) (h : Under name rest value) :
      Under name ((key, other) :: rest) value

/-- A mapping, under tags or not, has a value under a key. -/
def Member (value : Document) (name : String) (found : Document) : Prop :=
  ∃ entries, value.Wraps (.mapping entries) ∧ Under name entries found

theorem isKey_iff {name : String} {key : Document} :
    isKey name key = true ↔ key = .scalar (.string name) := by
  unfold isKey
  split
  · simp
  · rename_i hOther
    exact ⟨nofun, fun h => absurd h (hOther name)⟩

theorem find?_isKey_iff {name : String} {found : Document} (entries : List (Document × Document)) :
    (entries.find? fun entry => isKey name entry.1).map (·.2) = some found ↔
      Under name entries found := by
  induction entries with
  | nil => exact ⟨nofun, nofun⟩
  | cons entry rest ih =>
    obtain ⟨key, value⟩ := entry
    by_cases hKey : key = .scalar (.string name)
    · subst hKey
      simp only [List.find?_cons, isKey_iff.mpr, Option.map_some, Option.some.injEq]
      constructor
      · rintro rfl
        exact .here value rest
      · intro h
        cases h with
        | here => rfl
        | later hOther => exact absurd rfl hOther
    · have hOther : isKey name key = false := by simpa using mt isKey_iff.mp hKey
      simp only [List.find?_cons, hOther, ih]
      constructor
      · exact .later hKey
      · intro h
        cases h with
        | here => exact absurd rfl hKey
        | later _ h => exact h

theorem get?_eq_some_iff {name : String} {value found : Document} :
    value.get? name = some found ↔ value.Member name found := by
  simp only [get?, Option.bind_eq_bind, Option.bind_eq_some_iff, entries?_eq_some_iff, Member,
    ← find?_isKey_iff, Option.map_eq_some_iff, Option.pure_def, Option.some.injEq]

theorem Member.eq {value found other : Document} {name : String} (h : value.Member name found)
    (hOther : value.Member name other) : found = other := by
  rw [← get?_eq_some_iff] at h hOther
  exact Option.some.inj (h.symm.trans hOther)

inductive Blank : Document → Prop
  | null : Blank (.scalar .null)
  | no : Blank (.scalar (.bool false))
  | zero : Blank (.scalar (.number (.integer 0)))
  | floatZero {x : Binary64} (h : x.isZero = true) : Blank (.scalar (.number (.float x)))
  | noText : Blank (.scalar (.string ""))
  | noItems : Blank (.sequence [])
  | noEntries : Blank (.mapping [])
  | tagged {value : Document} (name : String) (h : Blank value) : Blank (.tagged name value)

theorem Blank.isBlank {value : Document} (h : value.Blank) : value.isBlank = true := by
  induction h with
  | tagged _ _ ih => exact ih
  | floatZero h => exact h
  | _ => rfl

theorem blank_of_isBlank : ∀ {value : Document}, value.isBlank = true → value.Blank
  | .scalar .null, _ => .null
  | .scalar (.bool false), _ => .no
  | .scalar (.number (.integer n)), h => by
    obtain rfl : n = 0 := by simpa [Document.isBlank, Scalar.isBlank, Number.isZero] using h
    exact .zero
  | .scalar (.number (.float _)), h => .floatZero h
  | .scalar (.string text), h => by
    obtain rfl : text = "" := by simpa [Document.isBlank, Scalar.isBlank] using h
    exact .noText
  | .sequence [], _ => .noItems
  | .mapping [], _ => .noEntries
  | .tagged name _, h => .tagged name (blank_of_isBlank h)

theorem isBlank_iff {value : Document} : value.isBlank = true ↔ value.Blank :=
  ⟨blank_of_isBlank, Blank.isBlank⟩

end ApiLoad.Yaml.Document

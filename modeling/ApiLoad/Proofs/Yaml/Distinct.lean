import ApiLoad.Proofs.Yaml.Document

/-!
# Keys of a read document

In a document that is read from a text no key comes twice in a mapping, at any depth. A key that is a text
under tags is the same as another exactly if both the text and the tags are.
-/
set_option autoImplicit false

namespace ApiLoad.Yaml.Document

section Runs

variable {α β : Type}

theorem exists_of_run_bind {first : StateT Nat Option α} {next : α → StateT Nat Option β}
    {steps : Nat} {made : β × Nat} (h : (first >>= next) steps = some made) :
    ∃ a between, first steps = some (a, between) ∧ next a between = some made := by
  obtain ⟨⟨a, between⟩, hFirst, hNext⟩ := Option.bind_eq_some_iff.mp h
  exact ⟨a, between, hFirst, hNext⟩

theorem of_mem_mapM {P : β → Prop} {read : α → StateT Nat Option β} {items : List α}
    (h : ∀ item ∈ items, ∀ steps made, read item steps = some made → P made.1) {steps : Nat}
    {made : List β × Nat} (hRun : items.mapM read steps = some made) : ∀ b ∈ made.1, P b := by
  induction items generalizing steps made with
  | nil =>
    rw [List.mapM_nil] at hRun
    cases hRun
    exact nofun
  | cons item rest ih =>
    rw [List.mapM_cons] at hRun
    obtain ⟨b, between, hFirst, hRun⟩ := exists_of_run_bind hRun
    obtain ⟨more, after, hRest, hRun⟩ := exists_of_run_bind hRun
    cases hRun
    have hMore := ih (fun other hOther => h other (List.mem_cons_of_mem item hOther)) hRest
    exact List.forall_mem_cons.mpr ⟨h item List.mem_cons_self steps _ hFirst, hMore⟩

end Runs

/-- No key comes twice in a mapping, in the document itself or in a value. -/
inductive Distinct : Document → Prop
  | scalar (value : Scalar) : Distinct (.scalar value)
  | sequence {items : List Document} (hItems : ∀ item ∈ items, Distinct item) :
      Distinct (.sequence items)
  | mapping {entries : List (Document × Document)} (hKeys : distinctKeys entries = true)
      (hValues : ∀ entry ∈ entries, Distinct entry.2) : Distinct (.mapping entries)
  | tagged {value : Document} (name : String) (h : Distinct value) : Distinct (.tagged name value)

theorem Distinct.underTag {value : Document} (h : value.Distinct) (tag : Option Tag) :
    (underTag tag value).Distinct := by
  unfold Document.underTag
  split
  · exact .tagged _ h
  · exact h

theorem distinct_of_ofScalar? {tag : Option Tag} {plain : Bool} {text : String} {document : Document}
    (h : ofScalar? tag plain text = some document) : document.Distinct := by
  unfold ofScalar? at h
  dsimp only at h
  split at h
  · obtain ⟨value, -, rfl⟩ := Option.map_eq_some_iff.mp h
    exact .scalar value
  · split at h
    · obtain ⟨inner, hInner, rfl⟩ := Option.map_eq_some_iff.mp h
      obtain ⟨value, -, rfl⟩ := Option.map_eq_some_iff.mp hInner
      exact (Distinct.scalar value).underTag _
    · obtain ⟨value, -, rfl⟩ := Option.map_eq_some_iff.mp h
      exact .scalar value

theorem distinct_of_ofNode? (anchored : List (Nat × Node Nat)) {depth steps : Nat} {bare : Bool}
    {node : Node Nat} {made : Document × Nat}
    (h : ofNode? anchored depth bare node steps = some made) : made.1.Distinct := by
  rw [ofNode?] at h
  obtain ⟨followed, between, -, h⟩ := exists_of_run_bind h
  cases followed with
  | scalar properties plain text =>
    obtain ⟨value, hValue, hMade⟩ := Option.bind_eq_some_iff.mp h
    cases hMade
    exact distinct_of_ofScalar? hValue
  | sequence properties items =>
    cases depth with
    | zero => cases h
    | succ depth =>
      obtain ⟨read, after, hItems, h⟩ := exists_of_run_bind h
      cases h
      have hRead : ∀ item ∈ read, item.Distinct :=
        of_mem_mapM (fun item _ steps made hItem => distinct_of_ofNode? anchored hItem) hItems
      exact (Distinct.sequence hRead).underTag _
  | mapping properties entries =>
    cases depth with
    | zero => cases h
    | succ depth =>
      obtain ⟨read, after, hEntries, h⟩ := exists_of_run_bind h
      have hValues : ∀ entry ∈ read, entry.2.Distinct := by
        refine of_mem_mapM (P := fun entry => entry.2.Distinct) ?_ hEntries
        intro entry _ steps made hEntry
        obtain ⟨key, between, -, hEntry⟩ := exists_of_run_bind hEntry
        obtain ⟨value, after, hValue, hEntry⟩ := exists_of_run_bind hEntry
        cases hEntry
        exact distinct_of_ofNode? anchored hValue
      split at h
      · rename_i hKeys
        cases h
        exact (Distinct.mapping hKeys hValues).underTag _
      · cases h
  | _ => cases h
termination_by depth

theorem distinct_of_parse? {text : String} {description : Document}
    (h : parse? text = some description) : description.Distinct := by
  obtain ⟨tokens, -, h⟩ := Option.bind_eq_some_iff.mp h
  obtain ⟨node, -, h⟩ := Option.bind_eq_some_iff.mp h
  obtain ⟨root, -, h⟩ := Option.bind_eq_some_iff.mp h
  obtain ⟨made, hMade, rfl⟩ := Option.map_eq_some_iff.mp h
  exact distinct_of_ofNode? root.anchored hMade

theorem Distinct.of_wraps {value inner : Document} (h : value.Distinct) (hWraps : value.Wraps inner) :
    inner.Distinct := by
  induction hWraps with
  | bare => exact h
  | tagged name _ ih =>
    cases h with
    | tagged _ h => exact ih h

theorem Under.mem {name : String} {entries : List (Document × Document)} {found : Document}
    (h : Under name entries found) : (.scalar (.string name), found) ∈ entries := by
  induction h with
  | here => exact List.mem_cons_self
  | later _ _ ih => exact List.mem_cons_of_mem _ ih

theorem Distinct.of_member {value found : Document} {name : String} (h : value.Distinct)
    (hMember : value.Member name found) : found.Distinct := by
  obtain ⟨entries, hWraps, hUnder⟩ := hMember
  cases h.of_wraps hWraps with
  | mapping _ hValues => exact hValues _ hUnder.mem

theorem pairwise_of_distinctKeys {entries : List (Document × Document)}
    (h : distinctKeys entries = true) : entries.Pairwise fun a b => same a.1 b.1 = false := by
  induction entries with
  | nil => exact .nil
  | cons entry rest ih =>
    simp only [distinctKeys, Bool.and_eq_true, List.all_eq_true, Bool.not_eq_true'] at h
    exact .cons h.1 (ih h.2)

/-- A text under tags, the outermost first. -/
def labelled (tags : List String) (text : String) : Document :=
  tags.foldr .tagged (.scalar (.string text))

theorem wraps_text_iff {key : Document} {text : String} :
    key.Wraps (.scalar (.string text)) ↔ ∃ tags, key = labelled tags text := by
  constructor
  · intro h
    generalize hInner : Document.scalar (.string text) = inner at h
    induction h with
    | bare =>
      subst hInner
      exact ⟨[], rfl⟩
    | tagged name _ ih =>
      obtain ⟨tags, rfl⟩ := ih hInner
      exact ⟨name :: tags, rfl⟩
  · rintro ⟨tags, rfl⟩
    induction tags with
    | nil => exact .bare _
    | cons name rest ih => exact .tagged name ih

theorem labelled_inj {tags others : List String} {text other : String}
    (h : labelled tags text = labelled others other) : tags = others ∧ text = other := by
  induction tags generalizing others with
  | nil =>
    cases others with
    | nil =>
      cases h
      exact ⟨rfl, rfl⟩
    | cons => cases h
  | cons name rest ih =>
    cases others with
    | nil => cases h
    | cons name' rest' =>
      obtain ⟨rfl, hRest⟩ := tagged.inj h
      obtain ⟨rfl, rfl⟩ := ih hRest
      exact ⟨rfl, rfl⟩

theorem same_labelled (tags : List String) (text : String) :
    same (labelled tags text) (labelled tags text) = true := by
  induction tags with
  | nil =>
    show same (.scalar (.string text)) (.scalar (.string text)) = true
    rw [same]
    exact beq_self_eq_true text
  | cons name rest ih =>
    simp only [labelled, List.foldr_cons, same, beq_self_eq_true, Bool.true_and]
    exact ih

/-- A text under tags is the key of one entry at most. -/
theorem index_eq_of_distinctKeys {entries : List (Document × Document)} (h : distinctKeys entries = true)
    {tags : List String} {text : String} {value other : Document} {i j : Nat}
    (hFirst : entries[i]? = some (labelled tags text, value))
    (hSecond : entries[j]? = some (labelled tags text, other)) : i = j := by
  obtain ⟨hI, hFirst⟩ := List.getElem?_eq_some_iff.mp hFirst
  obtain ⟨hJ, hSecond⟩ := List.getElem?_eq_some_iff.mp hSecond
  have hApart := List.pairwise_iff_getElem.mp (pairwise_of_distinctKeys h)
  rcases Nat.lt_trichotomy i j with hLess | hEq | hGreater
  · have hOther := hApart i j hI hJ hLess
    rw [hFirst, hSecond, same_labelled] at hOther
    cases hOther
  · exact hEq
  · have hOther := hApart j i hJ hI hGreater
    rw [hFirst, hSecond, same_labelled] at hOther
    cases hOther

end ApiLoad.Yaml.Document

import ApiLoad.Proofs.Payload.Values

/-!
# What randomization leaves alone

A template that is no object comes back as it is. An object keeps its names, and its values at every depth
but for two kinds: scalars of the known fields give way to scalars, and the properties get an identifier.
-/
set_option autoImplicit false

namespace ApiLoad.Payload

/-- Properties keep their names and values but for the identifier, which is written over or added. -/
structure KeepsProperties (properties made : List (String × Json)) : Prop where
  ascending : Json.Ascending properties → Json.Ascending made
  names : ∀ name, (Json.field? made name).isSome = true ↔
    name = "request_id" ∨ (Json.field? properties name).isSome = true
  others : ∀ name, name ≠ "request_id" → Json.field? made name = Json.field? properties name

/-- The fields of a payload keep the frame of those of a template. -/
structure Keeps (fields made : List (String × Json)) : Prop where
  ascending : Json.Ascending fields → Json.Ascending made
  names : ∀ name, (Json.field? made name).isSome = (Json.field? fields name).isSome
  others : ∀ name, name ∉ knownFields → name ≠ "properties" →
    Json.field? made name = Json.field? fields name
  containers : ∀ name ∈ knownFields, ∀ old, Json.field? fields name = some old →
    old.isScalar = false → Json.field? made name = some old
  scalars : ∀ name ∈ knownFields, ∀ old, Json.field? fields name = some old →
    old.isScalar = true → ∃ new, Json.field? made name = some new ∧ new.isScalar = true
  nested : ∀ properties, Json.field? fields "properties" = some (.object properties) →
    ∃ inner, Json.field? made "properties" = some (.object inner) ∧ KeepsProperties properties inner
  unnested : ∀ old, Json.field? fields "properties" = some old →
    (∀ properties, old ≠ .object properties) → Json.field? made "properties" = some old

theorem keepsProperties_insertField (properties : List (String × Json)) (id : Json) :
    KeepsProperties properties (Json.insertField "request_id" id properties) := by
  constructor
  · intro h
    exact h.insertField "request_id" id
  · intro name
    rw [Json.field?_insertField]
    by_cases hName : name = "request_id" <;> simp [hName]
  · intro name hName
    rw [Json.field?_insertField, if_neg hName]

section Turns

variable {names : Draw String} {now : Int} {name : String} {old new : Json}

theorem Turns.eq_of_not_known (h : Turns names now name old new) (hKnown : name ∉ knownFields)
    (hName : name ≠ "properties") : new = old := by
  cases h with
  | fresh hRule hField _ _ =>
    subst hField
    exact absurd (fields_of_rules names now ▸ List.mem_map_of_mem hRule) hKnown
  | identified hProperties _ => exact absurd hProperties hName
  | kept => rfl

theorem Turns.eq_of_container (h : Turns names now name old new) (hKnown : name ∈ knownFields)
    (hContainer : old.isScalar = false) : new = old := by
  cases h with
  | fresh _ _ hScalar _ => exact absurd hScalar (by simp [hContainer])
  | identified hProperties _ => exact absurd (hProperties ▸ hKnown) (by decide)
  | kept => rfl

theorem Turns.isScalar (h : Turns names now name old new) (hScalar : old.isScalar = true) :
    new.isScalar = true := by
  cases h with
  | fresh hRule _ _ h => exact isScalar_of_rule hRule h
  | identified => cases hScalar
  | kept => exact hScalar

theorem Turns.eq_of_unnested (h : Turns names now "properties" old new)
    (hNested : ∀ properties, old ≠ .object properties) : new = old := by
  cases h with
  | @fresh rule _ _ hRule hField _ _ =>
    have hMem := List.mem_map_of_mem (f := (·.field)) hRule
    rw [fields_of_rules, hField] at hMem
    exact absurd hMem (by decide)
  | @identified properties => exact absurd rfl (hNested properties)
  | kept => rfl

theorem Turns.keepsProperties {properties : List (String × Json)}
    (h : Turns names now "properties" (.object properties) new) :
    ∃ inner, new = .object inner ∧ KeepsProperties properties inner := by
  cases h with
  | fresh _ _ hScalar _ => cases hScalar
  | identified => exact ⟨_, rfl, keepsProperties_insertField properties _⟩
  | kept _ hNested => exact absurd rfl (hNested rfl properties)

theorem keeps_of_turns {fields made : List (String × Json)}
    (h : Json.Fieldwise (Turns names now) fields made) : Keeps fields made := by
  refine ⟨h.ascending, h.isSome_eq, ?_, ?_, ?_, ?_, ?_⟩
  · intro name hKnown hName
    cases hFound : Json.field? fields name with
    | none => exact h.of_none hFound
    | some old =>
      obtain ⟨new, hMade, hTurns⟩ := h.of_some hFound
      rw [hMade, hTurns.eq_of_not_known hKnown hName]
  · intro name hKnown old hFound hContainer
    obtain ⟨new, hMade, hTurns⟩ := h.of_some hFound
    rw [hMade, hTurns.eq_of_container hKnown hContainer]
  · intro name _ old hFound hScalar
    obtain ⟨new, hMade, hTurns⟩ := h.of_some hFound
    exact ⟨new, hMade, hTurns.isScalar hScalar⟩
  · intro properties hFound
    obtain ⟨new, hMade, hTurns⟩ := h.of_some hFound
    obtain ⟨inner, rfl, hKeeps⟩ := hTurns.keepsProperties
    exact ⟨inner, hMade, hKeeps⟩
  · intro old hFound hNested
    obtain ⟨new, hMade, hTurns⟩ := h.of_some hFound
    rw [hMade, hTurns.eq_of_unnested hNested]

end Turns

theorem keeps_of_gives {names : Draw String} {now : Int} {fields : List (String × Json)} {out : Json}
    (h : (randomizeNaming names now (.object fields)).Gives out) :
    ∃ made, out = .object made ∧ Keeps fields made := by
  obtain ⟨made, rfl, hTurns⟩ := turns_of_gives h
  exact ⟨made, rfl, keeps_of_turns hTurns⟩

/-- The frame of a template survives randomization, whatever is drawn and however users get their names. -/
theorem randomization_keeps_frame {names : Draw String} {now : Int} {template out : Json}
    (h : (randomizeNaming names now template).Gives out) :
    (∀ fields, template = .object fields → ∃ made, out = .object made ∧ Keeps fields made) ∧
    ((∀ fields, template ≠ .object fields) → out = template) := by
  constructor
  · rintro fields rfl
    exact keeps_of_gives h
  · intro hOther
    exact eq_of_gives hOther h

namespace Mixed

/-- Known fields with a container and with null, a field of no rule, and properties with an identifier. -/
def fields : List (String × Json) :=
  [("name", .array [.object [("page", .string "/old")]]), ("page", .object [("path", .string "/x")]),
    ("properties", .object [("plan", .string "pro"), ("request_id", .ofNat 7)]), ("referrer", .null)]

def drawn : Json × Source :=
  ((randomizeNaming Signup.names 0 (.object fields)).run (.cyclic #[0])).get (by decide +kernel)

theorem run_eq : (randomizeNaming Signup.names 0 (.object fields)).run (.cyclic #[0]) = some drawn :=
  (Option.some_get _).symm

theorem gives_drawn : (randomizeNaming Signup.names 0 (.object fields)).Gives drawn.1 :=
  .of_run run_eq

end Mixed

/-- The identifier is written over, and the frame of the other fields stays. -/
theorem frame_of_mixed : (randomizeNaming Signup.names 0 (.object Mixed.fields)).Gives Mixed.drawn.1 ∧
    ((Mixed.drawn.1.get? "properties").bind (Json.get? "request_id")).bind Json.text? =
      some "00000000000040008000000000000000" ∧
    ∃ made, Mixed.drawn.1 = .object made ∧ Keeps Mixed.fields made :=
  ⟨Mixed.gives_drawn, by decide +kernel, (randomization_keeps_frame Mixed.gives_drawn).1 Mixed.fields rfl⟩

end ApiLoad.Payload

import ApiLoad.Proofs.Payload.Frame

/-!
# Payloads and the pattern of their template

The pattern of a template is which known fields hold a scalar and whether the properties are an object. The
rules that are due are read off it before anything is drawn, so templates of one pattern take the same words
from a source and get the same values. A payload has the pattern of its template, so a second randomization
leaves nothing of the first.
-/
set_option autoImplicit false

namespace ApiLoad

namespace Draw

/-- Two draws go together: from every source both give nothing, or both give values that are related and
leave the source in the same state. -/
def Together {α β : Type} (related : α → β → Prop) (first : Draw α) (second : Draw β) : Prop :=
  ∀ source, Option.Rel (fun a b => related a.1 b.1 ∧ a.2 = b.2) (first.run source) (second.run source)

section Binds

variable {α β γ : Type} {related : α → β → Prop}

theorem Together.pure {a : α} {b : β} (h : related a b) :
    Together related (pure a : Draw α) (pure b) :=
  fun _ => .some ⟨h, rfl⟩

/-- After one and the same draw only what that draw can give has to be looked at. -/
theorem Together.bind {first : Draw γ} {next : γ → Draw α} {other : γ → Draw β}
    (h : ∀ c, first.Gives c → Together related (next c) (other c)) :
    Together related (first >>= next) (first >>= other) := by
  intro source
  rw [StateT.run_bind, StateT.run_bind]
  cases hFirst : first.run source with
  | none => exact .none
  | some drawn => exact h drawn.1 (.of_run hFirst) drawn.2

theorem bind_congr {first : Draw γ} {next other : γ → Draw α}
    (h : ∀ c, first.Gives c → next c = other c) : first >>= next = first >>= other := by
  refine StateT.ext fun source => ?_
  rw [StateT.run_bind, StateT.run_bind]
  cases hFirst : first.run source with
  | none => rfl
  | some drawn => exact congrArg (·.run drawn.2) (h drawn.1 (.of_run hFirst))

end Binds

end Draw

namespace Payload

def scalarAt (fields : List (String × Json)) (name : String) : Bool :=
  (Json.field? fields name).any Json.isScalar

def properties? (fields : List (String × Json)) : Option (List (String × Json)) :=
  match Json.field? fields "properties" with
  | some (.object properties) => some properties
  | _ => none

structure SamePattern (a b : List (String × Json)) : Prop where
  scalars : ∀ name ∈ knownFields, scalarAt a name = scalarAt b name
  properties : (properties? a).isSome = (properties? b).isSome

/-- Payloads agree on what is drawn for templates with the pattern of the given fields. -/
structure Agree (fields : List (String × Json)) (a b : Json) : Prop where
  fresh : ∀ name ∈ knownFields, scalarAt fields name = true →
    ∃ value, a.get? name = some value ∧ b.get? name = some value
  identified : (properties? fields).isSome = true →
    ∃ id, (a.get? "properties").bind (Json.get? "request_id") = some id ∧
      (b.get? "properties").bind (Json.get? "request_id") = some id

section Lookups

variable {fields made : List (String × Json)}

theorem properties?_eq_some_iff {properties : List (String × Json)} :
    properties? fields = some properties ↔
      Json.field? fields "properties" = some (.object properties) := by
  unfold properties?
  split <;> simp_all

theorem scalarAt_eq_true_iff {name : String} :
    scalarAt fields name = true ↔
      ∃ old, Json.field? fields name = some old ∧ old.isScalar = true := by
  simp [scalarAt, Option.any_eq_true]

theorem Keeps.samePattern (h : Keeps fields made) : SamePattern made fields := by
  constructor
  · intro name hKnown
    rw [Bool.eq_iff_iff, scalarAt_eq_true_iff, scalarAt_eq_true_iff]
    constructor
    · rintro ⟨new, hMade, hScalar⟩
      cases hFound : Json.field? fields name with
      | none =>
        have hNames := h.names name
        rw [hMade, hFound] at hNames
        cases hNames
      | some old =>
        refine ⟨old, rfl, ?_⟩
        by_contra hContainer
        have hKept := h.containers name hKnown old hFound (by simpa using hContainer)
        rw [hMade, Option.some.injEq] at hKept
        exact hContainer (hKept ▸ hScalar)
    · rintro ⟨old, hFound, hScalar⟩
      exact h.scalars name hKnown old hFound hScalar
  · rw [Bool.eq_iff_iff, Option.isSome_iff_exists, Option.isSome_iff_exists]
    simp only [properties?_eq_some_iff]
    constructor
    · rintro ⟨inner, hMade⟩
      cases hFound : Json.field? fields "properties" with
      | none =>
        have hNames := h.names "properties"
        rw [hMade, hFound] at hNames
        cases hNames
      | some old =>
        by_contra hNested
        have hOther (properties : List (String × Json)) (hObject : old = .object properties) : False :=
          hNested ⟨properties, congrArg some hObject⟩
        have hKept := h.unnested old hFound hOther
        rw [hMade, Option.some.injEq] at hKept
        exact hNested ⟨inner, by rw [hKept]⟩
    · rintro ⟨properties, hFound⟩
      obtain ⟨inner, hMade, -⟩ := h.nested properties hFound
      exact ⟨inner, hMade⟩

end Lookups

section Plan

def due (rules : List Rule) (fields : List (String × Json)) : List Rule :=
  rules.filter fun rule => scalarAt fields rule.field

def freshen (rules : List Rule) : Draw (List (String × Json)) :=
  rules.mapM fun rule => do
    let value ← rule.value
    pure (rule.field, value)

theorem Rule.apply_eq (rule : Rule) (fields : List (String × Json)) :
    rule.apply fields =
      if scalarAt fields rule.field then do
        let value ← rule.value
        pure (Json.insertField rule.field value fields)
      else pure fields := by
  unfold Rule.apply scalarAt
  cases Json.field? fields rule.field <;> rfl

theorem due_insertField {rules : List Rule} {name : String} (h : name ∉ rules.map (·.field))
    (value : Json) (fields : List (String × Json)) :
    due rules (Json.insertField name value fields) = due rules fields := by
  refine List.filter_congr fun rule hRule => ?_
  have hOther : rule.field ≠ name := fun hName => h (hName ▸ List.mem_map_of_mem hRule)
  rw [scalarAt, scalarAt, Json.field?_insertField, if_neg hOther]

/-- The rules that are due can be told before any of them draws. -/
theorem foldlM_apply {rules : List Rule} (h : (rules.map (·.field)).Nodup)
    (fields : List (String × Json)) :
    rules.foldlM (fun fields (rule : Rule) => rule.apply fields) fields =
      freshen (due rules fields) >>= fun values => pure (Json.write values fields) := by
  induction rules generalizing fields with
  | nil => rfl
  | cons rule rest ih =>
    rw [List.map_cons, List.nodup_cons] at h
    rw [List.foldlM_cons, Rule.apply_eq, due, List.filter_cons]
    split
    · -- No later rule writes to this field, so what is due later does not hang on the value.
      rw [freshen, List.mapM_cons]
      simp only [bind_assoc, pure_bind, ih h.2, due_insertField h.1, Json.write_cons]
      rfl
    · rw [pure_bind, ih h.2]
      rfl

theorem map_fst_of_freshen {rules : List Rule} {values : List (String × Json)}
    (h : (freshen rules).Gives values) : values.map (·.1) = rules.map (·.field) := by
  induction rules generalizing values with
  | nil => rw [h.of_pure]; rfl
  | cons rule rest ih =>
    rw [freshen, List.mapM_cons] at h
    obtain ⟨pair, hPair, h⟩ := h.of_bind
    obtain ⟨values, hRest, h⟩ := h.of_bind
    obtain ⟨value, -, hPair⟩ := hPair.of_bind
    rw [h.of_pure, hPair.of_pure, List.map_cons, List.map_cons, ih hRest]

end Plan

section Randomized

variable {names : Draw String} {now : Int} {fields made values : List (String × Json)}

theorem fields_of_due (names : Draw String) (now : Int) (fields : List (String × Json)) :
    (due (rules names now) fields).map (·.field) = knownFields.filter (scalarAt fields) := by
  rw [← fields_of_rules names now, List.filter_map]
  rfl

theorem randomizeNaming_object (names : Draw String) (now : Int) (fields : List (String × Json)) :
    randomizeNaming names now (.object fields) =
      freshen (due (rules names now) fields) >>= fun values =>
        identify (Json.write values fields) >>= fun made => pure (.object made) := by
  have hDistinct : ((rules names now).map (·.field)).Nodup := by
    rw [fields_of_rules]
    decide
  rw [randomizeNaming, foldlM_apply hDistinct, bind_assoc]
  simp only [pure_bind]

theorem SamePattern.due_eq {a b : List (String × Json)} (h : SamePattern a b) :
    due (rules names now) a = due (rules names now) b := by
  refine List.filter_congr fun rule hRule => h.scalars rule.field ?_
  rw [← fields_of_rules names now]
  exact List.mem_map_of_mem hRule

theorem map_fst_of_due (h : (freshen (due (rules names now) fields)).Gives values) :
    values.map (·.1) = knownFields.filter (scalarAt fields) :=
  (map_fst_of_freshen h).trans (fields_of_due names now fields)

theorem properties_not_mem (h : values.map (·.1) = knownFields.filter (scalarAt fields)) :
    "properties" ∉ values.map (·.1) := by
  rw [h]
  exact fun hMem => absurd (List.mem_of_mem_filter hMem) (by decide)

theorem properties?_write (h : "properties" ∉ values.map (·.1)) (fields : List (String × Json)) :
    properties? (Json.write values fields) = properties? fields := by
  rw [properties?, properties?, Json.field?_write_of_not_mem h]

def withIdentifier (digits : List Char) (properties fields : List (String × Json)) :
    List (String × Json) :=
  Json.insertField "properties"
    (.object (Json.insertField "request_id" (.string (String.ofList digits)) properties)) fields

theorem identify_of_some {properties : List (String × Json)} (h : properties? fields = some properties) :
    identify fields =
      Draw.identifier >>= fun digits => pure (withIdentifier digits properties fields) := by
  rw [identify, properties?_eq_some_iff.mp h]
  rfl

theorem identify_of_none (h : properties? fields = none) : identify fields = pure fields := by
  unfold identify
  split
  · rename_i properties hFound
    rw [properties?_eq_some_iff.mpr hFound] at h
    cases h
  · rfl

theorem get?_write {name : String} (h : values.map (·.1) = knownFields.filter (scalarAt fields))
    (hKnown : name ∈ knownFields) (hScalar : scalarAt fields name = true) :
    ∃ value, ∀ template, (Json.object (Json.write values template)).get? name = some value :=
  Json.field?_write_of_mem (h ▸ List.mem_filter.mpr ⟨hKnown, hScalar⟩)

theorem get?_withIdentifier {name : String} (hKnown : name ∈ knownFields) (digits : List Char)
    (properties fields : List (String × Json)) :
    (Json.object (withIdentifier digits properties fields)).get? name =
      (Json.object fields).get? name := by
  have hName : name ≠ "properties" := fun hName => absurd (hName ▸ hKnown) (by decide)
  rw [Json.get?, withIdentifier, Json.field?_insertField, if_neg hName]
  rfl

theorem requestId_withIdentifier (digits : List Char) (properties fields : List (String × Json)) :
    ((Json.object (withIdentifier digits properties fields)).get? "properties").bind
      (Json.get? "request_id") = some (.string (String.ofList digits)) := by
  rw [Json.get?, withIdentifier, Json.field?_insertField, if_pos rfl, Option.bind_some, Json.get?,
    Json.field?_insertField, if_pos rfl]

theorem properties?_withIdentifier (digits : List Char) (properties fields : List (String × Json)) :
    properties? (withIdentifier digits properties fields) =
      some (Json.insertField "request_id" (.string (String.ofList digits)) properties) := by
  rw [properties?_eq_some_iff, withIdentifier, Json.field?_insertField, if_pos rfl]

theorem withIdentifier_withIdentifier (older digits : List Char)
    (properties fields : List (String × Json)) :
    withIdentifier digits (Json.insertField "request_id" (.string (String.ofList older)) properties)
      (withIdentifier older properties fields) = withIdentifier digits properties fields := by
  rw [withIdentifier, withIdentifier, withIdentifier, Json.insertField_insertField,
    Json.insertField_insertField]

theorem write_withIdentifier (h : "properties" ∉ values.map (·.1)) (digits : List Char)
    (properties fields : List (String × Json)) :
    Json.write values (withIdentifier digits properties fields) =
      withIdentifier digits properties (Json.write values fields) :=
  Json.write_insertField h _ fields

theorem SamePattern.together {a b : List (String × Json)} (h : SamePattern a b) :
    Draw.Together (Agree a) (randomizeNaming names now (.object a))
      (randomizeNaming names now (.object b)) := by
  rw [randomizeNaming_object, randomizeNaming_object, ← h.due_eq]
  refine .bind fun values hValues => ?_
  have hNames := map_fst_of_due hValues
  have hProperties := properties?_write (properties_not_mem hNames)
  have hSame := h.properties
  cases hA : properties? a with
  | none =>
    rw [hA, Option.isSome_none, eq_comm, Option.isSome_eq_false_iff, Option.isNone_iff_eq_none] at hSame
    rw [identify_of_none ((hProperties a).trans hA), identify_of_none ((hProperties b).trans hSame),
      pure_bind, pure_bind]
    refine .pure ⟨fun name hKnown hScalar => ?_, by simp [hA]⟩
    obtain ⟨value, hValue⟩ := get?_write hNames hKnown hScalar
    exact ⟨value, hValue a, hValue b⟩
  | some p =>
    rw [hA, Option.isSome_some, eq_comm, Option.isSome_iff_exists] at hSame
    obtain ⟨q, hB⟩ := hSame
    rw [identify_of_some ((hProperties a).trans hA), identify_of_some ((hProperties b).trans hB),
      bind_assoc, bind_assoc]
    refine .bind fun digits _ => ?_
    rw [pure_bind, pure_bind]
    refine .pure ⟨fun name hKnown hScalar => ?_, fun _ => ?_⟩
    · obtain ⟨value, hValue⟩ := get?_write hNames hKnown hScalar
      rw [get?_withIdentifier hKnown, get?_withIdentifier hKnown]
      exact ⟨value, hValue a, hValue b⟩
    · exact ⟨_, requestId_withIdentifier .., requestId_withIdentifier ..⟩

/-- Values and an identifier written over older ones leave nothing of them. -/
theorem identify_write_again {older : List (String × Json)}
    (hNames : values.map (·.1) = knownFields.filter (scalarAt fields))
    (hOlder : older.map (·.1) = knownFields.filter (scalarAt fields))
    (h : (identify (Json.write older fields)).Gives made) :
    identify (Json.write values made) = identify (Json.write values fields) := by
  have hAbsent := properties_not_mem hNames
  have hProperties := properties?_write (properties_not_mem hOlder) fields
  have hWrite : Json.write values (Json.write older fields) = Json.write values fields := by
    refine Json.write_write (hNames.trans hOlder.symm) ?_ fields
    rw [hOlder]
    exact (show knownFields.Nodup by decide).filter _
  cases hFields : properties? fields with
  | none =>
    rw [identify_of_none (hProperties.trans hFields)] at h
    rw [h.of_pure, hWrite]
  | some p =>
    rw [identify_of_some (hProperties.trans hFields)] at h
    obtain ⟨digits, -, h⟩ := h.of_bind
    rw [h.of_pure, write_withIdentifier hAbsent, hWrite, identify_of_some (properties?_withIdentifier ..),
      identify_of_some ((properties?_write hAbsent fields).trans hFields)]
    simp only [withIdentifier_withIdentifier]

theorem randomizeNaming_again {earlier : Int} {once : Json}
    (h : (randomizeNaming names earlier (.object fields)).Gives once) :
    randomizeNaming names now once = randomizeNaming names now (.object fields) := by
  obtain ⟨made, rfl, hKeeps⟩ := keeps_of_gives h
  rw [randomizeNaming_object] at h
  obtain ⟨older, hOlder, h⟩ := h.of_bind
  obtain ⟨made', hMade, h⟩ := h.of_bind
  cases h.of_pure
  -- A payload keeps the pattern, so the same rules are due again.
  rw [randomizeNaming_object, randomizeNaming_object, hKeeps.samePattern.due_eq]
  refine Draw.bind_congr fun values hValues => ?_
  rw [identify_write_again (map_fst_of_due hValues) (map_fst_of_due hOlder) hMade]

end Randomized

/-- Templates of one pattern go together, whatever else they hold. So a payload that is randomized again, in
whatever second it was made, is the payload of its template. -/
theorem randomization_follows_pattern (names : Draw String) (now : Int) :
    (∀ a b, SamePattern a b → Draw.Together (Agree a) (randomizeNaming names now (.object a))
      (randomizeNaming names now (.object b))) ∧
    ∀ earlier template once, (randomizeNaming names earlier template).Gives once →
      randomizeNaming names now once = randomizeNaming names now template := by
  constructor
  · intro a b h
    exact h.together
  · intro earlier template once h
    by_cases hObject : ∃ fields, template = .object fields
    · obtain ⟨fields, rfl⟩ := hObject
      exact randomizeNaming_again h
    · rw [eq_of_gives (fun fields hFields => hObject ⟨fields, hFields⟩) h]

namespace Mixed

/-- The pattern of the other fields under more names, the page being absent. -/
def other : List (String × Json) :=
  [("name", .null), ("note", .ofNat 5), ("properties", .object []), ("referrer", .string "/")]

theorem samePattern_other : SamePattern fields other :=
  ⟨by decide, rfl⟩

end Mixed

/-- The one template has a page and an identifier and the other has neither. -/
theorem pattern_of_mixed : SamePattern Mixed.fields Mixed.other ∧
    Draw.Together (Agree Mixed.fields) (randomizeNaming Signup.names 60 (.object Mixed.fields))
      (randomizeNaming Signup.names 60 (.object Mixed.other)) ∧
    (randomizeNaming Signup.names 0 (.object Mixed.fields)).Gives Mixed.drawn.1 ∧
    randomizeNaming Signup.names 60 Mixed.drawn.1 =
      randomizeNaming Signup.names 60 (.object Mixed.fields) := by
  obtain ⟨hTogether, hAgain⟩ := randomization_follows_pattern Signup.names 60
  exact ⟨Mixed.samePattern_other, hTogether Mixed.fields Mixed.other Mixed.samePattern_other,
    Mixed.gives_drawn, hAgain 0 (.object Mixed.fields) Mixed.drawn.1 Mixed.gives_drawn⟩

end Payload
end ApiLoad

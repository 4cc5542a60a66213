import ApiLoad.Payload.Randomize
import ApiLoad.Proofs.Json.Fields
import ApiLoad.Proofs.Random.Draw

/-!
# What the rules leave and what they replace

Whatever the rules draw, a payload turns out field by field: under the name of a rule a scalar gives way
to what the rule draws, an object of properties gets an identifier, and everything else stays. The names
of users may come from anywhere.
-/
set_option autoImplicit false

namespace ApiLoad.Payload

def knownFields : List String :=
  ["user_id", "session_id", "timestamp", "page", "element_id", "referrer", "severity", "ttfb_ms",
    "fcp_ms", "lcp_ms"]

theorem fields_of_rules (names : Draw String) (now : Int) :
    (rules names now).map (·.field) = knownFields := rfl

/-- What rules make of the value under a name: one of them draws a new one, or it stays. -/
inductive Drawn (rules : List Rule) (name : String) : Json → Json → Prop
  | fresh {rule : Rule} {old new : Json} (hRule : rule ∈ rules) (hName : rule.field = name)
      (hScalar : old.isScalar = true) (h : rule.value.Gives new) : Drawn rules name old new
  | kept {old : Json} (h : ∀ rule ∈ rules, rule.field = name → old.isScalar = false) :
      Drawn rules name old old

theorem Rule.apply_gives {rule : Rule} {fields made : List (String × Json)}
    (h : (rule.apply fields).Gives made) : Json.Fieldwise (Drawn [rule]) fields made := by
  have hOther (other : String) (kept : Json) (hName : other ≠ rule.field) :
      Drawn [rule] other kept kept :=
    .kept fun r hRule hField => absurd (List.mem_singleton.mp hRule ▸ hField).symm hName
  unfold Rule.apply at h
  split at h
  · rename_i old hFound
    split at h
    · rename_i hScalar
      obtain ⟨value, hValue, h⟩ := h.of_bind
      rw [h.of_pure]
      exact .insertField hFound (.fresh List.mem_cons_self rfl hScalar hValue) hOther
    · rename_i hContainer
      rw [h.of_pure]
      refine .refl fun name value hValue => .kept fun r hRule hField => ?_
      obtain rfl := List.mem_singleton.mp hRule
      subst hField
      obtain rfl : old = value := Option.some.inj (hFound.symm.trans hValue)
      simpa using hContainer
  · rename_i hNone
    rw [h.of_pure]
    refine .refl fun name value hValue => hOther name value fun hName => ?_
    rw [hName, hNone] at hValue
    cases hValue

theorem drawn_of_foldlM {rules : List Rule} {fields made : List (String × Json)}
    (h : Draw.Gives (rules.foldlM (fun fields (rule : Rule) => rule.apply fields) fields) made) :
    Json.Fieldwise (Drawn rules) fields made := by
  induction rules generalizing fields with
  | nil =>
    rw [List.foldlM_nil] at h
    rw [h.of_pure]
    exact .refl fun name value _ => .kept fun rule hRule => absurd hRule List.not_mem_nil
  | cons rule rest ih =>
    rw [List.foldlM_cons] at h
    obtain ⟨between, hFirst, hRest⟩ := h.of_bind
    refine (Rule.apply_gives hFirst).trans (ih hRest) fun name old mid new hOld hMid => ?_
    -- A later rule for the same field has the last word.
    cases hMid with
    | fresh hRule hName hScalar hNew =>
      cases hOld with
      | fresh _ _ hOldScalar _ => exact .fresh (List.mem_cons_of_mem _ hRule) hName hOldScalar hNew
      | kept => exact .fresh (List.mem_cons_of_mem _ hRule) hName hScalar hNew
    | kept hKept =>
      cases hOld with
      | fresh hRule hName hScalar hNew =>
        exact .fresh (List.mem_cons.mpr (.inl (List.mem_singleton.mp hRule))) hName hScalar hNew
      | kept hOld =>
        refine .kept fun other hOther hName => ?_
        rcases List.mem_cons.mp hOther with rfl | hOther
        · exact hOld _ List.mem_cons_self hName
        · exact hKept other hOther hName

/-- What becomes of the value under a name when a request identifier is written. -/
inductive Identified (name : String) : Json → Json → Prop
  | written {properties : List (String × Json)} {digits : List Char} (hName : name = "properties")
      (hDigits : Draw.IsIdentifier digits) :
      Identified name (.object properties)
        (.object (Json.insertField "request_id" (.string (String.ofList digits)) properties))
  | kept {old : Json} (h : name = "properties" → ∀ properties, old ≠ .object properties) :
      Identified name old old

theorem identified_of_gives {fields made : List (String × Json)} (h : (identify fields).Gives made) :
    Json.Fieldwise Identified fields made := by
  unfold identify at h
  split at h
  · rename_i properties hFound
    obtain ⟨digits, hDigits, h⟩ := h.of_bind
    rw [h.of_pure]
    exact .insertField hFound (.written rfl hDigits.isIdentifier)
      fun other kept hOther => .kept fun hName => absurd hName hOther
  · rename_i hOther
    rw [h.of_pure]
    refine .refl fun name value hValue => .kept fun hName properties hObject => ?_
    subst hName hObject
    exact hOther properties hValue

/-- What becomes of the value that a template has under a name. -/
inductive Turns (names : Draw String) (now : Int) (name : String) : Json → Json → Prop
  | fresh {rule : Rule} {old new : Json} (hRule : rule ∈ rules names now) (hName : rule.field = name)
      (hScalar : old.isScalar = true) (h : rule.value.Gives new) : Turns names now name old new
  | identified {properties : List (String × Json)} {digits : List Char}
      (hName : name = "properties") (hDigits : Draw.IsIdentifier digits) :
      Turns names now name (.object properties)
        (.object (Json.insertField "request_id" (.string (String.ofList digits)) properties))
  | kept {old : Json} (hKnown : name ∈ knownFields → old.isScalar = false)
      (hNested : name = "properties" → ∀ properties, old ≠ .object properties) :
      Turns names now name old old

section Turns

variable {names : Draw String} {now : Int}

theorem turns_of_gives {fields : List (String × Json)} {out : Json}
    (h : (randomizeNaming names now (.object fields)).Gives out) :
    ∃ made, out = .object made ∧ Json.Fieldwise (Turns names now) fields made := by
  obtain ⟨drawn, hDrawn, h⟩ := h.of_bind
  obtain ⟨made, hMade, h⟩ := h.of_bind
  refine ⟨made, h.of_pure, (drawn_of_foldlM hDrawn).trans (identified_of_gives hMade)
    fun name old mid new hOld hMid => ?_⟩
  cases hOld with
  | @fresh rule _ _ hRule hName hScalar hNew =>
    subst hName
    -- The properties are no known field.
    have hField : rule.field ≠ "properties" := fun hField => by
      have hMem : rule.field ∈ knownFields := fields_of_rules names now ▸ List.mem_map_of_mem hRule
      rw [hField] at hMem
      exact absurd hMem (by decide)
    cases hMid with
    | written hName _ => exact absurd hName hField
    | kept => exact .fresh hRule rfl hScalar hNew
  | kept hKept =>
    cases hMid with
    | written hName hDigits => exact .identified hName hDigits
    | kept hNested =>
      refine .kept (fun hKnown => ?_) hNested
      rw [← fields_of_rules names now] at hKnown
      obtain ⟨rule, hRule, hName⟩ := List.mem_map.mp hKnown
      exact hKept rule hRule hName

theorem eq_of_gives {template out : Json} (hOther : ∀ fields, template ≠ .object fields)
    (h : (randomizeNaming names now template).Gives out) : out = template := by
  cases template with
  | object fields => exact absurd rfl (hOther fields)
  | _ => exact h.of_pure

end Turns

end ApiLoad.Payload

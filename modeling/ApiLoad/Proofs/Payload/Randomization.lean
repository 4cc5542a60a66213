import ApiLoad.Proofs.Payload.Values

/-!
# What randomized payloads are

A payload drawn from a template is told field by field: a known field with a scalar has a fresh value
of its own kind, properties have a fresh request identifier, and everything else is as it was.
-/
set_option autoImplicit false

namespace ApiLoad.Payload

inductive Becomes (names : Draw String) (now : Int) (name : String) : Json → Json → Prop
  | fresh {old new : Json} (hScalar : old.isScalar = true) (h : Fits names.Gives now name new) :
      Becomes names now name old new
  | identified {properties : List (String × Json)} {digits : List Char}
      (hName : name = "properties") (hDigits : Draw.IsIdentifier digits) :
      Becomes names now name (.object properties)
        (.object (Json.insertField "request_id" (.string (String.ofList digits)) properties))
  | kept {old : Json} (hKnown : name ∈ knownFields → old.isScalar = false)
      (hNested : name = "properties" → ∀ properties, old ≠ .object properties) :
      Becomes names now name old old

/-- A body is a fresh payload from a template. -/
inductive Randomizes (names : Draw String) (now : Int) : Json → Json → Prop
  | object {fields made : List (String × Json)} (h : Json.Fieldwise (Becomes names now) fields made) :
      Randomizes names now (.object fields) (.object made)
  | other {template : Json} (h : ∀ fields, template ≠ .object fields) :
      Randomizes names now template template

section Turns

variable {names : Draw String} {now : Int}

theorem Becomes.of_turns {name : String} {old new : Json} (h : Turns names now name old new) :
    Becomes names now name old new := by
  cases h with
  | fresh hRule hName hScalar h =>
    subst hName
    exact .fresh hScalar (fits_of_rule (fun _ hGives => hGives) hRule h)
  | identified hName hDigits => exact .identified hName hDigits
  | kept hKnown hNested => exact .kept hKnown hNested

theorem randomizes_of_gives {template body : Json}
    (h : (randomizeNaming names now template).Gives body) : Randomizes names now template body := by
  by_cases hObject : ∃ fields, template = .object fields
  · obtain ⟨fields, rfl⟩ := hObject
    obtain ⟨made, rfl, hMade⟩ := turns_of_gives h
    exact .object (hMade.imp fun name old new => .of_turns)
  · have hOther (fields : List (String × Json)) (hFields : template = .object fields) : False :=
      hObject ⟨fields, hFields⟩
    rw [eq_of_gives hOther h]
    exact .other hOther

end Turns

end ApiLoad.Payload

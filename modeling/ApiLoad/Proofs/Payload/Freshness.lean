import ApiLoad.Proofs.Payload.Pattern
import ApiLoad.Proofs.Random.Identifier

/-!
# Identifiers of payloads

A payload is as fresh as the bytes that were drawn for its identifiers. Whatever the templates and the
sources, two request identifiers are equal exactly if their bytes agree but for the marks, and two sessions
exactly if the first four of their bytes do.
-/
set_option autoImplicit false

namespace ApiLoad.Payload

def earlier (names : Draw String) (now : Int) (field : String) : List Rule :=
  (rules names now).takeWhile (·.field ≠ field)

/-- The bytes that a randomization draws for the identifier under a field, after the draws of all rules before
that field. A request identifier is under a field of no rule, so all rules come before it. -/
def bytesFor (field : String) (names : Draw String) (now : Int) : Json → Draw (List UInt8)
  | .object fields => do
    let _ ← (earlier names now field).foldlM (fun fields (rule : Rule) => rule.apply fields) fields
    Draw.bytes 16
  | _ => failure

structure Randomization where
  names : Draw String
  now : Int
  template : Json
  source : Source
  out : Json
  rest : Source
  run_eq : (randomizeNaming names now template).run source = some (out, rest)

namespace Randomization

variable (r : Randomization)

def WritesRequest : Prop := ∃ properties, r.template.get? "properties" = some (.object properties)

def WritesSession : Prop := ∃ old, r.template.get? "session_id" = some old ∧ old.isScalar = true

def bytes? (field : String) : Option (List UInt8) :=
  (bytesFor field r.names r.now r.template).run' r.source

def request? : Option Json := (r.out.get? "properties").bind (Json.get? "request_id")

def session? : Option Json := r.out.get? "session_id"

end Randomization

section Runs

variable {names : Draw String} {now : Int} {fields made : List (String × Json)} {source s : Source}

theorem exists_run_identifier {digits : List Char} (h : Draw.identifier.run source = some (digits, s)) :
    ∃ drawn, (Draw.bytes 16).run source = some (drawn, s) ∧ drawn.length = 16 ∧
      digits = Text.Hex.ofBytes (Draw.stamp drawn) := by
  obtain ⟨drawn, between, hDrawn, hDigits⟩ := Draw.run_bind_eq_some h
  obtain ⟨rfl, rfl⟩ := Draw.run_pure_eq_some hDigits
  exact ⟨drawn, hDrawn, Draw.Gives.length_bytes ⟨source, s, hDrawn⟩, rfl⟩

/-- The name of a session has the digits of the first four bytes, on which no mark stands. -/
theorem exists_run_session {name : String} (h : session.run source = some (name, s)) :
    ∃ drawn, (Draw.bytes 16).run source = some (drawn, s) ∧ drawn.length = 16 ∧
      name = String.ofList ("sess-".toList ++ Text.Hex.ofBytes (drawn.take 4)) := by
  obtain ⟨digits, between, hDigits, hName⟩ := Draw.run_bind_eq_some h
  obtain ⟨rfl, rfl⟩ := Draw.run_pure_eq_some hName
  obtain ⟨drawn, hDrawn, hLength, rfl⟩ := exists_run_identifier hDigits
  refine ⟨drawn, hDrawn, hLength, ?_⟩
  rw [Text.Hex.take_ofBytes _ 4, Draw.take_stamp]

theorem field?_of_foldlM {rules : List Rule} {name : String}
    (h : (rules.foldlM (fun fields (rule : Rule) => rule.apply fields) fields).run source = some (made, s))
    (hName : name ∉ rules.map (·.field)) : Json.field? made name = Json.field? fields name := by
  refine (drawn_of_foldlM ⟨source, s, h⟩).field?_eq fun old new hDrawn => ?_
  cases hDrawn with
  | fresh hRule hField =>
    subst hField
    exact absurd (List.mem_map_of_mem hRule) hName
  | kept => rfl

theorem earlier_request (names : Draw String) (now : Int) :
    earlier names now "request_id" = rules names now := rfl

theorem exists_rules_eq (names : Draw String) (now : Int) : ∃ later,
    rules names now = earlier names now "session_id" ++
      ⟨"session_id", return .string (← session)⟩ :: later ∧
    "session_id" ∉ (earlier names now "session_id").map (·.field) ∧
    "session_id" ∉ later.map (·.field) := by
  refine ⟨_, rfl, ?_⟩
  simp [earlier, rules, timings]

/-- A randomization of an object is the draws of the rules and then that of the identifier. -/
theorem exists_run_rules {out : Json}
    (h : (randomizeNaming names now (.object fields)).run source = some (out, s)) :
    ∃ drawn made between,
      ((rules names now).foldlM (fun fields (rule : Rule) => rule.apply fields) fields).run source =
        some (drawn, between) ∧
      (identify drawn).run between = some (made, s) ∧ out = .object made := by
  obtain ⟨drawn, between, hRules, h⟩ := Draw.run_bind_eq_some h
  obtain ⟨made, after, hIdentify, h⟩ := Draw.run_bind_eq_some h
  obtain ⟨rfl, rfl⟩ := Draw.run_pure_eq_some h
  exact ⟨drawn, made, between, hRules, hIdentify, rfl⟩

theorem bytesFor_eq_some {field : String} {between : Source} {drawn : List UInt8}
    (h : ((earlier names now field).foldlM (fun fields (rule : Rule) => rule.apply fields) fields).run
      source = some (made, between))
    (hBytes : (Draw.bytes 16).run between = some (drawn, s)) :
    (bytesFor field names now (.object fields)).run' source = some drawn := by
  rw [StateT.run'_eq, bytesFor, StateT.run_bind, h, Option.bind_eq_bind, Option.bind_some, hBytes]
  rfl

theorem exists_identified {properties : List (String × Json)} {out : Json}
    (h : (randomizeNaming names now (.object fields)).run source = some (out, s))
    (hProperties : Json.field? fields "properties" = some (.object properties)) :
    ∃ drawn, (bytesFor "request_id" names now (.object fields)).run' source = some drawn ∧
      drawn.length = 16 ∧ (out.get? "properties").bind (Json.get? "request_id") =
        some (.string (String.ofList (Text.Hex.ofBytes (Draw.stamp drawn)))) := by
  obtain ⟨ruled, made, between, hRules, hIdentify, rfl⟩ := exists_run_rules h
  have hKept : "properties" ∉ (rules names now).map (·.field) := by
    rw [fields_of_rules]
    decide
  have hFound := (field?_of_foldlM hRules hKept).trans hProperties
  rw [identify_of_some (properties?_eq_some_iff.mpr hFound)] at hIdentify
  obtain ⟨digits, after, hDigits, hMade⟩ := Draw.run_bind_eq_some hIdentify
  obtain ⟨rfl, -⟩ := Draw.run_pure_eq_some hMade
  obtain ⟨drawn, hDrawn, hLength, rfl⟩ := exists_run_identifier hDigits
  rw [← earlier_request] at hRules
  exact ⟨drawn, bytesFor_eq_some hRules hDrawn, hLength, requestId_withIdentifier ..⟩

theorem field?_of_identify {name : String} (h : (identify fields).run source = some (made, s))
    (hName : name ≠ "properties") : Json.field? made name = Json.field? fields name := by
  refine (identified_of_gives ⟨source, s, h⟩).field?_eq fun old new hIdentified => ?_
  cases hIdentified with
  | written hProperties => exact absurd hProperties hName
  | kept => rfl

theorem exists_named {old out : Json}
    (h : (randomizeNaming names now (.object fields)).run source = some (out, s))
    (hOld : Json.field? fields "session_id" = some old) (hScalar : old.isScalar = true) :
    ∃ drawn, (bytesFor "session_id" names now (.object fields)).run' source = some drawn ∧
      drawn.length = 16 ∧ out.get? "session_id" =
        some (.string (String.ofList ("sess-".toList ++ Text.Hex.ofBytes (drawn.take 4)))) := by
  obtain ⟨ruled, made, between, hRules, hIdentify, rfl⟩ := exists_run_rules h
  obtain ⟨later, hSplit, hEarlier, hLater⟩ := exists_rules_eq names now
  rw [hSplit, List.foldlM_append] at hRules
  obtain ⟨before, first, hBefore, hRules⟩ := Draw.run_bind_eq_some hRules
  rw [List.foldlM_cons] at hRules
  obtain ⟨named, second, hNamed, hAfter⟩ := Draw.run_bind_eq_some hRules
  have hFound := (field?_of_foldlM hBefore hEarlier).trans hOld
  rw [Rule.apply_eq, if_pos (scalarAt_eq_true_iff.mpr ⟨old, hFound, hScalar⟩)] at hNamed
  obtain ⟨value, third, hValue, hNamed⟩ := Draw.run_bind_eq_some hNamed
  obtain ⟨rfl, rfl⟩ := Draw.run_pure_eq_some hNamed
  obtain ⟨name, fourth, hName, hValue⟩ := Draw.run_bind_eq_some hValue
  obtain ⟨rfl, rfl⟩ := Draw.run_pure_eq_some hValue
  obtain ⟨drawn, hDrawn, hLength, rfl⟩ := exists_run_session hName
  refine ⟨drawn, bytesFor_eq_some hBefore hDrawn, hLength, ?_⟩
  rw [Json.get?, field?_of_identify hIdentify (by decide), field?_of_foldlM hAfter hLater,
    Json.field?_insertField, if_pos rfl]

end Runs

namespace Randomization

variable {r : Randomization}

theorem exists_fields {name : String} {value : Json} (h : r.template.get? name = some value) :
    ∃ fields, r.template = .object fields ∧ Json.field? fields name = some value := by
  cases hTemplate : r.template with
  | object fields =>
    rw [hTemplate] at h
    exact ⟨fields, rfl, h⟩
  | _ =>
    rw [hTemplate] at h
    cases h

theorem WritesRequest.exists_bytes (h : r.WritesRequest) :
    ∃ drawn, r.bytes? "request_id" = some drawn ∧ drawn.length = 16 ∧
      r.request? = some (.string (String.ofList (Text.Hex.ofBytes (Draw.stamp drawn)))) := by
  obtain ⟨properties, hProperties⟩ := h
  obtain ⟨fields, hTemplate, hFound⟩ := exists_fields hProperties
  have hRun := r.run_eq
  rw [hTemplate] at hRun
  rw [bytes?, hTemplate]
  exact exists_identified hRun hFound

theorem WritesSession.exists_bytes (h : r.WritesSession) :
    ∃ drawn, r.bytes? "session_id" = some drawn ∧ drawn.length = 16 ∧
      r.session? =
        some (.string (String.ofList ("sess-".toList ++ Text.Hex.ofBytes (drawn.take 4)))) := by
  obtain ⟨old, hOld, hScalar⟩ := h
  obtain ⟨fields, hTemplate, hFound⟩ := exists_fields hOld
  have hRun := r.run_eq
  rw [hTemplate] at hRun
  rw [bytes?, hTemplate]
  exact exists_named hRun hFound hScalar

end Randomization

/-- Identifiers are as fresh as their bytes. Of two payloads, whatever their templates and sources, the request
identifiers are equal exactly if the bytes drawn for them agree but for the marks, and the sessions exactly if
the first four bytes do. So a payload has the identifier of its template only where the bytes drawn encode the
very text that stood there. -/
theorem identifiers_are_fresh (a b : Randomization) :
    (a.WritesRequest → b.WritesRequest → ∃ drawn other id id',
      a.bytes? "request_id" = some drawn ∧ b.bytes? "request_id" = some other ∧
      a.request? = some id ∧ b.request? = some id' ∧ (id = id' ↔ Draw.AgreeUnmarked drawn other)) ∧
    (a.WritesSession → b.WritesSession → ∃ drawn other id id',
      a.bytes? "session_id" = some drawn ∧ b.bytes? "session_id" = some other ∧
      a.session? = some id ∧ b.session? = some id' ∧ (id = id' ↔ drawn.take 4 = other.take 4)) ∧
    ∀ properties, a.template.get? "properties" = some (.object properties) →
      ∃ drawn, a.bytes? "request_id" = some drawn ∧
        (a.request? = Json.field? properties "request_id" ↔ ∃ text,
          Json.field? properties "request_id" = some (.string text) ∧
            Draw.Encodes drawn text.toList) := by
  refine ⟨?_, ?_, ?_⟩
  · intro ha hb
    obtain ⟨drawn, hDrawn, hLength, hId⟩ := ha.exists_bytes
    obtain ⟨other, hOther, hOtherLength, hId'⟩ := hb.exists_bytes
    refine ⟨drawn, other, _, _, hDrawn, hOther, hId, hId', ?_⟩
    rw [Json.string.injEq, String.ofList_inj, Text.Hex.ofBytes_inj,
      Draw.stamp_eq_iff hLength hOtherLength]
  · intro ha hb
    obtain ⟨drawn, hDrawn, -, hId⟩ := ha.exists_bytes
    obtain ⟨other, hOther, -, hId'⟩ := hb.exists_bytes
    refine ⟨drawn, other, _, _, hDrawn, hOther, hId, hId', ?_⟩
    rw [Json.string.injEq, String.ofList_inj, List.append_cancel_left_eq, Text.Hex.ofBytes_inj]
  · intro properties hProperties
    have hWrites : a.WritesRequest := ⟨properties, hProperties⟩
    obtain ⟨drawn, hDrawn, hLength, hId⟩ := hWrites.exists_bytes
    refine ⟨drawn, hDrawn, ?_⟩
    rw [hId]
    constructor
    · intro hSame
      exact ⟨_, hSame.symm, (Draw.encodes_iff hLength).mpr String.toList_ofList⟩
    · rintro ⟨text, hText, hEncodes⟩
      rw [hText, ← (Draw.encodes_iff hLength).mp hEncodes, String.ofList_toList]

namespace Marks

def fields : List (String × Json) :=
  [("properties", .object [("request_id", .string "00000000000040008000000000000000")]),
    ("session_id", .null)]

def run (words : Array UInt64) : Option (Json × Source) :=
  (randomizeNaming Signup.names 0 (.object fields)).run (.cyclic words)

def drawing (words : Array UInt64) (h : (run words).isSome = true) : Randomization where
  names := Signup.names
  now := 0
  template := .object fields
  source := .cyclic words
  out := ((run words).get h).1
  rest := ((run words).get h).2
  run_eq := by
    rw [Prod.mk.eta, Option.some_get]
    rfl

def zeros : Randomization := drawing #[0] (by decide +kernel)

/-- Past the first four bytes of the session and under the marks of the request identifier, some bits are set. -/
def others : Randomization :=
  drawing #[0, 0, 0, 0, 1, 0, 0, 0, 0, 0, 0, 0, 0, 0, 0, 0,
    0, 0, 0, 0, 0, 0, 0xf0, 0, 0xc0, 0, 0, 0, 0, 0, 0, 0] (by decide +kernel)

theorem writesRequest (words : Array UInt64) (h : (run words).isSome = true) :
    (drawing words h).WritesRequest :=
  ⟨_, rfl⟩

theorem writesSession (words : Array UInt64) (h : (run words).isSome = true) :
    (drawing words h).WritesSession :=
  ⟨.null, rfl, rfl⟩

end Marks

/-- Bytes that differ give one and the same identifiers, and the identifier of the template once more. -/
theorem freshness_of_marks : Marks.zeros.WritesRequest ∧ Marks.others.WritesRequest ∧
    Marks.zeros.WritesSession ∧ Marks.others.WritesSession ∧
    Marks.zeros.bytes? "request_id" ≠ Marks.others.bytes? "request_id" ∧
    Marks.zeros.request? = Marks.others.request? ∧
    Marks.zeros.bytes? "session_id" ≠ Marks.others.bytes? "session_id" ∧
    Marks.zeros.session? = Marks.others.session? ∧
    Marks.zeros.request? = some (.string "00000000000040008000000000000000") := by
  have hZeros : Marks.zeros.WritesRequest := Marks.writesRequest ..
  have hOthers : Marks.others.WritesRequest := Marks.writesRequest ..
  have hZerosSession : Marks.zeros.WritesSession := Marks.writesSession ..
  have hOthersSession : Marks.others.WritesSession := Marks.writesSession ..
  have hRequestBytes : Marks.zeros.bytes? "request_id" = some (List.replicate 16 0) ∧
      Marks.others.bytes? "request_id" =
        some [0, 0, 0, 0, 0, 0, 0xf0, 0, 0xc0, 0, 0, 0, 0, 0, 0, 0] := by decide +kernel
  have hSessionBytes : Marks.zeros.bytes? "session_id" = some (List.replicate 16 0) ∧
      Marks.others.bytes? "session_id" =
        some [0, 0, 0, 0, 1, 0, 0, 0, 0, 0, 0, 0, 0, 0, 0, 0] := by decide +kernel
  obtain ⟨hRequest, hSession, hOld⟩ := identifiers_are_fresh Marks.zeros Marks.others
  refine ⟨hZeros, hOthers, hZerosSession, hOthersSession, ?_, ?_, ?_, ?_, ?_⟩
  · rw [hRequestBytes.1, hRequestBytes.2]
    decide
  · obtain ⟨drawn, other, id, id', hDrawn, hOther, hId, hId', hIff⟩ := hRequest hZeros hOthers
    cases hRequestBytes.1.symm.trans hDrawn
    cases hRequestBytes.2.symm.trans hOther
    have hAgree : Draw.AgreeUnmarked (List.replicate 16 0)
        [0, 0, 0, 0, 0, 0, 0xf0, 0, 0xc0, 0, 0, 0, 0, 0, 0, 0] := by
      unfold Draw.AgreeUnmarked
      decide +kernel
    rw [hId, hId', hIff.mpr hAgree]
  · rw [hSessionBytes.1, hSessionBytes.2]
    decide
  · obtain ⟨drawn, other, id, id', hDrawn, hOther, hId, hId', hIff⟩ :=
      hSession hZerosSession hOthersSession
    cases hSessionBytes.1.symm.trans hDrawn
    cases hSessionBytes.2.symm.trans hOther
    rw [hId, hId', hIff.mpr rfl]
  · obtain ⟨drawn, hDrawn, hIff⟩ := hOld [("request_id", _)] rfl
    cases hRequestBytes.1.symm.trans hDrawn
    refine hIff.mpr ⟨_, rfl, ?_⟩
    exact (Draw.encodes_iff rfl).mpr (by decide +kernel)

end ApiLoad.Payload

import ApiLoad.Proofs.Number.Numeral
import ApiLoad.Proofs.Payload.Rules

/-!
# Values of randomized fields

Whatever the source, a rule draws a value of the form that its field calls for: a user under a number or a
name, a session under hexadecimal digits, a moment near the current second, a word of the vocabulary, or a
time that is not negative. So every known field that holds a scalar gets such a value, and properties get
an identifier with the marks of its version and variant.
-/
set_option autoImplicit false

namespace ApiLoad.Payload

/-- Decimal digits of the number of a user, without a zero before others. -/
structure IsUserNumber (digits : List Char) : Prop where
  decimal : ∀ c ∈ digits, c.isDigit = true
  unpadded : digits.head? ≠ some '0'
  least : 1 ≤ Decimal.valueOf digits
  most : Decimal.valueOf digits ≤ 9999

theorem isUserNumber_digitsOf {n : Nat} (hLeast : 1 ≤ n) (hMost : n ≤ numberedUsers) :
    IsUserNumber (Decimal.digitsOf n) := by
  have hValue := Decimal.valueOf_digitsOf n
  refine ⟨fun c hc => Decimal.isDigit_of_mem_digitsOf hc, ?_, by omega, hValue.trans_le hMost⟩
  obtain ⟨first, rest, hDigits, hFirst⟩ := Decimal.exists_digitsOf_eq n
  rw [hDigits]
  intro hHead
  have hZero := hFirst (Option.some.inj hHead)
  omega

/-- The values that suit a field in the second `now`, `isName` being true of the names of users. -/
inductive Fits (isName : String → Prop) (now : Int) : String → Json → Prop
  | numberedUser {digits : List Char} (h : IsUserNumber digits) :
      Fits isName now "user_id" (.string ("user_" ++ String.ofList digits))
  | namedUser {name : String} (h : isName name) : Fits isName now "user_id" (.string name)
  | session {digits : List Char} (hLength : digits.length = 8)
      (hLower : ∀ c ∈ digits, c ∈ Text.Hex.lower) :
      Fits isName now "session_id" (.string (String.ofList ("sess-".toList ++ digits)))
  | timestamp {t : Int} (hLeast : now - 60 ≤ t) (hMost : t ≤ now + 60) :
      Fits isName now "timestamp" (.ofInt t)
  | page {page : String} (h : page ∈ pages) : Fits isName now "page" (.string page)
  | element {id : String} (h : id ∈ elementIds) : Fits isName now "element_id" (.string id)
  | referrer {url : Option String} (h : url ∈ referrers) :
      Fits isName now "referrer" ((url.map Json.string).getD .null)
  | severity {severity : String} (h : severity ∈ severities) :
      Fits isName now "severity" (.string severity)
  | timing {timing : Timing} {time : Nat} (h : timing ∈ timings) (hBound : time < Counter.limit) :
      Fits isName now timing.field (.ofNat time)

theorem Fits.isScalar {isName : String → Prop} {now : Int} {name : String} {value : Json}
    (h : Fits isName now name value) : value.isScalar = true := by
  cases h with
  | referrer => rename_i url _; cases url <;> rfl
  | _ => rfl

theorem exists_of_gives_numberedUser {name : String} (h : numberedUser.Gives name) :
    ∃ digits, IsUserNumber digits ∧ name = "user_" ++ String.ofList digits := by
  obtain ⟨n, hNumber, h⟩ := h.of_bind
  have hNumber := hNumber.below_lt (by decide)
  exact ⟨_, isUserNumber_digitsOf (by omega) hNumber, h.of_pure⟩

section Rules

variable {names : Draw String} {isName : String → Prop} {now : Int}

theorem fits_user (hNames : ∀ name, names.Gives name → isName name) {name : String}
    (h : (user names).Gives name) : Fits isName now "user_id" (.string name) := by
  obtain ⟨coin, -, h⟩ := h.of_bind
  split at h
  · obtain ⟨digits, hDigits, rfl⟩ := exists_of_gives_numberedUser h
    exact .numberedUser hDigits
  · exact .namedUser (hNames name h)

theorem fits_session {name : String} (h : session.Gives name) :
    Fits isName now "session_id" (.string name) := by
  obtain ⟨digits, hDigits, h⟩ := h.of_bind
  have hDigits := hDigits.isIdentifier
  rw [h.of_pure]
  refine .session ?_ fun c hc => hDigits.lower c (List.mem_of_mem_take hc)
  rw [List.length_take, hDigits.length]
  rfl

theorem fits_timestamp {t : Int} (h : (timestamp now).Gives t) :
    Fits isName now "timestamp" (.ofInt t) := by
  obtain ⟨n, hNumber, h⟩ := h.of_bind
  have hNumber := hNumber.below_lt (by decide)
  rw [h.of_pure]
  simp only [timestampJitter] at *
  exact .timestamp (by omega) (by omega)

theorem fits_timing {timing : Timing} {time : Nat} (hTiming : timing ∈ timings)
    (h : (milliseconds timing).Gives time) : Fits isName now timing.field (.ofNat time) := by
  obtain ⟨x, -, h⟩ := h.of_bind
  refine .timing hTiming ?_
  rw [h.of_pure]
  split
  · decide
  · exact UInt64.toNat_lt _

theorem fits_of_rule (hNames : ∀ name, names.Gives name → isName name) {rule : Rule} {value : Json}
    (hRule : rule ∈ rules names now) (h : rule.value.Gives value) :
    Fits isName now rule.field value := by
  rcases List.mem_append.mp hRule with hRule | hRule
  · simp only [List.mem_cons, List.not_mem_nil, or_false] at hRule
    rcases hRule with rfl | rfl | rfl | rfl | rfl | rfl | rfl <;>
      obtain ⟨drawn, hDrawn, h⟩ := h.of_bind <;> rw [h.of_pure]
    · exact fits_user hNames hDrawn
    · exact fits_session hDrawn
    · exact fits_timestamp hDrawn
    · exact .page (hDrawn.pick_mem (by decide))
    · exact .element (hDrawn.pick_mem (by decide))
    · exact .referrer (hDrawn.pick_mem (by decide))
    · exact .severity (hDrawn.pick_mem (by decide))
  · obtain ⟨timing, hTiming, rfl⟩ := List.mem_map.mp hRule
    obtain ⟨time, hTime, h⟩ := h.of_bind
    rw [h.of_pure]
    exact fits_timing hTiming hTime

theorem isScalar_of_rule {rule : Rule} {value : Json} (hRule : rule ∈ rules names now)
    (h : rule.value.Gives value) : value.isScalar = true := by
  have hFits : Fits (fun _ => True) now rule.field value := fits_of_rule (fun _ _ => trivial) hRule h
  exact hFits.isScalar

theorem Turns.fits (hNames : ∀ name, names.Gives name → isName name) {name : String} {old new : Json}
    (h : Turns names now name old new) (hKnown : name ∈ knownFields) (hScalar : old.isScalar = true) :
    Fits isName now name new := by
  cases h with
  | fresh hRule hName _ h =>
    subst hName
    exact fits_of_rule hNames hRule h
  | identified => cases hScalar
  | kept hContainer _ => exact absurd hScalar (by simp [hContainer hKnown])

theorem Turns.isIdentified {properties : List (String × Json)} {new : Json}
    (h : Turns names now "properties" (.object properties) new) :
    ∃ digits, new.get? "request_id" = some (.string (String.ofList digits)) ∧
      Draw.IsIdentifier digits := by
  cases h with
  | fresh _ _ hScalar _ => cases hScalar
  | @identified _ digits _ hDigits =>
    refine ⟨digits, ?_, hDigits⟩
    rw [Json.get?, Json.field?_insertField, if_pos rfl]
  | kept _ hNested => exact absurd rfl (hNested rfl properties)

end Rules

/-- Every known field with a scalar gets a value that suits it, and properties get an identifier, whatever
the source. Of the names of users it is only asked that none is empty. -/
theorem randomized_fields_fit {names : Draw String} (hNames : ∀ name, names.Gives name → name ≠ "")
    {now : Int} {fields : List (String × Json)} {out : Json}
    (h : (randomizeNaming names now (.object fields)).Gives out) :
    (∀ name ∈ knownFields, ∀ old, Json.field? fields name = some old → old.isScalar = true →
      ∃ new, out.get? name = some new ∧
        Fits (fun user => names.Gives user ∧ user ≠ "") now name new) ∧
    ∀ properties, Json.field? fields "properties" = some (.object properties) →
      ∃ digits, (out.get? "properties").bind (Json.get? "request_id") =
        some (.string (String.ofList digits)) ∧ Draw.IsIdentifier digits := by
  obtain ⟨made, rfl, hMade⟩ := turns_of_gives h
  constructor
  · intro name hKnown old hFound hScalar
    obtain ⟨new, hNew, hTurns⟩ := hMade.of_some hFound
    exact ⟨new, hNew, hTurns.fits (fun user hUser => ⟨hUser, hNames user hUser⟩) hKnown hScalar⟩
  · intro properties hFound
    obtain ⟨new, hNew, hTurns⟩ := hMade.of_some hFound
    obtain ⟨digits, hRequest, hDigits⟩ := hTurns.isIdentified
    refine ⟨digits, ?_, hDigits⟩
    rw [Json.get?, hNew]
    exact hRequest

namespace Signup

def names : Draw String := Draw.pick ["ada", "alan"]

theorem ne_empty_of_gives {name : String} (h : names.Gives name) : name ≠ "" := by
  have hAll : ∀ name ∈ ["ada", "alan"], name ≠ "" := by decide
  exact hAll name (h.pick_mem (by decide))

def fields : List (String × Json) :=
  [("element_id", .bool true), ("page", .null), ("properties", .object []), ("referrer", .string "/"),
    ("session_id", .ofNat 0), ("severity", .string "info"), ("timestamp", .string "now"),
    ("user_id", .string "user_0001")]

/-- From the greatest words, so that numbers are drawn at the ends of their ranges. -/
def drawn : Json × Source :=
  ((randomizeNaming names 1000 (.object fields)).run
    (.cyclic #[0x7fffffffffffffff, 0xffffffffffffffff])).get (by decide +kernel)

theorem run_eq : (randomizeNaming names 1000 (.object fields)).run
    (.cyclic #[0x7fffffffffffffff, 0xffffffffffffffff]) = some drawn :=
  (Option.some_get _).symm

end Signup

theorem fields_of_signup : (∀ name, Signup.names.Gives name → name ≠ "") ∧
    (randomizeNaming Signup.names 1000 (.object Signup.fields)).Gives Signup.drawn.1 ∧
    (Signup.drawn.1.get? "user_id").bind Json.text? = some "user_9999" ∧
    ∀ name ∈ ["element_id", "page", "referrer", "session_id", "severity", "timestamp", "user_id"],
      ∃ new, Signup.drawn.1.get? name = some new ∧
        Fits (fun user => Signup.names.Gives user ∧ user ≠ "") 1000 name new := by
  have hGives : (randomizeNaming Signup.names 1000 (.object Signup.fields)).Gives Signup.drawn.1 :=
    .of_run Signup.run_eq
  refine ⟨fun name => Signup.ne_empty_of_gives, hGives, by decide +kernel, fun name hName => ?_⟩
  have hKnown : name ∈ knownFields := by
    revert name
    decide
  obtain ⟨old, hFound, hScalar⟩ : ∃ old, Json.field? Signup.fields name = some old ∧
      old.isScalar = true := by
    simp only [List.mem_cons, List.not_mem_nil, or_false] at hName
    rcases hName with rfl | rfl | rfl | rfl | rfl | rfl | rfl <;> exact ⟨_, rfl, rfl⟩
  exact (randomized_fields_fit (fun name => Signup.ne_empty_of_gives) hGives).1 name hKnown old hFound hScalar

end ApiLoad.Payload

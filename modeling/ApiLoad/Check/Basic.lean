import ApiLoad.Http.Exchange
import ApiLoad.Json.Reader
import ApiLoad.Text.Quoted
import ApiLoad.Transport

/-!
# Checks

A check sends one call and knows the status it must get, and perhaps a text field that the body must
hold. What goes wrong first is the failure; a wrong status is told without a look at the body.
-/
set_option autoImplicit false

namespace ApiLoad

structure ExpectedField where
  name : String
  value : String
deriving DecidableEq, Repr

structure Check where
  name : String
  method : Http.Method
  path : String
  content : Http.Content
  expectedStatus : Nat
  expectedField : Option ExpectedField := none
deriving Repr

namespace Check

inductive Failure
  | unreachable (baseUrl : String)
  | notSent (reason : Http.Failure)
  | wrongStatus (expected actual : Nat)
  | notJson
  | wrongField (expected : ExpectedField) (actual : Option String)
deriving DecidableEq, Repr

def Failure.message : Failure → String
  | .unreachable baseUrl => "could not connect to " ++ baseUrl
  | .notSent reason => reason.message
  | .wrongStatus expected actual =>
    "expected " ++ natText expected ++ ", got " ++ natText actual
  | .notJson => "response body is not JSON: " ++ Http.unreadableBody
  | .wrongField expected actual =>
    "expected " ++ expected.name ++ " " ++ Text.quoted expected.value ++ ", got " ++
      Text.quotedOption actual

def maxDepth : Nat := 127

/-- The JSON value of a body that came to its end. A body that is too deep anywhere is none, also where
a later field of the same name would take the place of what is too deep. -/
def bodyJson? : Http.Body → Option Json
  | .broken => none
  | .complete bytes => (Text.Utf8.decode? bytes).bind (Json.parseWithin? maxDepth)

def textMember? (name : String) (value : Json) : Option String := (value.get? name).bind Json.text?

def judgeField (expected : ExpectedField) (body : Http.Body) : Except Failure Unit :=
  match bodyJson? body with
  | none => .error .notJson
  | some value =>
    let actual := textMember? expected.name value
    if actual = some expected.value then .ok () else .error (.wrongField expected actual)

def judge (check : Check) (response : Http.Response) : Except Failure Unit :=
  if response.status ≠ check.expectedStatus then
    .error (.wrongStatus check.expectedStatus response.status)
  else match check.expectedField with
    | none => .ok ()
    | some expected => judgeField expected response.body

def unanswered (baseUrl : String) (reason : Http.Failure) : Failure :=
  if reason.isConnect then .unreachable baseUrl else .notSent reason

def run (check : Check) (peer : Http.Peer) (baseUrl : String) : Except Failure Unit :=
  match Http.send peer check.method (Transport.joinUrl baseUrl check.path) check.content with
  | .error reason => .error (unanswered baseUrl reason)
  | .ok response => check.judge response

end Check
end ApiLoad

import ApiLoad.Json.Basic
import ApiLoad.Http.Url

/-!
# Exchanges

A client sends a call to the URL that a text is. The peer stands for everything behind that URL: the
network, the server and the limit of time.
-/
set_option autoImplicit false

namespace ApiLoad.Http

inductive Method
  | get
  | post
  | other (name : String)
deriving DecidableEq, Repr

def Method.name : Method → String
  | .get => "GET"
  | .post => "POST"
  | .other name => name

/-- The body of a call. A raw one is sent as it is, under the type of JSON. -/
inductive Content
  | none
  | json (value : Json)
  | raw (text : String)
deriving BEq, Repr

structure Call where
  method : Method
  url : Url
  user : Option User
  content : Content
deriving Repr

inductive Body
  | complete (bytes : List UInt8)
  | broken
deriving Repr

structure Response where
  status : Nat
  body : Body
deriving Repr

/-- What a call meets: nobody who listens, an end without an answer, or a response. -/
inductive Reply
  | unreachable
  | interrupted
  | answered (response : Response)
deriving Repr

abbrev Peer := Call → Reply

inductive Failure
  | badUrl
  | unaskable (url : Url)
  | unreachable (url : Url)
  | interrupted (url : Url)
deriving DecidableEq, Repr

namespace Failure

def message : Failure → String
  | .badUrl => "builder error"
  | .unaskable url => "builder error for url (" ++ url.text ++ ")"
  | .unreachable url | .interrupted url => "error sending request for url (" ++ url.text ++ ")"

def isConnect : Failure → Bool
  | .unreachable _ => true
  | _ => false

end Failure

def prepare (method : Method) (url : String) (content : Content) : Except Failure Call :=
  match Url.parse? url with
  | none => .error .badUrl
  | some given =>
    let url := given.withoutNamedUser
    if url.canBeAsked then .ok ⟨method, url, given.namedUser?, content⟩ else .error (.unaskable url)

def conclude (url : Url) : Reply → Except Failure Response
  | .unreachable => .error (.unreachable url)
  | .interrupted => .error (.interrupted url)
  | .answered response => .ok response

/-- Sends a call. Texts that are no URL and URLs that no request can name never reach the peer. -/
def send (peer : Peer) (method : Method) (url : String) (content : Content) :
    Except Failure Response :=
  (prepare method url content).bind fun call => conclude call.url (peer call)

def unreadableBody : String := "error decoding response body"

end ApiLoad.Http

import ApiLoad.Json.Printer
import ApiLoad.Payload.Randomize
import ApiLoad.Text.Lower

/-!
# Queries

A query is a JSON-RPC 2.0 call of an aggregation method. The parameters follow from the method's name:
queries about pages and clicks may be limited to one user.
-/
set_option autoImplicit false

namespace ApiLoad

structure Query where
  method : String
  params : Json
  id : Nat
deriving BEq, Repr

namespace Query

def path : String := "/jsonrpc"

def methods : List String :=
  ["GetPageViews", "GetClicks", "GetPerformance", "GetErrors", "GetCustomEvents"]

def limits : List Nat := [10, 50, 100]

def occurs (word : List Char) : List Char → Bool
  | [] => word.isEmpty
  | c :: rest => word.isPrefixOf (c :: rest) || occurs word rest

def isUserScoped (method : String) : Bool :=
  let lower := Text.lowercase method.toList
  occurs "page".toList lower || occurs "click".toList lower

def someUser : Draw Json := do
  if ← Draw.coin then return .string (← Payload.numberedUser)
  else return .null

/-- The parameters of a query. The limit is drawn before the user. -/
def drawParams (method : String) : Draw Json := do
  let limit ← Draw.pick limits
  if isUserScoped method then do
    let user ← someUser
    pure (Json.ofFields [("user_id", user), ("limit", .ofNat limit)])
  else pure (Json.ofFields [("limit", .ofNat limit)])

def members (q : Query) : List (String × Json) :=
  [("jsonrpc", .string "2.0"), ("method", .string q.method), ("params", q.params), ("id", .ofNat q.id)]

def toJson (q : Query) : Json := Json.ofFields q.members

def text (q : Query) : String := (Json.object q.members).compact

end Query

structure CallIds where
  last : Nat := 0
deriving DecidableEq, Repr

def CallIds.next (ids : CallIds) : Nat × CallIds := (ids.last + 1, ⟨ids.last + 1⟩)

def Query.draw (ids : CallIds) : Draw (Query × CallIds) := do
  let method ← Draw.pick Query.methods
  let params ← Query.drawParams method
  let (id, ids) := ids.next
  pure (⟨method, params, id⟩, ids)

end ApiLoad

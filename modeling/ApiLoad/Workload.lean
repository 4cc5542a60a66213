import ApiLoad.Catalog.Basic
import ApiLoad.Query
import ApiLoad.Request

/-!
# Workloads

What a worker sends: randomized examples of a catalog to their own paths, queries under fresh numbers,
or given requests over and over.
-/
set_option autoImplicit false

namespace ApiLoad

inductive Workload
  | events (users : Draw String) (catalog : Catalog)
  | queries
  | replay (requests : List Request)

namespace Workload

def mode : Workload → String
  | .events _ _ => "event"
  | .queries => "rpc"
  | .replay requests => if (requests.head?.map Request.wantsBody).getD false then "rpc" else "event"

def ofExample (users : Draw String) (now : Int) (e : Example) : Draw Request := do
  let body ← Payload.randomizeNaming users now e.template
  pure ⟨e.path, body, .event⟩

def ofQuery (q : Query) : Request := ⟨Query.path, q.toJson, .query q.method q.id⟩

/-- The request of a worker after `sent` others, in the second `now`. Only queries take a number. -/
def next (now : Int) (sent : Nat) (ids : CallIds) : Workload → Draw (Request × CallIds)
  | .events users catalog => do
    let e ← catalog.choose
    let request ← ofExample users now e
    pure (request, ids)
  | .queries => do
    let (q, ids) ← Query.draw ids
    pure (ofQuery q, ids)
  | .replay requests => pure (requests.getD (sent % requests.length) default, ids)

end Workload
end ApiLoad

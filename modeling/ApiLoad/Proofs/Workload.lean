import ApiLoad.Proofs.Query
import ApiLoad.Workload

/-!
# What workloads make

A workload of events makes fresh payloads from its examples, each for the path of that very example. A
workload of queries makes calls of the service's methods, each under the number that it takes, which
stands in the body as in the purpose. It makes one from every source, where events may reject what
they draw.
-/
set_option autoImplicit false

namespace ApiLoad

namespace Request

def callId? (r : Request) : Option Nat :=
  match r.purpose with
  | .event => none
  | .query _ id => some id

structure IsQuery (r : Request) (id : Nat) : Prop where
  purpose : ∃ method, r.purpose = .query method id
  body : r.body.get? "id" = some (.ofNat id)

theorem IsQuery.callId? {r : Request} {id : Nat} (h : r.IsQuery id) : r.callId? = some id := by
  obtain ⟨method, hPurpose⟩ := h.purpose
  rw [Request.callId?, hPurpose]

/-- The request posts a payload drawn in the given second from an example's template, to the path of that
example. -/
structure IsPayload (r : Request) (users : Draw String) (second : Int) (e : Example) : Prop where
  path : r.path = e.path
  drawn : (Payload.randomizeNaming users second e.template).Gives r.body
  body : Payload.Randomizes users second e.template r.body
  purpose : r.purpose = .event

/-- The request calls a method of the service with parameters that suit it. -/
structure IsCall (r : Request) (q : Query) : Prop where
  path : r.path = "/jsonrpc"
  method : q.method ∈ Query.methods
  params : Query.Suits q.method q.params
  body : r.body = .object [("id", .ofNat q.id), ("jsonrpc", .string "2.0"),
    ("method", .string q.method), ("params", q.params)]
  purpose : r.purpose = .query q.method q.id

theorem IsPayload.wantsBody {r : Request} {users : Draw String} {second : Int} {e : Example}
    (h : r.IsPayload users second e) : r.wantsBody = false := by
  rw [Request.wantsBody, h.purpose]

theorem IsCall.wantsBody {r : Request} {q : Query} (h : r.IsCall q) : r.wantsBody = true := by
  rw [Request.wantsBody, h.purpose]

end Request

theorem Query.get?_id_toJson (q : Query) : q.toJson.get? "id" = some (.ofNat q.id) :=
  (Json.field?_insertField _ "id" "id" (.ofNat q.id)).trans (if_pos rfl)

namespace Workload

theorem isQuery_ofQuery (q : Query) : (ofQuery q).IsQuery q.id :=
  ⟨⟨q.method, rfl⟩, q.get?_id_toJson⟩

theorem next_events {users : Draw String} {catalog : Catalog} {now : Int} {sent : Nat}
    {ids ids' : CallIds} {source s : Source} {request : Request}
    (h : ((Workload.events users catalog).next now sent ids).run source = some ((request, ids'), s)) :
    request.purpose = .event ∧ ids' = ids := by
  obtain ⟨e, _, -, h⟩ := Draw.run_bind_eq_some h
  obtain ⟨made, _, hMade, h⟩ := Draw.run_bind_eq_some h
  obtain ⟨body, _, -, hMade⟩ := Draw.run_bind_eq_some hMade
  obtain ⟨rfl, -⟩ := Draw.run_pure_eq_some hMade
  obtain ⟨hPair, -⟩ := Draw.run_pure_eq_some h
  cases hPair
  exact ⟨rfl, rfl⟩

theorem next_queries {now : Int} {sent : Nat} {ids ids' : CallIds} {source s : Source}
    {request : Request}
    (h : (Workload.queries.next now sent ids).run source = some ((request, ids'), s)) :
    request.IsQuery (ids.last + 1) ∧ ids'.last = ids.last + 1 := by
  obtain ⟨⟨q, taken⟩, _, hQuery, h⟩ := Draw.run_bind_eq_some h
  obtain ⟨method, _, -, hQuery⟩ := Draw.run_bind_eq_some hQuery
  obtain ⟨params, _, -, hQuery⟩ := Draw.run_bind_eq_some hQuery
  obtain ⟨hQuery, -⟩ := Draw.run_pure_eq_some hQuery
  obtain ⟨hPair, -⟩ := Draw.run_pure_eq_some h
  cases hQuery
  cases hPair
  exact ⟨isQuery_ofQuery _, rfl⟩

theorem isCall_ofQuery {q : Query} (hMethod : q.method ∈ Query.methods)
    (hParams : Query.Suits q.method q.params) : (ofQuery q).IsCall q :=
  ⟨rfl, hMethod, hParams, q.toJson_eq, rfl⟩

/-- The requests that a workload can make in the given second. -/
def Offers (second : Int) : Workload → Request → Prop
  | .events users catalog, request => ∃ e ∈ catalog.examples, request.IsPayload users second e
  | .queries, request => ∃ q, request.IsCall q
  | .replay requests, request => requests ≠ [] → request ∈ requests

/-- The example is chosen once, for the path as for the payload. -/
theorem offers_of_next {load : Workload} {now : Int} {sent : Nat} {ids ids' : CallIds}
    {source s : Source} {request : Request}
    (h : (load.next now sent ids).run source = some ((request, ids'), s)) :
    load.Offers now request := by
  have hGives : (load.next now sent ids).Gives (request, ids') := ⟨source, s, h⟩
  cases load with
  | events users catalog =>
    obtain ⟨e, hExample, hGives⟩ := hGives.of_bind
    obtain ⟨made, hMade, hGives⟩ := hGives.of_bind
    obtain ⟨body, hBody, hMade⟩ := hMade.of_bind
    obtain rfl := hMade.of_pure
    cases hGives.of_pure
    exact ⟨e, hExample.pick_mem catalog.nonempty, rfl, hBody, Payload.randomizes_of_gives hBody, rfl⟩
  | queries =>
    obtain ⟨⟨q, taken⟩, hQuery, hGives⟩ := hGives.of_bind
    obtain ⟨method, hMethod, hQuery⟩ := hQuery.of_bind
    obtain ⟨params, hParams, hQuery⟩ := hQuery.of_bind
    cases hQuery.of_pure
    cases hGives.of_pure
    exact ⟨_, isCall_ofQuery (hMethod.pick_mem (by decide)) (Query.suits_of_gives hParams)⟩
  | replay requests =>
    intro hSome
    cases hGives.of_pure
    have hPlace := Nat.mod_lt sent (List.length_pos_iff.mpr hSome)
    rw [List.getD_eq_getElem?_getD, List.getElem?_eq_getElem hPlace]
    exact List.getElem_mem hPlace

/-- However many requests are drawn from a source, there is always a next one. -/
def Endless (load : Workload) (source : Source) : Prop :=
  ∃ reached : Source → Prop, reached source ∧ ∀ now sent ids s, reached s →
    ∃ request ids' s', (load.next now sent ids).run s = some ((request, ids'), s') ∧ reached s'

theorem Endless.next {load : Workload} {source : Source} (h : load.Endless source) (now : Int)
    (sent : Nat) (ids : CallIds) : ∃ request ids' s,
      (load.next now sent ids).run source = some ((request, ids'), s) ∧ load.Endless s := by
  obtain ⟨reached, hSource, hNext⟩ := h
  obtain ⟨request, ids', s, hRun, hReached⟩ := hNext now sent ids source hSource
  exact ⟨request, ids', s, hRun, reached, hReached, hNext⟩

theorem Endless.next_ne_none {load : Workload} {source : Source} (h : load.Endless source) (now : Int)
    (sent : Nat) (ids : CallIds) : (load.next now sent ids).run source ≠ none := by
  obtain ⟨_, _, _, hNext, -⟩ := h.next now sent ids
  rw [hNext]
  exact Option.some_ne_none _

/-- A draw has one outcome, so an endless source stays endless. -/
theorem Endless.of_next {load : Workload} {now : Int} {sent : Nat} {ids ids' : CallIds}
    {source s : Source} {request : Request} (h : load.Endless source)
    (hNext : (load.next now sent ids).run source = some ((request, ids'), s)) : load.Endless s := by
  obtain ⟨_, _, s', hRun, hEndless⟩ := h.next now sent ids
  cases hRun.symm.trans hNext
  exact hEndless

theorem endless_queries (source : Source) : Workload.queries.Endless source := by
  refine ⟨fun _ => True, trivial, fun now sent ids s _ => ?_⟩
  have hTotal : (Workload.queries.next now sent ids).Total := by
    refine ((Draw.total_pick _).bind fun method => ?_).bind fun _ => Draw.total_pure _
    exact (Query.total_drawParams method).bind fun _ => Draw.total_pure _
  obtain ⟨⟨request, ids'⟩, s', hRun⟩ := hTotal s
  exact ⟨request, ids', s', hRun, trivial⟩

end Workload
end ApiLoad

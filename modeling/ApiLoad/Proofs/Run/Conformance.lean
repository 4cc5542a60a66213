import ApiLoad.Proofs.Run.CallIds

/-!
# Conformance of traffic

Every post of a run is one that its worker was made for. An event worker posts a fresh payload of one
example to the path of the same example, a query worker posts a well-formed call to the service's one
path, and each does so under the base URL of its pool.
-/
set_option autoImplicit false

namespace ApiLoad

namespace Worker

/-- What a worker plans in one of the given seconds is on offer then, and what it posts goes under its
base URL. -/
structure Conforms (w : Worker) (seconds : Int → Prop) (events : List Event) : Prop where
  plans : ∀ request, .planned request ∈ events →
    ∃ second, seconds second ∧ w.assignment.workload.Offers second request
  posts : ∀ post, .posted post ∈ events →
    post.url = Transport.joinUrl w.assignment.baseUrl post.request.path

theorem Conforms.act {w w' : Worker} {s : Surroundings} {action : Action} {ids : CallIds}
    {seconds : Int → Prop} {events new : List Event} (h : w.Conforms seconds events)
    (hSecond : ∀ second, action = .plan second → seconds second)
    (hAct : Acts w s action w' ids new) : w'.Conforms seconds (events ++ new) := by
  constructor
  · intro request hMem
    rw [hAct.assignment]
    rcases List.mem_append.mp hMem with hMem | hMem
    · exact h.plans request hMem
    · cases hAct with
      | plan _ hNext =>
        obtain rfl := Event.planned.inj (List.mem_singleton.mp hMem)
        exact ⟨_, hSecond _ rfl, Workload.offers_of_next hNext⟩
      | _ => simp at hMem
  · intro post hMem
    rw [hAct.assignment]
    rcases List.mem_append.mp hMem with hMem | hMem
    · exact h.posts post hMem
    · cases hAct with
      | post =>
        obtain rfl := Event.posted.inj (List.mem_singleton.mp hMem)
        rfl
      | _ => simp at hMem

end Worker

namespace Orchestration

section Launched

variable {users : Draw String} {catalog : Catalog} {events queries : Pool} {source : Nat → Source}
  {client : Nat → Except Error Unit} {o o' : Orchestration} {steps : List Step}

theorem conforms_of_steps? (hLaunch : launch users catalog events queries source client = .ok o)
    (hRun : o.steps? steps = some o') {place : Nat} {w : Worker}
    (hFound : o'.run.workers[place]? = some w) :
    w.Conforms (fun second => .run (.act place (.plan second)) ∈ steps) (o'.run.eventsOf place) := by
  obtain ⟨v, hCrew, -⟩ := follows_of_steps? hLaunch hRun hFound
  have hRunSteps := steps?_ofRun hRun
  rw [(run_of_launch hLaunch).1] at hRunSteps
  obtain ⟨w', hFound', hConforms⟩ := Run.steps?_at_of_mem
    (P := fun w => w.Conforms fun second => .run (.act place (.plan second)) ∈ steps)
    (fun hMem h hAct => h.act (fun second hPlan => act_mem_of_mem_ofRun (hPlan ▸ hMem)) hAct)
    hRunSteps hCrew ⟨fun _ hMem => (nomatch hMem), fun _ hMem => (nomatch hMem)⟩
  obtain rfl : w = w' := by simpa [hFound] using hFound'
  exact hConforms

theorem offered_of_mem_postsOf (hLaunch : launch users catalog events queries source client = .ok o)
    (hRun : o.steps? steps = some o') {place : Nat} {post : Post}
    (hPost : post ∈ o'.run.postsOf place) :
    ∃ v second, (crew users catalog events queries source)[place]? = some v ∧
      .run (.act place (.plan second)) ∈ steps ∧
      v.assignment.workload.Offers second post.request ∧
      post.url = Transport.joinUrl v.assignment.baseUrl post.request.path := by
  obtain ⟨event, hEvent, hView⟩ := List.mem_filterMap.mp hPost
  obtain rfl : event = .posted post := by
    cases event <;> cases hView
    rfl
  cases hFound : o'.run.workers[place]? with
  | none => simp [(placed_of_steps? hLaunch hRun).eventsOf_of_none hFound] at hEvent
  | some w =>
    obtain ⟨v, hCrew, hAssignment, rounds, hFollows⟩ := follows_of_steps? hLaunch hRun hFound
    have hConforms := conforms_of_steps? hLaunch hRun hFound
    obtain ⟨second, hSecond, hOffers⟩ :=
      hConforms.plans _ (hFollows.course.planned_of_mem hEvent rfl)
    refine ⟨v, second, hCrew, hSecond, ?_⟩
    rw [← hAssignment]
    exact ⟨hOffers, hConforms.posts post hEvent⟩

/-- Conformance of traffic, at any moment of an orchestration. What an event worker posts is made from
one example of the catalog, path and payload alike, and its answer is not read. What a query worker
posts is a call of the service, its purpose as its body, and its answer is read. -/
theorem traffic_conforms (hLaunch : launch users catalog events queries source client = .ok o)
    (hRun : o.steps? steps = some o') :
    (∀ place < events.workers, ∀ post ∈ o'.run.postsOf place, ∃ e ∈ catalog.examples, ∃ second,
      .run (.act place (.plan second)) ∈ steps ∧
      post.url = Transport.joinUrl events.baseUrl e.path ∧
      post.request.IsPayload users second e ∧ post.request.wantsBody = false) ∧
    (∀ place ≥ events.workers, ∀ post ∈ o'.run.postsOf place, ∃ q,
      post.url = Transport.joinUrl queries.baseUrl "/jsonrpc" ∧
      post.request.IsCall q ∧ post.request.wantsBody = true) := by
  constructor <;> intro place hPlace post hPost <;>
    obtain ⟨v, second, hCrew, hSecond, hOffers, hUrl⟩ := offered_of_mem_postsOf hLaunch hRun hPost
  · rw [(assignment_of_crew hCrew).1 hPlace] at hOffers hUrl
    obtain ⟨e, hExample, hPayload⟩ := hOffers
    rw [hPayload.path] at hUrl
    exact ⟨e, hExample, second, hSecond, hUrl, hPayload, hPayload.wantsBody⟩
  · rw [(assignment_of_crew hCrew).2 hPlace] at hOffers hUrl
    obtain ⟨q, hCall⟩ := hOffers
    rw [hCall.path] at hUrl
    exact ⟨q, hUrl, hCall, hCall.wantsBody⟩

end Launched

namespace Visit

def template : Json := .object [("page", .string "/"), ("properties", .object [])]

def catalog : Catalog := ⟨[⟨"/page-views", template⟩], List.cons_ne_nil _ _⟩

def launched : Orchestration where
  run := { workers := crew Duo.users catalog Duo.pool Duo.pool fun _ => .cyclic #[0] }
  log := [startLine Duo.pool Duo.pool]

def ended : Orchestration := (launched.steps? Duo.steps).get (by decide +kernel)

theorem launch_eq : launch Duo.users catalog Duo.pool Duo.pool (fun _ => .cyclic #[0]) (fun _ => .ok ()) =
    .ok launched := rfl

theorem steps_eq : launched.steps? Duo.steps = some ended := (Option.some_get _).symm

end Visit

/-- The event worker posted the visit under its path, and the query worker called the service. -/
theorem conformance_of_visit :
    launch Duo.users Visit.catalog Duo.pool Duo.pool (fun _ => .cyclic #[0]) (fun _ => .ok ()) =
      .ok Visit.launched ∧
    Visit.launched.steps? Duo.steps = some Visit.ended ∧
    (∃ post ∈ Visit.ended.run.postsOf 0, post.url = "http://localhost/page-views" ∧
      Payload.Randomizes Duo.users 0 Visit.template post.request.body) ∧
    (∃ post ∈ Visit.ended.run.postsOf 1, post.url = "http://localhost/jsonrpc" ∧
      ∃ q, post.request.IsCall q) := by
  obtain ⟨hEvents, hQueries⟩ := traffic_conforms Visit.launch_eq Visit.steps_eq
  refine ⟨Visit.launch_eq, Visit.steps_eq, ?_, ?_⟩
  · obtain ⟨post, hPost⟩ : ∃ post, post ∈ Visit.ended.run.postsOf 0 :=
      List.exists_mem_of_length_pos (by decide +kernel)
    obtain ⟨e, hExample, second, hSecond, hUrl, hPayload, -⟩ := hEvents 0 (by decide) post hPost
    obtain rfl := List.mem_singleton.mp hExample
    obtain rfl : second = 0 := by simpa [Duo.steps, Duo.act] using hSecond
    exact ⟨post, hPost, hUrl.trans (by decide +kernel), hPayload.body⟩
  · obtain ⟨post, hPost⟩ : ∃ post, post ∈ Visit.ended.run.postsOf 1 :=
      List.exists_mem_of_length_pos (by decide +kernel)
    obtain ⟨q, hUrl, hCall, -⟩ := hQueries 1 (by decide) post hPost
    exact ⟨post, hPost, hUrl.trans (by decide +kernel), q, hCall⟩

end Orchestration
end ApiLoad

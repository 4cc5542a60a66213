import ApiLoad.Proofs.Run.Conservation
import ApiLoad.Proofs.Workload

/-!
# The numbers of calls

Workers of queries share one allocator. Whatever the order in which they plan, post and end, the
numbers are handed out from one on without a gap, each worker posts the requests it planned under
their numbers, and once all workers have stopped the target has received every number once.
-/
set_option autoImplicit false

namespace ApiLoad

namespace Event

def subject? : Event → Option Request
  | .planned request | .finished request _ => some request
  | .posted post => some post.request
  | _ => none

def callId? (event : Event) : Option Nat := event.request?.bind Request.callId?

def postedId? (event : Event) : Option Nat := event.post?.bind (·.request.callId?)

theorem callId?_eq : callId? = fun event => event.request?.bind Request.callId? := rfl

theorem postedId?_eq : postedId? = fun event => event.post?.bind (·.request.callId?) := rfl

theorem id_mem_line {event : Event} {request : Request} {id : Nat} (h : request.IsQuery id)
    (hSubject : event.subject? = some request) {worker : String} {line : Log.Entry}
    (hLine : event.line? worker = some line) : ("id", natText id) ∈ line.fields := by
  obtain ⟨method, hPurpose⟩ := h.purpose
  cases event with
  | finished finished outcome =>
    cases hSubject
    cases hLine
    cases outcome <;> simp [outcomeLine, hPurpose]
  | planned | posted => cases hLine
  | started | stopped => cases hSubject

end Event

namespace Assignment

theorem subject_of_mem_record {a : Assignment} {rounds : List Round} {event : Event}
    {request : Request} (h : event ∈ a.record rounds) (hSubject : event.subject? = some request) :
    .planned request ∈ a.record rounds := by
  rcases List.mem_cons.mp h with rfl | h
  · cases hSubject
  · obtain ⟨r, hRound, h⟩ := List.mem_flatMap.mp h
    have hRequest : r.post.request = request := by
      simp only [Round.events, List.mem_cons, List.not_mem_nil, or_false] at h
      rcases h with rfl | rfl | rfl <;> exact Option.some.inj hSubject
    exact List.mem_cons_of_mem _ (List.mem_flatMap.mpr ⟨r, hRound, by simp [Round.events, hRequest]⟩)

theorem Course.planned_of_mem {a : Assignment} {phase : Phase} {rounds : List Round}
    {events : List Event} (hCourse : a.Course phase rounds events) {event : Event} {request : Request}
    (h : event ∈ events) (hSubject : event.subject? = some request) : .planned request ∈ events := by
  induction hCourse with
  | idle => cases h
  | waiting | ticked | counted => exact subject_of_mem_record h hSubject
  | planned rounds planned =>
    rcases List.mem_append.mp h with h | h
    · exact List.mem_append_left _ (subject_of_mem_record h hSubject)
    · obtain rfl := List.mem_singleton.mp h
      cases hSubject
      simp
  | calling rounds post =>
    rcases List.mem_append.mp h with h | h
    · exact List.mem_append_left _ (subject_of_mem_record h hSubject)
    · have hRequest : post.request = request := by
        simp only [List.mem_cons, List.not_mem_nil, or_false] at h
        rcases h with rfl | rfl <;> exact Option.some.inj hSubject
      simp [hRequest]
  | stopped rounds =>
    rcases List.mem_append.mp h with h | h
    · exact List.mem_append_left _ (subject_of_mem_record h hSubject)
    · obtain rfl := List.mem_singleton.mp h
      cases hSubject
  | lost _ _ ih => exact ih h

end Assignment

/-- The requests that a workload makes on its own. -/
def Workload.Makes : Workload → Request → Prop
  | .events _ _, request => request.purpose = .event
  | .queries, request => ∃ id, request.IsQuery id
  | .replay _, _ => True

namespace Worker

def queriesSent (w : Worker) : Nat :=
  match w.assignment.workload with
  | .queries => w.sent
  | _ => 0

def Plans (w : Worker) (events : List Event) : Prop :=
  ∀ request, .planned request ∈ events → w.assignment.workload.Makes request

theorem Plans.act {w w' : Worker} {s : Surroundings} {action : Action} {ids : CallIds}
    {events new : List Event} (h : w.Plans events) (hAct : Acts w s action w' ids new) :
    w'.Plans (events ++ new) := by
  intro request hMem
  rw [hAct.assignment]
  rcases List.mem_append.mp hMem with hMem | hMem
  · exact h request hMem
  · cases hAct with
    | plan _ hNext =>
      obtain rfl := Event.planned.inj (List.mem_singleton.mp hMem)
      cases hWorkload : w.assignment.workload with
      | events users catalog =>
        rw [hWorkload] at hNext
        exact (Workload.next_events hNext).1
      | queries =>
        rw [hWorkload] at hNext
        exact ⟨_, (Workload.next_queries hNext).1⟩
      | replay requests => trivial
    | _ => simp at hMem

/-- An action takes no number or the next one, for the request that it plans. -/
theorem Acts.callIds {w w' : Worker} {s : Surroundings} {action : Action} {ids : CallIds}
    {events : List Event} (h : Acts w s action w' ids events)
    (hDraws : ∀ requests, w.assignment.workload ≠ .replay requests) :
    (events.filterMap Event.callId? = [] ∧ ids = s.ids) ∨
    (events.filterMap Event.callId? = [s.ids.last + 1] ∧ ids.last = s.ids.last + 1) := by
  cases h with
  | plan _ hNext =>
    cases hWorkload : w.assignment.workload with
    | events users catalog =>
      rw [hWorkload] at hNext
      obtain ⟨hPurpose, hIds⟩ := Workload.next_events hNext
      exact .inl ⟨by simp [Event.callId?, Event.request?, Request.callId?, hPurpose], hIds⟩
    | queries =>
      rw [hWorkload] at hNext
      obtain ⟨hQuery, hIds⟩ := Workload.next_queries hNext
      exact .inr ⟨by simp [Event.callId?, Event.request?, hQuery.callId?], hIds⟩
    | replay requests => exact absurd hWorkload (hDraws requests)
  | _ => exact .inl ⟨rfl, rfl⟩

theorem Follows.postedIds_of_stopped {w : Worker} {rounds : List Round} {events : List Event}
    (h : w.Follows rounds events) (hStopped : w.phase = .stopped) :
    events.filterMap Event.postedId? = events.filterMap Event.callId? := by
  rw [h.events_of_stopped hStopped, Event.callId?_eq, Event.postedId?_eq, ← List.filterMap_filterMap,
    ← List.filterMap_filterMap]
  simp [Event.post?, Event.request?, List.filterMap_map, List.filterMap_cons]

theorem Follows.postedIds_prefix {w : Worker} {rounds : List Round} {events : List Event}
    (h : w.Follows rounds events) :
    events.filterMap Event.postedId? <+: events.filterMap Event.callId? := by
  have hPrefix := h.course.posts_prefix.filterMap Request.callId?
  rwa [List.filterMap_map, List.filterMap_filterMap, List.filterMap_filterMap] at hPrefix

theorem Plans.of_mem_filterMap {w : Worker} {events : List Event} (h : w.Plans events)
    {request : Request} (hMem : request ∈ events.filterMap Event.request?) :
    w.assignment.workload.Makes request := by
  obtain ⟨event, hEvent, hRequest⟩ := List.mem_filterMap.mp hMem
  cases event <;> cases hRequest
  exact h request hEvent

theorem Follows.length_callIds_of_queries {w : Worker} {rounds : List Round} {events : List Event}
    (h : w.Follows rounds events) (hStopped : w.phase = .stopped) (hPlans : w.Plans events)
    (hQueries : w.assignment.workload = .queries) :
    (events.filterMap Event.callId?).length = w.sent := by
  have hRequests : (events.filterMap Event.request?).length = w.sent := by
    rw [h.events_of_stopped hStopped, h.sent]
    simp [Event.request?]
  rw [Event.callId?_eq, ← List.filterMap_filterMap, ← hRequests, List.filterMap_length_eq_length]
  intro request hMem
  have hMakes := hPlans.of_mem_filterMap hMem
  rw [hQueries] at hMakes
  obtain ⟨id, hQuery⟩ := hMakes
  simp [hQuery.callId?]

theorem Plans.callIds_of_events {w : Worker} {events : List Event} {users : Draw String} {catalog : Catalog}
    (h : w.Plans events) (hEvents : w.assignment.workload = .events users catalog) :
    events.filterMap Event.callId? = [] := by
  rw [Event.callId?_eq, ← List.filterMap_filterMap, List.filterMap_eq_nil_iff]
  intro request hMem
  have hMakes := h.of_mem_filterMap hMem
  rw [hEvents] at hMakes
  rw [Request.callId?, hMakes]

end Worker

namespace Run

/-- The numbers taken, in the order in which they were taken. -/
def callIds (r : Run) : List Nat := r.journal.filterMap (·.2.callId?)

def callIdsOf (r : Run) (place : Nat) : List Nat := (r.eventsOf place).filterMap Event.callId?

/-- The numbers that the target receives, in the order of the posts. -/
def postedIds (r : Run) : List Nat := r.journal.filterMap (·.2.postedId?)

def postedIdsOf (r : Run) (place : Nat) : List Nat := (r.eventsOf place).filterMap Event.postedId?

theorem callIdsOf_sublist (r : Run) (place : Nat) : (r.callIdsOf place).Sublist r.callIds := by
  have h : r.callIds = (r.journal.map (·.2)).filterMap Event.callId? := by
    rw [List.filterMap_map]
    rfl
  rw [h]
  exact (List.filter_sublist.map _).filterMap _

/-- All workers draw their requests, and the numbers so far are those up to the last one. -/
structure Numbered (r : Run) : Prop where
  draws : ∀ w ∈ r.workers, ∀ requests, w.assignment.workload ≠ .replay requests
  ids : r.callIds = List.range' 1 r.ids.last

theorem Numbered.step {r r' : Run} {step : Step} (h : r.Numbered) (hStep : r.step? step = some r') :
    r'.Numbered := by
  cases step with
  | elapse | cancel =>
    cases hStep
    exact ⟨h.draws, h.ids⟩
  | act place action =>
    obtain ⟨w, w', ids, events, hFound, hAct, rfl⟩ := step?_act hStep
    have hDraws := h.draws w (List.mem_of_getElem? hFound)
    refine ⟨fun v hv => ?_, ?_⟩
    · rcases List.mem_or_eq_of_mem_set hv with hv | rfl
      · exact h.draws v hv
      · rwa [hAct.assignment]
    · have hNew : (events.map fun e => (place, e)).filterMap (·.2.callId?) =
          events.filterMap Event.callId? := by rw [List.filterMap_map]; rfl
      have hIds := h.ids
      simp only [callIds] at hIds
      simp only [callIds, List.filterMap_append, hIds, hNew]
      rcases hAct.callIds hDraws with ⟨hNone, rfl⟩ | ⟨hOne, hLast⟩
      · rw [hNone, List.append_nil]
        rfl
      · rw [hOne, hLast, List.range'_1_concat, Nat.add_comm 1]
        rfl

end Run

namespace Orchestration

theorem workload_of_crew {users : Draw String} {catalog : Catalog} {events queries : Pool}
    {source : Nat → Source} {place : Nat} {w : Worker}
    (h : (crew users catalog events queries source)[place]? = some w) :
    (place < events.workers → w.assignment.workload = .events users catalog) ∧
      (events.workers ≤ place → w.assignment.workload = .queries) := by
  obtain ⟨hEvents, hQueries⟩ := assignment_of_crew h
  exact ⟨fun hPlace => by rw [hEvents hPlace], fun hPlace => by rw [hQueries hPlace]⟩

section Launched

variable {users : Draw String} {catalog : Catalog} {events queries : Pool} {source : Nat → Source}
  {client : Nat → Except Error Unit} {o o' : Orchestration} {steps : List Step}

theorem numbered (hLaunch : launch users catalog events queries source client = .ok o)
    (hRun : o.steps? steps = some o') : o'.run.Numbered := by
  obtain ⟨runSteps, hRunSteps⟩ := steps?_run hRun
  rw [(run_of_launch hLaunch).1] at hRunSteps
  refine Run.steps?_preserves (fun h hStep => h.step hStep) ⟨fun w hw requests => ?_, rfl⟩ hRunSteps
  rcases List.mem_append.mp hw with hw | hw <;>
    obtain ⟨i, -, rfl⟩ := List.mem_map.mp hw <;>
    simp

theorem plans_of_steps? (hLaunch : launch users catalog events queries source client = .ok o)
    (hRun : o.steps? steps = some o') {place : Nat} {w : Worker}
    (hFound : o'.run.workers[place]? = some w) :
    (place < events.workers → w.assignment.workload = .events users catalog) ∧
      (events.workers ≤ place → w.assignment.workload = .queries) ∧
      w.Plans (o'.run.eventsOf place) := by
  obtain ⟨v, hCrew, hAssignment, -⟩ := follows_of_steps? hLaunch hRun hFound
  have hWorkload := workload_of_crew hCrew
  rw [← hAssignment] at hWorkload
  refine ⟨hWorkload.1, hWorkload.2, ?_⟩
  obtain ⟨runSteps, hRunSteps⟩ := steps?_run hRun
  rw [(run_of_launch hLaunch).1] at hRunSteps
  obtain ⟨w', hFound', hPlans⟩ := Run.steps?_at (P := Worker.Plans) (fun h hAct => h.act hAct)
    hRunSteps hCrew (by intro request hMem; cases hMem)
  obtain rfl : w = w' := by simpa [hFound] using hFound'
  exact hPlans

theorem sum_queriesSent (hLaunch : launch users catalog events queries source client = .ok o)
    (hRun : o.steps? steps = some o') : (o'.run.workers.map Worker.queriesSent).sum =
      ((o'.run.workers.drop events.workers).map (·.sent)).sum := by
  have hNone : ((o'.run.workers.take events.workers).map Worker.queriesSent).sum = 0 := by
    refine List.sum_eq_zero_iff_forall_eq_nat.mpr fun n hn => ?_
    obtain ⟨w, hw, rfl⟩ := List.mem_map.mp hn
    obtain ⟨place, hPlace, rfl⟩ := List.mem_take_iff_getElem.mp hw
    have hPlace : place < o'.run.workers.length ∧ place < events.workers := by omega
    have hEvents := (plans_of_steps? hLaunch hRun (List.getElem?_eq_getElem hPlace.1)).1 hPlace.2
    rw [Worker.queriesSent, hEvents]
  have hAll : (o'.run.workers.drop events.workers).map Worker.queriesSent =
      (o'.run.workers.drop events.workers).map (·.sent) := by
    refine List.map_congr_left fun w hw => ?_
    obtain ⟨place, hPlace, rfl⟩ := List.mem_drop_iff_getElem.mp hw
    have hPlace : events.workers + place < o'.run.workers.length := by omega
    have hQueries := (plans_of_steps? hLaunch hRun (List.getElem?_eq_getElem hPlace)).2.1 (by omega)
    rw [Worker.queriesSent, hQueries]
  conv_lhs => rw [← List.take_append_drop events.workers o'.run.workers]
  rw [List.map_append, List.sum_append, hNone, hAll, Nat.zero_add]

theorem length_callIds (hLaunch : launch users catalog events queries source client = .ok o)
    (hRun : o.steps? steps = some o') (hStopped : ∀ w ∈ o'.run.workers, w.phase = .stopped) :
    o'.run.callIds.length = ((o'.run.workers.drop events.workers).map (·.sent)).sum := by
  have hTaken : ∀ place w, o'.run.workers[place]? = some w →
      (o'.run.callIdsOf place).length = w.queriesSent := by
    intro place w hFound
    obtain ⟨hEvents, hQueries, hPlans⟩ := plans_of_steps? hLaunch hRun hFound
    obtain ⟨-, -, -, rounds, hFollows⟩ := follows_of_steps? hLaunch hRun hFound
    rcases Nat.lt_or_ge place events.workers with hPlace | hPlace
    · rw [Worker.queriesSent, hEvents hPlace, Run.callIdsOf, hPlans.callIds_of_events (hEvents hPlace)]
      rfl
    · rw [Worker.queriesSent, hQueries hPlace]
      exact hFollows.length_callIds_of_queries (hStopped w (List.mem_of_getElem? hFound)) hPlans
        (hQueries hPlace)
  rw [← sum_queriesSent hLaunch hRun]
  exact Run.length_filterMap_journal (placed_of_steps? hLaunch hRun) Event.callId? hTaken

theorem perm_postedIds (hLaunch : launch users catalog events queries source client = .ok o)
    (hRun : o.steps? steps = some o') (hStopped : ∀ w ∈ o'.run.workers, w.phase = .stopped) :
    o'.run.postedIds.Perm o'.run.callIds := by
  have hPlaced := placed_of_steps? hLaunch hRun
  refine (Run.perm_flatMap_eventsOf hPlaced Event.postedId?).trans
    (.trans (.of_eq ?_) (Run.perm_flatMap_eventsOf hPlaced Event.callId?).symm)
  refine List.flatMap_congr fun place hPlace => ?_
  have hFound := List.getElem?_eq_getElem (List.mem_range.mp hPlace)
  obtain ⟨-, -, -, rounds, hFollows⟩ := follows_of_steps? hLaunch hRun hFound
  exact hFollows.postedIds_of_stopped (hStopped _ (List.getElem_mem _))

/-- The numbers of calls over a whole orchestration, at any moment of it. They are handed out from one
on without a gap, every worker takes them in rising order and posts under them in that order, and
what a query worker posts and logs stands under a number that it took. When all workers have stopped,
the target has received each number once, up to the sum of what the query workers sent. -/
theorem call_ids_are_gapless (hLaunch : launch users catalog events queries source client = .ok o)
    (hRun : o.steps? steps = some o') :
    o'.run.callIds = List.range' 1 o'.run.ids.last ∧
    (∀ place, (o'.run.callIdsOf place).Pairwise (· < ·) ∧
      o'.run.postedIdsOf place <+: o'.run.callIdsOf place) ∧
    (∀ place < events.workers, o'.run.callIdsOf place = []) ∧
    (∀ place ≥ events.workers, ∀ event ∈ o'.run.eventsOf place, ∀ request,
      event.subject? = some request →
      ∃ id ∈ o'.run.callIdsOf place, request.IsQuery id ∧
        ∀ worker line, event.line? worker = some line → ("id", natText id) ∈ line.fields) ∧
    ((∀ w ∈ o'.run.workers, w.phase = .stopped) →
      o'.run.ids.last = ((o'.run.workers.drop events.workers).map (·.sent)).sum ∧
      o'.run.postedIds.Perm
        (List.range' 1 ((o'.run.workers.drop events.workers).map (·.sent)).sum)) := by
  have hNumbered := (numbered hLaunch hRun).ids
  refine ⟨hNumbered, fun place => ⟨?_, ?_⟩, ?_, ?_, fun hStopped => ?_⟩
  · refine List.Pairwise.sublist (o'.run.callIdsOf_sublist place) ?_
    rw [hNumbered]
    exact List.pairwise_lt_range'
  · cases hFound : o'.run.workers[place]? with
    | none => simp [Run.postedIdsOf, (placed_of_steps? hLaunch hRun).eventsOf_of_none hFound]
    | some w =>
      obtain ⟨-, -, -, rounds, hFollows⟩ := follows_of_steps? hLaunch hRun hFound
      exact hFollows.postedIds_prefix
  · intro place hPlace
    obtain ⟨w, hFound⟩ : ∃ w, o'.run.workers[place]? = some w := by
      have hLength := length_workers hLaunch hRun
      exact ⟨_, List.getElem?_eq_getElem (by omega)⟩
    obtain ⟨hEvents, -, hPlans⟩ := plans_of_steps? hLaunch hRun hFound
    exact hPlans.callIds_of_events (hEvents hPlace)
  · intro place hPlace event hMem request hSubject
    cases hFound : o'.run.workers[place]? with
    | none => simp [(placed_of_steps? hLaunch hRun).eventsOf_of_none hFound] at hMem
    | some w =>
      obtain ⟨-, -, -, rounds, hFollows⟩ := follows_of_steps? hLaunch hRun hFound
      obtain ⟨-, hQueries, hPlans⟩ := plans_of_steps? hLaunch hRun hFound
      have hPlanned := hFollows.course.planned_of_mem hMem hSubject
      have hMakes := hPlans request hPlanned
      rw [hQueries hPlace] at hMakes
      obtain ⟨id, hQuery⟩ := hMakes
      exact ⟨id, List.mem_filterMap.mpr ⟨_, hPlanned, hQuery.callId?⟩, hQuery,
        fun worker line hLine => Event.id_mem_line hQuery hSubject hLine⟩
  · have hLength := length_callIds hLaunch hRun hStopped
    have hPerm := perm_postedIds hLaunch hRun hStopped
    rw [hNumbered, List.length_range'] at hLength
    rw [hNumbered, hLength] at hPerm
    exact ⟨hLength, hPerm⟩

end Launched

namespace Trio

def queries : Pool := { Duo.pool with workers := 2 }

def launched : Orchestration where
  run := { workers := crew Duo.users Duo.catalog Duo.pool queries fun _ => .cyclic #[0] }
  log := [startLine Duo.pool queries]

open Duo (act)

/-- The second query worker takes two numbers and posts under them between the plan and the post of the
first, which goes on to a second request. -/
def steps : List Step :=
  [act 0 .start, act 1 .start, act 2 .start, act 1 .tick, act 2 .tick, act 1 (.plan 0), act 2 (.plan 0),
    act 2 .post, act 2 (.count (.failed "")), act 2 .check, .run (.elapse 1000000000), act 2 .tick,
    act 0 .tick, act 0 (.plan 1), act 2 (.plan 1), act 0 .post, act 2 .post, act 1 .post,
    act 1 (.count (.response 200 "" none)), act 1 .check, act 1 .tick, act 1 (.plan 1), .shutdown,
    act 0 (.count (.response 200 "" none)), act 0 .check, act 1 .post, act 1 (.count (.failed "")),
    act 1 .check, act 2 (.count (.response 500 "" none)), act 2 .check, .join 2 "", .join 0 "",
    .join 1 "", .finish]

def ended : Orchestration := (launched.steps? steps).get (by decide +kernel)

def summary : Summary := ended.summary?.get (by decide +kernel)

theorem launch_eq : launch Duo.users Duo.catalog Duo.pool queries (fun _ => .cyclic #[0])
    (fun _ => .ok ()) = .ok launched := rfl

theorem steps_eq : launched.steps? steps = some ended := (Option.some_get _).symm

theorem summary_eq : ended.summary? = some summary := (Option.some_get _).symm

end Trio

/-- Two query workers took the numbers in turns, and the target received them in another order. -/
theorem call_ids_of_trio :
    launch Duo.users Duo.catalog Duo.pool Trio.queries (fun _ => .cyclic #[0]) (fun _ => .ok ()) =
      .ok Trio.launched ∧
    Trio.launched.steps? Trio.steps = some Trio.ended ∧
    (∀ w ∈ Trio.ended.run.workers, w.phase = .stopped) ∧ Trio.ended.run.callIds = [1, 2, 3, 4] ∧
    Trio.ended.run.callIdsOf 1 = [1, 4] ∧ Trio.ended.run.callIdsOf 2 = [2, 3] ∧
    Trio.ended.run.postedIds = [2, 3, 1, 4] ∧ Trio.ended.run.postedIds.Perm [1, 2, 3, 4] := by
  have hStopped :=
    (reports_of_none_lost Trio.launch_eq Trio.steps_eq Trio.summary_eq (by decide +kernel)).1
  obtain ⟨hCalls, -, -, -, hPosted⟩ := call_ids_are_gapless Trio.launch_eq Trio.steps_eq
  have hSent : ((Trio.ended.run.workers.drop Duo.pool.workers).map (·.sent)).sum = 4 := by
    decide +kernel
  obtain ⟨hLast, hPosted⟩ := hPosted hStopped
  rw [hLast, hSent] at hCalls
  rw [hSent] at hPosted
  exact ⟨Trio.launch_eq, Trio.steps_eq, hStopped, hCalls, by decide +kernel, by decide +kernel,
    by decide +kernel, hPosted⟩

end Orchestration
end ApiLoad

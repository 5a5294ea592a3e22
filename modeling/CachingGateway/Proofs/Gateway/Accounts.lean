/-
The accounts of a run. Every request that comes as far as the proxy is either served from the store and
counted as a hit, or sent to the service and counted as a miss if it is a read; its answer says which.
The counts that a run leaves are those of its requests: the denied ones, and the answered ones by method,
path and status. Two resources share a series where their label values are written alike.
-/

import CachingGateway.Proofs.Gateway.RequestCounts
import CachingGateway.Proofs.Gateway.SpecialAnswers
import CachingGateway.Proofs.Metrics.SeriesLaws
import Mathlib.Algebra.BigOperators.Group.Finset.Piecewise
import Mathlib.Order.Interval.Finset.Nat

namespace CachingGateway

/-! ### The requests of a run -/

/-- A request of a run, with the gateway that it came to. -/
structure Visit where
  gateway : Gateway
  arrival : Arrival

namespace Visit

def method (visit : Visit) : Method :=
  visit.arrival.request.method

def path (visit : Visit) : String :=
  visit.arrival.request.target.path

def outcome (visit : Visit) : Outcome :=
  (visit.arrival.exchange visit.gateway).outcome

def isDenied (visit : Visit) : Bool :=
  !visit.gateway.admits visit.arrival.identified

def status? (visit : Visit) : Option Status :=
  match visit.outcome with
  | .answered response => some response.status
  | .pending | .broken => none

theorem status?_eq_some_iff {visit : Visit} {status : Status} : visit.status? = some status ↔
    ∃ response, visit.outcome = .answered response ∧ response.status = status := by
  unfold status?
  cases visit.outcome with
  | answered response => simp
  | pending => simp
  | broken => simp

def isAnswered (visit : Visit) (method : Method) (path : String) (status : Status) : Bool :=
  visit.method = method && visit.path = path && visit.status? = some status

def byPath (visit : Visit) : Option (List String) :=
  visit.status?.map fun _ => [visit.method.name, visit.path]

def byStatus (visit : Visit) : Option (List String) :=
  visit.status?.map fun status => [visit.method.name, visit.path, status.text]

end Visit

namespace Gateway

def visit? (gateway : Gateway) : Event → Option Visit
  | .arrival arrival => some ⟨gateway, arrival⟩
  | .pause _ | .scrape _ _ _ | .sweep _ => none

def visits (gateway : Gateway) : List Event → List Visit
  | [] => []
  | event :: rest => (gateway.visit? event).toList ++ (gateway.step event).visits rest

theorem mem_visits {start : Gateway} {events : List Event} {visit : Visit}
    (member : visit ∈ start.visits events) :
    ∃ earlier later, events = earlier ++ .arrival visit.arrival :: later ∧
      visit.gateway = start.run earlier := by
  induction events generalizing start with
  | nil => cases member
  | cons event rest ih =>
      rcases List.mem_append.mp member with now | after
      · cases event with
        | arrival arrival =>
            cases List.mem_singleton.mp now
            exact ⟨[], rest, rfl, rfl⟩
        | pause length => cases now
        | scrape path method target => cases now
        | sweep idle => cases now
      · rcases ih after with ⟨earlier, later, rfl, same⟩
        exact ⟨event :: earlier, later, rfl, same⟩

theorem arrival_of_visit {start : Gateway} {events : List Event} {visit : Visit}
    (member : visit ∈ start.visits events) : .arrival visit.arrival ∈ events := by
  rcases mem_visits member with ⟨earlier, later, rfl, _⟩
  exact List.mem_append_right _ List.mem_cons_self

end Gateway

/-! ### What a run has counted -/

/-- Counts are those of some requests. -/
structure Tally (visits : List Visit) (metrics : Metrics) : Prop where
  drops : metrics.drops = visits.countP Visit.isDenied
  requests : metrics.requests.Counts id (visits.filterMap Visit.byStatus)
  durations : metrics.durations.Counts Histogram.count (visits.filterMap Visit.byStatus)
  requestSizes : metrics.requestSizes.Counts Histogram.count (visits.filterMap Visit.byPath)
  responseSizes : metrics.responseSizes.Counts Histogram.count (visits.filterMap Visit.byPath)

theorem tally_nil : Tally [] Metrics.empty where
  drops := rfl
  requests := Family.counts_empty id
  durations := Family.counts_empty Histogram.count
  requestSizes := Family.counts_empty Histogram.count
  responseSizes := Family.counts_empty Histogram.count

structure Metrics.SameAnswers (metrics counted : Metrics) : Prop where
  requests : counted.requests = metrics.requests
  durations : counted.durations = metrics.durations
  requestSizes : counted.requestSizes = metrics.requestSizes
  responseSizes : counted.responseSizes = metrics.responseSizes

namespace Gateway

variable {gateway outer : Gateway} {metrics : Metrics} {layer : CacheLayer}

theorem Fate.counted {request : Request} {origin : Origin} {inner : Exchange}
    (fate : Fate outer metrics request origin inner) (unbroken : inner.outcome ≠ .broken) :
    ∃ counted, inner.gateway.Reports counted ∧ metrics.SameAnswers counted ∧
      counted.drops = metrics.drops + if outer.admits request then 0 else 1 := by
  cases fate with
  | denied denied unasked counted =>
      refine ⟨_, counted, ⟨rfl, rfl, rfl, rfl⟩, ?_⟩
      rw [denied]
      rfl
  | broken denied unasked broke counted => exact absurd broke unbroken
  | own admitted own unasked counted =>
      refine ⟨_, counted, ⟨rfl, rfl, rfl, rfl⟩, ?_⟩
      rw [admitted]
      rfl
  | served entry reached read unasked answered counted =>
      refine ⟨_, counted, ⟨rfl, rfl, rfl, rfl⟩, ?_⟩
      rw [reached.admitted]
      rfl
  | sent reached asked answered counted =>
      refine ⟨_, counted, ?_, ?_⟩
      · unfold countSent
        split <;> exact ⟨rfl, rfl, rfl, rfl⟩
      · rw [reached.admitted]
        unfold countSent
        split <;> rfl

end Gateway

section

variable {visits : List Visit} {metrics counted : Metrics}

theorem Tally.settle (tally : Tally visits metrics) (same : metrics.SameAnswers counted)
    {visit : Visit}
    (drops : counted.drops = metrics.drops + if visit.gateway.admits visit.arrival.identified then 0
      else 1) {outcome : Outcome}
    (outcomes : visit.outcome = Gateway.finishOutcome visit.arrival.identified outcome)
    (duration : Duration) :
    Tally (visits ++ [visit]) (Gateway.settle counted visit.arrival.identified duration outcome) := by
  have dropped : counted.drops = (visits ++ [visit]).countP Visit.isDenied := by
    rw [drops, tally.drops, List.countP_append, List.countP_singleton, Visit.isDenied]
    cases visit.gateway.admits visit.arrival.identified <;> rfl
  have unanswered (none : visit.status? = none) : Tally (visits ++ [visit]) counted.leave := by
    have byStatus : visit.byStatus = .none := congrArg (Option.map _) none
    have byPath : visit.byPath = .none := congrArg (Option.map _) none
    refine ⟨dropped, ?_, ?_, ?_, ?_⟩
    all_goals rw [List.filterMap_append, List.filterMap_cons, List.filterMap_nil]
    · rw [byStatus, List.append_nil]
      exact same.requests ▸ tally.requests
    · rw [byStatus, List.append_nil]
      exact same.durations ▸ tally.durations
    · rw [byPath, List.append_nil]
      exact same.requestSizes ▸ tally.requestSizes
    · rw [byPath, List.append_nil]
      exact same.responseSizes ▸ tally.responseSizes
  cases outcome with
  | pending => exact unanswered (by rw [Visit.status?, outcomes]; rfl)
  | broken => exact unanswered (by rw [Visit.status?, outcomes]; rfl)
  | answered response =>
      have status : visit.status? = some response.status := by
        rw [Visit.status?, outcomes]
        exact congrArg some (Gateway.finish_status _ _)
      have method : visit.arrival.identified.method = visit.method := visit.arrival.identified_method
      have path : visit.arrival.identified.target.path = visit.path :=
        congrArg Target.path (RequestId.assign_target _ _)
      have byStatus : visit.byStatus =
          some [visit.method.name, visit.path, response.status.text] := by
        rw [Visit.byStatus, status, Option.map_some]
      have byPath : visit.byPath = some [visit.method.name, visit.path] := by
        rw [Visit.byPath, status, Option.map_some]
      refine ⟨dropped, ?_, ?_, ?_, ?_⟩
      all_goals rw [List.filterMap_append, List.filterMap_cons, List.filterMap_nil]
      · rw [byStatus, ← method, ← path]
        exact (same.requests ▸ tally.requests).update rfl fun _ => rfl
      · rw [byStatus, ← method, ← path]
        exact (same.durations ▸ tally.durations).update rfl fun _ => rfl
      · rw [byPath, ← method, ← path]
        exact (same.requestSizes ▸ tally.requestSizes).update rfl fun _ => rfl
      · rw [byPath, ← method, ← path]
        exact (same.responseSizes ▸ tally.responseSizes).update rfl fun _ => rfl

variable {gateway : Gateway} {layer : CacheLayer}

theorem Tally.arrival (tally : Tally visits metrics) (layered : gateway.cache = some layer)
    (reporting : gateway.Reports metrics) {arrival : Arrival}
    (unbroken : (arrival.exchange gateway).outcome ≠ .broken) :
    ∃ after, (gateway.step (.arrival arrival)).Reports after ∧
      Tally (visits ++ [⟨gateway, arrival⟩]) after := by
  rcases Gateway.arrival_fate layered reporting arrival with ⟨inner, fate, _, outcome, settled⟩
  have innerUnbroken : inner.outcome ≠ .broken := by
    intro broken
    rw [outcome, broken] at unbroken
    exact unbroken rfl
  rcases fate.counted innerUnbroken with ⟨counted, counts, same, drops⟩
  rcases settled counted counts with ⟨duration, reports⟩
  have entered : metrics.SameAnswers counted :=
    ⟨same.requests, same.durations, same.requestSizes, same.responseSizes⟩
  let visit : Visit := ⟨gateway, arrival⟩
  have dropped : counted.drops = metrics.drops +
      if visit.gateway.admits visit.arrival.identified then 0 else 1 := drops
  exact ⟨_, reports, tally.settle entered dropped outcome duration⟩

namespace Gateway

theorem layered_step (layered : gateway.cache = some layer) (event : Event) :
    ∃ next, (gateway.step event).cache = some next := by
  cases event with
  | arrival arrival =>
      rcases arrival_looked layered arrival with ⟨looked, _, cache⟩
      exact ⟨_, (settled_cache _).trans cache⟩
  | pause length => exact ⟨layer, layered⟩
  | scrape path method target => exact ⟨layer, (scrape_cache gateway path method target).trans layered⟩
  | sweep idle => exact ⟨layer, layered⟩

theorem counting_step (layered : gateway.cache = some layer) (counting : gateway.reports = true)
    (event : Event) : (gateway.step event).reports = true := by
  cases event with
  | arrival arrival =>
      rcases arrival_fate layered ⟨counting, rfl⟩ arrival with ⟨inner, fate, _, _, settled⟩
      rcases fate.reports with ⟨counted, counts⟩
      rcases settled counted counts with ⟨duration, reports⟩
      exact reports.on
  | pause length => exact counting
  | scrape path method target =>
      rw [Gateway.step, scrape_eq]
      exact counting
  | sweep idle => exact counting

theorem counting_run (layered : gateway.cache = some layer) (counting : gateway.reports = true)
    (events : List Event) : (gateway.run events).reports = true := by
  induction events generalizing gateway layer with
  | nil => exact counting
  | cons event rest ih =>
      rcases layered_step layered event with ⟨next, nextLayered⟩
      exact ih nextLayered (counting_step layered counting event)

theorem scrape_tally (reporting : gateway.Reports metrics) (tally : Tally visits metrics)
    (path : String) (method : Method) (target : Target) :
    ∃ after, (gateway.scrape path method target).1.Reports after ∧ Tally visits after := by
  have observed : ∃ after, gateway.observe.Reports after ∧ Tally visits after := by
    unfold observe
    split
    · refine ⟨_, ⟨reporting.on, rfl⟩, ?_⟩
      rw [reporting.counts]
      exact ⟨tally.drops, tally.requests, tally.durations, tally.requestSizes, tally.responseSizes⟩
    · exact ⟨metrics, reporting, tally⟩
  unfold scrape
  split
  · exact ⟨metrics, reporting, tally⟩
  · split
    · exact observed
    · exact ⟨metrics, reporting, tally⟩

/-- One step adds its request to the accounts. -/
theorem tally_step (layered : gateway.cache = some layer) (reporting : gateway.Reports metrics)
    (tally : Tally visits metrics) (event : Event)
    (unbroken : ∀ visit ∈ gateway.visit? event, visit.outcome ≠ .broken) :
    ∃ after, (gateway.step event).Reports after ∧
      Tally (visits ++ (gateway.visit? event).toList) after := by
  cases event with
  | arrival arrival => exact tally.arrival layered reporting (unbroken _ rfl)
  | pause length =>
      refine ⟨metrics, ⟨reporting.on, reporting.counts⟩, ?_⟩
      exact (List.append_nil visits).symm ▸ tally
  | scrape path method target =>
      rw [visit?, Option.toList_none, List.append_nil]
      exact scrape_tally reporting tally path method target
  | sweep idle =>
      refine ⟨metrics, ⟨reporting.on, reporting.counts⟩, ?_⟩
      exact (List.append_nil visits).symm ▸ tally

theorem tally_run (layered : gateway.cache = some layer) (reporting : gateway.Reports metrics)
    (tally : Tally visits metrics) (events : List Event)
    (unbroken : ∀ visit ∈ gateway.visits events, visit.outcome ≠ .broken) :
    ∃ after, (gateway.run events).Reports after ∧ Tally (visits ++ gateway.visits events) after := by
  induction events generalizing gateway layer metrics visits with
  | nil => exact ⟨metrics, reporting, (List.append_nil visits).symm ▸ tally⟩
  | cons event rest ih =>
      rcases layered_step layered event with ⟨next, nextLayered⟩
      have unbrokenNow : ∀ visit ∈ gateway.visit? event, visit.outcome ≠ .broken := by
        intro visit member
        exact unbroken visit (List.mem_append_left _ (Option.mem_toList.mpr member))
      rcases tally_step layered reporting tally event unbrokenNow with ⟨after, reports, counted⟩
      have unbrokenLater : ∀ visit ∈ (gateway.step event).visits rest, visit.outcome ≠ .broken := by
        intro visit member
        exact unbroken visit (List.mem_append_right _ member)
      rw [Gateway.visits, ← List.append_assoc]
      exact ih nextLayered reports counted unbrokenLater

end Gateway

end

end CachingGateway

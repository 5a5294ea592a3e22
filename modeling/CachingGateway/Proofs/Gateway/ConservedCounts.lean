/-
The counts of a gateway are conserved over its runs. Every request that comes as far as the proxy is one
hit or one question to the service, and is marked so; the drops are the denied requests; and the series
of a method, a path and a status holds the requests that were answered so. Where the label values of two
resources are written alike, their series holds the requests for both.
-/

import CachingGateway.Proofs.Gateway.Accounts
import CachingGateway.Proofs.Gateway.SpecialAnswers

namespace CachingGateway

/-! ### Hits and misses -/

namespace Family

/-- Of all reads, a family counts one more of a method at a path, and no other. -/
def CountsOneMore (before after : Family ℕ) (method : Method) (path : String) : Prop :=
  ∀ other rest, Policy.isCacheableMethod other = true →
    after.total id [other.name, rest] =
      before.total id [other.name, rest] + if other = method ∧ rest = path then 1 else 0

end Family

theorem written_of_read {method other : Method} (read : Policy.isCacheableMethod method = true)
    (otherRead : Policy.isCacheableMethod other = true) {path rest : String} :
    other.name ++ rest = method.name ++ path ↔ other = method ∧ rest = path := by
  have apart (left right : String) : "GET" ++ left ≠ "HEAD" ++ right := by
    intro same
    have characters := congrArg String.toList same
    simp at characters
  have named (reading : Method) (reads : Policy.isCacheableMethod reading = true) :
      reading = Method.get ∨ reading = Method.head := by
    simpa [Policy.isCacheableMethod] using reads
  constructor
  · intro same
    rcases named method read with rfl | rfl
    · rcases named other otherRead with rfl | rfl
      · exact ⟨rfl, (String.append_right_inj "GET").mp same⟩
      · exact absurd same.symm (apart path rest)
    · rcases named other otherRead with rfl | rfl
      · exact absurd same (apart rest path)
      · exact ⟨rfl, (String.append_right_inj "HEAD").mp same⟩
  · rintro ⟨rfl, rfl⟩
    rfl

theorem Family.update_countsOneMore (family : Family ℕ) {method : Method}
    (read : Policy.isCacheableMethod method = true) (path : String) :
    family.CountsOneMore (family.update [method.name, path] 0 (· + 1)) method path := by
  intro other rest otherRead
  have unused : id 0 = 0 := rfl
  have more (count : ℕ) : id (count + 1) = id count + 1 := rfl
  rw [total_update unused more, join_byPath, join_byPath]
  simp only [written_of_read read otherRead]

/-- A request is served from the store and counted as one hit. -/
structure Arrival.IsHit (arrival : Arrival) (gateway : Gateway) : Prop where
  unasked : (arrival.exchange gateway).asked = none
  hits : gateway.metrics.hits.CountsOneMore (gateway.step (.arrival arrival)).metrics.hits
    arrival.request.method arrival.request.target.path
  misses : (gateway.step (.arrival arrival)).metrics.misses = gateway.metrics.misses
  marked : ∀ response, (arrival.exchange gateway).outcome = .answered response →
    response.headers.values Replay.cacheMark = [Replay.hit]

structure Arrival.IsMiss (arrival : Arrival) (gateway : Gateway) : Prop where
  asked : (arrival.exchange gateway).asked = some arrival.identified
  hits : (gateway.step (.arrival arrival)).metrics.hits = gateway.metrics.hits
  read : Policy.isCacheableMethod arrival.request.method = true →
    gateway.metrics.misses.CountsOneMore (gateway.step (.arrival arrival)).metrics.misses
      arrival.request.method arrival.request.target.path
  unread : Policy.isCacheableMethod arrival.request.method = false →
    (gateway.step (.arrival arrival)).metrics.misses = gateway.metrics.misses
  marked : ∀ response, (arrival.exchange gateway).outcome = .answered response →
    response.headers.values Replay.cacheMark = [Replay.miss]

theorem Arrival.IsHit.not_isMiss {arrival : Arrival} {gateway : Gateway} (hit : arrival.IsHit gateway) :
    ¬arrival.IsMiss gateway := by
  intro miss
  cases hit.unasked.symm.trans miss.asked

structure Arrival.IsNeither (arrival : Arrival) (gateway : Gateway) : Prop where
  unasked : (arrival.exchange gateway).asked = none
  hits : (gateway.step (.arrival arrival)).metrics.hits = gateway.metrics.hits
  misses : (gateway.step (.arrival arrival)).metrics.misses = gateway.metrics.misses

namespace Gateway

variable {gateway : Gateway} {metrics : Metrics} {layer : CacheLayer}

theorem settle_hits (counted : Metrics) (request : Request) (duration : Duration)
    (outcome : Outcome) : (settle counted request duration outcome).hits = counted.hits := by
  cases outcome <;> rfl

theorem settle_misses (counted : Metrics) (request : Request) (duration : Duration)
    (outcome : Outcome) : (settle counted request duration outcome).misses = counted.misses := by
  cases outcome <;> rfl

/-- What a request adds to hits and misses by its fate. -/
theorem arrival_kind (layered : gateway.cache = some layer) (counting : gateway.reports = true)
    (arrival : Arrival) :
    (gateway.Reaches arrival.identified ∧
        (arrival.IsHit gateway ∨ arrival.IsMiss gateway)) ∨
      (¬gateway.Reaches arrival.identified ∧ arrival.IsNeither gateway) := by
  rcases arrival_fate layered ⟨counting, rfl⟩ arrival with ⟨inner, fate, asked, outcome, settled⟩
  have after {counted : Metrics} (counts : inner.gateway.Reports counted) :
      (gateway.step (.arrival arrival)).metrics.hits = counted.hits ∧
        (gateway.step (.arrival arrival)).metrics.misses = counted.misses := by
    rcases settled counted counts with ⟨duration, reports⟩
    rw [reports.counts, settle_hits, settle_misses]
    exact ⟨rfl, rfl⟩
  have method := arrival.identified_method
  have path : arrival.identified.target.path = arrival.request.target.path :=
    congrArg Target.path (RequestId.assign_target _ _)
  have finished {response : Response} {mark : Octets} (reached : gateway.Reaches arrival.identified)
      (plain : ∀ answer, inner.outcome = .answered answer →
        answer.headers.values Replay.cacheMark = [mark])
      (answered : (arrival.exchange gateway).outcome = .answered response) :
      response.headers.values Replay.cacheMark = [mark] := by
    rcases finishOutcome_eq_answered_iff.mp (outcome.symm.trans answered) with ⟨answer, same, rfl⟩
    rw [finish_values reached.proxied _ (by decide) (by decide)]
    exact plain answer same
  cases fate with
  | denied denied unasked counted =>
      right
      refine ⟨fun reached => ?_, asked.trans unasked, (after counted).1, (after counted).2⟩
      rw [reached.admitted] at denied
      cases denied
  | broken denied unasked broke counted =>
      right
      refine ⟨fun reached => ?_, asked.trans unasked, (after counted).1, (after counted).2⟩
      rw [reached.admitted] at denied
      cases denied
  | own admitted own unasked counted =>
      right
      exact ⟨fun reached => own reached.proxied, asked.trans unasked, (after counted).1,
        (after counted).2⟩
  | served entry reached read unasked answered counted =>
      refine Or.inl ⟨reached, Or.inl ⟨asked.trans unasked, ?_, (after counted).2, ?_⟩⟩
      · rw [(after counted).1, ← path, ← method]
        exact gateway.metrics.hits.update_countsOneMore read _
      · intro response
        refine finished reached ?_
        intro answer same
        cases answered.symm.trans same
        exact Replay.answer_values entry arrival.identified
  | sent reached sent answered counted =>
      refine Or.inl ⟨reached, Or.inr ⟨asked.trans sent, ?_, ?_, ?_, ?_⟩⟩
      · rw [(after counted).1, countSent]
        split <;> rfl
      · intro read
        rw [← method] at read
        rw [(after counted).2, countSent, if_pos read, ← path, ← method]
        exact gateway.metrics.misses.update_countsOneMore read _
      · intro unread
        rw [← method] at unread
        rw [(after counted).2, countSent, unread, if_neg Bool.false_ne_true]
        rfl
      · intro response
        refine finished reached ?_
        intro answer same
        exact OriginAnswer.proxied_values (answered.symm.trans same)

end Gateway

/-! ### Requests and responses that were read from connections -/

structure Arrival.IsRead (arrival : Arrival) : Prop where
  method : arrival.request.method.IsRead
  target : ∃ text, Target.ofText? text = some arrival.request.target
  statuses : ∀ asked response, (arrival.origin asked).answer = .response response →
    response.status.IsRead

theorem Gateway.ownStatus_isRead {status : Status} (own : status ∈ Gateway.ownStatuses) :
    status.IsRead := by
  have all : ∀ status ∈ Gateway.ownStatuses, 100 ≤ status.code ∧ status.code ≤ 999 := by decide
  exact Status.isRead_iff.mpr (all status own)

section

variable {start : Gateway} {maxSize : UInt64} {lifetime : Duration} {varyHeaders : List String}

theorem Arrival.answered_isRead
    (unused : start.cache = some ⟨Store.empty maxSize, lifetime, varyHeaders⟩) {events : List Event}
    (read : ∀ source, .arrival source ∈ events → source.IsRead) {arrival : Arrival}
    (readNow : arrival.IsRead) {response : Response}
    (answered : (arrival.exchange (start.run events)).outcome = .answered response) :
    response.status.IsRead := by
  by_cases own : response.status ∈ Gateway.ownStatuses
  · exact Gateway.ownStatus_isRead own
  by_cases confirmed : response.status = .notModified
  · rw [confirmed]
    rfl
  rcases Gateway.traced_run unused events with ⟨layer, traced⟩
  have unconfirmed : response.status = .notModified →
      arrival.request.headers.contains Replay.ifNoneMatch = false :=
    fun same => absurd same confirmed
  rcases Arrival.answered_status traced.layered own unconfirmed answered with
    ⟨reply, replied, same⟩ | ⟨entry, found, _, same, _⟩
  · rw [← same]
    exact readNow.statuses _ _ replied
  · rcases traced.look found with ⟨deposit, last, _, rfl, _⟩
    rcases last.arrival unused with ⟨earlier, source, later, split, made, _⟩
    have within : .arrival source ∈ events := by
      rw [split]
      exact List.mem_append_right _ List.mem_cons_self
    rw [← same]
    exact (read source within).statuses _ _ made.replied

theorem Gateway.visit_status_isRead
    (unused : start.cache = some ⟨Store.empty maxSize, lifetime, varyHeaders⟩) {events : List Event}
    (read : ∀ arrival, .arrival arrival ∈ events → arrival.IsRead) {visit : Visit}
    (member : visit ∈ start.visits events) {status : Status}
    (answered : visit.status? = some status) : status.IsRead := by
  have readNow := read visit.arrival (arrival_of_visit member)
  rcases mem_visits member with ⟨earlier, later, rfl, same⟩
  rcases Visit.status?_eq_some_iff.mp answered with ⟨response, outcome, rfl⟩
  rw [Visit.outcome, same] at outcome
  have readEarlier : ∀ source, .arrival source ∈ earlier → source.IsRead :=
    fun source within => read source (List.mem_append_left _ within)
  exact Arrival.answered_isRead unused readEarlier readNow outcome

theorem Gateway.visit_kind
    (unused : start.cache = some ⟨Store.empty maxSize, lifetime, varyHeaders⟩) {metrics : Metrics}
    (counting : start.Reports metrics) {events : List Event} {visit : Visit}
    (member : visit ∈ start.visits events) :
    (visit.gateway.Reaches visit.arrival.identified →
        Xor (visit.arrival.IsHit visit.gateway) (visit.arrival.IsMiss visit.gateway)) ∧
      (¬visit.gateway.Reaches visit.arrival.identified → visit.arrival.IsNeither visit.gateway) := by
  rcases mem_visits member with ⟨earlier, later, _, same⟩
  rcases traced_run unused earlier with ⟨layer, traced⟩
  have layered : visit.gateway.cache = some layer := same ▸ traced.layered
  have reporting : visit.gateway.reports = true := by
    rw [same]
    exact counting_run unused counting.on earlier
  rcases arrival_kind layered reporting visit.arrival with ⟨reached, hit | miss⟩ | ⟨apart, neither⟩
  · exact ⟨fun _ => Or.inl ⟨hit, hit.not_isMiss⟩, fun apart => absurd reached apart⟩
  · exact ⟨fun _ => Or.inr ⟨miss, fun hit => hit.not_isMiss miss⟩, fun apart => absurd reached apart⟩
  · exact ⟨fun reached => absurd reached apart, fun _ => neither⟩

end

/-! ### Sums of counts -/

section

variable {element : Type} {all first second : element → Bool}

theorem countP_split {elements : List element}
    (parts : ∀ member ∈ elements, all member = (first member || second member))
    (apart : ∀ member ∈ elements, first member = true → second member = false) :
    elements.countP all = elements.countP first + elements.countP second := by
  induction elements with
  | nil => rfl
  | cons member rest ih =>
      have restParts := ih (fun other within => parts other (List.mem_cons_of_mem _ within))
        fun other within => apart other (List.mem_cons_of_mem _ within)
      have here := parts member List.mem_cons_self
      have apartHere := apart member List.mem_cons_self
      rw [List.countP_cons, List.countP_cons, List.countP_cons, restParts, here]
      cases taken : first member with
      | true =>
          rw [apartHere taken]
          simp only [Bool.or_false, if_true, Bool.false_eq_true, if_false]
          omega
      | false =>
          simp only [Bool.false_or, Bool.false_eq_true, if_false]
          omega

theorem sum_countP_eq {elements : List element} {number : element → ℕ} {numbers : Finset ℕ}
    (within : ∀ member ∈ elements, all member = true → number member ∈ numbers) :
    ∑ value ∈ numbers, elements.countP (fun member => all member && number member == value) =
      elements.countP all := by
  induction elements with
  | nil => simp
  | cons member rest ih =>
      have restSum := ih fun other inside => within other (List.mem_cons_of_mem _ inside)
      simp only [List.countP_cons, Finset.sum_add_distrib, restSum]
      congr 1
      cases taken : all member with
      | false => simp
      | true =>
          have inside := within member List.mem_cons_self taken
          simp [inside]

end

/-! ### The series of a tally -/

/-- The label values of a request are written like a method and a path. -/
def Visit.isWritten (visit : Visit) (method : Method) (path : String) : Bool :=
  visit.method.name ++ visit.path = method.name ++ path

section

variable {value : Type} {family : Family value} {measure : value → ℕ} {visits : List Visit}
variable (method : Method) (path : String) {status : Status}

theorem Family.Counts.total_byPath
    (counts : family.Counts measure (visits.filterMap Visit.byPath)) :
    family.total measure [method.name, path] =
      visits.countP fun visit => visit.isWritten method path && visit.status?.isSome := by
  rw [counts, List.count_eq_countP, List.countP_map, List.countP_filterMap]
  refine List.countP_congr fun visit _ => ?_
  rw [Visit.byPath]
  cases visit.status? with
  | none => simp
  | some answered => simp [Visit.isWritten]

variable (read : ∀ visit ∈ visits, ∀ status, visit.status? = some status → status.IsRead)

include read

theorem Family.Counts.total_byStatus
    (counts : family.Counts measure (visits.filterMap Visit.byStatus)) (statusRead : status.IsRead) :
    family.total measure [method.name, path, status.text] =
      visits.countP fun visit => visit.isWritten method path && visit.status? = some status := by
  rw [counts, List.count_eq_countP, List.countP_map, List.countP_filterMap]
  refine List.countP_congr fun visit member => ?_
  rw [Visit.byStatus]
  cases answered : visit.status? with
  | none => simp
  | some given =>
      have written := written_byStatus_iff (read visit member given answered) statusRead
        visit.method.name visit.path method.name path
      simpa [Visit.isWritten] using written

/-- The series of a method and a path are those of their statuses taken together. -/
theorem Tally.sum_requests {metrics : Metrics} (tally : Tally visits metrics) :
    ∑ code ∈ Finset.Icc 100 999,
        metrics.requests.total id [method.name, path, (Status.mk code).text] =
      visits.countP fun visit => visit.isWritten method path && visit.status?.isSome := by
  let code (visit : Visit) : ℕ := (visit.status?.map Status.code).getD 0
  have within : ∀ visit ∈ visits, (visit.isWritten method path && visit.status?.isSome) = true →
      code visit ∈ Finset.Icc 100 999 := by
    intro visit member counted
    rcases Option.isSome_iff_exists.mp (Bool.and_eq_true_iff.mp counted).2 with ⟨given, answered⟩
    have digits := Status.isRead_iff.mp (read visit member given answered)
    simpa [code, answered] using digits
  rw [← sum_countP_eq within]
  refine Finset.sum_congr rfl fun sought inside => ?_
  have soughtRead : (Status.mk sought).IsRead := Status.isRead_iff.mpr (Finset.mem_Icc.mp inside)
  rw [tally.requests.total_byStatus method path read soughtRead]
  refine List.countP_congr fun visit _ => ?_
  cases answered : visit.status? with
  | none => simp
  | some given =>
      cases given
      simp [code, answered]

end

/-- Where the label values are those of requests, a series holds the requests that were answered so, and
those of the other resource that is written alike, if there is one. -/
theorem countP_written {visits : List Visit} (read : ∀ visit ∈ visits, visit.arrival.IsRead)
    {method : Method} (methodRead : method.IsRead) {path : String} (isPath : Target.IsPath path)
    (status : Status) :
    visits.countP (fun visit => visit.isWritten method path && visit.status? = some status) =
      visits.countP (·.isAnswered method path status) +
        ((twin? method path).map fun twin =>
          visits.countP (·.isAnswered twin.1 twin.2 status)).getD 0 := by
  have written (visit : Visit) (member : visit ∈ visits) : visit.isWritten method path = true ↔
      (visit.method = method ∧ visit.path = path) ∨
        twin? method path = some (visit.method, visit.path) := by
    rcases (read visit member).target with ⟨text, target⟩
    rw [Visit.isWritten, decide_eq_true_iff]
    exact written_byPath_iff methodRead (read visit member).method isPath
      (Target.isPath_of_ofText? target)
  cases twin : twin? method path with
  | none =>
      rw [Option.map_none, Option.getD_none, Nat.add_zero]
      refine List.countP_congr fun visit member => ?_
      have single := written visit member
      rw [twin] at single
      simp only [Visit.isAnswered, Bool.and_eq_true, decide_eq_true_iff, single, reduceCtorEq,
        or_false]
  | some other =>
      rcases other with ⟨otherMethod, otherPath⟩
      rw [Option.map_some, Option.getD_some]
      refine countP_split ?_ ?_
      · intro visit member
        have either := written visit member
        rw [twin, Option.some.injEq, Prod.mk.injEq] at either
        rw [Bool.eq_iff_iff]
        simp only [Visit.isAnswered, Bool.or_eq_true, Bool.and_eq_true, decide_eq_true_iff, either]
        constructor
        · rintro ⟨⟨same, sameToo⟩ | ⟨same, sameToo⟩, answered⟩
          · exact Or.inl ⟨⟨same, sameToo⟩, answered⟩
          · exact Or.inr ⟨⟨same.symm, sameToo.symm⟩, answered⟩
        · rintro (⟨same, answered⟩ | ⟨⟨same, sameToo⟩, answered⟩)
          · exact ⟨Or.inl same, answered⟩
          · exact ⟨Or.inr ⟨same.symm, sameToo.symm⟩, answered⟩
      · intro visit _ answered
        refine Bool.eq_false_iff.mpr fun answeredToo => ?_
        simp only [Visit.isAnswered, Bool.and_eq_true, decide_eq_true_iff] at answered answeredToo
        exact twin_path_ne twin (answeredToo.1.2.symm.trans answered.1.2)

/-- Over every run of requests that were read from connections, on none of which the gateway fails: a
request that comes as far as the proxy is one hit or one miss, and any other is neither; the drops are
the denied requests; the series of a method, a path and a status holds the requests that were answered
so, in the same number as their durations, and besides only those of the resource that is written alike;
and the series of all statuses together are as many as the sizes. -/
theorem counts_conserved (start : Gateway) (maxSize : UInt64) (lifetime : Duration)
    (varyHeaders : List String)
    (unused : start.cache = some ⟨Store.empty maxSize, lifetime, varyHeaders⟩)
    (counting : start.Reports Metrics.empty) (events : List Event)
    (read : ∀ arrival, .arrival arrival ∈ events → arrival.IsRead)
    (unbroken : ∀ visit ∈ start.visits events, visit.outcome ≠ .broken) :
    let visits := start.visits events
    let metrics := (start.run events).metrics
    (∀ visit ∈ visits,
      (visit.gateway.Reaches visit.arrival.identified →
        Xor (visit.arrival.IsHit visit.gateway) (visit.arrival.IsMiss visit.gateway)) ∧
      (¬visit.gateway.Reaches visit.arrival.identified → visit.arrival.IsNeither visit.gateway)) ∧
    metrics.drops = visits.countP Visit.isDenied ∧
    (∀ method path status, method.IsRead → Target.IsPath path → status.IsRead →
      metrics.requests.total id [method.name, path, status.text] =
        visits.countP (·.isAnswered method path status) +
          ((twin? method path).map fun twin =>
            visits.countP (·.isAnswered twin.1 twin.2 status)).getD 0 ∧
      metrics.durations.total Histogram.count [method.name, path, status.text] =
        metrics.requests.total id [method.name, path, status.text]) ∧
    ∀ (method : Method) (path : String),
      metrics.requestSizes.total Histogram.count [method.name, path] =
        ∑ code ∈ Finset.Icc 100 999,
          metrics.requests.total id [method.name, path, (Status.mk code).text] ∧
      metrics.responseSizes.total Histogram.count [method.name, path] =
        ∑ code ∈ Finset.Icc 100 999,
          metrics.requests.total id [method.name, path, (Status.mk code).text] := by
  intro visits metrics
  rcases Gateway.tally_run unused counting tally_nil events unbroken with ⟨after, reports, tally⟩
  rw [List.nil_append, ← reports.counts] at tally
  have readVisits : ∀ visit ∈ visits, visit.arrival.IsRead :=
    fun visit member => read visit.arrival (Gateway.arrival_of_visit member)
  have statuses : ∀ visit ∈ visits, ∀ status, visit.status? = some status → status.IsRead :=
    fun visit member _ answered => Gateway.visit_status_isRead unused read member answered
  refine ⟨?_, tally.drops, ?_, ?_⟩
  · intro visit member
    exact Gateway.visit_kind unused counting member
  · intro method path status methodRead isPath statusRead
    have requests := tally.requests.total_byStatus method path statuses statusRead
    have durations := tally.durations.total_byStatus method path statuses statusRead
    exact ⟨requests.trans (countP_written readVisits methodRead isPath status),
      durations.trans requests.symm⟩
  · intro method path
    have sum := tally.sum_requests method path statuses
    exact ⟨(tally.requestSizes.total_byPath method path).trans sum.symm,
      (tally.responseSizes.total_byPath method path).trans sum.symm⟩

/-! ### A run of three requests -/

def countingGateway : Gateway :=
  { emptyGateway with
    admission := some ⟨Limiter.start ⟨.finite 1, 2⟩, .address⟩
    reports := true }

def starVisit : Arrival :=
  { greeted with request := ⟨⟨"X"⟩, ⟨none, "", "*", none⟩, Headers.empty, [], none⟩ }

def authorityVisit : Arrival :=
  { greeted with request := ⟨⟨"X*"⟩, ⟨none, "a", "", none⟩, Headers.empty, [], none⟩ }

def threeVisits : List Event :=
  [.arrival starVisit, .arrival authorityVisit, .arrival greeted]

theorem threeVisits_read (arrival : Arrival) (member : .arrival arrival ∈ threeVisits) :
    arrival.IsRead := by
  have statuses (asked : Request) (response : Response)
      (answered : (greeted.origin asked).answer = .response response) : response.status.IsRead := by
    cases answered
    rfl
  simp only [threeVisits, List.mem_cons, Event.arrival.injEq, List.not_mem_nil, or_false] at member
  rcases member with rfl | rfl | rfl
  · exact ⟨by unfold Method.IsRead; decide +kernel, ⟨"*", by decide +kernel⟩, statuses⟩
  · exact ⟨by unfold Method.IsRead; decide +kernel, ⟨"a", by decide +kernel⟩, statuses⟩
  · exact ⟨by unfold Method.IsRead; decide +kernel, ⟨"/", by decide +kernel⟩, statuses⟩

theorem threeVisits_unbroken :
    ∀ visit ∈ countingGateway.visits threeVisits, visit.outcome ≠ .broken := by
  decide +kernel

theorem threeVisits_counted :
    countingGateway.Reports Metrics.empty ∧
      (∀ arrival, .arrival arrival ∈ threeVisits → arrival.IsRead) ∧
      (∀ visit ∈ countingGateway.visits threeVisits, visit.outcome ≠ .broken) ∧
      Xor (starVisit.IsHit countingGateway) (starVisit.IsMiss countingGateway) ∧
      (countingGateway.run threeVisits).metrics.drops = 1 ∧
      (countingGateway.run threeVisits).metrics.requests.total id ["GET", "/", "429"] = 1 ∧
      (countingGateway.run threeVisits).metrics.requests.total id ["X", "*", "200"] = 1 + 1 := by
  have counting : countingGateway.Reports Metrics.empty := ⟨rfl, rfl⟩
  obtain ⟨kinds, drops, series, _⟩ := counts_conserved countingGateway 1000 (Duration.ofSeconds 60) []
    rfl counting threeVisits threeVisits_read threeVisits_unbroken
  have greetedRead : Method.get.IsRead := by
    unfold Method.IsRead
    decide +kernel
  have starRead : Method.IsRead ⟨"X"⟩ := by
    unfold Method.IsRead
    decide +kernel
  have greetings := (series Method.get "/" ⟨429⟩ greetedRead (.rooted "") rfl).1
  have stars := (series ⟨"X"⟩ "*" .ok starRead .everything rfl).1
  refine ⟨counting, threeVisits_read, threeVisits_unbroken, ?_, ?_, ?_, ?_⟩
  · refine (kinds ⟨countingGateway, starVisit⟩ List.mem_cons_self).1 ⟨?_, ?_⟩
    · decide +kernel
    · decide
  · rw [drops]
    decide +kernel
  · refine greetings.trans ?_
    decide +kernel
  · refine stars.trans ?_
    decide +kernel

/-- One request with a method for everything and one with another method for an authority are counted
as two of the first. -/
theorem threeVisits_share_series :
    (∀ arrival, .arrival arrival ∈ threeVisits → arrival.IsRead) ∧
      (∀ visit ∈ countingGateway.visits threeVisits, visit.outcome ≠ .broken) ∧
      (countingGateway.run threeVisits).metrics.requests.total id ["X", "*", "200"] = 2 ∧
      (countingGateway.visits threeVisits).countP (·.isAnswered ⟨"X"⟩ "*" .ok) = 1 := by
  refine ⟨threeVisits_read, threeVisits_unbroken, ?_, ?_⟩
  · decide +kernel
  · decide +kernel

end CachingGateway

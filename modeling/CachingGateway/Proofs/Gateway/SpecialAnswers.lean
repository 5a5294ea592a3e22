/-
Answers that only some requests ask for: confirmations and parts. A service may be trusted to give them
only to those that ask, but the store keeps them like other responses, under keys that do not tell who
asked. So a plain request can get one, as the replay of what an earlier request with its key was given;
it gets none in any other way.
-/

import CachingGateway.Proofs.Gateway.Outcomes

namespace CachingGateway

def Status.partialContent : Status := ⟨206⟩

namespace Request

def ifModifiedSince : HeaderName := HeaderName.ofLiteral "if-modified-since"
def range : HeaderName := HeaderName.ofLiteral "range"

/-- The client holds a response already and asks whether it still stands. -/
def isConditional (request : Request) : Bool :=
  request.headers.contains Replay.ifNoneMatch || request.headers.contains ifModifiedSince

def isRanged (request : Request) : Bool :=
  request.headers.contains range

end Request

theorem Replay.namedTag?_of_untagged {headers : Headers}
    (untagged : headers.contains Replay.ifNoneMatch = false) : Replay.namedTag? headers = none := by
  have missing := (headers.first?_eq_none_iff Replay.ifNoneMatch).mpr untagged
  rw [Replay.namedTag?, Headers.firstText?, missing]
  rfl

theorem Replay.answer_status (entry : Entry) (request : Request) :
    (Replay.answer entry request).status = entry.status ∨
      ((Replay.answer entry request).status = .notModified ∧
        Replay.namedTag? request.headers ≠ none) := by
  rw [Replay.answer]
  split
  · rename_i named
    right
    refine ⟨rfl, ?_⟩
    rw [named]
    exact Option.some_ne_none _
  · exact Or.inl rfl

namespace Arrival

/-- The service answers a request with a status only if the request asks for it. -/
def GivenOnlyTo (arrival : Arrival) (status : Status) (asks : Request → Bool) : Prop :=
  ∀ response, (arrival.origin arrival.identified).answer = .response response →
    response.status = status → asks arrival.request = true

def Discerning (arrival : Arrival) : Prop :=
  arrival.GivenOnlyTo .notModified Request.isConditional ∧
    arrival.GivenOnlyTo .partialContent Request.isRanged

/-- An answer of a status is the replay of the last response that was stored under the key of the
request. An earlier request had been given it that asked for such an answer. -/
def ReplaysOther (arrival : Arrival) (start : Gateway) (varyHeaders : List String)
    (events : List Event) (response : Response) (status : Status) (asks : Request → Bool) : Prop :=
  arrival.AnsweredFromStore (start.run events) response ∧
    ∃ earlier source later deposit, events = earlier ++ .arrival source :: later ∧
      source.Deposits (start.run earlier) deposit ∧
      deposit.key = CacheKey.ofRequest source.identified varyHeaders ∧
      deposit.key = CacheKey.ofRequest arrival.identified varyHeaders ∧
      (∀ other ∈ (start.run (earlier ++ [.arrival source])).deposits later,
        other.key ≠ deposit.key) ∧
      response = Gateway.finish arrival.identified (deposit.answer arrival.identified) ∧
      deposit.response.status = status ∧ asks source.request = true

/-! ### Where a status comes from -/

/-- A status that the gateway does not give by itself comes from the service, now or when the response
was stored. -/
theorem answered_status {gateway : Gateway} {layer : CacheLayer} (layered : gateway.cache = some layer)
    {arrival : Arrival} {response : Response} (foreign : response.status ∉ Gateway.ownStatuses)
    (unconfirmed : response.status = .notModified →
      arrival.request.headers.contains Replay.ifNoneMatch = false)
    (answered : (arrival.exchange gateway).outcome = .answered response) :
    (∃ reply, (arrival.origin arrival.identified).answer = .response reply ∧
        reply.status = response.status) ∨
      ∃ entry, (layer.look gateway.clock.wall arrival.identified).1 = some entry ∧
        response = Gateway.finish arrival.identified (Replay.answer entry arrival.identified) ∧
        entry.status = response.status ∧ arrival.AnsweredFromStore gateway response := by
  by_cases reached : gateway.Reaches arrival.identified
  · rcases Gateway.reached_outcome layered reached with ⟨entry, found, unasked, outcome⟩ |
      ⟨_, _, outcome⟩
    · right
      cases outcome.symm.trans answered
      rw [Gateway.finish_status] at unconfirmed ⊢
      refine ⟨entry, found, rfl, ?_, ⟨reached, unasked, answered⟩⟩
      -- The gateway confirms by itself only to a request that names the tag of the entry.
      rcases Replay.answer_status entry arrival.identified with same | ⟨confirmed, named⟩
      · exact same.symm
      · have untagged := unconfirmed confirmed
        rw [← arrival.identified_contains (by decide)] at untagged
        exact absurd (Replay.namedTag?_of_untagged untagged) named
    · left
      cases replied : (arrival.origin arrival.identified).answer with
      | silence =>
          rw [replied] at outcome
          cases outcome.symm.trans answered
      | failure error =>
          rw [replied] at outcome
          cases outcome.symm.trans answered
          rw [Gateway.finish_status] at foreign
          exact absurd (Gateway.error_status_mem error) foreign
      | response reply =>
          rw [replied] at outcome
          cases outcome.symm.trans answered
          refine ⟨reply, rfl, ?_⟩
          rw [Gateway.finish_status]
          rfl
  · have apart : ¬(gateway.record Metrics.enter).Reaches arrival.identified := by
      rw [Gateway.reaches_record]
      exact reached
    rw [Gateway.exchange_outcome] at answered
    obtain ⟨plain, inner, rfl⟩ := Gateway.finishOutcome_eq_answered_iff.mp answered
    rw [Gateway.finish_status] at foreign
    exact absurd (Gateway.passLimiter_status apart inner) foreign

variable {start : Gateway} {maxSize : UInt64} {lifetime : Duration} {varyHeaders : List String}

theorem replaysOther_of_status
    (unused : start.cache = some ⟨Store.empty maxSize, lifetime, varyHeaders⟩) {status : Status}
    (foreign : status ∉ Gateway.ownStatuses) {asks : Request → Bool} {events : List Event}
    (given : ∀ source, .arrival source ∈ events → source.GivenOnlyTo status asks)
    {arrival : Arrival} (givenNow : arrival.GivenOnlyTo status asks)
    (plain : asks arrival.request = false)
    (unconfirmed : status = .notModified →
      arrival.request.headers.contains Replay.ifNoneMatch = false)
    {response : Response} (special : response.status = status)
    (answered : (arrival.exchange (start.run events)).outcome = .answered response) :
    arrival.ReplaysOther start varyHeaders events response status asks := by
  obtain ⟨layer, traced⟩ := Gateway.traced_run unused events
  rw [← special] at foreign unconfirmed
  rcases answered_status traced.layered foreign unconfirmed answered with
    ⟨reply, replied, same⟩ | ⟨entry, found, replay, same, served⟩
  · have asked := givenNow reply replied (same.trans special)
    rw [plain] at asked
    cases asked
  · obtain ⟨deposit, last, keyed, rfl, _⟩ := traced.look found
    obtain ⟨earlier, source, later, split, made, named, none⟩ := last.arrival unused
    have stored : deposit.response.status = status := same.trans special
    have within : .arrival source ∈ events := by
      rw [split]
      exact List.mem_append_right _ List.mem_cons_self
    have asked := given source within deposit.response made.replied stored
    rw [deposit.answer_entry] at replay
    exact ⟨served, earlier, source, later, deposit, split, made, named, keyed, none, replay, stored,
      asked⟩

end Arrival

/-- If the service confirms only to those that ask and sends parts only to those that ask, then whoever
gets such an answer unasked gets the replay of one that another request had asked for. -/
theorem special_answer_is_replayed (start : Gateway) (maxSize : UInt64) (lifetime : Duration)
    (varyHeaders : List String)
    (unused : start.cache = some ⟨Store.empty maxSize, lifetime, varyHeaders⟩) (events : List Event)
    (discerning : ∀ source, .arrival source ∈ events → source.Discerning) (arrival : Arrival)
    (discerningNow : arrival.Discerning) (response : Response)
    (answered : (arrival.exchange (start.run events)).outcome = .answered response) :
    (response.status = .notModified → arrival.request.isConditional = false →
        arrival.ReplaysOther start varyHeaders events response .notModified Request.isConditional) ∧
      (response.status = .partialContent → arrival.request.isRanged = false →
        arrival.ReplaysOther start varyHeaders events response .partialContent Request.isRanged) := by
  constructor
  · intro confirmed plain
    have untagged := (Bool.or_eq_false_iff.mp plain).1
    have given : ∀ source, .arrival source ∈ events →
        source.GivenOnlyTo .notModified Request.isConditional := by
      intro source member
      exact (discerning source member).1
    exact Arrival.replaysOther_of_status unused (by decide) given discerningNow.1 plain
      (fun _ => untagged) confirmed answered
  · intro part plain
    have given : ∀ source, .arrival source ∈ events →
        source.GivenOnlyTo .partialContent Request.isRanged := by
      intro source member
      exact (discerning source member).2
    have other : Status.partialContent ≠ Status.notModified := by decide
    exact Arrival.replaysOther_of_status unused (by decide) given discerningNow.2 plain
      (fun same => absurd same other) part answered

/-! ### A plain request that gets a confirmation -/

def confirmingOrigin : Origin := fun request =>
  ⟨Duration.zero, .response ⟨if request.isConditional then .notModified else .ok, Headers.empty, []⟩⟩

theorem discerning_of_confirmingOrigin {arrival : Arrival}
    (origin : arrival.origin = confirmingOrigin) : arrival.Discerning := by
  have asks : arrival.identified.isConditional = arrival.request.isConditional := by
    rw [Request.isConditional, Request.isConditional, arrival.identified_contains (by decide),
      arrival.identified_contains (by decide)]
  have replies : (arrival.origin arrival.identified).answer = .response
      ⟨if arrival.request.isConditional then .notModified else .ok, Headers.empty, []⟩ := by
    rw [origin, ← asks]
    rfl
  constructor
  · intro response replied confirmed
    rw [replies] at replied
    cases replied
    cases conditional : arrival.request.isConditional with
    | true => rfl
    | false =>
        rw [conditional] at confirmed
        cases confirmed
  · intro response replied part
    rw [replies] at replied
    cases replied
    cases conditional : arrival.request.isConditional with
    | true =>
        rw [conditional] at part
        cases part
    | false =>
        rw [conditional] at part
        cases part

def revalidation : Arrival :=
  { fresh := []
    request := ⟨Method.get, ⟨none, "", "/", none⟩,
      Headers.empty.append Replay.ifNoneMatch (Octets.ofText "\"v1\""), [], none⟩
    origin := confirmingOrigin }

def plainVisit : Arrival :=
  { revalidation with request := ⟨Method.get, ⟨none, "", "/", none⟩, Headers.empty, [], none⟩ }

private theorem plainVisit_confirmed : ∃ response,
    (plainVisit.exchange (emptyGateway.run [.arrival revalidation])).outcome = .answered response ∧
      response.status = .notModified := by
  let deposit : Deposit :=
    { key := CacheKey.ofRequest revalidation.identified []
      response := ⟨.notModified, Headers.empty, []⟩
      moment := ⟨0⟩ }
  let entry := deposit.entry (Duration.ofSeconds 60)
  let layer : CacheLayer :=
    ⟨(Store.empty 1000).set deposit.key entry, Duration.ofSeconds 60, []⟩
  have layered : (emptyGateway.run [.arrival revalidation]).cache = some layer := rfl
  have keyed : layer.key? plainVisit.identified = some deposit.key := rfl
  have held : layer.store.entries.find? deposit.key = some entry :=
    Store.find?_set_of_fitting (by decide)
  have living : (emptyGateway.run [.arrival revalidation]).clock.wall.milliseconds <
      entry.expiresAt := by
    decide
  have reached : (emptyGateway.run [.arrival revalidation]).Reaches plainVisit.identified :=
    { admitted := rfl
      proxied := by decide }
  have served := Arrival.answeredFromStore_of_held reached layered keyed held living
  refine ⟨_, served.answered, ?_⟩
  rw [Gateway.finish_status, Replay.answer]
  split <;> rfl

theorem plain_request_gets_confirmation :
    emptyGateway.cache = some ⟨Store.empty 1000, Duration.ofSeconds 60, []⟩ ∧
      revalidation.Discerning ∧ plainVisit.Discerning ∧
      plainVisit.request.isConditional = false ∧
      ∃ response, (plainVisit.exchange (emptyGateway.run [.arrival revalidation])).outcome =
          .answered response ∧ response.status = .notModified :=
  ⟨rfl, discerning_of_confirmingOrigin rfl, discerning_of_confirmingOrigin rfl, rfl,
    plainVisit_confirmed⟩

theorem special_answer_is_replayed_to_plainVisit :
    ∃ response, (plainVisit.exchange (emptyGateway.run [.arrival revalidation])).outcome =
        .answered response ∧ response.status = .notModified ∧
      plainVisit.ReplaysOther emptyGateway [] [.arrival revalidation] response .notModified
        Request.isConditional := by
  obtain ⟨response, answered, confirmed⟩ := plainVisit_confirmed
  have discerning : ∀ source, .arrival source ∈ [Event.arrival revalidation] →
      source.Discerning := by
    intro source member
    cases List.mem_singleton.mp member
    exact discerning_of_confirmingOrigin rfl
  have replayed := special_answer_is_replayed emptyGateway 1000 (Duration.ofSeconds 60) [] rfl
    [.arrival revalidation] discerning plainVisit (discerning_of_confirmingOrigin rfl) response answered
  exact ⟨response, answered, confirmed, replayed.1 confirmed rfl⟩

end CachingGateway

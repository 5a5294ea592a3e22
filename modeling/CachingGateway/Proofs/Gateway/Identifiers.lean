/-
The identifiers of answers. A request is given an identifier on its way in, and its answer gets the same
one on its way out if it has none by then. A response of the service is passed on with the identifiers
that it brings, and it is stored with them. So a client gets the identifier of its own request unless
it is answered with such a response, and from the store it may get that of an earlier request.
-/

import CachingGateway.Proofs.Gateway.Outcomes

namespace CachingGateway

def Response.identifiers (response : Response) : List Octets :=
  response.headers.values RequestId.header

/-- Nothing is stored yet. -/
def Gateway.Unused (gateway : Gateway) : Prop :=
  ∀ layer, gateway.cache = some layer → ∃ maxSize, layer.store = Store.empty maxSize

theorem Gateway.unused_ofSettings (settings : Settings) (clock : Clock) :
    (ofSettings settings clock).Unused := by
  intro layer layered
  unfold ofSettings at layered
  dsimp only at layered
  split at layered
  · cases layered
    exact ⟨_, rfl⟩
  · cases layered

namespace Arrival

/-- The identifier that a request sent, or else the one that it is given. -/
def identifier (arrival : Arrival) : Octets :=
  (arrival.request.headers.first? RequestId.header).getD arrival.fresh

/-- A response of the service is passed on to a request that comes in after a run: the service gives it
now, or it was the last one stored under the key of the request and is replayed whole. -/
inductive Relays (arrival : Arrival) (start : Gateway) (events : List Event) : Response → Prop where
  | given {reply : Response}
      (asked : (arrival.exchange (start.run events)).asked = some arrival.identified)
      (replied : (arrival.origin arrival.identified).answer = .response reply) :
      Relays arrival start events reply
  | stored {deposit : Deposit} {response : Response}
      (served : arrival.AnsweredFromStore (start.run events) response)
      (last : start.LastDeposit events deposit)
      (keyed : (start.run events).key? arrival.identified = some deposit.key)
      (whole : arrival.identified.headers.firstText? Replay.ifNoneMatch ≠ some deposit.tag.toList) :
      Relays arrival start events deposit.response

end Arrival

/-! ### Identifiers on the way in and out -/

theorem Arrival.identified_first? (arrival : Arrival) :
    arrival.identified.headers.first? RequestId.header = some arrival.identifier := by
  unfold identified RequestId.assign identifier
  cases own : arrival.request.headers.contains RequestId.header with
  | true =>
      cases first : arrival.request.headers.first? RequestId.header with
      | none =>
          have absent := (Headers.first?_eq_none_iff _ _).mp first
          cases own.symm.trans absent
      | some identifier => simp only [if_true, first, Option.getD_some]
  | false =>
      have missing := (Headers.first?_eq_none_iff _ _).mpr own
      simp only [Bool.false_eq_true, if_false, missing, Option.getD_none]
      exact Headers.first?_append_of_absent _ _ own

section

variable {request : Request} {identifier : Octets}
  (own : request.headers.first? RequestId.header = some identifier)

include own

theorem RequestId.propagate_identifiers (response : Response) :
    (propagate request response).identifiers =
      if response.identifiers = [] then [identifier] else response.identifiers := by
  have absent := response.headers.values_eq_nil_iff header
  unfold propagate Response.identifiers
  cases brought : response.headers.contains header with
  | true =>
      rw [brought] at absent
      simp only [if_true, absent, Bool.true_eq_false, if_false]
  | false =>
      have none := absent.mpr brought
      simp only [Bool.false_eq_true, if_false, own, none, if_true, Headers.values_append_self,
        List.nil_append]

theorem Gateway.finish_identifiers (response : Response) :
    (finish request response).identifiers =
      if response.identifiers = [] then [identifier] else response.identifiers := by
  rw [← RequestId.propagate_identifiers own]
  exact finish_propagated request response (by decide) (by decide)

end

/-! ### Identifiers of responses -/

theorem GatewayError.response_identifiers (error : GatewayError) : error.response.identifiers = [] := by
  have typed : (Headers.empty.append contentType (Octets.ofText "application/json")).values
      RequestId.header = [] := Headers.values_append_of_ne _ _ (by decide)
  cases error with
  | rateLimited seconds => exact (Headers.values_append_of_ne _ _ (by decide)).trans typed
  | configuration text => exact typed
  | originTimeout => exact typed
  | origin text => exact typed
  | io text => exact typed
  | metrics text => exact typed

theorem Gateway.ownResponse_identifiers (path : String) (method : Method) (now : WallClock) :
    (ownResponse path method now).identifiers = [] := by
  unfold ownResponse
  split
  · exact Headers.values_append_of_ne _ _ (by decide)
  · rfl

theorem Replay.tag_identifiers (headers : Headers) (etag : String) :
    (tag headers etag).values RequestId.header = headers.values RequestId.header := by
  unfold tag
  split
  · rfl
  · exact headers.values_replace_of_ne _ (by decide)

theorem Replay.markMiss_identifiers (response : Response) :
    (markMiss response).identifiers = response.identifiers :=
  response.headers.values_replace_of_ne _ (by decide)

theorem Replay.markHit_identifiers (headers : Headers) (entry : Entry) :
    (markHit headers entry).values RequestId.header = headers.values RequestId.header := by
  rw [markHit, tag_identifiers]
  exact headers.values_replace_of_ne _ (by decide)

theorem Replay.answer_identifiers (entry : Entry) (request : Request) :
    (answer entry request).identifiers =
      if namedTag? request.headers = some entry.etag then []
      else entry.headers.values RequestId.header := by
  unfold answer Response.identifiers
  split
  · exact markHit_identifiers Headers.empty entry
  · exact markHit_identifiers entry.headers entry

namespace Gateway

theorem receive_identifiers (gateway : Gateway) (request : Request) (key : Option String)
    (response : Response) :
    (gateway.receive request key response).2.identifiers = response.identifiers := by
  have marked := Replay.markMiss_identifiers response
  unfold receive
  split
  · rfl
  · dsimp only
    split
    · exact marked
    · split
      · exact (Replay.tag_identifiers _ _).trans marked
      · exact marked

theorem receiveFailure_identifiers (gateway : Gateway) (error : GatewayError) :
    (gateway.receiveFailure error).identifiers = [] := by
  have plain := error.response_identifiers
  unfold receiveFailure
  split
  · exact (Replay.markMiss_identifiers _).trans plain
  · exact plain

theorem hear_identifiers {gateway : Gateway} {request : Request} {key : Option String}
    {answer : OriginAnswer} {plain : Response}
    (heard : (gateway.hear request key answer).2 = .answered plain) :
    (∃ reply, answer = .response reply ∧ plain.identifiers = reply.identifiers) ∨
      ((∀ reply, answer ≠ .response reply) ∧ plain.identifiers = []) := by
  cases answer with
  | silence => cases heard
  | failure error =>
      cases heard
      exact Or.inr ⟨nofun, gateway.receiveFailure_identifiers error⟩
  | response reply =>
      cases heard
      exact Or.inl ⟨reply, rfl, gateway.receive_identifiers request key reply⟩

/-! ### Gateways without a store -/

theorem hear_unlayered {gateway : Gateway} (unlayered : gateway.cache = none) (request : Request)
    (key : Option String) (answer : OriginAnswer) : (gateway.hear request key answer).1.cache = none := by
  cases answer with
  | silence => exact unlayered
  | failure error => exact unlayered
  | response response =>
      simp only [hear, receive, unlayered]

theorem step_unlayered {gateway : Gateway} (unlayered : gateway.cache = none) (event : Event) :
    (gateway.step event).cache = none := by
  cases event with
  | arrival arrival =>
      obtain ⟨inner, passage, _, _, cache⟩ := gateway.exchange_passage arrival
      refine ((settled_cache _).trans cache).trans ?_
      cases passage with
      | aside apart unasked untouched => exact untouched.trans unlayered
      | replayed layer entry reached layered found unasked answered looked =>
          cases unlayered.symm.trans layered
      | @sent waiting reached absent looked sameClock =>
          rw [unlayered] at looked
          let reply := arrival.origin arrival.identified
          have waited : (waiting.advance reply.delay).cache = none := looked
          exact hear_unlayered waited arrival.identified _ reply.answer
  | pause length => exact unlayered
  | scrape path method target => exact (scrape_cache gateway path method target).trans unlayered
  | sweep idle => exact unlayered

theorem run_unlayered {start : Gateway} (unlayered : start.cache = none) (events : List Event) :
    (start.run events).cache = none := by
  induction events generalizing start with
  | nil => exact unlayered
  | cons event rest ih => exact ih (step_unlayered unlayered event)

theorem Unused.traced {start : Gateway} (unused : start.Unused) {events : List Event}
    {layer : CacheLayer} (layered : (start.run events).cache = some layer) :
    ∃ lifetime varyHeaders, start.Traced lifetime varyHeaders events layer := by
  cases held : start.cache with
  | none => cases (run_unlayered held events).symm.trans layered
  | some first =>
      obtain ⟨maxSize, empty⟩ := unused first held
      have begun : start.cache =
          some ⟨Store.empty maxSize, first.defaultLifetime, first.varyHeaders⟩ := by
        rw [held, ← empty]
      obtain ⟨other, traced⟩ := traced_run begun events
      cases traced.layered.symm.trans layered
      exact ⟨_, _, traced⟩

theorem Unused.look {start : Gateway} (unused : start.Unused) {events : List Event}
    {layer : CacheLayer} (layered : (start.run events).cache = some layer) {request : Request}
    {entry : Entry} (found : (layer.look (start.run events).clock.wall request).1 = some entry) :
    ∃ deposit lifetime, start.LastDeposit events deposit ∧ entry = deposit.entry lifetime ∧
      (start.run events).key? request = some deposit.key := by
  obtain ⟨lifetime, varyHeaders, traced⟩ := unused.traced layered
  obtain ⟨deposit, last, named, made, _⟩ := traced.look found
  refine ⟨deposit, _, last, made, ?_⟩
  rw [key?, layered, Option.bind_some]
  refine CacheLayer.key?_eq_some_iff.mpr ⟨CacheLayer.read_of_found found, ?_⟩
  rw [traced.sameVary, named]

end Gateway

/-! ### The identifier of an answer -/

namespace Arrival

variable {arrival : Arrival} {start : Gateway} {events : List Event}

theorem not_relays_of_apart (apart : ¬(start.run events).Reaches arrival.identified)
    (passed : Response) : ¬arrival.Relays start events passed := by
  obtain ⟨inner, passage, asked, _, _⟩ := (start.run events).exchange_passage arrival
  have unasked : inner.asked = none := by
    cases passage with
    | aside _ unasked _ => exact unasked
    | replayed _ _ reached => exact absurd reached apart
    | sent reached => exact absurd reached apart
  intro relays
  cases relays with
  | given sent _ => cases (asked.trans unasked).symm.trans sent
  | stored served => exact apart served.reached

theorem Relays.unique {left right : Response} (leftRelays : arrival.Relays start events left)
    (rightRelays : arrival.Relays start events right) : left = right := by
  cases leftRelays with
  | given asked replied =>
      cases rightRelays with
      | given _ repliedToo =>
          cases replied.symm.trans repliedToo
          rfl
      | stored served => cases served.unasked.symm.trans asked
  | stored served last keyed whole =>
      cases rightRelays with
      | given asked _ => cases served.unasked.symm.trans asked
      | stored _ lastToo keyedToo _ =>
          have sameKey := Option.some.inj (keyed.symm.trans keyedToo)
          rw [last.unique lastToo sameKey]

/-- An answer from the store has the identifiers of the deposit that it replays, or it confirms and has
none. -/
theorem replay_relays (unused : start.Unused) {response : Response}
    (served : arrival.AnsweredFromStore (start.run events) response) {layer : CacheLayer}
    (layered : (start.run events).cache = some layer) {entry : Entry}
    (found : (layer.look (start.run events).clock.wall arrival.identified).1 = some entry) :
    ((Replay.answer entry arrival.identified).identifiers = [] ∧
        ∀ passed, ¬arrival.Relays start events passed) ∨
      ∃ passed, arrival.Relays start events passed ∧
        (Replay.answer entry arrival.identified).identifiers = passed.identifiers := by
  obtain ⟨deposit, lifetime, last, rfl, keyed⟩ := unused.look layered found
  have named := deposit.namedTag?_eq_iff arrival.identified.headers
  rw [Replay.answer_identifiers]
  by_cases confirmed :
      arrival.identified.headers.firstText? Replay.ifNoneMatch = some deposit.tag.toList
  · left
    refine ⟨if_pos (named.mpr confirmed), ?_⟩
    intro passed relays
    cases relays with
    | given asked _ => cases served.unasked.symm.trans asked
    | stored _ lastToo keyedToo whole =>
        have sameKey := Option.some.inj (keyed.symm.trans keyedToo)
        cases last.unique lastToo sameKey
        exact whole confirmed
  · right
    refine ⟨deposit.response, .stored served last keyed confirmed, ?_⟩
    exact if_neg fun same => confirmed (named.mp same)

/-- Behind an answer stands a response that is passed on with its identifiers, or else the answer has
none until it leaves the gateway. -/
theorem answer_relays (unused : start.Unused) {response : Response}
    (answered : (arrival.exchange (start.run events)).outcome = .answered response) :
    ∃ plain, response = Gateway.finish arrival.identified plain ∧
      ((plain.identifiers = [] ∧ ∀ passed, ¬arrival.Relays start events passed) ∨
        ∃ passed, arrival.Relays start events passed ∧ plain.identifiers = passed.identifiers) := by
  by_cases reached : (start.run events).Reaches arrival.identified
  · obtain ⟨inner, passage, asked, outcome, _⟩ := (start.run events).exchange_passage arrival
    obtain ⟨plain, inside, rfl⟩ :=
      Gateway.finishOutcome_eq_answered_iff.mp (outcome.symm.trans answered)
    refine ⟨plain, rfl, ?_⟩
    cases passage with
    | aside apart _ _ => exact absurd reached apart
    | replayed layer entry _ layered found unasked replayed _ =>
        cases replayed.symm.trans inside
        exact replay_relays unused ⟨reached, asked.trans unasked, answered⟩ layered found
    | sent _ _ _ _ =>
        rcases Gateway.hear_identifiers inside with ⟨reply, replied, same⟩ | ⟨failed, none⟩
        · exact Or.inr ⟨reply, .given asked replied, same⟩
        · refine Or.inl ⟨none, ?_⟩
          intro passed relays
          cases relays with
          | given _ replied => exact failed passed replied
          | stored served => cases served.unasked.symm.trans asked
  · have apart : ¬((start.run events).record Metrics.enter).Reaches arrival.identified := by
      rw [Gateway.reaches_record]
      exact reached
    rw [Gateway.exchange_outcome] at answered
    obtain ⟨plain, inside, rfl⟩ := Gateway.finishOutcome_eq_answered_iff.mp answered
    refine ⟨plain, rfl, Or.inl ⟨?_, not_relays_of_apart reached⟩⟩
    rcases Gateway.passLimiter_own apart inside with ⟨now, rfl⟩ | ⟨error, rfl⟩
    · exact Gateway.ownResponse_identifiers _ _ _
    · exact error.response_identifiers

end Arrival

/-- An answer carries the identifier of its own request and no other, unless a response of the service
is passed on that brings identifiers. Then it carries those, be it that the service gave the response to
this request or to an earlier one. -/
theorem identifier_of_answer (start : Gateway) (unused : start.Unused) (events : List Event)
    (arrival : Arrival) (response : Response)
    (answered : (arrival.exchange (start.run events)).outcome = .answered response) :
    ((∀ passed, arrival.Relays start events passed → passed.identifiers = []) →
        response.identifiers = [arrival.identifier]) ∧
      ∀ passed, arrival.Relays start events passed → passed.identifiers ≠ [] →
        response.identifiers = passed.identifiers := by
  obtain ⟨plain, rfl, behind⟩ := Arrival.answer_relays unused answered
  rw [Gateway.finish_identifiers arrival.identified_first?]
  rcases behind with ⟨none, unrelayed⟩ | ⟨passed, relays, same⟩
  · rw [none, if_pos rfl]
    refine ⟨fun _ => rfl, ?_⟩
    intro other relays
    exact absurd relays (unrelayed other)
  · rw [same]
    constructor
    · intro silent
      rw [silent passed relays, if_pos rfl]
    · intro other relaysToo brought
      cases relays.unique relaysToo
      exact if_neg brought

/-! ### A client that gets the identifier of another -/

def echoingOrigin : Origin := fun request =>
  ⟨Duration.zero, .response ⟨.ok, ⟨request.headers.fields.filter fun field =>
    field.name = RequestId.header⟩, [104, 105]⟩⟩

def visit (identifier : String) : Arrival :=
  { fresh := []
    request := ⟨Method.get, ⟨none, "", "/", none⟩,
      Headers.empty.append RequestId.header (Octets.ofText identifier), [], none⟩
    origin := echoingOrigin }

def visitDeposit (identifier : String) : Deposit :=
  { key := CacheKey.ofRequest (visit identifier).identified []
    response := ⟨.ok, Headers.empty.append RequestId.header (Octets.ofText identifier), [104, 105]⟩
    moment := ⟨0⟩ }

theorem emptyGateway_unused : emptyGateway.Unused := by
  intro layer layered
  cases layered
  exact ⟨1000, rfl⟩

private theorem second_visit_served : ∃ response,
    (visit "second").AnsweredFromStore (emptyGateway.run [.arrival (visit "first")]) response ∧
      response.identifiers = [Octets.ofText "first"] := by
  let deposit := visitDeposit "first"
  let entry := deposit.entry (Duration.ofSeconds 60)
  let layer : CacheLayer := ⟨(Store.empty 1000).set deposit.key entry, Duration.ofSeconds 60, []⟩
  have layered : (emptyGateway.run [.arrival (visit "first")]).cache = some layer := rfl
  have keyed : layer.key? (visit "second").identified = some deposit.key := rfl
  have held : layer.store.entries.find? deposit.key = some entry :=
    Store.find?_set_of_fitting (by decide +kernel)
  have living : (emptyGateway.run [.arrival (visit "first")]).clock.wall.milliseconds <
      entry.expiresAt := by
    decide
  have reached : (emptyGateway.run [.arrival (visit "first")]).Reaches (visit "second").identified :=
    { admitted := rfl
      proxied := by decide }
  have served := Arrival.answeredFromStore_of_held reached layered keyed held living
  have unnamed : Replay.namedTag? (visit "second").identified.headers = none := rfl
  have replayed : (Replay.answer entry (visit "second").identified).identifiers =
      [Octets.ofText "first"] := by
    rw [Replay.answer_identifiers, unnamed, if_neg nofun]
    rfl
  refine ⟨_, served, ?_⟩
  rw [Gateway.finish_identifiers (visit "second").identified_first?, replayed]
  exact if_neg (List.cons_ne_nil _ _)

theorem first_identifier_is_replayed :
    emptyGateway.Unused ∧ (visit "second").identifier = Octets.ofText "second" ∧
      ∃ response, ((visit "second").exchange (emptyGateway.run [.arrival (visit "first")])).outcome =
          .answered response ∧
        response.identifiers = [Octets.ofText "first"] ∧
        response.identifiers ≠ [(visit "second").identifier] := by
  obtain ⟨response, served, identifiers⟩ := second_visit_served
  refine ⟨emptyGateway_unused, rfl, response, served.answered, identifiers, ?_⟩
  rw [identifiers]
  decide +kernel

theorem identifier_of_second_visit :
    emptyGateway.Unused ∧ ∃ response,
      ((visit "second").exchange (emptyGateway.run [.arrival (visit "first")])).outcome =
          .answered response ∧
        (visit "second").Relays emptyGateway [.arrival (visit "first")]
          (visitDeposit "first").response ∧
        response.identifiers = (visitDeposit "first").response.identifiers := by
  obtain ⟨response, served, _⟩ := second_visit_served
  have stored : emptyGateway.deposit? (.arrival (visit "first")) = some (visitDeposit "first") := rfl
  have last : emptyGateway.LastDeposit [.arrival (visit "first")] (visitDeposit "first") :=
    ⟨[], .arrival (visit "first"), [], rfl, stored, nofun⟩
  have relays : (visit "second").Relays emptyGateway [.arrival (visit "first")]
      (visitDeposit "first").response :=
    .stored served last rfl nofun
  have passedOn := (identifier_of_answer emptyGateway emptyGateway_unused [.arrival (visit "first")]
    (visit "second") response served.answered).2
  have brought : (visitDeposit "first").response.identifiers ≠ [] := List.cons_ne_nil _ _
  exact ⟨emptyGateway_unused, response, served.answered, relays,
    passedOn (visitDeposit "first").response relays brought⟩

end CachingGateway

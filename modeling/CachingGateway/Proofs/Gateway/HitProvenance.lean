/-
Where an answer from the store comes from. A run that began with an empty store answers from it only
what the service had answered to an earlier request with the same key: the last such response that
was stored, as long as it lives, whole or as the confirmation that the client holds it.
-/

import CachingGateway.Proofs.Gateway.Deposits
import CachingGateway.Proofs.Http.HeaderValues

namespace CachingGateway

/-! ### Answers -/

namespace Deposit

def tag (deposit : Deposit) : String :=
  Policy.entityTag deposit.response.body

/-- The marks of an answer from the store. -/
def mark (deposit : Deposit) (headers : Headers) : Headers :=
  (headers.replace Replay.cacheMark Replay.hit).replace Replay.entityTag
    (Octets.ofText deposit.tag)

/-- What a request is answered from a deposit. -/
def answer (deposit : Deposit) (request : Request) : Response :=
  if request.headers.firstText? Replay.ifNoneMatch = some deposit.tag.toList then
    ⟨.notModified, deposit.mark Headers.empty, []⟩
  else ⟨deposit.response.status, deposit.mark deposit.response.headers, deposit.response.body⟩

theorem tag_not_empty (deposit : Deposit) : deposit.tag.isEmpty = false := by
  rw [← Bool.not_eq_true, String.isEmpty_iff, ← String.toList_inj]
  simp only [tag, Policy.entityTag, String.toList_ofList]
  exact List.cons_ne_nil _ _

theorem markHit_entry (deposit : Deposit) (default : Duration) (headers : Headers) :
    Replay.markHit headers (deposit.entry default) = deposit.mark headers := by
  have tagged : (deposit.entry default).etag.isEmpty = false := deposit.tag_not_empty
  rw [Replay.markHit, Replay.tag, tagged, if_neg Bool.false_ne_true]
  rfl

theorem namedTag?_eq_iff (deposit : Deposit) (headers : Headers) :
    Replay.namedTag? headers = some deposit.tag ↔
      headers.firstText? Replay.ifNoneMatch = some deposit.tag.toList := by
  unfold Replay.namedTag?
  cases headers.firstText? Replay.ifNoneMatch with
  | none => simp only [Option.filter_none, Option.map_none, reduceCtorEq]
  | some text =>
      constructor
      · intro named
        obtain ⟨kept, filtered, same⟩ := Option.map_eq_some_iff.mp named
        obtain ⟨whole, _⟩ := Option.filter_eq_some_iff.mp filtered
        rw [whole, ← same, String.toList_ofList]
      · intro whole
        cases whole
        have filled : deposit.tag.toList.isEmpty = false := by
          rw [List.isEmpty_eq_false_iff, ne_eq, String.toList_eq_nil_iff, ← String.isEmpty_iff,
            deposit.tag_not_empty]
          exact Bool.false_ne_true
        rw [Option.filter_some, filled, Bool.not_false, if_pos rfl, Option.map_some,
          String.ofList_toList]

theorem answer_entry (deposit : Deposit) (default : Duration) (request : Request) :
    Replay.answer (deposit.entry default) request = deposit.answer request := by
  have named := deposit.namedTag?_eq_iff request.headers
  have tagged : (deposit.entry default).etag = deposit.tag := rfl
  rw [Replay.answer, tagged, answer]
  by_cases confirmed : request.headers.firstText? Replay.ifNoneMatch = some deposit.tag.toList
  · rw [if_pos confirmed, if_pos (named.mpr confirmed), Replay.notModified, markHit_entry]
  · rw [if_neg confirmed, if_neg fun same => confirmed (named.mp same), Replay.full, markHit_entry]
    rfl

theorem answer_values (deposit : Deposit) (request : Request) :
    (deposit.answer request).headers.values Replay.cacheMark = [Replay.hit] ∧
      (deposit.answer request).headers.values Replay.entityTag = [Octets.ofText deposit.tag] := by
  have distinct : Replay.cacheMark ≠ Replay.entityTag := by decide
  have marked (headers : Headers) :
      (deposit.mark headers).values Replay.cacheMark = [Replay.hit] ∧
        (deposit.mark headers).values Replay.entityTag = [Octets.ofText deposit.tag] := by
    constructor
    · rw [mark, Headers.values_replace_of_ne _ _ distinct, Headers.values_replace_self]
    · rw [mark, Headers.values_replace_self]
  unfold answer
  split
  · exact marked Headers.empty
  · exact marked deposit.response.headers

theorem expiresAt_entry (deposit : Deposit) (default : Duration) :
    (deposit.entry default).expiresAt =
      min WallClock.greatestMillisecond (deposit.moment.milliseconds +
        (Policy.lifetime deposit.response.headers default deposit.moment).milliseconds) := by
  change Entry.expiry deposit.moment _ = _
  rw [Entry.expiry]
  omega

end Deposit

namespace Arrival

/-- The service answers a request with a response that is stored. -/
structure Deposits (arrival : Arrival) (gateway : Gateway) (deposit : Deposit) : Prop where
  asked : (arrival.exchange gateway).asked = some arrival.identified
  replied : (arrival.origin arrival.identified).answer = .response deposit.response
  storable : Policy.isCacheable arrival.request.method deposit.response.status
    deposit.response.headers = true
  keyed : gateway.key? arrival.identified = some deposit.key
  moment : deposit.moment =
    (gateway.clock.advance (arrival.origin arrival.identified).delay).wall

/-- The proxy answers a request and does not ask the service. -/
structure AnsweredFromStore (arrival : Arrival) (gateway : Gateway) (response : Response) :
    Prop where
  reached : gateway.Reaches arrival.identified
  unasked : (arrival.exchange gateway).asked = none
  answered : (arrival.exchange gateway).outcome = .answered response

variable {arrival : Arrival} {gateway : Gateway}

theorem identified_method (arrival : Arrival) :
    arrival.identified.method = arrival.request.method := by
  unfold identified RequestId.assign
  split <;> rfl

theorem asked_eq_identified {asked : Request}
    (sent : (arrival.exchange gateway).asked = some asked) : asked = arrival.identified := by
  obtain ⟨inner, passage, same, _, _⟩ := gateway.exchange_passage arrival
  rw [same] at sent
  cases passage with
  | aside apart unasked untouched =>
      rw [unasked] at sent
      cases sent
  | replayed layer entry reached layered found unasked answered looked =>
      rw [unasked] at sent
      cases sent
  | sent reached absent looked sameClock =>
      cases sent
      rfl

theorem deposit?_eq_some_iff {deposit : Deposit} :
    gateway.deposit? (.arrival arrival) = some deposit ↔ arrival.Deposits gateway deposit := by
  constructor
  · intro stored
    obtain ⟨asked, sent, stored⟩ := Option.bind_eq_some_iff.mp stored
    obtain ⟨layer, layered, stored⟩ := Option.bind_eq_some_iff.mp stored
    obtain ⟨replied, storable, keyed, moment⟩ := CacheLayer.deposit?_eq_some_iff.mp stored
    cases asked_eq_identified sent
    rw [identified_method] at storable
    exact
      { asked := sent
        replied := replied
        storable := storable
        keyed := Option.bind_eq_some_iff.mpr ⟨layer, layered, keyed⟩
        moment := moment }
  · intro made
    obtain ⟨layer, layered, keyed⟩ := Option.bind_eq_some_iff.mp made.keyed
    have storable := made.storable
    rw [← identified_method] at storable
    refine Option.bind_eq_some_iff.mpr ⟨arrival.identified, made.asked, ?_⟩
    refine Option.bind_eq_some_iff.mpr ⟨layer, layered, ?_⟩
    exact CacheLayer.deposit?_eq_some_iff.mpr ⟨made.replied, storable, keyed, made.moment⟩

theorem answeredFromStore_iff {response : Response} :
    arrival.AnsweredFromStore gateway response ↔
      ∃ layer entry, gateway.Reaches arrival.identified ∧ gateway.cache = some layer ∧
        (layer.look gateway.clock.wall arrival.identified).1 = some entry ∧
        response = Gateway.finish arrival.identified (Replay.answer entry arrival.identified) := by
  obtain ⟨inner, passage, asked, outcome, _⟩ := gateway.exchange_passage arrival
  constructor
  · intro served
    have unasked := asked.symm.trans served.unasked
    have answered := outcome.symm.trans served.answered
    cases passage with
    | aside apart _ _ => exact absurd served.reached apart
    | replayed layer entry reached layered found _ replayed _ =>
        rw [replayed] at answered
        cases answered
        exact ⟨layer, entry, reached, layered, found, rfl⟩
    | sent reached absent looked sameClock => cases unasked
  · rintro ⟨layer, entry, reached, layered, found, rfl⟩
    cases passage with
    | aside apart _ _ => exact absurd reached apart
    | replayed other held _ same hit unasked answered _ =>
        cases layered.symm.trans same
        cases found.symm.trans hit
        exact
          { reached := reached
            unasked := asked.trans unasked
            answered := outcome.trans (congrArg _ answered) }
    | sent _ absent _ _ =>
        have missed := absent layer layered
        rw [found] at missed
        cases missed

theorem answeredFromStore_of_held {layer : CacheLayer} {key : String} {entry : Entry}
    (reached : gateway.Reaches arrival.identified) (layered : gateway.cache = some layer)
    (keyed : layer.key? arrival.identified = some key)
    (held : layer.store.entries.find? key = some entry)
    (living : gateway.clock.wall.milliseconds < entry.expiresAt) :
    arrival.AnsweredFromStore gateway
      (Gateway.finish arrival.identified (Replay.answer entry arrival.identified)) := by
  have found : (layer.look gateway.clock.wall arrival.identified).1 = some entry := by
    rw [CacheLayer.look_of_key keyed]
    exact Store.get_eq_some_iff.mpr ⟨held, living⟩
  exact answeredFromStore_iff.mpr ⟨layer, entry, reached, layered, found, rfl⟩

end Arrival

/-! ### Provenance -/

namespace Gateway

variable {start : Gateway} {lifetime : Duration} {varyHeaders : List String}

/-- An entry that is looked up lives, and was made from the last deposit under the key. -/
theorem Traced.look {events : List Event} {layer : CacheLayer}
    (traced : start.Traced lifetime varyHeaders events layer) {now : WallClock} {request : Request}
    {entry : Entry} (found : (layer.look now request).1 = some entry) :
    ∃ deposit, start.LastDeposit events deposit ∧
      deposit.key = CacheKey.ofRequest request varyHeaders ∧ entry = deposit.entry lifetime ∧
      now.milliseconds < entry.expiresAt := by
  cases keyed : layer.key? request with
  | none =>
      rw [CacheLayer.look_of_keyless keyed] at found
      cases found
  | some key =>
      rw [CacheLayer.look_of_key keyed] at found
      obtain ⟨held, living⟩ := Store.get_eq_some_iff.mp found
      obtain ⟨deposit, last, same, made⟩ := traced.source key entry held
      have named := (CacheLayer.key?_eq_some_iff.mp keyed).2
      rw [traced.sameVary] at named
      exact ⟨deposit, last, same.trans named.symm, made, living⟩

theorem LastDeposit.arrival {maxSize : UInt64}
    (unused : start.cache = some ⟨Store.empty maxSize, lifetime, varyHeaders⟩)
    {events : List Event} {deposit : Deposit} (last : start.LastDeposit events deposit) :
    ∃ earlier source later, events = earlier ++ .arrival source :: later ∧
      source.Deposits (start.run earlier) deposit ∧
      deposit.key = CacheKey.ofRequest source.identified varyHeaders ∧
      ∀ other ∈ (start.run (earlier ++ [.arrival source])).deposits later,
        other.key ≠ deposit.key := by
  obtain ⟨earlier, event, later, split, stored, none⟩ := last
  cases event with
  | arrival source =>
      have made := Arrival.deposit?_eq_some_iff.mp stored
      obtain ⟨layer, traced⟩ := traced_run unused earlier
      have keyed := made.keyed
      rw [key?, traced.layered, Option.bind_some] at keyed
      have named := (CacheLayer.key?_eq_some_iff.mp keyed).2
      rw [traced.sameVary] at named
      exact ⟨earlier, source, later, split, made, named.symm, none⟩
  | pause length => cases stored
  | scrape path method target => cases stored
  | sweep idle => cases stored

end Gateway

/-- Every answer from the store goes back to an earlier request of the run with the same key. The
service answered it with a response that was stored; nothing was stored under the key since, and the
lifetime that the response had when it was stored is not over. The answer is that response, marked as
one from the store, or the bare marks for a client that named its tag first. -/
theorem answer_from_store_provenance (start : Gateway) (maxSize : UInt64) (lifetime : Duration)
    (varyHeaders : List String)
    (unused : start.cache = some ⟨Store.empty maxSize, lifetime, varyHeaders⟩)
    (events : List Event) (arrival : Arrival) (response : Response)
    (served : arrival.AnsweredFromStore (start.run events) response) :
    ∃ earlier source later deposit,
      events = earlier ++ .arrival source :: later ∧
      source.Deposits (start.run earlier) deposit ∧
      deposit.key = CacheKey.ofRequest source.identified varyHeaders ∧
      deposit.key = CacheKey.ofRequest arrival.identified varyHeaders ∧
      (∀ other ∈ (start.run (earlier ++ [.arrival source])).deposits later,
        other.key ≠ deposit.key) ∧
      (start.run events).clock.wall.milliseconds <
        min WallClock.greatestMillisecond (deposit.moment.milliseconds +
          (Policy.lifetime deposit.response.headers lifetime deposit.moment).milliseconds) ∧
      response = Gateway.finish arrival.identified (deposit.answer arrival.identified) ∧
      response.headers.values Replay.cacheMark = [Replay.hit] ∧
      response.headers.values Replay.entityTag = [Octets.ofText deposit.tag] := by
  obtain ⟨layer, traced⟩ := Gateway.traced_run unused events
  obtain ⟨other, entry, reached, layered, found, rfl⟩ := Arrival.answeredFromStore_iff.mp served
  cases traced.layered.symm.trans layered
  obtain ⟨deposit, last, keyed, rfl, living⟩ := traced.look found
  obtain ⟨earlier, source, later, split, made, named, none⟩ := last.arrival unused
  rw [deposit.expiresAt_entry] at living
  rw [deposit.answer_entry]
  obtain ⟨marked, tagged⟩ := deposit.answer_values arrival.identified
  refine ⟨earlier, source, later, deposit, split, made, named, keyed, none, living, rfl, ?_, ?_⟩
  · rw [Gateway.finish_values reached.proxied _ (by decide) (by decide), marked]
  · rw [Gateway.finish_values reached.proxied _ (by decide) (by decide), tagged]

/-! ### A run that answers from the store -/

def emptyGateway : Gateway :=
  { cache := some ⟨Store.empty 1000, Duration.ofSeconds 60, []⟩
    admission := none
    reports := false
    metrics := Metrics.empty
    clock := ⟨⟨0⟩, Instant.start⟩ }

def greeted : Arrival :=
  { fresh := []
    request := ⟨Method.get, ⟨none, "", "/", none⟩, Headers.empty, [], none⟩
    origin := fun _ => ⟨Duration.zero, .response ⟨.ok, Headers.empty, [104, 105]⟩⟩ }

def greeting : Deposit :=
  { key := CacheKey.ofRequest greeted.identified []
    response := ⟨.ok, Headers.empty, [104, 105]⟩
    moment := ⟨0⟩ }

def greetedRun : List Event := [.arrival greeted, .pause (Duration.ofSeconds 5)]

private theorem greeted_served :
    ∃ response, greeted.AnsweredFromStore (emptyGateway.run greetedRun) response := by
  let entry := greeting.entry (Duration.ofSeconds 60)
  let store : Store String := (Store.empty 1000).set greeting.key entry
  let layer : CacheLayer := ⟨store, Duration.ofSeconds 60, []⟩
  have layered : (emptyGateway.run greetedRun).cache = some layer := rfl
  have keyed : layer.key? greeted.identified = some greeting.key := rfl
  have fitting : ¬((Store.empty 1000).insert greeting.key entry).maxSize <
      ((Store.empty 1000).insert greeting.key entry).size := by
    decide
  have held : store.entries.find? greeting.key = some entry := by
    have kept : store = (Store.empty 1000).insert greeting.key entry :=
      Store.shrink_of_fitting fitting
    rw [kept]
    exact (Table.find?_insert _ _ _ _).trans (if_pos rfl)
  have living : (emptyGateway.run greetedRun).clock.wall.milliseconds < entry.expiresAt := by
    decide
  have reached : (emptyGateway.run greetedRun).Reaches greeted.identified :=
    { admitted := rfl
      proxied := by decide }
  exact ⟨_, Arrival.answeredFromStore_of_held reached layered keyed held living⟩

theorem greeting_provenance :
    emptyGateway.cache = some ⟨Store.empty 1000, Duration.ofSeconds 60, []⟩ ∧
      ∃ response, greeted.AnsweredFromStore (emptyGateway.run greetedRun) response ∧
        response.headers.values Replay.cacheMark = [Replay.hit] ∧
        ∃ earlier source later deposit, greetedRun = earlier ++ .arrival source :: later ∧
          source.Deposits (emptyGateway.run earlier) deposit := by
  obtain ⟨response, served⟩ := greeted_served
  obtain ⟨earlier, source, later, deposit, split, made, _, _, _, _, _, marked, _⟩ :=
    answer_from_store_provenance emptyGateway 1000 (Duration.ofSeconds 60) [] rfl greetedRun greeted
      response served
  exact ⟨rfl, response, served, marked, earlier, source, later, deposit, split, made⟩

end CachingGateway

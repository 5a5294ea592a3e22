/-
Confirmations. Every stored entry has the tag of its own body, and every answer that is stored or
comes from the store carries that tag and no other. So a client that names a tag it was given is told
that its copy is good only if it is, as far as digests tell bodies apart; and it is always told so
while the entry lives.
-/

import CachingGateway.Proofs.Gateway.Identifiers
import CachingGateway.Proofs.Text.OctetsLaws

namespace CachingGateway

/-! ### Tags -/

theorem Ascii.hexDigit_visible {value : Nat} (digit : value < 16) :
    Octets.IsVisibleChar (hexDigit value) := by
  have all : ∀ value : Fin 16, Octets.IsVisibleChar (hexDigit value) := by decide
  exact all ⟨value, digit⟩

theorem Octets.hex_visible (octets : Octets) :
    ∀ character ∈ hex octets, IsVisibleChar character := by
  intro character member
  obtain ⟨octet, _, among⟩ := List.mem_flatMap.mp member
  have bound := octet.toNat_lt
  rcases List.mem_cons.mp among with rfl | low
  · apply Ascii.hexDigit_visible
    omega
  · cases List.mem_singleton.mp low
    apply Ascii.hexDigit_visible
    omega

namespace Policy

theorem entityTag_toList (body : Octets) :
    (entityTag body).toList = '"' :: (Octets.hex (Sha256.digest body) ++ ['"']) := by
  rw [entityTag, String.toList_ofList]

theorem entityTag_eq_iff {left right : Octets} :
    entityTag left = entityTag right ↔ Sha256.digest left = Sha256.digest right := by
  rw [← String.toList_inj, entityTag_toList, entityTag_toList, List.cons.injEq,
    List.append_cancel_right_eq]
  constructor
  · rintro ⟨_, same⟩
    exact Octets.hex_injective same
  · intro same
    exact ⟨rfl, congrArg Octets.hex same⟩

/-- A tag is read from a header as it was written into one. -/
theorem entityTag_visible (body : Octets) :
    Octets.visible? (Octets.ofText (entityTag body)) = some (entityTag body).toList := by
  apply Octets.visible?_ofText
  intro character member
  rw [entityTag_toList] at member
  rcases List.mem_cons.mp member with rfl | inside
  · decide
  · rcases List.mem_append.mp inside with digit | last
    · exact Octets.hex_visible _ character digit
    · cases List.mem_singleton.mp last
      decide

end Policy

theorem Replay.namedTag?_of_first? {headers : Headers} {body : Octets}
    (first : headers.first? ifNoneMatch = some (Octets.ofText (Policy.entityTag body))) :
    namedTag? headers = some (Policy.entityTag body) := by
  let deposit : Deposit := ⟨"", ⟨.ok, Headers.empty, body⟩, ⟨0⟩⟩
  apply (deposit.namedTag?_eq_iff headers).mpr
  rw [Headers.firstText?, first]
  exact Policy.entityTag_visible body

/-! ### Requests and the tags they are given -/

namespace Arrival

/-- The proxy answers a request while it finds an entry, and does not ask the service. What the
request names is left open. -/
structure AnsweredFrom (arrival : Arrival) (gateway : Gateway) (entry : Entry) (response : Response) :
    Prop where
  served : arrival.AnsweredFromStore gateway response
  found : ∃ layer, gateway.cache = some layer ∧
    (layer.look gateway.clock.wall arrival.identified).1 = some entry

/-- A client gets a response whose body is stored, or an answer from an entry that holds the body. -/
inductive Issued (arrival : Arrival) (gateway : Gateway) (response : Response) : Octets → Prop where
  | stored {deposit : Deposit} (made : arrival.Deposits gateway deposit)
      (answered : (arrival.exchange gateway).outcome = .answered response) :
      Issued arrival gateway response deposit.response.body
  | replayed {entry : Entry} (answered : arrival.AnsweredFrom gateway entry response) :
      Issued arrival gateway response entry.body

/-- A read comes as far as the proxy while an entry under its key lives, and names the tag of that
entry first. -/
structure Revalidates (arrival : Arrival) (gateway : Gateway) (entry : Entry) : Prop where
  reached : gateway.Reaches arrival.identified
  read : Policy.isCacheableMethod arrival.request.method = true
  held : ∃ layer, gateway.cache = some layer ∧
    layer.store.entries.find? (CacheKey.ofRequest arrival.identified layer.varyHeaders) = some entry
  living : gateway.clock.wall.milliseconds < entry.expiresAt
  named : arrival.request.headers.first? Replay.ifNoneMatch = some (Octets.ofText entry.etag)

variable {arrival : Arrival} {gateway : Gateway} {entry : Entry} {response : Response}

theorem AnsweredFrom.answer (answered : arrival.AnsweredFrom gateway entry response) :
    response = Gateway.finish arrival.identified (Replay.answer entry arrival.identified) := by
  obtain ⟨layer, layered, found⟩ := answered.found
  obtain ⟨other, hit, _, held, looked, same⟩ := answeredFromStore_iff.mp answered.served
  cases layered.symm.trans held
  cases found.symm.trans looked
  exact same

theorem identified_first?_of_ne (arrival : Arrival) {name : HeaderName}
    (other : name ≠ RequestId.header) :
    arrival.identified.headers.first? name = arrival.request.headers.first? name := by
  unfold identified RequestId.assign
  split
  · rfl
  · exact Headers.first?_append_of_ne _ _ other

theorem reached_of_asked {asked : Request} (sent : (arrival.exchange gateway).asked = some asked) :
    gateway.Reaches arrival.identified := by
  obtain ⟨inner, passage, same, _, _⟩ := gateway.exchange_passage arrival
  rw [same] at sent
  cases passage with
  | aside _ unasked _ => cases unasked.symm.trans sent
  | replayed _ _ reached _ _ _ _ _ => exact reached
  | sent reached _ _ _ => exact reached

theorem Deposits.tagged {deposit : Deposit} (made : arrival.Deposits gateway deposit)
    (answered : (arrival.exchange gateway).outcome = .answered response) :
    response.headers.values Replay.entityTag = [Octets.ofText deposit.tag] := by
  obtain ⟨layer, layered, _⟩ := Option.bind_eq_some_iff.mp made.keyed
  have reached := reached_of_asked made.asked
  rcases Gateway.reached_outcome layered reached with ⟨_, _, unasked, _⟩ | ⟨_, _, outcome⟩
  · cases unasked.symm.trans made.asked
  · rw [made.replied, OriginAnswer.proxied] at outcome
    cases answered.symm.trans outcome
    rw [Gateway.finish_values reached.proxied _ (by decide) (by decide), Replay.marked,
      if_pos made.storable]
    exact Headers.values_replace_self _ _

end Arrival

namespace Gateway

variable {start : Gateway} (unused : start.Unused) {events : List Event}

include unused

theorem Unused.etag_of_held {layer : CacheLayer} (layered : (start.run events).cache = some layer)
    {key : String} {entry : Entry} (held : layer.store.entries.find? key = some entry) :
    entry.etag = Policy.entityTag entry.body := by
  obtain ⟨lifetime, varyHeaders, traced⟩ := unused.traced layered
  obtain ⟨deposit, _, _, rfl⟩ := traced.source key entry held
  rfl

theorem Unused.etag_of_found {layer : CacheLayer} (layered : (start.run events).cache = some layer)
    {request : Request} {entry : Entry}
    (found : (layer.look (start.run events).clock.wall request).1 = some entry) :
    entry.etag = Policy.entityTag entry.body := by
  obtain ⟨deposit, lifetime, _, rfl, _⟩ := unused.look layered found
  rfl

theorem Unused.issued_tag {arrival : Arrival} {response : Response} {body : Octets}
    (issued : arrival.Issued (start.run events) response body) :
    response.headers.values Replay.entityTag = [Octets.ofText (Policy.entityTag body)] := by
  cases issued with
  | stored made answered => exact made.tagged answered
  | replayed answered =>
      obtain ⟨layer, layered, found⟩ := answered.found
      obtain ⟨deposit, lifetime, _, rfl, _⟩ := unused.look layered found
      rw [answered.answer, deposit.answer_entry,
        finish_values answered.served.reached.proxied _ (by decide) (by decide)]
      exact (deposit.answer_values arrival.identified).2

end Gateway

/-! ### What is confirmed -/

theorem Replay.notModified_values (entry : Entry) (tagged : entry.etag = Policy.entityTag entry.body) :
    (notModified entry).headers.values entityTag = [Octets.ofText entry.etag] := by
  rw [notModified, markHit, tagged, tag_entityTag]
  exact Headers.values_replace_self _ _

theorem Gateway.finish_body {request : Request} (proxied : Route.ofPath request.target.path = .proxied)
    (response : Response) : (finish request response).body = response.body := by
  have foreign : (Route.ofPath request.target.path).isOwn = false := by
    rw [proxied]
    rfl
  have propagated : (RequestId.propagate request response).body = response.body := by
    unfold RequestId.propagate
    split
    · rfl
    · split <;> rfl
  rw [finish, foreign, if_neg Bool.false_ne_true, ← propagated]
  unfold ContentLength.complete
  split <;> rfl

namespace Arrival

variable {arrival : Arrival} {gateway : Gateway} {entry : Entry}

/-- A tag of a body is met by the confirmation exactly if the entry has that body. -/
theorem answer_of_named {body : Octets} (tagged : entry.etag = Policy.entityTag entry.body)
    (named : arrival.request.headers.first? Replay.ifNoneMatch =
      some (Octets.ofText (Policy.entityTag body)))
    (apart : Sha256.digest entry.body = Sha256.digest body → entry.body = body) :
    (entry.body = body ∧ Replay.answer entry arrival.identified = Replay.notModified entry) ∨
      (entry.body ≠ body ∧ Replay.answer entry arrival.identified = Replay.full entry) := by
  have other : Replay.ifNoneMatch ≠ RequestId.header := by decide
  rw [← arrival.identified_first?_of_ne other] at named
  have read := Replay.namedTag?_of_first? named
  by_cases same : entry.body = body
  · refine Or.inl ⟨same, ?_⟩
    rw [← same, ← tagged] at read
    rw [Replay.answer, if_pos read]
  · refine Or.inr ⟨same, ?_⟩
    have differs : Replay.namedTag? arrival.identified.headers ≠ some entry.etag := by
      rw [read, tagged]
      intro equal
      exact same (apart (Policy.entityTag_eq_iff.mp (Option.some.inj equal.symm)))
    rw [Replay.answer, if_neg differs]

theorem Revalidates.answered (revalidates : arrival.Revalidates gateway entry)
    (tagged : entry.etag = Policy.entityTag entry.body) :
    arrival.AnsweredFrom gateway entry
      (Gateway.finish arrival.identified (Replay.notModified entry)) := by
  obtain ⟨layer, layered, held⟩ := revalidates.held
  have keyed : layer.key? arrival.identified =
      some (CacheKey.ofRequest arrival.identified layer.varyHeaders) := by
    have read := revalidates.read
    rw [← arrival.identified_method] at read
    rw [CacheLayer.key?, if_pos read]
  have found : (layer.look gateway.clock.wall arrival.identified).1 = some entry := by
    rw [CacheLayer.look_of_key keyed]
    exact Store.get_eq_some_iff.mpr ⟨held, revalidates.living⟩
  have named := revalidates.named
  rw [tagged] at named
  rcases answer_of_named tagged named fun _ => rfl with ⟨_, confirms⟩ | ⟨other, _⟩
  · rw [← confirms]
    exact
      { served := answeredFromStore_iff.mpr
          ⟨layer, entry, revalidates.reached, layered, found, rfl⟩
        found := ⟨layer, layered, found⟩ }
  · exact absurd rfl other

end Arrival

/-- After every run from an unused gateway the entries have the tags of their bodies. When a client
names a tag which an earlier answer of the run gave it for a body, and is answered from an entry, it is
told that its copy is good if the entry has that body, and gets the stored response if it has another,
unless the digests of the two bodies collide. So a 304 means the body that the client holds, but for an
entry that is itself a 304 of the service. And a read that names the tag of a living entry first is
always told that its copy is good, with that tag and without a body, and the service is not asked. -/
theorem confirmation_of_held_body (start : Gateway) (unused : start.Unused) (events : List Event) :
    (∀ layer key entry, (start.run events).cache = some layer →
        layer.store.entries.find? key = some entry → entry.etag = Policy.entityTag entry.body) ∧
      (∀ arrival entry response, Arrival.AnsweredFrom arrival (start.run events) entry response →
        ∀ earlier issuer later given body tag, events = earlier ++ .arrival issuer :: later →
          Arrival.Issued issuer (start.run earlier) given body →
          tag ∈ given.headers.values Replay.entityTag →
          arrival.request.headers.first? Replay.ifNoneMatch = some tag →
          (Sha256.digest entry.body = Sha256.digest body → entry.body = body) →
          ((entry.body = body ∧
              response = Gateway.finish arrival.identified (Replay.notModified entry)) ∨
            (entry.body ≠ body ∧
              response = Gateway.finish arrival.identified (Replay.full entry))) ∧
          (response.status = .notModified → entry.status ≠ .notModified → entry.body = body)) ∧
      ∀ arrival entry, Arrival.Revalidates arrival (start.run events) entry →
        (arrival.exchange (start.run events)).asked = none ∧
          ∃ response, (arrival.exchange (start.run events)).outcome = .answered response ∧
            response.status = .notModified ∧
            response.headers.values Replay.entityTag = [Octets.ofText entry.etag] ∧
            response.body = [] := by
  refine ⟨fun layer key entry layered held => unused.etag_of_held layered held, ?_, ?_⟩
  · intro arrival entry response answered earlier issuer later given body tag _ issued carried named
      apart
    obtain ⟨layer, layered, found⟩ := answered.found
    rw [unused.issued_tag issued, List.mem_singleton] at carried
    rw [carried] at named
    have tagged := unused.etag_of_found layered found
    rw [answered.answer]
    rcases Arrival.answer_of_named tagged named apart with ⟨same, confirms⟩ | ⟨other, replays⟩
    · rw [confirms]
      exact ⟨Or.inl ⟨same, rfl⟩, fun _ _ => same⟩
    · rw [replays]
      refine ⟨Or.inr ⟨other, rfl⟩, fun told kept => ?_⟩
      rw [Gateway.finish_status] at told
      exact absurd told kept
  · intro arrival entry revalidates
    obtain ⟨layer, layered, held⟩ := revalidates.held
    have tagged := unused.etag_of_held layered held
    have served := (revalidates.answered tagged).served
    have proxied := revalidates.reached.proxied
    refine ⟨served.unasked, _, served.answered, Gateway.finish_status _ _, ?_, ?_⟩
    · rw [Gateway.finish_values proxied _ (by decide) (by decide)]
      exact Replay.notModified_values entry tagged
    · exact Gateway.finish_body proxied _

/-! ### A client that comes back with its tag -/

def returned : Arrival :=
  { fresh := []
    request := ⟨Method.get, ⟨none, "", "/", none⟩,
      Headers.empty.append Replay.ifNoneMatch (Octets.ofText greeting.tag), [], none⟩
    origin := greeted.origin }

private theorem returned_revalidates :
    returned.Revalidates (emptyGateway.run [.arrival greeted])
      (greeting.entry (Duration.ofSeconds 60)) := by
  let entry := greeting.entry (Duration.ofSeconds 60)
  let layer : CacheLayer := ⟨(Store.empty 1000).set greeting.key entry, Duration.ofSeconds 60, []⟩
  have held : layer.store.entries.find? greeting.key = some entry :=
    Store.find?_set_of_fitting (by decide +kernel)
  exact
    { reached := ⟨rfl, by decide⟩
      read := rfl
      held := ⟨layer, rfl, held⟩
      living := by decide
      named := rfl }

theorem confirmation_of_greeting :
    emptyGateway.Unused ∧ ∃ entry given response,
      Arrival.Issued greeted emptyGateway given [104, 105] ∧
        Arrival.AnsweredFrom returned (emptyGateway.run [.arrival greeted]) entry response ∧
        response.status = .notModified ∧ entry.status = .ok ∧ entry.body = [104, 105] := by
  have unused := emptyGateway_unused
  have made : greeted.Deposits emptyGateway greeting := Arrival.deposit?_eq_some_iff.mp rfl
  have issued : Arrival.Issued greeted emptyGateway _ [104, 105] := .stored made rfl
  have carried := List.mem_singleton.mpr (rfl : Octets.ofText greeting.tag = _)
  rw [← made.tagged rfl] at carried
  have answered := returned_revalidates.answered rfl
  obtain ⟨_, same, always⟩ := confirmation_of_held_body emptyGateway unused [.arrival greeted]
  obtain ⟨_, response, outcome, told, _, _⟩ := always returned _ returned_revalidates
  cases answered.served.answered.symm.trans outcome
  obtain ⟨_, held_of_told⟩ :=
    same returned _ _ answered [] greeted [] _ _ _ rfl issued carried rfl fun _ => rfl
  exact ⟨unused, _, _, _, issued, answered, told, rfl, held_of_told told (by decide)⟩

end CachingGateway

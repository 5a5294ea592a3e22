/-
Requests that leave nothing to store. The limiter turns a request away, its method is no read, or the
service fails, keeps silent or answers what may not be stored. Such a request leaves the store as it
was, the order of use included; a read that finds an expired entry under its key takes it out.
-/

import CachingGateway.Proofs.Cache.RecencyOrder
import CachingGateway.Proofs.Gateway.Outcomes

namespace CachingGateway

namespace Store

variable {key : Type} [DecidableEq key] {store : Store key}

/-! ### The order of use -/

theorem aligned_delete (aligned : store.recency.Aligned) (gone : key) :
    (store.delete gone).recency.Aligned := by
  unfold delete
  split
  · exact aligned.remove gone
  · exact aligned

theorem aligned_get (aligned : store.recency.Aligned) (now : WallClock) (sought : key) :
    (store.get now sought).2.recency.Aligned := by
  unfold get
  split
  · exact aligned
  · split
    · exact aligned_delete aligned sought
    · exact aligned.touch sought

theorem aligned_shrink (aligned : store.recency.Aligned) : store.shrink.recency.Aligned := by
  induction store using shrink.induct with
  | case1 store tooLarge none =>
      rw [shrink_of_stuck none]
      exact aligned
  | case2 store tooLarge oldest rest evicted ih =>
      rw [shrink_of_evicted tooLarge evicted]
      apply ih
      rw [forget_recency]
      exact aligned.evictOldest evicted
  | case3 store fitting =>
      rw [shrink_of_fitting fitting]
      exact aligned

theorem aligned_set (aligned : store.recency.Aligned) (stored : key) (entry : Entry) :
    (store.set stored entry).recency.Aligned := by
  have inserted : (store.insert stored entry).recency.Aligned := aligned.touch stored
  exact aligned_shrink inserted

/-! ### Reads that find nothing -/

/-- A store is as it was, or it had an expired entry under a key, and this entry is gone with its size,
all other entries staying in their order. -/
inductive Spared (now : WallClock) (gone : key) (before after : Store key) : Prop where
  | intact (absent : before.entries.find? gone = none) (same : after = before)
  | expired (entry : Entry) (held : before.entries.find? gone = some entry)
      (lapsed : entry.isExpired now = true)
      (entries : ∀ name, after.entries.find? name =
        if name = gone then none else before.entries.find? name)
      (order : after.recency.order = before.recency.order.filter fun row => row.2 ≠ gone)
      (clock : after.recency.clock = before.recency.clock)
      (size : after.size = before.size - entry.size) (capacity : after.maxSize = before.maxSize)

theorem spared_of_get (aligned : store.recency.Aligned) {now : WallClock} {sought : key}
    (missed : (store.get now sought).1 = none) :
    Spared now sought store (store.get now sought).2 := by
  unfold get at missed ⊢
  cases held : store.entries.find? sought with
  | none => exact .intact held rfl
  | some entry =>
      simp only [held] at missed ⊢
      cases lapsed : entry.isExpired now with
      | false =>
          rw [lapsed, if_neg Bool.false_ne_true] at missed
          cases missed
      | true =>
          rw [if_pos rfl]
          have clock : (store.recency.remove sought).clock = store.recency.clock := by
            unfold Recency.remove
            split <;> rfl
          simp only [delete, held]
          exact .expired entry held lapsed (Table.find?_erase store.entries sought)
            (aligned.order_remove sought) clock rfl rfl

end Store

/-! ### Answers that are not stored -/

def OriginAnswer.isStorable (method : Method) : OriginAnswer → Bool
  | .response reply => Policy.isCacheable method reply.status reply.headers
  | .failure _ | .silence => false

theorem OriginAnswer.isStorable_of_unread {method : Method}
    (unread : Policy.isCacheableMethod method = false) (answer : OriginAnswer) :
    answer.isStorable method = false := by
  cases answer with
  | silence => rfl
  | failure error => rfl
  | response reply => simp only [isStorable, Policy.isCacheable, unread, Bool.false_and]

namespace Gateway

section

variable {gateway : Gateway} {arrival : Arrival}

theorem deposit?_of_unstorable
    (unstorable : (arrival.origin arrival.identified).answer.isStorable
      arrival.request.method = false) : gateway.deposit? (.arrival arrival) = none := by
  refine Option.eq_none_iff_forall_ne_some.mpr fun deposit stored => ?_
  have made := Arrival.deposit?_eq_some_iff.mp stored
  have storable := made.storable
  rw [made.replied, OriginAnswer.isStorable, storable] at unstorable
  cases unstorable

theorem denied_untouched (denied : gateway.admits arrival.identified = false) :
    (arrival.exchange gateway).asked = none ∧
      (gateway.step (.arrival arrival)).cache = gateway.cache := by
  obtain ⟨inner, passage, asked, _, cache⟩ := exchange_passage gateway arrival
  have apart : ¬gateway.Reaches arrival.identified := by
    intro reached
    rw [reached.admitted] at denied
    cases denied
  rw [asked, step, settled_cache, cache]
  cases passage with
  | aside _ unasked untouched => exact ⟨unasked, untouched⟩
  | replayed layer entry reached layered found unasked answered looked => exact absurd reached apart
  | sent reached absent looked sameClock => exact absurd reached apart

variable {layer : CacheLayer}

theorem unread_untouched (layered : gateway.cache = some layer)
    (unread : Policy.isCacheableMethod arrival.request.method = false) :
    (gateway.step (.arrival arrival)).cache = some layer := by
  have keyless : layer.key? arrival.identified = none := by
    rw [CacheLayer.key?, arrival.identified_method, unread, if_neg Bool.false_ne_true]
  obtain ⟨looked, origin, cache⟩ := arrival_looked layered arrival
  rw [deposit?_of_unstorable (OriginAnswer.isStorable_of_unread unread _)] at cache
  rw [step, settled_cache, cache]
  rcases origin with ⟨rfl, _⟩ | rfl
  · rfl
  · rw [CacheLayer.look_of_keyless keyless]
    rfl

theorem missed_spared (layered : gateway.cache = some layer) (aligned : layer.store.recency.Aligned)
    (read : Policy.isCacheableMethod arrival.request.method = true)
    (sent : (arrival.exchange gateway).asked = some arrival.identified)
    (unstorable : (arrival.origin arrival.identified).answer.isStorable
      arrival.request.method = false) :
    ∃ store, (gateway.step (.arrival arrival)).cache = some { layer with store := store } ∧
      Store.Spared gateway.clock.wall (CacheKey.ofRequest arrival.identified layer.varyHeaders)
        layer.store store := by
  have keyed : layer.key? arrival.identified =
      some (CacheKey.ofRequest arrival.identified layer.varyHeaders) := by
    rw [CacheLayer.key?, arrival.identified_method, read, if_pos rfl]
  have missed : (layer.look gateway.clock.wall arrival.identified).1 = none := by
    obtain ⟨inner, passage, asked, _, _⟩ := exchange_passage gateway arrival
    rw [asked] at sent
    cases passage with
    | aside apart unasked untouched =>
        rw [unasked] at sent
        cases sent
    | replayed other entry reached held found unasked answered looked =>
        rw [unasked] at sent
        cases sent
    | sent reached absent looked sameClock => exact absent layer layered
  obtain ⟨looked, origin, cache⟩ := arrival_looked layered arrival
  rw [deposit?_of_unstorable unstorable] at cache
  rw [step, settled_cache, cache]
  rcases origin with ⟨_, unasked⟩ | rfl
  · rw [unasked] at sent
    cases sent
  · rw [CacheLayer.look_of_key keyed] at missed ⊢
    exact ⟨_, rfl, Store.spared_of_get aligned missed⟩

theorem aligned_step (layered : gateway.cache = some layer) (aligned : layer.store.recency.Aligned)
    (event : Event) :
    ∃ next, (gateway.step event).cache = some next ∧ next.store.recency.Aligned := by
  cases event with
  | arrival arrival =>
      obtain ⟨looked, origin, cache⟩ := arrival_looked layered arrival
      have ordered : looked.store.recency.Aligned := by
        rcases origin with ⟨rfl, _⟩ | rfl
        · exact aligned
        · rw [CacheLayer.look]
          split
          · exact aligned
          · exact Store.aligned_get aligned _ _
      refine ⟨_, (settled_cache _).trans cache, ?_⟩
      cases gateway.deposit? (.arrival arrival) with
      | none => exact ordered
      | some deposit => exact Store.aligned_set ordered _ _
  | pause length => exact ⟨layer, layered, aligned⟩
  | scrape path method target =>
      exact ⟨layer, (scrape_cache gateway path method target).trans layered, aligned⟩
  | sweep idle => exact ⟨layer, layered, aligned⟩

theorem aligned_run (layered : gateway.cache = some layer) (aligned : layer.store.recency.Aligned)
    (events : List Event) :
    ∃ next, (gateway.run events).cache = some next ∧ next.store.recency.Aligned := by
  induction events generalizing gateway layer with
  | nil => exact ⟨layer, layered, aligned⟩
  | cons event rest ih =>
      obtain ⟨next, cached, ordered⟩ := aligned_step layered aligned event
      exact ih cached ordered

end

end Gateway

/-- After every run that began with an empty store: a denied request leaves the store as it is and the
service unasked, one that is no read leaves the store as it is, and a read for which the service gives
nothing to store takes at most an expired entry under its own key out of it. -/
theorem store_spared_without_deposit (start : Gateway) (maxSize : UInt64) (lifetime : Duration)
    (varyHeaders : List String)
    (unused : start.cache = some ⟨Store.empty maxSize, lifetime, varyHeaders⟩) (events : List Event)
    (arrival : Arrival) :
    let gateway := start.run events
    ∃ layer, gateway.cache = some layer ∧
      (gateway.admits arrival.identified = false →
        (arrival.exchange gateway).asked = none ∧
          (gateway.step (.arrival arrival)).cache = some layer) ∧
      (Policy.isCacheableMethod arrival.request.method = false →
        (gateway.step (.arrival arrival)).cache = some layer) ∧
      (Policy.isCacheableMethod arrival.request.method = true →
        (arrival.exchange gateway).asked = some arrival.identified →
        (arrival.origin arrival.identified).answer.isStorable arrival.request.method = false →
        ∃ store, (gateway.step (.arrival arrival)).cache = some { layer with store := store } ∧
          Store.Spared gateway.clock.wall (CacheKey.ofRequest arrival.identified varyHeaders)
            layer.store store) := by
  intro gateway
  obtain ⟨layer, layered, aligned⟩ := Gateway.aligned_run unused Recency.aligned_empty events
  obtain ⟨other, traced⟩ := Gateway.traced_run unused events
  cases layered.symm.trans traced.layered
  refine ⟨layer, layered, ?_, Gateway.unread_untouched layered, ?_⟩
  · intro denied
    obtain ⟨unasked, untouched⟩ := Gateway.denied_untouched denied
    exact ⟨unasked, untouched.trans layered⟩
  · intro read sent unstorable
    obtain ⟨store, cached, spared⟩ := Gateway.missed_spared layered aligned read sent unstorable
    rw [traced.sameVary] at spared
    exact ⟨store, cached, spared⟩

/-! ### Three requests that store nothing -/

/-- A gateway at which a caller without an address has used up its tokens. -/
def exhaustedGateway : Gateway :=
  { emptyGateway with
    admission := some ⟨⟨⟨.finite 1, 1⟩, ⟨[("", ⟨.finite 0, Instant.start⟩)]⟩⟩, .address⟩ }

def submission : Arrival :=
  { greeted with request := { greeted.request with method := ⟨"POST"⟩ } }

def failedVisit : Arrival :=
  { greeted with origin := fun _ => ⟨Duration.zero, .failure .originTimeout⟩ }

def expiredRun : List Event := [.arrival greeted, .pause (Duration.ofSeconds 60)]

private theorem failedVisit_missed :
    (failedVisit.exchange (emptyGateway.run expiredRun)).asked = some failedVisit.identified := by
  let entry := greeting.entry (Duration.ofSeconds 60)
  let layer : CacheLayer := ⟨(Store.empty 1000).set greeting.key entry, Duration.ofSeconds 60, []⟩
  have layered : (emptyGateway.run expiredRun).cache = some layer := rfl
  have keyed : layer.key? failedVisit.identified = some greeting.key := rfl
  have held : layer.store.entries.find? greeting.key = some entry :=
    Store.find?_set_of_fitting (by decide)
  have lapsed : ¬(emptyGateway.run expiredRun).clock.wall.milliseconds < entry.expiresAt := by
    decide
  have reached : (emptyGateway.run expiredRun).Reaches failedVisit.identified :=
    { admitted := rfl
      proxied := by decide }
  rcases Gateway.reached_outcome layered reached with ⟨other, found, _⟩ | ⟨_, asked, _⟩
  · rw [CacheLayer.look_of_key keyed] at found
    obtain ⟨present, living⟩ := Store.get_eq_some_iff.mp found
    cases held.symm.trans present
    exact absurd living lapsed
  · exact asked

theorem store_spared_by_three_requests :
    emptyGateway.cache = some ⟨Store.empty 1000, Duration.ofSeconds 60, []⟩ ∧
      exhaustedGateway.admits greeted.identified = false ∧
      (greeted.exchange exhaustedGateway).asked = none ∧
      (exhaustedGateway.step (.arrival greeted)).cache = exhaustedGateway.cache ∧
      ((emptyGateway.run expiredRun).step (.arrival submission)).cache =
        (emptyGateway.run expiredRun).cache ∧
      ∃ before after,
        (emptyGateway.run expiredRun).cache = some before ∧
        ((emptyGateway.run expiredRun).step (.arrival failedVisit)).cache = some after ∧
        Store.Spared (emptyGateway.run expiredRun).clock.wall
          (CacheKey.ofRequest failedVisit.identified []) before.store after.store := by
  have denied : exhaustedGateway.admits greeted.identified = false := by decide +kernel
  have atOnce := store_spared_without_deposit exhaustedGateway 1000 (Duration.ofSeconds 60) [] rfl []
    greeted
  have submitted := store_spared_without_deposit emptyGateway 1000 (Duration.ofSeconds 60) [] rfl
    expiredRun submission
  have failed := store_spared_without_deposit emptyGateway 1000 (Duration.ofSeconds 60) [] rfl
    expiredRun failedVisit
  obtain ⟨layer, layered, turnedAway, _⟩ := atOnce
  obtain ⟨unasked, untouched⟩ := turnedAway denied
  obtain ⟨other, held, _, unread, _⟩ := submitted
  obtain ⟨before, stored, _, _, missed⟩ := failed
  obtain ⟨store, after, spared⟩ := missed rfl failedVisit_missed rfl
  exact ⟨rfl, denied, unasked, untouched.trans layered.symm, (unread rfl).trans held.symm, before, _,
    stored, after, spared⟩

end CachingGateway

/-
What a run stores. A response of the service is deposited under the key of its request if it may be
stored. Every entry that the store holds later was made from the last deposit under its key: pauses,
reads, readings of the counts and evictions only take entries away.
-/

import CachingGateway.Proofs.Cache.StoreLookup
import CachingGateway.Proofs.Gateway.Passage
import Mathlib.Data.List.Induction

namespace CachingGateway

/-- A response of the service that is stored under a key, and the moment at which it is. -/
structure Deposit where
  key : String
  response : Response
  moment : WallClock

namespace Deposit

def entry (deposit : Deposit) (default : Duration) : Entry :=
  Entry.create deposit.moment deposit.response (Policy.entityTag deposit.response.body)
    (Policy.lifetime deposit.response.headers default deposit.moment)

end Deposit

namespace CacheLayer

def deposit? (layer : CacheLayer) (now : WallClock) (request : Request) :
    OriginAnswer → Option Deposit
  | .response response =>
    if Policy.isCacheable request.method response.status response.headers then
      (layer.key? request).map fun key => ⟨key, response, now⟩
    else none
  | .failure _ | .silence => none

theorem deposit?_eq_some_iff {layer : CacheLayer} {now : WallClock} {request : Request}
    {answer : OriginAnswer} {deposit : Deposit} :
    layer.deposit? now request answer = some deposit ↔
      answer = .response deposit.response ∧
        Policy.isCacheable request.method deposit.response.status deposit.response.headers = true ∧
        layer.key? request = some deposit.key ∧ deposit.moment = now := by
  constructor
  · intro stored
    cases answer with
    | silence => cases stored
    | failure error => cases stored
    | response response =>
        rw [deposit?] at stored
        split at stored
        · rename_i storable
          obtain ⟨key, keyed, rfl⟩ := Option.map_eq_some_iff.mp stored
          exact ⟨rfl, storable, keyed, rfl⟩
        · cases stored
  · rintro ⟨rfl, storable, keyed, moment⟩
    rw [deposit?, if_pos storable, keyed, Option.map_some, ← moment]

def settle (layer : CacheLayer) : Option Deposit → CacheLayer
  | some deposit => layer.keep deposit.moment deposit.key deposit.response
  | none => layer

theorem settle_lifetime (layer : CacheLayer) (stored : Option Deposit) :
    (layer.settle stored).defaultLifetime = layer.defaultLifetime := by
  cases stored <;> rfl

theorem settle_vary (layer : CacheLayer) (stored : Option Deposit) :
    (layer.settle stored).varyHeaders = layer.varyHeaders := by
  cases stored <;> rfl

theorem find?_of_settle {layer : CacheLayer} {stored : Option Deposit} {name : String}
    {entry : Entry} (held : (layer.settle stored).store.entries.find? name = some entry) :
    (∃ deposit, stored = some deposit ∧ deposit.key = name ∧
        entry = deposit.entry layer.defaultLifetime) ∨
      ((∀ deposit, stored = some deposit → deposit.key ≠ name) ∧
        layer.store.entries.find? name = some entry) := by
  cases stored with
  | none =>
      refine Or.inr ⟨?_, held⟩
      intro deposit none
      cases none
  | some deposit =>
      rcases Store.find?_of_set held with ⟨same, written⟩ | ⟨other, before⟩
      · exact Or.inl ⟨deposit, rfl, same.symm, written⟩
      · refine Or.inr ⟨?_, before⟩
        rintro _ ⟨⟩
        exact Ne.symm other

/-- A layer keeps its settings and holds nothing that it did not hold before. -/
structure Thinned (before after : CacheLayer) : Prop where
  lifetime : after.defaultLifetime = before.defaultLifetime
  vary : after.varyHeaders = before.varyHeaders
  held : ∀ name entry, after.store.entries.find? name = some entry →
    before.store.entries.find? name = some entry

theorem thinned_self (layer : CacheLayer) : layer.Thinned layer where
  lifetime := rfl
  vary := rfl
  held := fun _ _ found => found

theorem look_thinned (layer : CacheLayer) (now : WallClock) (request : Request) :
    layer.Thinned (layer.look now request).2 := by
  cases keyed : layer.key? request with
  | none =>
      rw [look_of_keyless keyed]
      exact thinned_self layer
  | some key =>
      rw [look_of_key keyed]
      exact
        { lifetime := rfl
          vary := rfl
          held := fun name entry found => Store.find?_of_get found }

theorem Thinned.deposit? {before after : CacheLayer} (thinned : before.Thinned after) :
    after.deposit? = before.deposit? := by
  have keys : after.key? = before.key? := by
    funext request
    rw [key?, key?, thinned.vary]
  funext now request answer
  cases answer with
  | response response => simp only [CacheLayer.deposit?, keys]
  | failure error => rfl
  | silence => rfl

end CacheLayer

namespace Gateway

theorem receive_cache {gateway : Gateway} {layer : CacheLayer} (layered : gateway.cache = some layer)
    (request : Request) (response : Response) :
    (gateway.receive request (layer.key? request) response).1.cache =
      some (layer.settle (layer.deposit? gateway.clock.wall request (.response response))) := by
  simp only [receive, layered, CacheLayer.deposit?]
  cases layer.key? request with
  | none =>
      rw [Option.map_none, ite_self]
      exact layered
  | some key =>
      rw [Option.map_some]
      by_cases storable :
          Policy.isCacheable request.method response.status response.headers = true
      · simp only [if_pos storable]
        rfl
      · simp only [if_neg storable]
        exact layered

theorem hear_cache {gateway : Gateway} {layer : CacheLayer} (layered : gateway.cache = some layer)
    (request : Request) (answer : OriginAnswer) :
    (gateway.hear request (layer.key? request) answer).1.cache =
      some (layer.settle (layer.deposit? gateway.clock.wall request answer)) := by
  cases answer with
  | silence => exact layered
  | failure error => exact layered
  | response response => exact receive_cache layered request response

theorem ask_cache {gateway : Gateway} {layer : CacheLayer} (layered : gateway.cache = some layer)
    (request : Request) (origin : Origin) :
    (gateway.ask request (gateway.key? request) origin).gateway.cache =
      some (layer.settle (layer.deposit? (gateway.clock.advance (origin request).delay).wall request
        (origin request).answer)) := by
  have keyed : gateway.key? request = layer.key? request := by
    rw [key?, layered, Option.bind_some]
  have waiting : (gateway.advance (origin request).delay).cache = some layer := layered
  rw [keyed]
  exact hear_cache waiting request (origin request).answer

def deposit? (gateway : Gateway) : Event → Option Deposit
  | .arrival arrival => do
    let asked ← (arrival.exchange gateway).asked
    let layer ← gateway.cache
    let reply := arrival.origin asked
    layer.deposit? (gateway.clock.advance reply.delay).wall asked reply.answer
  | .pause _ | .scrape _ _ _ | .sweep _ => none

def deposits (gateway : Gateway) : List Event → List Deposit
  | [] => []
  | event :: rest => (gateway.deposit? event).toList ++ (gateway.step event).deposits rest

theorem deposits_append (gateway : Gateway) (earlier later : List Event) :
    gateway.deposits (earlier ++ later) =
      gateway.deposits earlier ++ (gateway.run earlier).deposits later := by
  induction earlier generalizing gateway with
  | nil => rfl
  | cons event rest ih =>
      rw [List.cons_append, deposits, deposits, ih, List.append_assoc]
      rfl

theorem settled_cache (exchange : Exchange) : exchange.settled.cache = exchange.gateway.cache := by
  unfold Exchange.settled
  cases exchange.outcome with
  | answered response => rfl
  | pending => exact abandon_cache exchange.gateway
  | broken => exact abandon_cache exchange.gateway

/-- A request is settled with the layer as it was, or as a look for the request leaves it. -/
theorem arrival_looked {gateway : Gateway} {layer : CacheLayer} (layered : gateway.cache = some layer)
    (arrival : Arrival) :
    ∃ looked, (looked = layer ∧ (arrival.exchange gateway).asked = none ∨
        looked = (layer.look gateway.clock.wall arrival.identified).2) ∧
      (arrival.exchange gateway).gateway.cache =
        some (looked.settle (gateway.deposit? (.arrival arrival))) := by
  obtain ⟨inner, passage, asked, _, cache⟩ := exchange_passage gateway arrival
  rw [cache, deposit?, asked]
  cases passage with
  | aside apart unasked untouched =>
      rw [unasked, untouched]
      exact ⟨layer, Or.inl ⟨rfl, rfl⟩, layered⟩
  | replayed other entry reached held found unasked answered looked =>
      cases layered.symm.trans held
      rw [unasked, looked]
      exact ⟨_, Or.inr rfl, rfl⟩
  | @sent waiting reached absent looked sameClock =>
      rw [layered, Option.map_some] at looked
      have thinned := layer.look_thinned gateway.clock.wall arrival.identified
      refine ⟨_, Or.inr rfl, (ask_cache looked arrival.identified arrival.origin).trans ?_⟩
      rw [sameClock, thinned.deposit?, layered]
      rfl

theorem arrival_cache {gateway : Gateway} {layer : CacheLayer} (layered : gateway.cache = some layer)
    (arrival : Arrival) :
    ∃ looked, layer.Thinned looked ∧
      (arrival.exchange gateway).gateway.cache =
        some (looked.settle (gateway.deposit? (.arrival arrival))) := by
  obtain ⟨looked, ⟨rfl, _⟩ | rfl, cache⟩ := arrival_looked layered arrival
  · exact ⟨looked, looked.thinned_self, cache⟩
  · exact ⟨_, layer.look_thinned _ _, cache⟩

theorem step_cache {gateway : Gateway} {layer : CacheLayer} (layered : gateway.cache = some layer)
    (event : Event) :
    ∃ looked, layer.Thinned looked ∧
      (gateway.step event).cache = some (looked.settle (gateway.deposit? event)) := by
  cases event with
  | arrival arrival =>
      obtain ⟨looked, thinned, cache⟩ := arrival_cache layered arrival
      exact ⟨looked, thinned, (settled_cache _).trans cache⟩
  | pause length => exact ⟨layer, layer.thinned_self, layered⟩
  | scrape path method target =>
      exact ⟨layer, layer.thinned_self, (scrape_cache gateway path method target).trans layered⟩
  | sweep idle => exact ⟨layer, layer.thinned_self, layered⟩

/-! ### Along a run -/

/-- A deposit is the last one of a run under its key. -/
def LastDeposit (start : Gateway) (events : List Event) (deposit : Deposit) : Prop :=
  ∃ earlier source later, events = earlier ++ source :: later ∧
    (start.run earlier).deposit? source = some deposit ∧
    ∀ other ∈ (start.run (earlier ++ [source])).deposits later, other.key ≠ deposit.key

theorem run_concat (start : Gateway) (events : List Event) (event : Event) :
    start.run (events ++ [event]) = (start.run events).step event :=
  run_append start events [event]

theorem lastDeposit_concat {start : Gateway} {events : List Event} {event : Event}
    {deposit : Deposit} (stored : (start.run events).deposit? event = some deposit) :
    start.LastDeposit (events ++ [event]) deposit := by
  refine ⟨events, event, [], rfl, stored, ?_⟩
  intro other member
  cases member

theorem LastDeposit.concat {start : Gateway} {events : List Event} {deposit : Deposit}
    (last : start.LastDeposit events deposit) {event : Event}
    (others : ∀ other, (start.run events).deposit? event = some other →
      other.key ≠ deposit.key) : start.LastDeposit (events ++ [event]) deposit := by
  obtain ⟨earlier, source, later, rfl, stored, none⟩ := last
  refine ⟨earlier, source, later ++ [event], ?_, stored, ?_⟩
  · rw [List.append_assoc, List.cons_append]
  · intro other member
    rw [deposits_append, List.mem_append] at member
    rcases member with before | now
    · exact none other before
    · rw [deposits, deposits, List.append_nil, Option.mem_toList, ← run_append,
        List.append_assoc, List.singleton_append] at now
      exact others other now

theorem LastDeposit.split {start : Gateway} {events : List Event} {deposit : Deposit}
    (last : start.LastDeposit events deposit) :
    ∃ before after, start.deposits events = before ++ deposit :: after ∧
      ∀ other ∈ after, other.key ≠ deposit.key := by
  obtain ⟨earlier, source, later, rfl, stored, none⟩ := last
  refine ⟨start.deposits earlier, (start.run (earlier ++ [source])).deposits later, ?_, none⟩
  rw [deposits_append, deposits, stored, Option.toList_some, List.singleton_append, run_concat]

theorem LastDeposit.unique {start : Gateway} {events : List Event} {left right : Deposit}
    (leftLast : start.LastDeposit events left) (rightLast : start.LastDeposit events right)
    (sameKey : left.key = right.key) : left = right := by
  obtain ⟨before, after, split, none⟩ := leftLast.split
  obtain ⟨before', after', split', none'⟩ := rightLast.split
  rcases List.append_eq_append_iff.mp (split.symm.trans split') with
    ⟨between, _, rest⟩ | ⟨between, _, rest⟩
  · rcases List.cons_eq_append_iff.mp rest with ⟨_, same⟩ | ⟨between, _, within⟩
    · exact (List.cons.inj same).1.symm
    · have later : right ∈ after := within ▸ List.mem_append_right _ List.mem_cons_self
      exact absurd sameKey.symm (none right later)
  · rcases List.cons_eq_append_iff.mp rest with ⟨_, same⟩ | ⟨between, _, within⟩
    · exact (List.cons.inj same).1
    · have later : left ∈ after' := within ▸ List.mem_append_right _ List.mem_cons_self
      exact absurd sameKey (none' left later)

/-- What holds of the layer after a run that began with an empty store. -/
structure Traced (start : Gateway) (lifetime : Duration) (varyHeaders : List String)
    (events : List Event) (layer : CacheLayer) : Prop where
  layered : (start.run events).cache = some layer
  sameLifetime : layer.defaultLifetime = lifetime
  sameVary : layer.varyHeaders = varyHeaders
  source : ∀ name entry, layer.store.entries.find? name = some entry →
    ∃ deposit, start.LastDeposit events deposit ∧ deposit.key = name ∧
      entry = deposit.entry lifetime

variable {start : Gateway} {lifetime : Duration} {varyHeaders : List String}

theorem traced_nil {maxSize : UInt64}
    (unused : start.cache = some ⟨Store.empty maxSize, lifetime, varyHeaders⟩) :
    start.Traced lifetime varyHeaders [] ⟨Store.empty maxSize, lifetime, varyHeaders⟩ where
  layered := unused
  sameLifetime := rfl
  sameVary := rfl
  source := by
    intro name entry found
    cases found

theorem Traced.concat {events : List Event} {layer : CacheLayer}
    (traced : start.Traced lifetime varyHeaders events layer) (event : Event) :
    ∃ next, start.Traced lifetime varyHeaders (events ++ [event]) next := by
  obtain ⟨looked, thinned, cache⟩ := step_cache traced.layered event
  have kept : looked.defaultLifetime = lifetime := thinned.lifetime.trans traced.sameLifetime
  refine ⟨looked.settle ((start.run events).deposit? event), ?_, ?_, ?_, ?_⟩
  · rw [run_concat, cache]
  · rw [CacheLayer.settle_lifetime, kept]
  · rw [CacheLayer.settle_vary, thinned.vary, traced.sameVary]
  · intro name entry found
    -- The event deposits under the key, or the last deposit before it stays the last.
    rcases CacheLayer.find?_of_settle found with ⟨deposit, stored, same, made⟩ | ⟨none, held⟩
    · rw [kept] at made
      exact ⟨deposit, lastDeposit_concat stored, same, made⟩
    · obtain ⟨deposit, last, same, made⟩ := traced.source name entry (thinned.held name entry held)
      have others : ∀ other, (start.run events).deposit? event = some other →
          other.key ≠ deposit.key := by
        intro other stored
        rw [same]
        exact none other stored
      exact ⟨deposit, last.concat others, same, made⟩

theorem traced_run {maxSize : UInt64}
    (unused : start.cache = some ⟨Store.empty maxSize, lifetime, varyHeaders⟩)
    (events : List Event) : ∃ layer, start.Traced lifetime varyHeaders events layer := by
  induction events using List.reverseRecOn with
  | nil => exact ⟨_, traced_nil unused⟩
  | append_singleton events event ih =>
      obtain ⟨layer, traced⟩ := ih
      exact traced.concat event

end Gateway

end CachingGateway

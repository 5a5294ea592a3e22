/-
The tags of reads. A service answers reads by their method and target. Then every read that comes as far
as the proxy and may be stored is given the tag of the body that the service sends for its method,
whether it is answered from the store or not. A HEAD has no body, so it is given the tag of the empty
one, and agrees with a GET only where that is the tag of the body of the GET.
-/

import CachingGateway.Proofs.Cache.KeySeparation
import CachingGateway.Proofs.Gateway.Confirmation
import CachingGateway.Proofs.Gateway.StoreTransparency

namespace CachingGateway

/-! ### Services that answer by method and target -/

/-- The answers to reads depend on their method and target only. -/
def Origin.Serves (origin : Origin) (service : Method → Target → OriginAnswer) : Prop :=
  ∀ request, Policy.isCacheableMethod request.method = true →
    (origin request).answer = service request.method request.target

def OriginAnswer.bodiless : OriginAnswer → OriginAnswer
  | .response reply => .response { reply with body := [] }
  | .failure error => .failure error
  | .silence => .silence

/-- A HEAD is answered as a GET is, without the body. -/
def MirrorsReads (service : Method → Target → OriginAnswer) : Prop :=
  ∀ target, service Method.head target = (service Method.get target).bodiless

theorem Policy.read_of_storable {method : Method} {status : Status} {headers : Headers}
    (storable : isCacheable method status headers = true) : isCacheableMethod method = true := by
  rw [isCacheable, Bool.and_assoc, Bool.and_eq_true] at storable
  exact storable.1

structure ReadIn (events : List Event) (arrival : Arrival) : Prop where
  among : .arrival arrival ∈ events
  read : Policy.isCacheableMethod arrival.request.method = true

/-- The digests of keys tell the reads of a run apart, and reads of one method that share a key are
answered alike. -/
structure KeysTell (service : Method → Target → OriginAnswer) (varyHeaders : List String)
    (events : List Event) : Prop where
  distinguished : ∀ first second, ReadIn events first → ReadIn events second →
    CacheKey.Distinguishes
      (Octets.ofText (CacheKey.Ingredients.ofRequest first.identified varyHeaders).text)
      (Octets.ofText (CacheKey.Ingredients.ofRequest second.identified varyHeaders).text)
  unambiguous : ∀ first second, ReadIn events first → ReadIn events second →
    CacheKey.ofRequest first.identified varyHeaders =
      CacheKey.ofRequest second.identified varyHeaders →
    first.request.method = second.request.method →
    service first.request.method first.request.target =
      service second.request.method second.request.target

/-- In a run a request of a method for a target comes as far as the proxy and is given an answer. -/
def Gateway.Gives (start : Gateway) (events : List Event) (method : Method) (target : Target)
    (answer : Response) : Prop :=
  ∃ before arrival after, events = before ++ .arrival arrival :: after ∧
    arrival.request.method = method ∧ arrival.request.target = target ∧
    (start.run before).Reaches arrival.identified ∧
    (arrival.exchange (start.run before)).outcome = .answered answer

variable {service : Method → Target → OriginAnswer} {varyHeaders : List String} {events : List Event}

theorem Arrival.identified_target (arrival : Arrival) :
    arrival.identified.target = arrival.request.target :=
  RequestId.assign_target arrival.request arrival.fresh

theorem Origin.Serves.reply {arrival : Arrival} (serves : arrival.origin.Serves service)
    (read : Policy.isCacheableMethod arrival.request.method = true) :
    (arrival.origin arrival.identified).answer =
      service arrival.request.method arrival.request.target := by
  rw [← arrival.identified_method] at read
  rw [serves arrival.identified read, arrival.identified_method, arrival.identified_target]

theorem KeysTell.answer_eq (tell : KeysTell service varyHeaders events) {first second : Arrival}
    (firstIn : ReadIn events first) (secondIn : ReadIn events second)
    (shared : CacheKey.ofRequest first.identified varyHeaders =
      CacheKey.ofRequest second.identified varyHeaders) :
    service first.request.method first.request.target =
      service second.request.method second.request.target := by
  have firstRead := firstIn.read
  have secondRead := secondIn.read
  rw [← Arrival.identified_method] at firstRead secondRead
  have same := shared
  rw [CacheKey.ofRequest_eq, CacheKey.ofRequest_eq,
    CacheKey.ofDigest_eq_iff (tell.distinguished first second firstIn secondIn),
    CacheKey.Ingredients.text_eq_iff firstRead secondRead] at same
  have methods : first.request.method = second.request.method := by
    rw [← first.identified_method, ← second.identified_method]
    exact same.1
  exact tell.unambiguous first second firstIn secondIn shared methods

/-! ### One read -/

namespace Gateway

variable {start : Gateway} {maxSize : UInt64} {lifetime : Duration}

theorem tag_of_read (unused : start.cache = some ⟨Store.empty maxSize, lifetime, varyHeaders⟩)
    (served : ∀ source, .arrival source ∈ events → source.origin.Serves service)
    (tell : KeysTell service varyHeaders events) {before after : List Event} {arrival : Arrival}
    (split : events = before ++ .arrival arrival :: after)
    (reached : (start.run before).Reaches arrival.identified) {reply : Response}
    (replied : service arrival.request.method arrival.request.target = .response reply)
    (storable : Policy.isCacheable arrival.request.method reply.status reply.headers = true) :
    ∃ answer, (arrival.exchange (start.run before)).outcome = .answered answer ∧
      answer.headers.values Replay.entityTag = [Octets.ofText (Policy.entityTag reply.body)] := by
  have among : .arrival arrival ∈ events := by
    rw [split]
    exact List.mem_append_right _ List.mem_cons_self
  have arrivalIn : ReadIn events arrival := ⟨among, Policy.read_of_storable storable⟩
  obtain ⟨layer, traced⟩ := traced_run unused before
  rcases reached_outcome traced.layered reached with
    ⟨entry, found, _, outcome⟩ | ⟨_, _, outcome⟩
  · -- The entry was stored for an earlier read that the service answered alike.
    obtain ⟨deposit, last, keyed, rfl, _⟩ := traced.look found
    obtain ⟨earlier, source, later, parted, made, named, _⟩ := last.arrival unused
    have within : .arrival source ∈ events := by
      rw [split, parted]
      exact List.mem_append_left _ (List.mem_append_right _ List.mem_cons_self)
    have sourceIn : ReadIn events source := ⟨within, Policy.read_of_storable made.storable⟩
    have alike := tell.answer_eq sourceIn arrivalIn (named.symm.trans keyed)
    have stored := (served source within).reply sourceIn.read
    rw [made.replied, alike, replied] at stored
    cases stored
    refine ⟨_, outcome, ?_⟩
    rw [deposit.answer_entry, finish_values reached.proxied _ (by decide) (by decide)]
    exact (deposit.answer_values arrival.identified).2
  · rw [(served arrival among).reply arrivalIn.read, replied, OriginAnswer.proxied] at outcome
    refine ⟨_, outcome, ?_⟩
    rw [finish_values reached.proxied _ (by decide) (by decide), Replay.marked, if_pos storable]
    exact Headers.values_replace_self _ _

/-! ### A read with its body and a read without -/

theorem tag_of_given (unused : start.cache = some ⟨Store.empty maxSize, lifetime, varyHeaders⟩)
    (served : ∀ source, .arrival source ∈ events → source.origin.Serves service)
    (tell : KeysTell service varyHeaders events) {method : Method} {target : Target}
    {reply answer : Response} (replied : service method target = .response reply)
    (storable : Policy.isCacheable method reply.status reply.headers = true)
    (given : start.Gives events method target answer) :
    answer.headers.values Replay.entityTag = [Octets.ofText (Policy.entityTag reply.body)] := by
  obtain ⟨before, arrival, after, split, rfl, rfl, reached, answered⟩ := given
  obtain ⟨other, outcome, tagged⟩ := tag_of_read unused served tell split reached replied storable
  cases outcome.symm.trans answered
  exact tagged

end Gateway

/-- Where the answer to GET may be stored, every GET and every HEAD for the target that comes as far as
the proxy is answered, from the store or not, a GET with the tag of its body and a HEAD with the tag of
the empty body. These are the same tag exactly when the two bodies have the same digest. -/
theorem reads_agree_on_tag_iff (start : Gateway) (maxSize : UInt64) (lifetime : Duration)
    (varyHeaders : List String)
    (unused : start.cache = some ⟨Store.empty maxSize, lifetime, varyHeaders⟩)
    (service : Method → Target → OriginAnswer) (mirrored : MirrorsReads service)
    (events : List Event)
    (served : ∀ source, .arrival source ∈ events → source.origin.Serves service)
    (tell : KeysTell service varyHeaders events) (target : Target) (reply : Response)
    (replied : service Method.get target = .response reply)
    (storable : Policy.isCacheable Method.get reply.status reply.headers = true) :
    (∀ before arrival after, events = before ++ .arrival arrival :: after →
        Policy.isCacheableMethod arrival.request.method = true →
        arrival.request.target = target → (start.run before).Reaches arrival.identified →
        ∃ answer, (arrival.exchange (start.run before)).outcome = .answered answer) ∧
      ∀ bodied bare, start.Gives events Method.get target bodied →
        start.Gives events Method.head target bare →
        bodied.headers.values Replay.entityTag =
            [Octets.ofText (Policy.entityTag reply.body)] ∧
          bare.headers.values Replay.entityTag = [Octets.ofText (Policy.entityTag [])] ∧
          (bare.headers.values Replay.entityTag = bodied.headers.values Replay.entityTag ↔
            Sha256.digest [] = Sha256.digest reply.body) := by
  have bareReplied : service Method.head target = .response { reply with body := [] } := by
    rw [mirrored target, replied]
    rfl
  have bareStorable : Policy.isCacheable Method.head reply.status reply.headers = true :=
    isCacheable_of_read storable rfl
  constructor
  · intro before arrival after split read addressed reached
    subst addressed
    rcases Bool.or_eq_true_iff.mp read with get | head
    · rw [← of_decide_eq_true get] at replied storable
      obtain ⟨answer, outcome, _⟩ :=
        Gateway.tag_of_read unused served tell split reached replied storable
      exact ⟨answer, outcome⟩
    · rw [← of_decide_eq_true head] at bareReplied bareStorable
      obtain ⟨answer, outcome, _⟩ :=
        Gateway.tag_of_read unused served tell split reached bareReplied bareStorable
      exact ⟨answer, outcome⟩
  · intro bodied bare givenBodied givenBare
    have tagged := Gateway.tag_of_given unused served tell replied storable givenBodied
    have bareTagged := Gateway.tag_of_given unused served tell bareReplied bareStorable givenBare
    refine ⟨tagged, bareTagged, ?_⟩
    rw [tagged, bareTagged, List.singleton_inj, ← Policy.entityTag_eq_iff]
    constructor
    · exact Octets.ofText_injective
    · intro same
      rw [same]

/-! ### A greeting that is read both ways -/

def greetingService (method : Method) (_ : Target) : OriginAnswer :=
  .response ⟨.ok, Headers.empty, if method = Method.head then [] else [104, 105]⟩

def homeTarget : Target := ⟨none, "", "/", none⟩

def readBy (method : Method) : Arrival :=
  { fresh := []
    request := ⟨method, homeTarget, Headers.empty, [], none⟩
    origin := .prompt fun request => greetingService request.method request.target }

def greetingReads : List Event :=
  [.arrival (readBy Method.get), .arrival (readBy Method.head)]

private theorem greetingReads_cases {source : Arrival} (member : .arrival source ∈ greetingReads) :
    source = readBy Method.get ∨ source = readBy Method.head := by
  rcases List.mem_cons.mp member with first | later
  · exact Or.inl (Event.arrival.inj first)
  · exact Or.inr (Event.arrival.inj (List.mem_singleton.mp later))

private theorem greetingReads_served (source : Arrival) (member : .arrival source ∈ greetingReads) :
    source.origin.Serves greetingService := by
  rcases greetingReads_cases member with rfl | rfl
  · exact fun _ _ => rfl
  · exact fun _ _ => rfl

private theorem greetingReads_tell : KeysTell greetingService [] greetingReads where
  distinguished := by
    intro first second firstIn secondIn
    rcases greetingReads_cases firstIn.among with rfl | rfl
    · rcases greetingReads_cases secondIn.among with rfl | rfl
      · exact fun _ => rfl
      · exact fun same => absurd same (by decide +kernel)
    · rcases greetingReads_cases secondIn.among with rfl | rfl
      · exact fun same => absurd same (by decide +kernel)
      · exact fun _ => rfl
  unambiguous := by
    intro first second _ _ _ methods
    rw [methods]
    rfl

private theorem greetingReads_given :
    ∃ bodied bare, emptyGateway.Gives greetingReads Method.get homeTarget bodied ∧
      emptyGateway.Gives greetingReads Method.head homeTarget bare := by
  have bodiedPlace : greetingReads =
      [] ++ .arrival (readBy Method.get) :: [.arrival (readBy Method.head)] := rfl
  have barePlace : greetingReads =
      [.arrival (readBy Method.get)] ++ .arrival (readBy Method.head) :: [] := rfl
  have bodiedReached : emptyGateway.Reaches (readBy Method.get).identified :=
    { admitted := rfl
      proxied := by decide }
  have bareReached : (emptyGateway.run [.arrival (readBy Method.get)]).Reaches
      (readBy Method.head).identified :=
    { admitted := rfl
      proxied := by decide }
  have empty : emptyGateway.cache = some ⟨Store.empty 1000, Duration.ofSeconds 60, []⟩ := rfl
  obtain ⟨bodied, bodiedOutcome, _⟩ :=
    Gateway.tag_of_read empty greetingReads_served greetingReads_tell bodiedPlace bodiedReached rfl
      rfl
  obtain ⟨bare, bareOutcome, _⟩ :=
    Gateway.tag_of_read empty greetingReads_served greetingReads_tell barePlace bareReached rfl rfl
  exact ⟨bodied, bare, ⟨_, _, _, bodiedPlace, rfl, rfl, bodiedReached, bodiedOutcome⟩,
    ⟨_, _, _, barePlace, rfl, rfl, bareReached, bareOutcome⟩⟩

theorem reads_of_greeting_have_own_tags :
    emptyGateway.cache = some ⟨Store.empty 1000, Duration.ofSeconds 60, []⟩ ∧
      MirrorsReads greetingService ∧
      (∀ source, .arrival source ∈ greetingReads → source.origin.Serves greetingService) ∧
      KeysTell greetingService [] greetingReads ∧
      greetingService Method.get homeTarget = .response ⟨.ok, Headers.empty, [104, 105]⟩ ∧
      Policy.isCacheable Method.get .ok Headers.empty = true ∧
      ∃ bodied bare, emptyGateway.Gives greetingReads Method.get homeTarget bodied ∧
        emptyGateway.Gives greetingReads Method.head homeTarget bare ∧
        bodied.headers.values Replay.entityTag =
          [Octets.ofText (Policy.entityTag [104, 105])] ∧
        bare.headers.values Replay.entityTag = [Octets.ofText (Policy.entityTag [])] := by
  obtain ⟨bodied, bare, bodiedGiven, bareGiven⟩ := greetingReads_given
  have mirrored : MirrorsReads greetingService := fun _ => rfl
  obtain ⟨_, tags⟩ := reads_agree_on_tag_iff emptyGateway 1000 (Duration.ofSeconds 60) [] rfl
    greetingService mirrored greetingReads greetingReads_served greetingReads_tell homeTarget
    ⟨.ok, Headers.empty, [104, 105]⟩ rfl rfl
  obtain ⟨bodiedTag, bareTag, _⟩ := tags bodied bare bodiedGiven bareGiven
  exact ⟨rfl, mirrored, greetingReads_served, greetingReads_tell, rfl, rfl, bodied, bare,
    bodiedGiven, bareGiven, bodiedTag, bareTag⟩

/-- A GET and a HEAD for one target with different tags. -/
theorem head_has_another_tag :
    emptyGateway.cache = some ⟨Store.empty 1000, Duration.ofSeconds 60, []⟩ ∧
      MirrorsReads greetingService ∧
      (∀ source, .arrival source ∈ greetingReads → source.origin.Serves greetingService) ∧
      KeysTell greetingService [] greetingReads ∧
      ∃ bodied bare, emptyGateway.Gives greetingReads Method.get homeTarget bodied ∧
        emptyGateway.Gives greetingReads Method.head homeTarget bare ∧
        bare.headers.values Replay.entityTag ≠ bodied.headers.values Replay.entityTag := by
  obtain ⟨bodied, bare, bodiedGiven, bareGiven⟩ := greetingReads_given
  have empty : emptyGateway.cache = some ⟨Store.empty 1000, Duration.ofSeconds 60, []⟩ := rfl
  have bodiedTag :=
    Gateway.tag_of_given empty greetingReads_served greetingReads_tell rfl rfl bodiedGiven
  have bareTag :=
    Gateway.tag_of_given empty greetingReads_served greetingReads_tell rfl rfl bareGiven
  refine ⟨empty, fun _ => rfl, greetingReads_served, greetingReads_tell, bodied, bare, bodiedGiven,
    bareGiven, ?_⟩
  rw [bodiedTag, bareTag]
  decide +kernel

end CachingGateway

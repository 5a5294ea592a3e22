/-
What clients see of the store's settings. A service answers at once, and all requests that share a key
alike. Then two gateways that differ in the size of their stores and the default lifetime answer the
same requests in the same way, up to the mark that tells a hit from a miss and identifiers they make up.
-/

import CachingGateway.Proofs.Gateway.Outcomes
import Mathlib.Data.List.Forall2

namespace CachingGateway

/-! ### Answers that are alike -/

/-- Fields at one place of two answers to a request. Each gateway gives the request an identifier of its
own if it has none. -/
inductive HeaderField.Alike (request : Request) (leftFresh rightFresh : Octets) :
    HeaderField → HeaderField → Prop where
  | same (field : HeaderField) : Alike request leftFresh rightFresh field field
  | mark {left right : Octets} (leftMark : left = Replay.hit ∨ left = Replay.miss)
      (rightMark : right = Replay.hit ∨ right = Replay.miss) :
      Alike request leftFresh rightFresh ⟨Replay.cacheMark, left⟩ ⟨Replay.cacheMark, right⟩
  | generated (absent : request.headers.contains RequestId.header = false) :
      Alike request leftFresh rightFresh ⟨RequestId.header, leftFresh⟩
        ⟨RequestId.header, rightFresh⟩

def Headers.Alike (request : Request) (leftFresh rightFresh : Octets) (left right : Headers) : Prop :=
  List.Forall₂ (HeaderField.Alike request leftFresh rightFresh) left.fields right.fields

structure Response.Alike (request : Request) (leftFresh rightFresh : Octets)
    (left right : Response) : Prop where
  status : left.status = right.status
  headers : left.headers.Alike request leftFresh rightFresh right.headers
  body : left.body = right.body

inductive Outcome.Alike (request : Request) (leftFresh rightFresh : Octets) :
    Outcome → Outcome → Prop where
  | answered {left right : Response} (alike : left.Alike request leftFresh rightFresh right) :
      Alike request leftFresh rightFresh (.answered left) (.answered right)
  | pending : Alike request leftFresh rightFresh .pending .pending

section

variable {request : Request} {leftFresh rightFresh : Octets}

theorem HeaderField.Alike.name {left right : HeaderField}
    (alike : left.Alike request leftFresh rightFresh right) : left.name = right.name := by
  cases alike <;> rfl

namespace Headers

variable {left right : Headers}

theorem alike_self (headers : Headers) : headers.Alike request leftFresh rightFresh headers :=
  List.forall₂_same.mpr fun field _ => .same field

theorem Alike.contains (alike : left.Alike request leftFresh rightFresh right) (name : HeaderName) :
    left.contains name = right.contains name := by
  obtain ⟨leftFields⟩ := left
  obtain ⟨rightFields⟩ := right
  unfold Headers.contains
  change List.Forall₂ (HeaderField.Alike request leftFresh rightFresh) leftFields rightFields at alike
  induction alike with
  | nil => rfl
  | cons head tail ih =>
      have rest := ih
      dsimp only at rest ⊢
      rw [List.any_cons, List.any_cons, rest, head.name]

theorem Alike.append (alike : left.Alike request leftFresh rightFresh right) {name : HeaderName}
    {first second : Octets}
    (last : HeaderField.Alike request leftFresh rightFresh ⟨name, first⟩ ⟨name, second⟩) :
    (left.append name first).Alike request leftFresh rightFresh (right.append name second) :=
  List.rel_append alike (.cons last .nil)

theorem Alike.remove (alike : left.Alike request leftFresh rightFresh right) (name : HeaderName) :
    (left.remove name).Alike request leftFresh rightFresh (right.remove name) := by
  refine List.rel_filter ?_ alike
  intro first second fields
  dsimp only
  rw [fields.name]

theorem Alike.replace (alike : left.Alike request leftFresh rightFresh right) {name : HeaderName}
    {first second : Octets}
    (last : HeaderField.Alike request leftFresh rightFresh ⟨name, first⟩ ⟨name, second⟩) :
    (left.replace name first).Alike request leftFresh rightFresh (right.replace name second) :=
  (alike.remove name).append last

end Headers

/-! ### From the proxy to the client -/

theorem Replay.marked_alike {method : Method} {leftMark rightMark : Octets}
    (left : leftMark = Replay.hit ∨ leftMark = Replay.miss)
    (right : rightMark = Replay.hit ∨ rightMark = Replay.miss) (response : Response) :
    (Replay.marked method leftMark response).Alike request leftFresh rightFresh
      (Replay.marked method rightMark response) := by
  have marks : (response.headers.replace Replay.cacheMark leftMark).Alike request leftFresh rightFresh
      (response.headers.replace Replay.cacheMark rightMark) :=
    response.headers.alike_self.replace (.mark left right)
  refine ⟨rfl, ?_, rfl⟩
  unfold Replay.marked
  dsimp only
  split
  · exact marks.replace (.same _)
  · exact marks

theorem OriginAnswer.proxied_alike (answer : OriginAnswer) {method : Method}
    {leftMark rightMark : Octets} (left : leftMark = Replay.hit ∨ leftMark = Replay.miss)
    (right : rightMark = Replay.hit ∨ rightMark = Replay.miss) :
    (answer.proxied method leftMark).Alike request leftFresh rightFresh
      (answer.proxied method rightMark) := by
  cases answer with
  | response reply => exact .answered (Replay.marked_alike left right reply)
  | failure error =>
      refine .answered ⟨rfl, ?_, rfl⟩
      exact error.headers.alike_self.replace (.mark left right)
  | silence => exact .pending

namespace Response

variable {left right : Response}

theorem Alike.propagate (alike : left.Alike request leftFresh rightFresh right) :
    (RequestId.propagate (RequestId.assign request leftFresh) left).Alike request leftFresh
      rightFresh (RequestId.propagate (RequestId.assign request rightFresh) right) := by
  have carried := alike.headers.contains RequestId.header
  unfold RequestId.propagate
  rw [carried]
  split
  · exact alike
  · cases identified : request.headers.contains RequestId.header with
    | true =>
        have own (fresh : Octets) : RequestId.assign request fresh = request := by
          rw [RequestId.assign, identified, if_pos rfl]
        rw [own, own]
        cases request.headers.first? RequestId.header with
        | none => exact alike
        | some identifier => exact ⟨alike.status, alike.headers.append (.same _), alike.body⟩
    | false =>
        have made (fresh : Octets) :
            (RequestId.assign request fresh).headers.first? RequestId.header = some fresh := by
          rw [RequestId.assign, identified, if_neg Bool.false_ne_true]
          exact request.headers.first?_append_of_absent fresh identified
        rw [made, made]
        exact ⟨alike.status, alike.headers.append (.generated identified), alike.body⟩

theorem Alike.complete (alike : left.Alike request leftFresh rightFresh right) :
    (ContentLength.complete left).Alike request leftFresh rightFresh
      (ContentLength.complete right) := by
  have stated := alike.headers.contains ContentLength.header
  unfold ContentLength.complete
  rw [stated, alike.body]
  split
  · exact alike
  · exact ⟨alike.status, alike.headers.append (.same _), rfl⟩

theorem Alike.own (alike : left.Alike request leftFresh rightFresh right) (method : Method) :
    (OwnRoute.finish method left).Alike request leftFresh rightFresh
      (OwnRoute.finish method right) := by
  have complete := alike.complete
  have listed : Response.Alike request leftFresh rightFresh
      { ContentLength.complete left with
        headers := (ContentLength.complete left).headers.append OwnRoute.allowed
          (Octets.ofText "GET,HEAD") }
      { ContentLength.complete right with
        headers := (ContentLength.complete right).headers.append OwnRoute.allowed
          (Octets.ofText "GET,HEAD") } :=
    ⟨complete.status, complete.headers.append (.same _), complete.body⟩
  have contained := complete.headers.contains OwnRoute.allowed
  unfold OwnRoute.finish
  dsimp only
  rw [contained]
  split
  · split
    · exact ⟨complete.status, complete.headers, rfl⟩
    · exact ⟨listed.status, listed.headers, rfl⟩
  · split
    · exact complete
    · exact listed

theorem Alike.finish (alike : left.Alike request leftFresh rightFresh right) :
    (Gateway.finish (RequestId.assign request leftFresh) left).Alike request leftFresh rightFresh
      (Gateway.finish (RequestId.assign request rightFresh) right) := by
  unfold Gateway.finish
  simp only [RequestId.assign_target, RequestId.assign_method]
  split
  · exact alike.propagate.own request.method
  · exact alike.propagate.complete

end Response

theorem Outcome.Alike.finish {left right : Outcome}
    (alike : left.Alike request leftFresh rightFresh right) :
    (Gateway.finishOutcome (RequestId.assign request leftFresh) left).Alike request leftFresh
      rightFresh (Gateway.finishOutcome (RequestId.assign request rightFresh) right) := by
  cases alike with
  | answered alike => exact .answered alike.finish
  | pending => exact .pending

end

/-! ### Clients and their service -/

inductive ClientStep where
  | visit (request : Request)
  | pause (length : Duration)

/-- A service that answers at once, by the request alone. -/
def Origin.prompt (service : Request → OriginAnswer) : Origin := fun request =>
  ⟨Duration.zero, service request⟩

/-- A service that tells reads apart by their keys at most. -/
def AnswersByKey (service : Request → OriginAnswer) (varyHeaders : List String) : Prop :=
  ∀ first second : Request, Policy.isCacheableMethod first.method = true →
    Policy.isCacheableMethod second.method = true →
    CacheKey.ofRequest first varyHeaders = CacheKey.ofRequest second varyHeaders →
    service first = service second

def Request.visit (request : Request) (service : Request → OriginAnswer) (fresh : Octets) : Arrival :=
  ⟨fresh, request, .prompt service⟩

namespace ClientStep

def event (service : Request → OriginAnswer) (fresh : Octets) : ClientStep → Event
  | .visit request => .arrival (request.visit service fresh)
  | .pause length => .pause length

/-- What the gateway is given to do; the identifiers it makes up are numbered by the steps. -/
def events (service : Request → OriginAnswer) (fresh : Nat → Octets) (steps : List ClientStep) :
    List Event :=
  steps.mapIdx fun place step => step.event service (fresh place)

/-- The clocks after steps of a client whose service takes no time. -/
def clockAfter (clock : Clock) (steps : List ClientStep) : Clock :=
  steps.foldl
    (fun reading step =>
      match step with
      | .visit _ => reading
      | .pause length => reading.advance length)
    clock

end ClientStep

open ClientStep

variable {start : Gateway} {service : Request → OriginAnswer} {fresh : Nat → Octets}

theorem run_frame (unlimited : start.admission = none) (steps : List ClientStep) :
    (start.run (events service fresh steps)).clock = clockAfter start.clock steps ∧
      (start.run (events service fresh steps)).admission = none := by
  induction steps using List.reverseRecOn with
  | nil => exact ⟨rfl, unlimited⟩
  | append_singleton steps step ih =>
      have clocks : clockAfter start.clock (steps ++ [step]) =
          clockAfter (clockAfter start.clock steps) [step] := List.foldl_append
      have split : events service fresh (steps ++ [step]) =
          events service fresh steps ++ [step.event service (fresh steps.length)] :=
        List.mapIdx_concat
      rw [clocks, split, Gateway.run_concat, ← ih.1]
      cases step with
      | visit request =>
          have atOnce : ∀ asked, (Origin.prompt service asked).delay = Duration.zero := fun _ => rfl
          have kept := Gateway.arrival_keeps atOnce ih.2 (fresh steps.length) request
          exact ⟨kept.clock, kept.admission.trans ih.2⟩
      | pause length => exact ⟨rfl, ih.2⟩

theorem origin_of_mem_events {steps : List ClientStep} {source : Arrival}
    (member : .arrival source ∈ events service fresh steps) : source.origin = .prompt service := by
  obtain ⟨place, inside, made⟩ := List.mem_mapIdx.mp member
  cases step : steps[place] with
  | visit request =>
      rw [step] at made
      cases made
      rfl
  | pause length =>
      rw [step] at made
      cases made

theorem isCacheable_of_read {stored sought : Method} {status : Status} {headers : Headers}
    (storable : Policy.isCacheable stored status headers = true)
    (read : Policy.isCacheableMethod sought = true) :
    Policy.isCacheable sought status headers = true := by
  rw [Policy.isCacheable, Bool.and_assoc, Bool.and_eq_true] at storable ⊢
  exact ⟨read, storable.2⟩

/-! ### One gateway -/

/-- What becomes of a request, by the mark of the store that its answer would bear. -/
def visitOutcome (service : Request → OriginAnswer) (request : Request) (now : WallClock)
    (mark : Octets) : Outcome :=
  if Route.ofPath request.target.path = .proxied then
    (service request).proxied request.method mark
  else .answered (Gateway.ownResponse request.target.path request.method now)

variable {maxSize : UInt64} {lifetime : Duration} {varyHeaders : List String}

/-- A stored entry is what the service would answer now. -/
theorem replay_of_look {events : List Event} {layer : CacheLayer}
    (unused : start.cache = some ⟨Store.empty maxSize, lifetime, varyHeaders⟩)
    (byKey : AnswersByKey service varyHeaders)
    (origins : ∀ source, .arrival source ∈ events → source.origin = .prompt service)
    (traced : start.Traced lifetime varyHeaders events layer) {now : WallClock} {request : Request}
    (untagged : request.headers.contains Replay.ifNoneMatch = false) {entry : Entry}
    (found : (layer.look now request).1 = some entry) :
    Outcome.answered (Replay.answer entry request) =
      (service request).proxied request.method Replay.hit := by
  have read := CacheLayer.read_of_found found
  obtain ⟨deposit, last, keyed, rfl, _⟩ := traced.look found
  obtain ⟨earlier, source, later, split, made, named, _⟩ := last.arrival unused
  have within : .arrival source ∈ events := by
    rw [split]
    exact List.mem_append_right _ List.mem_cons_self
  have replied := made.replied
  rw [origins source within] at replied
  have sourceRead : Policy.isCacheableMethod source.identified.method = true := by
    obtain ⟨held, _, keyedThen⟩ := Option.bind_eq_some_iff.mp made.keyed
    exact (CacheLayer.key?_eq_some_iff.mp keyedThen).1
  have answer : service request = .response deposit.response := by
    have agreed := byKey source.identified request sourceRead read (named.symm.trans keyed)
    exact agreed.symm.trans replied
  have unnamed : request.headers.firstText? Replay.ifNoneMatch = none := by
    have missing := (request.headers.first?_eq_none_iff Replay.ifNoneMatch).mpr untagged
    rw [Headers.firstText?, missing, Option.bind_none]
  have storable := isCacheable_of_read made.storable read
  rw [deposit.answer_entry, Deposit.answer_of_unnamed storable unnamed, answer]
  rfl

def Gateway.outcomeAfter (start : Gateway) (service : Request → OriginAnswer) (fresh : Nat → Octets)
    (steps : List ClientStep) (request : Request) : Outcome :=
  ((request.visit service (fresh steps.length)).exchange
    (start.run (events service fresh steps))).outcome

theorem outcomeAfter_eq (unused : start.cache = some ⟨Store.empty maxSize, lifetime, varyHeaders⟩)
    (unlimited : start.admission = none) (byKey : AnswersByKey service varyHeaders)
    (fresh : Nat → Octets) (steps : List ClientStep) {request : Request}
    (untagged : request.headers.contains Replay.ifNoneMatch = false) :
    ∃ mark, (mark = Replay.hit ∨ mark = Replay.miss) ∧
      start.outcomeAfter service fresh steps request =
        Gateway.finishOutcome (RequestId.assign request (fresh steps.length))
          (visitOutcome service (RequestId.assign request (fresh steps.length))
            (clockAfter start.clock steps).wall mark) := by
  let arrival := request.visit service (fresh steps.length)
  obtain ⟨layer, traced⟩ := Gateway.traced_run unused (events service fresh steps)
  have frame : (start.run (events service fresh steps)).clock = clockAfter start.clock steps ∧
      (start.run (events service fresh steps)).admission = none := run_frame unlimited steps
  have tagless : arrival.identified.headers.contains Replay.ifNoneMatch = false := by
    rw [arrival.identified_contains (by decide)]
    exact untagged
  have replays {now : WallClock} {entry : Entry}
      (found : (layer.look now arrival.identified).1 = some entry) :=
    replay_of_look unused byKey (fun _ => origin_of_mem_events) traced tagless found
  have layered := traced.layered
  change ∃ mark, _ ∧ (arrival.exchange (start.run (events service fresh steps))).outcome =
    Gateway.finishOutcome arrival.identified (visitOutcome service arrival.identified _ mark)
  -- Of the run only its clocks, its missing limiter and what its store can answer still matter.
  generalize start.run (events service fresh steps) = gateway at frame layered ⊢
  have admitted : gateway.admits arrival.identified = true := by
    rw [Gateway.admits, frame.2]
  by_cases proxied : Route.ofPath arrival.identified.target.path = .proxied
  · rcases Gateway.reached_outcome layered ⟨admitted, proxied⟩ with ⟨entry, found, _, outcome⟩ |
      ⟨_, _, outcome⟩
    · refine ⟨Replay.hit, Or.inl rfl, ?_⟩
      rw [outcome, replays found, visitOutcome, if_pos proxied]
    · refine ⟨Replay.miss, Or.inr rfl, ?_⟩
      rw [outcome, visitOutcome, if_pos proxied, arrival.identified_method]
      rfl
  · have unlimitedStill := (Gateway.record_admission gateway Metrics.enter).trans frame.2
    refine ⟨Replay.miss, Or.inr rfl, ?_⟩
    rw [Gateway.exchange_outcome, Gateway.passLimiter_of_unlimited unlimitedStill,
      Gateway.answer_outcome_of_own proxied, Gateway.record_clock, frame.1, visitOutcome,
      if_neg proxied]

/-! ### Two gateways -/

theorem visitOutcome_alike {request : Request} {leftFresh rightFresh : Octets}
    (blind : service (RequestId.assign request leftFresh) =
      service (RequestId.assign request rightFresh)) (now : WallClock) {leftMark rightMark : Octets}
    (left : leftMark = Replay.hit ∨ leftMark = Replay.miss)
    (right : rightMark = Replay.hit ∨ rightMark = Replay.miss) :
    (visitOutcome service (RequestId.assign request leftFresh) now leftMark).Alike request leftFresh
      rightFresh (visitOutcome service (RequestId.assign request rightFresh) now rightMark) := by
  simp only [visitOutcome, RequestId.assign_target, RequestId.assign_method, blind]
  split
  · exact OriginAnswer.proxied_alike _ left right
  · exact .answered ⟨rfl, Headers.alike_self _, rfl⟩

/-- The settings with a store of another size and default lifetime. -/
def Settings.withStore (settings : Settings) (size lifetime : Nat) : Settings :=
  { settings with cache := { settings.cache with maxSize := size, defaultLifetime := lifetime } }

/-- The size of the store and the default lifetime do not show. A client whose request names no tag gets
the same status, body and header fields whatever they are and whatever came before, up to the mark of the
store and an identifier that was made up. The service is not to go by made-up identifiers, unless both
gateways make up the same ones. -/
theorem store_settings_invisible (settings : Settings) (storing : settings.cache.enabled = true)
    (unlimited : settings.rateLimit.enabled = false) (size lifetime : Nat) (clock : Clock)
    (service : Request → OriginAnswer) (byKey : AnswersByKey service settings.cache.varyHeaders)
    (leftFresh rightFresh : Nat → Octets)
    (blind : ∀ place request, service (RequestId.assign request (leftFresh place)) =
      service (RequestId.assign request (rightFresh place)))
    (steps : List ClientStep) (request : Request)
    (untagged : request.headers.contains Replay.ifNoneMatch = false) :
    ((Gateway.ofSettings settings clock).outcomeAfter service leftFresh steps request).Alike request
      (leftFresh steps.length) (rightFresh steps.length)
      ((Gateway.ofSettings (settings.withStore size lifetime) clock).outcomeAfter service rightFresh
        steps request) := by
  have layered (chosen : Settings) (enabled : chosen.cache.enabled = true) :
      (Gateway.ofSettings chosen clock).cache = some (.ofSettings chosen.cache) := by
    rw [Gateway.ofSettings, enabled, if_pos rfl]
  have unguarded (chosen : Settings) (disabled : chosen.rateLimit.enabled = false) :
      (Gateway.ofSettings chosen clock).admission = none := by
    rw [Gateway.ofSettings, disabled, if_neg Bool.false_ne_true]
  obtain ⟨leftMark, left, leftOutcome⟩ := outcomeAfter_eq (layered settings storing)
    (unguarded settings unlimited) byKey leftFresh steps untagged
  obtain ⟨rightMark, right, rightOutcome⟩ := outcomeAfter_eq
    (layered (settings.withStore size lifetime) storing)
    (unguarded (settings.withStore size lifetime) unlimited) byKey rightFresh steps untagged
  have inner := visitOutcome_alike (blind steps.length request) (clockAfter clock steps).wall left right
  rw [leftOutcome, rightOutcome]
  exact inner.finish

/-- A service with one page for all who read, and an echo for all others. -/
def pageOrEcho : Request → OriginAnswer := fun request =>
  if Policy.isCacheableMethod request.method then .response ⟨.ok, Headers.empty, [104, 105]⟩
  else .response ⟨.ok, Headers.empty, request.body⟩

def unlimitedSettings : Settings :=
  { Settings.default with rateLimit := { RateLimitSettings.default with enabled := false } }

def pageVisit : Request :=
  ⟨Method.get, ⟨none, "", "/", none⟩, Headers.empty, [], none⟩

def readerSteps : List ClientStep :=
  [.visit pageVisit, .visit { pageVisit with method := ⟨"POST"⟩, body := [33] },
    .pause (Duration.ofSeconds 400), .visit pageVisit]

theorem store_settings_invisible_to_reader :
    AnswersByKey pageOrEcho unlimitedSettings.cache.varyHeaders ∧
      ((Gateway.ofSettings unlimitedSettings ⟨⟨0⟩, Instant.start⟩).outcomeAfter pageOrEcho
          (fun place => [UInt8.ofNat place]) readerSteps pageVisit).Alike pageVisit [4] []
        ((Gateway.ofSettings (unlimitedSettings.withStore 0 0) ⟨⟨0⟩, Instant.start⟩).outcomeAfter
          pageOrEcho (fun _ => []) readerSteps pageVisit) := by
  have byKey : AnswersByKey pageOrEcho unlimitedSettings.cache.varyHeaders := by
    intro first second firstRead secondRead _
    rw [pageOrEcho, pageOrEcho, if_pos firstRead, if_pos secondRead]
  have blind (request : Request) (fresh : Octets) :
      pageOrEcho (RequestId.assign request fresh) = pageOrEcho request := by
    unfold pageOrEcho RequestId.assign
    split <;> rfl
  refine ⟨byKey, ?_⟩
  exact store_settings_invisible unlimitedSettings rfl rfl 0 0 ⟨⟨0⟩, Instant.start⟩ pageOrEcho byKey
    (fun place => [UInt8.ofNat place]) (fun _ => [])
    (fun _ request => (blind request _).trans (blind request _).symm) readerSteps pageVisit rfl

end CachingGateway

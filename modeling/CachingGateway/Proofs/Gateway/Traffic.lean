/-
Requests that are under way at the same time. Each of them is counted when it comes in, passes the
limiter and the proxy, may wait for the service, and is counted again when its answer leaves; at any time
it may be dropped instead. In whatever order they go on, the gauge of active requests stands at the
number of those that are under way. Requests that come one after the other are a special case.
-/

import CachingGateway.Gateway.Course
import CachingGateway.Proofs.Gateway.RequestCounts

namespace CachingGateway

/-- How far a request has come: it is counted, the limiter has let it through, it waits for the service,
or its answer is ready. -/
inductive Stage where
  | entered
  | admitted
  | waiting
  | answered (response : Response)

structure Carried where
  request : Request
  begun : Instant
  stage : Stage

namespace Carried

/-- What is left of a request once it has an outcome inside. If the gateway fails, the request is gone. -/
def settle (carried : Carried) (exchange : Exchange) : Gateway × Option Carried :=
  match exchange.outcome with
  | .answered response => (exchange.gateway, some { carried with stage := .answered response })
  | .pending => (exchange.gateway, some { carried with stage := .waiting })
  | .broken => (exchange.gateway.abandon, none)

def proceed (carried : Carried) (gateway : Gateway) (answer : OriginAnswer) :
    Gateway × Option Carried :=
  let request := carried.request
  match carried.stage with
  | .entered =>
    if gateway.admits request then
      (gateway.charged request, some { carried with stage := .admitted })
    else carried.settle ((gateway.charged request).deny request)
  | .admitted => carried.settle (gateway.answer request .silent)
  | .waiting =>
    let (heard, outcome) := gateway.hear request (gateway.key? request) answer
    carried.settle ⟨heard, outcome, some request⟩
  | .answered response => (gateway.close request carried.begun (.answered response), none)

end Carried

/-- A gateway and the requests that are under way, the last that came in first. -/
structure Traffic where
  gateway : Gateway
  carried : List Carried

/-- What can happen next. What a request does without waiting is one move at most. -/
inductive Move where
  | enter (fresh : Octets) (request : Request)
  | proceed (place : Nat) (answer : OriginAnswer)
  | drop (place : Nat)
  | pause (length : Duration)
  | scrape (path : String) (method : Method) (target : Target)
  | sweep (idle : Duration)

namespace Traffic

def step (traffic : Traffic) : Move → Traffic
  | .enter fresh request =>
    ⟨traffic.gateway.record Metrics.enter,
      ⟨RequestId.assign request fresh, traffic.gateway.clock.monotonic, .entered⟩ ::
        traffic.carried⟩
  | .proceed place answer =>
    match traffic.carried[place]? with
    | none => traffic
    | some carried =>
      let (gateway, rest) := carried.proceed traffic.gateway answer
      ⟨gateway,
        traffic.carried.take place ++ (rest.toList ++ traffic.carried.drop (place + 1))⟩
  | .drop place =>
    if place < traffic.carried.length then
      ⟨traffic.gateway.abandon, traffic.carried.eraseIdx place⟩
    else traffic
  | .pause length => { traffic with gateway := traffic.gateway.advance length }
  | .scrape path method target =>
    { traffic with gateway := (traffic.gateway.scrape path method target).1 }
  | .sweep idle => { traffic with gateway := traffic.gateway.reclaim idle }

def run (traffic : Traffic) (moves : List Move) : Traffic :=
  moves.foldl step traffic

theorem run_append (traffic : Traffic) (earlier later : List Move) :
    traffic.run (earlier ++ later) = (traffic.run earlier).run later :=
  List.foldl_append

end Traffic

/-! ### The gauge -/

namespace Gateway

/-- A gateway counts requests and has some number of them under way. -/
structure Carries (gateway : Gateway) (number : Nat) : Prop where
  on : gateway.reports = true
  active : gateway.metrics.active = number

variable {gateway : Gateway} {number : Nat} {metrics : Metrics}

theorem Carries.reports (carries : gateway.Carries number) : gateway.Reports gateway.metrics :=
  ⟨carries.on, rfl⟩

theorem Reports.carries (reporting : gateway.Reports metrics) (active : metrics.active = number) :
    gateway.Carries number :=
  ⟨reporting.on, (congrArg Metrics.active reporting.counts).trans active⟩

theorem Carries.record (carries : gateway.Carries number) (change : Metrics → Metrics)
    (keeps : ∀ metrics, (change metrics).active = metrics.active) :
    (gateway.record change).Carries number :=
  (carries.reports.record change).carries ((keeps _).trans carries.active)

theorem Carries.enter (carries : gateway.Carries number) :
    (gateway.record Metrics.enter).Carries (number + 1) := by
  refine (carries.reports.record Metrics.enter).carries ?_
  have active := carries.active
  simp only [Metrics.enter]
  omega

theorem Carries.leave (carries : gateway.Carries (number + 1)) (change : Metrics → Metrics)
    (keeps : ∀ metrics, (change metrics).active = metrics.active) :
    (gateway.record fun metrics => (change metrics).leave).Carries number := by
  refine (carries.reports.record _).carries ?_
  have active := carries.active
  simp only [Metrics.leave, keeps]
  omega

theorem Carries.abandon (carries : gateway.Carries (number + 1)) : gateway.abandon.Carries number :=
  carries.leave id fun _ => rfl

theorem Carries.hear (carries : gateway.Carries number) (request : Request) (key : Option String)
    (answer : OriginAnswer) : (gateway.hear request key answer).1.Carries number :=
  (carries.reports.hear request key answer).carries carries.active

theorem Carries.ask (carries : gateway.Carries number) (request : Request) (key : Option String)
    (origin : Origin) : (gateway.ask request key origin).gateway.Carries number :=
  (carries.reports.ask request key origin).carries carries.active

theorem Carries.deny (carries : gateway.Carries number) (request : Request) :
    (gateway.deny request).gateway.Carries number := by
  unfold Gateway.deny
  split
  · exact carries
  · exact carries.record Metrics.countDrop fun _ => rfl

theorem Carries.proxy (carries : gateway.Carries number) (request : Request) (origin : Origin) :
    (gateway.proxy request origin).gateway.Carries number := by
  cases layered : gateway.cache with
  | none =>
      rw [proxy_of_unlayered layered]
      exact carries.ask request _ origin
  | some layer =>
      have looked : (gateway.looked layer request).Carries number := ⟨carries.on, carries.active⟩
      cases found : (layer.look gateway.clock.wall request).1 with
      | some entry =>
          rw [proxy_of_found layered found]
          exact looked.record (·.countHit request.method request.target.path) fun _ => rfl
      | none =>
          rw [proxy_of_absent layered found]
          have sent : ∀ metrics, (countSent metrics request).active = metrics.active := by
            intro metrics
            unfold countSent
            split <;> rfl
          exact (looked.record (countSent · request) sent).ask request _ origin

theorem Carries.answer (carries : gateway.Carries number) (request : Request) (origin : Origin) :
    (gateway.answer request origin).gateway.Carries number := by
  by_cases routed : Route.ofPath request.target.path = .proxied
  · rw [answer_of_proxied routed]
    exact carries.proxy request origin
  · rw [(answer_of_own routed gateway origin).2]
    exact carries

theorem Carries.scrape (carries : gateway.Carries number) (path : String) (method : Method)
    (target : Target) : (gateway.scrape path method target).1.Carries number := by
  have observed : gateway.observe.Carries number := by
    unfold observe
    split
    · exact ⟨carries.on, carries.active⟩
    · exact carries
  unfold Gateway.scrape
  split
  · exact carries
  · split
    · exact observed
    · exact carries

/-- A request that goes on is still under way, or it is gone and was counted as such. -/
theorem Carries.settle {exchange : Exchange} (carries : exchange.gateway.Carries (number + 1))
    (carried : Carried) :
    (carried.settle exchange).1.Carries (number + (carried.settle exchange).2.toList.length) := by
  unfold Carried.settle
  cases exchange.outcome with
  | answered response => exact carries
  | pending => exact carries
  | broken => exact carries.abandon

theorem Carries.proceed (carries : gateway.Carries (number + 1)) (carried : Carried)
    (answer : OriginAnswer) : (carried.proceed gateway answer).1.Carries
      (number + (carried.proceed gateway answer).2.toList.length) := by
  unfold Carried.proceed
  cases carried.stage with
  | entered =>
      have charged : (gateway.charged carried.request).Carries (number + 1) :=
        ⟨carries.on, carries.active⟩
      dsimp only
      split
      · exact charged
      · exact (charged.deny carried.request).settle carried
  | admitted => exact (carries.answer carried.request .silent).settle carried
  | waiting =>
      have heard := carries.hear carried.request (gateway.key? carried.request) answer
      exact Carries.settle heard carried
  | answered response =>
      let duration := gateway.clock.monotonic.elapsedSince carried.begun
      exact carries.leave (·.countRequest (summary carried.request response duration)) fun _ => rfl

end Gateway

namespace Traffic

def Balanced (traffic : Traffic) : Prop :=
  traffic.gateway.Carries traffic.carried.length

variable {traffic : Traffic}

theorem Balanced.proceed (balanced : traffic.Balanced) (place : Nat) (answer : OriginAnswer) :
    (traffic.step (.proceed place answer)).Balanced := by
  unfold step
  dsimp only
  split
  · exact balanced
  · rename_i carried held
    obtain ⟨within, _⟩ := List.getElem?_eq_some_iff.mp held
    -- The others are one fewer, and the request at the place is added again if it stays.
    have others : traffic.carried.length = traffic.carried.length - 1 + 1 := by omega
    have carries := balanced
    rw [Balanced, others] at carries
    have proceeded := carries.proceed carried answer
    have sizes : (traffic.carried.take place ++ ((carried.proceed traffic.gateway answer).2.toList ++
        traffic.carried.drop (place + 1))).length =
          traffic.carried.length - 1 + (carried.proceed traffic.gateway answer).2.toList.length := by
      simp only [List.length_append, List.length_take, List.length_drop]
      omega
    rw [Balanced, sizes]
    exact proceeded

theorem Balanced.drop (balanced : traffic.Balanced) (place : Nat) :
    (traffic.step (.drop place)).Balanced := by
  unfold step
  dsimp only
  split
  · rename_i within
    have others : traffic.carried.length = (traffic.carried.eraseIdx place).length + 1 := by
      rw [List.length_eraseIdx_of_lt within]
      omega
    have carries := balanced
    rw [Balanced, others] at carries
    exact carries.abandon
  · exact balanced

theorem Balanced.step (balanced : traffic.Balanced) (move : Move) : (traffic.step move).Balanced := by
  cases move with
  | enter fresh request => exact balanced.enter
  | proceed place answer => exact balanced.proceed place answer
  | drop place => exact balanced.drop place
  | pause length => exact ⟨balanced.on, balanced.active⟩
  | scrape path method target => exact balanced.scrape path method target
  | sweep idle => exact ⟨balanced.on, balanced.active⟩

theorem Balanced.run (balanced : traffic.Balanced) (moves : List Move) :
    (traffic.run moves).Balanced := by
  induction moves generalizing traffic with
  | nil => exact balanced
  | cons move rest ih => exact ih (balanced.step move)

/-! ### Requests one after the other -/

def closed (request : Request) (begun : Instant) (exchange : Exchange) : Gateway :=
  Exchange.settled ⟨exchange.gateway.close request begun exchange.outcome,
    Gateway.finishOutcome request exchange.outcome, exchange.asked⟩

theorem run_of_settled (carried : Carried) (exchange : Exchange) :
    ∃ moves, ∀ others, (⟨(carried.settle exchange).1,
        (carried.settle exchange).2.toList ++ others⟩ : Traffic).run moves =
      ⟨closed carried.request carried.begun exchange, others⟩ := by
  obtain ⟨inner, outcome, asked⟩ := exchange
  cases outcome with
  | answered response => exact ⟨[.proceed 0 .silence], fun _ => rfl⟩
  | pending => exact ⟨[.drop 0], fun _ => rfl⟩
  | broken => exact ⟨[], fun _ => rfl⟩

theorem run_of_admitted (gateway : Gateway) (request : Request) (begun : Instant)
    (origin : Origin) :
    ∃ moves, ∀ others, (⟨gateway, ⟨request, begun, .admitted⟩ :: others⟩ : Traffic).run moves =
      ⟨closed request begun (gateway.answer request origin), others⟩ := by
  cases Gateway.answer_course gateway request with
  | own exchange unasked same =>
      obtain ⟨rest, left⟩ := run_of_settled ⟨request, begun, .admitted⟩ exchange
      refine ⟨.proceed 0 .silence :: rest, ?_⟩
      intro others
      rw [same origin, ← left others, ← same .silent]
      rfl
  | sent waiting same =>
      -- The request is left waiting as by a silent service, and the reply comes in later moves.
      let reply := origin request
      let heard := (waiting.advance reply.delay).hear request (waiting.key? request) reply.answer
      obtain ⟨rest, left⟩ :=
        run_of_settled ⟨request, begun, .waiting⟩ ⟨heard.1, heard.2, some request⟩
      refine ⟨.proceed 0 .silence :: .pause reply.delay :: .proceed 0 reply.answer :: rest, ?_⟩
      intro others
      have silent : gateway.answer request .silent = ⟨waiting, .pending, some request⟩ := by
        rw [same, Gateway.ask_silent]
      have waits : (⟨gateway, ⟨request, begun, .admitted⟩ :: others⟩ : Traffic).step
          (.proceed 0 .silence) = ⟨waiting, ⟨request, begun, .waiting⟩ :: others⟩ := by
        change (⟨_, (Carried.settle _ (gateway.answer request .silent)).2.toList ++ others⟩ :
          Traffic) = _
        rw [silent]
        rfl
      rw [run, List.foldl_cons, waits, same origin]
      exact left others

/-- A request that comes in while others are under way, and goes on until it is answered or dropped
before any other does. -/
theorem run_of_arrival (gateway : Gateway) (arrival : Arrival) :
    ∃ moves, ∀ others, (⟨gateway, others⟩ : Traffic).run moves =
      ⟨gateway.step (.arrival arrival), others⟩ := by
  let entered := gateway.record Metrics.enter
  let request := arrival.identified
  let begun := gateway.clock.monotonic
  have stepped : gateway.step (.arrival arrival) =
      closed request begun (entered.passLimiter request arrival.origin) := rfl
  rw [stepped, Gateway.passLimiter_eq]
  cases admitted : entered.admits request with
  | true =>
      obtain ⟨rest, left⟩ :=
        run_of_admitted (entered.charged request) request begun arrival.origin
      refine ⟨.enter arrival.fresh arrival.request :: .proceed 0 .silence :: rest, ?_⟩
      intro others
      have passes : (⟨entered, ⟨request, begun, .entered⟩ :: others⟩ : Traffic).step
          (.proceed 0 .silence) =
            ⟨entered.charged request, ⟨request, begun, .admitted⟩ :: others⟩ := by
        simp only [step, List.getElem?_cons_zero, Carried.proceed, admitted, if_true]
        rfl
      exact (congrArg (run · rest) passes).trans (left others)
  | false =>
      obtain ⟨rest, left⟩ :=
        run_of_settled ⟨request, begun, .entered⟩ ((entered.charged request).deny request)
      refine ⟨.enter arrival.fresh arrival.request :: .proceed 0 .silence :: rest, ?_⟩
      intro others
      let settled := Carried.settle ⟨request, begun, .entered⟩ ((entered.charged request).deny request)
      have denied : (⟨entered, ⟨request, begun, .entered⟩ :: others⟩ : Traffic).step
          (.proceed 0 .silence) = ⟨settled.1, settled.2.toList ++ others⟩ := by
        simp only [step, List.getElem?_cons_zero, Carried.proceed, admitted, Bool.false_eq_true,
          if_false]
        rfl
      exact (congrArg (run · rest) denied).trans (left others)

/-- Requests that come one after the other are traffic in which no two are under way at a time. -/
theorem run_of_events (gateway : Gateway) (events : List Event) :
    ∃ moves, ∀ others, (⟨gateway, others⟩ : Traffic).run moves = ⟨gateway.run events, others⟩ := by
  induction events generalizing gateway with
  | nil => exact ⟨[], fun _ => rfl⟩
  | cons event rest ih =>
      have first : ∃ moves, ∀ others, (⟨gateway, others⟩ : Traffic).run moves =
          ⟨gateway.step event, others⟩ := by
        cases event with
        | arrival arrival => exact run_of_arrival gateway arrival
        | pause length => exact ⟨[.pause length], fun _ => rfl⟩
        | scrape path method target => exact ⟨[.scrape path method target], fun _ => rfl⟩
        | sweep idle => exact ⟨[.sweep idle], fun _ => rfl⟩
      obtain ⟨moves, stepped⟩ := first
      obtain ⟨later, ran⟩ := ih (gateway.step event)
      refine ⟨moves ++ later, ?_⟩
      intro others
      rw [run_append, stepped, ran]
      rfl

end Traffic

/-- At a gateway that counts requests the gauge of active ones stands at the number of those that have
come in and are neither answered nor dropped, whatever happens in whatever order. When requests come one
after the other, also such as are never answered, it is at zero between them. -/
theorem active_eq_carried (start : Gateway) (counting : start.reports = true)
    (idle : start.metrics.active = 0) :
    (∀ moves, let reached := (⟨start, []⟩ : Traffic).run moves
      reached.gateway.metrics.active = reached.carried.length ∧
        0 ≤ reached.gateway.metrics.active) ∧
      ∀ events, (start.run events).metrics.active = 0 := by
  have balanced : (⟨start, []⟩ : Traffic).Balanced := ⟨counting, idle⟩
  constructor
  · intro moves reached
    have active := (balanced.run moves).active
    refine ⟨active, ?_⟩
    rw [active]
    exact Int.natCast_nonneg _
  · intro events
    obtain ⟨moves, ran⟩ := Traffic.run_of_events start events
    have active := (balanced.run moves).active
    rw [ran] at active
    exact active

/-! ### Two requests of which one is dropped -/

def meteredGateway : Gateway :=
  { emptyGateway with reports := true }

/-- The first request comes to wait for the service; the second one is dropped. -/
def twoGreetings : List Move :=
  [.enter [] greeted.request, .enter [] greeted.request, .proceed 1 .silence, .proceed 1 .silence,
    .drop 0]

theorem active_of_twoGreetings :
    meteredGateway.reports = true ∧ meteredGateway.metrics.active = 0 ∧
      ((⟨meteredGateway, []⟩ : Traffic).run twoGreetings).carried.map Carried.stage =
        [.waiting] ∧
      ((⟨meteredGateway, []⟩ : Traffic).run twoGreetings).gateway.metrics.active = 1 ∧
      (meteredGateway.run [.arrival { greeted with origin := .silent }]).metrics.active = 0 := by
  obtain ⟨balanced, emptied⟩ := active_eq_carried meteredGateway rfl rfl
  have waits : ((⟨meteredGateway, []⟩ : Traffic).run twoGreetings).carried.map Carried.stage =
      [.waiting] := rfl
  have one := congrArg List.length waits
  rw [List.length_map] at one
  refine ⟨rfl, rfl, waits, ?_, emptied _⟩
  rw [(balanced twoGreetings).1, one]
  rfl

end CachingGateway

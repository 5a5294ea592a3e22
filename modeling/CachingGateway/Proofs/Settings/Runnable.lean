/-
Whether accepted settings can be run. The check reads the address of the service behind the gateway
as any URL and leaves the path of the counts alone; sending on needs an address of HTTP, and a route
needs a path that begins with a slash.
-/

import CachingGateway.Forwarding.Forwarder
import CachingGateway.Gateway.MetricsEndpoint
import CachingGateway.Proofs.Url.UrlParts
import CachingGateway.Settings.Load

namespace CachingGateway

def Url.NamesHttp (text : String) : Prop :=
  "http:".toList <+: Ascii.lower (Url.clean text.toList) ∨
    "https:".toList <+: Ascii.lower (Url.clean text.toList)

instance (text : String) : Decidable (Url.NamesHttp text) :=
  inferInstanceAs (Decidable (_ ∨ _))

namespace Forwarder

/-- An address that requests can be sent to: it is reached by HTTP, names a host, and takes on the
path of a target. -/
structure Dispatches (forwarder : Forwarder) : Prop where
  scheme : forwarder.address.scheme = "http" ∨ forwarder.address.scheme = "https"
  host : forwarder.address.host.isSome = true
  path : ∀ target : Target, (forwarder.targetUrl target).path =
    .segments (String.ofList (Url.pathText .network target.path.toList))

variable {forwarder : Forwarder} {settings : OriginSettings}

theorem address_of_ofSettings (made : ofSettings settings = .ok forwarder) :
    Url.parse settings.url = .ok forwarder.address := by
  unfold ofSettings at made
  split at made
  · cases made
  · rename_i address read
    cases made
    exact read

theorem namesHttp_iff_scheme {text : String} {url : Url} (read : Url.parse text = .ok url) :
    Url.NamesHttp text ↔ url.scheme = "http" ∨ url.scheme = "https" := by
  obtain ⟨rest, found⟩ := (Url.parse_spec read).1
  have named : ∀ name : List Char, name ≠ [] →
      (∀ character ∈ name, Ascii.isLetter character = true) →
      (name ++ [':'] <+: Ascii.lower (Url.clean text.toList) ↔ url.scheme = String.ofList name) := by
    intro name more letters
    rw [← Url.scheme?_iff_prefix more letters, found]
    constructor
    · rintro ⟨_, same⟩
      exact (Prod.mk.inj (Option.some.inj same)).1
    · intro same
      exact ⟨rest, by rw [same]⟩
  have http := named "http".toList (by decide) (List.all_eq_true.mp (by decide))
  have https := named "https".toList (by decide) (List.all_eq_true.mp (by decide))
  exact or_congr http https

theorem dispatches_iff (made : ofSettings settings = .ok forwarder) :
    forwarder.Dispatches ↔ Url.NamesHttp settings.url := by
  have read := address_of_ofSettings made
  rw [namesHttp_iff_scheme read]
  constructor
  · intro dispatches
    exact dispatches.scheme
  · intro scheme
    have kind := Url.schemeKind_of_http scheme
    obtain ⟨host, old, segments⟩ := (Url.parse_spec read).2 kind
    refine ⟨scheme, host, fun target => ?_⟩
    change (forwarder.address.withPath target.path).path = _
    rw [Url.withPath_path segments, kind]

theorem isCarried_outbound (made : ofSettings settings = .ok forwarder) (request : Request) :
    isCarried (forwarder.outbound request).url = true ↔ Url.NamesHttp settings.url := by
  rw [namesHttp_iff_scheme (address_of_ofSettings made)]
  simp only [isCarried, outbound, targetUrl, Url.withoutUser_scheme, Url.withQuery_scheme,
    Url.withPath_scheme, Bool.or_eq_true, decide_eq_true_eq]

theorem dispatch_of_namesHttp (made : ofSettings settings = .ok forwarder)
    (http : Url.NamesHttp settings.url) {link : Link} {request : Request} {response : Response}
    (answered : link (forwarder.outbound request) = .response response) :
    forwarder.dispatch link request =
      .response { response with headers := OutboundHeaders.withoutHopByHop response.headers } := by
  simp only [dispatch, (isCarried_outbound made request).mpr http, if_true, answered]

/-- Without an address of HTTP the link is never asked. -/
theorem dispatch_of_not_namesHttp (made : ofSettings settings = .ok forwarder)
    (other : ¬ Url.NamesHttp settings.url) (link : Link) (request : Request) :
    forwarder.dispatch link request =
      .failure (.origin (failureText "builder error" (forwarder.outbound request).url)) := by
  have uncarried := (isCarried_outbound made request).not.mpr other
  simp only [dispatch, uncarried]
  rfl

end Forwarder

theorem Gateway.routeFault?_eq_none_iff (path : String) :
    routeFault? path = none ↔ path.toList.head? = some '/' := by
  unfold routeFault?
  split
  · rename_i empty
    simp [empty]
  · rename_i first rest opened
    by_cases rooted : first = '/'
    · simp [opened, rooted]
    · simp [opened, rooted]

namespace Settings

/-- Settings that the program can run with: requests can be sent on, and the listener for the
counts, where it is wanted, has a route. -/
structure Runnable (settings : Settings) : Prop where
  dispatches : ∃ forwarder, Forwarder.ofSettings settings.origin = .ok forwarder ∧
    forwarder.Dispatches
  routed : settings.metrics.enabled = true → Gateway.routeFault? settings.metrics.path = none

variable {settings : Settings}

theorem forwarder_of_validate (valid : settings.validate = .ok ()) :
    ∃ forwarder, Forwarder.ofSettings settings.origin = .ok forwarder := by
  have faultless : settings.fault? = none := by
    unfold validate at valid
    split at valid
    · cases valid
    · assumption
  unfold fault? at faultless
  split at faultless
  · cases faultless
  · split at faultless
    · cases faultless
    · rename_i reached
      unfold originFault? at reached
      split at reached
      · cases reached
      · split at reached
        · rename_i address read
          exact ⟨_, by rw [Forwarder.ofSettings, read]⟩
        · cases reached

theorem runnable_iff_of_made {forwarder : Forwarder}
    (made : Forwarder.ofSettings settings.origin = .ok forwarder) :
    settings.Runnable ↔
      Url.NamesHttp settings.origin.url ∧
        (settings.metrics.enabled = true → settings.metrics.path.toList.head? = some '/') := by
  constructor
  · rintro ⟨⟨other, again, dispatches⟩, routed⟩
    exact ⟨(Forwarder.dispatches_iff again).mp dispatches,
      fun enabled => (Gateway.routeFault?_eq_none_iff _).mp (routed enabled)⟩
  · rintro ⟨http, rooted⟩
    exact ⟨⟨forwarder, made, (Forwarder.dispatches_iff made).mpr http⟩,
      fun enabled => (Gateway.routeFault?_eq_none_iff _).mpr (rooted enabled)⟩

/-- Accepted settings can be run when their address begins with a scheme of HTTP and the path of the
counts, where they are shown, with a slash. With any other address no request is sent on. -/
theorem runnable_iff_of_validate (settings : Settings) (valid : settings.validate = .ok ()) :
    ∃ forwarder, Forwarder.ofSettings settings.origin = .ok forwarder ∧
      (settings.Runnable ↔
        Url.NamesHttp settings.origin.url ∧
          (settings.metrics.enabled = true → settings.metrics.path.toList.head? = some '/')) ∧
      (Url.NamesHttp settings.origin.url →
        ∀ (link : Link) (request : Request) (response : Response),
          link (forwarder.outbound request) = .response response →
          forwarder.dispatch link request =
            .response
              { response with headers := OutboundHeaders.withoutHopByHop response.headers }) ∧
      (¬ Url.NamesHttp settings.origin.url → ∀ (link : Link) (request : Request),
        forwarder.dispatch link request =
          .failure (.origin (Forwarder.failureText "builder error"
            (forwarder.outbound request).url))) := by
  obtain ⟨forwarder, made⟩ := forwarder_of_validate valid
  refine ⟨forwarder, made, runnable_iff_of_made made, ?_, ?_⟩
  · intro http link request response answered
    exact Forwarder.dispatch_of_namesHttp made http answered
  · intro other link request
    exact Forwarder.dispatch_of_not_namesHttp made other link request

theorem default_is_runnable :
    Settings.default.validate = .ok () ∧ Settings.default.Runnable := by
  have valid : Settings.default.validate = .ok () := by decide +kernel
  obtain ⟨_, _, runnable, _⟩ := runnable_iff_of_validate Settings.default valid
  exact ⟨valid, runnable.mpr (by decide +kernel)⟩

/-- The defaults with an address that lacks a scheme, so that the name of its host is read as
one. -/
def unschemed : Settings :=
  { Settings.default with origin := { OriginSettings.default with url := "localhost:8081" } }

def unrooted : Settings :=
  { Settings.default with metrics := { MetricsSettings.default with path := "metrics" } }

theorem accepted_settings_cannot_run :
    (Settings.load none (Environment.ofList [("PROXY_UPSTREAM_URL", "localhost:8081")])
        (fun _ => .error "") = .ok unschemed ∧
      unschemed.validate = .ok () ∧ ¬ unschemed.Runnable ∧
      ∃ forwarder, Forwarder.ofSettings unschemed.origin = .ok forwarder ∧
        ∀ link request, ∃ text, forwarder.dispatch link request = .failure (.origin text)) ∧
      unrooted.validate = .ok () ∧ ¬ unrooted.Runnable := by
  have validUnschemed : unschemed.validate = .ok () := by decide +kernel
  have validUnrooted : unrooted.validate = .ok () := by decide +kernel
  obtain ⟨forwarder, made⟩ := forwarder_of_validate validUnschemed
  obtain ⟨_, rootedMade⟩ := forwarder_of_validate validUnrooted
  have other : ¬ Url.NamesHttp unschemed.origin.url := by decide +kernel
  refine ⟨⟨rfl, validUnschemed, ?_, forwarder, made, ?_⟩, validUnrooted, ?_⟩
  · intro runnable
    exact other ((runnable_iff_of_made made).mp runnable).1
  · intro link request
    exact ⟨_, Forwarder.dispatch_of_not_namesHttp made other link request⟩
  · intro runnable
    have rooted := ((runnable_iff_of_made rootedMade).mp runnable).2 rfl
    exact absurd rooted (by decide)

end Settings

end CachingGateway

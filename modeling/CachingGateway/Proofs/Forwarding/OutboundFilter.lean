/-
What stays behind of the headers of a request. Names that are kept back have no values in what is sent
on, whatever case they were configured in; every other name has the values it came with. The chain of
those that forwarded the request is apart: for a known peer it is written anew.
-/

import CachingGateway.Forwarding.Forwarder
import CachingGateway.Proofs.Http.HeaderValues

namespace CachingGateway

/-- A text is a header's name in any case: a token of a length that is read, with the name's letters. -/
structure HeaderName.IsSpelled (name : HeaderName) (text : String) : Prop where
  some : text.toList ≠ []
  short : text.toList.length ≤ 65535
  token : ∀ character ∈ text.toList, isTokenChar character = true
  letters : Ascii.lower text.toList = name.text

theorem HeaderName.ofText?_eq_some_iff {text : String} {name : HeaderName} :
    HeaderName.ofText? text = some name ↔ name.IsSpelled text := by
  simp only [ofText?]
  constructor
  · intro read
    split at read
    · cases read
    · rename_i valid
      simp only [Bool.or_eq_true, not_or, List.isEmpty_iff, decide_eq_true_eq, Nat.not_lt,
        Bool.not_eq_true', Bool.not_eq_false, List.all_eq_true] at valid
      cases read
      exact ⟨valid.1.1, valid.1.2, valid.2, rfl⟩
  · rintro ⟨some, short, token, letters⟩
    have valid : (text.toList.isEmpty || 65535 < text.toList.length ||
        !text.toList.all isTokenChar) = false := by
      simp only [Bool.or_eq_false_iff, List.isEmpty_eq_false_iff, decide_eq_false_iff_not,
        Nat.not_lt, Bool.not_eq_false', List.all_eq_true]
      exact ⟨⟨some, short⟩, token⟩
    simp only [valid, Bool.false_eq_true, if_false, letters]

namespace OutboundHeaders

/-- A header of the connection, the host, or a name that is forbidden in any case. -/
def KeptBack (forbidden : List String) (name : HeaderName) : Prop :=
  name ∈ hopByHop ∨ name = host ∨ ∃ text ∈ forbidden, name.IsSpelled text

variable {forbidden : List HeaderName} {headers : Headers} {name : HeaderName}

theorem ofInbound_none (forbidden : List HeaderName) (headers : Headers) :
    ofInbound forbidden headers none = headers.removeAll (hopByHop ++ host :: forbidden) := by
  rw [Headers.removeAll, List.foldl_append]
  rfl

theorem ofInbound_some (forbidden : List HeaderName) (headers : Headers) (peer : Peer) :
    ofInbound forbidden headers (some peer) =
      (ofInbound forbidden headers none).replace ClientKey.forwardedFor
        (Octets.ofText (String.ofList (chain (ofInbound forbidden headers none) peer))) :=
  rfl

theorem values_ofInbound (forbidden : List HeaderName) (headers : Headers) {peer : Option Peer}
    (apart : name = ClientKey.forwardedFor → peer = none) :
    (ofInbound forbidden headers peer).values name =
      (ofInbound forbidden headers none).values name := by
  cases peer with
  | none => rfl
  | some known =>
      have other : name ≠ ClientKey.forwardedFor := fun same => nomatch apart same
      rw [ofInbound_some, Headers.values_replace_of_ne _ _ other]

theorem values_of_kept (kept : name ∈ hopByHop ++ host :: forbidden) (headers : Headers) :
    (ofInbound forbidden headers none).values name = [] := by
  rw [ofInbound_none]
  exact Headers.values_removeAll_of_mem headers kept

theorem values_of_not_kept (sent : name ∉ hopByHop ++ host :: forbidden) (headers : Headers) :
    (ofInbound forbidden headers none).values name = headers.values name := by
  rw [ofInbound_none]
  exact Headers.values_removeAll_of_not_mem headers sent

theorem chain_of_no_values (none : headers.values ClientKey.forwardedFor = []) (peer : Peer) :
    chain headers peer = peer.address.text := by
  have untold : headers.firstText? ClientKey.forwardedFor = .none := by
    rw [Headers.firstText?, Headers.first?_eq_head?, none]
    rfl
  rw [chain, untold]

/-! ### Filtering again -/

theorem again_of_chain_sent (headers : Headers) {peer : Option Peer}
    (sent : peer = none ∨ ClientKey.forwardedFor ∉ hopByHop ++ host :: forbidden) :
    ofInbound forbidden (ofInbound forbidden headers peer) none =
      ofInbound forbidden headers peer := by
  rw [ofInbound_none]
  apply Headers.removeAll_of_no_values
  intro name kept
  have apart : name = ClientKey.forwardedFor → peer = none := by
    rintro rfl
    exact sent.resolve_right (not_not_intro kept)
  exact (values_ofInbound forbidden headers apart).trans (values_of_kept kept headers)

/-- A chain that is kept back though it was written for a peer goes the second time. -/
theorem again_of_chain_kept (headers : Headers) (peer : Option Peer)
    (kept : ClientKey.forwardedFor ∈ hopByHop ++ host :: forbidden) :
    ofInbound forbidden (ofInbound forbidden headers peer) none =
      ofInbound forbidden headers none := by
  cases peer with
  | none => exact again_of_chain_sent headers (Or.inl rfl)
  | some known =>
      rw [ofInbound_some, ofInbound_none, Headers.removeAll_replace_of_mem _ _ kept,
        ← ofInbound_none]
      exact again_of_chain_sent headers (Or.inl rfl)

/-! ### Names configured as texts -/

theorem keptBack_iff (texts : List String) :
    KeptBack texts name ↔ name ∈ hopByHop ++ host :: texts.filterMap HeaderName.ofText? := by
  rw [KeptBack, List.mem_append, List.mem_cons, List.mem_filterMap]
  simp only [HeaderName.ofText?_eq_some_iff]

instance (texts : List String) (name : HeaderName) : Decidable (KeptBack texts name) :=
  decidable_of_iff _ (keptBack_iff texts).symm

theorem forbidden_of_ofSettings {settings : OriginSettings} {forwarder : Forwarder}
    (made : Forwarder.ofSettings settings = .ok forwarder) :
    forwarder.forbidden = settings.forbiddenHeaders.filterMap HeaderName.ofText? := by
  unfold Forwarder.ofSettings at made
  split at made
  · cases made
  · cases made
    rfl

/-- A forwarder sends on no value of a name that is kept back and all values, in their order, of every
other name. The chain of those that forwarded the request follows this rule without a known peer; with
one it has a single value, which is that peer alone if the chain is kept back. Filtering again without
a peer changes nothing, but for a chain that is kept back and was written for a peer. -/
theorem outbound_headers_exact (settings : OriginSettings) (forwarder : Forwarder)
    (made : Forwarder.ofSettings settings = .ok forwarder) (headers : Headers)
    (peer : Option Peer) :
    let filter := ofInbound forwarder.forbidden
    let outbound := filter headers peer
    let IsKeptBack := KeptBack settings.forbiddenHeaders
    (∀ name, (name = ClientKey.forwardedFor → peer = none) →
      (IsKeptBack name → outbound.values name = []) ∧
        (¬ IsKeptBack name → outbound.values name = headers.values name)) ∧
      (∀ known, peer = some known →
        (∃ value, outbound.values ClientKey.forwardedFor = [value]) ∧
          (IsKeptBack ClientKey.forwardedFor → outbound.values ClientKey.forwardedFor =
            [Octets.ofText (String.ofList known.address.text)])) ∧
      (peer = none ∨ ¬ IsKeptBack ClientKey.forwardedFor → filter outbound none = outbound) ∧
      (IsKeptBack ClientKey.forwardedFor → filter outbound none = filter headers none) := by
  intro filter outbound IsKeptBack
  have kept (name : HeaderName) :
      IsKeptBack name ↔ name ∈ hopByHop ++ host :: forwarder.forbidden := by
    rw [forbidden_of_ofSettings made]
    exact keptBack_iff settings.forbiddenHeaders
  refine ⟨fun name apart => ⟨fun back => ?_, fun sent => ?_⟩, ?_, fun sent => ?_, fun back => ?_⟩
  · exact (values_ofInbound _ headers apart).trans (values_of_kept ((kept name).mp back) headers)
  · have outside := mt (kept name).mpr sent
    exact (values_ofInbound _ headers apart).trans (values_of_not_kept outside headers)
  · rintro known rfl
    have written : outbound.values ClientKey.forwardedFor =
        [Octets.ofText (String.ofList (chain (filter headers none) known))] :=
      Headers.values_replace_self _ _
    refine ⟨⟨_, written⟩, fun back => ?_⟩
    rw [written, chain_of_no_values (values_of_kept ((kept _).mp back) headers)]
  · exact again_of_chain_sent headers (sent.imp_right (mt (kept _).mpr))
  · exact again_of_chain_kept headers peer ((kept _).mp back)

def guardedOrigin : OriginSettings :=
  { OriginSettings.default with forbiddenHeaders := ["CooKie", "no name"] }

def cookie : HeaderName := HeaderName.ofLiteral "cookie"
def acceptLanguage : HeaderName := HeaderName.ofLiteral "accept-language"

def crowdedHeaders : Headers :=
  ⟨[⟨acceptLanguage, Octets.ofText "fr"⟩, ⟨cookie, Octets.ofText "a=b"⟩,
    ⟨host, Octets.ofText "gateway.example"⟩, ⟨acceptLanguage, Octets.ofText "en"⟩,
    ⟨cookie, Octets.ofText "c=d"⟩]⟩

theorem guarded_origin_gets_no_cookie :
    ∃ forwarder, Forwarder.ofSettings guardedOrigin = .ok forwarder ∧
      ∀ known : Peer,
        let outbound := ofInbound forwarder.forbidden crowdedHeaders (some known)
        outbound.values cookie = [] ∧ outbound.values host = [] ∧
          outbound.values acceptLanguage = [Octets.ofText "fr", Octets.ofText "en"] ∧
          (∃ value, outbound.values ClientKey.forwardedFor = [value]) ∧
          ofInbound forwarder.forbidden outbound none = outbound := by
  have parsed : (Forwarder.ofSettings guardedOrigin).isOk = true := by decide +kernel
  cases made : Forwarder.ofSettings guardedOrigin with
  | error fault =>
      rw [made] at parsed
      cases parsed
  | ok forwarder =>
      refine ⟨forwarder, rfl, fun known => ?_⟩
      obtain ⟨values, chain, again, _⟩ :=
        outbound_headers_exact guardedOrigin forwarder made crowdedHeaders (some known)
      have noCookie := (values cookie fun same => absurd same (by decide)).1 (by decide +kernel)
      have noHost := (values host fun same => absurd same (by decide)).1 (by decide +kernel)
      have languages :=
        (values acceptLanguage fun same => absurd same (by decide)).2 (by decide +kernel)
      refine ⟨noCookie, noHost, languages.trans rfl, (chain known rfl).1, again (Or.inr ?_)⟩
      decide +kernel

end OutboundHeaders

end CachingGateway

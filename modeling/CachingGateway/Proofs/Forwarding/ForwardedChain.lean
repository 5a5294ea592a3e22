/-
The chain of those that forwarded a request. It may come in several values, each a list of hops. A
known peer is put behind the hops of the first value, and the result is the only value that is sent
on; so the chain is extended as a whole exactly when it came in one value at most.
-/

import CachingGateway.Proofs.Forwarding.OutboundFilter
import CachingGateway.Proofs.Network.AddressText

namespace CachingGateway

namespace OutboundHeaders

/-! ### Hops -/

def hopsOf (value : List Char) : List (List Char) :=
  (Ascii.splitAt ',' value).map Blank.trim

def hops (values : List Octets) : List (List Char) :=
  (values.filterMap Octets.visible?).flatMap hopsOf

theorem hopsOf_ne_nil (value : List Char) : hopsOf value ≠ [] := by
  intro none
  exact Ascii.splitAt_ne_nil ',' value (List.map_eq_nil_iff.mp none)

theorem hopsOf_address (address : IpAddress) : hopsOf address.text = [address.text] := by
  have single : ',' ∉ address.text :=
    IpAddress.not_mem_text (by decide) (by decide) (by decide) address
  have trimmed : Blank.trim address.text = address.text :=
    Blank.trim_of_visible fun character member => (address.visible_text character member).2
  rw [hopsOf, Ascii.splitAt_of_not_mem single, List.map_singleton, trimmed]

theorem hopsOf_extended (prior : List Char) (address : IpAddress) :
    hopsOf (prior ++ ", ".toList ++ address.text) = hopsOf prior ++ [address.text] := by
  have parted : prior ++ ", ".toList ++ address.text = prior ++ ',' :: ' ' :: address.text := by
    rw [List.append_assoc]
    rfl
  have single : ',' ∉ ' ' :: address.text := by
    intro member
    rcases List.mem_cons.mp member with blank | inside
    · exact absurd blank (by decide)
    · exact IpAddress.not_mem_text (by decide) (by decide) (by decide) address inside
  have trimmed : Blank.trim (' ' :: address.text) = address.text := by
    have blankBefore : ∀ character ∈ [' '], Blank.isBlank character = true :=
      List.all_eq_true.mp (by decide)
    have shown : ∀ character ∈ address.text, Blank.isBlank character = false :=
      fun character member => (address.visible_text character member).2
    exact (Blank.trim_blank_append blankBefore address.text).trans (Blank.trim_of_visible shown)
  rw [parted, hopsOf, Ascii.splitAt_append_cons, Ascii.splitAt_of_not_mem single, List.map_append,
    List.map_singleton, trimmed]
  rfl

theorem hops_eq_nil_iff {values : List Octets}
    (told : ∀ value ∈ values, (Octets.visible? value).isSome = true) :
    hops values = [] ↔ values = [] := by
  constructor
  · intro none
    cases values with
    | nil => rfl
    | cons first others =>
        obtain ⟨text, read⟩ := Option.isSome_iff_exists.mp (told first List.mem_cons_self)
        rw [hops, List.filterMap_cons_some read, List.flatMap_cons] at none
        exact absurd (List.append_eq_nil_iff.mp none).1 (hopsOf_ne_nil text)
  · rintro rfl
    rfl

/-! ### What is sent on -/

variable {forbidden : List HeaderName} {headers : Headers} {peer : Peer}

theorem values_kept (unforbidden : ClientKey.forwardedFor ∉ forbidden) :
    (((withoutHopByHop headers).remove host).removeAll forbidden).values ClientKey.forwardedFor =
      headers.values ClientKey.forwardedFor := by
  apply values_of_not_kept
  simp only [List.mem_append, List.mem_cons, not_or]
  exact ⟨by decide, by decide, unforbidden⟩

theorem visible?_chain (headers : Headers) (peer : Peer) :
    Octets.visible? (Octets.ofText (String.ofList (chain headers peer))) =
      some (chain headers peer) := by
  have shown : ∀ character ∈ chain headers peer, Octets.IsVisibleChar character := by
    have address : ∀ character ∈ peer.address.text, Octets.IsVisibleChar character :=
      fun character member => (peer.address.visible_text character member).1
    unfold chain
    split
    · rename_i prior told
      obtain ⟨octets, _, read⟩ := Option.bind_eq_some_iff.mp told
      intro character member
      rw [List.append_assoc, List.mem_append, List.mem_append] at member
      rcases member with before | between | behind
      · exact Octets.isVisibleChar_of_visible? read character before
      · rcases List.mem_pair.mp between with rfl | rfl
        · decide
        · decide
      · exact address character behind
    · exact address
  have text : (String.ofList (chain headers peer)).toList = chain headers peer :=
    String.toList_ofList
  rw [← text] at shown
  exact (Octets.visible?_ofText shown).trans (congrArg some text)

theorem hopsOf_chain
    (told : ∀ value ∈ headers.values ClientKey.forwardedFor,
      (Octets.visible? value).isSome = true) :
    hopsOf (chain headers peer) =
      hops ((headers.values ClientKey.forwardedFor).take 1) ++ [peer.address.text] := by
  cases sent : headers.values ClientKey.forwardedFor with
  | nil =>
      rw [chain_of_no_values sent]
      exact hopsOf_address peer.address
  | cons first others =>
      have within : first ∈ headers.values ClientKey.forwardedFor := by
        rw [sent]
        exact List.mem_cons_self
      obtain ⟨prior, read⟩ := Option.isSome_iff_exists.mp (told first within)
      have found : headers.firstText? ClientKey.forwardedFor = some prior := by
        rw [Headers.firstText?, Headers.first?_eq_head?, sent]
        exact read
      rw [chain, found, List.take_succ_cons, List.take_zero, hops, List.filterMap_cons_some read,
        List.filterMap_nil, List.flatMap_cons, List.flatMap_nil, List.append_nil]
      exact hopsOf_extended prior peer.address

/-- One value is sent on: the hops of the first value that came in, and the peer behind them. That is
the whole chain with the peer behind it exactly when no second value came in. -/
theorem chain_extended_iff (forbidden : List HeaderName) (headers : Headers) (peer : Peer)
    (unforbidden : ClientKey.forwardedFor ∉ forbidden)
    (told : ∀ value ∈ headers.values ClientKey.forwardedFor,
      (Octets.visible? value).isSome = true) :
    let inbound := headers.values ClientKey.forwardedFor
    let outbound := (ofInbound forbidden headers (some peer)).values ClientKey.forwardedFor
    (∃ value, outbound = [value] ∧ (Octets.visible? value).isSome = true) ∧
      hops outbound = hops (inbound.take 1) ++ [peer.address.text] ∧
      (hops outbound = hops inbound ++ [peer.address.text] ↔ inbound.length ≤ 1) := by
  intro inbound outbound
  let kept := ((withoutHopByHop headers).remove host).removeAll forbidden
  have same : kept.values ClientKey.forwardedFor = inbound := values_kept unforbidden
  have toldStill : ∀ value ∈ kept.values ClientKey.forwardedFor,
      (Octets.visible? value).isSome = true := by
    rw [same]
    exact told
  have sent : outbound = [Octets.ofText (String.ofList (chain kept peer))] :=
    Headers.values_replace_self _ _
  have read := visible?_chain kept peer
  have extended : hops outbound = hops (inbound.take 1) ++ [peer.address.text] := by
    rw [sent, hops, List.filterMap_cons_some read, List.filterMap_nil, List.flatMap_cons,
      List.flatMap_nil, List.append_nil, hopsOf_chain toldStill, same]
  refine ⟨⟨_, sent, by rw [read]; rfl⟩, extended, ?_⟩
  have parts : hops inbound = hops (inbound.take 1) ++ hops (inbound.drop 1) := by
    rw [hops, hops, hops, ← List.flatMap_append, ← List.filterMap_append, List.take_append_drop]
  have later : ∀ value ∈ inbound.drop 1, (Octets.visible? value).isSome = true :=
    fun value member => told value (List.mem_of_mem_drop member)
  rw [extended, List.append_cancel_right_eq, parts, List.self_eq_append_right,
    hops_eq_nil_iff later, List.drop_eq_nil_iff]

/-! ### A chain in one value and a chain in two -/

def relayPeer : Peer := ⟨.four 3232235777, 4000⟩

def relayedOnce : Headers :=
  Headers.empty.append ClientKey.forwardedFor (Octets.ofText "203.0.113.1, 10.0.0.7")

def relayedTwice : Headers :=
  (Headers.empty.append ClientKey.forwardedFor (Octets.ofText "203.0.113.1")).append
    ClientKey.forwardedFor (Octets.ofText "198.51.100.2")

theorem chain_extended_of_relayedOnce :
    ClientKey.forwardedFor ∉ [HeaderName.ofLiteral "cookie"] ∧
      (∀ value ∈ relayedOnce.values ClientKey.forwardedFor,
        (Octets.visible? value).isSome = true) ∧
      hops ((ofInbound [HeaderName.ofLiteral "cookie"] relayedOnce (some relayPeer)).values
          ClientKey.forwardedFor) =
        ["203.0.113.1".toList, "10.0.0.7".toList, "192.168.1.1".toList] := by
  have unforbidden : ClientKey.forwardedFor ∉ [HeaderName.ofLiteral "cookie"] := by decide
  have told : ∀ value ∈ relayedOnce.values ClientKey.forwardedFor,
      (Octets.visible? value).isSome = true := by
    decide +kernel
  have single : (relayedOnce.values ClientKey.forwardedFor).length ≤ 1 := by decide
  have extended := (chain_extended_iff _ relayedOnce relayPeer unforbidden told).2.2.mpr single
  exact ⟨unforbidden, told, extended.trans (by decide +kernel)⟩

/-- The hop of a second value is not sent on. -/
theorem second_value_lost :
    ClientKey.forwardedFor ∉ ([] : List HeaderName) ∧
      (∀ value ∈ relayedTwice.values ClientKey.forwardedFor,
        (Octets.visible? value).isSome = true) ∧
      hops ((ofInbound [] relayedTwice (some relayPeer)).values ClientKey.forwardedFor) =
        ["203.0.113.1".toList, "192.168.1.1".toList] ∧
      hops (relayedTwice.values ClientKey.forwardedFor) ++ [relayPeer.address.text] =
        ["203.0.113.1".toList, "198.51.100.2".toList, "192.168.1.1".toList] ∧
      hops ((ofInbound [] relayedTwice (some relayPeer)).values ClientKey.forwardedFor) ≠
        hops (relayedTwice.values ClientKey.forwardedFor) ++ [relayPeer.address.text] := by
  have sent : hops ((ofInbound [] relayedTwice (some relayPeer)).values ClientKey.forwardedFor) =
      ["203.0.113.1".toList, "192.168.1.1".toList] := by
    decide +kernel
  have whole : hops (relayedTwice.values ClientKey.forwardedFor) ++ [relayPeer.address.text] =
      ["203.0.113.1".toList, "198.51.100.2".toList, "192.168.1.1".toList] := by
    decide +kernel
  refine ⟨List.not_mem_nil, by decide +kernel, sent, whole, ?_⟩
  rw [sent, whole]
  decide

end OutboundHeaders

end CachingGateway

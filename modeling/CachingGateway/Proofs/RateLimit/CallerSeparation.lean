/-
Which callers share a limiter key. A credential is told from an address by the mark in front of it, and
the parts of a joined key are told apart by a colon. An address is taken as it was sent, so it may hold
the mark and colons of its own. Callers are kept apart where addresses do not hold the mark; elsewhere
they share a key as far as the colons can be read in two ways.
-/

import CachingGateway.Proofs.Text.SeparatedText
import CachingGateway.RateLimit.ClientKey

namespace CachingGateway

structure Caller where
  headers : Headers
  peer : String

namespace Caller

def key (caller : Caller) (rule : KeyRule) : String :=
  rule.key caller.headers caller.peer

def characters (caller : Caller) (rule : KeyRule) : List Char :=
  rule.keyChars caller.headers caller.peer.toList

def credential? (caller : Caller) (header : String) : Option (List Char) :=
  ClientKey.credential? caller.headers header

def mark : List Char := "apikey".toList

def HoldsMark (caller : Caller) : Prop :=
  mark <:+: caller.characters .address

/-- The address of one caller goes on where that of another ends, with a colon and a text that the
second part of the other's key has in front. -/
def Overruns (header : String) (longer shorter : Caller) : Prop :=
  ∃ moved, longer.characters .address = shorter.characters .address ++ ':' :: moved ∧
    shorter.characters (.credential header) =
      moved ++ ':' :: longer.characters (.credential header)

variable {header : String} {caller left right longer shorter : Caller} {secret : List Char}

theorem key_eq_iff (rule : KeyRule) :
    left.key rule = right.key rule ↔ left.characters rule = right.characters rule :=
  String.ofList_inj

theorem characters_credential (carried : caller.credential? header = some secret) :
    caller.characters (.credential header) = mark ++ ':' :: secret := by
  rw [credential?] at carried
  rw [characters, KeyRule.keyChars, carried]
  rfl

theorem characters_anonymous (missing : caller.credential? header = none) :
    caller.characters (.credential header) = caller.characters .address := by
  rw [credential?] at missing
  rw [characters, KeyRule.keyChars, missing, characters, KeyRule.keyChars]

theorem characters_composite (caller : Caller) (header : String) :
    caller.characters (KeyStrategy.composite.rule header) =
      caller.characters .address ++ ':' :: caller.characters (.credential header) := by
  simp [characters, KeyStrategy.rule, KeyRule.keyChars, KeyRule.keyCharsOfAll, Ascii.joinWith]

theorem composite_key_eq_iff :
    left.key (KeyStrategy.composite.rule header) = right.key (KeyStrategy.composite.rule header) ↔
      (left.key .address = right.key .address ∧
          left.key (.credential header) = right.key (.credential header)) ∨
        Overruns header left right ∨ Overruns header right left := by
  rw [key_eq_iff, key_eq_iff, key_eq_iff, characters_composite, characters_composite,
    Ascii.joined_eq_iff]
  rfl

/-- A text that is marked and has a colon further on has the mark before that colon. -/
theorem mark_prefix_of_joined {moved rest : List Char}
    (same : mark ++ ':' :: secret = moved ++ ':' :: rest) : mark <+: moved := by
  rcases Ascii.joined_eq_iff.mp same with ⟨whole, _⟩ | ⟨gap, longer, _⟩ | ⟨gap, longer, _⟩
  · exact whole ▸ List.prefix_rfl
  · have colon : ':' ∈ mark := by
      rw [longer]
      simp
    exact absurd colon (by decide)
  · exact ⟨':' :: gap, longer.symm⟩

theorem holdsMark_of_address (address : caller.characters .address = mark ++ ':' :: secret) :
    caller.HoldsMark :=
  ⟨[], ':' :: secret, by rw [address, List.nil_append]⟩

/-- Where one address overruns another, one of the two holds the mark: that of a caller without a
credential, or the longer one if both carry credentials. -/
theorem Overruns.holdsMark (overruns : Overruns header longer shorter) :
    (shorter.credential? header = none ∧ longer.credential? header ≠ none ∧ shorter.HoldsMark) ∨
      (shorter.credential? header ≠ none ∧ longer.HoldsMark) := by
  obtain ⟨moved, goesOn, inFront⟩ := overruns
  cases carried : shorter.credential? header with
  | some secret =>
      rw [characters_credential carried] at inFront
      obtain ⟨behind, split⟩ := mark_prefix_of_joined inFront
      refine Or.inr ⟨Option.some_ne_none _, shorter.characters .address ++ [':'], behind, ?_⟩
      rw [goesOn, ← split]
      simp
  | none =>
      rw [characters_anonymous carried] at inFront
      cases carriedToo : longer.credential? header with
      | some secret =>
          rw [characters_credential carriedToo] at inFront
          refine Or.inl ⟨rfl, Option.some_ne_none _, moved ++ [':'], ':' :: secret, ?_⟩
          rw [inFront]
          simp
      | none =>
          -- Without credentials each address would have to be longer than the other.
          rw [characters_anonymous carriedToo] at inFront
          have longerBy := congrArg List.length goesOn
          have shorterBy := congrArg List.length inFront
          simp only [List.length_append, List.length_cons] at longerBy shorterBy
          omega

theorem credential_key_eq_iff (carried : left.credential? header = some secret)
    (missing : right.credential? header = none) :
    left.key (.credential header) = right.key (.credential header) ↔
      right.characters .address = mark ++ ':' :: secret := by
  rw [key_eq_iff, characters_credential carried, characters_anonymous missing]
  exact eq_comm

theorem composite_key_ne (carried : left.credential? header = some secret)
    (missing : right.credential? header = none) (plain : ¬right.HoldsMark) :
    left.key (KeyStrategy.composite.rule header) ≠ right.key (KeyStrategy.composite.rule header) := by
  intro same
  rcases composite_key_eq_iff.mp same with ⟨_, parts⟩ | overruns | overruns
  · exact plain (holdsMark_of_address ((credential_key_eq_iff carried missing).mp parts))
  · rcases overruns.holdsMark with ⟨_, _, marked⟩ | ⟨present, _⟩
    · exact plain marked
    · exact present missing
  · rcases overruns.holdsMark with ⟨absent, _, _⟩ | ⟨_, marked⟩
    · rw [carried] at absent
      cases absent
    · exact plain marked

/-- When callers share a key. One with a credential and one without share the key of the credential
only if the address of the second is written like that key. Two callers share a joined key only if
they share both of its parts or the address of one overruns that of the other. Neither happens among
addresses that do not hold the mark. -/
theorem shared_keys (header : String) (left right : Caller) :
    (∀ secret, left.credential? header = some secret → right.credential? header = none →
      (left.key (KeyStrategy.apiKey.rule header) = right.key (KeyStrategy.apiKey.rule header) ↔
        right.characters .address = mark ++ ':' :: secret) ∧
      (¬right.HoldsMark →
        left.key (KeyStrategy.apiKey.rule header) ≠ right.key (KeyStrategy.apiKey.rule header) ∧
          left.key (KeyStrategy.composite.rule header) ≠
            right.key (KeyStrategy.composite.rule header))) ∧
    (left.key (KeyStrategy.composite.rule header) = right.key (KeyStrategy.composite.rule header) ↔
      (left.key .address = right.key .address ∧
          left.key (.credential header) = right.key (.credential header)) ∨
        Overruns header left right ∨ Overruns header right left) ∧
    (¬left.HoldsMark → ¬right.HoldsMark →
      left.key (KeyStrategy.composite.rule header) = right.key (KeyStrategy.composite.rule header) →
        left.key .address = right.key .address ∧
          left.key (.credential header) = right.key (.credential header)) := by
  refine ⟨?_, composite_key_eq_iff, ?_⟩
  · intro secret carried missing
    have shared := credential_key_eq_iff carried missing
    refine ⟨shared, fun plain => ⟨?_, composite_key_ne carried missing plain⟩⟩
    intro same
    exact plain (holdsMark_of_address (shared.mp same))
  · intro leftPlain rightPlain same
    rcases composite_key_eq_iff.mp same with parts | overruns | overruns
    · exact parts
    · rcases overruns.holdsMark with ⟨_, _, marked⟩ | ⟨_, marked⟩
      · exact absurd marked rightPlain
      · exact absurd marked leftPlain
    · rcases overruns.holdsMark with ⟨_, _, marked⟩ | ⟨_, marked⟩
      · exact absurd marked leftPlain
      · exact absurd marked rightPlain

/-! ### Callers that share keys and callers that do not -/

def forwarded (address : String) (secret? : Option String) : Caller :=
  let addressed := Headers.empty.append ClientKey.forwardedFor (Octets.ofText address)
  match secret? with
  | none => ⟨addressed, "10.0.0.1:4000"⟩
  | some secret =>
    ⟨addressed.append (HeaderName.ofLiteral "x-api-key") (Octets.ofText secret), "10.0.0.1:4000"⟩

theorem shared_keys_of_plain_addresses :
    (forwarded "203.0.113.1" (some "abc")).credential? "X-API-Key" = some "abc".toList ∧
      (forwarded "203.0.113.1" none).credential? "X-API-Key" = none ∧
      ¬(forwarded "203.0.113.1" none).HoldsMark ∧
      (forwarded "203.0.113.1" (some "abc")).key (KeyStrategy.composite.rule "X-API-Key") ≠
        (forwarded "203.0.113.1" none).key (KeyStrategy.composite.rule "X-API-Key") := by
  have carried : (forwarded "203.0.113.1" (some "abc")).credential? "X-API-Key" =
      some "abc".toList := by decide +kernel
  have missing : (forwarded "203.0.113.1" none).credential? "X-API-Key" = none := by
    decide +kernel
  have plain : ¬(forwarded "203.0.113.1" none).HoldsMark := by
    unfold HoldsMark
    decide +kernel
  have apart := (shared_keys "X-API-Key" (forwarded "203.0.113.1" (some "abc"))
    (forwarded "203.0.113.1" none)).1 "abc".toList carried missing
  exact ⟨carried, missing, plain, (apart.2 plain).2⟩

/-- At one address a caller with a credential and one without can share a key, under either rule, and
two callers with different credentials and addresses a joined key. -/
theorem marked_addresses_share_keys :
    (forwarded "apikey:abc" (some "abc")).credential? "X-API-Key" = some "abc".toList ∧
      (forwarded "apikey:abc" none).credential? "X-API-Key" = none ∧
      (forwarded "apikey:abc" (some "abc")).key (KeyStrategy.apiKey.rule "X-API-Key") =
        (forwarded "apikey:abc" none).key (KeyStrategy.apiKey.rule "X-API-Key") ∧
      (forwarded "apikey:abc" (some "abc")).key (KeyStrategy.composite.rule "X-API-Key") =
        (forwarded "apikey:abc" none).key (KeyStrategy.composite.rule "X-API-Key") ∧
      (forwarded "a" (some "b:apikey:c")).key (KeyStrategy.composite.rule "X-API-Key") =
        (forwarded "a:apikey:b" (some "c")).key (KeyStrategy.composite.rule "X-API-Key") ∧
      (forwarded "a" (some "b:apikey:c")).key .address ≠
        (forwarded "a:apikey:b" (some "c")).key .address := by
  decide +kernel

end Caller

end CachingGateway

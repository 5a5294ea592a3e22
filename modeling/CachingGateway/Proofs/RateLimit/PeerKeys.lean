/-
Keys taken from connections. The host of a peer is read back out of the text of its socket address, for
either version and any port number. No address reads as a marked credential and none holds the mark, so
callers that no forwarding header speaks for share a key exactly if they agree in what the strategy goes
by.
-/

import CachingGateway.Proofs.Network.AddressText
import CachingGateway.Proofs.RateLimit.CallerSeparation
import CachingGateway.Gateway.Router

namespace CachingGateway

namespace ClientKey

theorem hostPart_of_brackets {host : List Char} (unclosed : ']' ∉ host) (behind : List Char) :
    hostPart ('[' :: (host ++ ']' :: behind)) = host := by
  rw [hostPart, Ascii.splitOnce?_append_cons unclosed]

theorem hostPart_of_colon {host digits : List Char} (unopened : '[' ∉ host) (undivided : ':' ∉ host)
    (behind : ':' ∉ digits) : hostPart (host ++ ':' :: digits) = host := by
  unfold hostPart
  split
  · rename_i bracketed
    cases host with
    | nil => cases bracketed
    | cons head rest =>
        rw [List.cons_append, List.cons.injEq] at bracketed
        exact absurd (bracketed.1 ▸ List.mem_cons_self) unopened
  · rw [Ascii.splitLast?_append_cons behind]
    simp [undivided]

theorem hostPart_text (peer : Peer) : hostPart peer.text = peer.address.text := by
  have noColon : ':' ∉ Nat.toDigits 10 peer.portNumber := by
    intro member
    have digit := Ascii.isSome_digitValue?_of_mem_toDigits (by omega) (by omega) member
    exact absurd digit (by decide)
  obtain ⟨address, portNumber⟩ := peer
  cases address with
  | four address =>
      have noColonInside : ':' ∉ Address.fourText address := by
        intro member
        rcases Address.mem_fourText member with dot | digit
        · exact absurd dot (by decide)
        · exact absurd digit (by decide)
      exact hostPart_of_colon
        (IpAddress.not_mem_text (by decide) (by decide) (by decide) (.four address))
        noColonInside noColon
  | six groups =>
      have unclosed : ']' ∉ (IpAddress.six groups).text :=
        IpAddress.not_mem_text (by decide) (by decide) (by decide) (.six groups)
      have bracketed : Peer.text ⟨.six groups, portNumber⟩ =
          '[' :: ((IpAddress.six groups).text ++ ']' :: ':' :: Nat.toDigits 10 portNumber) := by
        simp [Peer.text]
      rw [bracketed, hostPart_of_brackets unclosed]

end ClientKey

/-- A request that a peer sent and no forwarding header states another address for. -/
structure Request.ComesFrom (request : Request) (peer : Peer) : Prop where
  sender : request.peer = some peer
  notForwarded : ClientKey.textValue? request.headers ClientKey.forwardedFor = none
  notStated : ClientKey.textValue? request.headers ClientKey.realAddress = none

def Request.caller (request : Request) : Caller :=
  ⟨request.headers,
    match request.peer with
    | some peer => String.ofList peer.text
    | none => ""⟩

namespace Request.ComesFrom

variable {request : Request} {peer : Peer}

theorem characters_address (direct : request.ComesFrom peer) :
    request.caller.characters .address = peer.address.text := by
  rw [Caller.characters, KeyRule.keyChars, Request.caller, direct.sender, ClientKey.address,
    direct.notForwarded, direct.notStated]
  simp [ClientKey.hostPart_text]

theorem not_holdsMark (direct : request.ComesFrom peer) : ¬request.caller.HoldsMark := by
  intro marked
  rw [Caller.HoldsMark, direct.characters_address] at marked
  have letter : 'p' ∈ Caller.mark := by decide
  exact IpAddress.not_mem_text (by decide) (by decide) (by decide) peer.address
    (marked.subset letter)

end Request.ComesFrom

namespace Caller

variable {left right : Caller} {header : String}

def ShareCredential (header : String) (left right : Caller) : Prop :=
  ∃ secret, left.credential? header = some secret ∧ right.credential? header = some secret

def BothAnonymous (header : String) (left right : Caller) : Prop :=
  left.credential? header = none ∧ right.credential? header = none

theorem credential_keys_eq_iff (plainLeft : ¬left.HoldsMark) (plainRight : ¬right.HoldsMark) :
    left.key (.credential header) = right.key (.credential header) ↔
      ShareCredential header left right ∨
        (BothAnonymous header left right ∧ left.key .address = right.key .address) := by
  cases ofLeft : left.credential? header with
  | some secret =>
      cases ofRight : right.credential? header with
      | some other =>
          rw [key_eq_iff, characters_credential ofLeft, characters_credential ofRight]
          simp [ShareCredential, BothAnonymous, ofLeft, ofRight, eq_comm]
      | none =>
          rw [credential_key_eq_iff ofLeft ofRight]
          constructor
          · intro written
            exact absurd (holdsMark_of_address written) plainRight
          · simp [ShareCredential, BothAnonymous, ofLeft, ofRight]
  | none =>
      cases ofRight : right.credential? header with
      | some other =>
          rw [eq_comm, credential_key_eq_iff ofRight ofLeft]
          constructor
          · intro written
            exact absurd (holdsMark_of_address written) plainLeft
          · simp [ShareCredential, BothAnonymous, ofLeft, ofRight]
      | none =>
          rw [key_eq_iff, characters_anonymous ofLeft, characters_anonymous ofRight, key_eq_iff]
          simp [ShareCredential, BothAnonymous, ofLeft, ofRight]

theorem not_overruns (plainLeft : ¬left.HoldsMark) (plainRight : ¬right.HoldsMark) :
    ¬Overruns header left right := by
  intro overruns
  rcases overruns.holdsMark with ⟨_, _, marked⟩ | ⟨_, marked⟩
  · exact plainRight marked
  · exact plainLeft marked

/-- Among addresses without the mark a joined key is told apart at the colon between its parts. -/
theorem composite_keys_eq_iff (plainLeft : ¬left.HoldsMark) (plainRight : ¬right.HoldsMark) :
    left.key (KeyStrategy.composite.rule header) = right.key (KeyStrategy.composite.rule header) ↔
      left.key .address = right.key .address ∧
        (ShareCredential header left right ∨ BothAnonymous header left right) := by
  rw [composite_key_eq_iff, credential_keys_eq_iff plainLeft plainRight]
  constructor
  · rintro (⟨address, shared | ⟨anonymous, _⟩⟩ | overruns | overruns)
    · exact ⟨address, Or.inl shared⟩
    · exact ⟨address, Or.inr anonymous⟩
    · exact absurd overruns (not_overruns plainLeft plainRight)
    · exact absurd overruns (not_overruns plainRight plainLeft)
  · rintro ⟨address, shared | anonymous⟩
    · exact Or.inl ⟨address, Or.inl shared⟩
    · exact Or.inl ⟨address, Or.inr ⟨anonymous, address⟩⟩

end Caller

theorem Gateway.callerKey_eq (admission : Admission) (request : Request) :
    callerKey admission request = request.caller.key admission.rule :=
  rfl

/-- Requests straight from their peers share a key of a strategy exactly if their callers agree in
what the strategy goes by. The numbers of the peers' ports have no part in it. -/
theorem peer_keys_identify_callers (limiter : Limiter Binary64) (header : String)
    {left right : Request} {one other : Peer} (ofLeft : left.ComesFrom one)
    (ofRight : right.ComesFrom other) :
    (Gateway.callerKey ⟨limiter, KeyStrategy.ip.rule header⟩ left =
        Gateway.callerKey ⟨limiter, KeyStrategy.ip.rule header⟩ right ↔
      one.address.text = other.address.text) ∧
    (Gateway.callerKey ⟨limiter, KeyStrategy.apiKey.rule header⟩ left =
        Gateway.callerKey ⟨limiter, KeyStrategy.apiKey.rule header⟩ right ↔
      Caller.ShareCredential header left.caller right.caller ∨
        (Caller.BothAnonymous header left.caller right.caller ∧
          one.address.text = other.address.text)) ∧
    (Gateway.callerKey ⟨limiter, KeyStrategy.composite.rule header⟩ left =
        Gateway.callerKey ⟨limiter, KeyStrategy.composite.rule header⟩ right ↔
      one.address.text = other.address.text ∧
        (Caller.ShareCredential header left.caller right.caller ∨
          Caller.BothAnonymous header left.caller right.caller)) := by
  have addresses : left.caller.key .address = right.caller.key .address ↔
      one.address.text = other.address.text := by
    rw [Caller.key_eq_iff, ofLeft.characters_address, ofRight.characters_address]
  simp only [Gateway.callerKey_eq]
  refine ⟨addresses, ?_, ?_⟩
  · rw [← addresses]
    exact Caller.credential_keys_eq_iff ofLeft.not_holdsMark ofRight.not_holdsMark
  · rw [← addresses]
    exact Caller.composite_keys_eq_iff ofLeft.not_holdsMark ofRight.not_holdsMark

def connection (portNumber : Nat) (secret? : Option String) : Request :=
  { method := Method.get
    target := ⟨none, "", "/", none⟩
    headers := match secret? with
      | none => Headers.empty
      | some secret => Headers.empty.append (HeaderName.ofLiteral "x-api-key") (Octets.ofText secret)
    body := []
    peer := some ⟨.six [0x2001, 0xdb8, 0, 0, 0, 0, 0, 1], portNumber⟩ }

theorem peer_keys_identify_connections :
    let limiter := Limiter.start ⟨Binary64.ofNat 1, 1⟩
    let key := fun strategy request =>
      Gateway.callerKey ⟨limiter, KeyStrategy.rule strategy "X-API-Key"⟩ request
    key .ip (connection 4000 (some "abc")) = key .ip (connection 4001 none) ∧
      key .apiKey (connection 4000 (some "abc")) ≠ key .apiKey (connection 4001 none) ∧
      key .apiKey (connection 4001 none) = key .apiKey (connection 4002 none) ∧
      key .composite (connection 4000 (some "abc")) ≠ key .composite (connection 4001 none) ∧
      key .composite (connection 4001 none) = key .composite (connection 4002 none) := by
  have carried : (connection 4000 (some "abc")).caller.credential? "X-API-Key" = some "abc".toList := by
    decide +kernel
  have missing : (connection 4001 none).caller.credential? "X-API-Key" = none := by decide +kernel
  have missingToo : (connection 4002 none).caller.credential? "X-API-Key" = none := by decide +kernel
  have direct : ∀ portNumber, (connection portNumber none).ComesFrom
      ⟨.six [0x2001, 0xdb8, 0, 0, 0, 0, 0, 1], portNumber⟩ :=
    fun _ => ⟨rfl, rfl, rfl⟩
  have directToo : (connection 4000 (some "abc")).ComesFrom
      ⟨.six [0x2001, 0xdb8, 0, 0, 0, 0, 0, 1], 4000⟩ :=
    ⟨rfl, by decide +kernel, by decide +kernel⟩
  have apart := peer_keys_identify_callers (Limiter.start ⟨Binary64.ofNat 1, 1⟩) "X-API-Key" directToo
    (direct 4001)
  have together := peer_keys_identify_callers (Limiter.start ⟨Binary64.ofNat 1, 1⟩) "X-API-Key"
    (direct 4001) (direct 4002)
  refine ⟨apart.1.mpr rfl, ?_, together.2.1.mpr (Or.inr ⟨⟨missing, missingToo⟩, rfl⟩), ?_,
    together.2.2.mpr ⟨rfl, Or.inr ⟨missing, missingToo⟩⟩⟩
  · intro same
    rcases apart.2.1.mp same with ⟨_, _, present⟩ | ⟨⟨absent, _⟩, _⟩
    · rw [missing] at present
      cases present
    · rw [carried] at absent
      cases absent
  · intro same
    rcases (apart.2.2.mp same).2 with ⟨_, _, present⟩ | ⟨absent, _⟩
    · rw [missing] at present
      cases present
    · rw [carried] at absent
      cases absent

end CachingGateway

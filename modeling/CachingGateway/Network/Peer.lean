/-
Socket addresses of peers: a numeric host and a number beside it.
-/

import CachingGateway.Network.Address

namespace CachingGateway

inductive IpAddress where
  | four (address : Nat)
  | six (groups : List Nat)
  deriving DecidableEq, Repr

namespace IpAddress

/-- The text of an address. One of version six that only wraps a version-four address shows it. -/
def text : IpAddress → List Char
  | four address => Address.fourText address
  | six [0, 0, 0, 0, 0, 0xFFFF, high, low] =>
    "::ffff:".toList ++ Address.fourText (high * 65536 + low)
  | six groups => Address.sixText groups

end IpAddress

structure Peer where
  address : IpAddress
  portNumber : Nat
  deriving DecidableEq, Repr

namespace Peer

def text (peer : Peer) : List Char :=
  let host := match peer.address with
    | .four _ => peer.address.text
    | .six _ => '[' :: (peer.address.text ++ [']'])
  host ++ ':' :: Nat.toDigits 10 peer.portNumber

def four? (text : List Char) : Option IpAddress :=
  match Address.embeddedFour? text with
  | some [high, low] => some (.four (high * 65536 + low))
  | _ => none

def portNumber? (text : List Char) : Option Nat :=
  (Ascii.number? 10 text).filter (· < 65536)

def ofText? (text : String) : Option Peer := do
  match text.toList with
  | '[' :: rest =>
    let (host, behind) ← Ascii.splitOnce? ']' rest
    let groups ← Address.six? host
    match behind with
    | ':' :: digits => pure ⟨.six groups, ← portNumber? digits⟩
    | _ => none
  | other =>
    let (host, digits) ← Ascii.splitLast? ':' other
    pure ⟨← four? host, ← portNumber? digits⟩

end Peer

end CachingGateway

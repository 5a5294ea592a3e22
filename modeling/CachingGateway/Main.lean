/-
The program. It reads its arguments, variables and file, listens for requests and for readings of
the counts, and serves until it is told to stop. What stands here reads, waits and sends; what is
answered is decided by the gateway.
-/

import CachingGateway.CommandLine.Report
import CachingGateway.Forwarding.OutboundMessage
import CachingGateway.Gateway.MetricsEndpoint
import CachingGateway.Gateway.Resumption
import CachingGateway.RateLimit.Sweep
import CachingGateway.Text.Uuid
import Std.Async.DNS
import Std.Async.Signal
import Std.Async.TCP
import Std.Async.Timer

namespace CachingGateway.Program

open Std.Async (Async Selectable Signal background sleep)
open Std.Async.TCP.Socket (Client Server)
open Std.Net (IPAddr IPv4Addr IPv6Addr SocketAddress)

/-! ### The system -/

def readClock : IO Clock := do
  let wall ← Std.Time.Timestamp.now
  let monotonic ← IO.monoNanosNow
  pure ⟨⟨wall.toNanosecondsSinceUnixEpoch.val⟩, ⟨monotonic⟩⟩

def readMoment : IO Moment := do
  pure (Moment.ofNanoseconds (← readClock).wall.nanoseconds)

def readEnvironment : IO Environment := do
  let values ← Environment.names.filterMapM fun name => do
    pure ((← IO.getEnv name).map fun value => (name, value))
  pure (Environment.ofList values)

/-- The number of a refusal without the sign it may have been given. -/
def unsigned (number : UInt32) : Nat :=
  if number.toNat ≤ Word.greatestSigned32 then number.toNat
  else Word.greatest32 + 1 - number.toNat

def capitalized (text : String) : String :=
  match text.toList with
  | first :: rest => String.ofList (first.toUpper :: rest)
  | [] => ""

/-- Numbers from here on tell of names that were looked up in vain. -/
def firstLookupNumber : Nat := 3000

def numbered (details : String) (number : UInt32) : String :=
  if firstLookupNumber ≤ unsigned number then "failed to lookup address information: " ++ details
  else capitalized details ++ " (os error " ++ toString (unsigned number) ++ ")"

def refusalText (error : IO.Error) : String :=
  match error with
  | .noFileOrDirectory _ number details => numbered details number
  | .permissionDenied _ number details => numbered details number
  | .inappropriateType _ number details => numbered details number
  | .invalidArgument _ number details => numbered details number
  | .resourceExhausted _ number details => numbered details number
  | .noSuchThing _ number details => numbered details number
  | .resourceBusy number details => numbered details number
  | .unsupportedOperation number details => numbered details number
  | .otherError number details => numbered details number
  | other => toString other

def readFile (named : Option String) : IO FileReader := do
  let content : Except String Octets ← match named with
    | none => pure (.ok [])
    | some path =>
      try
        let bytes ← IO.FS.readBinFile path
        pure (.ok bytes.toList)
      catch error => pure (.error (refusalText error))
  pure fun _ => content

def milliseconds (duration : Duration) : Std.Time.Millisecond.Offset :=
  ⟨(min duration.milliseconds Word.greatestSigned64 : Nat)⟩

/-! ### Addresses -/

def systemFour (address : Nat) : IPv4Addr :=
  .ofParts (UInt8.ofNat (address / 0x1000000)) (UInt8.ofNat (address / 0x10000))
    (UInt8.ofNat (address / 0x100)) (UInt8.ofNat address)

def systemSix (groups : List Nat) : IPv6Addr :=
  let group (place : Nat) : UInt16 := UInt16.ofNat (groups.getD place 0)
  .ofParts (group 0) (group 1) (group 2) (group 3) (group 4) (group 5) (group 6) (group 7)

def systemAddress (number : Nat) : IPAddr → SocketAddress
  | .v4 address => .v4 ⟨address, UInt16.ofNat number⟩
  | .v6 address => .v6 ⟨address, UInt16.ofNat number⟩

def addresses (host : Host) (number : Nat) : Async (List SocketAddress) := do
  let found ← match host with
    | .four address => pure [IPAddr.v4 (systemFour address)]
    | .six groups => pure [IPAddr.v6 (systemSix groups)]
    | .domain name => do
      let resolved ← Std.Async.DNS.getAddrInfo name ""
      pure resolved.toList
  pure (found.map (systemAddress number))

def listeningHost (address : String) : Host :=
  match Peer.ofText? (address ++ ":0") with
  | some ⟨.four host, _⟩ => .four host
  | some ⟨.six groups, _⟩ => .six groups
  | none => .domain address

def peer : SocketAddress → Peer
  | .v4 ⟨address, number⟩ =>
    ⟨.four (address.octets.toList.foldl (fun total octet => total * 256 + octet.toNat) 0),
      number.toNat⟩
  | .v6 ⟨address, number⟩ => ⟨.six (address.segments.toList.map UInt16.toNat), number.toNat⟩

/-! ### Connections -/

def connect : List SocketAddress → Async Client
  | [] => throw (IO.userError "no address")
  | address :: others => do
    try
      let client ← Client.mk
      client.connect address
      pure client
    catch error => if others.isEmpty then throw error else connect others

def send (client : Client) (octets : Octets) : Async Unit :=
  client.send (ByteArray.mk octets.toArray)

/-- Reads from a connection until a reader is content. The reader is told whether anything may still
come. -/
partial def receive {result : Type} (client : Client) (read : Bool → Framing.Reader result)
    (octets : Octets) : Async (Except Unread (result × Octets)) := do
  match read false octets with
  | .ok found => pure (.ok found)
  | .error .malformed => pure (.error .malformed)
  | .error .incomplete =>
    match ← client.recv? 65536 with
    | some bytes => receive client read (octets ++ bytes.toList)
    | none => pure (read true octets)

partial def converse (answer : Request → Async Outcome) (client : Client) (peer : Option Peer)
    (octets : Octets) : Async Unit := do
  match ← receive client (fun _ => Framing.request peer) octets with
  | .error .incomplete => client.shutdown
  | .error .malformed =>
    send client (Framing.refusal (← readMoment))
    client.shutdown
  | .ok (inbound, rest) =>
    match ← answer inbound.request with
    | .answered response =>
      send client (Framing.answer inbound (← readMoment) response)
      if inbound.staysOpen then converse answer client peer rest else client.shutdown
    | _ => client.shutdown

partial def accept (listener : Server) (answer : Request → Async Outcome) : Async Unit := do
  try
    let client ← listener.accept
    let named ← try pure (some (peer (← client.getPeerName))) catch _ => pure none
    background (converse answer client named [])
  catch _ => sleep (milliseconds (Duration.ofSeconds 1))
  accept listener answer

/-! ### The service behind the gateway -/

def interimLimit : Nat := 100

def exchange (request : OutboundRequest) : Async LinkAnswer := do
  match request.url.host with
  | none => pure .unreachable
  | some host =>
    let client ← connect (← addresses host (OutboundMessage.portNumber request.url))
    send client (OutboundMessage.bytes request)
    match ← receive client (Framing.response interimLimit request.method) [] with
    | .ok (response, _) => pure (.response response)
    | .error _ => pure .unreachable

def exchangeWithin (timeout : Duration) (request : OutboundRequest) : Async LinkAnswer :=
  Async.race
    (try exchange request catch _ => pure .unreachable)
    (do
      sleep (milliseconds timeout)
      pure .timedOut)

def ask (forwarder : Forwarder) (request : Request) : Async OriginAnswer := do
  let outbound := forwarder.outbound request
  let answer ←
    if outbound.url.scheme = "http" then exchangeWithin forwarder.timeout outbound
    else pure .unreachable
  pure (forwarder.dispatch (fun _ => answer) request)

/-! ### Serving -/

structure Service where
  gateway : IO.Ref Gateway
  carried : IO.Ref Nat
  forwarder : Forwarder

namespace Service

def create (settings : Settings) (forwarder : Forwarder) : IO Service := do
  let gateway ← IO.mkRef (Gateway.ofSettings settings (← readClock))
  let carried ← IO.mkRef 0
  pure ⟨gateway, carried, forwarder⟩

def change {result : Type} (service : Service) (step : Gateway → Gateway × result) : IO result := do
  let clock ← readClock
  service.gateway.modifyGet fun gateway => (step { gateway with clock := clock }).swap

def carry (service : Service) (request : Request) : Async Outcome := do
  let random ← IO.getRandomBytes 16
  let fresh := Octets.ofText (String.ofList (Uuid.text random.toList))
  let (begun, exchange) ← service.change fun gateway =>
    let exchange := gateway.begin fresh request
    (exchange.gateway, (gateway.clock.monotonic, exchange))
  match exchange.asked with
  | none => pure exchange.outcome
  | some asked =>
    let answer ← ask service.forwarder asked
    service.change fun gateway => gateway.resume begun asked answer

def answer (service : Service) (request : Request) : Async Outcome := do
  service.carried.modify (· + 1)
  try
    let outcome ← service.carry request
    if outcome = .broken then service.change fun gateway => (gateway.abandon, ())
    pure outcome
  finally service.carried.modify (· - 1)

def scrape (service : Service) (path : String) (request : Request) : Async Outcome := do
  let response ← service.change fun gateway =>
    gateway.scrape path request.method request.target
  pure (.answered response)

partial def sweep (service : Service) : Async Unit := do
  sleep (milliseconds SweptLimiter.standardInterval)
  service.change fun gateway => (gateway.reclaim SweptLimiter.standardIdle, ())
  sweep service

def drain (service : Service) : Nat → Async Unit
  | 0 => pure ()
  | rounds + 1 => do
    if 0 < (← service.carried.get) then
      sleep (milliseconds ⟨20000000⟩)
      drain service rounds

end Service

def listen (purpose address : String) (number : Nat) :
    Async (Except CommandLine.Report Server) := do
  try
    let candidates ← addresses (listeningHost address) number
    match candidates with
    | [] => throw (IO.userError "no address")
    | first :: _ =>
      let listener ← Server.mk
      listener.bind first
      listener.listen 1024
      pure (.ok listener)
  catch error =>
    pure (.error (CommandLine.failure
      ("failed to bind " ++ purpose ++ address ++ ":" ++ toString number) (refusalText error)))

def breakdown (message : String) : CommandLine.Report :=
  ⟨101, [], [message]⟩

def awaitStop : Async Unit := do
  let interrupted ← Signal.Waiter.mk .sigint false
  let terminated ← Signal.Waiter.mk .sigterm false
  Selectable.one #[.case interrupted.selector pure, .case terminated.selector pure]

def serve (settings : Settings) (forwarder : Forwarder) :
    Async (Except CommandLine.Report Unit) := do
  let service ← Service.create settings forwarder
  if settings.rateLimit.enabled then background service.sweep
  if settings.metrics.enabled then
    match ← listen "metrics listener " settings.server.address settings.metrics.portNumber with
    | .error report => return .error report
    | .ok listener =>
      match Gateway.routeFault? settings.metrics.path with
      | some fault => return .error (breakdown fault.message)
      | none => background (accept listener (service.scrape settings.metrics.path))
  match ← listen "" settings.server.address settings.server.portNumber with
  | .error report => return .error report
  | .ok listener => background (accept listener service.answer)
  awaitStop
  service.drain (settings.server.shutdownTimeout * 50)
  return .ok ()

def print (report : CommandLine.Report) : IO UInt32 := do
  for line in report.output do
    IO.println line
  for line in report.errors do
    IO.eprintln line
  pure (UInt32.ofNat report.code)

def run (settings : Settings) : IO UInt32 := do
  match Forwarder.ofSettings settings.origin with
  | .error error => print (CommandLine.failure "failed to build upstream client" error.message)
  | .ok forwarder =>
    match ← (serve settings forwarder).block with
    | .error report => print report
    | .ok () => pure 0

end CachingGateway.Program

open CachingGateway in
def main (arguments : List String) : IO UInt32 := do
  let environment ← Program.readEnvironment
  let read ← Program.readFile (CommandLine.namedFile arguments environment)
  match CommandLine.start arguments environment read with
  | .stopped report => Program.print report
  | .serving settings => Program.run settings

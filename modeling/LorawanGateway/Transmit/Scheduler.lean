import LorawanGateway.Radio.Concentrator
import LorawanGateway.Transmit.ListenGate
import LorawanGateway.Transmit.Queue

/-!
Scheduling of transmissions on the radio chains of a gateway. A request is checked against the
envelope of its chain, then against the chain's queue and, unless it is a beacon, against the
channels reserved so far. A transmit pass hands the due packets of all chains to the concentrator.
-/

namespace LorawanGateway

/-- What a radio chain may send: frequencies in hertz and output powers in dBm. -/
structure TxEnvelope where
  enabled : Bool := true
  lowestFrequency : UInt32 := 863000000
  highestFrequency : UInt32 := 870000000
  powers : List Int8 := [0, 6, 10, 12, 14, 16, 20, 27]
  deriving DecidableEq, Repr

/-- The power to use out of a table: the greatest one not above the requested power, or else the
smallest one. -/
def selectPower? (powers : List Int8) (requested : Int8) : Option Int8 :=
  (powers.filter (· ≤ requested)).max?.or powers.min?

/-- The packet with a power of the envelope, if the envelope allows it. -/
def TxEnvelope.fit (envelope : TxEnvelope) (packet : TransmitPacket) :
    Except TxError TransmitPacket :=
  if !envelope.enabled then .error .invalid
  else if packet.frequency < envelope.lowestFrequency
      ∨ envelope.highestFrequency < packet.frequency then .error .frequency
  else
    match selectPower? envelope.powers packet.power with
    | none => .error .power
    | some power => .ok { packet with power }

/-- A radio chain: its envelope and what is queued for it. -/
structure TxChain where
  envelope : TxEnvelope
  queue : TxQueue
  deriving DecidableEq, Repr

/-- How many requests were accepted and refused, and how many packets were sent. -/
structure TxStatistics where
  enqueued : Nat := 0
  rejected : Nat := 0
  transmitted : Nat := 0
  deriving DecidableEq, Repr

/-- What is known of an accepted request: its send time, and the power that replaces the requested
one if that is not supported. -/
structure TxAcceptance where
  sendTime : UInt32
  adjustedPower : Option Int8
  deriving DecidableEq, Repr

/-- The radio chains with their queues and the channels reserved for all of them. -/
structure TxScheduler where
  chains : List TxChain
  gate : Option ListenGate
  statistics : TxStatistics := {}
  deriving DecidableEq, Repr

namespace TxScheduler

/-- A scheduler with nothing queued. -/
def ofEnvelopes (envelopes : List TxEnvelope) (gate : Option ListenGate) : TxScheduler where
  chains := envelopes.map fun envelope => ⟨envelope, .standard⟩
  gate := gate

def queue? (scheduler : TxScheduler) (chain : Nat) : Option TxQueue :=
  scheduler.chains[chain]?.map (·.queue)

def setQueue (scheduler : TxScheduler) (chain : Nat) (queue : TxQueue) : TxScheduler :=
  { scheduler with chains := scheduler.chains.modify chain fun c => { c with queue } }

/-- Reserves the channel of a packet, where there is a gate; a beacon needs no reservation. -/
def reserve (gate : Option ListenGate) (packetClass : PacketClass) (packet : TransmitPacket)
    (now : UInt32) : Except TxError (Option ListenGate) :=
  match gate, packetClass with
  | none, _ => .ok none
  | some gate, .beacon => .ok (some gate)
  | some gate, _ => (gate.reserve packet now).map fun reserved => some reserved.2

/-- Queues a packet on the chain it names. A refused packet may still have put the queue in
order. -/
def place (scheduler : TxScheduler) (now : UInt32) (packet : TransmitPacket)
    (packetClass : PacketClass) : Except TxError TxAcceptance × TxScheduler :=
  let index := packet.rfChain.toNat
  match scheduler.chains[index]? with
  | none => (.error .invalid, scheduler)
  | some chain =>
    match chain.envelope.fit packet with
    | .error fault => (.error fault, scheduler)
    | .ok fitted =>
      match chain.queue.accept now fitted packetClass with
      | (.error fault, queue) => (.error fault, scheduler.setQueue index queue)
      | (.ok entry, queue) =>
        match reserve scheduler.gate packetClass entry.packet now with
        | .error fault => (.error fault, scheduler.setQueue index queue)
        | .ok gate =>
          let adjusted := if fitted.power = packet.power then none else some fitted.power
          (.ok ⟨entry.sendTime, adjusted⟩,
            { scheduler.setQueue index (queue.insert now entry) with gate })

def TxStatistics.count (statistics : TxStatistics) : Except TxError TxAcceptance → TxStatistics
  | .ok _ => { statistics with enqueued := statistics.enqueued + 1 }
  | .error _ => { statistics with rejected := statistics.rejected + 1 }

def enqueue (scheduler : TxScheduler) (now : UInt32) (packet : TransmitPacket)
    (packetClass : PacketClass) : Except TxError TxAcceptance × TxScheduler :=
  let (outcome, scheduler) := scheduler.place now packet packetClass
  (outcome, { scheduler with statistics := TxStatistics.count scheduler.statistics outcome })

def peek (scheduler : TxScheduler) (chain : Nat) (now : UInt32) :
    Option QueueEntry × TxScheduler :=
  match scheduler.queue? chain with
  | none => (none, scheduler)
  | some queue =>
    let (entry, queue) := queue.peek now
    (entry, scheduler.setQueue chain queue)

def pop (scheduler : TxScheduler) (chain : Nat) (now : UInt32) :
    Option QueueEntry × TxScheduler :=
  match scheduler.queue? chain with
  | none => (none, scheduler)
  | some queue =>
    let (entry, queue) := queue.pop now
    (entry, scheduler.setQueue chain queue)

def beaconCount (scheduler : TxScheduler) (chain : Nat) : Nat :=
  (scheduler.queue? chain).elim 0 (·.beaconCount)

def queueSize (scheduler : TxScheduler) (chain : Nat) : Nat :=
  (scheduler.queue? chain).elim 0 (·.size)

/-- Takes all due packets of each chain and sends them, chain by chain; counts those sent. -/
def passChains (now : UInt32) : List TxChain → Concentrator → List TxChain × Concentrator × Nat
  | [], radio => ([], radio, 0)
  | chain :: rest, radio =>
    let (due, queue) := chain.queue.drain now
    let (radio, sent) := radio.sendAll (due.map (·.packet))
    let (rest, radio, more) := passChains now rest radio
    ({ chain with queue } :: rest, radio, sent + more)

def passAt (scheduler : TxScheduler) (now : UInt32) (radio : Concentrator) :
    TxScheduler × Concentrator :=
  let (chains, radio, sent) := passChains now scheduler.chains radio
  let statistics := scheduler.statistics
  ({ scheduler with
    chains
    statistics := { statistics with transmitted := statistics.transmitted + sent } }, radio)

/-- A transmit pass at the present value of the counter; none while it cannot be read. -/
def pass (scheduler : TxScheduler) (radio : Concentrator) : TxScheduler × Concentrator :=
  match radio.now? with
  | none => (scheduler, radio)
  | some now => scheduler.passAt now radio

end TxScheduler

end LorawanGateway

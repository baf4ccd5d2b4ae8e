import LorawanGateway.Gateway.Poller
import LorawanGateway.Proofs.Datagram.TxAckBody
import LorawanGateway.Proofs.Gateway.TxRequest
import LorawanGateway.Proofs.Transmit.SchedulerRun

/-!
What the server is told about a request, against what became of it. A request can fail in many
places, from its text to the queue of its chain; at each of them nothing joins a queue, the request
is counted as rejected, and the server is told so. Any other request is in the queue that it named.
-/

namespace LorawanGateway

namespace TxScheduler

/-- The queues hold what they held. -/
def SameEntries (before after : TxScheduler) : Prop :=
  ∀ chain, (after.entries chain).Perm (before.entries chain)

/-- One entry joined the queue of its chain, and no other queue changed. -/
structure Gained (before after : TxScheduler) (entry : QueueEntry) : Prop where
  entries : (after.entries entry.packet.rfChain.toNat).Perm
    (entry :: before.entries entry.packet.rfChain.toNat)
  others : ∀ chain ≠ entry.packet.rfChain.toNat, after.queue? chain = before.queue? chain

theorem Gained.not_sameEntries {before after : TxScheduler} {entry : QueueEntry}
    (gained : Gained before after entry) : ¬ SameEntries before after := by
  intro same
  have longer := gained.entries.length_eq
  rw [(same _).length_eq, List.length_cons] at longer
  omega

end TxScheduler

open TxScheduler (SameEntries Gained)

/-- A packet goes to the chain that a request names, and carries what its data spell. -/
structure Txpk.AsksFor (txpk : Txpk) (packet : TransmitPacket) : Prop where
  chain : txpk.rfChain = some packet.rfChain
  payload : ∃ text, txpk.data = some text ∧ Base64.decodePayload? text = some packet.payload
  short : packet.payload.length ≤ maxPayloadLength

theorem Txpk.asksFor_of_toTransmit {txpk : Txpk} {settings : TxSettings}
    {packet : TransmitPacket} {packetClass : PacketClass}
    (made : txpk.toTransmit settings = .ok (packet, packetClass)) : txpk.AsksFor packet := by
  obtain ⟨_, _, _, _, _, -, -, directed, -, spelled, -, rfl⟩ := toTransmit_eq_ok_iff.mp made
  obtain ⟨_, text, -, -, data, decoded, short⟩ := payload_eq_ok_iff.mp spelled
  exact ⟨directed, ⟨text, data, decoded⟩, short⟩

namespace DownlinkCounters

def turnDown (down : DownlinkCounters) : DownlinkCounters :=
  { down with requested := down.requested + 1, rejected := down.rejected + 1 }

def takeOn (down : DownlinkCounters) (octets : Nat) : DownlinkCounters :=
  { down with
    requested := down.requested + 1
    accepted := down.accepted + 1
    payloadOctets := down.payloadOctets + octets }

end DownlinkCounters

namespace Gateway

variable {gateway after : Gateway} {value : Json} {txpk : Txpk} {status : TxAckStatus}
variable {packet : TransmitPacket} {packetClass : PacketClass} {now : UInt32}
variable {down counted : DownlinkCounters}

/-- A request is one for a packet, and the counter can be read. -/
structure Sendable (gateway : Gateway) (value : Json) (txpk : Txpk) (packet : TransmitPacket)
    (packetClass : PacketClass) (now : UInt32) : Prop where
  read : Txpk.ofJson? value = some txpk
  made : txpk.toTransmit gateway.txSettings = .ok (packet, packetClass)
  clock : gateway.radio.now? = some now

/-- What becomes of a request: at one of four places it fails and leaves the queues as they are,
or its packet joins the queue of the chain that it names. -/
inductive Settled (gateway : Gateway) (value : Json) (down : DownlinkCounters) :
    TxAckStatus → Gateway → DownlinkCounters → Prop where
  | malformed (unread : Txpk.ofJson? value = none) :
      Settled gateway value down (.rejected .invalid) gateway down.turnDown
  | unfit {txpk : Txpk} {fault : TxRequestError} (read : Txpk.ofJson? value = some txpk)
      (unmade : txpk.toTransmit gateway.txSettings = .error fault) :
      Settled gateway value down (.rejected fault.acknowledged) gateway down.turnDown
  | clockless {txpk : Txpk} {made : TransmitPacket × PacketClass}
      (read : Txpk.ofJson? value = some txpk)
      (fit : txpk.toTransmit gateway.txSettings = .ok made)
      (unknown : gateway.radio.now? = none) :
      Settled gateway value down (.rejected .invalid) gateway down.turnDown
  | refused {txpk : Txpk} {packet : TransmitPacket} {packetClass : PacketClass} {now : UInt32}
      {cause : TxError} {scheduler : TxScheduler}
      (sendable : Sendable gateway value txpk packet packetClass now)
      (asked : gateway.scheduler.enqueue now packet packetClass = (.error cause, scheduler))
      (same : SameEntries gateway.scheduler scheduler) :
      Settled gateway value down (.rejected cause) { gateway with scheduler } down.turnDown
  | queued {txpk : Txpk} {packet : TransmitPacket} {packetClass : PacketClass} {now : UInt32}
      {acceptance : TxAcceptance} {scheduler : TxScheduler} {entry : QueueEntry}
      {status : TxAckStatus} (sendable : Sendable gateway value txpk packet packetClass now)
      (asked : gateway.scheduler.enqueue now packet packetClass = (.ok acceptance, scheduler))
      (told : status = .accepted ∨ status = .powerAdjusted entry.packet.power)
      (asks : txpk.AsksFor entry.packet)
      (gained : Gained gateway.scheduler scheduler entry) :
      Settled gateway value down status { gateway with scheduler }
        (down.takeOn entry.packet.payload.length)

theorem statusOf_ok (acceptance : TxAcceptance) :
    isAccepted (statusOf (.ok acceptance)) = true ∧
      (statusOf (.ok acceptance) = .accepted ∨
        statusOf (.ok acceptance) =
          .powerAdjusted (acceptance.entry packet packetClass).packet.power) := by
  obtain ⟨sendTime, adjusted⟩ := acceptance
  cases adjusted with
  | none => exact ⟨rfl, .inl rfl⟩
  | some power => exact ⟨rfl, .inr rfl⟩

theorem settled_of_enqueue {outcome : Except TxError TxAcceptance}
    (read : Txpk.ofJson? value = some txpk)
    (made : txpk.toTransmit gateway.txSettings = .ok (packet, packetClass))
    (asked : gateway.enqueue packet packetClass = (outcome, after)) :
    Settled gateway value down (statusOf outcome) after
      { down.request (isAccepted (statusOf outcome)) with
        payloadOctets := down.payloadOctets + payloadAdded packet outcome } := by
  unfold enqueue at asked
  cases clock : gateway.radio.now? with
  | none =>
      simp only [clock, Prod.mk.injEq] at asked
      obtain ⟨rfl, rfl⟩ := asked
      exact .clockless read made clock
  | some now =>
      have sendable : Sendable gateway value txpk packet packetClass now := ⟨read, made, clock⟩
      cases placed : gateway.scheduler.enqueue now packet packetClass with
      | mk verdict scheduler =>
          simp only [clock, placed, Prod.mk.injEq] at asked
          obtain ⟨rfl, rfl⟩ := asked
          cases verdict with
          | error cause =>
              exact .refused sendable placed (TxScheduler.enqueue_refused placed).entries
          | ok acceptance =>
              have joined := TxScheduler.enqueue_joined placed
              have asks := Txpk.asksFor_of_toTransmit made
              obtain ⟨accepted, told⟩ := statusOf_ok acceptance
              rw [accepted]
              -- The entry differs from the packet in power, time and mode alone.
              exact .queued sendable placed told ⟨asks.chain, asks.payload, asks.short⟩
                ⟨joined.entries, joined.others⟩

theorem settled_of_request (read : Txpk.ofJson? value = some txpk)
    (answered : gateway.request txpk down = (status, after, counted)) :
    Settled gateway value down status after counted := by
  unfold request at answered
  cases made : txpk.toTransmit gateway.txSettings with
  | error fault =>
      simp only [made, Prod.mk.injEq] at answered
      obtain ⟨rfl, rfl, rfl⟩ := answered
      exact .unfit read made
  | ok result =>
      obtain ⟨packet, packetClass⟩ := result
      simp only [made, Prod.mk.injEq] at answered
      obtain ⟨rfl, rfl, rfl⟩ := answered
      exact settled_of_enqueue read made rfl

theorem settled_of_requestJson
    (answered : gateway.requestJson value down = (status, after, counted)) :
    Settled gateway value down status after counted := by
  unfold requestJson at answered
  cases read : Txpk.ofJson? value with
  | some txpk =>
      simp only [read] at answered
      exact settled_of_request read answered
  | none =>
      simp only [read, Prod.mk.injEq] at answered
      obtain ⟨rfl, rfl, rfl⟩ := answered
      exact .malformed read

/-- An answer tells whether the queues hold what they held. -/
theorem Settled.rejected_iff (settled : Settled gateway value down status after counted) :
    (∃ cause, status = .rejected cause) ↔ SameEntries gateway.scheduler after.scheduler := by
  cases settled with
  | malformed | unfit | clockless => exact ⟨fun _ _ => .refl _, fun _ => ⟨_, rfl⟩⟩
  | refused sendable asked same => exact ⟨fun _ => same, fun _ => ⟨_, rfl⟩⟩
  | queued sendable asked told asks gained =>
      refine ⟨fun ⟨cause, rejected⟩ => ?_, fun same => (gained.not_sameEntries same).elim⟩
      rcases told with told | told <;> cases told.symm.trans rejected

theorem Settled.id_eq (settled : Settled gateway value down status after counted) :
    after.id = gateway.id := by
  cases settled <;> rfl

end Gateway

/-- What a datagram makes a service hand to its socket: an acknowledgement if it is a request, with
the token of the request, the gateway and a body that tells the outcome of the request and no other;
and nothing otherwise. -/
structure Acknowledged (before after : ServiceState) (datagram : Octets) : Prop where
  answered_iff : (∃ answer, after.sent = before.sent ++ [answer]) ↔
    ∃ token txpk, ServerDatagram.ofOctets datagram = .ok (.pullResp token txpk)
  answer : ∀ token txpk, ServerDatagram.ofOctets datagram = .ok (.pullResp token txpk) →
    ∃ status body, before.gateway.requestJson txpk (before.report.down.receive datagram.length) =
        (status, after.gateway, after.report.down) ∧
      (∀ told : TxAckStatus, told.Tells body ↔ told = status) ∧
      after.sent = before.sent ++
        [Datagram.header token .txAck (some before.gateway.id) ++ body]
  silent : (∀ token txpk, ServerDatagram.ofOctets datagram ≠ .ok (.pullResp token txpk)) →
    after.sent = before.sent

namespace Poller

variable {before after : ServiceState} {datagram : Octets}

theorem acknowledged_of_silent (same : after.sent = before.sent)
    (other : ∀ token txpk, ServerDatagram.ofOctets datagram ≠ .ok (.pullResp token txpk)) :
    Acknowledged before after datagram := by
  refine ⟨⟨fun ⟨answer, longer⟩ => ?_, fun ⟨token, txpk, read⟩ => (other token txpk read).elim⟩,
    fun token txpk read => (other token txpk read).elim, fun _ => same⟩
  have lengths := congrArg List.length (same.symm.trans longer)
  simp at lengths

theorem acknowledged_of_answer {token : Token} {txpk : Json} {status : TxAckStatus}
    (read : ServerDatagram.ofOctets datagram = .ok (.pullResp token txpk))
    (asked : before.gateway.requestJson txpk (before.report.down.receive datagram.length) =
      (status, after.gateway, after.report.down))
    (sent : after.sent = before.sent ++
      [Datagram.header token .txAck (some before.gateway.id) ++ status.toJson.print]) :
    Acknowledged before after datagram := by
  refine ⟨⟨fun _ => ⟨token, txpk, read⟩, fun _ => ⟨_, sent⟩⟩, fun token txpk same => ?_,
    fun other => (other token txpk read).elim⟩
  cases read.symm.trans same
  exact ⟨status, _, asked, fun _ => TxAckStatus.tells_print_iff, sent⟩

theorem handle_acknowledged (poller : Poller) (state : ServiceState) (round : PollRound)
    (datagram : Octets) :
    Acknowledged state (poller.handle state round datagram).2.1
      (datagram.take Datagram.receiveCapacity) := by
  unfold handle
  generalize datagram.take Datagram.receiveCapacity = arrived
  cases read : ServerDatagram.ofOctets arrived with
  | error fault =>
      simp only [read]
      exact acknowledged_of_silent rfl (by simp [read])
  | ok message =>
      cases message with
      | pushAck token =>
          simp only [read]
          exact acknowledged_of_silent rfl (by simp [read])
      | pullAck token =>
          simp only [read]
          refine acknowledged_of_silent ?_ (by simp [read])
          split <;> rfl
      | pullResp token txpk =>
          simp only [read]
          cases asked : (state.countDown (·.receive arrived.length)).gateway.requestJson txpk
              (state.countDown (·.receive arrived.length)).report.down with
          | mk status rest =>
              obtain ⟨gateway, down⟩ := rest
              -- The answer names the gateway as the request left it.
              have sameId := (Gateway.settled_of_requestJson asked).id_eq
              simp only [Datagram.txAck_eq, sameId]
              exact acknowledged_of_answer read asked rfl

end Poller

/-- The acknowledgement of a request tells the truth. Whatever the request says and wherever it
fails, the status is a rejection exactly if nothing joined a queue; otherwise one entry did, on
the chain and with the payload of the request. The counters agree with the status, and a datagram
is answered exactly if it is a request, with its token and a body that tells this status: no error,
the code of the cause, or the power that is used instead. -/
theorem acknowledgement_truthful :
    (∀ gateway value down,
      let (status, after, counted) := Gateway.requestJson gateway value down
      gateway.Settled value down status after counted ∧
        ((∃ cause, status = .rejected cause) ↔
          SameEntries gateway.scheduler after.scheduler)) ∧
    ∀ poller state round datagram,
      Acknowledged state (Poller.handle poller state round datagram).2.1
        (datagram.take Datagram.receiveCapacity) := by
  refine ⟨fun gateway value down => ?_, Poller.handle_acknowledged⟩
  have settled : gateway.Settled value down _ _ _ := Gateway.settled_of_requestJson rfl
  exact ⟨settled, settled.rejected_iff⟩

end LorawanGateway

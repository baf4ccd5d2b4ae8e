import LorawanGateway.Proofs.Transmit.QueueRun
import LorawanGateway.Proofs.Transmit.SchedulerLaws
import Mathlib.Data.List.Perm.Basic

/-!
Runs of a transmitter: a scheduler and the concentrator it drives, on an absolute clock whose value
modulo 2^32 is the counter. Events are requests and transmit passes. What becomes of the packets is
kept on record chain by chain; a record is made of every accepted request and of every entry handed
to the concentrator, in the order in which it happens.

Events reach the entries of a chain in `TxQueue.Change`s only: some of them go, an admitted one
joins, or the one that lies nearest ahead is handed over. Laws of runs are proved by one case for
each of these.
-/

namespace LorawanGateway

/-- What happens to a transmitter: a request, or a transmit pass. -/
inductive TxEvent where
  | request (packet : TransmitPacket) (packetClass : PacketClass)
  | pass
  deriving DecidableEq, Repr

/-- What is on record of a chain: a request accepted for a send time, or an entry handed over to
the concentrator. -/
inductive TxRecord where
  | accepted (time : Nat) (sendTime : UInt32)
  | handedOver (time : Nat) (entry : QueueEntry)
  deriving DecidableEq, Repr

def TxRecord.packet? : TxRecord → Option TransmitPacket
  | accepted _ _ => none
  | handedOver _ entry => some entry.packet

def passTimes : List (Nat × TxEvent) → List Nat
  | [] => []
  | (time, .pass) :: rest => time :: passTimes rest
  | (_, .request _ _) :: rest => passTimes rest

structure Transmitter where
  scheduler : TxScheduler
  radio : Concentrator

namespace TxQueue

/-- One change of the entries of a queue at a time, with what it puts on record. -/
inductive Change (time : Nat) : List QueueEntry → List TxRecord → List QueueEntry → Prop where
  | fewer {before after : List QueueEntry} (kept : after.Subperm before) :
      Change time before [] after
  | accept {before after : List QueueEntry} {entry : QueueEntry} {packet : TransmitPacket}
      {packetClass : PacketClass}
      (admitted : Admitted before (Counter.ofTime time) packet packetClass entry)
      (joined : after.Perm (entry :: before)) :
      Change time before [.accepted time entry.sendTime] after
  | handOver {before after : List QueueEntry} {entry : QueueEntry}
      (parted : before.Perm (entry :: after))
      (first : ∀ other ∈ before,
        (entry.ahead (Counter.ofTime time)).toNat ≤ (other.ahead (Counter.ofTime time)).toNat)
      (near : (entry.ahead (Counter.ofTime time)).toNat < Timing.lead.toNat) :
      Change time before [.handedOver time entry] after

inductive Changes (time : Nat) : List QueueEntry → List TxRecord → List QueueEntry → Prop where
  | none {entries : List QueueEntry} : Changes time entries [] entries
  | more {before middle after : List QueueEntry} {records rest : List TxRecord}
      (first : Change time before records middle) (others : Changes time middle rest after) :
      Changes time before (records ++ rest) after

variable {queue after : TxQueue} {time count : Nat}

theorem Changes.single {before after : List QueueEntry} {records : List TxRecord}
    (change : Change time before records after) : Changes time before records after := by
  simpa using Changes.more change .none

theorem drain_go_changes {due : List QueueEntry}
    (drained : drain.go (Counter.ofTime time) count queue = (due, after)) :
    Changes time queue.entries (due.map (.handedOver time)) after.entries := by
  induction count generalizing queue due with
  | zero =>
      cases drained
      exact .single (.fewer ((queue.purge_perm _).subperm.trans (queue.current_subperm _)))
  | succ count induction =>
      unfold drain.go at drained
      split at drained
      · rename_i refused
        cases drained
        exact .single (.fewer ((pop_none refused).1.subperm.trans (queue.current_subperm _)))
      · rename_i entry middle taken
        cases drained
        obtain ⟨parted, first, near⟩ := pop_some taken
        exact .more (.fewer (queue.current_subperm _))
          (.more (.handOver parted first near) (induction rfl))

end TxQueue

namespace Transmitter

open TxQueue

variable {transmitter : Transmitter} {chain time : Nat}

def fresh (envelopes : List TxEnvelope) (gate : Option ListenGate) (radio : Concentrator) :
    Transmitter :=
  ⟨.ofEnvelopes envelopes gate, radio⟩

def step (transmitter : Transmitter) (time : Nat) : TxEvent → Transmitter
  | .request packet packetClass =>
    { transmitter with
      scheduler := (transmitter.scheduler.enqueue (Counter.ofTime time) packet packetClass).2 }
  | .pass =>
    let (scheduler, radio) :=
      transmitter.scheduler.passAt (Counter.ofTime time) transmitter.radio
    ⟨scheduler, radio⟩

def records (transmitter : Transmitter) (chain time : Nat) : TxEvent → List TxRecord
  | .request packet packetClass =>
    match (transmitter.scheduler.enqueue (Counter.ofTime time) packet packetClass).1 with
    | .ok acceptance =>
      if packet.rfChain.toNat = chain then [.accepted time acceptance.sendTime] else []
    | .error _ => []
  | .pass => (transmitter.scheduler.due chain (Counter.ofTime time)).map (.handedOver time)

/-- The packets that an event hands to the concentrator, chain by chain. -/
def sends (transmitter : Transmitter) (time : Nat) (event : TxEvent) : List TransmitPacket :=
  (List.range transmitter.scheduler.chains.length).flatMap fun chain =>
    (transmitter.records chain time event).filterMap TxRecord.packet?

def run (transmitter : Transmitter) : List (Nat × TxEvent) → Transmitter
  | [] => transmitter
  | (time, event) :: rest => (transmitter.step time event).run rest

def history (transmitter : Transmitter) (chain : Nat) : List (Nat × TxEvent) → List TxRecord
  | [] => []
  | (time, event) :: rest =>
    transmitter.records chain time event ++ (transmitter.step time event).history chain rest

def sent (transmitter : Transmitter) : List (Nat × TxEvent) → List TransmitPacket
  | [] => []
  | (time, event) :: rest =>
    transmitter.sends time event ++ (transmitter.step time event).sent rest

def entries (transmitter : Transmitter) (chain : Nat) : List QueueEntry :=
  transmitter.scheduler.entries chain

theorem run_append (transmitter : Transmitter) (first second : List (Nat × TxEvent)) :
    transmitter.run (first ++ second) = (transmitter.run first).run second := by
  induction first generalizing transmitter with
  | nil => rfl
  | cons event rest induction => exact induction _

theorem history_append (transmitter : Transmitter) (chain : Nat)
    (first second : List (Nat × TxEvent)) :
    transmitter.history chain (first ++ second) =
      transmitter.history chain first ++ (transmitter.run first).history chain second := by
  induction first generalizing transmitter with
  | nil => rfl
  | cons event rest induction =>
      simp only [List.cons_append, history, run, induction, List.append_assoc]

theorem fresh_length (envelopes : List TxEnvelope) (gate : Option ListenGate)
    (radio : Concentrator) :
    (fresh envelopes gate radio).scheduler.chains.length = envelopes.length :=
  List.length_map _

theorem entries_fresh (envelopes : List TxEnvelope) (gate : Option ListenGate)
    (radio : Concentrator) (chain : Nat) : (fresh envelopes gate radio).entries chain = [] :=
  TxScheduler.entries_ofEnvelopes envelopes gate chain

/-- A request keeps all entries, and adds one to the chain it names if it is accepted. -/
theorem request_entries (transmitter : Transmitter) (chain time : Nat) (packet : TransmitPacket)
    (packetClass : PacketClass) :
    let before := transmitter.entries chain
    let after := (transmitter.step time (.request packet packetClass)).entries chain
    let records := transmitter.records chain time (.request packet packetClass)
    (records = [] ∧ after.Perm before) ∨
      ∃ entry power, records = [.accepted time entry.sendTime] ∧
        Admitted before (Counter.ofTime time) { packet with power } packetClass entry ∧
        after.Perm (entry :: before) := by
  cases placed : transmitter.scheduler.place (Counter.ofTime time) packet packetClass with
  | mk outcome after =>
      simp only [entries, step, records, TxScheduler.enqueue_entries, TxScheduler.enqueue_outcome,
        placed]
      cases outcome with
      | error fault => exact .inl ⟨rfl, TxScheduler.place_error placed chain⟩
      | ok acceptance =>
          obtain ⟨entry, power, sendTime, admitted, joined, others⟩ :=
            TxScheduler.place_ok placed
          by_cases own : packet.rfChain.toNat = chain
          · subst own
            simp only [if_true, ← sendTime]
            exact .inr ⟨entry, power, rfl, admitted, joined⟩
          · simp only [if_neg own, others chain (Ne.symm own)]
            exact .inl ⟨trivial, .refl _⟩

theorem request_changes (transmitter : Transmitter) (chain time : Nat) (packet : TransmitPacket)
    (packetClass : PacketClass) :
    Change time (transmitter.entries chain)
      (transmitter.records chain time (.request packet packetClass))
      ((transmitter.step time (.request packet packetClass)).entries chain) := by
  rcases transmitter.request_entries chain time packet packetClass with
    ⟨silent, same⟩ | ⟨entry, power, recorded, admitted, joined⟩
  · rw [silent]
    exact .fewer same.subperm
  · rw [recorded]
    exact .accept admitted joined

/-- The concentrator is handed what is on record, and nothing else. -/
theorem step_radio (transmitter : Transmitter) (time : Nat) (event : TxEvent) :
    (transmitter.step time event).radio =
      (transmitter.radio.sendAll (transmitter.sends time event)).1 := by
  cases event with
  | request packet packetClass =>
      have silent : transmitter.sends time (.request packet packetClass) = [] := by
        refine List.flatMap_eq_nil_iff.mpr fun chain _ => ?_
        rcases transmitter.request_entries chain time packet packetClass with
          ⟨recorded, -⟩ | ⟨entry, power, recorded, -, -⟩ <;> rw [recorded] <;> rfl
      rw [silent]
      rfl
  | pass =>
      have packets : transmitter.sends time .pass =
          (List.range transmitter.scheduler.chains.length).flatMap fun chain =>
            (transmitter.scheduler.due chain (Counter.ofTime time)).map (·.packet) := by
        simp only [sends, records, List.filterMap_map]
        refine congrArg (List.flatMap · _) (funext fun chain => ?_)
        exact congrFun List.filterMap_eq_map _
      rw [packets]
      exact TxScheduler.passAt_radio _ _ _

theorem run_radio (transmitter : Transmitter) (events : List (Nat × TxEvent)) :
    (transmitter.run events).radio =
      (transmitter.radio.sendAll (transmitter.sent events)).1 := by
  induction events generalizing transmitter with
  | nil => rfl
  | cons event rest induction =>
      rw [run, induction, sent, Concentrator.sendAll_append, step_radio]

theorem step_length (transmitter : Transmitter) (time : Nat) (event : TxEvent) :
    (transmitter.step time event).scheduler.chains.length =
      transmitter.scheduler.chains.length := by
  cases event with
  | request packet packetClass => exact TxScheduler.place_length _ _ _ _
  | pass => exact TxScheduler.passAt_length _ _ _

theorem run_length (transmitter : Transmitter) (events : List (Nat × TxEvent)) :
    (transmitter.run events).scheduler.chains.length = transmitter.scheduler.chains.length := by
  induction events generalizing transmitter with
  | nil => rfl
  | cons event rest induction => exact (induction _).trans (transmitter.step_length _ _)

/-- In the end the concentrator was handed what is on record of the chains, one with the other. -/
theorem sent_perm (transmitter : Transmitter) (events : List (Nat × TxEvent)) :
    (transmitter.sent events).Perm
      ((List.range transmitter.scheduler.chains.length).flatMap fun chain =>
        (transmitter.history chain events).filterMap TxRecord.packet?) := by
  induction events generalizing transmitter with
  | nil => simp [sent, history]
  | cons event rest induction =>
      obtain ⟨time, event⟩ := event
      have later := induction (transmitter.step time event)
      rw [step_length] at later
      simp only [sent, history, List.filterMap_append]
      exact (later.append_left _).trans (List.flatMap_append_perm ..)

theorem pass_changes (transmitter : Transmitter) (chain time : Nat) :
    Changes time (transmitter.entries chain) (transmitter.records chain time .pass)
      ((transmitter.step time .pass).entries chain) := by
  simp only [entries, step, records, TxScheduler.entries, TxScheduler.due,
    TxScheduler.passAt_queue?]
  cases transmitter.scheduler.queue? chain with
  | none => exact .none
  | some queue => exact drain_go_changes rfl

theorem step_changes (transmitter : Transmitter) (chain time : Nat) (event : TxEvent) :
    Changes time (transmitter.entries chain) (transmitter.records chain time event)
      ((transmitter.step time event).entries chain) := by
  cases event with
  | request packet packetClass => exact .single (transmitter.request_changes ..)
  | pass => exact transmitter.pass_changes chain time

end Transmitter

end LorawanGateway

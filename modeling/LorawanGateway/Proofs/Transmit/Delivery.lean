import LorawanGateway.Proofs.Transmit.OnAir
import Mathlib.Data.List.Chain

/-!
Delivery of accepted packets. As long as passes follow an acceptance and one another within
`Timing.lead`, no pass can step over the span before a send time in which the packet is due, and
the pass that falls into it takes everything that is due. Until then the packet lies too far ahead
to be taken and too near to be dropped.
-/

namespace LorawanGateway

open TxQueue

/-- Whether a record is a hand-over of a packet that leaves at a time. -/
def TxRecord.leavesAt (start : Nat) : TxRecord → Bool
  | .accepted _ _ => false
  | .handedOver time entry => entry.startFrom time == start

/-- No two packets that a chain handed over leave at one time. -/
theorem Orderly.filter_leavesAt {past : List TxRecord} {clock start : Nat}
    {entries : List QueueEntry} {record : TxRecord} (orderly : Orderly past clock entries)
    (member : record ∈ past) (leaves : record.leavesAt start = true) :
    past.filter (·.leavesAt start) = [record] := by
  have once : past.Pairwise fun first second =>
      ¬ (first.leavesAt start = true ∧ second.leavesAt start = true) := by
    refine List.pairwise_iff_forall_sublist.mpr ?_
    rintro first second pair ⟨firstLeaves, secondLeaves⟩
    cases first with
    | accepted time sendTime => cases firstLeaves
    | handedOver time entry =>
        cases second with
        | accepted later sendTime => cases secondLeaves
        | handedOver later other =>
            have starts := (orderly.handed time entry later other pair).1
            have here : entry.startFrom time = start := by
              simpa [TxRecord.leavesAt] using firstLeaves
            have there : other.startFrom later = start := by
              simpa [TxRecord.leavesAt] using secondLeaves
            omega
  have kept : record ∈ past.filter (·.leavesAt start) := List.mem_filter.mpr ⟨member, leaves⟩
  have onceKept := once.filter (·.leavesAt start)
  have allLeave : ∀ other ∈ past.filter (·.leavesAt start), other.leavesAt start = true :=
    fun other among => (List.mem_filter.mp among).2
  cases shape : past.filter (·.leavesAt start) with
  | nil =>
      rw [shape] at kept
      cases kept
  | cons first rest =>
      rw [shape] at kept onceKept allLeave
      cases rest with
      | nil => rw [List.mem_singleton.mp kept]
      | cons second rest =>
          have apart := List.rel_of_pairwise_cons onceKept (List.mem_cons_self (a := second))
          exact absurd ⟨allLeave first (by simp), allLeave second (by simp)⟩ apart

namespace Transmitter

variable {transmitter : Transmitter} {entry : QueueEntry} {events : List (Nat × TxEvent)}
variable {chain time later start last : Nat}

theorem passTimes_append (first second : List (Nat × TxEvent)) :
    passTimes (first ++ second) = passTimes first ++ passTimes second := by
  induction first with
  | nil => rfl
  | cons event rest induction =>
      obtain ⟨time, event⟩ := event
      cases event with
      | request packet packetClass => exact induction
      | pass => exact congrArg (time :: ·) induction

theorem passTimes_sublist (events : List (Nat × TxEvent)) :
    (passTimes events).Sublist (events.map Prod.fst) := by
  induction events with
  | nil => exact .slnil
  | cons event rest induction =>
      obtain ⟨time, event⟩ := event
      cases event with
      | request packet packetClass => exact .cons time induction
      | pass => exact .cons_cons time induction

theorem passTimes_around {before after : List (Nat × TxEvent)} {packet : TransmitPacket}
    {packetClass : PacketClass}
    (ordered : ((before ++ (time, .request packet packetClass) :: after).map Prod.fst).Pairwise
      (· ≤ ·)) :
    (∀ pass ∈ passTimes before, pass ≤ time) ∧ ∀ pass ∈ passTimes after, time ≤ pass := by
  simp only [List.map_append, List.map_cons] at ordered
  obtain ⟨-, fromRequest, untilRequest⟩ := List.pairwise_append.mp ordered
  constructor
  · intro pass among
    exact untilRequest pass ((passTimes_sublist before).subset among) time List.mem_cons_self
  · intro pass among
    exact List.rel_of_pairwise_cons fromRequest ((passTimes_sublist after).subset among)

theorem request_keeps (member : entry ∈ transmitter.entries chain) (packet : TransmitPacket)
    (packetClass : PacketClass) :
    entry ∈ (transmitter.step time (.request packet packetClass)).entries chain := by
  rcases transmitter.request_entries chain time packet packetClass with
    ⟨-, same⟩ | ⟨newcomer, power, -, -, joined⟩
  · exact same.mem_iff.mpr member
  · exact joined.mem_iff.mpr (List.mem_cons_of_mem _ member)

theorem pass_keeps (time : Nat) (member : entry ∈ transmitter.entries chain)
    (near : (entry.ahead (Counter.ofTime time)).toNat < Timing.maxAdvance.toNat) :
    (.handedOver time entry ∈ transmitter.records chain time .pass ∧
        (entry.ahead (Counter.ofTime time)).toNat < Timing.lead.toNat) ∨
      (entry ∈ (transmitter.step time .pass).entries chain ∧
        Timing.lead.toNat ≤ (entry.ahead (Counter.ofTime time)).toNat) := by
  simp only [entries, step, records, TxScheduler.entries, TxScheduler.due,
    TxScheduler.passAt_queue?] at member ⊢
  cases found : transmitter.scheduler.queue? chain with
  | none =>
      rw [found] at member
      cases member
  | some queue =>
      rw [found] at member
      simp only [Option.elim_some, Option.map_some] at member ⊢
      obtain ⟨parted, dueNear, restFar⟩ := queue.drain_spec (Counter.ofTime time)
      have current := mem_current.mpr ⟨member, near⟩
      rcases List.mem_append.mp (parted.mem_iff.mp current) with due | rest
      · exact .inl ⟨List.mem_map_of_mem due, dueNear entry due⟩
      · exact .inr ⟨rest, restFar entry rest⟩

/-- What is on record as handed over was handed over by a pass, less than the lead ahead. -/
theorem handedOver_of_history
    (recorded : .handedOver time entry ∈ transmitter.history chain events) :
    time ∈ passTimes events ∧ entry.startFrom time < time + Timing.lead.toNat := by
  induction events generalizing transmitter with
  | nil => cases recorded
  | cons event rest induction =>
      obtain ⟨now, event⟩ := event
      rcases List.mem_append.mp recorded with here | there
      · cases event with
        | request packet packetClass =>
            rcases transmitter.request_entries chain now packet packetClass with
              ⟨silent, -⟩ | ⟨newcomer, power, accepted, -, -⟩
            · rw [silent] at here
              cases here
            · rw [accepted] at here
              cases List.mem_singleton.mp here
        | pass =>
            obtain ⟨taken, due, same⟩ := List.mem_map.mp here
            cases same
            refine ⟨List.mem_cons_self, ?_⟩
            unfold TxScheduler.due at due
            cases found : transmitter.scheduler.queue? chain with
            | none =>
                rw [found] at due
                cases due
            | some queue =>
                rw [found] at due
                have near := (queue.drain_spec (Counter.ofTime time)).2.1
                exact Nat.add_lt_add_left (near entry due) time
      · obtain ⟨pass, near⟩ := induction there
        refine ⟨?_, near⟩
        cases event with
        | request packet packetClass => exact pass
        | pass => exact List.mem_cons_of_mem now pass

/-- As long as no pass has come within the lead of a time, nothing that leaves then is handed
over. -/
theorem filter_leavesAt_eq_nil
    (notYet : ∀ pass ∈ passTimes events, pass + Timing.lead.toNat ≤ start) :
    (transmitter.history chain events).filter (·.leavesAt start) = [] := by
  refine List.filter_eq_nil_iff.mpr fun record member leaves => ?_
  cases record with
  | accepted time sendTime => cases leaves
  | handedOver time entry =>
      obtain ⟨pass, due⟩ := handedOver_of_history member
      have far := notYet time pass
      have leavesThen : entry.startFrom time = start := by simpa [TxRecord.leavesAt] using leaves
      omega

/-- While no pass has come within the lead of its start an entry stays queued; the first one that
does hands it over before the start. -/
theorem queued_or_handed (member : entry ∈ transmitter.entries chain)
    (startsAt : Counter.next entry.sendTime time = start)
    (near : start < time + Timing.maxAdvance.toNat)
    (pending : last + Timing.lead.toNat ≤ start) (since : ∀ pass ∈ passTimes events, time ≤ pass)
    (prompt : (last :: passTimes events).IsChain
      fun earlier later => later < earlier + Timing.lead.toNat) :
    (entry ∈ (transmitter.run events).entries chain ∧
        ∀ pass ∈ passTimes events, pass + Timing.lead.toNat ≤ start) ∨
      ∃ pass ∈ passTimes events, .handedOver pass entry ∈ transmitter.history chain events ∧
        pass < start ∧ start < pass + Timing.lead.toNat := by
  induction events generalizing transmitter last with
  | nil => exact .inl ⟨member, by simp [passTimes]⟩
  | cons event rest induction =>
      obtain ⟨now, event⟩ := event
      cases event with
      | request packet packetClass =>
          rcases induction (transmitter.request_keeps member packet packetClass) pending since
            prompt with queued | ⟨pass, among, recorded, early⟩
          · exact .inl queued
          · exact .inr ⟨pass, among, List.mem_append_right _ recorded, early⟩
      | pass =>
          obtain ⟨soon, promptRest⟩ := List.isChain_cons_cons.mp prompt
          obtain ⟨passed, sinceRest⟩ := List.forall_mem_cons.mp since
          -- The last pass was not within the lead yet, so this one is not beyond the start.
          have same : now + (entry.ahead (Counter.ofTime now)).toNat = start :=
            (Counter.next_eq passed (by omega)).trans startsAt
          rcases transmitter.pass_keeps now member (by omega) with
            ⟨recorded, due⟩ | ⟨kept, far⟩
          · refine .inr ⟨now, List.mem_cons_self, List.mem_append_left _ recorded, ?_, ?_⟩
            · omega
            · omega
          · rcases induction kept (by omega) sinceRest promptRest with
              ⟨queued, notYet⟩ | ⟨pass, among, laterRecorded, early⟩
            · exact .inl ⟨queued, List.forall_mem_cons.mpr ⟨by omega, notYet⟩⟩
            · exact .inr ⟨pass, List.mem_cons_of_mem now among,
                List.mem_append_right _ laterRecorded, early⟩

/-- A packet accepted less than the greatest advance ahead, with passes that follow the acceptance
and one another within the lead, is at any later moment either still queued and not handed over
yet, no pass having come within the lead of its start, or was handed to the concentrator once, by a
pass less than the lead before its start. -/
theorem accepted_handed_over_once (envelopes : List TxEnvelope) (gate : Option ListenGate)
    (radio : Concentrator) (before after : List (Nat × TxEvent)) (time : Nat)
    (packet : TransmitPacket) (packetClass : PacketClass) (acceptance : TxAcceptance)
    (ordered : ((before ++ (time, .request packet packetClass) :: after).map Prod.fst).Pairwise
      (· ≤ ·))
    (accepted : (((fresh envelopes gate radio).run before).scheduler.enqueue
      (Counter.ofTime time) packet packetClass).1 = .ok acceptance)
    (near : (acceptance.sendTime - Counter.ofTime time).toNat < Timing.maxAdvance.toNat)
    (prompt : (time :: passTimes after).IsChain
      fun earlier later => later < earlier + Timing.lead.toNat) :
    let transmitter := fresh envelopes gate radio
    let chain := packet.rfChain.toNat
    let start := time + (acceptance.sendTime - Counter.ofTime time).toNat
    ∃ entry : QueueEntry, entry.packetClass = packetClass ∧
      entry.packet = { packet with
        power := entry.packet.power
        counter := acceptance.sendTime
        mode := entry.packet.mode } ∧
      chain < envelopes.length ∧
      ∀ reached, reached <+: after →
        let events := before ++ (time, .request packet packetClass) :: reached
        let handed := (transmitter.history chain events).filter (·.leavesAt start)
        (transmitter.run events).radio = (radio.sendAll (transmitter.sent events)).1 ∧
        (transmitter.sent events).Perm ((List.range envelopes.length).flatMap fun chain =>
          (transmitter.history chain events).filterMap TxRecord.packet?) ∧
        ((entry ∈ (transmitter.run events).entries chain ∧ handed = [] ∧
            ∀ pass ∈ passTimes reached, pass + Timing.lead.toNat ≤ start) ∨
          ∃ pass ∈ passTimes reached, pass < start ∧ start < pass + Timing.lead.toNat ∧
            handed = [.handedOver pass entry]) := by
  intro transmitter chain start
  obtain ⟨entry, power, sendTime, admitted, joined, -⟩ :=
    TxScheduler.place_ok (Prod.ext accepted rfl)
  have samePower : entry.packet.power = power := by rw [admitted.ofPacket]
  have member : entry ∈ ((transmitter.run before).step time
      (.request packet packetClass)).entries chain := joined.mem_iff.mpr List.mem_cons_self
  have chains : transmitter.scheduler.chains.length = envelopes.length := fresh_length ..
  have inside : chain < envelopes.length := by
    have found := TxScheduler.lt_length_of_mem member
    rw [step_length, run_length, chains] at found
    exact found
  refine ⟨entry, admitted.ofClass, ?_, inside, fun reached reachedPrefix =>
    ⟨run_radio _ _, chains ▸ transmitter.sent_perm _, ?_⟩⟩
  · rw [samePower, ← sendTime]
    exact admitted.ofPacket
  have reachedOrdered : ((before ++ (time, .request packet packetClass) :: reached).map
      Prod.fst).Pairwise (· ≤ ·) :=
    ordered.sublist (((reachedPrefix.sublist.cons_cons _).append_left before).map Prod.fst)
  have reachedPrompt : (time :: passTimes reached).IsChain
      fun earlier later => later < earlier + Timing.lead.toNat := by
    obtain ⟨rest, rfl⟩ := reachedPrefix
    rw [passTimes_append, ← List.cons_append] at prompt
    exact prompt.left_of_append
  have startsAt : Counter.next entry.sendTime time = start := by
    rw [sendTime]
    rfl
  have late : time + Timing.shortNotice < start :=
    startsAt ▸ Nat.add_lt_add_left admitted.notLate time
  rw [Timing.shortNotice_eq] at late
  obtain ⟨untilNow, fromNow⟩ := passTimes_around reachedOrdered
  rcases queued_or_handed member startsAt (Nat.add_lt_add_left near time)
    (by simp only [Timing.toNat_lead]; omega) fromNow reachedPrompt with
    ⟨queued, notYet⟩ | ⟨pass, among, handedOver, early, soon⟩
  · refine .inl ⟨?_, filter_leavesAt_eq_nil fun pass among => ?_, notYet⟩
    · rw [run_append]
      exact queued
    · rw [passTimes_append] at among
      rcases List.mem_append.mp among with earlier | later
      · have passed := untilNow pass earlier
        simp only [Timing.toNat_lead]
        omega
      · exact notYet pass later
  · refine .inr ⟨pass, among, early, soon, ?_⟩
    have leaves : entry.startFrom pass = start :=
      (Counter.next_eq (fromNow pass among) (by omega)).trans startsAt
    obtain ⟨now, orderly⟩ := Orderly.fresh envelopes gate radio reachedOrdered chain
    refine orderly.filter_leavesAt ?_ (by simp [TxRecord.leavesAt, leaves])
    rw [history_append]
    exact List.mem_append_right _ (List.mem_append_right _ handedOver)

/-- An answer asked for while another one waits. -/
def answerRequest : TxEvent := .request { counter := 100000 } .classA

def earlierRequest : List (Nat × TxEvent) := [(0, .request { counter := 300000 } .classA)]

def promptPasses : List (Nat × TxEvent) := [(45000, .pass), (80000, .pass), (115000, .pass)]

theorem answer_handed_over_at_second_pass :
    ((earlierRequest ++ (10000, answerRequest) :: promptPasses).map Prod.fst).Pairwise (· ≤ ·) ∧
    (((fresh [{}] none {}).run earlierRequest).scheduler.enqueue (Counter.ofTime 10000)
      { counter := 100000 } .classA).1 = .ok ⟨100000, none⟩ ∧
    (10000 :: passTimes promptPasses).IsChain
      (fun earlier later => later < earlier + Timing.lead.toNat) ∧
    ∃ entry : QueueEntry, ((fresh [{}] none {}).history 0
      (earlierRequest ++ (10000, answerRequest) :: promptPasses)).filter (·.leavesAt 100000) =
        [.handedOver 80000 entry] := by
  have ordered : ((earlierRequest ++ (10000, answerRequest) :: promptPasses).map
      Prod.fst).Pairwise (· ≤ ·) := by decide
  have accepted : (((fresh [{}] none {}).run earlierRequest).scheduler.enqueue
      (Counter.ofTime 10000) { counter := 100000 } .classA).1 = .ok ⟨100000, none⟩ := by cbv
  have prompt : (10000 :: passTimes promptPasses).IsChain
      fun earlier later => later < earlier + Timing.lead.toNat := by decide
  obtain ⟨entry, -, -, -, delivered⟩ := accepted_handed_over_once [{}] none {} earlierRequest
    promptPasses 10000 { counter := 100000 } .classA ⟨100000, none⟩ ordered accepted (by decide)
    prompt
  refine ⟨ordered, accepted, prompt, entry, ?_⟩
  rcases (delivered promptPasses (List.prefix_refl _)).2.2 with
    ⟨-, -, notYet⟩ | ⟨pass, among, early, soon, handed⟩
  · exact absurd (notYet 80000 (by decide)) (by decide)
  · have starts : 10000 + ((100000 : UInt32) - Counter.ofTime 10000).toNat = 100000 := by decide
    rw [starts] at early soon handed
    have second : pass = 80000 := by
      simp only [promptPasses, passTimes, List.mem_cons, List.not_mem_nil, or_false] at among
      rw [Timing.toNat_lead] at soon
      omega
    rw [second] at handed
    exact handed

end Transmitter

end LorawanGateway

import LorawanGateway.Proofs.Transmit.SchedulerRun

/-!
Independence of the chains of a scheduler without a gate. A call concerns one chain, and that chain
and the statistics are all that it looks at and changes. So a chain cannot tell a run from what
remains of it without the calls that concern other chains, and calls that concern different chains
can change places.
-/

namespace LorawanGateway

/-- The chain that a call concerns, whether there is such a chain or not. -/
def SchedulerCall.chain : SchedulerCall → Nat
  | enqueue _ packet _ => packet.rfChain.toNat
  | peek chain _ => chain
  | pop chain _ => chain

def SchedulerAnswer.count (statistics : TxStatistics) : SchedulerAnswer → TxStatistics
  | .outcome verdict => TxScheduler.TxStatistics.count statistics verdict
  | .entry _ => statistics

theorem SchedulerAnswer.count_comm (statistics : TxStatistics) (first second : SchedulerAnswer) :
    second.count (first.count statistics) = first.count (second.count statistics) := by
  cases first with
  | entry => rfl
  | outcome first =>
      cases second with
      | entry => rfl
      | outcome second => cases first <;> cases second <;> rfl

namespace TxScheduler

variable {scheduler whole own : TxScheduler} {chain index : Nat} {queue : TxQueue}
variable {call first second : SchedulerCall} {now : UInt32} {packet : TransmitPacket}
variable {packetClass : PacketClass}

theorem chains_setQueue (scheduler : TxScheduler) (index chain : Nat) (queue : TxQueue) :
    (scheduler.setQueue index queue).chains[chain]? =
      if index = chain then scheduler.chains[chain]?.map fun held => { held with queue }
      else scheduler.chains[chain]? := by
  simp only [setQueue, List.getElem?_modify]
  by_cases same : index = chain <;> cases scheduler.chains[chain]? <;> simp [same]

theorem chains_of_placed {after : TxScheduler} {outcome : Except TxError TxAcceptance}
    (placed : Placed scheduler now packet packetClass after outcome)
    (different : packet.rfChain.toNat ≠ chain) :
    after.chains[chain]? = scheduler.chains[chain]? := by
  cases placed with
  | unfit same => rw [same]
  | refused _ _ same | queued _ _ _ _ same =>
      rw [same]
      exact (chains_setQueue ..).trans (if_neg different)

theorem statistics_of_placed {after : TxScheduler} {outcome : Except TxError TxAcceptance}
    (placed : Placed scheduler now packet packetClass after outcome) :
    after.statistics = scheduler.statistics := by
  cases placed with
  | unfit same => rw [same]
  | refused _ _ same | queued _ _ _ _ same =>
      rw [same]
      rfl

/-- A call leaves the chains that it does not concern as they are. -/
theorem chains_answer_of_ne (scheduler : TxScheduler) (different : call.chain ≠ chain) :
    (scheduler.answer call).2.chains[chain]? = scheduler.chains[chain]? := by
  cases call with
  | enqueue now packet packetClass =>
      cases asked : scheduler.enqueue now packet packetClass with
      | mk outcome after =>
          obtain ⟨before, placed, chains, -⟩ := placed_of_enqueue asked
          simp only [answer, asked, chains]
          exact chains_of_placed placed different
  | peek index now =>
      simp only [answer, peek]
      cases scheduler.queue? index with
      | none => rfl
      | some queue => exact (chains_setQueue ..).trans (if_neg different)
  | pop index now =>
      simp only [answer, pop]
      cases scheduler.queue? index with
      | none => rfl
      | some queue => exact (chains_setQueue ..).trans (if_neg different)

theorem gate_answer (scheduler : TxScheduler) (call : SchedulerCall)
    (free : scheduler.gate = none) : (scheduler.answer call).2.gate = none := by
  cases scheduler.applied (.call call) with
  | refused request asked =>
      cases request
      exact (congrArg TxScheduler.gate (congrArg Prod.snd asked)).trans
        ((enqueue_refused asked).gate.trans free)
  | accepted request asked =>
      cases request
      have reserved := (enqueue_joined asked).gate
      rw [free] at reserved
      exact (congrArg TxScheduler.gate (congrArg Prod.snd asked)).trans reserved
  | looked silent gate => exact gate.trans free

theorem statistics_answer (scheduler : TxScheduler) (call : SchedulerCall) :
    (scheduler.answer call).2.statistics =
      (scheduler.answer call).1.count scheduler.statistics := by
  cases call with
  | enqueue now packet packetClass =>
      cases asked : scheduler.enqueue now packet packetClass with
      | mk outcome after =>
          obtain ⟨before, placed, -, -, counted⟩ := placed_of_enqueue asked
          rw [statistics_of_placed placed] at counted
          simpa only [answer, asked, SchedulerAnswer.count] using counted
  | peek index now =>
      simp only [answer, peek]
      cases scheduler.queue? index <;> rfl
  | pop index now =>
      simp only [answer, pop]
      cases scheduler.queue? index <;> rfl

attribute [ext] TxScheduler

/-- Two schedulers without a gate that a chain cannot tell apart. -/
structure AgreeOn (chain : Nat) (whole own : TxScheduler) : Prop where
  wholeGate : whole.gate = none
  ownGate : own.gate = none
  same : whole.chains[chain]? = own.chains[chain]?

namespace AgreeOn

theorem queue? (agree : AgreeOn chain whole own) : whole.queue? chain = own.queue? chain :=
  congrArg (Option.map TxChain.queue) agree.same

theorem setQueue (agree : AgreeOn chain whole own) (queue : TxQueue) :
    AgreeOn chain (whole.setQueue chain queue) (own.setQueue chain queue) := by
  refine ⟨agree.wholeGate, agree.ownGate, ?_⟩
  simp only [chains_setQueue, if_pos, agree.same]

theorem place (agree : AgreeOn packet.rfChain.toNat whole own) (now : UInt32)
    (packetClass : PacketClass) :
    (whole.place now packet packetClass).1 = (own.place now packet packetClass).1 ∧
      AgreeOn packet.rfChain.toNat (whole.place now packet packetClass).2
        (own.place now packet packetClass).2 := by
  unfold TxScheduler.place
  dsimp only
  rw [agree.same, agree.wholeGate, agree.ownGate]
  cases own.chains[packet.rfChain.toNat]? with
  | none => exact ⟨rfl, agree⟩
  | some held =>
      dsimp only
      cases held.envelope.fit packet with
      | error fault => exact ⟨rfl, agree⟩
      | ok fitted =>
          dsimp only
          cases held.queue.accept now fitted packetClass with
          | mk verdict queue =>
              cases verdict with
              | error fault => exact ⟨rfl, agree.setQueue queue⟩
              | ok entry => exact ⟨rfl, rfl, rfl, (agree.setQueue (queue.insert now entry)).same⟩

/-- A call that concerns the chain is answered alike, and the chain is the same afterwards. -/
theorem answer (agree : AgreeOn call.chain whole own) :
    (whole.answer call).1 = (own.answer call).1 ∧
      AgreeOn call.chain (whole.answer call).2 (own.answer call).2 := by
  cases call with
  | enqueue now packet packetClass =>
      obtain ⟨verdict, kept⟩ := agree.place now packetClass
      exact ⟨congrArg SchedulerAnswer.outcome verdict, kept.wholeGate, kept.ownGate, kept.same⟩
  | peek index now =>
      have found : whole.queue? index = own.queue? index := agree.queue?
      simp only [TxScheduler.answer, peek, found]
      cases own.queue? index with
      | none => exact ⟨rfl, agree⟩
      | some queue => exact ⟨rfl, agree.setQueue (queue.peek now).2⟩
  | pop index now =>
      have found : whole.queue? index = own.queue? index := agree.queue?
      simp only [TxScheduler.answer, pop, found]
      cases own.queue? index with
      | none => exact ⟨rfl, agree⟩
      | some queue => exact ⟨rfl, agree.setQueue (queue.pop now).2⟩

/-- A call that concerns another chain goes unnoticed. -/
theorem answer_of_ne (agree : AgreeOn chain whole own) (different : call.chain ≠ chain) :
    AgreeOn chain (whole.answer call).2 own :=
  ⟨whole.gate_answer call agree.wholeGate, agree.ownGate,
    (whole.chains_answer_of_ne different).trans agree.same⟩

theorem answers (agree : AgreeOn chain whole own) (calls : List SchedulerCall) :
    let remaining := own.answers (calls.filter (·.chain == chain))
    ((calls.zip (whole.answers calls).1).filter (·.1.chain == chain)).map (·.2) = remaining.1 ∧
      AgreeOn chain (whole.answers calls).2 remaining.2 := by
  induction calls generalizing whole own with
  | nil => exact ⟨rfl, agree⟩
  | cons call rest induction =>
      by_cases concerned : call.chain = chain
      · subst concerned
        obtain ⟨alike, after⟩ := agree.answer
        obtain ⟨later, last⟩ := induction after
        simp only [TxScheduler.answers, List.zip_cons_cons, List.filter_cons, beq_self_eq_true,
          if_true, List.map_cons]
        exact ⟨congrArg₂ List.cons alike later, last⟩
      · simpa [TxScheduler.answers, concerned] using induction (agree.answer_of_ne concerned)

end AgreeOn

/-- Calls that concern different chains are answered alike in either order, and lead to the same
scheduler. -/
theorem answers_comm (free : scheduler.gate = none) (different : first.chain ≠ second.chain) :
    scheduler.answers [second, first] =
      ((scheduler.answers [first, second]).1.reverse, (scheduler.answers [first, second]).2) := by
  have itself (chain : Nat) : AgreeOn chain scheduler scheduler := ⟨free, free, rfl⟩
  -- Either call finds its chain as it was before the other one.
  obtain ⟨firstAlike, firstChain⟩ := ((itself first.chain).answer_of_ne different.symm).answer
  obtain ⟨secondAlike, secondChain⟩ := ((itself second.chain).answer_of_ne different).answer
  have chains : ((scheduler.answer second).2.answer first).2.chains =
      ((scheduler.answer first).2.answer second).2.chains := by
    refine List.ext_getElem? fun chain => ?_
    by_cases ofFirst : first.chain = chain
    · rw [chains_answer_of_ne _ (fun same => different (ofFirst.trans same.symm)), ← ofFirst]
      exact firstChain.same
    · rw [chains_answer_of_ne _ ofFirst]
      by_cases ofSecond : second.chain = chain
      · rw [← ofSecond]
        exact secondChain.same.symm
      · rw [chains_answer_of_ne _ ofSecond, chains_answer_of_ne _ ofSecond,
          chains_answer_of_ne _ ofFirst]
  have statistics : ((scheduler.answer second).2.answer first).2.statistics =
      ((scheduler.answer first).2.answer second).2.statistics := by
    simp only [statistics_answer, firstAlike, secondAlike]
    exact SchedulerAnswer.count_comm ..
  have gate := firstChain.wholeGate.trans secondChain.wholeGate.symm
  refine Prod.ext ?_ (TxScheduler.ext chains gate statistics)
  simp only [answers, List.reverse_cons, List.reverse_nil, List.nil_append, List.cons_append,
    firstAlike, secondAlike]

/-- A chain of a scheduler without a gate is not influenced by the others: with all calls that
concern other chains taken out of a run, each remaining call is answered as in the whole run, and
the chain ends up with the same queue. So calls that concern different chains, made one after the
other, can change places wherever a run has led to. -/
theorem chains_independent (envelopes : List TxEnvelope) (calls : List SchedulerCall) :
    let start := ofEnvelopes envelopes none
    let run := start.answers calls
    (∀ chain,
      let own := start.answers (calls.filter (·.chain == chain))
      ((calls.zip run.1).filter (·.1.chain == chain)).map (·.2) = own.1 ∧
        run.2.queue? chain = own.2.queue? chain) ∧
    ∀ first second : SchedulerCall, first.chain ≠ second.chain →
      run.2.answers [second, first] =
        ((run.2.answers [first, second]).1.reverse, (run.2.answers [first, second]).2) := by
  intro start run
  have agree (chain : Nat) : AgreeOn chain start start := ⟨rfl, rfl, rfl⟩
  refine ⟨fun chain => ?_, fun first second different => ?_⟩
  · obtain ⟨alike, same⟩ := (agree chain).answers calls
    exact ⟨alike, same.queue?⟩
  · have free := ((agree first.chain).answers calls).2.wholeGate
    exact answers_comm free different

/-- Right before the counter wraps, a request that a queue refuses and the packet that is due on
another chain. -/
theorem refusal_and_pop_change_places :
    let calls := [.enqueue 4294900000 { counter := 4294960000 } .classA,
      .enqueue 4294900000 { rfChain := 1 } .classC, .peek 7 4294900000]
    let run := (ofEnvelopes [{}, {}] none).answers calls
    let colliding := SchedulerCall.enqueue 4294910000 { counter := 4294961000 } .classA
    let due := SchedulerCall.pop 1 4294945000
    colliding.chain ≠ due.chain ∧
      run.2.answers [due, colliding] =
        ((run.2.answers [colliding, due]).1.reverse, (run.2.answers [colliding, due]).2) ∧
      (run.2.answers [due, colliding]).2.statistics = ⟨2, 1, 0⟩ ∧
      (run.2.answers [due, colliding]).2.queueSize 1 = 0 := by
  intro calls run colliding due
  have different : colliding.chain ≠ due.chain := by decide
  refine ⟨different, ?_, by decide +kernel, by decide +kernel⟩
  exact (chains_independent [{}, {}] calls).2 colliding due different

end TxScheduler

end LorawanGateway

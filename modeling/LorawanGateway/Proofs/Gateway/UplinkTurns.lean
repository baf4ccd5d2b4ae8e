import LorawanGateway.Gateway.Uplinks
import LorawanGateway.Proofs.Run
import Mathlib.Data.List.Basic

/-!
Turns of concurrent uplinks. Which outcomes a turn has is looked up once for those turns that have
several; and a turn changes one task in its place. The history of a run is what happened in all its
events.
-/

namespace LorawanGateway

theorem Forwarder.answers_of_acknowledges {waiting : ForwardTask} {datagram : Octets}
    (acknowledges : acknowledges waiting datagram = true) :
    ServerDatagram.ofOctets (datagram.take Datagram.receiveCapacity) =
      .ok (.pushAck waiting.token) := by
  rw [Forwarder.acknowledges] at acknowledges
  split at acknowledges
  · rename_i token read
    rw [read, eq_of_beq acknowledges]
  · cases acknowledges

/-- An attempt reads the first datagram in line, if there is one. It ends the wait with an
acknowledgement that bears the token, or if it is the last one. -/
theorem Forwarder.attempt_cases (waiting : ForwardTask) (now timeout : Nat) :
    let after := { waiting with
      socket := { waiting.socket with inbox := waiting.socket.inbox.tail }
      attempts := waiting.attempts - 1
      wakeAt := now + timeout }
    (attempt waiting now timeout = (.acknowledged, after) ∧
      ∃ datagram inbox, waiting.socket.inbox = datagram :: inbox ∧
        ServerDatagram.ofOctets (datagram.take Datagram.receiveCapacity) =
          .ok (.pushAck waiting.token)) ∨
    (attempt waiting now timeout = (.waiting, after) ∧ 1 < waiting.attempts) ∨
    attempt waiting now timeout = (.unanswered, after) := by
  intro after
  cases answered : waiting.socket.inbox.head?.any (acknowledges waiting) with
  | true =>
      refine .inl ⟨by rw [attempt, if_pos answered], ?_⟩
      cases front : waiting.socket.inbox with
      | nil => simp [front] at answered
      | cons datagram inbox =>
          rw [front] at answered
          exact ⟨datagram, inbox, rfl, answers_of_acknowledges answered⟩
  | false =>
      have unanswered := Bool.eq_false_iff.mp answered
      by_cases last : waiting.attempts ≤ 1
      · exact .inr (.inr (by rw [attempt, if_neg unanswered, if_pos last]))
      · exact .inr (.inl ⟨by rw [attempt, if_neg unanswered, if_neg last], by omega⟩)

namespace UplinkTask

variable (service : UplinkService) (moment : UplinkMoment)
variable (report : TrafficReport) (pool : Forwarder)

/-- A task that puts its datagram together has no socket yet and leaves the pool alone. -/
theorem prepare_plain (reference : Option TimeReference) (stage : BatchStage) :
    let after := prepare service moment reference report pool stage
    after.pool = pool ∧ after.stage.socket? = none ∧ ∀ deed ∈ after.deeds, deed = .passedOver := by
  cases stage with
  | admitting rest push =>
      cases rest with
      | nil =>
          rw [prepare]
          dsimp only
          split
          · simp [UplinkStage.socket?]
          · split <;> simp [UplinkStage.socket?]
      | cons packet rest =>
          rw [prepare]
          split <;> simp [UplinkStage.socket?]
  | judging packet rest push =>
      rw [prepare]
      split
      · simp [UplinkStage.socket?]
      · split
        · simp [UplinkStage.socket?]
        · split <;> simp [UplinkStage.socket?]
  | filtering rest push => simp [prepare, UplinkStage.socket?]
  | listing size rest push => simp [prepare, UplinkStage.socket?]

end UplinkTask

namespace Uplinks

variable (service : UplinkService) (uplinks : Uplinks) {index : Nat} {task : UplinkTask}

def history (events : List UplinkEvent) : List UplinkRecord :=
  gather (step service) (fun uplinks event => (uplinks.happen service event).2) uplinks events

theorem run_concat (events : List UplinkEvent) (event : UplinkEvent) :
    uplinks.run service (events ++ [event]) =
      ((uplinks.run service events).happen service event).1 := by
  rw [run, List.foldl_concat]
  rfl

theorem perform_of_none (missing : uplinks.tasks[index]? = none)
    (turn : UplinkTask → TrafficReport → Forwarder → UplinkTurn) :
    uplinks.perform index turn = (uplinks, []) := by
  simp only [perform, missing]

/-- A turn changes the task in its place and leaves the others alone. -/
theorem perform_at (report : TrafficReport) (pool : Forwarder) (front back : List UplinkTask)
    (task : UplinkTask) (turn : UplinkTask → TrafficReport → Forwarder → UplinkTurn) :
    let after := turn task report pool
    (Uplinks.mk report pool (front ++ task :: back)).perform front.length turn = (
      { report := after.report
        pool := after.pool
        tasks := front ++ { task with stage := after.stage } :: back },
      after.deeds.map (.did front.length)) := by
  intro after
  have found : (front ++ task :: back)[front.length]? = some task := by simp
  simp only [perform, found, after, List.set_append_right _ _ (Nat.le_refl _), Nat.sub_self,
    List.set_cons_zero]

theorem exists_split (found : uplinks.tasks[index]? = some task) :
    ∃ front back, uplinks = ⟨uplinks.report, uplinks.pool, front ++ task :: back⟩ ∧
      front.length = index := by
  obtain ⟨inside, here⟩ := List.getElem?_eq_some_iff.mp found
  refine ⟨uplinks.tasks.take index, uplinks.tasks.drop (index + 1), ?_,
    List.length_take_of_le (Nat.le_of_lt inside)⟩
  rw [← here, List.getElem_cons_drop, List.take_append_drop]

end Uplinks

end LorawanGateway

import LorawanGateway.Proofs.Gateway.ReportBooks
import LorawanGateway.Proofs.Gateway.UplinkStories
import Mathlib.Data.List.Induction

/-!
Concurrent uplinks, over whole runs. What every turn of every task preserves: the open sockets are
told apart, the free ones keep to their limit, and each task is where its story leads. From it
follows that a task counts an acknowledgement only if it earned it.
-/

namespace LorawanGateway

open UplinkRecord

section Records

variable {history records before rest : List UplinkRecord}

/-- What has happened by the end of an event happened before it or in it. -/
theorem before_or_now {record : UplinkRecord}
    (split : history ++ records = before ++ record :: rest) :
    (∃ old, history = before ++ record :: old) ∨
      ∃ new, before = history ++ new ∧ records = new ++ record :: rest := by
  rcases List.append_eq_append_iff.mp split with ⟨new, rfl, there⟩ | ⟨old, rfl, there⟩
  · exact .inr ⟨new, rfl, there⟩
  · cases old with
    | nil => exact .inr ⟨[], by simp, there.symm⟩
    | cons first old =>
        cases there
        exact .inl ⟨old, rfl⟩

/-- If a turn counts an acknowledgement, it does nothing else. -/
theorem now_of_alone {index : Nat} {deeds : List UplinkDeed}
    (alone : .acknowledged ∈ deeds → deeds = [.acknowledged])
    (split : deeds.map (did index) = before ++ did index .acknowledged :: rest) :
    before = [] ∧ .acknowledged ∈ deeds := by
  have member : did index .acknowledged ∈ deeds.map (did index) := by simp [split]
  obtain ⟨deed, counted, same⟩ := List.mem_map.mp member
  cases same
  rw [alone counted] at split
  cases before with
  | nil => exact ⟨rfl, counted⟩
  | cons first before => simp at split

end Records

/-- A task agrees with what happened: it is where its story leads, has counted no more than one
acknowledgement, and has earned what it counted. -/
structure UplinkTask.Honest (task : UplinkTask) (history : List UplinkRecord) (index : Nat) :
    Prop where
  story : task.stage.Story history index task.token
  once : history.count (.did index .acknowledged) + task.stage.credit ≤ 1
  earned : ∀ before after, history = before ++ .did index .acknowledged :: after →
    Earned before index task.token

namespace UplinkTask.Honest

variable {task : UplinkTask} {history records : List UplinkRecord} {index : Nat}

theorem append (honest : task.Honest history index)
    (foreign : ∀ deed, did index deed ∉ records) : task.Honest (history ++ records) index where
  story := honest.story.append (tries_eq_zero foreign)
  once := by
    rw [List.count_append, List.count_eq_zero_of_not_mem (foreign _)]
    exact honest.once
  earned := fun before after split => by
    rcases before_or_now split with ⟨old, there⟩ | ⟨new, -, now⟩
    · exact honest.earned before old there
    · exact absurd (by simp [now]) (foreign .acknowledged)

theorem turn (honest : task.Honest history index) {turn : UplinkTurn}
    (fair : turn.Fair history index task) :
    { task with stage := turn.stage }.Honest (history ++ turn.deeds.map (did index)) index where
  story := fair.story
  once := by
    have before := honest.once
    have now := fair.credit
    rw [List.count_append, count_map_did_self]
    dsimp only
    omega
  earned := fun before after split => by
    rcases before_or_now split with ⟨old, there⟩ | ⟨new, rfl, now⟩
    · exact honest.earned before old there
    · obtain ⟨rfl, counted⟩ := now_of_alone (fun counted => (fair.earned counted).1) now
      rw [List.append_nil]
      exact (fair.earned counted).2

theorem onSocket (honest : task.Honest history index) {change : Socket → Socket}
    (sameId : ∀ socket, (change socket).id = socket.id) :
    { task with stage := task.stage.onSocket change }.Honest history index where
  story := (UplinkStage.story_onSocket sameId).mpr honest.story
  once := by
    rw [UplinkStage.credit_onSocket]
    exact honest.once
  earned := honest.earned

theorem start (gateway : Gateway) (token : Token) (batch : List ReceivedPacket)
    (unknown : ∀ deed, did index deed ∉ history) :
    (UplinkTask.start gateway token batch).Honest history index where
  story := trivial
  once := by
    rw [List.count_eq_zero_of_not_mem (unknown _)]
    exact Nat.le_refl 1
  earned := fun before after split => absurd (by simp [split]) (unknown .acknowledged)

end UplinkTask.Honest

namespace Uplinks

variable {uplinks : Uplinks} {history : List UplinkRecord} {task : UplinkTask}

/-- All tasks are honest, and only they did something. -/
structure Honest (uplinks : Uplinks) (history : List UplinkRecord) : Prop where
  tasks : ∀ index (task : UplinkTask), uplinks.tasks[index]? = some task →
    task.Honest history index
  known : ∀ index deed, .did index deed ∈ history → index < uplinks.tasks.length

theorem Honest.perform (honest : uplinks.Honest history) {index : Nat}
    {turn : UplinkTask → TrafficReport → Forwarder → UplinkTurn}
    (fair : ∀ task, uplinks.tasks[index]? = some task →
      (turn task uplinks.report uplinks.pool).Fair history index task) :
    (uplinks.perform index turn).1.Honest (history ++ (uplinks.perform index turn).2) := by
  cases found : uplinks.tasks[index]? with
  | none =>
      rw [perform_of_none uplinks found, List.append_nil]
      exact honest
  | some task =>
      obtain ⟨inside, -⟩ := List.getElem?_eq_some_iff.mp found
      simp only [Uplinks.perform, found]
      refine ⟨fun other later there => ?_, fun other deed member => ?_⟩
      · by_cases same : index = other
        · obtain rfl := same
          rw [List.getElem?_set_self inside] at there
          obtain rfl := Option.some.inj there
          exact (honest.tasks index task found).turn (fair task found)
        · rw [List.getElem?_set_ne same] at there
          exact (honest.tasks other later there).append (did_not_mem_map same · _)
      · rw [List.length_set]
        rcases List.mem_append.mp member with old | new
        · exact honest.known other deed old
        · obtain ⟨_, -, same⟩ := List.mem_map.mp new
          cases same
          exact inside

theorem Honest.start (honest : uplinks.Honest history) (gateway : Gateway) (token : Token)
    (batch : List ReceivedPacket) :
    Honest { uplinks with tasks := uplinks.tasks ++ [UplinkTask.start gateway token batch] }
      history := by
  refine ⟨fun index task there => ?_, fun index deed member => ?_⟩
  · dsimp only at there
    rw [List.getElem?_append] at there
    split at there
    · exact honest.tasks index task there
    · rename_i outside
      obtain rfl := List.mem_singleton.mp (List.mem_of_getElem? there)
      exact .start gateway token batch fun deed member => outside (honest.known index deed member)
  · rw [List.length_append]
    exact Nat.lt_add_right _ (honest.known index deed member)

theorem Honest.deliver (honest : uplinks.Honest history) (id : Nat) (datagram : Octets) :
    (uplinks.deliver id datagram).1.Honest (history ++ (uplinks.deliver id datagram).2) := by
  have foreign (index : Nat) (deed : UplinkDeed) :
      did index deed ∉ (uplinks.deliver id datagram).2 := by
    rw [Uplinks.deliver]
    split <;> simp
  refine ⟨fun index task there => ?_, fun index deed member => ?_⟩
  · rw [Uplinks.deliver, List.getElem?_map, Option.map_eq_some_iff] at there
    obtain ⟨earlier, here, rfl⟩ := there
    exact ((honest.tasks index earlier here).append (foreign index)).onSocket
      (Lines.id_arrive id datagram)
  · rw [Uplinks.deliver, List.length_map]
    exact honest.known index deed ((List.mem_append.mp member).resolve_right (foreign index deed))

def heldBy (tasks : List UplinkTask) : List Socket := tasks.filterMap (·.stage.socket?)

theorem heldBy_split (front back : List UplinkTask) (task : UplinkTask) :
    heldBy (front ++ task :: back) =
      heldBy front ++ (task.stage.socket?.toList ++ heldBy back) := by
  rw [heldBy, List.filterMap_append, List.filterMap_cons]
  cases task.stage.socket? <;> rfl

/-- The sockets of one task can be told apart from those of the others. -/
theorem sockets_perm (report : TrafficReport) (pool : Forwarder) (front back : List UplinkTask)
    (task : UplinkTask) :
    (Uplinks.mk report pool (front ++ task :: back)).sockets.Perm
      (pool.idle ++ task.stage.socket?.toList ++ (heldBy front ++ heldBy back)) := by
  change (pool.idle ++ heldBy (front ++ task :: back)).Perm _
  rw [heldBy_split, List.append_assoc]
  refine List.Perm.append_left _ ?_
  rw [← List.append_assoc, ← List.append_assoc]
  exact (List.perm_append_comm).append_right _

theorem sockets_deliver (uplinks : Uplinks) (id : Nat) (datagram : Octets) :
    (uplinks.deliver id datagram).1.sockets =
      uplinks.sockets.map (Forwarder.arrive id datagram) := by
  simp only [sockets, held, deliver, Forwarder.deliver, List.map_append, List.filterMap_map,
    List.map_filterMap, Function.comp_def, UplinkStage.socket?_onSocket]

/-- What holds of the uplinks after a history: the sockets are told apart, there are not too many
free ones, and the tasks are honest. -/
structure Kept (uplinks : Uplinks) (limit : Nat) (history : List UplinkRecord) : Prop where
  lines : Lines uplinks.sockets uplinks.pool.opened history
  limit : uplinks.pool.limit = limit
  bounded : uplinks.pool.idle.length ≤ uplinks.pool.limit
  honest : uplinks.Honest history

variable {limit : Nat}

theorem Kept.perform (kept : uplinks.Kept limit history) (index : Nat)
    {turn : UplinkTask → TrafficReport → Forwarder → UplinkTurn}
    (moves : ∀ task, (turn task uplinks.report uplinks.pool).Moves uplinks.pool task.stage)
    (fair : ∀ task, task.stage.Story history index task.token →
      (∀ socket, task.stage.socket? = some socket →
        arrivals socket.id history = reads socket.id history ++ socket.inbox) →
      (turn task uplinks.report uplinks.pool).Fair history index task) :
    (uplinks.perform index turn).1.Kept limit (history ++ (uplinks.perform index turn).2) := by
  have honest : (uplinks.perform index turn).1.Honest _ :=
    kept.honest.perform fun task found => fair task (kept.honest.tasks index task found).story
      fun socket own => kept.lines.waiting socket (List.mem_append_right _
        (List.mem_filterMap.mpr ⟨task, List.mem_of_getElem? found, own⟩))
  cases found : uplinks.tasks[index]? with
  | none =>
      rw [perform_of_none uplinks found, List.append_nil]
      exact kept
  | some task =>
      -- Apart from the pool only the place of this task changes, so the sockets of the other tasks
      -- can be put last, before the turn as well as after it.
      obtain ⟨report, pool, tasks⟩ := uplinks
      obtain ⟨front, back, split, rfl⟩ := exists_split _ found
      cases split
      obtain ⟨sockets, limit, bounded⟩ := moves task
      rw [perform_at] at honest ⊢
      exact ⟨kept.lines.move sockets (sockets_perm ..) (sockets_perm ..), limit.trans kept.limit,
        bounded kept.bounded, honest⟩

theorem Kept.happen (kept : uplinks.Kept limit history) (service : UplinkService)
    (event : UplinkEvent) :
    (uplinks.happen service event).1.Kept limit (history ++ (uplinks.happen service event).2) := by
  cases event with
  | start gateway token batch =>
      have same : heldBy (uplinks.tasks ++ [UplinkTask.start gateway token batch]) =
          heldBy uplinks.tasks := by
        rw [heldBy_split]
        exact List.append_nil _
      rw [Uplinks.happen, List.append_nil]
      refine ⟨?_, kept.limit, kept.bounded, kept.honest.start gateway token batch⟩
      change Lines (uplinks.pool.idle ++ heldBy (_ ++ _)) _ _
      rw [same]
      exact kept.lines
  | advance index moment =>
      exact kept.perform index (fun task => task.turn_moves service moment _ _)
        fun task => UplinkTask.turn_fair service moment _ _
  | fail index =>
      exact kept.perform index (fun task => task.failure_moves _ _)
        fun task _ _ => UplinkTask.failure_fair _ _
  | deliver id datagram =>
      refine ⟨?_, kept.limit, ?_, kept.honest.deliver id datagram⟩
      · rw [Uplinks.happen, sockets_deliver]
        exact kept.lines.deliver id datagram
      · rw [Uplinks.happen, deliver, Forwarder.deliver, List.length_map]
        exact kept.bounded
  | publish now position =>
      rw [Uplinks.happen, List.append_nil]
      exact ⟨kept.lines, kept.limit, kept.bounded, kept.honest.tasks, kept.honest.known⟩

open UplinkService (openService plainGateway)

def firstAnswer : Octets := [2, 0, 1, 1]

end Uplinks

end LorawanGateway

import LorawanGateway.Proofs.Gateway.UplinkTurns
import Mathlib.Data.List.Nodup
import Mathlib.Data.List.Perm.Subperm

/-!
The open sockets of concurrent uplinks, free ones and those of tasks. A turn moves, opens, closes or
reads at most one of them, and says so in what it did. So no socket is ever in two places, and the
datagrams that wait on a socket are those that arrived on it and were not read from it.
-/

namespace LorawanGateway

/-- The datagram that was read from a socket, if one was. -/
def UplinkDeed.readOn (socket : Nat) : UplinkDeed → Option Octets
  | drained other datagram => if other = socket then some datagram else none
  | tried other datagram => if other = socket then datagram else none
  | _ => none

def UplinkDeed.reads (socket : Nat) (deeds : List UplinkDeed) : List Octets :=
  deeds.filterMap (readOn socket)

namespace UplinkRecord

def readOn (socket : Nat) : UplinkRecord → Option Octets
  | did _ deed => deed.readOn socket
  | arrived .. => none

def arrivedOn (socket : Nat) : UplinkRecord → Option Octets
  | arrived other datagram => if other = socket then some datagram else none
  | did .. => none

/-- What was read from a socket, in order. -/
def reads (socket : Nat) (history : List UplinkRecord) : List Octets :=
  history.filterMap (readOn socket)

/-- What arrived on a socket, in order. -/
def arrivals (socket : Nat) (history : List UplinkRecord) : List Octets :=
  history.filterMap (arrivedOn socket)

variable (socket : Nat) (index : Nat) (deeds : List UplinkDeed) (first second : List UplinkRecord)

theorem reads_append : reads socket (first ++ second) = reads socket first ++ reads socket second :=
  List.filterMap_append ..

theorem arrivals_append :
    arrivals socket (first ++ second) = arrivals socket first ++ arrivals socket second :=
  List.filterMap_append ..

theorem arrivals_did (deed : UplinkDeed) :
    arrivals socket (first ++ did index deed :: second) = arrivals socket (first ++ second) := by
  rw [arrivals_append, arrivals_append]
  rfl

theorem reads_map_did : reads socket (deeds.map (did index)) = UplinkDeed.reads socket deeds := by
  rw [reads, List.filterMap_map]
  rfl

theorem arrivals_map_did : arrivals socket (deeds.map (did index)) = [] := by
  rw [arrivals, List.filterMap_map, List.filterMap_eq_nil_iff]
  exact fun _ _ => rfl

end UplinkRecord

/-- What a turn does to the sockets that are free or held by its task, with `opened` sockets opened
before it. -/
inductive SocketMove (before after : List Socket) (opened : Nat) :
    Nat → List UplinkDeed → Prop where
  /-- It may move a socket between the task and the pool, or close it. -/
  | kept {deeds : List UplinkDeed} (fewer : after.Subperm before)
      (unread : ∀ id, UplinkDeed.reads id deeds = []) :
      SocketMove before after opened opened deeds
  | opens {deeds : List UplinkDeed} (more : after.Perm ({ id := opened } :: before))
      (unread : ∀ id, UplinkDeed.reads id deeds = []) :
      SocketMove before after opened (opened + 1) deeds
  | reads {deeds : List UplinkDeed} (socket : Socket) (datagram : Octets) (inbox : List Octets)
      (rest : List Socket) (front : socket.inbox = datagram :: inbox)
      (here : before.Perm (socket :: rest)) (there : after.Perm ({ socket with inbox } :: rest))
      (once : ∀ id, UplinkDeed.reads id deeds = if socket.id = id then [datagram] else []) :
      SocketMove before after opened opened deeds

structure UplinkTurn.Moves (pool : Forwarder) (stage : UplinkStage) (turn : UplinkTurn) :
    Prop where
  sockets : SocketMove (pool.idle ++ stage.socket?.toList)
    (turn.pool.idle ++ turn.stage.socket?.toList) pool.opened turn.pool.opened turn.deeds
  limit : turn.pool.limit = pool.limit
  bounded : pool.idle.length ≤ pool.limit → turn.pool.idle.length ≤ turn.pool.limit

namespace UplinkTask

variable (service : UplinkService) (moment : UplinkMoment) (task : UplinkTask)
variable (report : TrafficReport) (pool : Forwarder)

theorem moves_of_idle {stage : UplinkStage} {turn : UplinkTurn} (samePool : turn.pool = pool)
    (fewer : turn.stage.socket?.toList.Sublist stage.socket?.toList)
    (unread : ∀ deed ∈ turn.deeds, ∀ id, deed.readOn id = none) : turn.Moves pool stage := by
  refine ⟨?_, by rw [samePool], by rw [samePool]; exact id⟩
  rw [samePool]
  exact .kept ((List.Sublist.refl _).append fewer).subperm
    fun id => List.filterMap_eq_nil_iff.mpr fun deed member => unread deed member id

/-- An attempt to receive takes the first datagram that waits on the socket, if there is one. -/
theorem moves_of_attempt {waiting : ForwardTask} {turn : UplinkTurn} (samePool : turn.pool = pool)
    (popped : turn.stage.socket? =
      some { waiting.socket with inbox := waiting.socket.inbox.tail })
    (once : ∀ id, UplinkDeed.reads id turn.deeds =
      if waiting.socket.id = id then waiting.socket.inbox.head?.toList else []) :
    turn.Moves pool (.awaiting waiting) := by
  obtain ⟨token, socket, sentAt, attempts, wakeAt⟩ := waiting
  refine ⟨?_, by rw [samePool], by rw [samePool]; exact id⟩
  rw [samePool, popped]
  cases front : socket.inbox with
  | nil =>
      rw [front] at once
      refine .kept ?_ fun id => (once id).trans (ite_self _)
      rw [List.tail_nil, ← front]
      exact List.Subperm.refl _
  | cons datagram inbox =>
      rw [front] at once
      exact .reads socket datagram inbox pool.idle front (List.perm_append_singleton ..)
        (List.perm_append_singleton ..) once

theorem moves_checkin (pool : Forwarder) (socket : Socket) :
    (pool.checkin socket).idle.Subperm (pool.idle ++ [socket]) ∧
    (pool.checkin socket).opened = pool.opened ∧ (pool.checkin socket).limit = pool.limit ∧
    (pool.idle.length ≤ pool.limit → (pool.checkin socket).idle.length ≤ pool.limit) := by
  rw [Forwarder.checkin]
  split
  · rename_i room
    exact ⟨(List.perm_append_singleton socket pool.idle).symm.subperm, rfl, rfl, fun _ => room⟩
  · exact ⟨(List.sublist_append_left ..).subperm, rfl, rfl, id⟩

theorem turn_moves : (turn service moment task report pool).Moves pool task.stage := by
  rw [turn]
  cases task.stage with
  | preparing stage =>
      obtain ⟨samePool, none, deeds⟩ :=
        prepare_plain service moment report pool task.reference stage
      refine moves_of_idle pool samePool (by rw [none]; exact List.nil_sublist _)
        fun deed member id => ?_
      rw [deeds deed member]
      rfl
  | ready datagram =>
      dsimp only
      split
      · rename_i socket rest free
        refine ⟨?_, rfl, fun bounded => ?_⟩
        · rw [free]
          refine .kept ?_ fun _ => rfl
          simpa [UplinkStage.socket?] using (List.perm_append_singleton socket rest).subperm
        · rw [free] at bounded
          exact Nat.le_of_succ_le bounded
      · rename_i free
        refine ⟨?_, rfl, id⟩
        rw [free]
        exact .opens (List.Perm.refl _) fun _ => rfl
  | draining datagram socket =>
      dsimp only
      split
      · exact moves_of_idle pool rfl (List.Sublist.refl _) (List.forall_mem_nil _)
      · rename_i late inbox front
        split
        · exact moves_of_idle pool rfl (List.Sublist.refl _) (by simp [UplinkDeed.readOn])
        · refine ⟨.reads socket late inbox pool.idle front (List.perm_append_singleton ..)
            (List.perm_append_singleton ..) fun id => ?_, rfl, id⟩
          by_cases same : socket.id = id <;> simp [UplinkDeed.reads, UplinkDeed.readOn, same]
  | sending datagram socket =>
      exact moves_of_idle pool rfl (List.Sublist.refl _) (by simp [UplinkDeed.readOn])
  | recording length socket sentAt =>
      exact moves_of_idle pool rfl (List.Sublist.refl _) (List.forall_mem_nil _)
  | awaiting waiting =>
      dsimp only
      rcases Forwarder.attempt_cases waiting moment.now service.config.pushTimeout.milliseconds with
        ⟨attempted, -⟩ | ⟨attempted, -⟩ | attempted <;> rw [attempted] <;>
        refine moves_of_attempt pool rfl rfl fun id => ?_ <;>
        cases waiting.socket.inbox <;>
        by_cases same : waiting.socket.id = id <;>
        simp [UplinkDeed.reads, UplinkDeed.readOn, same]
  | crediting roundTrip socket =>
      exact moves_of_idle pool rfl (List.Sublist.refl _) (by simp [UplinkDeed.readOn])
  | returning socket =>
      obtain ⟨fewer, opened, limit, bounded⟩ := moves_checkin pool socket
      refine ⟨?_, limit, limit.symm ▸ bounded⟩
      rw [opened]
      exact .kept (by simpa [UplinkStage.socket?] using fewer) fun _ => rfl
  | ended => exact moves_of_idle pool rfl (List.Sublist.refl _) (List.forall_mem_nil _)

theorem failure_moves : (failure task report pool).Moves pool task.stage := by
  refine moves_of_idle pool rfl (List.nil_sublist _) fun deed member id => ?_
  rcases List.mem_append.mp member with passed | lapsed
  · rw [List.eq_of_mem_replicate passed]
    rfl
  · rw [List.eq_of_mem_replicate lapsed]
    rfl

end UplinkTask

/-- Open sockets with the datagrams that wait on them, after a history: every socket was opened
once, and what arrived on it is what was read from it and what still waits, in this order. -/
structure Lines (sockets : List Socket) (opened : Nat) (history : List UplinkRecord) : Prop where
  distinct : (sockets.map (·.id)).Nodup
  old : ∀ socket ∈ sockets, socket.id < opened
  waiting : ∀ socket ∈ sockets, UplinkRecord.arrivals socket.id history =
    UplinkRecord.reads socket.id history ++ socket.inbox
  ordered : ∀ id, UplinkRecord.reads id history <+: UplinkRecord.arrivals id history
  unused : ∀ id, opened ≤ id → UplinkRecord.arrivals id history = []

namespace Lines

open UplinkRecord

variable {sockets sockets' others before after : List Socket} {opened opened' : Nat}
variable {history : List UplinkRecord} {deeds : List UplinkDeed}

theorem of_subperm (lines : Lines sockets opened history) (fewer : sockets'.Subperm sockets) :
    Lines sockets' opened history where
  distinct := by
    obtain ⟨middle, same, part⟩ := fewer
    exact (same.map _).nodup_iff.mp (lines.distinct.sublist (part.map _))
  old := fun socket member => lines.old socket (fewer.subset member)
  waiting := fun socket member => lines.waiting socket (fewer.subset member)
  ordered := lines.ordered
  unused := lines.unused

theorem opens (lines : Lines sockets opened history) :
    Lines ({ id := opened } :: sockets) (opened + 1) history where
  distinct := by
    refine List.nodup_cons.mpr ⟨fun member => ?_, lines.distinct⟩
    obtain ⟨socket, inside, same⟩ := List.mem_map.mp member
    have older := lines.old socket inside
    change socket.id = opened at same
    omega
  old := List.forall_mem_cons.mpr
    ⟨Nat.lt_succ_self _, fun socket member => Nat.lt_succ_of_lt (lines.old socket member)⟩
  waiting := by
    refine List.forall_mem_cons.mpr ⟨?_, lines.waiting⟩
    have nothing := lines.unused opened (Nat.le_refl _)
    have unread := lines.ordered opened
    rw [nothing, List.prefix_nil] at unread
    rw [nothing, unread, List.append_nil]
  ordered := lines.ordered
  unused := fun id new => lines.unused id (Nat.le_of_succ_le new)

/-- The deeds of a turn tell what was read in it, and nothing of what arrived. -/
theorem reads_append_deeds (id index : Nat) (history : List UplinkRecord)
    (deeds : List UplinkDeed) : reads id (history ++ deeds.map (did index)) =
      reads id history ++ UplinkDeed.reads id deeds := by
  rw [reads_append, reads_map_did]

theorem arrivals_append_deeds (id index : Nat) (history : List UplinkRecord)
    (deeds : List UplinkDeed) :
    arrivals id (history ++ deeds.map (did index)) = arrivals id history := by
  rw [arrivals_append, arrivals_map_did, List.append_nil]

theorem record (lines : Lines sockets opened history) {index : Nat}
    (unread : ∀ id, UplinkDeed.reads id deeds = []) :
    Lines sockets opened (history ++ deeds.map (did index)) where
  distinct := lines.distinct
  old := lines.old
  waiting := by
    simpa only [reads_append_deeds, arrivals_append_deeds, unread, List.append_nil] using
      lines.waiting
  ordered := by
    simpa only [reads_append_deeds, arrivals_append_deeds, unread, List.append_nil] using
      lines.ordered
  unused := by simpa only [arrivals_append_deeds] using lines.unused

theorem read {socket : Socket} {datagram : Octets} {inbox : List Octets} {index : Nat}
    (lines : Lines (socket :: others) opened history) (front : socket.inbox = datagram :: inbox)
    (once : ∀ id, UplinkDeed.reads id deeds = if socket.id = id then [datagram] else []) :
    Lines ({ socket with inbox } :: others) opened (history ++ deeds.map (did index)) := by
  obtain ⟨here, there⟩ := List.forall_mem_cons.mp lines.waiting
  obtain ⟨fresh, -⟩ := List.nodup_cons.mp lines.distinct
  have own : arrivals socket.id history =
      (reads socket.id history ++ [datagram]) ++ inbox := by
    rw [here, front, List.append_assoc]
    rfl
  refine ⟨lines.distinct, List.forall_mem_cons.mpr (List.forall_mem_cons.mp lines.old),
    List.forall_mem_cons.mpr ⟨?_, fun other member => ?_⟩, fun id => ?_, fun id new => ?_⟩
  · rw [arrivals_append_deeds, reads_append_deeds, once, if_pos rfl, own]
  · have different : socket.id ≠ other.id :=
      fun same => fresh (List.mem_map.mpr ⟨other, member, same.symm⟩)
    rw [arrivals_append_deeds, reads_append_deeds, once, if_neg different, List.append_nil]
    exact there other member
  · rw [arrivals_append_deeds, reads_append_deeds, once]
    by_cases same : socket.id = id
    · subst same
      rw [if_pos rfl, own]
      exact List.prefix_append ..
    · rw [if_neg same, List.append_nil]
      exact lines.ordered id
  · rw [arrivals_append_deeds]
    exact lines.unused id new

/-- A turn moves only the sockets that are free or held by its task; the others stay. -/
theorem move {index : Nat} (lines : Lines sockets opened history)
    (move : SocketMove before after opened opened' deeds) (here : sockets.Perm (before ++ others))
    (there : sockets'.Perm (after ++ others)) :
    Lines sockets' opened' (history ++ deeds.map (did index)) := by
  -- Sockets are told apart by permutation only: their order in the pool is of no account.
  cases move with
  | kept fewer unread =>
      have part := ((List.subperm_append_right others).mpr fewer).trans here.symm.subperm
      exact (lines.record unread).of_subperm (there.subperm.trans part)
  | opens more unread =>
      have same := there.trans ((more.append_right others).trans (here.symm.cons _))
      exact (lines.opens.record unread).of_subperm same.subperm
  | reads socket datagram inbox rest front before after once =>
      have first : Lines (socket :: (rest ++ others)) opened history :=
        lines.of_subperm ((here.trans (before.append_right others)).symm.subperm)
      exact (first.read front once).of_subperm (there.trans (after.append_right others)).subperm

theorem id_arrive (id : Nat) (datagram : Octets) (socket : Socket) :
    (Forwarder.arrive id datagram socket).id = socket.id := by
  rw [Forwarder.arrive]
  split <;> rfl

/-- A datagram joins the end of the line of its socket, if that one is open. -/
theorem deliver (lines : Lines sockets opened history) (id : Nat) (datagram : Octets) :
    Lines (sockets.map (Forwarder.arrive id datagram)) opened
      (history ++ if id ∈ sockets.map (·.id) then [arrived id datagram] else []) := by
  have reads (other : Nat) : reads other
      (history ++ if id ∈ sockets.map (·.id) then [arrived id datagram] else []) =
      reads other history := by
    rw [reads_append]
    split <;> exact List.append_nil _
  have arrivals (other : Nat) : arrivals other
      (history ++ if id ∈ sockets.map (·.id) then [arrived id datagram] else []) =
      arrivals other history ++
        if id = other ∧ id ∈ sockets.map (·.id) then [datagram] else [] := by
    rw [arrivals_append]
    congr 1
    by_cases isOpen : id ∈ sockets.map (·.id)
    · simp only [isOpen, and_true, if_true, UplinkRecord.arrivals, List.filterMap_cons,
        List.filterMap_nil, arrivedOn]
      by_cases same : id = other <;> simp [same]
    · simp only [isOpen, and_false, if_false]
      rfl
  refine ⟨?_, List.forall_mem_map.mpr fun socket member => ?_,
    List.forall_mem_map.mpr fun socket member => ?_, fun other => ?_, fun other new => ?_⟩
  · have sameIds :
        (sockets.map (Forwarder.arrive id datagram)).map (·.id) = sockets.map (·.id) := by
      rw [List.map_map]
      exact List.map_congr_left fun socket _ => id_arrive id datagram socket
    rw [sameIds]
    exact lines.distinct
  · rw [id_arrive]
    exact lines.old socket member
  · have isOpen : socket.id ∈ sockets.map (·.id) := List.mem_map_of_mem member
    rw [id_arrive, reads, arrivals, lines.waiting socket member, Forwarder.arrive]
    by_cases same : socket.id = id
    · subst same
      simp [isOpen]
    · simp [same, Ne.symm same]
  · rw [reads, arrivals]
    exact (lines.ordered other).trans (List.prefix_append ..)
  · have closed : ¬ (id = other ∧ id ∈ sockets.map (·.id)) := by
      rintro ⟨rfl, isOpen⟩
      obtain ⟨socket, member, same⟩ := List.mem_map.mp isOpen
      have older := lines.old socket member
      change socket.id = id at same
      omega
    rw [arrivals, if_neg closed, List.append_nil]
    exact lines.unused other new

end Lines

end LorawanGateway

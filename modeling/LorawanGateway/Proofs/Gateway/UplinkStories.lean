import LorawanGateway.Proofs.Gateway.SocketLines

/-!
What a task must have done to be where it is, read off the history. Before it sends its datagram, it
has read all that was on its socket when it took it out, unless a read failed before; so the
datagrams that it reads later, while it waits for its acknowledgement, are none of those.
-/

namespace LorawanGateway

namespace UplinkRecord

def isTry (index : Nat) : UplinkRecord → Bool
  | did other (.tried ..) => other == index
  | _ => false

def tries (index : Nat) (history : List UplinkRecord) : Nat := history.countP (isTry index)

theorem count_map_did_self (index : Nat) (deed : UplinkDeed) (deeds : List UplinkDeed) :
    (deeds.map (did index)).count (did index deed) = deeds.count deed := by
  rw [List.count, List.countP_map]
  exact List.countP_congr fun other _ => by simp

theorem did_not_mem_map {index other : Nat} (different : index ≠ other) (deed : UplinkDeed)
    (deeds : List UplinkDeed) : did other deed ∉ deeds.map (did index) := by
  simp [different]

/-- Where a task did nothing, it did not try to receive. -/
theorem tries_eq_zero {index : Nat} {records : List UplinkRecord}
    (foreign : ∀ deed, did index deed ∉ records) : tries index records = 0 := by
  refine List.countP_eq_zero.mpr fun record member => ?_
  cases record with
  | arrived socket datagram => exact Bool.false_ne_true
  | did other deed =>
      cases deed with
      | tried socket datagram =>
          intro own
          obtain rfl := beq_iff_eq.mp own
          exact foreign _ member
      | _ => exact Bool.false_ne_true

theorem tries_append (index : Nat) (first second : List UplinkRecord) :
    tries index (first ++ second) = tries index first + tries index second := List.countP_append ..

/-- A task took a socket out. -/
def TookOut (history : List UplinkRecord) (index socket : Nat) : Prop :=
  ∃ earlier later, history = earlier ++ [did index (.tookOut socket)] ++ later

/-- Whatever its socket still held when a task wanted to drop it, the task could read it. -/
def ReadsThrough (history : List UplinkRecord) (index : Nat) : Prop :=
  ∀ socket, did index (.brokeOff socket) ∉ history

/-- A task took a socket out, and what had arrived on it by then has been read, if the task could
read it. -/
def Drained (history : List UplinkRecord) (index socket : Nat) : Prop :=
  ∃ earlier later, history = earlier ++ [did index (.tookOut socket)] ++ later ∧
    (ReadsThrough history index →
      (arrivals socket earlier).length ≤ (reads socket history).length)

/-- A task sent its datagram on a drained socket, and has some attempts to receive left. -/
def Sent (history : List UplinkRecord) (index socket attempts : Nat) : Prop :=
  ∃ before waited, history = before ++ did index .sent :: waited ∧
    Drained before index socket ∧ tries index waited + attempts = Forwarder.maxAttempts

/-- A task read an acknowledgement that bears its token, in one of its attempts after it sent its
datagram, from the socket that it had taken out for it. And if it could read whatever the socket
still held then, the acknowledgement arrived after the task took the socket out: what arrived on the
socket before it is what was read before it. -/
def Earned (history : List UplinkRecord) (index : Nat) (token : Token) : Prop :=
  ∃ socket datagram earlier between waited later,
    let taken := earlier ++ [did index (.tookOut socket)]
    let held := between ++ did index .sent :: waited
    history = taken ++ held ++ did index (.tried socket (some datagram)) :: later ∧
    tries index waited < Forwarder.maxAttempts ∧
    ServerDatagram.ofOctets (datagram.take Datagram.receiveCapacity) = .ok (.pushAck token) ∧
    (ReadsThrough history index → ∃ early late, held = early ++ arrived socket datagram :: late ∧
      arrivals socket (taken ++ early) = reads socket (taken ++ held))

section Stories

variable {history records : List UplinkRecord} {index socket attempts : Nat} {token : Token}

theorem ReadsThrough.of_append (through : ReadsThrough (history ++ records) index) :
    ReadsThrough history index :=
  fun socket broken => through socket (List.mem_append_left _ broken)

theorem TookOut.append (took : TookOut history index socket) (records : List UplinkRecord) :
    TookOut (history ++ records) index socket := by
  obtain ⟨earlier, later, rfl⟩ := took
  exact ⟨earlier, later ++ records, List.append_assoc ..⟩

theorem TookOut.drained (took : TookOut history index socket)
    (drained : ReadsThrough history index → arrivals socket history = reads socket history) :
    Drained history index socket := by
  obtain ⟨earlier, later, rfl⟩ := took
  refine ⟨earlier, later, rfl, fun through => ?_⟩
  rw [← drained through, List.append_assoc, arrivals_append, List.length_append]
  exact Nat.le_add_right ..

theorem Drained.append (drained : Drained history index socket) (records : List UplinkRecord) :
    Drained (history ++ records) index socket := by
  obtain ⟨earlier, later, split, read⟩ := drained
  refine ⟨earlier, later ++ records, by rw [split]; exact List.append_assoc .., fun through => ?_⟩
  rw [reads_append, List.length_append]
  exact Nat.le_add_right_of_le (read through.of_append)

theorem Drained.sent (drained : Drained history index socket) :
    Sent (history ++ [.did index .sent]) index socket Forwarder.maxAttempts :=
  ⟨history, [], rfl, drained, rfl⟩

theorem Sent.append (sent : Sent history index socket attempts)
    (silent : tries index records = 0) :
    Sent (history ++ records) index socket attempts := by
  obtain ⟨before, waited, rfl, drained, counted⟩ := sent
  refine ⟨before, waited ++ records, List.append_assoc .., drained, ?_⟩
  rw [tries_append, silent]
  exact counted

theorem Sent.tried (sent : Sent history index socket (attempts + 1)) (datagram : Option Octets) :
    Sent (history ++ [.did index (.tried socket datagram)]) index socket attempts := by
  obtain ⟨before, waited, rfl, drained, counted⟩ := sent
  refine ⟨before, waited ++ [did index (.tried socket datagram)], List.append_assoc .., drained,
    ?_⟩
  have once : tries index [.did index (.tried socket datagram)] = 1 := by simp [tries, isTry]
  rw [tries_append, once]
  omega

theorem Earned.append (earned : Earned history index token) (records : List UplinkRecord) :
    Earned (history ++ records) index token := by
  obtain ⟨socket, datagram, earlier, between, waited, later, rfl, few, answers, fresh⟩ := earned
  exact ⟨socket, datagram, earlier, between, waited, later ++ records, List.append_assoc .., few,
    answers, fun through => fresh through.of_append⟩

/-- Once at least what arrived earlier was read, the next datagram in line is one that arrived
later. -/
theorem exists_arrived {earlier later : List UplinkRecord} {done inbox : List Octets}
    {datagram : Octets} (enough : (arrivals socket earlier).length ≤ done.length)
    (line : arrivals socket (earlier ++ later) = done ++ datagram :: inbox) :
    ∃ early late, later = early ++ arrived socket datagram :: late ∧
      arrivals socket (earlier ++ early) = done := by
  obtain ⟨early, late, rfl, same, next⟩ : ∃ early late, later = early ++ late ∧
      arrivals socket (earlier ++ early) = done ∧ arrivals socket late = datagram :: inbox := by
    rw [arrivals_append, List.append_eq_append_iff] at line
    rcases line with ⟨between, rfl, rest⟩ | ⟨more, split, rest⟩
    · obtain ⟨early, late, rfl, rfl, next⟩ := List.filterMap_eq_append_iff.mp rest
      exact ⟨early, late, rfl, arrivals_append .., next⟩
    · rw [split, List.length_append] at enough
      obtain rfl := List.eq_nil_of_length_eq_zero (by omega : more.length = 0)
      rw [List.append_nil] at split
      exact ⟨[], later, rfl, by rw [List.append_nil, split], rest.symm⟩
  obtain ⟨silent, record, late, rfl, nothing, here, -⟩ := List.filterMap_eq_cons_iff.mp next
  cases record with
  | did index deed => cases here
  | arrived other octets =>
      simp only [arrivedOn, Option.ite_none_right_eq_some, Option.some.injEq] at here
      obtain ⟨rfl, rfl⟩ := here
      have none : arrivals other silent = [] := List.filterMap_eq_nil_iff.mpr nothing
      refine ⟨early ++ silent, late, (List.append_assoc ..).symm, ?_⟩
      rw [← List.append_assoc, arrivals_append, none, List.append_nil, same]

/-- What is next in line after the datagram was sent arrived after the socket was taken out. -/
theorem Sent.earned (sent : Sent history index socket attempts) (left : 0 < attempts)
    {datagram : Octets} {inbox : List Octets}
    (line : arrivals socket history = reads socket history ++ datagram :: inbox)
    (answers : ServerDatagram.ofOctets (datagram.take Datagram.receiveCapacity) =
      .ok (.pushAck token)) :
    Earned (history ++ [did index (.tried socket (some datagram))]) index token := by
  obtain ⟨before, waited, rfl, ⟨earlier, between, rfl, read⟩, counted⟩ := sent
  rw [List.append_assoc _ between] at line ⊢
  refine ⟨socket, datagram, earlier, between, waited, [], rfl, by omega, answers,
    fun through => exists_arrived ?_ line⟩
  rw [← List.append_assoc] at through ⊢
  rw [reads_append, List.length_append, arrivals_did, List.append_nil]
  exact Nat.le_add_right_of_le (read through.of_append.of_append)

end Stories

end UplinkRecord

open UplinkRecord

namespace UplinkStage

/-- What must have happened for a task to be at a stage. -/
def Story (history : List UplinkRecord) (index : Nat) (token : Token) : UplinkStage → Prop
  | .draining _ socket => TookOut history index socket.id
  | .sending _ socket => Drained history index socket.id
  | .recording _ socket _ => Sent history index socket.id Forwarder.maxAttempts
  | .awaiting waiting => waiting.token = token ∧ 0 < waiting.attempts ∧
      Sent history index waiting.socket.id waiting.attempts
  | .crediting .. => Earned history index token
  | .preparing _ | .ready _ | .returning _ | .ended => True

/-- How many acknowledgements a task may still count. -/
def credit : UplinkStage → Nat
  | .returning _ | .ended => 0
  | _ => 1

theorem credit_le_one (stage : UplinkStage) : stage.credit ≤ 1 := by
  cases stage with
  | returning _ | ended => exact Nat.zero_le 1
  | _ => exact Nat.le_refl 1

variable {history records : List UplinkRecord} {index : Nat} {token : Token} {stage : UplinkStage}

theorem story_of_no_socket (none : stage.socket? = none) : stage.Story history index token := by
  cases stage with
  | preparing _ | ready _ | ended => trivial
  | _ => cases none

/-- What others do in the meantime does not change the story of a task. -/
theorem Story.append (story : stage.Story history index token) (silent : tries index records = 0) :
    stage.Story (history ++ records) index token := by
  cases stage with
  | draining datagram socket => exact TookOut.append story records
  | sending datagram socket => exact Drained.append story records
  | recording length socket sentAt => exact Sent.append story silent
  | awaiting waiting => exact ⟨story.1, story.2.1, story.2.2.append silent⟩
  | crediting roundTrip socket => exact Earned.append story records
  | preparing _ | ready _ | returning _ | ended => trivial

theorem story_onSocket {change : Socket → Socket}
    (sameId : ∀ socket, (change socket).id = socket.id) :
    (stage.onSocket change).Story history index token ↔ stage.Story history index token := by
  cases stage <;> simp only [onSocket, Story, sameId]

theorem socket?_onSocket (change : Socket → Socket) :
    (stage.onSocket change).socket? = stage.socket?.map change := by
  cases stage <;> rfl

theorem credit_onSocket (change : Socket → Socket) :
    (stage.onSocket change).credit = stage.credit := by
  cases stage <;> rfl

end UplinkStage

namespace UplinkTask

variable (service : UplinkService) (moment : UplinkMoment) (task : UplinkTask)
variable (report : TrafficReport) (pool : Forwarder)
variable {history : List UplinkRecord} {index : Nat}

theorem turn_story (story : task.stage.Story history index task.token)
    (line : ∀ socket, task.stage.socket? = some socket →
      arrivals socket.id history = reads socket.id history ++ socket.inbox) :
    let after := turn service moment task report pool
    after.stage.Story (history ++ after.deeds.map (.did index)) index task.token := by
  intro after
  obtain ⟨token, reference, stage⟩ := task
  cases stage with
  | preparing stage =>
      exact UplinkStage.story_of_no_socket
        (prepare_plain service moment report pool reference stage).2.1
  | ready datagram =>
      simp only [after, turn]
      split <;> exact ⟨history, [], (List.append_nil _).symm⟩
  | draining datagram socket =>
      have line := line socket rfl
      simp only [after, turn]
      split
      · rename_i empty
        rw [empty, List.append_nil] at line
        exact (TookOut.drained story fun _ => line).append _
      · split
        · exact (TookOut.append story _).drained fun through =>
            absurd (List.mem_append_right _ (List.mem_singleton_self _)) (through socket.id)
        · exact TookOut.append story _
  | sending datagram socket => exact Drained.sent story
  | recording length socket sentAt =>
      exact ⟨rfl, (by decide : 0 < Forwarder.maxAttempts), Sent.append story rfl⟩
  | awaiting waiting =>
      obtain ⟨rfl, left, sent⟩ := story
      have line := line waiting.socket rfl
      simp only [after, turn]
      rcases Forwarder.attempt_cases waiting moment.now service.config.pushTimeout.milliseconds with
        ⟨attempted, datagram, inbox, front, answers⟩ | ⟨attempted, more⟩ | attempted
      · -- What is read now is next in line behind all that was drained before the sending.
        rw [front] at line
        rw [attempted, front]
        exact sent.earned left line answers
      · rw [attempted]
        obtain ⟨attempts, counted⟩ : ∃ attempts, waiting.attempts = attempts + 1 :=
          ⟨waiting.attempts - 1, by omega⟩
        rw [counted] at sent more
        simp only [counted, Nat.add_sub_cancel]
        exact ⟨rfl, Nat.lt_of_succ_lt_succ more, sent.tried _⟩
      · rw [attempted]
        trivial
  | crediting roundTrip socket => trivial
  | returning socket => trivial
  | ended => trivial

/-- Only a task that is about to credit its datagram counts an acknowledgement. -/
theorem turn_credit :
    let after := turn service moment task report pool
    (after.deeds = [.acknowledged] ∧ after.stage.credit = 0 ∧
      ∃ roundTrip socket, task.stage = .crediting roundTrip socket) ∨
    (.acknowledged ∉ after.deeds ∧ after.stage.credit ≤ task.stage.credit) := by
  intro after
  obtain ⟨token, reference, stage⟩ := task
  cases stage with
  | preparing stage =>
      have deeds := (prepare_plain service moment report pool reference stage).2.2
      exact .inr
        ⟨fun member => UplinkDeed.noConfusion (deeds _ member), UplinkStage.credit_le_one _⟩
  | ready datagram =>
      refine .inr ⟨?_, UplinkStage.credit_le_one _⟩
      simp only [after, turn]
      split <;> simp
  | draining datagram socket =>
      refine .inr ⟨?_, UplinkStage.credit_le_one _⟩
      simp only [after, turn]
      split
      · simp
      · split <;> simp
  | sending datagram socket => exact .inr ⟨by simp [after, turn], Nat.le_refl _⟩
  | recording length socket sentAt => exact .inr ⟨by simp [after, turn], Nat.le_refl _⟩
  | awaiting waiting =>
      refine .inr ⟨?_, UplinkStage.credit_le_one _⟩
      simp only [after, turn]
      split <;> simp
  | crediting roundTrip socket => exact .inl ⟨rfl, rfl, roundTrip, socket, rfl⟩
  | returning socket => exact .inr ⟨by simp [after, turn], Nat.le_refl _⟩
  | ended => exact .inr ⟨by simp [after, turn], Nat.le_refl _⟩

end UplinkTask

/-- What a turn of a task leaves behind agrees with what the task did so far. -/
structure UplinkTurn.Fair (history : List UplinkRecord) (index : Nat) (task : UplinkTask)
    (turn : UplinkTurn) : Prop where
  story : turn.stage.Story (history ++ turn.deeds.map (.did index)) index task.token
  credit : turn.deeds.count .acknowledged + turn.stage.credit ≤ task.stage.credit
  earned : .acknowledged ∈ turn.deeds →
    turn.deeds = [.acknowledged] ∧ Earned history index task.token

namespace UplinkTask

variable (service : UplinkService) (moment : UplinkMoment) {task : UplinkTask}
variable (report : TrafficReport) (pool : Forwarder)
variable {history : List UplinkRecord} {index : Nat}

theorem turn_fair (story : task.stage.Story history index task.token)
    (line : ∀ socket, task.stage.socket? = some socket →
      arrivals socket.id history = reads socket.id history ++ socket.inbox) :
    (turn service moment task report pool).Fair history index task := by
  have story' := turn_story service moment task report pool story line
  rcases turn_credit service moment task report pool with
    ⟨deeds, spent, roundTrip, socket, crediting⟩ | ⟨silent, kept⟩
  · rw [crediting] at story
    refine ⟨story', ?_, fun _ => ⟨deeds, story⟩⟩
    rw [deeds, spent, crediting]
    exact Nat.le_refl 1
  · refine ⟨story', ?_, fun member => absurd member silent⟩
    rw [List.count_eq_zero_of_not_mem silent, Nat.zero_add]
    exact kept

theorem failure_fair : (failure task report pool).Fair history index task := by
  have silent : .acknowledged ∉ (failure task report pool).deeds := by
    simp [failure, List.mem_replicate]
  refine ⟨trivial, ?_, fun member => absurd member silent⟩
  rw [List.count_eq_zero_of_not_mem silent]
  exact Nat.zero_le _

end UplinkTask

end LorawanGateway

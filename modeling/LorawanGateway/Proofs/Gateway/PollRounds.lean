import LorawanGateway.Gateway.Poller
import Mathlib.Data.List.Basic
import Mathlib.Data.List.Induction
import Mathlib.Data.List.Infix
import Mathlib.Data.List.TakeWhile

/-!
The rounds of a poller, against what it counts. Each event of a run meets the shared state of the
service as others have left it, so nothing is assumed of that state. The requests of a run are
listed, the latest first, each with the acknowledgements that bear its token and came in its own
round. The number of requests in a row without an answer is read off this list; the other two
counters start afresh with the link, and differ by at most the request that is under way.
-/

namespace LorawanGateway

/-- What happens to a poller, with the state that it meets: it goes on by itself, or a datagram
arrives. -/
inductive PollerEvent where
  | wake (state : ServiceState) (now : Nat) (surroundings : Surroundings)
  | datagram (state : ServiceState) (now : Nat) (octets : Octets)

def PollerEvent.state : PollerEvent → ServiceState
  | wake state _ _ => state
  | datagram state _ _ => state

/-- The number of unanswered requests in a row at which a service is given up; zero means never. -/
def ServiceState.patience (state : ServiceState) : Nat := state.gateway.config.quitThreshold.toNat

/-- A request that was sent: its token, the acknowledgements that bear it and came before the next
request, and how many datagrams changed the link in that time. -/
structure Pull where
  token : Token
  answers : Nat := 0
  changes : Nat := 0
  deriving DecidableEq, Repr

namespace Pull

def unanswered (pull : Pull) : Bool := pull.answers == 0

/-- The requests since the last one that was answered; the latest request comes first. -/
def streak (pulls : List Pull) : Nat := (pulls.takeWhile unanswered).length

variable {pull : Pull} {pulls : List Pull}

theorem unanswered_iff : pull.unanswered = true ↔ pull.answers = 0 := beq_iff_eq

theorem streak_cons_of_unanswered (silent : pull.unanswered = true) :
    streak (pull :: pulls) = streak pulls + 1 := by
  simp only [streak, List.takeWhile_cons_of_pos silent, List.length_cons]

theorem streak_cons_of_answered (answered : pull.unanswered = false) :
    streak (pull :: pulls) = 0 := by
  simp only [streak, List.takeWhile_cons_of_neg (ne_true_of_eq_false answered), List.length_nil]

theorem le_streak_iff (count : Nat) (pulls : List Pull) : count ≤ streak pulls ↔
    count ≤ pulls.length ∧ ∀ pull ∈ pulls.take count, pull.answers = 0 := by
  induction pulls generalizing count with
  | nil => simp [streak]
  | cons pull rest induction =>
      cases count with
      | zero => simp
      | succ count =>
          cases silent : pull.unanswered with
          | true =>
              rw [streak_cons_of_unanswered silent, Nat.succ_le_succ_iff, induction]
              simp [unanswered_iff.mp silent]
          | false =>
              have answered : pull.answers ≠ 0 := by
                rw [Ne, ← unanswered_iff, silent]
                exact Bool.false_ne_true
              rw [streak_cons_of_answered silent]
              simp [answered]

/-- A further answer can only end a streak. -/
theorem streak_answer_le (pull : Pull) (pulls : List Pull) (answers changes : Nat) :
    streak ({ pull with answers := pull.answers + answers, changes } :: pulls) ≤
      streak (pull :: pulls) := by
  by_cases silent : pull.answers + answers = 0
  · have before : pull.answers = 0 := by omega
    rw [streak_cons_of_unanswered (unanswered_iff.mpr silent),
      streak_cons_of_unanswered (unanswered_iff.mpr before)]
  · rw [streak_cons_of_answered (Bool.eq_false_iff.mpr (unanswered_iff.not.mpr silent))]
    exact Nat.zero_le _

/-- Requests in a row without an answer belong to the streak of the last of them. -/
theorem exists_streak_of_infix {row : List Pull} (inside : row <:+: pulls)
    (silent : ∀ pull ∈ row, pull.answers = 0) :
    ∃ earlier, earlier <:+ pulls ∧ row.length ≤ streak earlier := by
  obtain ⟨earlier, front, back⟩ := List.infix_iff_prefix_suffix.mp inside
  refine ⟨earlier, back, (le_streak_iff ..).mpr ⟨front.length_le, ?_⟩⟩
  rwa [← List.prefix_iff_eq_take.mp front]

end Pull

/-- A link without what it last reported of itself. -/
def ServerLink.plain (link : ServerLink) : ServerLink := { link with reported := none, slot := 0 }

theorem ServerLink.acknowledge_ne (link : ServerLink) : link.acknowledge ≠ link := by
  intro same
  have counts := congrArg ServerLink.acknowledged same
  simp [ServerLink.acknowledge] at counts

/-- Whether a datagram is an acknowledgement that bears the token of a round. -/
def PollRound.isAnsweredBy (round : PollRound) (octets : Octets) : Bool :=
  match ServerDatagram.ofOctets (octets.take Datagram.receiveCapacity) with
  | .ok (.pullAck token) => token == round.token
  | _ => false

namespace Poller

variable {poller after : Poller} {state : ServiceState} {now : Nat}
variable {surroundings : Surroundings} {round : PollRound} {octets : Octets} {token : Token}
variable {pulls : List Pull} {events : List PollerEvent}

def outcome (poller : Poller) : PollerEvent → Poller × ServiceState
  | .wake state now surroundings => poller.wake state now surroundings
  | .datagram state now octets => poller.receive state octets now

/-- Whether a datagram is an acknowledgement that bears the token of the present round. -/
def isAnsweredBy (poller : Poller) (octets : Octets) : Bool :=
  match poller.phase with
  | .listening round => round.isAnsweredBy octets
  | _ => false

/-- The requests so far, once an event has happened. -/
def note (poller : Poller) (pulls : List Pull) : PollerEvent → List Pull
  | .wake state now surroundings =>
    if (poller.wake state now surroundings).2.sent = state.sent then pulls
    else { token := surroundings.token poller.rounds } :: pulls
  | .datagram state now octets => pulls.modifyHead fun pull =>
    { pull with
      answers := pull.answers + if poller.isAnsweredBy octets then 1 else 0
      changes :=
        pull.changes + if (poller.receive state octets now).1.link = poller.link then 0 else 1 }

def follow : Poller × List Pull → PollerEvent → Poller × List Pull
  | (poller, pulls), event => ((poller.outcome event).1, poller.note pulls event)

/-- Where a run leads, with the requests that were sent, the latest first. -/
def trace (poller : Poller) (events : List PollerEvent) : Poller × List Pull :=
  events.foldl follow (poller, [])

theorem storeStatus_eq (poller : Poller) (state : ServiceState) (host : Instant) :
    ∃ link, (poller.storeStatus state host).1 = { poller with link } ∧
      link.plain = poller.link.plain ∧
      (poller.storeStatus state host).2.sent = state.sent ∧
      (poller.storeStatus state host).2.halted = state.halted ∧
      (poller.storeStatus state host).2.gateway.id = state.gateway.id := by
  unfold storeStatus
  split
  · exact ⟨poller.link.report, rfl, rfl, rfl, rfl, rfl⟩
  · exact ⟨poller.link, rfl, rfl, rfl, rfl, rfl⟩

theorem fillBeacons_eq (poller : Poller) (state : ServiceState) :
    ∃ planner, (poller.fillBeacons state).1 = { poller with planner } ∧
      (poller.fillBeacons state).2.sent = state.sent := by
  unfold fillBeacons
  split
  · exact ⟨poller.planner, rfl, rfl⟩
  · exact ⟨_, rfl, rfl⟩

theorem link_listen : (poller.listen state round now).link = poller.link := by
  unfold listen
  split <;> rfl

theorem phase_listen (poller : Poller) (state : ServiceState) (round : PollRound) (now : Nat) :
    (poller.listen state round now).phase = .atHead ∨
      (poller.listen state round now).phase = .listening round := by
  unfold listen
  split
  · exact .inl rfl
  · exact .inr rfl

/-- What a round comes to that is about to start on a link: no request goes out, or one does, and
its answer is waited for. -/
inductive Turn (link : ServerLink) (token : Token) (state : ServiceState) :
    Poller × ServiceState → Prop where
  | held {result : Poller × ServiceState} (kept : result.1.link.plain = link.plain)
      (idle : ∀ round, result.1.phase ≠ .listening round)
      (sent : result.2.sent = state.sent) (halted : result.2.halted = state.halted) :
      Turn link token state result
  | started {result : Poller × ServiceState} (counted : result.1.link.plain = link.plain.send)
      (waits : result.1.phase = .atHead ∨
        ∃ deadline, result.1.phase = .listening ⟨token, deadline, false⟩)
      (sent : result.2.sent = state.sent ++ [Datagram.pullData token state.gateway.id])
      (halted : result.2.halted = state.halted) : Turn link token state result

theorem turn_startRound (poller : Poller) (state : ServiceState) (now : Nat)
    (surroundings : Surroundings) :
    Turn poller.link (surroundings.token poller.rounds) state
      (poller.startRound state now surroundings) := by
  obtain ⟨link, stored, plain, sent, halted, id⟩ :=
    poller.storeStatus_eq state surroundings.host
  unfold startRound
  refine .started ?_ ?_ ?_ ?_
  · simp only [link_listen, stored]
    exact congrArg ServerLink.send plain
  · simp only [stored]
    exact (phase_listen ..).imp_right fun listening => ⟨_, listening⟩
  · simp only [ServiceState.countDown, ServiceState.send, stored, sent, id]
  · exact halted

theorem turn_connect (poller : Poller) (state : ServiceState) (now : Nat)
    (surroundings : Surroundings) :
    Turn poller.link (surroundings.token poller.rounds) state
      (poller.connect state now surroundings) := by
  unfold connect
  split
  · exact turn_startRound { poller with connected := true } state now surroundings
  · obtain ⟨link, stored, plain, sent, halted, -⟩ :=
      storeStatus_eq { poller with backoff := poller.backoff.step.2 } state surroundings.host
    refine .held ?_ ?_ sent halted
    · simp only [stored]
      exact plain
    · exact fun _ => nofun

theorem turn_reconnect (poller : Poller) (state : ServiceState) (now : Nat)
    (surroundings : Surroundings) :
    Turn poller.link.reset (surroundings.token poller.rounds) state
      (poller.reconnect state now surroundings) := by
  by_cases resync : 0 < poller.link.sent
  · simp only [reconnect, if_pos resync]
    exact .held rfl (fun _ => nofun) rfl rfl
  · simp only [reconnect, if_neg resync]
    exact turn_connect { poller with link := poller.link.reset } state now surroundings

/-- A poller that sent its request waits for the answer before it makes its link anew. -/
theorem ne_reconnecting_of_waits {phase : PollerPhase}
    (waits : phase = .atHead ∨ ∃ deadline, phase = .listening ⟨token, deadline, false⟩) :
    phase ≠ .reconnecting := by
  rcases waits with rfl | ⟨deadline, rfl⟩ <;> simp

theorem givesUp_iff : poller.givesUp state = true ↔
    0 < state.patience ∧ state.patience ≤ poller.link.unanswered := by
  simp only [givesUp, ServiceState.patience, Bool.and_eq_true, decide_eq_true_eq]

/-- At the head of a round the link is made anew unless all its requests were answered. Either way
none is under way, and the requests in a row without an answer go on counting. -/
theorem turn_head (poller : Poller) (now : Nat) (surroundings : Surroundings)
    (awake : state.isStopping = false) (patient : poller.givesUp state = false) :
    ∃ link, link.sent = link.acknowledged ∧ link.unanswered = poller.link.unanswered ∧
      Turn link (surroundings.token poller.rounds) state
        (poller.head state now surroundings) := by
  by_cases goesOn : poller.link.isInSync = true ∧ poller.connected = true
  · have same : poller.head state now surroundings = poller.startRound state now surroundings := by
      simp only [head, awake, patient, if_pos goesOn, Bool.false_eq_true, if_false]
    exact ⟨poller.link, (beq_iff_eq.mp goesOn.1).symm, rfl, same ▸ turn_startRound ..⟩
  · have same : poller.head state now surroundings = poller.reconnect state now surroundings := by
      simp only [head, awake, patient, if_neg goesOn, Bool.false_eq_true, if_false]
    exact ⟨poller.link.reset, rfl, rfl, same ▸ turn_reconnect ..⟩

theorem head_of_stopping (now : Nat) (surroundings : Surroundings)
    (stopping : state.isStopping = true) :
    poller.head state now surroundings = ({ poller with phase := .ended }, state) := by
  rw [head, if_pos stopping]

theorem head_of_givesUp (now : Nat) (surroundings : Surroundings)
    (awake : state.isStopping = false) (givesUp : poller.givesUp state = true) :
    poller.head state now surroundings =
      ({ poller with phase := .ended }, { state with halted := true }) := by
  simp only [head, awake, givesUp, Bool.false_eq_true, if_false, if_true]

/-- Of all datagrams only the first answer of a round counts. -/
theorem handle_eq (poller : Poller) (state : ServiceState) (round : PollRound) (octets : Octets) :
    let (after, _, later) := poller.handle state round octets
    after.link = (if round.isAnsweredBy octets ∧ round.acknowledged = false
      then poller.link.acknowledge else poller.link) ∧
    after.phase = poller.phase ∧
    later = { round with acknowledged := round.acknowledged || round.isAnsweredBy octets } := by
  unfold handle PollRound.isAnsweredBy
  generalize octets.take Datagram.receiveCapacity = arrived
  cases read : ServerDatagram.ofOctets arrived with
  | error fault =>
      simp only [read, Bool.false_eq_true, false_and, if_false, Bool.or_false, and_self]
  | ok message =>
      cases message with
      | pushAck token =>
          simp only [read, Bool.false_eq_true, false_and, if_false, Bool.or_false, and_self]
      | pullAck token =>
          obtain ⟨own, deadline, acknowledged⟩ := round
          simp only [read, beq_iff_eq]
          cases acknowledged with
          | true => simp
          | false => by_cases same : token = own <;> simp [same]
      | pullResp token txpk =>
          simp only [read, Bool.false_eq_true, false_and, if_false, Bool.or_false]
          cases Datagram.txAck token _ _ <;> exact ⟨rfl, rfl, rfl⟩

theorem receive_of_idle (idle : ∀ round, poller.phase ≠ .listening round) (state : ServiceState)
    (octets : Octets) (now : Nat) : poller.receive state octets now = (poller, state) := by
  unfold receive
  split
  · rename_i round listening
    exact absurd listening (idle round)
  · rfl

theorem isAnsweredBy_of_idle (idle : ∀ round, poller.phase ≠ .listening round) :
    poller.isAnsweredBy octets = false := by
  unfold isAnsweredBy
  split
  · rename_i round listening
    exact absurd listening (idle round)
  · rfl

theorem note_of_idle (idle : ∀ round, poller.phase ≠ .listening round) :
    poller.note pulls (.datagram state now octets) = pulls := by
  simp only [note, receive_of_idle idle, isAnsweredBy_of_idle idle, Bool.false_eq_true, if_false,
    if_true]
  cases pulls <;> rfl

theorem receive_of_listening (listening : poller.phase = .listening round) (state : ServiceState)
    (octets : Octets) (now : Nat) :
    let after := (poller.receive state octets now).1
    after.link = (if round.isAnsweredBy octets ∧ round.acknowledged = false
      then poller.link.acknowledge else poller.link) ∧
    (after.phase = .atHead ∨ after.phase =
      .listening
        { round with acknowledged := round.acknowledged || round.isAnsweredBy octets }) := by
  obtain ⟨planner, filled, -⟩ := poller.fillBeacons_eq state
  have handled := handle_eq { poller with planner } (poller.fillBeacons state).2 round octets
  obtain ⟨link, -, later⟩ := handled
  unfold receive
  rw [listening]
  simp only [filled, link_listen]
  refine ⟨link, ?_⟩
  rw [← later]
  exact phase_listen ..

theorem wake_of_listening (listening : poller.phase = .listening round) (state : ServiceState)
    (now : Nat) (surroundings : Surroundings) :
    (poller.wake state now surroundings).1.link = poller.link ∧
      ((poller.wake state now surroundings).1.phase = .atHead ∨
        (poller.wake state now surroundings).1.phase = .listening round) ∧
      (poller.wake state now surroundings).2.sent = state.sent := by
  obtain ⟨planner, filled, sent⟩ := poller.fillBeacons_eq state
  unfold wake
  simp only [listening, filled, link_listen, sent, true_and, and_true]
  exact phase_listen ..

theorem halted_wake_iff (now : Nat) (surroundings : Surroundings)
    (atHead : poller.phase = .atHead) (awake : state.isStopping = false) :
    (poller.wake state now surroundings).2.halted = true ↔ poller.givesUp state = true := by
  have running : state.halted = false := (Bool.or_eq_false_iff.mp awake).2
  have woken : poller.wake state now surroundings = poller.head state now surroundings := by
    rw [wake, atHead]
  rw [woken]
  cases givesUp : poller.givesUp state with
  | true => simp only [head_of_givesUp now surroundings awake givesUp]
  | false =>
      obtain ⟨link, -, -, turn⟩ := poller.turn_head now surroundings awake givesUp
      have same : (poller.head state now surroundings).2.halted = state.halted := by
        cases turn <;> assumption
      rw [same, running]

/-- A poller that goes on by itself leaves its link alone, or starts a round on a link without a
request under way; it does so at the head of a round only if it does not give up. -/
theorem wake_cases (paused : poller.phase = .reconnecting →
      poller.link.sent = poller.link.acknowledged)
    (state : ServiceState) (now : Nat) (surroundings : Surroundings) :
    let result := poller.wake state now surroundings
    (result.1.link = poller.link ∧ result.2.sent = state.sent ∧
      (result.1.phase = poller.phase ∨ result.1.phase = .atHead ∨ result.1.phase = .ended)) ∨
    ((poller.phase = .reconnecting ∨ poller.givesUp state = false) ∧
      ∃ link, link.sent = link.acknowledged ∧ link.unanswered = poller.link.unanswered ∧
        Turn link (surroundings.token poller.rounds) state result) := by
  cases phase : poller.phase with
  | atHead =>
      have woken : poller.wake state now surroundings = poller.head state now surroundings := by
        rw [wake, phase]
      rw [woken]
      cases stopping : state.isStopping with
      | true =>
          rw [head_of_stopping now surroundings stopping]
          exact .inl ⟨rfl, rfl, .inr (.inr rfl)⟩
      | false =>
          cases givesUp : poller.givesUp state with
          | true =>
              rw [head_of_givesUp now surroundings stopping givesUp]
              exact .inl ⟨rfl, rfl, .inr (.inr rfl)⟩
          | false => exact .inr ⟨.inr rfl, poller.turn_head now surroundings stopping givesUp⟩
  | reconnecting =>
      have woken : poller.wake state now surroundings = poller.connect state now surroundings := by
        rw [wake, phase]
      rw [woken]
      exact .inr ⟨.inl rfl, poller.link, paused phase, rfl, poller.turn_connect state now _⟩
  | listening round =>
      obtain ⟨link, after, sent⟩ := wake_of_listening phase state now surroundings
      exact .inl ⟨link, sent, after.elim (fun atHead => .inr (.inl atHead)) .inl⟩
  | ended =>
      have woken : poller.wake state now surroundings = (poller, state) := by
        rw [wake, phase]
      rw [woken]
      exact .inl ⟨rfl, rfl, .inl phase⟩

/-- What a poller counts agrees with the requests that it sent. -/
structure Reckoned (poller : Poller) (pulls : List Pull) : Prop where
  balanced : poller.link.acknowledged ≤ poller.link.sent ∧
    poller.link.sent ≤ poller.link.acknowledged + 1
  paused : poller.phase = .reconnecting → poller.link.sent = poller.link.acknowledged
  unanswered : poller.link.unanswered = Pull.streak pulls
  current : ∀ round, poller.phase = .listening round → ∃ pull rest, pulls = pull :: rest ∧
    pull.token = round.token ∧ round.acknowledged = !pull.unanswered ∧
    poller.link.sent = poller.link.acknowledged + if pull.unanswered then 1 else 0
  once : ∀ pull ∈ pulls, pull.changes = min pull.answers 1

namespace Reckoned

theorem fresh (config : ServiceConfig) (planner : Option BeaconPlanner) :
    Reckoned { config, planner } [] :=
  ⟨⟨Nat.le_refl _, Nat.zero_le _⟩, fun _ => rfl, rfl, fun _ => nofun, fun _ => nofun⟩

theorem rest (reckoned : Reckoned poller pulls) (link : after.link = poller.link)
    (phase : after.phase = poller.phase ∨ after.phase = .atHead ∨ after.phase = .ended) :
    Reckoned after pulls := by
  obtain ⟨balanced, paused, unanswered, current, once⟩ := reckoned
  rw [← link] at balanced paused unanswered current
  rcases phase with same | atHead | ended
  · exact ⟨balanced, same ▸ paused, unanswered, same ▸ current, once⟩
  · refine ⟨balanced, ?_, unanswered, ?_, once⟩ <;> simp [atHead]
  · refine ⟨balanced, ?_, unanswered, ?_, once⟩ <;> simp [ended]

/-- A round that starts on a link without a request under way. -/
theorem turn {link : ServerLink} {result : Poller × ServiceState}
    (once : ∀ pull ∈ pulls, pull.changes = min pull.answers 1)
    (synced : link.sent = link.acknowledged) (unanswered : link.unanswered = Pull.streak pulls)
    (turn : Turn link token state result) :
    Reckoned result.1 (if result.2.sent = state.sent then pulls else { token } :: pulls) := by
  cases turn with
  | held kept idle sent halted =>
      rw [if_pos sent]
      have sameSent : result.1.link.sent = link.sent := (congrArg ServerLink.sent kept :)
      have sameAcknowledged : result.1.link.acknowledged = link.acknowledged :=
        (congrArg ServerLink.acknowledged kept :)
      have sameUnanswered : result.1.link.unanswered = link.unanswered :=
        (congrArg ServerLink.unanswered kept :)
      refine ⟨?_, fun _ => ?_, sameUnanswered.trans unanswered,
        fun round listening => absurd listening (idle round), once⟩ <;> omega
  | started counted waits sent halted =>
      have longer : result.2.sent ≠ state.sent := by simp [sent]
      rw [if_neg longer]
      have oneMoreSent : result.1.link.sent = link.sent + 1 := (congrArg ServerLink.sent counted :)
      have sameAcknowledged : result.1.link.acknowledged = link.acknowledged :=
        (congrArg ServerLink.acknowledged counted :)
      have oneMoreUnanswered : result.1.link.unanswered = link.unanswered + 1 :=
        (congrArg ServerLink.unanswered counted :)
      have silent : ({ token } : Pull).unanswered = true := rfl
      refine ⟨by omega, fun reconnecting => ?_, ?_, fun round listening => ?_,
        List.forall_mem_cons.mpr ⟨rfl, once⟩⟩
      · exact absurd reconnecting (ne_reconnecting_of_waits waits)
      · rw [Pull.streak_cons_of_unanswered silent, oneMoreUnanswered, unanswered]
      · rcases waits with atHead | ⟨deadline, waiting⟩
        · simp [atHead] at listening
        · cases waiting.symm.trans listening
          exact ⟨{ token }, pulls, rfl, rfl, rfl, by rw [if_pos silent]; omega⟩

theorem wake (reckoned : Reckoned poller pulls) (state : ServiceState) (now : Nat)
    (surroundings : Surroundings) :
    Reckoned (poller.wake state now surroundings).1
      (poller.note pulls (.wake state now surroundings)) := by
  simp only [note]
  rcases wake_cases reckoned.paused state now surroundings with
    ⟨link, sent, phase⟩ | ⟨-, link, synced, same, turn⟩
  · rw [if_pos sent]
    exact reckoned.rest link phase
  · exact .turn reckoned.once synced (same.trans reckoned.unanswered) turn

theorem sent_wake (reckoned : Reckoned poller pulls) (state : ServiceState) (now : Nat)
    (surroundings : Surroundings) :
    (poller.wake state now surroundings).2.sent = state.sent ∨
      (poller.wake state now surroundings).2.sent =
        state.sent ++ [Datagram.pullData (surroundings.token poller.rounds) state.gateway.id] := by
  rcases wake_cases reckoned.paused state now surroundings with
    ⟨-, sent, -⟩ | ⟨-, link, -, -, turn⟩
  · exact .inl sent
  · cases turn with
    | held kept idle sent halted => exact .inl sent
    | started counted waits sent halted => exact .inr sent

/-- The link changes at the first answer in a round, and at no other datagram. -/
theorem link_receive (reckoned : Reckoned poller pulls) (state : ServiceState) (now : Nat)
    (octets : Octets) : (poller.receive state octets now).1.link =
      if poller.isAnsweredBy octets = true ∧ ∀ pull ∈ pulls.head?, pull.answers = 0
      then poller.link.acknowledge else poller.link := by
  by_cases listens : ∃ round, poller.phase = .listening round
  · obtain ⟨round, listening⟩ := listens
    obtain ⟨pull, rest, rfl, -, acknowledged, -⟩ := reckoned.current round listening
    have first : round.acknowledged = false ↔ pull.answers = 0 := by
      rw [acknowledged, Bool.not_eq_false', Pull.unanswered_iff]
    rw [(receive_of_listening listening state octets now).1, isAnsweredBy, listening]
    simp only [List.head?_cons, Option.mem_some_iff, forall_eq', first]
  · have idle : ∀ round, poller.phase ≠ .listening round := not_exists.mp listens
    rw [receive_of_idle idle, isAnsweredBy_of_idle idle]
    simp only [Bool.false_eq_true, false_and, if_false]

/-- A round in which an answer came. -/
theorem answered {pull : Pull} {rest : List Pull} (replied : pull.unanswered = false)
    (synced : after.link.sent = after.link.acknowledged) (none : after.link.unanswered = 0)
    (phase : after.phase = .atHead ∨ after.phase = .listening round)
    (own : pull.token = round.token) (acknowledged : round.acknowledged = true)
    (once : ∀ other ∈ pull :: rest, other.changes = min other.answers 1) :
    Reckoned after (pull :: rest) where
  balanced := by omega
  paused _ := synced
  unanswered := none.trans (Pull.streak_cons_of_answered replied).symm
  current later listening := by
    rcases phase with atHead | waiting
    · simp [atHead] at listening
    · cases waiting.symm.trans listening
      exact ⟨pull, rest, rfl, own, by rw [acknowledged, replied]; rfl, by simp [replied, synced]⟩
  once := once

theorem datagram (reckoned : Reckoned poller pulls) (state : ServiceState) (now : Nat)
    (octets : Octets) : Reckoned (poller.receive state octets now).1
      (poller.note pulls (.datagram state now octets)) := by
  have link := reckoned.link_receive state now octets
  by_cases listens : ∃ round, poller.phase = .listening round
  · simp only [note]
    obtain ⟨round, listening⟩ := listens
    obtain ⟨pull, rest, rfl, own, acknowledged, sent⟩ := reckoned.current round listening
    obtain ⟨onceHere, onceThere⟩ := List.forall_mem_cons.mp reckoned.once
    have phase := (receive_of_listening listening state octets now).2
    have answer : poller.isAnsweredBy octets = round.isAnsweredBy octets := by
      rw [isAnsweredBy, listening]
    simp only [List.head?_cons, Option.mem_some_iff, forall_eq', answer] at link
    rw [List.modifyHead_cons, answer]
    cases replied : round.isAnsweredBy octets with
    | false =>
        simp only [replied, Bool.false_eq_true, false_and, if_false, Bool.or_false] at link phase ⊢
        rw [if_pos link]
        exact reckoned.rest link (phase.elim (fun atHead => .inr (.inl atHead))
          fun same => .inl (same.trans listening.symm))
    | true =>
        simp only [replied, true_and, if_true, Bool.or_true] at link phase ⊢
        cases silent : pull.unanswered with
        | true =>
            -- The first answer counts.
            have first := Pull.unanswered_iff.mp silent
            rw [if_pos first] at link
            rw [if_pos silent] at sent
            rw [link, if_neg poller.link.acknowledge_ne]
            refine answered rfl ?_ ?_ phase own rfl (List.forall_mem_cons.mpr ⟨?_, onceThere⟩)
            · rw [link]
              exact sent
            · rw [link]
              rfl
            · simp [onceHere, first]
        | false =>
            have further : pull.answers ≠ 0 := fun none => by
              rw [Pull.unanswered_iff.mpr none] at silent
              cases silent
            rw [if_neg further] at link
            rw [silent] at sent
            rw [if_pos link]
            refine answered rfl ?_ ?_ phase own rfl (List.forall_mem_cons.mpr ⟨?_, onceThere⟩)
            · rw [link]
              exact sent
            · rw [link, reckoned.unanswered, Pull.streak_cons_of_answered silent]
            · simp only [onceHere]
              omega
  · have idle : ∀ round, poller.phase ≠ .listening round := not_exists.mp listens
    rw [note_of_idle idle, receive_of_idle idle]
    exact reckoned

theorem follow (reckoned : Reckoned poller pulls) (event : PollerEvent) :
    Reckoned (poller.outcome event).1 (poller.note pulls event) := by
  cases event with
  | wake state now surroundings => exact reckoned.wake state now surroundings
  | datagram state now octets => exact reckoned.datagram state now octets

end Reckoned

theorem trace_concat (poller : Poller) (events : List PollerEvent) (event : PollerEvent) :
    poller.trace (events ++ [event]) = follow (poller.trace events) event :=
  List.foldl_concat ..

theorem reckoned_trace (config : ServiceConfig) (planner : Option BeaconPlanner)
    (events : List PollerEvent) :
    let (poller, pulls) := trace { config, planner } events
    Reckoned poller pulls := by
  induction events using List.reverseRecOn with
  | nil => exact .fresh config planner
  | append_singleton events event induction =>
      rw [trace_concat]
      exact induction.follow event

/-- At no time were more requests in a row unanswered than a threshold says, and before the link is
made anew there are fewer. -/
structure Patient (threshold : Nat) (poller : Poller) (pulls : List Pull) : Prop where
  paused : poller.phase = .reconnecting → poller.link.unanswered < threshold
  streaks : ∀ earlier, earlier <:+ pulls → Pull.streak earlier ≤ threshold

namespace Patient

variable {threshold : Nat}

theorem turn {link : ServerLink} {result : Poller × ServiceState}
    (streaks : ∀ earlier, earlier <:+ pulls → Pull.streak earlier ≤ threshold)
    (unanswered : link.unanswered = Pull.streak pulls) (short : link.unanswered < threshold)
    (turn : Turn link token state result) : Patient threshold result.1
      (if result.2.sent = state.sent then pulls else { token } :: pulls) := by
  cases turn with
  | held kept idle sent halted =>
      rw [if_pos sent]
      have same : result.1.link.unanswered = link.unanswered :=
        (congrArg ServerLink.unanswered kept :)
      exact ⟨fun _ => same ▸ short, streaks⟩
  | started counted waits sent halted =>
      have longer : result.2.sent ≠ state.sent := by simp [sent]
      rw [if_neg longer]
      refine ⟨fun reconnecting => ?_, fun earlier back => ?_⟩
      · exact absurd reconnecting (ne_reconnecting_of_waits waits)
      · rcases List.suffix_cons_iff.mp back with rfl | older
        · rw [Pull.streak_cons_of_unanswered rfl, ← unanswered]
          exact short
        · exact streaks earlier older

theorem wake (patient : Patient threshold poller pulls) (reckoned : Reckoned poller pulls)
    (positive : 0 < threshold) (now : Nat) (surroundings : Surroundings)
    (agreed : state.patience = threshold) :
    Patient threshold (poller.wake state now surroundings).1
      (poller.note pulls (.wake state now surroundings)) := by
  simp only [note]
  rcases wake_cases reckoned.paused state now surroundings with
    ⟨link, sent, phase⟩ | ⟨start, link, synced, same, turn⟩
  · rw [if_pos sent]
    refine ⟨fun reconnecting => ?_, patient.streaks⟩
    rw [reconnecting] at phase
    have same : PollerPhase.reconnecting = poller.phase := by simpa using phase
    rw [link]
    exact patient.paused same.symm
  · have short : link.unanswered < threshold := by
      rcases start with reconnecting | goesOn
      · exact same ▸ patient.paused reconnecting
      · have patience := givesUp_iff.not.mp (ne_true_of_eq_false goesOn)
        omega
    exact .turn patient.streaks (same.trans reckoned.unanswered) short turn

theorem datagram (patient : Patient threshold poller pulls) (state : ServiceState) (now : Nat)
    (octets : Octets) : Patient threshold (poller.receive state octets now).1
      (poller.note pulls (.datagram state now octets)) := by
  constructor
  · intro reconnecting
    by_cases listens : ∃ round, poller.phase = .listening round
    · obtain ⟨round, listening⟩ := listens
      rcases (receive_of_listening listening state octets now).2 with atHead | same
      · simp [atHead] at reconnecting
      · simp [same] at reconnecting
    · rw [receive_of_idle (not_exists.mp listens)] at reconnecting ⊢
      exact patient.paused reconnecting
  · intro earlier back
    cases pulls with
    | nil => exact patient.streaks earlier back
    | cons pull rest =>
        rcases List.suffix_cons_iff.mp back with rfl | older
        · exact Nat.le_trans (Pull.streak_answer_le ..) (patient.streaks _ (List.suffix_refl _))
        · exact patient.streaks earlier (older.trans (List.suffix_cons ..))

end Patient

theorem patient_trace (config : ServiceConfig) (planner : Option BeaconPlanner) {threshold : Nat}
    (positive : 0 < threshold) (agreed : ∀ event ∈ events, event.state.patience = threshold) :
    let (poller, pulls) := trace { config, planner } events
    Patient threshold poller pulls := by
  induction events using List.reverseRecOn with
  | nil =>
      refine ⟨nofun, fun earlier back => ?_⟩
      rw [List.suffix_nil.mp back]
      exact Nat.zero_le _
  | append_singleton events event induction =>
      obtain ⟨agreedBefore, agreedHere⟩ := List.forall_mem_append.mp agreed
      have patient := induction agreedBefore
      have reckoned := reckoned_trace config planner events
      rw [trace_concat]
      cases event with
      | wake state now surroundings =>
          exact patient.wake reckoned positive now surroundings (agreedHere _ List.mem_cons_self)
      | datagram state now octets => exact patient.datagram state now octets

/-- The rounds of a poller, in any run from its start and whatever the state that its events meet;
the requests sent are listed with the latest first. At the head of a round all requests on the link
but at most one were acknowledged. A datagram changes the link only if it is the first one in the
round to acknowledge the token of the round, so at most once a round. The requests in a row without
an answer are those since the last round that was acknowledged, however often the link was made
anew. A poller that does not stop gives its service up at the head of a round exactly if as many of
its last requests went unanswered as a positive threshold says, and more are never unanswered in a
row. -/
theorem rounds_reckoned (config : ServiceConfig) (planner : Option BeaconPlanner)
    (events : List PollerEvent) :
    let (poller, pulls) := trace { config, planner } events
    (∀ state now surroundings, (poller.wake state now surroundings).2.sent = state.sent ∨
      (poller.wake state now surroundings).2.sent =
        state.sent ++ [Datagram.pullData (surroundings.token poller.rounds) state.gateway.id]) ∧
    (∀ round, poller.phase = .listening round → pulls.head?.map Pull.token = some round.token) ∧
    (poller.phase = .atHead → poller.link.acknowledged ≤ poller.link.sent ∧
      poller.link.sent ≤ poller.link.acknowledged + 1) ∧
    (∀ state now octets, (poller.receive state octets now).1.link =
      if poller.isAnsweredBy octets = true ∧ ∀ pull ∈ pulls.head?, pull.answers = 0
      then poller.link.acknowledge else poller.link) ∧
    (∀ pull ∈ pulls, pull.changes ≤ 1) ∧
    poller.link.unanswered = (pulls.takeWhile Pull.unanswered).length ∧
    (∀ state now surroundings, poller.phase = .atHead → state.isStopping = false →
      ((poller.wake state now surroundings).2.halted = true ↔
        0 < state.patience ∧ state.patience ≤ pulls.length ∧
          ∀ pull ∈ pulls.take state.patience, pull.answers = 0)) ∧
    ∀ threshold, 0 < threshold → (∀ event ∈ events, event.state.patience = threshold) →
      ∀ row, row <:+: pulls → (∀ pull ∈ row, pull.answers = 0) → row.length ≤ threshold := by
  have reckoned := reckoned_trace config planner events
  refine ⟨reckoned.sent_wake, fun round listening => ?_, fun _ => reckoned.balanced,
    reckoned.link_receive, fun pull member => ?_,
    reckoned.unanswered, fun state now surroundings atHead awake => ?_,
    fun threshold positive agreed row inside silent => ?_⟩
  · obtain ⟨pull, rest, same, own, -⟩ := reckoned.current round listening
    rw [same, List.head?_cons, Option.map_some, own]
  · rw [reckoned.once pull member]
    exact Nat.min_le_right ..
  · rw [← Pull.le_streak_iff, ← reckoned.unanswered, ← givesUp_iff]
    exact halted_wake_iff now surroundings atHead awake
  · obtain ⟨earlier, back, short⟩ := Pull.exists_streak_of_infix inside silent
    exact Nat.le_trans short ((patient_trace config planner positive agreed).streaks earlier back)

def impatientState : ServiceState where
  gateway :=
    { id := ⟨1⟩
      config := { quitThreshold := 2 }
      store := {}
      radio := {}
      scheduler := .ofEnvelopes [] none }

def numberedTokens : Surroundings where
  reachable := true
  clock := fun _ => .epoch
  token := fun count => ⟨UInt16.ofNat count⟩

/-- A round that a forged, a matching and a doubled acknowledgement reach, then two rounds without
an answer, between which the link is made anew. -/
def eventsToTheEnd : List PollerEvent :=
  let wake (now : Nat) : PollerEvent := .wake impatientState now numberedTokens
  let answer (low : UInt8) : PollerEvent := .datagram impatientState 100 [2, 0, low, 4]
  [wake 0, answer 7, answer 0, answer 0, wake 10000, wake 10000, wake 20000, wake 20000,
    wake 21000, wake 31000]

theorem poller_gives_up_after_two :
    let (poller, pulls) := trace { config := {} } eventsToTheEnd
    poller.phase = .atHead ∧ impatientState.isStopping = false ∧
    pulls = [⟨⟨2⟩, 0, 0⟩, ⟨⟨1⟩, 0, 0⟩, ⟨⟨0⟩, 2, 1⟩] ∧
    (∀ event ∈ eventsToTheEnd, event.state.patience = 2) ∧
    (poller.wake impatientState 31000 numberedTokens).2.halted = true ∧
    ∀ row, row <:+: pulls → (∀ pull ∈ row, pull.answers = 0) → row.length ≤ 2 := by
  have atHead : (trace { config := {} } eventsToTheEnd).1.phase = .atHead := by decide +kernel
  have sent : (trace { config := {} } eventsToTheEnd).2 =
      [⟨⟨2⟩, 0, 0⟩, ⟨⟨1⟩, 0, 0⟩, ⟨⟨0⟩, 2, 1⟩] := by decide +kernel
  have agreed : ∀ event ∈ eventsToTheEnd, event.state.patience = 2 := by decide
  have whole := rounds_reckoned {} none eventsToTheEnd
  generalize ({ config := {} } : Poller).trace eventsToTheEnd = led at atHead sent whole ⊢
  obtain ⟨poller, pulls⟩ := led
  cases sent
  obtain ⟨-, -, -, -, -, -, quits, short⟩ := whole
  exact ⟨atHead, rfl, rfl, agreed,
    (quits impatientState 31000 numberedTokens atHead rfl).mpr (by decide),
    short 2 (by decide) agreed⟩

end Poller

end LorawanGateway

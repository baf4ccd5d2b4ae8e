import Mathlib.Algebra.GroupWithZero.Nat
import LorawanGateway.Datagram.PushData

/-!
The datagram with packets and a report, from the calls that put it together to its octets. The
length that every call is checked against is that of the datagram itself, so what was accepted is
written in full, be it piece by piece or at once.
-/

namespace LorawanGateway

namespace DatagramBuffer

variable {buffer : DatagramBuffer} {octets : Octets} {pieces : List Octets}

theorem append_of_le (fits : buffer.octets.length + octets.length ≤ buffer.capacity) :
    buffer.append octets = .ok { buffer with octets := buffer.octets ++ octets } :=
  if_neg (Nat.not_lt.mpr fits)

theorem append_of_lt (long : buffer.capacity < buffer.octets.length + octets.length) :
    buffer.append octets = .error (.overflow buffer.capacity) :=
  if_pos long

theorem within_of_append {after : DatagramBuffer} (appended : buffer.append octets = .ok after) :
    after.octets.length ≤ after.capacity := by
  rw [append] at appended
  split at appended
  · cases appended
  · rename_i fits
    cases appended
    rw [List.length_append]
    exact Nat.not_lt.mp fits

/-- Pieces are written one by one exactly as they would be at once. -/
theorem foldlM_append (within : buffer.octets.length ≤ buffer.capacity) :
    pieces.foldlM append buffer = buffer.append pieces.flatten := by
  induction pieces generalizing buffer with
  | nil =>
      have nothing : buffer.append [] = .ok { buffer with octets := buffer.octets ++ [] } :=
        append_of_le within
      rw [List.flatten_nil, nothing, List.append_nil]
      rfl
  | cons piece rest induction =>
      rw [List.foldlM_cons, List.flatten_cons]
      by_cases fits : buffer.octets.length + piece.length ≤ buffer.capacity
      · have next : (buffer.octets ++ piece).length ≤ buffer.capacity := by
          rwa [List.length_append]
        rw [append_of_le fits]
        change rest.foldlM append { buffer with octets := buffer.octets ++ piece } = _
        rw [induction next, append, append, List.length_append, List.length_append,
          Nat.add_assoc, List.append_assoc]
      · -- A piece that does not fit makes the whole too long as well.
        have long : buffer.capacity < buffer.octets.length + (piece ++ rest.flatten).length := by
          rw [List.length_append]
          omega
        rw [append_of_lt (Nat.not_le.mp fits), append_of_lt long]
        rfl

end DatagramBuffer

theorem Datagram.length_header (token : Token) (kind : DatagramKind) (gateway : Eui64) :
    (header token kind (some gateway)).length = fullHeaderLength := by
  simp [header, Token.octets, fullHeaderLength]

namespace PushData

variable {push : PushData} {packets texts : List Octets} {report : Option Octets}

theorem length_labels : (Octets.ofText "\"rxpk\":[").length = 8 ∧
    (Octets.ofText "\"stat\":").length = 7 := by
  decide +kernel

theorem separated_eq_intercalate (texts : List Octets) :
    separated texts = [0x2C].intercalate texts := by
  induction texts with
  | nil => rfl
  | cons text rest induction =>
      cases rest with
      | nil => simp [separated]
      | cons next rest => simp [separated, induction, List.intercalate_cons_cons]

theorem length_separated (texts : List Octets) :
    (separated texts).length = (texts.map List.length).sum + (texts.length - 1) := by
  induction texts with
  | nil => rfl
  | cons text rest induction =>
      cases rest with
      | nil => simp [separated]
      | cons next rest =>
          simp only [separated, List.length_append, List.length_cons, induction, List.map_cons,
            List.sum_cons]
          omega

/-- The body as it stands in the datagram: an object of the packets in an array and the report,
where what is missing leaves out its name and the comma. -/
def bodyText (packets : List Octets) (report : Option Octets) : Octets :=
  let packetsText := if packets.isEmpty then []
    else Octets.ofText "\"rxpk\":[" ++ ([0x2C].intercalate packets ++ [0x5D])
  let comma := if packets.isEmpty || report.isNone then [] else [0x2C]
  let reportText := report.elim [] fun text => Octets.ofText "\"stat\":" ++ text
  0x7B :: (packetsText ++ (comma ++ (reportText ++ [0x7D])))

theorem body_eq (packets : List Octets) (report : Option Octets) :
    body packets report = bodyText packets report := by
  have labels := length_labels
  have packetsLabel : Octets.ofText "\"rxpk\":[" ≠ [] :=
    List.ne_nil_of_length_pos (by omega)
  have reportLabel : Octets.ofText "\"stat\":" ≠ [] := List.ne_nil_of_length_pos (by omega)
  cases packets <;> cases report <;>
    simp [body, bodyText, packetsMember, reportMember, separated_eq_intercalate, packetsLabel,
      reportLabel]

theorem length_body (packets : List Octets) (report : Option Octets) :
    Datagram.fullHeaderLength + (body packets report).length =
      projectedLength (packets.map List.length) (report.map List.length) := by
  have labels := length_labels
  rw [body_eq]
  cases packets <;> cases report <;>
    simp [bodyText, ← separated_eq_intercalate, length_separated, projectedLength, labels,
      List.sum_eq_foldr]
  all_goals omega

/-- More packets make a datagram longer, and so does a report. -/
theorem projectedLength_le_append (lengths more : List Nat) (report : Option Nat) :
    projectedLength lengths none ≤ projectedLength (lengths ++ more) report := by
  simp only [projectedLength, ← List.sum_eq_foldr, List.sum_append, List.length_append]
  cases lengths <;> cases more <;> cases report <;> simp <;> omega

/-- The length of a datagram with both parts bounds that of one that lacks a part. -/
theorem projectedLength_le (lengths : List Nat) (report : Option Nat) :
    projectedLength lengths report ≤ 30 + lengths.length + lengths.sum + report.getD 0 := by
  simp only [projectedLength, ← List.sum_eq_foldr, Datagram.fullHeaderLength]
  cases lengths <;> cases report <;> simp <;> omega

theorem projectedLength_of_ne_nil {lengths : List Nat} (some : lengths ≠ []) :
    projectedLength lengths none = 22 + lengths.length + lengths.sum := by
  simp only [projectedLength, ← List.sum_eq_foldr, Datagram.fullHeaderLength]
  cases lengths with
  | nil => exact absurd rfl some
  | cons first rest =>
      simp only [List.isEmpty_cons, List.length_cons, Bool.false_eq_true, if_false]
      omega

def length (push : PushData) : Nat :=
  projectedLength (push.packets.map List.length) (push.report.map List.length)

def octets (push : PushData) : Octets :=
  Datagram.header push.token .pushData (some push.gateway) ++ bodyText push.packets push.report

theorem length_octets (push : PushData) : push.octets.length = push.length := by
  rw [octets, length, ← length_body, List.length_append, Datagram.length_header, body_eq]

theorem finish_eq_ok (room : push.length ≤ push.capacity) : push.finish = .ok push.octets := by
  have whole := push.length_octets
  rw [octets, List.length_append] at whole
  have header : (DatagramBuffer.empty push.capacity).octets.length +
      (Datagram.header push.token .pushData (some push.gateway)).length ≤ push.capacity := by
    rw [DatagramBuffer.empty, List.length_nil]
    omega
  rw [finish, DatagramBuffer.withHeader, DatagramBuffer.append_of_le header, body_eq]
  change (DatagramBuffer.append ⟨push.capacity, Datagram.header ..⟩ _ >>= _) = _
  rw [DatagramBuffer.append_of_le (by simp only [whole, room])]
  rfl

/-- The pieces that the datagram is written from behind its header. -/
def pieces (push : PushData) : List Octets :=
  let packetsPieces := if push.packets.isEmpty then []
    else Octets.ofText "\"rxpk\":[" :: (push.packets.intersperse [0x2C] ++ [[0x5D]])
  let comma := if push.packets.isEmpty || push.report.isNone then [] else [[0x2C]]
  let reportPieces := push.report.elim [] fun text => [Octets.ofText "\"stat\":", text]
  [0x7B] :: (packetsPieces ++ (comma ++ (reportPieces ++ [[0x7D]])))

/-- Writes the datagram piece by piece, each of which has to fit. -/
def finishByPieces (push : PushData) : Except DatagramError Octets := do
  let buffer ← DatagramBuffer.withHeader push.capacity push.token .pushData (some push.gateway)
  let buffer ← push.pieces.foldlM DatagramBuffer.append buffer
  return buffer.octets

theorem flatten_pieces (push : PushData) :
    push.pieces.flatten = bodyText push.packets push.report := by
  obtain ⟨capacity, token, gateway, packets, report⟩ := push
  cases packets <;> cases report <;> simp [pieces, bodyText, List.intercalate]

theorem finishByPieces_eq (push : PushData) : push.finishByPieces = push.finish := by
  rw [finishByPieces, finish]
  cases headed : DatagramBuffer.withHeader push.capacity push.token .pushData
      (some push.gateway) with
  | error fault => rfl
  | ok buffer =>
      have within := DatagramBuffer.within_of_append headed
      change (push.pieces.foldlM DatagramBuffer.append buffer >>= _) = (buffer.append _ >>= _)
      rw [DatagramBuffer.foldlM_append within, flatten_pieces, body_eq]

end PushData

/-- A call to a datagram in the making. -/
inductive PushCall where
  | packet (rxpk : Rxpk)
  | report (stat : Stat)

namespace PushCall

def packetText? : PushCall → Option Octets
  | .packet rxpk => some rxpk.toJson.print
  | .report _ => none

def reportText? : PushCall → Option Octets
  | .packet _ => none
  | .report stat => some stat.toJson.print

end PushCall

namespace PushData

variable {push : PushData} {call : PushCall} {calls : List PushCall}

def perform (push : PushData) : PushCall → Except DatagramError PushData
  | .packet rxpk => push.pushPacket rxpk
  | .report stat => push.setReport stat

theorem perform_packet (push : PushData) (rxpk : Rxpk) :
    push.perform (.packet rxpk) = push.pushPacket rxpk := rfl

theorem perform_report (push : PushData) (stat : Stat) :
    push.perform (.report stat) = push.setReport stat := rfl

/-- The answer to a call, and the datagram after it: as it was, where the call is refused. -/
def answer (push : PushData) (call : PushCall) : Except DatagramError Unit × PushData :=
  match push.perform call with
  | .ok next => (.ok (), next)
  | .error fault => (.error fault, push)

def run (push : PushData) : List PushCall → PushData
  | [] => push
  | call :: rest => (push.answer call).2.run rest

def accepted (push : PushData) : List PushCall → List PushCall
  | [] => []
  | call :: rest =>
    match push.answer call with
    | (.ok _, next) => call :: next.accepted rest
    | (.error _, next) => next.accepted rest

/-- The datagram with what a call brings. -/
def extend (push : PushData) : PushCall → PushData
  | .packet rxpk => { push with packets := push.packets ++ [rxpk.toJson.print] }
  | .report stat => { push with report := some stat.toJson.print }

theorem perform_of_le (room : (push.extend call).length ≤ push.capacity) :
    push.perform call = .ok (push.extend call) := by
  cases call with
  | packet rxpk => exact if_pos (decide_eq_true room)
  | report stat => exact if_pos (decide_eq_true room)

theorem perform_of_lt (long : push.capacity < (push.extend call).length) :
    push.perform call = .error (.overflow push.capacity) := by
  have outside := ne_true_of_eq_false (decide_eq_false (Nat.not_le.mpr long))
  cases call with
  | packet rxpk => exact if_neg outside
  | report stat => exact if_neg outside

/-- A call is accepted exactly if the datagram with it is not too long. -/
theorem answer_cases (push : PushData) (call : PushCall) :
    (push.answer call = (.ok (), push.extend call) ∧ (push.extend call).length ≤ push.capacity) ∨
      (push.answer call = (.error (.overflow push.capacity), push) ∧
        push.capacity < (push.extend call).length) := by
  by_cases room : (push.extend call).length ≤ push.capacity
  · rw [answer, perform_of_le room]
    exact .inl ⟨rfl, room⟩
  · have long := Nat.not_le.mp room
    rw [answer, perform_of_lt long]
    exact .inr ⟨rfl, long⟩

/-- What a datagram has become by accepting some calls. -/
structure Extends (before after : PushData) (calls : List PushCall) : Prop where
  capacity : after.capacity = before.capacity
  token : after.token = before.token
  gateway : after.gateway = before.gateway
  packets : after.packets = before.packets ++ calls.filterMap PushCall.packetText?
  report : after.report = (calls.filterMap PushCall.reportText?).getLast?.or before.report

theorem Extends.refl (push : PushData) : Extends push push [] :=
  ⟨rfl, rfl, rfl, (List.append_nil _).symm, rfl⟩

theorem Extends.cons {after : PushData} (rest : Extends (push.extend call) after calls) :
    Extends push after (call :: calls) := by
  obtain ⟨capacity, token, gateway, packets, report⟩ := rest
  cases call with
  | packet rxpk =>
      refine ⟨capacity, token, gateway, ?_, report⟩
      rw [packets, extend, List.append_assoc]
      rfl
  | report stat =>
      refine ⟨capacity, token, gateway, packets, ?_⟩
      have first : (PushCall.report stat :: calls).filterMap PushCall.reportText? =
        stat.toJson.print :: calls.filterMap PushCall.reportText? := rfl
      rw [report, first, List.getLast?_cons, extend]
      cases (calls.filterMap PushCall.reportText?).getLast? <;> rfl

theorem extends_run (push : PushData) (calls : List PushCall) :
    Extends push (push.run calls) (push.accepted calls) := by
  induction calls generalizing push with
  | nil => exact .refl push
  | cons call rest induction =>
      rw [run, accepted]
      rcases push.answer_cases call with ⟨taken, -⟩ | ⟨refused, -⟩
      · rw [taken]
        exact (induction (push.extend call)).cons
      · rw [refused]
        exact induction push

/-- What was accepted last left the datagram within its capacity. -/
theorem length_run_le (push : PushData) (calls : List PushCall)
    (within : push.accepted calls = [] → push.length ≤ push.capacity) :
    (push.run calls).length ≤ push.capacity := by
  induction calls generalizing push with
  | nil => exact within rfl
  | cons call rest induction =>
      rw [accepted] at within
      rw [run]
      rcases push.answer_cases call with ⟨taken, room⟩ | ⟨refused, -⟩
      · rw [taken]
        have next := induction (push.extend call) fun _ => by cases call <;> exact room
        cases call <;> exact next
      · rw [refused] at within ⊢
        exact induction push within

/-- Every call to a new datagram is either accepted, which adds what it brings, or refused, which
leaves everything as it was. Once a call was accepted, the datagram can be written: it is the
header, then the accepted packets in order and the last accepted report. -/
theorem datagram_of_accepted_calls (capacity : Nat) (token : Token) (gateway : Eui64)
    (calls : List PushCall) :
    let start : PushData := { capacity, token, gateway }
    let made := start.run calls
    let packets := (start.accepted calls).filterMap PushCall.packetText?
    let report := ((start.accepted calls).filterMap PushCall.reportText?).getLast?
    (∀ next : PushCall,
      (made.answer next = (.ok (), made.extend next) ∧ (made.extend next).length ≤ capacity) ∨
      (made.answer next = (.error (.overflow capacity), made) ∧
        capacity < (made.extend next).length)) ∧
    (start.accepted calls ≠ [] →
      ∃ datagram, made.finish = .ok datagram ∧ made.finishByPieces = .ok datagram ∧
        datagram = 2 :: (Octets.ofNatBE 2 token.word.toNat ++
          0 :: (Octets.ofNatBE 8 gateway.word.toNat ++ bodyText packets report)) ∧
        datagram.length = projectedLength (packets.map List.length) (report.map List.length) ∧
        datagram.length ≤ capacity) := by
  intro start made packets report
  have history : Extends start made (start.accepted calls) := extends_run start calls
  constructor
  · intro next
    have cases := made.answer_cases next
    rwa [history.capacity] at cases
  · intro taken
    have within : made.length ≤ capacity :=
      start.length_run_le calls fun none => absurd none taken
    have room : made.length ≤ made.capacity := by rwa [history.capacity]
    have written : made.finish = .ok made.octets := finish_eq_ok room
    have packetsMade : made.packets = packets := history.packets
    have reportMade : made.report = report := by
      rw [history.report]
      exact Option.or_none
    refine ⟨made.octets, written, made.finishByPieces_eq.trans written, ?_, ?_, ?_⟩
    · rw [octets, history.token, history.gateway, packetsMade, reportMade]
      simp [Datagram.header, Datagram.version, DatagramKind.id, Token.octets, start]
    · rw [length_octets, length, packetsMade, reportMade]
    · rwa [length_octets]

/-- A report and a packet, of which a datagram of 200 octets takes the report only. -/
def smallCalls : List PushCall :=
  [.report ⟨"2024-01-01 00:00:00 GMT", none, none, none, 1, 1, 1, 100, 0, 0⟩,
    .packet ⟨1, 5, none, none, 0, 1, 868.1, 0, 1, "LORA", .name "SF7BW125", some "4/5", none, none,
      0, -45, 4, "QAQBAA=="⟩]

theorem datagram_of_smallCalls :
    let start : PushData := { capacity := 200, token := ⟨7⟩, gateway := ⟨0xAA555A0000000000⟩ }
    (start.accepted smallCalls).length = 1 ∧
      ∃ datagram, (start.run smallCalls).finish = .ok datagram ∧ datagram.length ≤ 200 := by
  intro start
  have one : (start.accepted smallCalls).length = 1 := by decide +kernel
  have taken : start.accepted smallCalls ≠ [] := List.ne_nil_of_length_eq_add_one one
  obtain ⟨datagram, written, -, -, -, room⟩ :=
    (datagram_of_accepted_calls 200 ⟨7⟩ ⟨0xAA555A0000000000⟩ smallCalls).2 taken
  exact ⟨one, datagram, written, room⟩

end PushData

end LorawanGateway

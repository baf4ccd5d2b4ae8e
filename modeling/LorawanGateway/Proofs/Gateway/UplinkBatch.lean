import LorawanGateway.Gateway.Uplink
import LorawanGateway.Proofs.Datagram.PushData

/-!
A batch of received packets on its way into a datagram: which packets are listed there, whether the
report that waits goes along, and what is counted for it.
-/

namespace LorawanGateway

/-- Whether a GPS reference holds that leads out of the calendar for a packet: it gives no instant
or no GPS time for the counter. -/
def Gateway.LosesTime (gateway : Gateway) (packet : ReceivedPacket) : Prop :=
  ∃ reference, gateway.reference? = some reference ∧
    (reference.utcAt? packet.counter = none ∨ reference.gpsAt? packet.counter = none)

/-- Only such a reference keeps a packet from being described. -/
theorem ClockedPacket.describe?_eq_none_iff {clocked : ClockedPacket} {gateway : Gateway} :
    clocked.describe? gateway.reference? = none ↔ gateway.LosesTime clocked.packet := by
  rw [describe?, Rxpk.ofPacket?, Option.map_eq_none_iff, Gateway.LosesTime]
  cases gateway.reference? with
  | none => simp [Rxpk.receptionTime?]
  | some reference =>
      cases atUtc : reference.utcAt? clocked.packet.counter with
      | none => simp [Rxpk.receptionTime?, atUtc]
      | some instant =>
          cases atGps : reference.gpsAt? clocked.packet.counter <;>
            simp [Rxpk.receptionTime?, atUtc, atGps]

namespace UplinkService

variable {service : UplinkService} {gateway : Gateway} {store : Store} {token : Token}
variable {packet : ReceivedPacket} {clocked : ClockedPacket} {batch seen : List ClockedPacket}
variable {up : UplinkCounters} {report : TrafficReport}

/-- A packet together with its description. -/
abbrev Described := ClockedPacket × Rxpk

variable {taken described : List Described} {rxpk : Rxpk}

/-- Whether a packet is forwarded: the service wants the outcome of its checksum, and its payload
is no frame or one that the filter keeps. -/
def Admits (service : UplinkService) (store : Store) (packet : ReceivedPacket) : Prop :=
  service.config.forwards packet.status = true ∧
    ∀ frame, Frame.ofOctets packet.payload = .ok frame →
      service.filter.drops store.contains frame.identity = false

/-- Whether the filter drops a packet whose checksum is as the service wants it. -/
def Filters (service : UplinkService) (store : Store) (packet : ReceivedPacket) : Prop :=
  service.config.forwards packet.status = true ∧
    ∃ frame, Frame.ofOctets packet.payload = .ok frame ∧
      service.filter.drops store.contains frame.identity = true

theorem admission_eq_admitted_iff :
    admission service.config service.filter store packet = .admitted ↔
      service.Admits store packet := by
  rw [admission, Admits]
  cases service.config.forwards packet.status with
  | false => simp
  | true =>
      cases Frame.ofOctets packet.payload with
      | error fault => simp
      | ok frame => simp

theorem admission_eq_filtered_iff :
    admission service.config service.filter store packet = .filtered ↔
      service.Filters store packet := by
  rw [admission, Filters]
  cases service.config.forwards packet.status with
  | false => simp
  | true =>
      cases Frame.ofOctets packet.payload with
      | error fault => simp
      | ok frame => simp

instance : DecidablePred (service.Admits store) :=
  fun _ => decidable_of_iff _ admission_eq_admitted_iff

instance : DecidablePred (service.Filters store) :=
  fun _ => decidable_of_iff _ admission_eq_filtered_iff

/-- The counters once some packets were seen and some of them taken. -/
def counted (service : UplinkService) (store : Store) (up : UplinkCounters)
    (seen : List ClockedPacket) (taken : List Described) : UplinkCounters :=
  { up with
    received := up.received + seen.length
    receivedOk := up.receivedOk + seen.countP (·.packet.status = .ok)
    receivedBad := up.receivedBad + seen.countP (·.packet.status = .bad)
    receivedWithoutCrc := up.receivedWithoutCrc + seen.countP (·.packet.status = .absent)
    filtered := up.filtered + seen.countP (service.Filters store ·.packet)
    forwarded := up.forwarded + taken.length
    payloadOctets := up.payloadOctets + (taken.map (·.1.packet.payload.length)).sum }

theorem counted_see :
    service.counted store up (seen ++ [clocked]) taken =
      (service.counted store up seen taken).record clocked.packet.status
        (admission service.config service.filter store clocked.packet) := by
  have filtered : admission service.config service.filter store clocked.packet = .filtered ↔
      service.Filters store clocked.packet := admission_eq_filtered_iff
  rw [UplinkCounters.record]
  by_cases dropped : service.Filters store clocked.packet
  · rw [if_pos (filtered.mpr dropped)]
    cases checked : clocked.packet.status <;>
      simp [counted, UplinkCounters.receive, UplinkCounters.filter, checked, dropped,
        List.countP_append, Nat.add_assoc]
  · rw [if_neg (mt filtered.mp dropped)]
    cases checked : clocked.packet.status <;>
      simp [counted, UplinkCounters.receive, checked, dropped, List.countP_append, Nat.add_assoc]

theorem counted_take :
    service.counted store up seen (taken ++ [(clocked, rxpk)]) =
      (service.counted store up seen taken).forward clocked.packet.payload.length := by
  simp [counted, UplinkCounters.forward, Nat.add_assoc]

def text (entry : Described) : Octets := entry.2.toJson.print

def listingLength (taken : List Described) (stat : Option Stat) : Nat :=
  PushData.projectedLength ((taken.map text).map List.length)
    ((stat.map fun stat => stat.toJson.print).map List.length)

/-- The packets that are listed once one more was tried: it is added if there is room. -/
def take (taken : List Described) (next : Described) : List Described :=
  if listingLength (taken ++ [next]) none ≤ Datagram.sendCapacity then taken ++ [next] else taken

/-- Those of some packets that are listed, tried one by one. -/
def listed (described : List Described) : List Described := described.foldl take []

/-- The report that goes along with some packets, if there is room for it. -/
def reportBeside (taken : List Described) (pending : Option Stat) : Option Stat :=
  pending.filter fun stat => listingLength taken (some stat) ≤ Datagram.sendCapacity

def listing (gateway : Gateway) (token : Token) (taken : List Described) (stat : Option Stat) :
    PushData where
  capacity := Datagram.sendCapacity
  token := token
  gateway := gateway.id
  packets := taken.map text
  report := stat.map fun stat => stat.toJson.print

theorem length_listing (gateway : Gateway) (token : Token) (taken : List Described)
    (stat : Option Stat) : (listing gateway token taken stat).length = listingLength taken stat :=
  rfl

theorem extend_listing : (listing gateway token taken none).extend (.packet rxpk) =
    listing gateway token (taken ++ [(clocked, rxpk)]) none := by
  simp [listing, PushData.extend, text]

theorem takePacket_of_not_admits (out : ¬ service.Admits gateway.store clocked.packet) :
    service.takePacket gateway clocked (listing gateway token taken none)
        (service.counted gateway.store up seen taken) =
      (some (listing gateway token taken none),
        service.counted gateway.store up (seen ++ [clocked]) taken) := by
  have refused := mt admission_eq_admitted_iff.mp out
  rw [takePacket, if_pos refused, counted_see]

theorem takePacket_of_timeless (admitted : service.Admits gateway.store clocked.packet)
    (timeless : clocked.describe? gateway.reference? = none) :
    service.takePacket gateway clocked (listing gateway token taken none)
        (service.counted gateway.store up seen taken) =
      (none, service.counted gateway.store up (seen ++ [clocked]) taken) := by
  have accepted := admission_eq_admitted_iff.mpr admitted
  rw [takePacket, if_neg (· accepted), timeless, counted_see]

theorem takePacket_of_described (admitted : service.Admits gateway.store clocked.packet)
    (described : clocked.describe? gateway.reference? = some rxpk) :
    service.takePacket gateway clocked (listing gateway token taken none)
        (service.counted gateway.store up seen taken) =
      (some (listing gateway token (take taken (clocked, rxpk)) none),
        service.counted gateway.store up (seen ++ [clocked]) (take taken (clocked, rxpk))) := by
  have accepted := admission_eq_admitted_iff.mpr admitted
  rw [takePacket, if_neg (· accepted), described, ← counted_see]
  by_cases room : listingLength (taken ++ [(clocked, rxpk)]) none ≤ Datagram.sendCapacity
  · have pushed : (listing gateway token taken none).pushPacket rxpk =
        .ok (listing gateway token (taken ++ [(clocked, rxpk)]) none) := by
      rw [← PushData.perform_packet, PushData.perform_of_le] <;> rw [extend_listing]
      exact room
    rw [take, if_pos room, counted_take]
    simp only [pushed]
  · have refused : (listing gateway token taken none).pushPacket rxpk =
        .error (.overflow Datagram.sendCapacity) := by
      rw [← PushData.perform_packet, PushData.perform_of_lt]
      · rfl
      · rw [extend_listing]
        exact Nat.not_le.mp room
    rw [take, if_neg room]
    simp only [refused]

/-- The packets of a batch that are forwarded, with their descriptions. -/
def describedIn (service : UplinkService) (gateway : Gateway) (batch : List ClockedPacket) :
    List Described :=
  (batch.filter (service.Admits gateway.store ·.packet)).filterMap fun clocked =>
    (clocked.describe? gateway.reference?).map (clocked, ·)

/-- Whether all packets of a batch that are forwarded have a time of reception. -/
def Timed (service : UplinkService) (gateway : Gateway) (batch : List ClockedPacket) : Prop :=
  ∀ clocked ∈ batch, service.Admits gateway.store clocked.packet →
    ¬ gateway.LosesTime clocked.packet

theorem timed_cons : service.Timed gateway (clocked :: batch) ↔
    (service.Admits gateway.store clocked.packet → ¬ gateway.LosesTime clocked.packet) ∧
    service.Timed gateway batch :=
  List.forall_mem_cons

theorem exists_description (timed : ¬ gateway.LosesTime clocked.packet) :
    ∃ rxpk, clocked.describe? gateway.reference? = some rxpk := by
  rwa [← ClockedPacket.describe?_eq_none_iff, ← ne_eq, Option.ne_none_iff_exists'] at timed

/-- A batch in which a forwarded packet lacks a time of reception has a first such packet. -/
theorem exists_first_timeless (timeless : ¬ service.Timed gateway batch) :
    ∃ before clocked rest, batch = before ++ clocked :: rest ∧ service.Timed gateway before ∧
      service.Admits gateway.store clocked.packet ∧ gateway.LosesTime clocked.packet := by
  induction batch with
  | nil => exact absurd (List.forall_mem_nil _) timeless
  | cons first rest induction =>
      by_cases lost : service.Admits gateway.store first.packet ∧ gateway.LosesTime first.packet
      · exact ⟨[], first, rest, rfl, List.forall_mem_nil _, lost⟩
      · have here := not_and.mp lost
        obtain ⟨before, clocked, after, rfl, timed, found⟩ :=
          induction fun timedRest => timeless (timed_cons.mpr ⟨here, timedRest⟩)
        exact ⟨first :: before, clocked, after, rfl, timed_cons.mpr ⟨here, timed⟩, found⟩

theorem describedIn_of_not_admits (out : ¬ service.Admits gateway.store clocked.packet) :
    service.describedIn gateway (clocked :: batch) = service.describedIn gateway batch := by
  simp [describedIn, out]

theorem describedIn_of_described (admitted : service.Admits gateway.store clocked.packet)
    (described : clocked.describe? gateway.reference? = some rxpk) :
    service.describedIn gateway (clocked :: batch) =
      (clocked, rxpk) :: service.describedIn gateway batch := by
  simp [describedIn, admitted, described]

theorem takeBatch_append (push : PushData) (front rest : List ClockedPacket) :
    service.takeBatch gateway (front ++ rest) push up =
      match service.takeBatch gateway front push up with
      | (none, up) => (none, up)
      | (some push, up) => service.takeBatch gateway rest push up := by
  induction front generalizing push up with
  | nil => rfl
  | cons clocked front induction =>
      rw [List.cons_append, takeBatch, takeBatch]
      cases service.takePacket gateway clocked push up with
      | mk outcome up =>
          cases outcome with
          | none => rfl
          | some push => exact induction push

theorem takeBatch_of_timed (token : Token) (up : UplinkCounters) (seen : List ClockedPacket)
    (taken : List Described) (timed : service.Timed gateway batch) :
    service.takeBatch gateway batch (listing gateway token taken none)
        (service.counted gateway.store up seen taken) =
      (some (listing gateway token ((service.describedIn gateway batch).foldl take taken) none),
        service.counted gateway.store up (seen ++ batch)
          ((service.describedIn gateway batch).foldl take taken)) := by
  -- What was seen and taken before is carried along, for the counters and the room depend on it.
  induction batch generalizing seen taken with
  | nil =>
      rw [List.append_nil]
      rfl
  | cons clocked rest induction =>
      obtain ⟨timedHere, timedRest⟩ := timed_cons.mp timed
      have split : seen ++ clocked :: rest = seen ++ [clocked] ++ rest := by simp
      rw [takeBatch, split]
      by_cases admitted : service.Admits gateway.store clocked.packet
      · obtain ⟨rxpk, described⟩ := exists_description (timedHere admitted)
        rw [takePacket_of_described admitted described,
          describedIn_of_described admitted described]
        exact induction _ _ timedRest
      · rw [takePacket_of_not_admits admitted, describedIn_of_not_admits admitted]
        exact induction _ _ timedRest

/-- A packet without a time of reception ends the batch; it was seen, and what lies behind it was
not. -/
theorem takeBatch_of_timeless (token : Token) (up : UplinkCounters)
    (rest : List ClockedPacket) (timed : service.Timed gateway batch)
    (admitted : service.Admits gateway.store clocked.packet)
    (timeless : clocked.describe? gateway.reference? = none) :
    service.takeBatch gateway (batch ++ clocked :: rest) (listing gateway token [] none) up =
      (none, service.counted gateway.store up (batch ++ [clocked])
        (listed (service.describedIn gateway batch))) := by
  have front : service.takeBatch gateway batch (listing gateway token [] none) up =
      (some (listing gateway token (listed (service.describedIn gateway batch)) none),
        service.counted gateway.store up batch (listed (service.describedIn gateway batch))) :=
    takeBatch_of_timed token up [] [] timed
  rw [takeBatch_append, front]
  dsimp only
  rw [takeBatch, takePacket_of_timeless admitted timeless]

theorem listingLength_listed_le (described : List Described) :
    listingLength (listed described) none ≤ Datagram.sendCapacity := by
  have step : ∀ taken : List Described, listingLength taken none ≤ Datagram.sendCapacity →
      listingLength (described.foldl take taken) none ≤ Datagram.sendCapacity := by
    induction described with
    | nil => exact fun taken room => room
    | cons next rest induction =>
        intro taken room
        refine induction (take taken next) ?_
        rw [take]
        split
        · assumption
        · exact room
  exact step [] (by decide)

theorem takeReport_listing : takeReport (listing gateway token taken none) report =
    (listing gateway token taken (reportBeside taken report.pending),
      { report with pending := none }) := by
  rw [takeReport, TrafficReport.take, reportBeside]
  cases report.pending with
  | none => rfl
  | some stat =>
      change (((listing gateway token taken none).setReport stat).toOption.getD _, _) = _
      by_cases room : listingLength taken (some stat) ≤ Datagram.sendCapacity
      · rw [← PushData.perform_report, PushData.perform_of_le (by exact room),
          Option.filter_some, if_pos (decide_eq_true room)]
        rfl
      · rw [← PushData.perform_report, PushData.perform_of_lt (by exact Nat.not_le.mp room),
          Option.filter_some, if_neg (mt of_decide_eq_true room)]
        rfl

theorem listingLength_reportBeside_le
    (room : listingLength taken none ≤ Datagram.sendCapacity) (pending : Option Stat) :
    listingLength taken (reportBeside taken pending) ≤ Datagram.sendCapacity := by
  cases fitting : reportBeside taken pending with
  | none => exact room
  | some stat => exact of_decide_eq_true (Option.filter_eq_some_iff.mp fitting).2

/-- What a batch comes to where every forwarded packet has a time of reception. -/
theorem prepare_of_timed (timed : service.Timed gateway batch) :
    let taken := listed (service.describedIn gateway batch)
    let stat := reportBeside taken report.pending
    service.prepare gateway token batch report =
      (if taken.isEmpty && stat.isNone then .nothing
        else .ready (listing gateway token taken stat).octets,
        { report with
          up := service.counted gateway.store report.up batch taken
          pending := none }) := by
  intro taken stat
  have packets : service.takeBatch gateway batch (listing gateway token [] none) report.up =
      (some (listing gateway token taken none),
        service.counted gateway.store report.up batch taken) :=
    takeBatch_of_timed token report.up [] [] timed
  have written : (listing gateway token taken stat).finish =
      .ok (listing gateway token taken stat).octets :=
    PushData.finish_eq_ok (listingLength_reportBeside_le (listingLength_listed_le _) _)
  have start : ({ capacity := Datagram.sendCapacity, token, gateway := gateway.id } : PushData) =
      listing gateway token [] none := rfl
  have empty : (listing gateway token taken stat).isEmpty = (taken.isEmpty && stat.isNone) := by
    simp [PushData.isEmpty, listing]
  rw [prepare, start, packets]
  simp only [takeReport_listing]
  rw [empty, written]
  cases taken.isEmpty && stat.isNone <;> rfl

/-- What a batch comes to at a forwarded packet without a time of reception. -/
theorem prepare_of_timeless (rest : List ClockedPacket) (timed : service.Timed gateway batch)
    (admitted : service.Admits gateway.store clocked.packet)
    (timeless : clocked.describe? gateway.reference? = none) :
    service.prepare gateway token (batch ++ clocked :: rest) report =
      (.timeless, { report with
        up := service.counted gateway.store report.up (batch ++ [clocked])
          (listed (service.describedIn gateway batch)) }) := by
  have start : ({ capacity := Datagram.sendCapacity, token, gateway := gateway.id } : PushData) =
      listing gateway token [] none := rfl
  rw [prepare, start, takeBatch_of_timeless token report.up rest timed admitted timeless]

theorem map_fst_describedIn (timed : service.Timed gateway batch) :
    (service.describedIn gateway batch).map (·.1) =
      batch.filter (service.Admits gateway.store ·.packet) := by
  induction batch with
  | nil => rfl
  | cons clocked rest induction =>
      obtain ⟨timedHere, timedRest⟩ := timed_cons.mp timed
      by_cases admitted : service.Admits gateway.store clocked.packet
      · obtain ⟨rxpk, described⟩ := exists_description (timedHere admitted)
        rw [describedIn_of_described admitted described, List.map_cons, induction timedRest,
          List.filter_cons, if_pos (decide_eq_true admitted)]
      · rw [describedIn_of_not_admits admitted, induction timedRest,
          List.filter_cons, if_neg (mt of_decide_eq_true admitted)]

theorem describe?_of_mem_describedIn {entry : Described}
    (member : entry ∈ service.describedIn gateway batch) :
    entry.1.describe? gateway.reference? = some entry.2 := by
  obtain ⟨clocked, -, same⟩ := List.mem_filterMap.mp member
  obtain ⟨rxpk, described, rfl⟩ := Option.map_eq_some_iff.mp same
  exact described

theorem countP_status (batch : List ClockedPacket) :
    batch.countP (·.packet.status = .ok) + batch.countP (·.packet.status = .bad) +
      batch.countP (·.packet.status = .absent) = batch.length := by
  induction batch with
  | nil => rfl
  | cons clocked rest induction =>
      rw [List.length_cons, ← induction]
      cases checked : clocked.packet.status <;> simp [checked] <;> omega

theorem reportBeside_eq_none_iff {pending : Option Stat} : reportBeside taken pending = none ↔
    pending = none ∨ ∃ stat, pending = some stat ∧
      Datagram.sendCapacity < listingLength taken (some stat) := by
  cases pending with
  | none => simp [reportBeside]
  | some stat => simp [reportBeside, Option.filter_some]

/-- A batch comes to a datagram that lists the forwarded packets in their order, each one that has
room behind those listed before it, and the report that waits, if there is room for it. There is
no datagram exactly if it would be empty. Every packet is counted by the outcome of its checksum,
and those that are filtered or listed once more. Only a GPS reference that leads out of the
calendar keeps a batch from all that: at the first forwarded packet that has no time by it the batch
ends, with the packets counted up to this one, and the report keeps waiting. -/
theorem datagram_of_batch (service : UplinkService) (gateway : Gateway) (token : Token)
    (batch : List ClockedPacket) (report : TrafficReport) :
    let after := service.prepare gateway token batch report
    let described := service.describedIn gateway batch
    let taken := listed described
    let stat := reportBeside taken report.pending
    (∃ before clocked rest, batch = before ++ clocked :: rest ∧
      (∀ earlier ∈ before, service.Admits gateway.store earlier.packet →
        ¬ gateway.LosesTime earlier.packet) ∧
      service.Admits gateway.store clocked.packet ∧ gateway.LosesTime clocked.packet ∧
      after = (.timeless, { report with
        up := service.counted gateway.store report.up (before ++ [clocked])
          (listed (service.describedIn gateway before)) })) ∨
    ((∀ clocked ∈ batch, service.Admits gateway.store clocked.packet →
        ¬ gateway.LosesTime clocked.packet) ∧
      (described.map (·.1) = batch.filter (service.Admits gateway.store ·.packet) ∧
        ∀ entry ∈ described, entry.1.describe? gateway.reference? = some entry.2) ∧
      (after.1 = .nothing ∨ after.1 = .ready
        (Datagram.header token .pushData (some gateway.id) ++
          PushData.bodyText (taken.map text) (stat.map fun stat => stat.toJson.print))) ∧
      (after.1 = .nothing ↔ taken = [] ∧ (report.pending = none ∨
        ∃ stat, report.pending = some stat ∧
          Datagram.sendCapacity < listingLength taken (some stat))) ∧
      after.2 = { report with
        up := service.counted gateway.store report.up batch taken
        pending := none } ∧
      after.2.up.received = report.up.received + batch.length ∧
      after.2.up.receivedOk + after.2.up.receivedBad + after.2.up.receivedWithoutCrc =
        report.up.receivedOk + report.up.receivedBad + report.up.receivedWithoutCrc +
          batch.length ∧
      after.2.up.filtered =
        report.up.filtered + batch.countP (service.Filters gateway.store ·.packet) ∧
      after.2.up.forwarded = report.up.forwarded + taken.length ∧
      after.2.up.payloadOctets =
        report.up.payloadOctets + (taken.map (·.1.packet.payload.length)).sum) := by
  intro after described taken stat
  by_cases timed : service.Timed gateway batch
  · have prepared : after = _ := prepare_of_timed timed
    have outcome : after.1 = if taken.isEmpty && stat.isNone then .nothing
        else .ready (listing gateway token taken stat).octets := congrArg Prod.fst prepared
    have empty : (taken.isEmpty && stat.isNone) = true ↔ taken = [] ∧ stat = none := by simp
    refine .inr ⟨timed, ⟨map_fst_describedIn timed, fun _ => describe?_of_mem_describedIn⟩,
      ?_, ?_, ?_⟩
    · rw [outcome]
      cases taken.isEmpty && stat.isNone with
      | true => exact .inl rfl
      | false => exact .inr rfl
    · rw [outcome, ← reportBeside_eq_none_iff, ← empty]
      cases taken.isEmpty && stat.isNone <;> simp
    · rw [prepared]
      refine ⟨rfl, rfl, ?_, rfl, rfl, rfl⟩
      have checked := countP_status batch
      simp only [counted]
      omega
  · obtain ⟨before, clocked, rest, rfl, timedBefore, admitted, lost⟩ :=
      exists_first_timeless timed
    exact .inl ⟨before, clocked, rest, rfl, timedBefore, admitted, lost,
      prepare_of_timeless rest timedBefore admitted
        (ClockedPacket.describe?_eq_none_iff.mpr lost)⟩

end UplinkService

end LorawanGateway

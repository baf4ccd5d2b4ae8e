import LorawanGateway.Proofs.Transmit.Accounting

/-!
What a chain may send. A request is checked against the envelope of the chain it names before
anything else, and from then on the packet is carried through queue, purges and takings as it is.
So what is taken from a chain is a packet that was asked for earlier, within the limits of that
chain, at a power of the chain's table: whatever the order of the table, and whether it repeats
powers or holds negative ones.
-/

namespace LorawanGateway

theorem max_power (first second : Int8) :
    max first second = if first ≤ second then second else first :=
  rfl

instance instLawfulOrderMaxInt8 : Std.LawfulOrderMax Int8 where
  max_eq_or first second := by
    rw [max_power]
    split
    · exact .inr rfl
    · exact .inl rfl
  max_le_iff first second bound := by
    rw [max_power]
    simp only [Int8.le_iff_toInt_le]
    split <;> omega

/-- The power of a table that stands for a requested one: the greatest one not above it, or the
smallest one if all are above it. -/
inductive SelectedPower (powers : List Int8) (requested power : Int8) : Prop where
  | greatest (supported : power ∈ powers) (within : power ≤ requested)
      (most : ∀ other ∈ powers, other ≤ requested → other ≤ power)
  | smallest (supported : power ∈ powers) (above : ∀ other ∈ powers, requested < other)
      (least : ∀ other ∈ powers, power ≤ other)

theorem selectPower?_eq_some_iff {powers : List Int8} {requested power : Int8} :
    selectPower? powers requested = some power ↔ SelectedPower powers requested power := by
  have within {other : Int8} : other ∈ powers.filter (· ≤ requested) ↔
      other ∈ powers ∧ other ≤ requested := by simp
  rw [selectPower?, Option.or_eq_some_iff, List.max?_eq_some_iff, List.max?_eq_none_iff,
    List.min?_eq_some_iff]
  constructor
  · rintro (⟨member, most⟩ | ⟨none, member, least⟩)
    · obtain ⟨supported, below⟩ := within.mp member
      exact .greatest supported below fun other among low => most other (within.mpr ⟨among, low⟩)
    · refine .smallest member (fun other among => ?_) least
      have high := List.filter_eq_nil_iff.mp none other among
      exact Int8.not_le.mp (by simpa using high)
  · rintro (⟨supported, below, most⟩ | ⟨supported, above, least⟩)
    · refine .inl ⟨within.mpr ⟨supported, below⟩, fun other member => ?_⟩
      exact most other (within.mp member).1 (within.mp member).2
    · refine .inr ⟨List.filter_eq_nil_iff.mpr fun other among => ?_, supported, least⟩
      simpa using Int8.not_le.mpr (above other among)

/-- Whether an envelope lets a packet out that was asked for with a power. -/
structure TxEnvelope.Permits (envelope : TxEnvelope) (requested : Int8) (packet : TransmitPacket) :
    Prop where
  enabled : envelope.enabled = true
  notBelow : envelope.lowestFrequency ≤ packet.frequency
  notAbove : packet.frequency ≤ envelope.highestFrequency
  power : SelectedPower envelope.powers requested packet.power

theorem TxEnvelope.permits_of_fit {envelope : TxEnvelope} {packet fitted : TransmitPacket}
    (fits : envelope.fit packet = .ok fitted) : envelope.Permits packet.power fitted := by
  unfold fit at fits
  split at fits
  · cases fits
  · rename_i enabled
    split at fits
    · cases fits
    · rename_i inside
      obtain ⟨notBelow, notAbove⟩ := not_or.mp inside
      split at fits
      · cases fits
      · rename_i power found
        cases fits
        exact ⟨by simpa using enabled, UInt32.not_lt.mp notBelow, UInt32.not_lt.mp notAbove,
          selectPower?_eq_some_iff.mp found⟩

namespace TxScheduler

variable {scheduler : TxScheduler} {now : UInt32} {packet : TransmitPacket}
variable {packetClass : PacketClass} {acceptance : TxAcceptance}

theorem envelopes_enqueue (scheduler : TxScheduler) (now : UInt32) (packet : TransmitPacket)
    (packetClass : PacketClass) :
    (scheduler.enqueue now packet packetClass).2.envelopes = scheduler.envelopes := by
  cases asked : scheduler.enqueue now packet packetClass with
  | mk outcome after =>
      obtain ⟨before, placed, chains, -⟩ := placed_of_enqueue asked
      have same : before.envelopes = scheduler.envelopes := by
        cases placed with
        | unfit same => rw [same]
        | refused _ _ same | queued _ _ _ _ same =>
            rw [same]
            exact envelopes_setQueue ..
      rw [← same]
      exact congrArg (List.map (·.envelope)) chains

theorem envelopes_apply (scheduler : TxScheduler) (event : SchedulerEvent) :
    (scheduler.apply event).envelopes = scheduler.envelopes := by
  cases scheduler.applied event with
  | refused request asked | accepted request asked =>
      subst request
      rw [← scheduler.envelopes_enqueue, asked]
  | looked silent gate enqueued same => exact same

theorem envelopes_run (envelopes : List TxEnvelope) (gate : Option ListenGate)
    (events : List SchedulerEvent) :
    ((ofEnvelopes envelopes gate).run events).envelopes = envelopes := by
  have kept (scheduler : TxScheduler) : (scheduler.run events).envelopes = scheduler.envelopes := by
    induction events generalizing scheduler with
    | nil => rfl
    | cons event rest induction => exact (induction _).trans (scheduler.envelopes_apply event)
  rw [kept]
  simp only [ofEnvelopes, TxScheduler.envelopes, List.map_map]
  exact List.map_id' envelopes

theorem permits_of_enqueue
    (accepted : (scheduler.enqueue now packet packetClass).1 = .ok acceptance) :
    ∃ envelope, scheduler.envelopes[packet.rfChain.toNat]? = some envelope ∧
      envelope.Permits packet.power (acceptance.entry packet packetClass).packet ∧
      (packetClass ≠ .classC → acceptance.sendTime = packet.counter) := by
  obtain ⟨held, fitted, queued⟩ := queued_of_enqueue (Prod.ext accepted rfl)
  have permits := TxEnvelope.permits_of_fit queued.fits
  refine ⟨held.envelope, ?_, ?_, fun other => ?_⟩
  · simp only [envelopes, List.getElem?_map, queued.found, Option.map_some]
  · rw [queued.admitted.ofPacket]
    exact ⟨permits.enabled, permits.notBelow, permits.notAbove, permits.power⟩
  · have asAsked := congrArg TransmitPacket.counter (queued.admitted.asRequested other)
    rw [TxEnvelope.fit_ok queued.fits] at asAsked
    exact asAsked

/-- Whatever is taken from a chain in a run was accepted before, on this chain, and is the packet
that was asked for but for its power, and for class C its send time and mode. The chain is enabled
and allows its frequency, and its power is the one that the chain's table has for the power asked
for. -/
theorem taken_within_envelope (envelopes : List TxEnvelope) (gate : Option ListenGate)
    (events : List SchedulerEvent) (event : SchedulerEvent) (chain : Nat) (entry : QueueEntry)
    (given : entry ∈ taken chain ((ofEnvelopes envelopes gate).run events) event) :
    ∃ before now packet packetClass acceptance after envelope,
      events = before ++ .call (.enqueue now packet packetClass) :: after ∧
      (((ofEnvelopes envelopes gate).run before).enqueue now packet packetClass).1 =
        .ok acceptance ∧
      entry.packetClass = packetClass ∧
      entry.packet = { packet with
        power := entry.packet.power
        counter := if packetClass = .classC then acceptance.sendTime else packet.counter
        mode := if packetClass = .classC then .timestamped else packet.mode } ∧
      entry.packet.rfChain.toNat = chain ∧
      envelopes[chain]? = some envelope ∧
      envelope.Permits packet.power entry.packet := by
  obtain ⟨member, onChain⟩ := accepted_of_mem_entries (mem_entries_of_taken given)
  obtain ⟨before, request, after, split, queued⟩ := mem_gather.mp member
  obtain ⟨now, packet, packetClass, acceptance, rfl, accepted, rfl⟩ := mem_accepted.mp queued
  obtain ⟨envelope, found, permits, asAsked⟩ := permits_of_enqueue accepted
  have found : envelopes[packet.rfChain.toNat]? = some envelope := by
    rw [← envelopes_run envelopes gate before]
    exact found
  refine ⟨before, now, packet, packetClass, acceptance, after, envelope, split, accepted, rfl,
    ?_, onChain, onChain ▸ found, permits⟩
  have sendTime : acceptance.sendTime =
      if packetClass = .classC then acceptance.sendTime else packet.counter := by
    split
    · rfl
    · rename_i other
      exact asAsked other
  rw [← sendTime]
  rfl

def twoChains : List TxEnvelope := [{ enabled := false }, { powers := [20, -4, 14, 14] }]

/-- A request for the next free moment, shortly before the counter wraps. -/
def freeRequest : TransmitPacket := { mode := .immediate, rfChain := 1, power := 13 }

theorem free_request_within_envelope :
    let events := [.call (.enqueue 4294900000 freeRequest .classC), .call (.peek 1 4294900000)]
    let sent := { freeRequest with power := -4, counter := 12704, mode := .timestamped }
    ∃ entry ∈ taken 1 ((ofEnvelopes twoChains none).run events) (.pass { offset := 4294945000 }),
      entry.packet = sent ∧
      ∃ envelope, twoChains[1]? = some envelope ∧ envelope.Permits freeRequest.power sent := by
  intro events sent
  have given : taken 1 ((ofEnvelopes twoChains none).run events)
      (.pass { offset := 4294945000 }) = [⟨.classC, sent, 41500, 25856⟩] := by decide +kernel
  have member : ⟨.classC, sent, 41500, 25856⟩ ∈
      taken 1 ((ofEnvelopes twoChains none).run events) (.pass { offset := 4294945000 }) := by
    rw [given]
    exact List.mem_cons_self
  obtain ⟨before, now, packet, packetClass, acceptance, after, envelope, split, -, -, -, -, found,
    permits⟩ := taken_within_envelope twoChains none events _ 1 _ member
  refine ⟨_, member, rfl, envelope, found, ?_⟩
  -- The request that the packet comes from is the first event; the other one asks for nothing.
  cases before with
  | nil =>
      cases (List.cons.inj split).1
      exact permits
  | cons first before =>
      cases before with
      | nil => cases (List.cons.inj (List.cons.inj split).2).1
      | cons second before => simp [events] at split

end TxScheduler

end LorawanGateway

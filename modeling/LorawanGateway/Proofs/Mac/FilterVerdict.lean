import LorawanGateway.Mac.Filter

/-!
The verdict of a frame filter. The dimensions are looked at one after the other, and the first one
that rejects the frame decides. What a dimension makes of a frame depends on its own mode and rule
only. So their order does not matter, and a rule more or a milder mode can but spare a frame.
-/

namespace LorawanGateway

/-- What a mode drops is also dropped by every stricter one. -/
def FilterMode.strictness : FilterMode → Nat
  | .none => 0
  | .exclude => 1
  | .include => 2

/-- The modes under which a frame passes a dimension without a rule. -/
inductive Exempt (identity : FrameIdentity) : FilterMode → Dimension → Prop where
  | noDevice {mode : FilterMode} (absent : identity.deviceEui.word = 0) :
      Exempt identity mode .device
  | noPort (absent : identity.fPort = 0) : Exempt identity .exclude .fPort
  | noAddress (absent : identity.address.word = 0) : Exempt identity .exclude .address
  | noNetwork (absent : identity.address.word = 0) : Exempt identity .exclude .network

namespace FrameFilter

variable {filter : FrameFilter} {listed more : String → Bool} {identity : FrameIdentity}
variable {dimension : Dimension} {mode milder : FilterMode}

/-- Whether a frame lacks what a dimension looks at. Zero is a network like any other, so that only
a missing address leaves a frame without one. -/
def lacks (identity : FrameIdentity) : Dimension → Bool
  | .fPort => identity.fPort == 0
  | .address | .network => identity.address.isZero
  | .device => identity.deviceEui.isZero

/-- The verdict of the dimensions in some order: the first one that rejects the frame decides. -/
def dropsInOrder (filter : FrameFilter) (listed : String → Bool) (identity : FrameIdentity) :
    List Dimension → Bool
  | [] => false
  | dimension :: rest =>
    let mode := filter.policy.mode dimension
    if mode = .none then dropsInOrder filter listed identity rest
    else if dimension = .device ∧ lacks identity dimension then
      dropsInOrder filter listed identity rest
    else
      let known := listed (filter.ruleKey dimension identity)
      let rejected :=
        match mode with
        | .include => !known
        | .exclude => !known && !lacks identity dimension
        | .none => false
      if rejected then true else dropsInOrder filter listed identity rest

/-- Whether a dimension with a filter has neither a rule for a frame nor an exemption. -/
structure Rejected (filter : FrameFilter) (listed : String → Bool) (identity : FrameIdentity)
    (dimension : Dimension) : Prop where
  filtered : filter.policy.mode dimension = .include ∨ filter.policy.mode dimension = .exclude
  unlisted : listed (filter.ruleKey dimension identity) = false
  notExempt : ¬ Exempt identity (filter.policy.mode dimension) dimension

theorem exempts_eq : exempts mode dimension identity =
    (lacks identity dimension && (mode == .exclude || dimension == .device)) := by
  cases dimension with
  | device => simp [exempts, lacks]
  | fPort | address | network =>
      change _ = (_ && (mode == .exclude || false))
      rw [Bool.or_false]
      exact Bool.and_comm ..

theorem exempts_iff : exempts mode dimension identity = true ↔ Exempt identity mode dimension := by
  rw [exempts_eq, Bool.and_eq_true, Bool.or_eq_true]
  constructor
  · rintro ⟨absent, excluding | device⟩
    · cases eq_of_beq excluding
      cases dimension with
      | fPort => exact .noPort (eq_of_beq absent)
      | address => exact .noAddress (eq_of_beq absent)
      | network => exact .noNetwork (eq_of_beq absent)
      | device => exact .noDevice (eq_of_beq absent)
    · cases eq_of_beq device
      exact .noDevice (eq_of_beq absent)
  · intro exempt
    cases exempt with
    | noDevice absent => exact ⟨beq_of_eq absent, .inr rfl⟩
    | noPort absent | noAddress absent | noNetwork absent => exact ⟨beq_of_eq absent, .inl rfl⟩

theorem rejects_iff :
    filter.rejects listed identity dimension = true ↔
      Rejected filter listed identity dimension := by
  have filtered : filter.policy.mode dimension ≠ .none ↔
      filter.policy.mode dimension = .include ∨ filter.policy.mode dimension = .exclude := by
    cases filter.policy.mode dimension <;> simp
  simp only [rejects, Bool.and_eq_true, bne_iff_ne, Bool.not_eq_true', ← Bool.not_eq_true,
    exempts_iff, filtered]
  constructor
  · rintro ⟨⟨active, notExempt⟩, unlisted⟩
    exact ⟨active, eq_false_of_ne_true unlisted, notExempt⟩
  · rintro ⟨active, unlisted, notExempt⟩
    exact ⟨⟨active, notExempt⟩, ne_true_of_eq_false unlisted⟩

/-- A dimension, when its turn comes, rejects the frame or leaves the verdict to the others. -/
theorem dropsInOrder_cons (rest : List Dimension) :
    filter.dropsInOrder listed identity (dimension :: rest) =
      (filter.rejects listed identity dimension || filter.dropsInOrder listed identity rest) := by
  rw [dropsInOrder, rejects, exempts_eq]
  by_cases device : dimension = .device <;> cases filter.policy.mode dimension <;>
    cases lacks identity dimension <;> cases listed (filter.ruleKey dimension identity) <;>
    simp [device]

theorem dropsInOrder_eq_any (order : List Dimension) :
    filter.dropsInOrder listed identity order = order.any (filter.rejects listed identity) := by
  induction order with
  | nil => rfl
  | cons dimension rest induction => rw [dropsInOrder_cons, induction, List.any_cons]

theorem mem_all (dimension : Dimension) : dimension ∈ Dimension.all := by cases dimension <;> decide

theorem drops_iff_rejected :
    filter.drops listed identity = true ↔
      ∃ dimension, Rejected filter listed identity dimension := by
  simp only [drops, List.any_eq_true, mem_all, true_and, rejects_iff]

theorem dropsInOrder_eq_drops {order : List Dimension}
    (whole : ∀ dimension, dimension ∈ order) :
    filter.dropsInOrder listed identity order = filter.drops listed identity := by
  rw [dropsInOrder_eq_any, drops, Bool.eq_iff_iff]
  simp only [List.any_eq_true, whole, mem_all]

theorem Rejected.of_more (rejected : Rejected filter more identity dimension)
    (added : ∀ key, listed key = true → more key = true) :
    Rejected filter listed identity dimension where
  filtered := rejected.filtered
  notExempt := rejected.notExempt
  unlisted := by
    have absent := rejected.unlisted
    rw [← Bool.not_eq_true] at absent ⊢
    exact fun known => absent (added _ known)

/-- An exemption from a filter holds under every milder filter as well. -/
theorem exempt_of_stricter (exempt : Exempt identity mode dimension)
    (filtered : milder = .include ∨ milder = .exclude)
    (less : milder.strictness ≤ mode.strictness) : Exempt identity milder dimension := by
  cases exempt with
  | noDevice absent => exact .noDevice absent
  | noPort absent | noAddress absent | noNetwork absent =>
      rcases filtered with rfl | rfl
      · exact absurd less (by decide)
      · first
        | exact .noPort absent
        | exact .noAddress absent
        | exact .noNetwork absent

theorem Rejected.of_milder {policy : FilterPolicy}
    (rejected : Rejected { filter with policy } listed identity dimension)
    (less : (policy.mode dimension).strictness ≤ (filter.policy.mode dimension).strictness) :
    Rejected filter listed identity dimension where
  filtered := by
    have active := rejected.filtered
    revert less active
    cases policy.mode dimension <;> cases filter.policy.mode dimension <;> decide
  unlisted := rejected.unlisted
  notExempt := fun exempt => rejected.notExempt (exempt_of_stricter exempt rejected.filtered less)

/-- A frame is dropped exactly if some filtered dimension has no rule for it and does not exempt
it. So the dimensions may be looked at in any order, and a frame that is kept stays so with more
rules and under milder modes. -/
theorem verdict_of_rules (filter : FrameFilter) (listed : String → Bool)
    (identity : FrameIdentity) :
    (filter.drops listed identity = true ↔
      ∃ dimension, Rejected filter listed identity dimension) ∧
    (∀ order : List Dimension, (∀ dimension, dimension ∈ order) →
      filter.dropsInOrder listed identity order = filter.drops listed identity) ∧
    (∀ more : String → Bool, (∀ key, listed key = true → more key = true) →
      filter.drops listed identity = false → filter.drops more identity = false) ∧
    ∀ policy : FilterPolicy, (∀ dimension,
        (policy.mode dimension).strictness ≤ (filter.policy.mode dimension).strictness) →
      filter.drops listed identity = false →
      { filter with policy }.drops listed identity = false := by
  refine ⟨drops_iff_rejected, fun order => dropsInOrder_eq_drops, ?_, ?_⟩
  · intro more added kept
    rw [← Bool.not_eq_true, drops_iff_rejected] at kept ⊢
    rintro ⟨dimension, rejected⟩
    exact kept ⟨dimension, rejected.of_more added⟩
  · intro policy less kept
    rw [← Bool.not_eq_true, drops_iff_rejected] at kept ⊢
    rintro ⟨dimension, rejected⟩
    exact kept ⟨dimension, rejected.of_milder (less dimension)⟩

def portAndNetworkFilter : FrameFilter where
  service := "ttn"
  policy := { fPort := .include, address := .none, network := .exclude, device := .include }

/-- A frame of the network zero, which is not exempt, from a device without an identifier. -/
def frameOfNetworkZero : FrameIdentity where
  fPort := 5
  address := ⟨0x01FFFFFF⟩
  networkId := 0
  deviceEui := ⟨0⟩

theorem network_zero_verdicts :
    let onlyPort (key : String) : Bool := key == "ttn/fport/5"
    let listed (key : String) : Bool := onlyPort key || key == "ttn/nwkid/00"
    let more (key : String) : Bool := listed key || key == "ttn/fport/6"
    let policy : FilterPolicy := { portAndNetworkFilter.policy with network := .none }
    ((∀ dimension, dimension ∈ Dimension.all.reverse) ∧
      (∀ key, listed key = true → more key = true) ∧
      ∀ dimension, (policy.mode dimension).strictness ≤
        (portAndNetworkFilter.policy.mode dimension).strictness) ∧
    (∃ dimension, Rejected portAndNetworkFilter onlyPort frameOfNetworkZero dimension) ∧
    portAndNetworkFilter.dropsInOrder listed frameOfNetworkZero Dimension.all.reverse = false ∧
    portAndNetworkFilter.drops more frameOfNetworkZero = false ∧
    { portAndNetworkFilter with policy }.drops listed frameOfNetworkZero = false := by
  intro onlyPort listed more policy
  have everywhere : ∀ dimension, dimension ∈ Dimension.all.reverse := by
    intro dimension
    cases dimension <;> decide
  have added : ∀ key, listed key = true → more key = true := by
    intro key known
    exact Bool.or_eq_true_iff.mpr (.inl known)
  have milder : ∀ dimension, (policy.mode dimension).strictness ≤
      (portAndNetworkFilter.policy.mode dimension).strictness := by
    intro dimension
    cases dimension <;> decide
  have dropped : portAndNetworkFilter.drops onlyPort frameOfNetworkZero = true := by decide +kernel
  have kept : portAndNetworkFilter.drops listed frameOfNetworkZero = false := by decide +kernel
  obtain ⟨reason, -, -, -⟩ := verdict_of_rules portAndNetworkFilter onlyPort frameOfNetworkZero
  obtain ⟨-, reordered, grown, relaxed⟩ :=
    verdict_of_rules portAndNetworkFilter listed frameOfNetworkZero
  exact ⟨⟨everywhere, added, milder⟩, reason.mp dropped, (reordered _ everywhere).trans kept,
    grown more added kept, relaxed policy milder kept⟩

end FrameFilter

end LorawanGateway

import LorawanGateway.Gateway.Store
import LorawanGateway.Mac.Filter
import LorawanGateway.Proofs.Text.PlainText

/-!
Rules kept apart by their keys. A service may have any name, slashes included, so a key is read back
from its end: neither a value nor the name of a dimension has a slash in it. A rule therefore
touches the frames of its own service that have its value in its dimension, and no others.
-/

namespace LorawanGateway

theorem append_cons_inj_of_notMem_right {α : Type} {before other after rest : List α} {mark : α}
    (last : mark ∉ after) (last' : mark ∉ rest) :
    before ++ mark :: after = other ++ mark :: rest ↔ before = other ∧ after = rest := by
  constructor
  · intro same
    -- Where the one mark stands further on, the rest behind the other one has it too.
    rcases List.append_eq_append_iff.mp same with ⟨middle, rfl, split⟩ | ⟨middle, rfl, split⟩
    · cases middle with
      | nil => simpa using split
      | cons first middle =>
          obtain ⟨-, rfl⟩ := List.cons.inj split
          exact absurd (List.mem_append_right middle List.mem_cons_self) last
    · cases middle with
      | nil => simpa [eq_comm] using split
      | cons first middle =>
          obtain ⟨-, rfl⟩ := List.cons.inj split
          exact absurd (List.mem_append_right middle List.mem_cons_self) last'
  · rintro ⟨rfl, rfl⟩
    rfl

namespace Hex

variable {width first second : Nat}

theorem upperDigit_ne_slash {value : Nat} (small : value < 16) : upperDigit value ≠ '/' := by
  revert value
  decide

theorem digitValue?_upperDigit {value : Nat} (small : value < 16) :
    digitValue? (upperDigit value).toNat = some value := by
  revert value
  decide

theorem slash_notMem_padded (width value : Nat) : '/' ∉ (padded width value).toList := by
  rw [padded, String.toList_ofList]
  induction width generalizing value with
  | zero => exact List.not_mem_nil
  | succ width induction =>
      have digit := upperDigit_ne_slash (Nat.mod_lt value (by decide))
      simp [upperChars, induction, digit.symm]

theorem upperChars_injective (small : first < 16 ^ width) (small' : second < 16 ^ width)
    (same : upperChars width first = upperChars width second) : first = second := by
  induction width generalizing first second with
  | zero => simp_all
  | succ width induction =>
      rw [upperChars, upperChars] at same
      obtain ⟨front, back⟩ := List.append_inj' same rfl
      have high : first / 16 = second / 16 :=
        induction (by rw [pow_succ] at small; omega) (by rw [pow_succ] at small'; omega) front
      have low : first % 16 = second % 16 := by
        have digit := congrArg (digitValue? ·.toNat) (List.singleton_inj.mp back)
        simpa only [digitValue?_upperDigit (Nat.mod_lt _ (by decide : 16 > 0)),
          Option.some.injEq] using digit
      omega

theorem padded_inj (small : first < 16 ^ width) (small' : second < 16 ^ width) :
    padded width first = padded width second ↔ first = second := by
  rw [padded, padded, String.ofList_inj]
  exact ⟨upperChars_injective small small', congrArg _⟩

end Hex

namespace Dimension

variable {dimension other : Dimension} {first second : FrameIdentity}

/-- Whether two identities have the same value in a dimension. -/
def SameValue (dimension : Dimension) (first second : FrameIdentity) : Prop :=
  match dimension with
  | .fPort => first.fPort = second.fPort
  | .address => first.address = second.address
  | .network => first.networkId = second.networkId
  | .device => first.deviceEui = second.deviceEui

theorem slash_notMem_label (dimension : Dimension) : '/' ∉ dimension.label.toList := by
  cases dimension <;> decide

theorem label_inj : dimension.label = other.label ↔ dimension = other := by
  cases dimension <;> cases other <;> decide

theorem slash_notMem_valueText (dimension : Dimension) (identity : FrameIdentity) :
    '/' ∉ (dimension.valueText identity).toList := by
  cases dimension with
  | fPort =>
      rw [valueText, Nat.toString_eq_ofList_toDigits, String.toList_ofList]
      intro member
      have digit := Nat.isDigit_of_mem_toDigits (by decide) (by decide) member
      exact absurd digit (by decide)
  | address => exact Hex.slash_notMem_padded 8 _
  | network => exact Hex.slash_notMem_padded 2 _
  | device => exact Hex.slash_notMem_padded 16 _

theorem decimal_inj {first second : Nat} : toString first = toString second ↔ first = second := by
  refine ⟨fun same => ?_, congrArg toString⟩
  rw [Nat.toString_eq_ofList_toDigits, Nat.toString_eq_ofList_toDigits, String.ofList_inj] at same
  have read := congrArg (Nat.ofDigitChars 10 · 0) same
  simpa only [Nat.ofDigitChars_toDigits (by decide : 1 < 10) (Nat.le_refl 10)] using read

theorem valueText_inj : dimension.valueText first = dimension.valueText second ↔
    dimension.SameValue first second := by
  cases dimension with
  | fPort => exact decimal_inj.trans UInt8.toNat_inj
  | address =>
      rw [valueText, valueText, DevAddr.text, DevAddr.text,
        Hex.padded_inj (UInt32.toNat_lt _) (UInt32.toNat_lt _), UInt32.toNat_inj]
      exact ⟨congrArg DevAddr.mk, congrArg DevAddr.word⟩
  | network =>
      rw [valueText, valueText, Hex.padded_inj (UInt8.toNat_lt _) (UInt8.toNat_lt _),
        UInt8.toNat_inj, SameValue]
  | device =>
      rw [valueText, valueText, Eui64.text, Eui64.text,
        Hex.padded_inj (UInt64.toNat_lt _) (UInt64.toNat_lt _), UInt64.toNat_inj]
      exact ⟨congrArg Eui64.mk, congrArg Eui64.word⟩

end Dimension

namespace FrameFilter

variable {filter first second : FrameFilter} {dimension other : Dimension}
variable {identity x y : FrameIdentity} {before after : String → Bool}

theorem toList_ruleKey (filter : FrameFilter) (dimension : Dimension) (identity : FrameIdentity) :
    (filter.ruleKey dimension identity).toList = filter.service.toList ++
      '/' :: dimension.label.toList ++ '/' :: (dimension.valueText identity).toList := by
  simp [ruleKey, String.toList_append]

theorem ruleKey_eq_iff : first.ruleKey dimension x = second.ruleKey other y ↔
    first.service = second.service ∧ dimension = other ∧ dimension.SameValue x y := by
  rw [← String.toList_inj, toList_ruleKey, toList_ruleKey,
    append_cons_inj_of_notMem_right (dimension.slash_notMem_valueText x)
      (other.slash_notMem_valueText y),
    append_cons_inj_of_notMem_right dimension.slash_notMem_label other.slash_notMem_label,
    String.toList_inj, String.toList_inj, String.toList_inj, Dimension.label_inj, and_assoc]
  constructor
  · rintro ⟨service, rfl, value⟩
    exact ⟨service, rfl, Dimension.valueText_inj.mp value⟩
  · rintro ⟨service, rfl, value⟩
    exact ⟨service, rfl, Dimension.valueText_inj.mpr value⟩

theorem rejects_congr (same : before (filter.ruleKey dimension identity) =
    after (filter.ruleKey dimension identity)) :
    filter.rejects before identity dimension = filter.rejects after identity dimension := by
  rw [rejects, rejects, same]

/-- A verdict changes through some dimension only. -/
theorem exists_rejects_ne (changed : filter.drops before identity ≠ filter.drops after identity) :
    ∃ dimension, filter.rejects before identity dimension ≠
      filter.rejects after identity dimension := by
  by_contra unchanged
  have same := funext fun dimension => not_ne_iff.mp (not_exists.mp unchanged dimension)
  exact changed (congrArg Dimension.all.any same)

/-- The key of a rule tells the service, the dimension and the value it was written for. So a store
that differs from another one in that rule alone makes a difference only there. -/
theorem rules_kept_apart (first second : FrameFilter) (dimension other : Dimension)
    (x y : FrameIdentity) :
    (first.ruleKey dimension x = second.ruleKey other y ↔
      first.service = second.service ∧ dimension = other ∧ dimension.SameValue x y) ∧
    ∀ before after : String → Bool,
      (∀ key, key ≠ first.ruleKey dimension x → before key = after key) →
      (second.rejects before y other ≠ second.rejects after y other →
        first.service = second.service ∧ dimension = other ∧ dimension.SameValue x y) ∧
      (second.drops before y ≠ second.drops after y →
        first.service = second.service ∧ dimension.SameValue x y ∧
          second.rejects before y dimension ≠ second.rejects after y dimension) := by
  refine ⟨ruleKey_eq_iff, fun before after elsewhere => ?_⟩
  have touched (other : Dimension)
      (changed : second.rejects before y other ≠ second.rejects after y other) :
      first.service = second.service ∧ dimension = other ∧ dimension.SameValue x y := by
    by_contra apart
    have key : second.ruleKey other y ≠ first.ruleKey dimension x :=
      fun same => apart (ruleKey_eq_iff.mp same.symm)
    exact changed (rejects_congr (elsewhere _ key))
  refine ⟨touched other, fun changed => ?_⟩
  obtain ⟨decisive, differs⟩ := exists_rejects_ne changed
  obtain ⟨service, rfl, value⟩ := touched decisive differs
  exact ⟨service, value, differs⟩

end FrameFilter

namespace Store

variable {key other value : String}

theorem lookup_insertEntry_of_ne (entries : List (String × String)) (different : other ≠ key) :
    (insertEntry key value entries).lookup other = entries.lookup other := by
  induction entries with
  | nil => rw [insertEntry, List.lookup_cons, beq_false_of_ne different]
  | cons entry rest induction =>
      obtain ⟨name, kept⟩ := entry
      rw [insertEntry]
      split
      · rw [List.lookup_cons, beq_false_of_ne different]
      · split
        · rename_i same
          subst same
          rw [List.lookup_cons, List.lookup_cons, beq_false_of_ne different]
        · rw [List.lookup_cons, List.lookup_cons, induction]

theorem contains_put_of_ne (store : Store) (value : String) (different : other ≠ key) :
    (store.put key value).contains other = store.contains other := by
  rw [contains, contains, get?, get?, put, lookup_insertEntry_of_ne _ different]

end Store

namespace FrameFilter

def includesNetworks : FrameFilter := ⟨"ttn", ⟨.none, .none, .include, .none⟩⟩

/-- A service that has the name of a rule of the other one. -/
def namedLikeRule : FrameFilter := ⟨"ttn/nwkid/0A", ⟨.include, .none, .none, .none⟩⟩

def frameOfNetworkTen : FrameIdentity := ⟨5, ⟨0x14000001⟩, 0x0A, ⟨0⟩⟩

def neighbourInNetworkTen : FrameIdentity := ⟨9, ⟨0x15FFFFFF⟩, 0x0A, ⟨0⟩⟩

theorem rule_of_network_ten :
    let rule := includesNetworks.ruleKey .network frameOfNetworkTen
    let before : Store := {}
    let after := before.put rule "listed"
    (∀ key, key ≠ rule → before.contains key = after.contains key) ∧
    includesNetworks.drops before.contains neighbourInNetworkTen ≠
      includesNetworks.drops after.contains neighbourInNetworkTen ∧
    Dimension.network.SameValue frameOfNetworkTen neighbourInNetworkTen ∧
    namedLikeRule.ruleKey .fPort frameOfNetworkTen ≠ rule := by
  intro rule before after
  have elsewhere : ∀ key, key ≠ rule → before.contains key = after.contains key :=
    fun key different => (before.contains_put_of_ne "listed" different).symm
  have changed : includesNetworks.drops before.contains neighbourInNetworkTen ≠
      includesNetworks.drops after.contains neighbourInNetworkTen := by decide +kernel
  obtain ⟨-, effect⟩ := rules_kept_apart includesNetworks includesNetworks .network .network
    frameOfNetworkTen neighbourInNetworkTen
  obtain ⟨keys, -⟩ := rules_kept_apart namedLikeRule includesNetworks .fPort .network
    frameOfNetworkTen frameOfNetworkTen
  have value := ((effect before.contains after.contains elsewhere).2 changed).2.1
  refine ⟨elsewhere, changed, value, fun same => ?_⟩
  exact absurd (keys.mp same).1 (by decide)

end FrameFilter

end LorawanGateway

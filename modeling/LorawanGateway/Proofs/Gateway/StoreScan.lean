import Mathlib.Data.List.Induction
import LorawanGateway.Gateway.ServiceState
import LorawanGateway.Proofs.Text.TextOrder

/-!
What a store holds, and what a scan finds in it. Whatever was put and erased, the entries are those
that were written last, in the order of their keys. The keys that begin with a text stand together
there, from the text itself on, so that a scan may stop at the first key that does not.
-/

namespace LorawanGateway

/-- The key that a change concerns. -/
def StoreChange.key : StoreChange → String
  | .put key _ => key
  | .erase key => key

/-- A value is put under a key, and nothing is done to that key afterwards. -/
def LastWrites (changes : List StoreChange) (key value : String) : Prop :=
  ∃ before after, changes = before ++ .put key value :: after ∧
    ∀ change ∈ after, change.key ≠ key

theorem not_lastWrites_nil {key value : String} : ¬ LastWrites [] key value := by
  rintro ⟨before, after, split, -⟩
  exact List.append_ne_nil_of_right_ne_nil before (List.cons_ne_nil _ after) split.symm

theorem lastWrites_concat {changes : List StoreChange} {change : StoreChange}
    {key value : String} : LastWrites (changes ++ [change]) key value ↔
      change = .put key value ∨ change.key ≠ key ∧ LastWrites changes key value := by
  constructor
  · rintro ⟨before, after, split, untouched⟩
    induction after using List.reverseRecOn with
    | nil =>
        obtain ⟨-, last⟩ := List.append_inj' split rfl
        exact .inl (List.singleton_inj.mp last)
    | append_singleton after last _ =>
        rw [← List.cons_append, ← List.append_assoc] at split
        obtain ⟨rfl, same⟩ := List.append_inj' split rfl
        cases same
        exact .inr ⟨untouched change (by simp), before, after, rfl,
          fun other member => untouched other (by simp [member])⟩
  · rintro (rfl | ⟨elsewhere, before, after, rfl, untouched⟩)
    · exact ⟨changes, [], rfl, fun _ member => nomatch member⟩
    · refine ⟨before, after ++ [change], by simp, fun other member => ?_⟩
      rcases List.mem_append.mp member with earlier | last
      · exact untouched other earlier
      · rw [List.mem_singleton.mp last]
        exact elsewhere

namespace Store

variable {store : Store} {entries : List (String × String)} {entry : String × String}
variable {start key value later : String}

/-- Each key stands before the keys that are greater, and only once. -/
def Ordered (entries : List (String × String)) : Prop :=
  entries.Pairwise fun earlier later => earlier.1 < later.1

theorem mem_insertEntry (ordered : Ordered entries) :
    entry ∈ insertEntry key value entries ↔
      entry = (key, value) ∨ key ≠ entry.1 ∧ entry ∈ entries := by
  induction entries with
  | nil => simp [insertEntry]
  | cons first rest induction =>
      obtain ⟨other, kept⟩ := first
      obtain ⟨least, ordered⟩ := List.pairwise_cons.mp ordered
      rw [insertEntry]
      split
      · rename_i before
        -- A key before the first one is before all of them, so it is new.
        have new (present : entry ∈ (other, kept) :: rest) : key ≠ entry.1 := by
          rcases List.mem_cons.mp present with rfl | present
          · exact before.ne
          · exact (before.trans (least entry present)).ne
        rw [List.mem_cons]
        exact or_congr_right (iff_and_self.mpr new)
      · split
        · rename_i same
          subst same
          have new (present : entry ∈ rest) : key ≠ entry.1 := (least entry present).ne
          simp only [List.mem_cons]
          constructor
          · rintro (rfl | present)
            · exact .inl rfl
            · exact .inr ⟨new present, .inr present⟩
          · rintro (rfl | ⟨other, rfl | present⟩)
            · exact .inl rfl
            · exact absurd rfl other
            · exact .inr present
        · rename_i different
          rw [List.mem_cons, induction ordered, List.mem_cons]
          constructor
          · rintro (rfl | rfl | ⟨other, present⟩)
            · exact .inr ⟨different, .inl rfl⟩
            · exact .inl rfl
            · exact .inr ⟨other, .inr present⟩
          · rintro (rfl | ⟨other, rfl | present⟩)
            · exact .inr (.inl rfl)
            · exact .inl rfl
            · exact .inr (.inr ⟨other, present⟩)

theorem Ordered.insertEntry (ordered : Ordered entries) (key value : String) :
    Ordered (insertEntry key value entries) := by
  induction entries with
  | nil => exact List.pairwise_singleton ..
  | cons first rest induction =>
      obtain ⟨other, kept⟩ := first
      have ⟨least, others⟩ := List.pairwise_cons.mp ordered
      rw [Store.insertEntry]
      split
      · rename_i before
        refine List.pairwise_cons.mpr ⟨fun entry present => ?_, ordered⟩
        rcases List.mem_cons.mp present with rfl | present
        · exact before
        · exact before.trans (least entry present)
      · split
        · rename_i same
          subst same
          exact List.pairwise_cons.mpr ⟨least, others⟩
        · rename_i notBefore different
          have after : other < key := lt_of_le_of_ne (not_lt.mp notBefore) (Ne.symm different)
          refine List.pairwise_cons.mpr ⟨fun entry present => ?_, induction others⟩
          rcases (mem_insertEntry others).mp present with rfl | ⟨-, present⟩
          · exact after
          · exact least entry present

/-- A change touches the entry of its own key only. -/
theorem mem_apply (ordered : Ordered store.entries) (change : StoreChange) :
    entry ∈ (store.apply change).entries ↔
      change = .put entry.1 entry.2 ∨ change.key ≠ entry.1 ∧ entry ∈ store.entries := by
  cases change with
  | put key value =>
      refine (mem_insertEntry ordered).trans (or_congr_left ?_)
      rw [StoreChange.put.injEq, Prod.ext_iff]
      exact and_congr eq_comm eq_comm
  | erase key =>
      simp only [Store.apply, erase, List.mem_filter, bne_iff_ne, StoreChange.key, reduceCtorEq,
        false_or]
      rw [and_comm, ne_comm]

theorem Ordered.apply (ordered : Ordered store.entries) (change : StoreChange) :
    Ordered (store.apply change).entries := by
  cases change with
  | put key value => exact ordered.insertEntry key value
  | erase key => exact List.Pairwise.filter _ ordered

theorem ordered_run (changes : List StoreChange) :
    Ordered (changes.foldl Store.apply {}).entries := by
  induction changes using List.reverseRecOn with
  | nil => exact List.Pairwise.nil
  | append_singleton changes change induction =>
      rw [List.foldl_concat]
      exact induction.apply change

/-- A store holds what was written last. -/
theorem mem_run {changes : List StoreChange} :
    (key, value) ∈ (changes.foldl Store.apply {}).entries ↔ LastWrites changes key value := by
  induction changes using List.reverseRecOn with
  | nil => exact iff_of_false List.not_mem_nil not_lastWrites_nil
  | append_singleton changes change induction =>
      rw [List.foldl_concat, mem_apply (ordered_run changes), lastWrites_concat, induction]

theorem ofList_eq_run (contents : List (String × String)) :
    ofList contents =
      (contents.map fun (key, value) => StoreChange.put key value).foldl Store.apply {} := by
  have kept (entries : List (String × String)) :
      Store.mk (contents.foldl (fun kept (key, value) => insertEntry key value kept) entries) =
        (contents.map fun (key, value) => StoreChange.put key value).foldl Store.apply
          ⟨entries⟩ := by
    induction contents generalizing entries with
    | nil => rfl
    | cons entry contents induction => exact induction _
  exact kept []

section Scan

theorem beginsWith_iff : beginsWith start key = true ↔ start.toList <+: key.toList :=
  List.isPrefixOf_iff_prefix

theorem not_lt_of_beginsWith (begins : beginsWith start key = true) : ¬ key < start :=
  List.IsPrefix.le (beginsWith_iff.mp begins)

/-- What lies between a beginning and a run that has it has the same beginning. -/
theorem prefix_of_between {start middle last : List Char} (begins : start <+: last)
    (low : ¬ middle < start) (high : ¬ last < middle) : start <+: middle := by
  induction start generalizing middle last with
  | nil => exact List.nil_prefix
  | cons c start induction =>
      obtain ⟨rest, rfl⟩ := begins
      cases middle with
      | nil => exact absurd List.Lex.nil low
      | cons d middle =>
          rw [List.cons_append, List.cons_lt_cons_iff, not_or, not_and] at high
          rw [List.cons_lt_cons_iff, not_or, not_and] at low
          obtain rfl : c = d := le_antisymm (not_lt.mp low.1) (not_lt.mp high.1)
          exact List.cons_prefix_cons.mpr
            ⟨rfl, induction (List.prefix_append ..) (low.2 rfl) (high.2 rfl)⟩

/-- Between a text and a key that begins with it, all keys begin with it. -/
theorem beginsWith_of_between (begins : beginsWith start later = true) (low : ¬ key < start)
    (high : ¬ later < key) : beginsWith start key = true :=
  beginsWith_iff.mpr (prefix_of_between (beginsWith_iff.mp begins) low high)

theorem takeWhile_eq_filter (ordered : Ordered entries)
    (low : ∀ entry ∈ entries, ¬ entry.1 < start) :
    (entries.takeWhile fun entry => beginsWith start entry.1) =
      entries.filter fun entry => beginsWith start entry.1 := by
  induction entries with
  | nil => rfl
  | cons first rest induction =>
      obtain ⟨least, others⟩ := List.pairwise_cons.mp ordered
      rw [List.takeWhile_cons, List.filter_cons]
      by_cases begins : beginsWith start first.1 = true
      · rw [if_pos begins, if_pos begins]
        exact congrArg _ (induction others fun entry present =>
          low entry (List.mem_cons_of_mem _ present))
      · rw [if_neg begins, if_neg begins, eq_comm, List.filter_eq_nil_iff]
        intro entry present later
        have after := lt_asymm (least entry present)
        exact begins (beginsWith_of_between later (low first List.mem_cons_self) after)

theorem scan_eq_filter (ordered : Ordered store.entries) (start : String) :
    store.scan start = store.entries.filter fun entry => beginsWith start entry.1 := by
  rw [scan]
  generalize store.entries = entries at ordered
  induction entries with
  | nil => rfl
  | cons first rest induction =>
      obtain ⟨least, others⟩ := List.pairwise_cons.mp ordered
      rw [List.dropWhile_cons]
      by_cases before : first.1 < start
      · have outside : ¬ beginsWith start first.1 = true :=
          fun begins => not_lt_of_beginsWith begins before
        rw [if_pos (decide_eq_true before), List.filter_cons, if_neg outside]
        exact induction others
      · rw [if_neg (before ∘ of_decide_eq_true)]
        refine takeWhile_eq_filter ordered fun entry present => ?_
        rcases List.mem_cons.mp present with rfl | present
        · exact before
        · exact fun low => before ((least entry present).trans low)

end Scan

/-- A scan finds what was written last under the keys that begin with a text, each entry once and in
the order of the octets of the keys. It finds no less than a look at every entry would. -/
theorem scan_finds_last_writes (contents : List (String × String)) (changes : List StoreChange)
    (start : String) :
    let store := changes.foldl Store.apply (ofList contents)
    let history := contents.map (fun (key, value) => .put key value) ++ changes
    (∀ key value, (key, value) ∈ store.scan start ↔
      LastWrites history key value ∧ Octets.ofText start <+: Octets.ofText key) ∧
    (store.scan start).Pairwise (fun earlier later =>
      Octets.ofText earlier.1 < Octets.ofText later.1) ∧
    store.scan start = store.entries.filter fun entry => beginsWith start entry.1 := by
  intro store history
  have made : store = history.foldl Store.apply {} := by
    rw [List.foldl_append, ← ofList_eq_run]
  have ordered : Ordered store.entries := made ▸ ordered_run history
  have found := scan_eq_filter ordered start
  refine ⟨fun key value => ?_, ?_, found⟩
  · rw [found, List.mem_filter, made, mem_run, beginsWith_iff, Octets.ofText_prefix_iff]
  · rw [found]
    refine (List.Pairwise.filter _ ordered).imp fun before => ?_
    exact Octets.ofText_lt_iff.mpr before

end Store

end LorawanGateway

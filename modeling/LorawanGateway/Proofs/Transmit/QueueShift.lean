import LorawanGateway.Proofs.Transmit.QueueLaws
import Mathlib.Data.List.Basic

/-!
Shifts of the counter. Adding a constant to the present and to all send times of a queue leaves
every difference as it is, and an operation looks at nothing else of a time. So each operation
commutes with a shift: what it decides is the same, and the times it gives out are shifted.
-/

namespace LorawanGateway

theorem Counter.add_sub_add (first second offset : UInt32) :
    first + offset - (second + offset) = first - second := by
  grind

theorem Counter.add_add (first second offset : UInt32) :
    first + offset + second = first + second + offset := by
  grind

def TransmitPacket.shift (packet : TransmitPacket) (offset : UInt32) : TransmitPacket :=
  { packet with counter := packet.counter + offset }

namespace QueueEntry

variable (entry : QueueEntry) (now offset : UInt32)

def shift : QueueEntry := { entry with packet := entry.packet.shift offset }

@[simp] theorem packetClass_shift : (entry.shift offset).packetClass = entry.packetClass := rfl

@[simp] theorem pre_shift : (entry.shift offset).pre = entry.pre := rfl

@[simp] theorem post_shift : (entry.shift offset).post = entry.post := rfl

@[simp] theorem isBeacon_shift : (entry.shift offset).isBeacon = entry.isBeacon := rfl

@[simp] theorem sendTime_shift : (entry.shift offset).sendTime = entry.sendTime + offset := rfl

@[simp] theorem ahead_shift : (entry.shift offset).ahead (now + offset) = entry.ahead now :=
  Counter.add_sub_add _ _ _

theorem shift_injective : Function.Injective (shift · offset) := by
  intro first second same
  have back : ∀ entry : QueueEntry, (entry.shift offset).shift (-offset) = entry := by
    intro entry
    have counter : entry.packet.counter + offset + -offset = entry.packet.counter := by grind
    simp only [shift, TransmitPacket.shift, counter]
  rw [← back first, ← back second]
  exact congrArg (shift · (-offset)) same

end QueueEntry

@[simp] theorem collides_shift (time₁ pre₁ post₁ time₂ pre₂ post₂ offset : UInt32) :
    collides (time₁ + offset) pre₁ post₁ (time₂ + offset) pre₂ post₂ =
      collides time₁ pre₁ post₁ time₂ pre₂ post₂ := by
  simp only [collides, Counter.add_sub_add]

namespace TxQueue

variable (queue : TxQueue) (entries : List QueueEntry) (entry : QueueEntry)
variable (now pre post slot offset : UInt32) (packet : TransmitPacket) (packetClass : PacketClass)

def shift : TxQueue := { queue with entries := queue.entries.map (·.shift offset) }

@[simp] theorem size_shift : (queue.shift offset).size = queue.size := List.length_map _

@[simp] theorem hasPlace_shift :
    (queue.shift offset).hasPlace packetClass = queue.hasPlace packetClass := by
  unfold hasPlace isFull
  rw [size_shift]
  rfl

theorem inOrder_shift : inOrder (now + offset) (entries.map (·.shift offset)) =
    (inOrder now entries).map (·.shift offset) := by
  refine (List.map_mergeSort fun first _ second _ => ?_).symm
  simp only [QueueEntry.ahead_shift]

theorem sorted_shift :
    (queue.shift offset).sorted (now + offset) = (queue.sorted now).shift offset := by
  simp only [sorted, shift, inOrder_shift]

theorem soonest_shift : soonest (now + offset) = soonest now + offset := Counter.add_add _ _ _

theorem afterEntry_shift : afterEntry pre (entry.shift offset) = afterEntry pre entry + offset :=
  Counter.add_add _ _ _

theorem gapAfter_shift : gapAfter pre post (slot + offset) (entries.map (·.shift offset)) =
    gapAfter pre post slot entries + offset := by
  induction entries generalizing slot with
  | nil => rfl
  | cons entry rest induction =>
      cases rest with
      | nil => exact afterEntry_shift ..
      | cons next rest =>
          simp only [List.map_cons] at induction
          simp only [List.map_cons, gapAfter, afterEntry_shift, QueueEntry.sendTime_shift,
            QueueEntry.pre_shift, QueueEntry.post_shift, collides_shift, induction]
          split <;> rfl

theorem freeSlot_shift : freeSlot (entries.map (·.shift offset)) (now + offset) pre post =
    freeSlot entries now pre post + offset := by
  have clear : ∀ entry : QueueEntry,
      (!collides (soonest now + offset) pre post (entry.shift offset).sendTime
        (entry.shift offset).pre (entry.shift offset).post) =
      !collides (soonest now) pre post entry.sendTime entry.pre entry.post := by
    intro entry
    simp
  simp only [freeSlot, soonest_shift, List.all_map, Function.comp_def, clear, gapAfter_shift]
  split <;> rfl

theorem occupied_shift : occupied packetClass (packet.shift offset) = occupied packetClass packet :=
  rfl

theorem placed_shift :
    placed (entries.map (·.shift offset)) (now + offset) packetClass (packet.shift offset) =
      (placed entries now packetClass packet).shift offset := by
  unfold placed
  split
  · simp only [occupied_shift, freeSlot_shift]
    rfl
  · rfl

theorem collision?_shift :
    collision? (entries.map (·.shift offset)) (entry.shift offset) = collision? entries entry := by
  simp only [collision?, List.find?_map, Function.comp_def, QueueEntry.sendTime_shift,
    QueueEntry.pre_shift, QueueEntry.post_shift, collides_shift, Option.map_map]
  rfl

theorem newcomer_shift :
    newcomer (entries.map (·.shift offset)) (now + offset) (packet.shift offset) packetClass =
      (newcomer entries now packet packetClass).shift offset := by
  unfold newcomer
  rw [placed_shift]
  rfl

theorem fault?_shift :
    fault? (entries.map (·.shift offset)) (now + offset) (entry.shift offset) =
      fault? entries now entry := by
  unfold fault?
  rw [QueueEntry.ahead_shift, collision?_shift]
  rfl

/-- Admission decides alike, and an admitted entry gets the shifted send time. -/
theorem accept_shift :
    (queue.shift offset).accept (now + offset) (packet.shift offset) packetClass =
      ((queue.accept now packet packetClass).1.map (·.shift offset),
        (queue.accept now packet packetClass).2.shift offset) := by
  rw [accept_eq, accept_eq, hasPlace_shift, sorted_shift]
  split
  · have entries : ((queue.sorted now).shift offset).entries =
        (queue.sorted now).entries.map (·.shift offset) := rfl
    dsimp only
    rw [entries, newcomer_shift, fault?_shift]
    cases fault? (queue.sorted now).entries now
      (newcomer (queue.sorted now).entries now packet packetClass) <;> rfl
  · rfl

theorem insert_shift : (queue.shift offset).insert (now + offset) (entry.shift offset) =
    (queue.insert now entry).shift offset := by
  have entries : (queue.shift offset).entries ++ [entry.shift offset] =
      (queue.entries ++ [entry]).map (·.shift offset) := by simp [shift]
  unfold insert
  rw [entries, inOrder_shift]
  rfl

theorem isCurrent_shift : isCurrent (now + offset) (entry.shift offset) = isCurrent now entry := by
  simp only [isCurrent, QueueEntry.ahead_shift]

theorem purge_shift :
    (queue.shift offset).purge (now + offset) = (queue.purge now).shift offset := by
  have kept : (queue.shift offset).entries.filter (isCurrent (now + offset)) =
      (queue.entries.filter (isCurrent now)).map (·.shift offset) := by
    simp only [shift, List.filter_map, Function.comp_def, isCurrent_shift]
  have dropped : ((queue.shift offset).entries.filter fun e =>
      !isCurrent (now + offset) e && e.isBeacon).length =
      (queue.entries.filter fun e => !isCurrent now e && e.isBeacon).length := by
    simp only [shift, List.filter_map, Function.comp_def, isCurrent_shift,
      QueueEntry.isBeacon_shift, List.length_map]
  unfold purge
  dsimp only
  rw [kept, dropped, List.length_map, size_shift, inOrder_shift]
  split <;> rfl

theorem nearest?_shift : nearest? (now + offset) (entries.map (·.shift offset)) =
    (nearest? now entries).map (·.shift offset) := by
  induction entries with
  | nil => rfl
  | cons entry rest induction =>
      simp only [List.map_cons, nearest?, induction]
      cases nearest? now rest with
      | none => rfl
      | some other =>
          simp only [Option.map_some, QueueEntry.ahead_shift]
          split <;> rfl

theorem due?_shift : due? (now + offset) (entries.map (·.shift offset)) =
    (due? now entries).map (·.shift offset) := by
  simp only [due?, nearest?_shift, Option.filter_map, Function.comp_def, QueueEntry.ahead_shift]

theorem peek_shift : (queue.shift offset).peek (now + offset) =
    ((queue.peek now).1.map (·.shift offset), (queue.peek now).2.shift offset) := by
  unfold peek
  rw [purge_shift]
  exact Prod.ext (due?_shift _ _ _) rfl

theorem pop_shift : (queue.shift offset).pop (now + offset) =
    ((queue.pop now).1.map (·.shift offset), (queue.pop now).2.shift offset) := by
  have found : due? (now + offset) ((queue.purge now).shift offset).entries =
      (due? now (queue.purge now).entries).map (·.shift offset) := due?_shift ..
  unfold pop
  rw [purge_shift]
  dsimp only
  rw [found]
  cases due? now (queue.purge now).entries with
  | none => rfl
  | some entry =>
      have rest := List.map_erase (a := entry) (QueueEntry.shift_injective offset)
        (queue.purge now).entries
      simp only [Option.map_some, shift, rest]
      rfl

end TxQueue

end LorawanGateway

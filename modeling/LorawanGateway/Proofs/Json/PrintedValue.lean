import LorawanGateway.Proofs.Json.PrintedToken

/-!
Reading what was printed. Wherever a value may stand, reading goes over its print and has that
value; an array or object is read item by item and member by member. So the text of a value is read
as that value, as long as its numbers are those that their texts stand for.
-/

namespace LorawanGateway.Json

/-- The values whose numbers are those that their texts stand for. -/
inductive IsExact : Json → Prop where
  | null : IsExact .null
  | bool (value : Bool) : IsExact (.bool value)
  | number {number : Number} (exact : number.IsExact) : IsExact (.number number)
  | text (value : String) : IsExact (.text value)
  | array {items : List Json} (each : ∀ item ∈ items, IsExact item) : IsExact (.array items)
  | object {members : List (String × Json)} (each : ∀ member ∈ members, IsExact member.2) :
      IsExact (.object members)

namespace Position

variable {position : Position} {frames : List Frame} {token : Token} {first : UInt8}
variable {octets rest after : Octets} {value : Json} {name : String}
variable {members : Option (List (String × Json))}

/-- Where reading gets from a position. -/
def resume (position : Position) (octets : Octets) : Option Position :=
  (Token.list? octets).bind fun tokens => tokens.foldlM step position

theorem resume_nil (position : Position) : position.resume [] = some position := by
  rw [resume, Token.list?]
  rfl

theorem resume_token (position : Position) (visible : Token.isBlank first = false)
    (scanned : Token.scan? first rest = some (token, after)) :
    position.resume (first :: rest) = (position.step token).bind (·.resume after) := by
  have listed : Token.list? (first :: rest) = (token :: ·) <$> Token.list? after := by
    rw [Token.list?, visible, if_neg Bool.false_ne_true]
    split
    · rename_i refused
      rw [refused] at scanned
      cases scanned
    · rename_i found
      cases scanned.symm.trans found
      rfl
  rw [resume, listed]
  -- The tokens are listed before any step is made, so either of the two may fail first.
  cases taken : position.step token <;> cases later : Token.list? after <;>
    simp [resume, taken, later]

/-- Positions at which a value may start. -/
def AwaitsValue (position : Position) (frames : List Frame) : Prop :=
  ∀ token, token ≠ .closeArray → position.step token = startValue frames token

/-- Positions at which the name of a member may stand, behind some members. -/
def AwaitsName (position : Position) (members : List (String × Json)) (frames : List Frame) :
    Prop :=
  ∀ units, position.step (.text units) = startMember (some members) frames (.text units)

/-- Octets that are read as a value wherever one may stand. -/
def Reads (octets : Octets) (value : Json) : Prop :=
  ∀ ⦃position frames rest⦄, AwaitsValue position frames → FollowsValue rest →
    position.resume (octets ++ rest) = (Position.after value frames).resume rest

theorem reads_token (visible : Token.isBlank first = false)
    (scanned : ∀ rest, FollowsValue rest → Token.scan? first (octets ++ rest) = some (token, rest))
    (starts : ∀ frames, startValue frames token = some (.after value frames))
    (opens : token ≠ .closeArray) : Reads (first :: octets) value := by
  intro position frames rest awaits follows
  rw [List.cons_append, resume_token position visible (scanned rest follows), awaits token opens,
    starts frames, Option.bind_some]

theorem reads_null : Reads (print .null) .null := by
  have spelled : print .null = [0x6E, 0x75, 0x6C, 0x6C] := by decide +kernel
  rw [spelled]
  exact reads_token rfl (fun _ _ => rfl) (fun _ => rfl) (by decide)

theorem reads_bool (value : Bool) : Reads (print (.bool value)) (.bool value) := by
  cases value with
  | true =>
      have spelled : print (.bool true) = [0x74, 0x72, 0x75, 0x65] := by decide +kernel
      rw [spelled]
      exact reads_token rfl (fun _ _ => rfl) (fun _ => rfl) (by decide)
  | false =>
      have spelled : print (.bool false) = [0x66, 0x61, 0x6C, 0x73, 0x65] := by decide +kernel
      rw [spelled]
      exact reads_token rfl (fun _ _ => rfl) (fun _ => rfl) (by decide)

theorem reads_number {number : Number} (exact : number.IsExact) :
    Reads (print (.number number)) (.number number) := by
  obtain ⟨first, tail, numeral, spelled, visible, meant, scanned⟩ := exists_scan?_printNumber exact
  rw [print, spelled]
  refine reads_token visible scanned (fun frames => ?_) nofun
  rw [startValue, meant]
  rfl

theorem reads_text (text : String) : Reads (print (.text text)) (.text text) := by
  obtain ⟨units, meant, scanned⟩ := exists_scan?_printText text
  have closed (rest : Octets) (_ : FollowsValue rest) :
      Token.scan? 0x22 ((Octets.ofText text).flatMap escapeOctet ++ [0x22] ++ rest) =
        some (.text units, rest) := by
    rw [List.append_assoc]
    exact scanned rest
  refine reads_token rfl closed (fun frames => ?_) nofun
  rw [startValue, meant]
  rfl

theorem awaitsValue_atValue (frames : List Frame) : AwaitsValue (.atValue frames) frames :=
  fun _ _ => rfl

theorem awaitsValue_atValueOrEnd (frame : Frame) (frames : List Frame) :
    AwaitsValue (.atValueOrEnd (frame :: frames)) (frame :: frames) := by
  intro token opens
  cases token with
  | closeArray => exact absurd rfl opens
  | _ => rfl

theorem awaitsName_atName (members : List (String × Json)) (frames : List Frame) :
    AwaitsName (.atName (some members) frames) members frames :=
  fun _ => rfl

theorem awaitsName_atNameOrEnd (frames : List Frame) : AwaitsName (.atNameOrEnd frames) [] frames :=
  fun _ => rfl

/-- The items of an array are read one after the other, behind those read before. -/
theorem resume_items {items read : List Json} {item : Json}
    (each : ∀ other ∈ item :: items, Reads other.print other)
    (awaits : AwaitsValue position (.array read :: frames)) :
    position.resume (printItems (item :: items) ++ 0x5D :: rest) =
      (Position.after (.array (read.reverse ++ item :: items)) frames).resume rest := by
  have first := each item List.mem_cons_self
  -- The frame holds the items before in reverse, so the induction is for any such items.
  induction items generalizing item read position with
  | nil =>
      rw [printItems, first awaits (.closeArray rest), resume_token _ rfl rfl]
      simp [step, finishValue]
  | cons next items induction =>
      have others : ∀ other ∈ next :: items, Reads other.print other := fun other member =>
        each other (List.mem_cons_of_mem item member)
      rw [printItems, List.append_assoc, List.cons_append, first awaits (.comma _),
        resume_token _ rfl rfl]
      simp only [step, finishValue, Option.bind_some]
      rw [induction others (awaitsValue_atValue _) (others next List.mem_cons_self),
        List.reverse_cons, List.append_assoc, List.singleton_append]
      exact nofun

theorem reads_array {items : List Json} (each : ∀ item ∈ items, Reads item.print item) :
    Reads (print (.array items)) (.array items) := by
  intro position frames rest awaits follows
  rw [print, List.cons_append, List.append_assoc, resume_token _ rfl rfl,
    awaits .openArray nofun, startValue, Option.bind_some]
  cases items with
  | nil =>
      rw [printItems, List.nil_append, List.singleton_append, resume_token _ rfl rfl]
      rfl
  | cons item items => exact resume_items each (awaitsValue_atValueOrEnd _ _)

/-- The name of a member and the colon behind it. -/
theorem resume_name {read : List (String × Json)} (awaits : AwaitsName position read frames)
    (name : String) :
    position.resume (printText name ++ 0x3A :: rest) =
      (Position.atValue (.object (some read) (some name) :: frames)).resume rest := by
  obtain ⟨units, meant, scanned⟩ := exists_scan?_printText name
  rw [printText, List.cons_append, List.append_assoc, List.singleton_append,
    resume_token _ rfl (scanned _), awaits units, startMember, meant, Option.bind_some,
    resume_token _ rfl rfl]
  rfl

theorem resume_members {members read : List (String × Json)} {member : String × Json}
    (each : ∀ other ∈ member :: members, Reads other.2.print other.2)
    (awaits : AwaitsName position read frames) :
    position.resume (printMembers (member :: members) ++ 0x7D :: rest) =
      (Position.after (.object (read.reverse ++ member :: members)) frames).resume rest := by
  have first := each member List.mem_cons_self
  obtain ⟨name, value⟩ := member
  induction members generalizing name value read position with
  | nil =>
      rw [printMembers, List.append_assoc, List.cons_append, resume_name awaits,
        first (awaitsValue_atValue _) (.closeObject rest), resume_token _ rfl rfl]
      simp [step, finishValue, addMember, objectOf]
  | cons next members induction =>
      have others : ∀ other ∈ next :: members, Reads other.2.print other.2 :=
        fun other member => each other (List.mem_cons_of_mem _ member)
      rw [printMembers, List.append_assoc, List.cons_append, List.append_assoc, List.cons_append,
        resume_name awaits, first (awaitsValue_atValue _) (.comma _), resume_token _ rfl rfl]
      simp only [step, finishValue, addMember, Option.bind_some]
      rw [induction (awaitsName_atName _ _) next.1 next.2 others (others next List.mem_cons_self),
        List.reverse_cons, List.append_assoc, List.singleton_append]
      exact nofun

theorem reads_object {members : List (String × Json)}
    (each : ∀ member ∈ members, Reads member.2.print member.2) :
    Reads (print (.object members)) (.object members) := by
  intro position frames rest awaits follows
  rw [print, List.cons_append, List.append_assoc, resume_token _ rfl rfl,
    awaits .openObject nofun, startValue, Option.bind_some]
  cases members with
  | nil =>
      rw [printMembers, List.nil_append, List.singleton_append, resume_token _ rfl rfl]
      rfl
  | cons member members => exact resume_members each (awaitsName_atNameOrEnd _)

/-- The print of a value is read as that value, wherever a value may stand. -/
theorem reads_print {value : Json} (exact : value.IsExact) : Reads value.print value := by
  induction exact with
  | null => exact reads_null
  | bool value => exact reads_bool value
  | number exact => exact reads_number exact
  | text text => exact reads_text text
  | array _ induction => exact reads_array induction
  | object _ induction => exact reads_object induction

end Position

theorem ofOctets?_print {value : Json} (exact : value.IsExact) :
    ofOctets? value.print = some value := by
  have all := Position.reads_print exact (Position.awaitsValue_atValue []) .nothing
  rw [List.append_nil, Position.resume_nil] at all
  obtain ⟨tokens, listed, built⟩ := Option.bind_eq_some_iff.mp all
  rw [ofOctets?, listed, Option.bind_some, ofTokens?, built]

theorem escapeOctet_of_low {octet : UInt8} (low : octet < 0x80) :
    ∀ other ∈ escapeOctet octet, other < 0x80 := by
  obtain ⟨⟨word⟩⟩ := octet
  revert word
  decide +kernel

theorem escapeOctet_of_high {octet : UInt8} (high : ¬ octet < 0x80) :
    escapeOctet octet = [octet] := by
  obtain ⟨⟨word⟩⟩ := octet
  revert word
  decide +kernel

open Octets (IsText)

theorem flatMap_escapeOctet_of_high {octets : Octets} (high : ∀ octet ∈ octets, ¬ octet < 0x80) :
    octets.flatMap escapeOctet = octets := by
  induction octets with
  | nil => rfl
  | cons octet others induction =>
      rw [List.flatMap_cons, escapeOctet_of_high (high octet List.mem_cons_self),
        induction fun other member => high other (List.mem_cons_of_mem octet member)]
      rfl

theorem isText_escaped_char (c : Char) :
    IsText ((String.utf8EncodeChar c).flatMap escapeOctet) := by
  by_cases ascii : c.toNat < 0x80
  · have single : String.utf8EncodeChar c = [UInt8.ofNat c.toNat] :=
      if_pos (Nat.le_of_lt_succ ascii)
    have low : UInt8.ofNat c.toNat < 0x80 := by
      rw [UInt8.lt_iff_toNat_lt, UInt8.toNat_ofNat_of_lt' (ascii.trans (by decide))]
      exact ascii
    rw [single, List.flatMap_singleton]
    exact Octets.isText_of_low (escapeOctet_of_low low)
  · rw [flatMap_escapeOctet_of_high fun _ => Octets.not_low_of_mem_utf8EncodeChar ascii]
    exact ⟨_, Octets.ofText_singleton c⟩

theorem isText_escaped (text : String) : IsText ((Octets.ofText text).flatMap escapeOctet) := by
  rw [Octets.ofText_eq_flatMap, List.flatMap_assoc]
  induction text.toList with
  | nil => exact Octets.isText_of_low (by simp)
  | cons c others induction => exact (isText_escaped_char c).append induction

/-- A punctuation mark is text. -/
theorem isText_mark {octet : UInt8} (low : octet < 0x80) : IsText [octet] :=
  ⟨_, Octets.ofText_of_low low⟩

theorem isText_marked {opening closing : UInt8} {octets : Octets} (openingLow : opening < 0x80)
    (inside : IsText octets) (closingLow : closing < 0x80) :
    IsText (opening :: (octets ++ [closing])) :=
  (isText_mark openingLow).append (inside.append (isText_mark closingLow))

theorem isText_printText (text : String) : IsText (printText text) :=
  isText_marked (by decide) (isText_escaped text) (by decide)

mutual

theorem isText_print : ∀ value : Json, IsText value.print
  | .null | .unreadable => ⟨_, rfl⟩
  | .bool true | .bool false => ⟨_, rfl⟩
  | .number (.integer _) | .number (.double _) | .number (.single _) => ⟨_, rfl⟩
  | .text value => isText_printText value
  | .array items => isText_marked (by decide) (isText_printItems items) (by decide)
  | .object members => isText_marked (by decide) (isText_printMembers members) (by decide)

theorem isText_printItems : ∀ items : List Json, IsText (printItems items)
  | [] => Octets.isText_of_low (by simp [printItems])
  | [item] => isText_print item
  | item :: next :: items =>
    (isText_print item).append
      ((isText_mark (by decide)).append (isText_printItems (next :: items)))

theorem isText_printMembers : ∀ members : List (String × Json), IsText (printMembers members)
  | [] => Octets.isText_of_low (by simp [printMembers])
  | [(name, value)] =>
    (isText_printText name).append ((isText_mark (by decide)).append (isText_print value))
  | (name, value) :: next :: members =>
    (isText_printText name).append ((isText_mark (by decide)).append ((isText_print value).append
      ((isText_mark (by decide)).append (isText_printMembers (next :: members)))))

end

theorem ofText_render (value : Json) : Octets.ofText value.render = value.print := by
  obtain ⟨text, printed⟩ := isText_print value
  rw [render, ← printed, Octets.toText?_ofText, Option.getD_some]

/-- The text of a value is read as that value. -/
theorem ofText?_render {value : Json} (exact : value.IsExact) :
    ofText? value.render = some value := by
  rw [ofText?, ofText_render, ofOctets?_print exact]

end LorawanGateway.Json

import LorawanGateway.Datagram.ServerDatagram
import LorawanGateway.Proofs.Json.PrintedValue

/-!
The body of an acknowledgement as it stands in the datagram. There are three kinds of it, for the
three kinds of outcome, and no two outcomes are told by the same text. It always fits its datagram.
-/

namespace LorawanGateway

namespace TxError

/-- The codes by which a server knows the causes of a rejection. -/
def codes : List (TxError × String) :=
  [(.tooLate, "TOO_LATE"), (.tooEarly, "TOO_EARLY"), (.full, "FULL"), (.empty, "EMPTY"),
    (.packetCollision, "COLLISION_PACKET"), (.beaconCollision, "COLLISION_BEACON"),
    (.frequency, "TX_FREQ"), (.power, "TX_POWER"), (.gpsUnlocked, "GPS_UNLOCKED"),
    (.invalid, "INVALID")]

theorem mem_codes_iff {cause : TxError} {code : String} :
    (cause, code) ∈ codes ↔ code = cause.name := by
  cases cause <;> simp [codes, name]

theorem ofName?_name (cause : TxError) : ofName? cause.name = some cause := by
  cases cause <;> decide

theorem name_inj {first second : TxError} : first.name = second.name ↔ first = second := by
  refine ⟨fun same => ?_, congrArg name⟩
  have read := congrArg ofName? same
  rwa [ofName?_name, ofName?_name, Option.some.injEq] at read

theorem name_ne_none (cause : TxError) : cause.name ≠ "NONE" := by
  cases cause <;> decide

end TxError

namespace TxAckStatus

/-- What a body tells: that there is no error, the code of the cause of a rejection, or, as a
warning, the power that is used instead of the one asked for. -/
inductive Tells : TxAckStatus → Octets → Prop where
  | accepted : Tells .accepted (Octets.ofText "\x7b\"txpk_ack\":\x7b\"error\":\"NONE\"\x7d\x7d")
  | rejected {cause : TxError} {code : String} (known : (cause, code) ∈ TxError.codes) :
      Tells (.rejected cause)
        (Octets.ofText ("\x7b\"txpk_ack\":\x7b\"error\":\"" ++ code ++ "\"\x7d\x7d"))
  | powerAdjusted (power : Int8) :
      Tells (.powerAdjusted power)
        (Octets.ofText ("\x7b\"txpk_ack\":\x7b\"value\":" ++ toString power.toInt ++
          ",\"warn\":\"TX_POWER\"\x7d\x7d"))

variable {status told : TxAckStatus} {body : Octets}

theorem print_accepted : (toJson .accepted).print =
    Octets.ofText "\x7b\"txpk_ack\":\x7b\"error\":\"NONE\"\x7d\x7d" := by
  decide +kernel

theorem print_rejected (cause : TxError) : (toJson (.rejected cause)).print =
    Octets.ofText ("\x7b\"txpk_ack\":\x7b\"error\":\"" ++ cause.name ++ "\"\x7d\x7d") := by
  cases cause <;> decide +kernel

theorem print_powerAdjusted (power : Int8) : (toJson (.powerAdjusted power)).print =
    Octets.ofText ("\x7b\"txpk_ack\":\x7b\"value\":" ++ toString power.toInt ++
      ",\"warn\":\"TX_POWER\"\x7d\x7d") := by
  have front : Octets.ofText "\x7b\"txpk_ack\":\x7b\"value\":" =
      0x7B :: (Json.printText "txpk_ack" ++
        0x3A :: 0x7B :: (Json.printText "value" ++ [0x3A])) := by
    decide +kernel
  have back : Octets.ofText ",\"warn\":\"TX_POWER\"\x7d\x7d" =
      0x2C :: (Json.printText "warn" ++ 0x3A :: (Json.printText "TX_POWER" ++ [0x7D, 0x7D])) := by
    decide +kernel
  rw [Octets.ofText_append, Octets.ofText_append, front, back]
  simp [toJson, members, Json.integer, Json.print, Json.printMembers, Json.printNumber]

theorem tells_print (status : TxAckStatus) : status.Tells status.toJson.print := by
  cases status with
  | accepted =>
      rw [print_accepted]
      exact .accepted
  | rejected cause =>
      rw [print_rejected]
      exact .rejected (TxError.mem_codes_iff.mpr rfl)
  | powerAdjusted power =>
      rw [print_powerAdjusted]
      exact .powerAdjusted power

theorem Tells.body_eq (tells : status.Tells body) : body = status.toJson.print := by
  cases tells with
  | accepted => exact print_accepted.symm
  | rejected known =>
      rw [print_rejected, TxError.mem_codes_iff.mp known]
  | powerAdjusted power => exact (print_powerAdjusted power).symm

theorem isExact_toJson (status : TxAckStatus) : status.toJson.IsExact := by
  have members : ∀ member ∈ status.members, member.2.IsExact := by
    cases status with
    | accepted => simp [members, Json.IsExact.text]
    | rejected cause => simp [members, Json.IsExact.text]
    | powerAdjusted power =>
        have low := power.le_toInt
        have high := power.toInt_lt
        have within : (Number.integer power.toInt).IsExact := ⟨by omega, by omega⟩
        simp [members, Json.IsExact.text, Json.integer, Json.IsExact.number within]
  exact .object (List.forall_mem_singleton.mpr (.object members))

theorem toJson_injective (same : status.toJson = told.toJson) : status = told := by
  have listed : status.members = told.members := by simpa [toJson] using same
  cases status with
  | accepted =>
      cases told with
      | accepted => rfl
      | rejected cause => simp [members, (TxError.name_ne_none cause).symm] at listed
      | powerAdjusted power => simp [members] at listed
  | rejected cause =>
      cases told with
      | accepted => simp [members, TxError.name_ne_none cause] at listed
      | rejected other =>
          have named : cause.name = other.name := by simpa [members] using listed
          rw [TxError.name_inj.mp named]
      | powerAdjusted power => simp [members] at listed
  | powerAdjusted power =>
      cases told with
      | accepted => simp [members] at listed
      | rejected cause => simp [members] at listed
      | powerAdjusted other =>
          have number : power.toInt = other.toInt := by
            simpa [members, Json.integer] using listed
          rw [Int8.toInt_inj.mp number]

/-- What a body tells is determined by its text, which reads as the object that was printed. -/
theorem tells_print_iff : told.Tells status.toJson.print ↔ told = status := by
  refine ⟨fun tells => toJson_injective ?_, fun same => same ▸ tells_print told⟩
  have read := congrArg Json.ofOctets? tells.body_eq
  rw [Json.ofOctets?_print status.isExact_toJson, Json.ofOctets?_print told.isExact_toJson] at read
  exact (Option.some.inj read).symm

theorem length_print_le (status : TxAckStatus) : status.toJson.print.length ≤ 100 := by
  cases status with
  | accepted => decide +kernel
  | rejected cause => cases cause <;> decide +kernel
  | powerAdjusted power =>
      -- A power is one of 256 values, and its text is never long.
      obtain ⟨⟨⟨word⟩⟩⟩ := power
      revert word
      decide +kernel

end TxAckStatus

/-- An acknowledgement always fits its datagram. -/
theorem Datagram.txAck_eq (token : Token) (gateway : Eui64) (status : TxAckStatus) :
    txAck token gateway status =
      .ok (header token .txAck (some gateway) ++ status.toJson.print) := by
  have headed : (header token .txAck (some gateway)).length = 12 := by
    simp [header, Token.octets]
  have short := status.length_print_le
  have fits : ¬ 1000 < 12 + status.toJson.print.length := by omega
  simp [txAck, DatagramBuffer.withHeader, DatagramBuffer.append, DatagramBuffer.empty,
    receiveCapacity, headed, fits, bind, Except.bind, pure, Except.pure]

end LorawanGateway

import Mathlib.Data.List.Basic
import LorawanGateway.Datagram.ServerDatagram
import LorawanGateway.Proofs.Octets
import LorawanGateway.Proofs.Datagram.PushData
import LorawanGateway.Proofs.Json.Fields

/-!
What is read from the server, for every run of octets. The first four octets decide about it; only
of a request is the body read, as a record whose one field is the request. Headers are read as they
were written, and what the gateway itself writes is refused.
-/

namespace LorawanGateway

namespace DatagramKind

theorem ofId_id (kind : DatagramKind) : ofId kind.id = .ok kind := by
  cases kind <;> rfl

theorem ofId_of_ne {octet : UInt8} (unknown : ∀ kind : DatagramKind, kind.id ≠ octet) :
    ofId octet = .error (.unknownKind octet) := by
  have absent : (all.find? fun kind => kind.id == octet) = none :=
    List.find?_eq_none.mpr fun kind _ same => unknown kind (eq_of_beq same)
  rw [ofId, absent]

end DatagramKind

theorem Token.exists_octets (token : Token) : ∃ high low, token.octets = [high, low] ∧
    token.word.toNat = Octets.toNatBE [high, low] := by
  obtain ⟨high, low, written⟩ := List.length_eq_two.mp (Octets.length_ofNatBE 2 token.word.toNat)
  refine ⟨high, low, written, ?_⟩
  rw [← written, Octets.toNatBE_ofNatBE, Nat.mod_eq_of_lt token.word.toNat_lt]

theorem Token.octets_ofNat (high low : UInt8) :
    Token.octets ⟨UInt16.ofNat (Octets.toNatBE [high, low])⟩ = [high, low] := by
  have small : Octets.toNatBE [high, low] < Nat.pow 256 2 := Octets.toNatLE_lt [low, high]
  rw [Token.octets, UInt16.toNat_ofNat_of_lt' small, Octets.toNatBE, Octets.ofNatBE]
  exact congrArg List.reverse (Octets.ofNatLE_toNatLE [low, high])

namespace Datagram

variable {token : Token} {kind : DatagramKind} {body : Octets}

theorem length_shortHeader : (header token kind none).length = shortHeaderLength := by
  simp [header, Token.octets, shortHeaderLength]

theorem take_header : (header token kind none ++ body).take 4 = header token kind none :=
  List.take_left' length_shortHeader

/-- The identifier of a gateway only adds to the short header. -/
theorem exists_header_append (token : Token) (kind : DatagramKind) (gateway : Option Eui64) :
    ∃ rest, header token kind gateway = header token kind none ++ rest :=
  ⟨gateway.elim [] fun gateway => Octets.ofNatBE 8 gateway.word.toNat, by simp [header]⟩

end Datagram

namespace ServerDatagram

/-- What the body of a request holds: a record that may lack its field `txpk` or give `null` for
it, or the request as it can be kept. A body of any other form is malformed. -/
inductive RequestBody : Octets → Option Json → Prop
  | missing (text : Json.ofOctets? body = some value) (absent : Json.Supplies "txpk" value none) :
      RequestBody body none
  | null (text : Json.ofOctets? body = some value)
      (supplied : Json.Supplies "txpk" value (some .null)) : RequestBody body none
  | request (text : Json.ofOctets? body = some value)
      (supplied : Json.Supplies "txpk" value (some given)) (present : given ≠ .null)
      (kept : given.settle? (Json.depthLimit - 1) = some txpk) : RequestBody body (some txpk)

/-- What a run of octets is read as, told from the header it starts with and what a body holds. -/
inductive Reads : Octets → Except DatagramError ServerDatagram → Prop
  | tooShort (short : octets.length < Datagram.shortHeaderLength) :
      Reads octets (.error (.tooShort octets.length))
  | badVersion (other : version ≠ Datagram.version) :
      Reads (version :: high :: low :: octet :: body) (.error (.badVersion version))
  | unknownKind (unknown : ∀ kind : DatagramKind, kind.id ≠ octet) :
      Reads (Datagram.version :: high :: low :: octet :: body) (.error (.unknownKind octet))
  | unexpected (token : Token) (own : kind ∈ [.pushData, .pullData, .txAck]) :
      Reads (Datagram.header token kind none ++ body) (.error (.unexpected kind))
  | pushAck (token : Token) :
      Reads (Datagram.header token .pushAck none ++ body) (.ok (.pushAck token))
  | pullAck (token : Token) :
      Reads (Datagram.header token .pullAck none ++ body) (.ok (.pullAck token))
  | malformed (token : Token) (malformed : ∀ held, ¬ RequestBody body held) :
      Reads (Datagram.header token .pullResp none ++ body) (.error .malformedJson)
  | missingTxpk (token : Token) (decoded : RequestBody body none) :
      Reads (Datagram.header token .pullResp none ++ body) (.error .missingTxpk)
  | pullResp (token : Token) (decoded : RequestBody body (some txpk)) :
      Reads (Datagram.header token .pullResp none ++ body) (.ok (.pullResp token txpk))

/-- The kind of a datagram that was accepted. -/
def kind : ServerDatagram → DatagramKind
  | .pushAck _ => .pushAck
  | .pullAck _ => .pullAck
  | .pullResp _ _ => .pullResp

variable {token : Token} {kind : DatagramKind} {octets body : Octets} {held : Option Json}
  {outcome : Except DatagramError ServerDatagram}

theorem requestBody_iff : RequestBody body held ↔ ∃ value, Json.ofOctets? body = some value ∧
    ((Json.record? ["txpk"] value).bind fun record =>
      record.optional "txpk" (Json.settle? (Json.depthLimit - 1))) = some held := by
  constructor
  · intro decoded
    cases decoded with
    | @missing value text absent => exact ⟨value, text, absent.optional _⟩
    | @null value text supplied => exact ⟨value, text, supplied.optional _⟩
    | @request value _ given text supplied present kept =>
        refine ⟨value, text, ?_⟩
        rw [supplied.optional, Option.elim_some, Json.Record.nullable_of_ne present, kept]
        rfl
  · rintro ⟨value, text, read⟩
    obtain ⟨supply, supplied, decoded⟩ := Json.optional_eq_some_iff.mp read
    cases supply with
    | none =>
        cases decoded
        exact .missing text supplied
    | some given =>
        by_cases present : given = .null
        · subst present
          cases decoded
          exact .null text supplied
        · rw [Option.elim_some, Json.Record.nullable_of_ne present] at decoded
          obtain ⟨txpk, kept, rfl⟩ := Option.map_eq_some_iff.mp decoded
          exact .request text supplied present kept

theorem RequestBody.read (decoded : RequestBody body held) :
    readRequest body = held.elim (.error .missingTxpk) .ok := by
  obtain ⟨value, text, read⟩ := requestBody_iff.mp decoded
  rw [readRequest, text]
  dsimp only
  rw [read]
  cases held <;> rfl

theorem readRequest_of_malformed (malformed : ∀ held, ¬ RequestBody body held) :
    readRequest body = .error .malformedJson := by
  rw [readRequest]
  cases text : Json.ofOctets? body with
  | none => rfl
  | some value =>
      dsimp only
      cases read : (Json.record? ["txpk"] value).bind fun record =>
        record.optional "txpk" (Json.settle? (Json.depthLimit - 1)) with
      | none => rfl
      | some held => exact absurd (requestBody_iff.mpr ⟨value, text, read⟩) (malformed held)

/-- A header written with any kind is read with its own token. -/
theorem ofOctets_header (token : Token) (kind : DatagramKind) (body : Octets) :
    ofOctets (Datagram.header token kind none ++ body) =
      match kind with
      | .pushAck => .ok (.pushAck token)
      | .pullAck => .ok (.pullAck token)
      | .pullResp => (readRequest body).map (.pullResp token)
      | kind => .error (.unexpected kind) := by
  obtain ⟨high, low, written, word⟩ := token.exists_octets
  have header : Datagram.header token kind none ++ body =
      Datagram.version :: high :: low :: kind.id :: body := by
    rw [Datagram.header, written]
    rfl
  rw [header, ofOctets, if_neg (not_not_intro rfl)]
  dsimp only
  rw [← word, UInt16.ofNat_toNat, DatagramKind.ofId_id]
  cases kind <;> rfl

theorem Reads.ofOctets_eq (reads : Reads octets outcome) : ofOctets octets = outcome := by
  cases reads with
  | tooShort short =>
      match octets with
      | [] | [_] | [_, _] | [_, _, _] => rfl
      | _ :: _ :: _ :: _ :: _ => simp [Datagram.shortHeaderLength] at short; omega
  | badVersion other => rw [ofOctets, if_pos other]
  | unknownKind unknown =>
      rw [ofOctets, if_neg (not_not_intro rfl), DatagramKind.ofId_of_ne unknown]
  | @unexpected kind body token own =>
      rw [ofOctets_header]
      cases kind <;> simp at own ⊢
  | pushAck | pullAck => rw [ofOctets_header]
  | malformed token malformed =>
      rw [ofOctets_header]
      dsimp only
      rw [readRequest_of_malformed malformed]
      rfl
  | missingTxpk token decoded | pullResp token decoded =>
      rw [ofOctets_header]
      dsimp only
      rw [decoded.read]
      rfl

/-- Four octets with the version and the number of a kind are a header. -/
theorem exists_header (high low : UInt8) (kind : DatagramKind) : ∃ token : Token,
    Datagram.header token kind none = [Datagram.version, high, low, kind.id] := by
  refine ⟨⟨UInt16.ofNat (Octets.toNatBE [high, low])⟩, ?_⟩
  rw [Datagram.header, Token.octets_ofNat]
  rfl

theorem exists_reads_header (token : Token) (kind : DatagramKind) (body : Octets) :
    ∃ outcome, Reads (Datagram.header token kind none ++ body) outcome := by
  cases kind with
  | pushAck => exact ⟨_, .pushAck token⟩
  | pullAck => exact ⟨_, .pullAck token⟩
  | pullResp =>
      by_cases decoded : ∃ held, RequestBody body held
      · obtain ⟨held, decoded⟩ := decoded
        cases held with
        | none => exact ⟨_, .missingTxpk token decoded⟩
        | some txpk => exact ⟨_, .pullResp token decoded⟩
      · exact ⟨_, .malformed token (not_exists.mp decoded)⟩
  | pushData | pullData | txAck => exact ⟨_, .unexpected token (by decide)⟩

theorem exists_reads (octets : Octets) : ∃ outcome, Reads octets outcome := by
  match octets with
  | [] | [_] | [_, _] | [_, _, _] => exact ⟨_, .tooShort (by simp [Datagram.shortHeaderLength])⟩
  | version :: high :: low :: octet :: body =>
      by_cases ours : version = Datagram.version
      · by_cases known : ∃ kind : DatagramKind, kind.id = octet
        · obtain ⟨kind, rfl⟩ := known
          obtain ⟨token, header⟩ := exists_header high low kind
          have reads := exists_reads_header token kind body
          rw [header] at reads
          exact ours ▸ reads
        · exact ours ▸ ⟨_, .unknownKind (not_exists.mp known)⟩
      · exact ⟨_, .badVersion ours⟩

theorem ofOctets_eq_iff : ofOctets octets = outcome ↔ Reads octets outcome := by
  constructor
  · rintro rfl
    obtain ⟨outcome, reads⟩ := exists_reads octets
    exact reads.ofOctets_eq ▸ reads
  · exact Reads.ofOctets_eq

theorem header_of_ofOctets {datagram : ServerDatagram} (read : ofOctets octets = .ok datagram) :
    ∃ body, octets = Datagram.header datagram.token datagram.kind none ++ body := by
  cases ofOctets_eq_iff.mp read with
  | pushAck | pullAck | pullResp => exact ⟨_, rfl⟩

theorem readRequest_eq_ok_iff {txpk : Json} :
    readRequest body = .ok txpk ↔ RequestBody body (some txpk) := by
  refine ⟨fun read => ?_, RequestBody.read⟩
  by_cases decoded : ∃ held, RequestBody body held
  · obtain ⟨held, decoded⟩ := decoded
    rw [decoded.read] at read
    cases held with
    | none => cases read
    | some given =>
        cases read
        exact decoded
  · rw [readRequest_of_malformed (not_exists.mp decoded)] at read
    cases read

theorem ofOctets_pullResp_iff {datagram : ServerDatagram} :
    ofOctets (Datagram.header token .pullResp none ++ body) = .ok datagram ↔
      ∃ txpk, RequestBody body (some txpk) ∧ datagram = .pullResp token txpk := by
  rw [ofOctets_header]
  simp only [← readRequest_eq_ok_iff]
  cases readRequest body with
  | error fault => simp [Except.map]
  | ok txpk => simp [Except.map, eq_comm]

/-- What the first four octets leave open is the body of a request. -/
theorem ofOctets_eq_of_take {other : Octets} (same : octets.take 4 = other.take 4)
    (noRequest : ∀ token, octets.take 4 ≠ Datagram.header token .pullResp none) :
    ofOctets octets = ofOctets other := by
  obtain ⟨outcome, reads⟩ := exists_reads octets
  have rest : other = octets.take 4 ++ other.drop 4 := by rw [same, List.take_append_drop]
  rw [reads.ofOctets_eq, eq_comm, ofOctets_eq_iff]
  cases reads with
  | tooShort short =>
      change octets.length < 4 at short
      have lengths := congrArg List.length same
      rw [List.length_take, List.length_take] at lengths
      have equal : octets = other := by
        rwa [List.take_of_length_le (by omega), List.take_of_length_le (by omega)] at same
      exact equal ▸ .tooShort short
  | badVersion different =>
      rw [rest]
      exact .badVersion different
  | unknownKind unknown =>
      rw [rest]
      exact .unknownKind unknown
  | unexpected token own =>
      rw [rest, Datagram.take_header]
      exact .unexpected token own
  | pushAck token =>
      rw [rest, Datagram.take_header]
      exact .pushAck token
  | pullAck token =>
      rw [rest, Datagram.take_header]
      exact .pullAck token
  | malformed token | missingTxpk token | pullResp token =>
      exact absurd Datagram.take_header (noRequest token)

/-- A header that fits is written, and is the short one with more octets behind it. -/
theorem exists_withHeader {capacity : Nat} {gateway : Option Eui64} (tail : Octets)
    (room : (Datagram.header token kind gateway).length ≤ capacity) :
    ∃ buffer body, DatagramBuffer.withHeader capacity token kind gateway = .ok buffer ∧
      buffer.octets ++ tail = Datagram.header token kind none ++ body := by
  have fits : (DatagramBuffer.empty capacity).octets.length +
      (Datagram.header token kind gateway).length ≤ capacity := by
    rwa [DatagramBuffer.empty, List.length_nil, Nat.zero_add]
  obtain ⟨rest, longer⟩ := Datagram.exists_header_append token kind gateway
  refine ⟨_, rest ++ tail, DatagramBuffer.append_of_le fits, ?_⟩
  rw [DatagramBuffer.empty, List.nil_append, longer, List.append_assoc]

/-- Every run of octets is read in exactly one way. Acknowledgements are read with the token they
were written with, whatever follows; what the gateway writes is refused by its kind; a request is
read where its body holds one. What was accepted starts with a header of its kind and token, and
only the body of a request counts beyond the first four octets. -/
theorem server_datagrams_read_exactly :
    (∀ (capacity : Nat) (token : Token) (kind : DatagramKind) (gateway : Option Eui64)
      (tail : Octets), (Datagram.header token kind gateway).length ≤ capacity →
      ∃ buffer, DatagramBuffer.withHeader capacity token kind gateway = .ok buffer ∧
        let read := ofOctets (buffer.octets ++ tail)
        (kind = .pushAck → read = .ok (.pushAck token)) ∧
        (kind = .pullAck → read = .ok (.pullAck token)) ∧
        (kind ∈ [.pushData, .pullData, .txAck] → read = .error (.unexpected kind))) ∧
    (∀ (token : Token) (body : Octets) (datagram : ServerDatagram),
      ofOctets (Datagram.header token .pullResp none ++ body) = .ok datagram ↔
        ∃ txpk, RequestBody body (some txpk) ∧ datagram = .pullResp token txpk) ∧
    (∀ (octets : Octets) (datagram : ServerDatagram), ofOctets octets = .ok datagram →
      datagram.kind ∈ [.pushAck, .pullAck, .pullResp] ∧
      ∃ high low body, octets = Datagram.version :: high :: low :: datagram.kind.id :: body ∧
        datagram.token.word.toNat = Octets.toNatBE [high, low]) ∧
    (∀ octets other : Octets, octets.take 4 = other.take 4 →
      (∀ token, octets.take 4 ≠ Datagram.header token .pullResp none) →
      ofOctets octets = ofOctets other) ∧
    ∀ octets outcome, ofOctets octets = outcome ↔ Reads octets outcome := by
  refine ⟨?_, fun _ _ _ => ofOctets_pullResp_iff, ?_, fun _ _ => ofOctets_eq_of_take,
    fun _ _ => ofOctets_eq_iff⟩
  · intro capacity token kind gateway tail room
    obtain ⟨buffer, body, written, whole⟩ := exists_withHeader tail room
    refine ⟨buffer, written, ?_⟩
    dsimp only
    rw [whole, ofOctets_header]
    cases kind <;> simp
  · intro octets datagram read
    obtain ⟨body, rfl⟩ := header_of_ofOctets read
    obtain ⟨high, low, written, word⟩ := datagram.token.exists_octets
    refine ⟨by cases datagram <;> simp [kind], high, low, body, ?_, word⟩
    rw [Datagram.header, written]
    rfl

/-- An acknowledgement with an octet behind it, and the smallest request. -/
theorem late_octet_and_empty_request_read :
    let answer : Octets := [2, 0x12, 0x34, 4, 0xFF]
    let body := Json.print (.object [("txpk", .object [])])
    (∃ buffer, DatagramBuffer.withHeader 4 ⟨0x1234⟩ .pullAck none = .ok buffer ∧
      ofOctets (buffer.octets ++ [0xFF]) = .ok (.pullAck ⟨0x1234⟩)) ∧
    (∃ high low body, answer = Datagram.version :: high :: low :: 4 :: body ∧
      0x1234 = Octets.toNatBE [high, low]) ∧
    ofOctets answer = ofOctets [2, 0x12, 0x34, 4] ∧
    ofOctets (Datagram.header ⟨7⟩ .pullResp none ++ body) = .ok (.pullResp ⟨7⟩ (.object [])) := by
  intro answer body
  obtain ⟨headers, requests, accepted, undecided, -⟩ := server_datagrams_read_exactly
  refine ⟨?_, ?_, ?_, ?_⟩
  · obtain ⟨buffer, written, -, read, -⟩ :=
      headers 4 ⟨0x1234⟩ .pullAck none [0xFF] (by decide)
    exact ⟨buffer, written, read rfl⟩
  · exact (accepted answer (.pullAck ⟨0x1234⟩) rfl).2
  · refine undecided answer [2, 0x12, 0x34, 4] rfl fun token same => ?_
    obtain ⟨high, low, written, -⟩ := token.exists_octets
    simp [answer, Datagram.header, written, DatagramKind.id] at same
  · have exact : Json.IsExact (.object [("txpk", .object [])]) :=
      .object (List.forall_mem_singleton.mpr (.object (List.forall_mem_nil _)))
    have supplied : Json.Supplies "txpk" (.object ([] ++ ("txpk", .object []) :: []))
      (some (.object [])) := .member (List.forall_mem_nil _)
    refine (requests ⟨7⟩ body _).mpr ⟨_, ?_, rfl⟩
    exact .request (Json.ofOctets?_print exact) supplied (by simp) rfl

end ServerDatagram

end LorawanGateway

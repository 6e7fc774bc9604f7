import XdpExperiment.EndToEnd
import XdpExperiment.FrameAccesses

/-!
# Where ports and payload come from

The log of a run tells which bytes of the frame become the ports and the payload of a record. The
program places them by the header-length field and the protocol alone: it neither rejects a length
below that of the fixed header nor looks at the fragment offset.
-/

namespace XdpExperiment

open Bytes

/-! ## Bytes that are reported -/

/-- Offsets of the bytes that become ports. -/
def Access.portBytes : Access → List Nat
  | .header .source offset size => List.range' offset size
  | .header .dest offset size => List.range' offset size
  | _ => []

/-- Offsets of the bytes that become payload. -/
def Access.payloadBytes : Access → List Nat
  | .loadBytes offset length => List.range' offset.toNat length.toNat
  | _ => []

def portBytes (log : List Access) : List Nat := log.flatMap Access.portBytes

def payloadBytes (log : List Access) : List Nat := log.flatMap Access.payloadBytes

theorem portBytes_append (log log' : List Access) :
    portBytes (log ++ log') = portBytes log ++ portBytes log' := List.flatMap_append

theorem payloadBytes_append (log log' : List Access) :
    payloadBytes (log ++ log') = payloadBytes log ++ payloadBytes log' := List.flatMap_append

/-- A run submits the record after the accesses of the log. -/
def Submits (host : Endian) (frame : Frame) (reserved : Option XdpPacket) (record : XdpPacket)
    (log : List Access) : Prop :=
  ∃ capture, xdpCapturePacketLogged host frame reserved = .ok (capture, log) ∧
    record ∈ capture.submitted

/-- What a record reports is what the run has read. -/
structure Reports (host : Endian) (frame : Frame) (record : XdpPacket) (log : List Access) :
    Prop where
  ports : portBytes log = [] ∧ record.sourcePort = 0 ∧ record.destinationPort = 0 ∨
    ∃ start, portBytes log = List.range' start 4 ∧
      record.sourcePort = load16 host #v[frame.byte start, frame.byte (start + 1)] ∧
      record.destinationPort = load16 host #v[frame.byte (start + 2), frame.byte (start + 3)]
  payload : record.payloadBytes.toList.take record.payloadByteCount.toNat =
    (payloadBytes log).map frame.byte

namespace Frame

variable {frame : Frame} (captured : frame.Captured) (slot : XdpPacket)
include captured

theorem accesses_captured :
    frame.accesses (some slot) =
      [.header .hProto 12 2, .header .ihl 14 1, .header .protocol 23 1] ++ frame.portAccesses ++
        frame.fillAccesses := by
  have fits := captured.headers
  have ipv4 := captured.ipv4
  have known : ¬ (frame.size < 34 ∨ ¬ (frame.byte 12 = 0x08 ∧ frame.byte 13 = 0x00)) := by
    rintro (short | other)
    · omega
    · exact other ipv4
  rw [accesses, parseAccesses, if_neg (by omega), if_neg known, if_pos captured,
    if_pos ⟨captured, Option.some_ne_none slot⟩]

theorem portBytes_accesses :
    portBytes (frame.accesses (some slot)) =
      if frame.protocol = 6 ∨ frame.protocol = 17 then List.range' frame.transportOffset 4
      else [] := by
  have filled : portBytes frame.fillAccesses = [] := by
    rw [fillAccesses, payloadAccesses]
    split <;> rfl
  rw [accesses_captured captured, portBytes_append, portBytes_append, filled, portAccesses]
  split <;> rfl

theorem payloadBytes_accesses :
    payloadBytes (frame.accesses (some slot)) =
      List.range' frame.payloadOffset frame.payloadCount := by
  have parsed : payloadBytes frame.portAccesses = [] := by
    rw [portAccesses]
    split <;> rfl
  have copied : payloadBytes frame.payloadAccesses =
      List.range' frame.payloadOffset frame.payloadCount := by
    rw [payloadAccesses]
    split
    · change List.range' (UInt32.ofInt _).toNat (UInt32.ofNat _).toNat ++ [] = _
      rw [toNat_payloadOffset, toNat_payloadCount, List.append_nil]
    · have empty : frame.payloadCount = 0 := by omega
      rw [empty]
      rfl
  rw [accesses_captured captured, payloadBytes_append, payloadBytes_append, parsed, fillAccesses,
    payloadBytes_append, copied]
  rfl

end Frame

theorem Submits.outcome {host : Endian} {frame : Frame} {reserved : Option XdpPacket}
    {record : XdpPacket} {log : List Access} (submits : Submits host frame reserved record log) :
    frame.Captured ∧ ∃ slot, record = frame.record host slot ∧
      log = frame.accesses (some slot) := by
  obtain ⟨capture, run, member⟩ := submits
  rw [xdpCapturePacketLogged_eq] at run
  cases run
  by_cases captured : frame.Captured
  · cases reserved with
    | none => simp at member
    | some slot =>
        refine ⟨captured, slot, ?_, rfl⟩
        simpa [captured] using member
  · simp [captured] at member

theorem submits_of_captured (host : Endian) {frame : Frame} (captured : frame.Captured)
    (slot : XdpPacket) :
    Submits host frame (some slot) (frame.record host slot) (frame.accesses (some slot)) := by
  refine ⟨_, xdpCapturePacketLogged_eq host frame (some slot), ?_⟩
  simp [captured]

/-- The record of a run reports the bytes that the run has read, and no others. -/
theorem Submits.reports {host : Endian} {frame : Frame} {reserved : Option XdpPacket}
    {record : XdpPacket} {log : List Access} (submits : Submits host frame reserved record log) :
    Reports host frame record log := by
  obtain ⟨captured, slot, rfl, rfl⟩ := submits.outcome
  constructor
  · rw [Frame.portBytes_accesses captured]
    by_cases ports : frame.protocol = 6 ∨ frame.protocol = 17
    · right
      refine ⟨frame.transportOffset, if_pos ports, ?_, ?_⟩
      · rw [← Frame.field_two]
        exact if_pos ports
      · rw [← Frame.field_two]
        exact if_pos ports
    · left
      exact ⟨if_neg ports, if_neg ports, if_neg ports⟩
  · rw [Frame.payloadBytes_accesses captured, Frame.payloadByteCount_record, Frame.payload_record]
    apply List.ext_getElem
    · rw [Frame.length_payload, List.length_map, List.length_range']
    · intro index bound _
      rw [Frame.length_payload] at bound
      have within := Frame.payload_within (Nat.zero_lt_of_lt bound)
      rw [Frame.size] at within
      have present : frame.payloadOffset + index < frame.bytes.length := by omega
      simp [Frame.slice, Frame.byte, present]

/-! ## The header-length field -/

/-- Ports and payload come from behind the fixed IPv4 header exactly if the header-length field
covers it. -/
theorem behindHeaders_iff {host : Endian} {frame : Frame} {reserved : Option XdpPacket}
    {record : XdpPacket} {log : List Access} (submits : Submits host frame reserved record log) :
    (∀ offset ∈ portBytes log ++ payloadBytes log, 34 ≤ offset) ↔ 5 ≤ frame.ihl := by
  obtain ⟨captured, slot, -, rfl⟩ := submits.outcome
  have fits := captured.headers
  have transport : frame.transportOffset = 14 + 4 * frame.ihl := rfl
  rw [Frame.portBytes_accesses captured, Frame.payloadBytes_accesses captured]
  constructor
  · intro behind
    by_cases ports : frame.protocol = 6 ∨ frame.protocol = 17
    · have first := behind frame.transportOffset (by simp [ports])
      omega
    · -- Without a transport header the payload starts where one would, inside the frame.
      have start : frame.payloadOffset = frame.transportOffset := by
        rw [not_or] at ports
        rw [Frame.payloadOffset, if_neg ports.1, if_neg ports.2]
      by_contra short
      have positive : 0 < frame.payloadCount := by
        rw [Frame.payloadCount]
        omega
      have first := behind frame.payloadOffset (by simp [positive])
      omega
  · intro covered offset member
    have start : frame.transportOffset ≤ frame.payloadOffset := by
      rw [Frame.payloadOffset]
      split
      · omega
      · split <;> omega
    rcases List.mem_append.mp member with port | payload
    · split at port
      · have range := List.mem_range'_1.mp port
        omega
      · cases port
    · have range := List.mem_range'_1.mp payload
      omega

/-- A UDP datagram whose header-length field is `0`. -/
def headless : Frame where
  bytes :=
    [0x02, 0, 0, 0, 0, 1, 0x02, 0, 0, 0, 0, 2, 0x08, 0x00,
      0x40, 0, 0, 46, 0, 1, 0, 0, 64, 17, 0, 0, 192, 168, 1, 1, 192, 168, 1, 2] ++
      List.replicate 26 0
  size_lt := by decide

theorem headless_captured : headless.Captured := by decide

theorem behindHeaders_iff_headless :
    (∀ offset ∈ portBytes (headless.accesses (some blankSlot)) ++
      payloadBytes (headless.accesses (some blankSlot)), 34 ≤ offset) ↔ 5 ≤ headless.ihl :=
  behindHeaders_iff (submits_of_captured .little headless_captured blankSlot)

/-- The first bytes of the IPv4 header are reported as ports. -/
theorem header_reported :
    ¬ ∀ (host : Endian) (frame : Frame) (reserved : Option XdpPacket) (record : XdpPacket)
      (log : List Access), Submits host frame reserved record log →
        ∀ offset ∈ portBytes log ++ payloadBytes log, 34 ≤ offset := by
  intro claim
  have behind := claim _ _ _ _ _ (submits_of_captured .little headless_captured blankSlot)
  rw [Frame.portBytes_accesses headless_captured] at behind
  have first := behind 14 (by decide)
  omega

/-! ## The fragment offset -/

namespace Frame

/-- The fragment offset of the IPv4 header, in units of eight bytes. -/
def fragmentOffset (frame : Frame) : Nat := value [frame.byte 20, frame.byte 21] % 2 ^ 13

/-- The bytes behind the IPv4 header start with the header of a protocol that has ports. -/
structure CarriesPorts (frame : Frame) : Prop where
  protocol : frame.protocol = 6 ∨ frame.protocol = 17
  first : frame.fragmentOffset = 0

end Frame

/-- Ports come from a transport header that the frame carries, and a fragment without one is all
payload behind the IPv4 header. -/
structure TransportRespected (frame : Frame) (record : XdpPacket) (log : List Access) : Prop where
  carried : portBytes log ≠ [] →
    frame.CarriesPorts ∧ portBytes log = List.range' frame.transportOffset 4
  absent : ¬ frame.CarriesPorts → record.sourcePort = 0 ∧ record.destinationPort = 0
  fragment : frame.fragmentOffset ≠ 0 →
    payloadBytes log =
      List.range' frame.transportOffset (min 128 (frame.size - frame.transportOffset))

/-- The transport header is respected unless its protocol has ports and the frame is not the first
fragment. -/
theorem transportRespected_iff {host : Endian} {frame : Frame} {reserved : Option XdpPacket}
    {record : XdpPacket} {log : List Access} (submits : Submits host frame reserved record log) :
    TransportRespected frame record log ↔
      frame.fragmentOffset = 0 ∨ frame.protocol ≠ 6 ∧ frame.protocol ≠ 17 := by
  obtain ⟨captured, slot, rfl, rfl⟩ := submits.outcome
  have ports := Frame.portBytes_accesses captured slot
  have payload := Frame.payloadBytes_accesses captured slot
  by_cases protocol : frame.protocol = 6 ∨ frame.protocol = 17
  · rw [if_pos protocol] at ports
    have other : ¬ (frame.protocol ≠ 6 ∧ frame.protocol ≠ 17) := by
      rintro ⟨noTcp, noUdp⟩
      exact protocol.elim noTcp noUdp
    constructor
    · intro respected
      left
      exact (respected.carried (by simp [ports])).1.first
    · intro condition
      have first := condition.resolve_right other
      constructor
      · exact fun _ => ⟨⟨protocol, first⟩, ports⟩
      · exact fun absent => absurd ⟨protocol, first⟩ absent
      · exact fun later => absurd first later
  · rw [if_neg protocol] at ports
    rw [not_or] at protocol
    have start : frame.payloadOffset = frame.transportOffset := by
      rw [Frame.payloadOffset, if_neg protocol.1, if_neg protocol.2]
    constructor
    · exact fun _ => .inr protocol
    · intro _
      constructor
      · exact fun some => absurd ports some
      · have noPort (offset : Nat) : frame.port host offset = 0 := if_neg (not_or.mpr protocol)
        exact fun _ => ⟨noPort 0, noPort 2⟩
      · intro _
        rw [payload, start, Frame.payloadCount, start]

/-- The last fragment of a UDP datagram, which starts with data. -/
def laterFragment : Frame where
  bytes :=
    [0x02, 0, 0, 0, 0, 1, 0x02, 0, 0, 0, 0, 2, 0x08, 0x00,
      0x45, 0, 0, 46, 0, 1, 0, 185, 64, 17, 0, 0, 192, 168, 1, 1, 192, 168, 1, 2] ++
      List.replicate 26 0x61
  size_lt := by decide

theorem laterFragment_captured : laterFragment.Captured := by decide

theorem transportRespected_iff_acknowledgement :
    TransportRespected acknowledgement (acknowledgement.record .little blankSlot)
        (acknowledgement.accesses (some blankSlot)) ↔
      acknowledgement.fragmentOffset = 0 ∨
        acknowledgement.protocol ≠ 6 ∧ acknowledgement.protocol ≠ 17 :=
  transportRespected_iff (submits_of_captured .little acknowledgement_captured blankSlot)

/-- Data of the fragment is reported as ports and skipped as a header. -/
theorem fragment_reported :
    ¬ ∀ (host : Endian) (frame : Frame) (reserved : Option XdpPacket) (record : XdpPacket)
      (log : List Access), Submits host frame reserved record log →
        TransportRespected frame record log := by
  intro claim
  have respected := claim _ _ _ _ _ (submits_of_captured .little laterFragment_captured blankSlot)
  have ports := Frame.portBytes_accesses laterFragment_captured blankSlot
  have first := (respected.carried (by rw [ports]; decide)).1.first
  revert first
  decide

end XdpExperiment

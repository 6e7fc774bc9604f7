import XdpExperiment.Capture
import XdpExperiment.PacketHandler

/-!
# From the frame to the handler

What the handler sees of a captured frame, read directly off the bytes of the frame. No intermediate
representation, no order of bytes of the host and nothing the ring buffer slot contained is left
in it.
-/

namespace XdpExperiment

open Bytes

namespace Frame

/-- Some bytes of the frame. -/
def slice (frame : Frame) (offset size : Nat) : List UInt8 := (frame.bytes.drop offset).take size

/-- A port in network byte order; zero for a protocol without ports. -/
def portValue (frame : Frame) (offset : Nat) : UInt16 :=
  if frame.protocol = 6 ∨ frame.protocol = 17 then
    UInt16.ofNat (value [frame.byte (frame.transportOffset + offset),
      frame.byte (frame.transportOffset + offset + 1)])
  else 0

/-- What the handler sees of a captured frame. -/
def delivered (frame : Frame) : XdpData where
  destinationMacAddress := String.ofList (colonHex (frame.slice 0 6))
  sourceMacAddress := String.ofList (colonHex (frame.slice 6 6))
  etherType := 0x0800
  sourceIpv4Address := String.ofList (dottedQuad (frame.slice 26 4))
  destinationIpv4Address := String.ofList (dottedQuad (frame.slice 30 4))
  ipProtocol := frame.protocol
  sourcePort := frame.portValue 0
  destinationPort := frame.portValue 2
  payloadBytes := frame.slice frame.payloadOffset frame.payloadCount

theorem toList_field {frame : Frame} {offset size : Nat} (within : offset + size ≤ frame.size) :
    (field frame.bytes offset size).toList = frame.slice offset size :=
  XdpExperiment.toList_field within

theorem ntohs_port (host : Endian) (frame : Frame) (offset : Nat) :
    ntohs host (frame.port host offset) = frame.portValue offset := by
  rw [port, portValue]
  split
  · rw [ntohs_load16, field_two]
    rfl
  · cases host <;> rfl

theorem length_payload (frame : Frame) :
    (frame.slice frame.payloadOffset frame.payloadCount).length = frame.payloadCount := by
  rw [slice, List.length_take, List.length_drop]
  by_cases positive : 0 < frame.payloadCount
  · have within := payload_within positive
    rw [size] at within
    omega
  · omega

/-- The payload of the record, whatever the slot contained behind it. -/
theorem payload_record (host : Endian) (frame : Frame) (slot : XdpPacket) :
    (frame.record host slot).payloadBytes.toList.take frame.payloadCount =
      frame.slice frame.payloadOffset frame.payloadCount := by
  have count_le : frame.payloadCount ≤ XDP_PACKET_MAX_PAYLOAD_BYTES := frame.payloadCount_le
  apply List.ext_getElem
  · rw [length_payload, List.length_take, Vector.length_toList]
    omega
  · intro index bound _
    simp only [List.length_take, Vector.length_toList] at bound
    have inside : index < frame.payloadCount := by omega
    have within := payload_within (Nat.zero_lt_of_lt inside)
    rw [size] at within
    have present : frame.payloadOffset + index < frame.bytes.length := by omega
    simp [record, slice, byte, inside, present]

theorem payloadByteCount_record (host : Endian) (frame : Frame) (slot : XdpPacket) :
    (frame.record host slot).payloadByteCount.toNat = frame.payloadCount := by
  have count_le := frame.payloadCount_le
  rw [record, UInt32.toNat_ofNat']
  omega

/-- The data class decodes the record of a captured frame to what the frame says. -/
theorem new_record (host : Endian) {frame : Frame} (captured : frame.Captured)
    (slot : XdpPacket) : XdpData.new host (some (frame.record host slot)) = frame.delivered := by
  have fits := captured.headers
  have etherType : ntohs host (load16 host (field frame.bytes 12 2)) = 0x0800 := by
    rw [ntohs_load16, field_two, captured.ipv4.1, captured.ipv4.2]
    decide
  have payload := XdpData.payloadBytes_new host (frame.record host slot)
  rw [payloadByteCount_record, payload_record] at payload
  rw [delivered, ← payload, ← toList_field (by omega), ← toList_field (by omega),
    ← toList_field (by omega), ← toList_field (by omega), ← formatMacAddress_eq,
    ← formatMacAddress_eq, ← formatIpv4Address_load32 host, ← formatIpv4Address_load32 host,
    ← ntohs_port host, ← ntohs_port host, ← etherType]
  rfl

end Frame

/-- A TCP acknowledgement without payload, padded to the minimum of 60 bytes. -/
def acknowledgement : Frame where
  bytes :=
    [0x02, 0, 0, 0, 0, 1, 0x02, 0, 0, 0, 0, 2, 0x08, 0x00,
      0x45, 0, 0, 40, 0, 1, 0x40, 0, 64, 6, 0, 0, 192, 168, 1, 1, 192, 168, 1, 2,
      0x1f, 0x90, 0xc3, 0x50, 0, 0, 0, 1, 0, 0, 0, 2, 0x50, 0x10, 1, 0, 0, 0, 0, 0,
      0, 0, 0, 0, 0, 0]
  size_lt := by decide

/-- A slot of the ring buffer that was never used. -/
def blankSlot : XdpPacket := XdpPacket.ofBytes .little []

theorem acknowledgement_captured : acknowledgement.Captured := by decide

theorem acknowledgement_submitted (host : Endian) :
    xdpCapturePacket host acknowledgement (some blankSlot) =
      .ok ⟨.pass, [acknowledgement.record host blankSlot]⟩ := by
  rw [xdpCapturePacket_eq, if_pos acknowledgement_captured]
  rfl

/-- End-to-end correctness: a frame passes on unharmed, and if it is captured and there is a slot
for it, the one record submitted carries to the handler just what the bytes of the frame say. -/
theorem capture_delivers {σ : Type*} (host : Endian) (frame : Frame) (slot : XdpPacket)
    (handler : PacketHandler σ) (state : σ) :
    (∃ submitted,
      xdpCapturePacket host frame (some slot) = .ok { action := .pass, submitted := submitted } ∧
      (frame.Captured → ∃ record, submitted = [record] ∧ (record.toBytes host).length = 159 ∧
        handleRingbufSample host (some handler) (record.toBytes host) state =
          (0, handler.onPacketArrived frame.delivered state) ∧
        frame.delivered.payloadByteCount = min 128 (frame.size - frame.payloadOffset)) ∧
      (¬ frame.Captured → submitted = [])) ∧
    xdpCapturePacket host frame none = .ok { action := .pass, submitted := [] } := by
  constructor
  · have run := xdpCapturePacket_eq host frame (some slot)
    by_cases captured : frame.Captured
    · rw [if_pos captured] at run
      refine ⟨_, run, fun _ => ⟨frame.record host slot, rfl, length_toBytes _ _, ?_, ?_⟩,
        fun other => absurd captured other⟩
      · rw [handleRingbufSample_toBytes, Frame.new_record host captured]
      · exact frame.length_payload
    · rw [if_neg captured] at run
      exact ⟨_, run, fun holds => absurd holds captured, fun _ => rfl⟩
  · rw [xdpCapturePacket_eq]
    split <;> rfl

end XdpExperiment

import XdpExperiment.EndToEnd

/-!
# Behind the datagram

An Ethernet frame may be longer than the IP datagram it carries: short frames are padded, and some
have a trailer. The program measures the payload by the end of the frame, not by the total length in
the IP header.
-/

namespace XdpExperiment

open Bytes

namespace Frame

/-- `tot_len`. -/
def totalLength (frame : Frame) : Nat := value [frame.byte 16, frame.byte 17]

/-- Offset of the first byte behind the datagram. -/
def datagramEnd (frame : Frame) : Nat := 14 + frame.totalLength

/-- The total length covers the IP header and fits the frame. -/
structure WellSized (frame : Frame) : Prop where
  header : 4 * frame.ihl ≤ frame.totalLength
  datagram : frame.totalLength ≤ frame.size - 14

end Frame

/-- Neither the count of the record nor the payload that a handler sees reaches behind the
datagram. -/
def TrailerFree (host : Endian) (frame : Frame) (record : XdpPacket) : Prop :=
  (record.payloadByteCount.toNat = 0 ∨
    frame.payloadOffset + record.payloadByteCount.toNat ≤ frame.datagramEnd) ∧
  ((XdpData.new host (some record)).payloadBytes = [] ∨
    frame.payloadOffset + (XdpData.new host (some record)).payloadBytes.length ≤
      frame.datagramEnd)

/-- Only captured frames are submitted, with the record of the frame. -/
theorem captured_of_submitted {host : Endian} {frame : Frame} {reserved : Option XdpPacket}
    {record : XdpPacket} (submits : xdpCapturePacket host frame reserved = .ok ⟨.pass, [record]⟩) :
    frame.Captured ∧ ∃ slot, record = frame.record host slot := by
  rw [xdpCapturePacket_eq] at submits
  by_cases captured : frame.Captured
  · rw [if_pos captured] at submits
    cases reserved with
    | none => cases submits
    | some slot =>
        cases submits
        exact ⟨captured, slot, rfl⟩
  · rw [if_neg captured] at submits
    cases submits

theorem trailerFree_record (host : Endian) {frame : Frame} (captured : frame.Captured)
    (slot : XdpPacket) :
    TrailerFree host frame (frame.record host slot) ↔
      frame.payloadCount = 0 ∨ frame.payloadOffset + frame.payloadCount ≤ frame.datagramEnd := by
  have length := frame.length_payload
  have empty : frame.slice frame.payloadOffset frame.payloadCount = [] ↔
      frame.payloadCount = 0 := by
    rw [← List.length_eq_zero_iff, length]
  rw [TrailerFree, Frame.new_record host captured, Frame.payloadByteCount_record]
  simp only [Frame.delivered, length, empty, and_self]

theorem acknowledgement_wellSized : acknowledgement.WellSized :=
  ⟨by decide, by decide⟩

/-- Padding is reported exactly when the frame ends behind the datagram and the datagram ends before
the buffer of the record is full. -/
theorem trailerFree_iff {host : Endian} {frame : Frame} {reserved : Option XdpPacket}
    {record : XdpPacket} (submits : xdpCapturePacket host frame reserved = .ok ⟨.pass, [record]⟩)
    (sized : frame.WellSized) :
    TrailerFree host frame record ↔
      frame.size ≤ frame.payloadOffset ∨ frame.size = 14 + frame.totalLength ∨
        frame.payloadOffset + 128 ≤ 14 + frame.totalLength := by
  obtain ⟨captured, slot, rfl⟩ := captured_of_submitted submits
  have fits := captured.headers
  have datagram := sized.datagram
  rw [trailerFree_record host captured, Frame.payloadCount, Frame.datagramEnd]
  omega

theorem trailerFree_iff_acknowledgement :
    TrailerFree .little acknowledgement (acknowledgement.record .little blankSlot) ↔
      (60 ≤ 54 ∨ 60 = 14 + 40 ∨ 54 + 128 ≤ 14 + 40) :=
  trailerFree_iff (acknowledgement_submitted .little) acknowledgement_wellSized

/-- The six bytes of padding reach the handler. -/
theorem padding_reported :
    ¬ ∀ (host : Endian) (frame : Frame) (reserved : Option XdpPacket) (record : XdpPacket),
      xdpCapturePacket host frame reserved = .ok ⟨.pass, [record]⟩ → frame.WellSized →
        TrailerFree host frame record := by
  intro claim
  have free := claim .little _ _ _ (acknowledgement_submitted .little)
    acknowledgement_wellSized
  rw [trailerFree_record .little acknowledgement_captured] at free
  revert free
  decide

end XdpExperiment

import XdpExperiment.Packet

/-!
# The XDP program

`xdp_capture_packet` over any way to access the frame, and as a function of the frame with every
access checked: an access outside the frame or the record is a fault. Positions in the frame stand
for the pointers of the source, which only adds to the start of the frame and compares with its end.
-/

namespace XdpExperiment

open Bytes

/-- A received frame. -/
structure Frame where
  /-- The bytes from `data` to `data_end`. -/
  bytes : List UInt8
  /-- Frame lengths fit 32 bits. -/
  size_lt : bytes.length < 2 ^ 32

/-- An access that the program must not make. -/
inductive MemoryFault
  | outOfFrame (offset size : Nat)
  | outOfBuffer (size : Nat)
  deriving DecidableEq

namespace Frame

/-- `data_end - data`. -/
def size (frame : Frame) : Nat := frame.bytes.length

/-- Read some bytes through a pointer into the frame. -/
def load (frame : Frame) (offset size : Nat) : Except MemoryFault (Vector UInt8 size) :=
  if offset + size ≤ frame.size then .ok (field frame.bytes offset size)
  else .error (.outOfFrame offset size)

end Frame

def ETH_P_IP : UInt16 := 0x0800

/-- `sizeof(struct ethhdr)`. -/
def ETHHDR_SIZE : Nat := 14

/-- `sizeof(struct iphdr)`. -/
def IPHDR_SIZE : Nat := 20

/-- `sizeof(struct tcphdr)`. -/
def TCPHDR_SIZE : Nat := 20

/-- `sizeof(struct udphdr)`. -/
def UDPHDR_SIZE : Nat := 8

/-- Verdict of an XDP program. -/
inductive XdpAction
  | aborted
  | drop
  | pass
  | tx
  | redirect
  deriving DecidableEq

/-- What parsing leaves behind in local variables. -/
structure Headers where
  sourcePort : UInt16
  destinationPort : UInt16
  /-- `payload_start`, from the start of the frame. -/
  payloadStart : Nat
  deriving DecidableEq

/-- `bpf_xdp_load_bytes`: checks the range against the frame by itself, and writes nothing
(`none`) if it does not fit. That the buffer is large enough is up to the caller. -/
def bpfXdpLoadBytes {capacity : Nat} (frame : Frame) (offset : UInt32)
    (buffer : Vector UInt8 capacity) (length : UInt32) :
    Except MemoryFault (Option (Vector UInt8 capacity)) :=
  if capacity < length.toNat then .error (.outOfBuffer length.toNat)
  else if frame.size < offset.toNat + length.toNat then .ok none
  else .ok (some (Vector.ofFn fun index =>
    if index < length.toNat then frame.bytes.getD (offset.toNat + index) 0 else buffer.get index))

/-- `payload_bytes_to_copy` from `payload_available_bytes`. -/
def clampedLength (payloadAvailableBytes : Int) : UInt32 :=
  if 0 < payloadAvailableBytes then
    let payloadBytesToCopy := UInt32.ofInt payloadAvailableBytes
    if 128 < payloadBytesToCopy then 128 else payloadBytesToCopy
  else 0

/-- What one run of the program does. -/
structure Capture where
  action : XdpAction
  /-- Records submitted to the ring buffer. -/
  submitted : List XdpPacket
  deriving DecidableEq

/-! ## The program -/

/-- The header fields that the program reads. -/
inductive HeaderField
  | hDest
  | hSource
  | hProto
  | ihl
  | protocol
  | saddr
  | daddr
  | source
  | dest
  deriving DecidableEq

/-- A way for the program to reach the frame. -/
structure FrameAccess (m : Type → Type) where
  /-- Read some bytes through a pointer into the frame. -/
  load : HeaderField → Nat → (size : Nat) → m (Vector UInt8 size)
  bpfXdpLoadBytes : UInt32 → Vector UInt8 XDP_PACKET_MAX_PAYLOAD_BYTES → UInt32 →
    m (Option (Vector UInt8 XDP_PACKET_MAX_PAYLOAD_BYTES))

namespace FrameAccess

variable {m : Type → Type} [Monad m] (access : FrameAccess m) (host : Endian) (size : Nat)

/-- The ports at the start of a transport header, if the header fits the frame. -/
def loadPorts (transportHeader headerSize : Nat) : m (Option (UInt16 × UInt16)) := do
  if size < transportHeader + headerSize then
    return none
  let source ← access.load .source transportHeader 2
  let dest ← access.load .dest (transportHeader + 2) 2
  return some (load16 host source, load16 host dest)

/-- Sections 1 to 4 of `xdp_capture_packet`; `none` is an early `XDP_PASS`. -/
def parseHeaders : m (Option Headers) := do
  let ethernetHeader := 0
  if size < ethernetHeader + ETHHDR_SIZE then
    return none
  let hProto ← access.load .hProto (ethernetHeader + 12) 2
  if load16 host hProto ≠ htons host ETH_P_IP then
    return none
  let ipHeader := ethernetHeader + ETHHDR_SIZE
  if size < ipHeader + IPHDR_SIZE then
    return none
  let versionAndIhl ← access.load .ihl ipHeader 1
  let ipHeaderLengthBytes := (load8 versionAndIhl).toNat % 16 * 4
  let transportHeader := ipHeader + ipHeaderLengthBytes
  let protocol ← access.load .protocol (ipHeader + 9) 1
  if load8 protocol = IPPROTO_TCP then
    let some (source, dest) ← access.loadPorts host size transportHeader TCPHDR_SIZE
      | return none
    return some ⟨source, dest, transportHeader + TCPHDR_SIZE⟩
  else if load8 protocol = IPPROTO_UDP then
    let some (source, dest) ← access.loadPorts host size transportHeader UDPHDR_SIZE
      | return none
    return some ⟨source, dest, transportHeader + UDPHDR_SIZE⟩
  else
    return some ⟨0, 0, transportHeader⟩

/-- Sections 6 and 7: fill a reserved slot, whatever it contained. -/
def fillRecord (headers : Headers) (slot : XdpPacket) : m XdpPacket := do
  let hDest ← access.load .hDest 0 6
  let hSource ← access.load .hSource 6 6
  let hProto ← access.load .hProto 12 2
  let saddr ← access.load .saddr 26 4
  let daddr ← access.load .daddr 30 4
  let protocol ← access.load .protocol 23 1
  let payloadOffsetBytes : Int := headers.payloadStart
  let payloadBytesToCopy := clampedLength ((size : Int) - headers.payloadStart)
  let record : XdpPacket :=
    { slot with
      destinationMacAddress := hDest
      sourceMacAddress := hSource
      etherType := load16 host hProto
      sourceIpAddress := load32 host saddr
      destinationIpAddress := load32 host daddr
      sourcePort := headers.sourcePort
      destinationPort := headers.destinationPort
      ipProtocol := load8 protocol
      payloadByteCount := payloadBytesToCopy }
  if 0 < payloadBytesToCopy then
    let copied ← access.bpfXdpLoadBytes (UInt32.ofInt payloadOffsetBytes) record.payloadBytes
      payloadBytesToCopy
    -- The result of the helper is ignored: on failure the buffer stays as it is.
    return { record with payloadBytes := copied.getD record.payloadBytes }
  else
    return record

/-- `xdp_capture_packet`, given the outcome of its reserve: a slot with stale contents, or `none`
if the ring buffer is full. -/
def xdpCapturePacket (reserved : Option XdpPacket) : m Capture := do
  let some headers ← access.parseHeaders host size | return { action := .pass, submitted := [] }
  let some slot := reserved | return { action := .pass, submitted := [] }
  let record ← access.fillRecord host size headers slot
  return { action := .pass, submitted := [record] }

end FrameAccess

/-- Accesses that fault outside the frame. -/
def Frame.checked (frame : Frame) : FrameAccess (Except MemoryFault) where
  load _ offset size := frame.load offset size
  bpfXdpLoadBytes := XdpExperiment.bpfXdpLoadBytes frame

@[simp] theorem Frame.checked_load (frame : Frame) (header : HeaderField) (offset size : Nat) :
    frame.checked.load header offset size = frame.load offset size := rfl

@[simp] theorem Frame.checked_bpfXdpLoadBytes (frame : Frame) (offset : UInt32)
    (buffer : Vector UInt8 XDP_PACKET_MAX_PAYLOAD_BYTES) (length : UInt32) :
    frame.checked.bpfXdpLoadBytes offset buffer length =
      bpfXdpLoadBytes frame offset buffer length := rfl

/-- Parsing with checked accesses. -/
def parseHeaders (host : Endian) (frame : Frame) : Except MemoryFault (Option Headers) :=
  frame.checked.parseHeaders host frame.size

/-- Filling a slot with checked accesses. -/
def fillRecord (host : Endian) (frame : Frame) (headers : Headers) (slot : XdpPacket) :
    Except MemoryFault XdpPacket :=
  frame.checked.fillRecord host frame.size headers slot

/-- One run of the program with checked accesses. -/
def xdpCapturePacket (host : Endian) (frame : Frame) (reserved : Option XdpPacket) :
    Except MemoryFault Capture :=
  frame.checked.xdpCapturePacket host frame.size reserved

/-! ## What is captured -/

namespace Frame

def byte (frame : Frame) (offset : Nat) : UInt8 := frame.bytes.getD offset 0

def ihl (frame : Frame) : Nat := (frame.byte 14).toNat % 16

def protocol (frame : Frame) : UInt8 := frame.byte 23

/-- Offset of the transport header. -/
def transportOffset (frame : Frame) : Nat := 14 + 4 * frame.ihl

/-- Offset of what is taken for the payload. -/
def payloadOffset (frame : Frame) : Nat :=
  if frame.protocol = 6 then frame.transportOffset + 20
  else if frame.protocol = 17 then frame.transportOffset + 8
  else frame.transportOffset

/-- An IPv4 frame that holds its fixed headers. -/
structure Captured (frame : Frame) : Prop where
  headers : 34 ≤ frame.size
  ipv4 : frame.byte 12 = 0x08 ∧ frame.byte 13 = 0x00
  tcp : frame.protocol = 6 → frame.transportOffset + 20 ≤ frame.size
  udp : frame.protocol = 17 → frame.transportOffset + 8 ≤ frame.size

theorem captured_iff (frame : Frame) :
    frame.Captured ↔ 34 ≤ frame.size ∧ (frame.byte 12 = 0x08 ∧ frame.byte 13 = 0x00) ∧
      (frame.protocol = 6 → frame.transportOffset + 20 ≤ frame.size) ∧
      (frame.protocol = 17 → frame.transportOffset + 8 ≤ frame.size) :=
  ⟨fun captured => ⟨captured.headers, captured.ipv4, captured.tcp, captured.udp⟩,
    fun ⟨headers, ipv4, tcp, udp⟩ => ⟨headers, ipv4, tcp, udp⟩⟩

instance (frame : Frame) : Decidable frame.Captured :=
  decidable_of_iff _ frame.captured_iff.symm

/-- A port as the host loads it; zero for a protocol without ports. -/
def port (host : Endian) (frame : Frame) (offset : Nat) : UInt16 :=
  if frame.protocol = 6 ∨ frame.protocol = 17 then
    load16 host (field frame.bytes (frame.transportOffset + offset) 2)
  else 0

/-- What parsing finds in a captured frame. -/
def headers (host : Endian) (frame : Frame) : Headers where
  sourcePort := frame.port host 0
  destinationPort := frame.port host 2
  payloadStart := frame.payloadOffset

theorem load_eq {frame : Frame} {offset size : Nat} (within : offset + size ≤ frame.size) :
    frame.load offset size = pure (field frame.bytes offset size) := by
  rw [load, if_pos within]
  rfl

theorem field_one (frame : Frame) (offset : Nat) :
    load8 (field frame.bytes offset 1) = frame.byte offset := by
  simp [load8, field, byte, Vector.get]

theorem field_two (frame : Frame) (offset : Nat) :
    field frame.bytes offset 2 = #v[frame.byte offset, frame.byte (offset + 1)] := by
  apply Vector.ext
  intro index bound
  obtain rfl | rfl : index = 0 ∨ index = 1 := by omega
  all_goals simp [field, byte]

end Frame

/-- The comparison of the EtherType, in whatever order the host loads it. -/
theorem etherType_eq_iff (host : Endian) (frame : Frame) :
    load16 host (field frame.bytes 12 2) = htons host ETH_P_IP ↔
      frame.byte 12 = 0x08 ∧ frame.byte 13 = 0x00 := by
  have constant : store16 .big ETH_P_IP = #v[0x08, 0x00] := by decide
  rw [htons_eq_load16, load16_inj, constant, Frame.field_two]
  simp

/-- Parsing gives up on a frame that is too short or not IPv4. -/
theorem parseHeaders_eq_none (host : Endian) {frame : Frame}
    (other : ¬ (34 ≤ frame.size ∧ frame.byte 12 = 0x08 ∧ frame.byte 13 = 0x00)) :
    parseHeaders host frame = pure none := by
  by_cases ethernet : 14 ≤ frame.size
  · have hProto : frame.load 12 2 = _ := Frame.load_eq (by omega)
    simp only [parseHeaders, FrameAccess.parseHeaders, Frame.checked_load, ETHHDR_SIZE, IPHDR_SIZE,
      Nat.zero_add, Nat.not_lt.mpr ethernet, if_false, hProto, pure_bind, ne_eq, etherType_eq_iff]
    by_cases ipv4 : frame.byte 12 = 0x08 ∧ frame.byte 13 = 0x00
    · have short : frame.size < 14 + 20 := by
        by_contra fits
        exact other ⟨by omega, ipv4⟩
      rw [if_neg (not_not_intro ipv4), if_pos short]
    · rw [if_pos ipv4]
  · rw [parseHeaders, FrameAccess.parseHeaders, if_pos (by simp only [ETHHDR_SIZE]; omega)]

/-- The ports and the end of a transport header, if it fits. -/
def transportHeaders (host : Endian) (frame : Frame) (headerSize : Nat) : Option Headers :=
  if frame.transportOffset + headerSize ≤ frame.size then
    some {
      sourcePort := load16 host (field frame.bytes frame.transportOffset 2)
      destinationPort := load16 host (field frame.bytes (frame.transportOffset + 2) 2)
      payloadStart := frame.transportOffset + headerSize }
  else none

theorem loadPorts_bind (host : Endian) {frame : Frame} {headerSize : Nat} (ports : 4 ≤ headerSize)
    {next : Option (UInt16 × UInt16) → Except MemoryFault (Option Headers)}
    (absent : next none = pure none)
    (present : ∀ source dest,
      next (some (source, dest)) = pure (some ⟨source, dest, frame.transportOffset + headerSize⟩)) :
    frame.checked.loadPorts host frame.size frame.transportOffset headerSize >>= next =
      pure (transportHeaders host frame headerSize) := by
  by_cases within : frame.transportOffset + headerSize ≤ frame.size
  · have source : frame.load frame.transportOffset 2 = _ := Frame.load_eq (by omega)
    have dest : frame.load (frame.transportOffset + 2) 2 = _ := Frame.load_eq (by omega)
    rw [FrameAccess.loadPorts, if_neg (by omega), Frame.checked_load, Frame.checked_load, source,
      dest, pure_bind, pure_bind, pure_bind, present, transportHeaders, if_pos within]
  · rw [FrameAccess.loadPorts, if_pos (by omega), pure_bind, absent, transportHeaders,
      if_neg within]

theorem Frame.ihl_mul_four (frame : Frame) :
    (frame.byte 14).toNat % 16 * 4 = 4 * frame.ihl := by
  rw [ihl, Nat.mul_comm]

/-- What parsing makes of an IPv4 frame whose fixed headers fit. -/
theorem parseHeaders_of_ipv4 (host : Endian) {frame : Frame} (fits : 34 ≤ frame.size)
    (ipv4 : frame.byte 12 = 0x08 ∧ frame.byte 13 = 0x00) :
    parseHeaders host frame =
      pure (if frame.protocol = 6 then transportHeaders host frame 20
        else if frame.protocol = 17 then transportHeaders host frame 8
        else some ⟨0, 0, frame.transportOffset⟩) := by
  have hProto : frame.load 12 2 = _ := Frame.load_eq (by omega)
  have version : frame.load 14 1 = _ := Frame.load_eq (by omega)
  have protocol : frame.load 23 1 = _ := Frame.load_eq (by omega)
  have ethernet : ¬ frame.size < 14 := by omega
  have large : ¬ frame.size < 14 + 20 := by omega
  simp only [parseHeaders, FrameAccess.parseHeaders, Frame.checked_load, ETHHDR_SIZE, IPHDR_SIZE,
    Nat.zero_add, ethernet, if_false, hProto, pure_bind, ne_eq,
    (etherType_eq_iff host frame).mpr ipv4, not_true, large, version, protocol, Frame.field_one,
    Frame.ihl_mul_four]
  rw [← Frame.transportOffset, ← Frame.protocol]
  by_cases tcp : frame.protocol = 6
  · rw [if_pos tcp, if_pos (show frame.protocol = IPPROTO_TCP from tcp)]
    exact loadPorts_bind host (by decide) rfl fun _ _ => rfl
  rw [if_neg tcp, if_neg (show frame.protocol ≠ IPPROTO_TCP from tcp)]
  by_cases udp : frame.protocol = 17
  · rw [if_pos udp, if_pos (show frame.protocol = IPPROTO_UDP from udp)]
    exact loadPorts_bind host (by decide) rfl fun _ _ => rfl
  · rw [if_neg udp, if_neg (show frame.protocol ≠ IPPROTO_UDP from udp)]

/-- Parsing never leaves the frame, and goes through for the captured frames alone. -/
theorem parseHeaders_eq (host : Endian) (frame : Frame) :
    parseHeaders host frame =
      pure (if frame.Captured then some (frame.headers host) else none) := by
  by_cases known : 34 ≤ frame.size ∧ frame.byte 12 = 0x08 ∧ frame.byte 13 = 0x00
  case neg =>
    have other : ¬ frame.Captured := fun captured => known ⟨captured.headers, captured.ipv4⟩
    rw [parseHeaders_eq_none host known, if_neg other]
  obtain ⟨fits, ipv4⟩ := known
  rw [parseHeaders_of_ipv4 host fits ipv4]
  congr 1
  simp only [Frame.captured_iff, Frame.headers, Frame.port, Frame.payloadOffset, transportHeaders,
    fits, ipv4, true_and, and_self]
  by_cases tcp : frame.protocol = 6
  · simp [tcp]
  · by_cases udp : frame.protocol = 17
    · simp [udp]
    · simp [tcp, udp]

/-! ## The record of a captured frame -/

namespace Frame

/-- How many bytes of payload a record of the frame carries. -/
def payloadCount (frame : Frame) : Nat := min 128 (frame.size - frame.payloadOffset)

/-- The record of a captured frame. A byte behind the payload is left over from the slot. -/
def record (host : Endian) (frame : Frame) (slot : XdpPacket) : XdpPacket where
  destinationMacAddress := field frame.bytes 0 6
  sourceMacAddress := field frame.bytes 6 6
  etherType := load16 host (field frame.bytes 12 2)
  sourceIpAddress := load32 host (field frame.bytes 26 4)
  destinationIpAddress := load32 host (field frame.bytes 30 4)
  sourcePort := frame.port host 0
  destinationPort := frame.port host 2
  ipProtocol := frame.protocol
  payloadByteCount := UInt32.ofNat frame.payloadCount
  payloadBytes := Vector.ofFn fun index =>
    if index < frame.payloadCount then frame.byte (frame.payloadOffset + index)
    else slot.payloadBytes.get index

theorem payloadOffset_le (frame : Frame) : frame.payloadOffset ≤ 94 := by
  have nibble : frame.ihl < 16 := Nat.mod_lt _ (by decide)
  rw [payloadOffset, transportOffset]
  split
  · omega
  · split <;> omega

theorem payloadCount_le (frame : Frame) : frame.payloadCount ≤ 128 :=
  Nat.min_le_left _ _

/-- A payload that is copied lies within the frame. -/
theorem payload_within {frame : Frame} (positive : 0 < frame.payloadCount) :
    frame.payloadOffset + frame.payloadCount ≤ frame.size := by
  rw [payloadCount] at *
  omega

end Frame

/-- A length or an offset survives the conversion to 32 bits. -/
theorem toNat_ofInt {number : Nat} (number_lt : number < 2 ^ 32) :
    (UInt32.ofInt number).toNat = number := by
  rw [UInt32.ofInt, UInt32.toNat_ofNat']
  omega

/-- The signed comparison and the clamp of the source compute the truncated difference. -/
theorem clampedLength_sub {size : Nat} (start : Nat) (size_lt : size < 2 ^ 32) :
    clampedLength ((size : Int) - start) = UInt32.ofNat (min 128 (size - start)) := by
  by_cases available : start < size
  · have difference : (size : Int) - start = (size - start : Nat) := by omega
    have kept : (UInt32.ofInt (size - start : Nat)).toNat = size - start :=
      toNat_ofInt (by omega)
    apply UInt32.toNat_inj.mp
    rw [clampedLength, if_pos (by omega), difference, UInt32.toNat_ofNat']
    by_cases long : 128 < size - start
    · rw [if_pos (by rw [UInt32.lt_iff_toNat_lt, kept]; exact long)]
      simp only [UInt32.reduceToNat]
      omega
    · rw [if_neg (by rw [UInt32.lt_iff_toNat_lt, kept]; exact long), kept]
      omega
  · have empty : min 128 (size - start) = 0 := by omega
    rw [clampedLength, if_neg (by omega), empty]
    rfl

namespace Frame

theorem toNat_payloadOffset (frame : Frame) :
    (UInt32.ofInt frame.payloadOffset).toNat = frame.payloadOffset := by
  have offset_le := frame.payloadOffset_le
  exact toNat_ofInt (by omega)

theorem toNat_payloadCount (frame : Frame) :
    (UInt32.ofNat frame.payloadCount).toNat = frame.payloadCount := by
  have count_le := frame.payloadCount_le
  rw [UInt32.toNat_ofNat']
  omega

theorem payloadCount_pos_iff (frame : Frame) :
    0 < UInt32.ofNat frame.payloadCount ↔ 0 < frame.payloadCount := by
  rw [UInt32.lt_iff_toNat_lt, toNat_payloadCount]
  rfl

/-- The helper is called within its limits and copies the payload over what the slot contained. -/
theorem bpfXdpLoadBytes_payload (host : Endian) {frame : Frame}
    (positive : 0 < frame.payloadCount) (slot : XdpPacket) :
    bpfXdpLoadBytes frame (UInt32.ofInt frame.payloadOffset) slot.payloadBytes
      (UInt32.ofNat frame.payloadCount) = .ok (some (frame.record host slot).payloadBytes) := by
  have within := payload_within positive
  rw [bpfXdpLoadBytes, toNat_payloadCount, toNat_payloadOffset,
    if_neg (Nat.not_lt.mpr frame.payloadCount_le), if_neg (by omega)]
  rfl

/-- Without a payload the slot's buffer stays as it is. -/
theorem payloadBytes_record_of_empty (host : Endian) {frame : Frame}
    (empty : ¬ 0 < frame.payloadCount) (slot : XdpPacket) :
    (frame.record host slot).payloadBytes = slot.payloadBytes := by
  apply Vector.ext
  intro index bound
  have beyond : ¬ index < frame.payloadCount := by omega
  simp [record, beyond, Vector.get]

end Frame

/-- Filling never leaves the frame or the slot, whatever the slot contained. -/
theorem fillRecord_eq (host : Endian) {frame : Frame} (fits : 34 ≤ frame.size) (slot : XdpPacket) :
    fillRecord host frame (frame.headers host) slot = pure (frame.record host slot) := by
  have hDest : frame.load 0 6 = _ := Frame.load_eq (by omega)
  have hSource : frame.load 6 6 = _ := Frame.load_eq (by omega)
  have hProto : frame.load 12 2 = _ := Frame.load_eq (by omega)
  have saddr : frame.load 26 4 = _ := Frame.load_eq (by omega)
  have daddr : frame.load 30 4 = _ := Frame.load_eq (by omega)
  have protocol : frame.load 23 1 = _ := Frame.load_eq (by omega)
  have length : clampedLength ((frame.size : Int) - frame.payloadOffset) =
      UInt32.ofNat frame.payloadCount := clampedLength_sub _ frame.size_lt
  simp only [fillRecord, FrameAccess.fillRecord, Frame.checked_load, hDest, hSource, hProto, saddr,
    daddr, protocol, pure_bind, Frame.headers, length, Frame.field_one, frame.payloadCount_pos_iff]
  by_cases positive : 0 < frame.payloadCount
  · rw [if_pos positive, Frame.checked_bpfXdpLoadBytes,
      Frame.bpfXdpLoadBytes_payload host positive]
    rfl
  · rw [if_neg positive, ← Frame.payloadBytes_record_of_empty host positive slot]
    rfl

/-- One run on any frame: nothing faults, the frame is passed on, and a record of a captured frame
is submitted when there is a slot for it. -/
theorem xdpCapturePacket_eq (host : Endian) (frame : Frame) (reserved : Option XdpPacket) :
    xdpCapturePacket host frame reserved =
      pure ⟨.pass, if frame.Captured then (reserved.map (frame.record host)).toList else []⟩ := by
  have parsed : frame.checked.parseHeaders host frame.size = _ := parseHeaders_eq host frame
  rw [xdpCapturePacket, FrameAccess.xdpCapturePacket, parsed, pure_bind]
  by_cases captured : frame.Captured
  · rw [if_pos captured, if_pos captured]
    cases reserved with
    | none => rfl
    | some slot =>
        change fillRecord host frame (frame.headers host) slot >>= _ = _
        rw [fillRecord_eq host captured.headers, pure_bind]
        rfl
  · rw [if_neg captured, if_neg captured]

end XdpExperiment

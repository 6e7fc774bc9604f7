import XdpExperiment.Capture

/-!
# Accesses to the frame

Which bytes of the frame the XDP program reads, and as what. Checked accesses that are logged as
well show every read of a header field and every call of the helper with its arguments.
-/

namespace XdpExperiment

open Bytes

/-- One access to the frame. -/
inductive Access
  | header (header : HeaderField) (offset size : Nat)
  /-- A call of `bpf_xdp_load_bytes`, with the arguments it gets. -/
  | loadBytes (offset length : UInt32)
  deriving DecidableEq

/-- Checked accesses that are written down in order. -/
def Frame.logged (frame : Frame) : FrameAccess (StateT (List Access) (Except MemoryFault)) where
  load header offset size log := do
    let bytes ← frame.load offset size
    return (bytes, log ++ [.header header offset size])
  bpfXdpLoadBytes offset buffer length log := do
    let copied ← XdpExperiment.bpfXdpLoadBytes frame offset buffer length
    return (copied, log ++ [.loadBytes offset length])

/-- One run with the log of its accesses. -/
def xdpCapturePacketLogged (host : Endian) (frame : Frame) (reserved : Option XdpPacket) :
    Except MemoryFault (Capture × List Access) :=
  frame.logged.xdpCapturePacket host frame.size reserved []

/-! ## The log of a run -/

/-- A step whose outcome is known. -/
theorem bind_of_run {α β : Type} {log log' : List Access} {value : α}
    {step : StateT (List Access) (Except MemoryFault) α}
    {next : α → StateT (List Access) (Except MemoryFault) β}
    (run : step log = pure (value, log')) : (step >>= next) log = next value log' := by
  change (step log >>= fun result => next result.1 result.2) = _
  rw [run, pure_bind]

namespace Frame

/-- Reads of the ports, for a protocol that has them. -/
def portAccesses (frame : Frame) : List Access :=
  if frame.protocol = 6 ∨ frame.protocol = 17 then
    [.header .source frame.transportOffset 2, .header .dest (frame.transportOffset + 2) 2]
  else []

/-- What parsing reads. -/
def parseAccesses (frame : Frame) : List Access :=
  if frame.size < 14 then []
  else if frame.size < 34 ∨ ¬ (frame.byte 12 = 0x08 ∧ frame.byte 13 = 0x00) then
    [.header .hProto 12 2]
  else
    [.header .hProto 12 2, .header .ihl 14 1, .header .protocol 23 1] ++
      if frame.Captured then frame.portAccesses else []

/-- The call of the helper, if there is anything to copy. -/
def payloadAccesses (frame : Frame) : List Access :=
  if 0 < frame.payloadCount then
    [.loadBytes (UInt32.ofInt frame.payloadOffset) (UInt32.ofNat frame.payloadCount)]
  else []

/-- What filling a record reads. -/
def fillAccesses (frame : Frame) : List Access :=
  [.header .hDest 0 6, .header .hSource 6 6, .header .hProto 12 2, .header .saddr 26 4,
    .header .daddr 30 4, .header .protocol 23 1] ++ frame.payloadAccesses

/-- What a whole run reads, with or without a slot for the record. -/
def accesses (frame : Frame) (reserved : Option XdpPacket) : List Access :=
  frame.parseAccesses ++ if frame.Captured ∧ reserved ≠ none then frame.fillAccesses else []

variable {frame : Frame}

theorem logged_load {header : HeaderField} {offset size : Nat}
    (within : offset + size ≤ frame.size) (log : List Access) :
    frame.logged.load header offset size log =
      pure (field frame.bytes offset size, log ++ [.header header offset size]) := by
  change (frame.load offset size >>= fun bytes => pure (bytes, _)) = _
  rw [load_eq within, pure_bind]

end Frame

/-- The ports at the start of a transport header, and what becomes of them. -/
theorem logged_loadPorts_bind (host : Endian) {frame : Frame} {headerSize : Nat}
    (ports : 4 ≤ headerSize)
    {next : Option (UInt16 × UInt16) → StateT (List Access) (Except MemoryFault) (Option Headers)}
    (absent : next none = pure none)
    (present : ∀ source dest,
      next (some (source, dest)) = pure (some ⟨source, dest, frame.transportOffset + headerSize⟩))
    (log : List Access) :
    (frame.logged.loadPorts host frame.size frame.transportOffset headerSize >>= next) log =
      pure (transportHeaders host frame headerSize,
        log ++ if frame.transportOffset + headerSize ≤ frame.size then
          [.header .source frame.transportOffset 2, .header .dest (frame.transportOffset + 2) 2]
        else []) := by
  by_cases within : frame.transportOffset + headerSize ≤ frame.size
  · rw [FrameAccess.loadPorts, if_neg (by omega), bind_assoc,
      bind_of_run (Frame.logged_load (by omega) log), bind_assoc,
      bind_of_run (Frame.logged_load (by omega) _), pure_bind, present, transportHeaders,
      if_pos within, if_pos within, List.append_assoc]
    rfl
  · rw [FrameAccess.loadPorts, if_pos (by omega), pure_bind, absent, transportHeaders,
      if_neg within, if_neg within, List.append_nil]
    rfl

/-- What is read of an IPv4 frame whose fixed headers fit. -/
theorem logged_parseHeaders_of_ipv4 (host : Endian) {frame : Frame} (fits : 34 ≤ frame.size)
    (ipv4 : frame.byte 12 = 0x08 ∧ frame.byte 13 = 0x00) (log : List Access) :
    frame.logged.parseHeaders host frame.size log =
      pure (if frame.Captured then some (frame.headers host) else none,
        log ++ frame.parseAccesses) := by
  have ethernet : ¬ frame.size < 14 := by omega
  have large : ¬ frame.size < 14 + 20 := by omega
  have whole : ¬ (frame.size < 34 ∨ ¬ (frame.byte 12 = 0x08 ∧ frame.byte 13 = 0x00)) := by
    rintro (short | other)
    · omega
    · exact other ipv4
  simp only [FrameAccess.parseHeaders, ETHHDR_SIZE, IPHDR_SIZE, Nat.zero_add, ethernet, if_false]
  rw [bind_of_run (Frame.logged_load (by omega) log)]
  simp only [ne_eq, (etherType_eq_iff host frame).mpr ipv4, not_true, if_false, large]
  rw [bind_of_run (Frame.logged_load (by omega) _), bind_of_run (Frame.logged_load (by omega) _)]
  simp only [Frame.field_one, Frame.ihl_mul_four]
  rw [← Frame.transportOffset, ← Frame.protocol, Frame.parseAccesses, if_neg ethernet,
    if_neg whole, Frame.portAccesses]
  by_cases tcp : frame.protocol = 6
  · rw [if_pos (show frame.protocol = IPPROTO_TCP from tcp)]
    change (frame.logged.loadPorts host frame.size frame.transportOffset 20 >>= _) _ = _
    rw [logged_loadPorts_bind host (by decide) rfl fun _ _ => rfl]
    simp [Frame.captured_iff, Frame.headers, Frame.port, Frame.payloadOffset, transportHeaders,
      fits, ipv4, tcp]
  rw [if_neg (show frame.protocol ≠ IPPROTO_TCP from tcp)]
  by_cases udp : frame.protocol = 17
  · rw [if_pos (show frame.protocol = IPPROTO_UDP from udp)]
    change (frame.logged.loadPorts host frame.size frame.transportOffset 8 >>= _) _ = _
    rw [logged_loadPorts_bind host (by decide) rfl fun _ _ => rfl]
    simp [Frame.captured_iff, Frame.headers, Frame.port, Frame.payloadOffset, transportHeaders,
      fits, ipv4, udp]
  · rw [if_neg (show frame.protocol ≠ IPPROTO_UDP from udp)]
    change (pure (some ⟨0, 0, frame.transportOffset⟩, _) :
      Except MemoryFault (Option Headers × List Access)) = _
    simp [Frame.captured_iff, Frame.headers, Frame.port, Frame.payloadOffset, fits, ipv4, tcp, udp]

theorem logged_parseHeaders (host : Endian) (frame : Frame) (log : List Access) :
    frame.logged.parseHeaders host frame.size log =
      pure (if frame.Captured then some (frame.headers host) else none,
        log ++ frame.parseAccesses) := by
  by_cases known : 34 ≤ frame.size ∧ frame.byte 12 = 0x08 ∧ frame.byte 13 = 0x00
  case pos => exact logged_parseHeaders_of_ipv4 host known.1 known.2 log
  have other : ¬ frame.Captured := fun captured => known ⟨captured.headers, captured.ipv4⟩
  rw [if_neg other, Frame.parseAccesses]
  by_cases ethernet : frame.size < 14
  · rw [FrameAccess.parseHeaders, if_pos (by simpa only [ETHHDR_SIZE, Nat.zero_add] using ethernet),
      if_pos ethernet, List.append_nil]
    rfl
  have unknown : frame.size < 34 ∨ ¬ (frame.byte 12 = 0x08 ∧ frame.byte 13 = 0x00) := by
    by_contra both
    rw [not_or, not_not] at both
    exact known ⟨by omega, both.2⟩
  rw [if_neg ethernet, if_pos unknown]
  simp only [FrameAccess.parseHeaders, ETHHDR_SIZE, IPHDR_SIZE, Nat.zero_add, ethernet, if_false]
  rw [bind_of_run (Frame.logged_load (by omega) log)]
  simp only [ne_eq, etherType_eq_iff]
  by_cases ipv4 : frame.byte 12 = 0x08 ∧ frame.byte 13 = 0x00
  · have short : frame.size < 14 + 20 := by
      by_contra fits
      exact known ⟨by omega, ipv4⟩
    rw [if_neg (not_not_intro ipv4), if_pos short]
    rfl
  · rw [if_pos ipv4]
    rfl

theorem logged_bpfXdpLoadBytes (host : Endian) {frame : Frame}
    (positive : 0 < frame.payloadCount) (slot : XdpPacket) (log : List Access) :
    frame.logged.bpfXdpLoadBytes (UInt32.ofInt frame.payloadOffset) slot.payloadBytes
        (UInt32.ofNat frame.payloadCount) log =
      pure (some (frame.record host slot).payloadBytes, log ++ frame.payloadAccesses) := by
  change (bpfXdpLoadBytes frame _ slot.payloadBytes _ >>= fun copied => pure (copied, _)) = _
  rw [Frame.bpfXdpLoadBytes_payload host positive, Frame.payloadAccesses, if_pos positive]
  rfl

theorem logged_fillRecord (host : Endian) {frame : Frame} (fits : 34 ≤ frame.size)
    (slot : XdpPacket) (log : List Access) :
    frame.logged.fillRecord host frame.size (frame.headers host) slot log =
      pure (frame.record host slot, log ++ frame.fillAccesses) := by
  have length : clampedLength ((frame.size : Int) - frame.payloadOffset) =
      UInt32.ofNat frame.payloadCount := clampedLength_sub _ frame.size_lt
  rw [FrameAccess.fillRecord]
  iterate 6 rw [bind_of_run (Frame.logged_load (by omega) _)]
  simp only [Frame.headers, length, frame.payloadCount_pos_iff, Frame.fillAccesses]
  by_cases positive : 0 < frame.payloadCount
  · rw [if_pos positive, bind_of_run (logged_bpfXdpLoadBytes host positive slot _)]
    simp only [List.append_assoc, Frame.field_one]
    rfl
  · rw [if_neg positive, Frame.payloadAccesses, if_neg positive,
      ← Frame.payloadBytes_record_of_empty host positive slot]
    simp only [List.append_assoc, Frame.field_one]
    rfl

/-- One run on any frame, with everything it reads. -/
theorem xdpCapturePacketLogged_eq (host : Endian) (frame : Frame) (reserved : Option XdpPacket) :
    xdpCapturePacketLogged host frame reserved =
      pure (⟨.pass, if frame.Captured then (reserved.map (frame.record host)).toList else []⟩,
        frame.accesses reserved) := by
  rw [xdpCapturePacketLogged, FrameAccess.xdpCapturePacket,
    bind_of_run (logged_parseHeaders host frame []), Frame.accesses]
  by_cases captured : frame.Captured
  · rw [if_pos captured, if_pos captured]
    cases reserved with
    | none => simp; rfl
    | some slot =>
        change (frame.logged.fillRecord host frame.size (frame.headers host) slot >>= _) _ = _
        rw [bind_of_run (logged_fillRecord host captured.headers slot _)]
        simp [captured]
        rfl
  · rw [if_neg captured, if_neg captured]
    simp [captured]
    rfl

/-! ## The discipline of the accesses -/

/-- A call of `bpf_xdp_load_bytes` that cannot fail, with arguments that lost nothing in their
conversion to 32 bits. -/
structure SoundCall (frame : Frame) (offset length : UInt32) : Prop where
  offset_eq : offset.toNat = frame.payloadOffset
  length_eq : (length.toNat : Int) = min 128 ((frame.size : Int) - frame.payloadOffset)
  positive : 0 < length.toNat
  fits : length.toNat ≤ XDP_PACKET_MAX_PAYLOAD_BYTES
  within : offset.toNat + length.toNat ≤ frame.size
  succeeds (buffer : Vector UInt8 XDP_PACKET_MAX_PAYLOAD_BYTES) :
    ∃ copied, bpfXdpLoadBytes frame offset buffer length = .ok (some copied)

/-- The access stays inside the frame. -/
def Access.Sound (frame : Frame) : Access → Prop
  | .header _ offset size => offset + size ≤ frame.size
  | .loadBytes offset length => SoundCall frame offset length

theorem SoundCall.of_bounds {frame : Frame} {offset length : UInt32}
    (offset_eq : offset.toNat = frame.payloadOffset)
    (length_eq : length.toNat = frame.payloadCount) (positive : 0 < frame.payloadCount) :
    SoundCall frame offset length := by
  have count_le := frame.payloadCount_le
  have within := Frame.payload_within positive
  have difference : frame.payloadCount = min 128 (frame.size - frame.payloadOffset) := rfl
  constructor
  · exact offset_eq
  · rw [length_eq]
    omega
  · omega
  · rw [length_eq]
    exact count_le
  · omega
  · intro buffer
    rw [bpfXdpLoadBytes, length_eq, offset_eq, if_neg (Nat.not_lt.mpr count_le),
      if_neg (by omega)]
    exact ⟨_, rfl⟩

namespace Frame

theorem portAccesses_sound {frame : Frame} (captured : frame.Captured) :
    ∀ access ∈ frame.portAccesses, access.Sound frame := by
  intro access member
  rw [portAccesses] at member
  split at member
  case isFalse => cases member
  case isTrue ports =>
    have within : frame.transportOffset + 8 ≤ frame.size := by
      rcases ports with tcp | udp
      · have := captured.tcp tcp
        omega
      · exact captured.udp udp
    simp only [List.mem_cons, List.not_mem_nil, or_false] at member
    rcases member with rfl | rfl
    · change frame.transportOffset + 2 ≤ frame.size
      omega
    · change frame.transportOffset + 2 + 2 ≤ frame.size
      omega

theorem parseAccesses_sound (frame : Frame) :
    ∀ access ∈ frame.parseAccesses, access.Sound frame := by
  intro access member
  rw [parseAccesses] at member
  split at member
  · cases member
  split at member
  · obtain rfl := List.mem_singleton.mp member
    change 12 + 2 ≤ frame.size
    omega
  rcases List.mem_append.mp member with fixed | ports
  · simp only [List.mem_cons, List.not_mem_nil, or_false] at fixed
    rcases fixed with rfl | rfl | rfl <;> (simp only [Access.Sound]; omega)
  · split at ports
    · exact portAccesses_sound ‹_› access ports
    · cases ports

theorem fillAccesses_sound {frame : Frame} (captured : frame.Captured) :
    ∀ access ∈ frame.fillAccesses, access.Sound frame := by
  have fits := captured.headers
  intro access member
  rcases List.mem_append.mp member with fixed | payload
  · simp only [List.mem_cons, List.not_mem_nil, or_false] at fixed
    rcases fixed with rfl | rfl | rfl | rfl | rfl | rfl <;> (simp only [Access.Sound]; omega)
  · rw [payloadAccesses] at payload
    split at payload
    · obtain rfl := List.mem_singleton.mp payload
      exact .of_bounds frame.toNat_payloadOffset frame.toNat_payloadCount ‹_›
    · cases payload

theorem accesses_sound (frame : Frame) (reserved : Option XdpPacket) :
    ∀ access ∈ frame.accesses reserved, access.Sound frame := by
  intro access member
  rcases List.mem_append.mp member with parsed | filled
  · exact frame.parseAccesses_sound access parsed
  · split at filled
    case isTrue both => exact fillAccesses_sound both.1 access filled
    case isFalse => cases filled

end Frame

/-- On any frame the program runs to its end; every header field it reads lies in the frame, every
call of the helper is one that cannot fail, and the stored length is that of the payload. -/
theorem capture_accesses_sound (host : Endian) (frame : Frame) (reserved : Option XdpPacket) :
    ∃ capture log, xdpCapturePacketLogged host frame reserved = .ok (capture, log) ∧
      xdpCapturePacket host frame reserved = .ok capture ∧
      (∀ header offset size, .header header offset size ∈ log → offset + size ≤ frame.size) ∧
      (∀ offset length, .loadBytes offset length ∈ log → SoundCall frame offset length) ∧
      ∀ record ∈ capture.submitted, (record.payloadByteCount.toNat : Int) =
        min 128 (max 0 ((frame.size : Int) - frame.payloadOffset)) := by
  refine ⟨_, _, xdpCapturePacketLogged_eq host frame reserved,
    xdpCapturePacket_eq host frame reserved, ?_, ?_, ?_⟩
  · exact fun _ _ _ member => frame.accesses_sound reserved _ member
  · exact fun _ _ member => frame.accesses_sound reserved _ member
  · intro record member
    have difference : frame.payloadCount = min 128 (frame.size - frame.payloadOffset) := rfl
    have filled : ∃ slot, record = frame.record host slot := by
      split at member
      · cases reserved with
        | none => cases member
        | some slot => exact ⟨slot, List.mem_singleton.mp member⟩
      · cases member
    obtain ⟨slot, rfl⟩ := filled
    change ((UInt32.ofNat frame.payloadCount).toNat : Int) = _
    rw [frame.toNat_payloadCount]
    omega

end XdpExperiment

import XdpExperiment.PacketHandler
import XdpExperiment.Text

/-!
# What the decoder keeps

A handler sees of a record its header fields and its payload, without loss and without anything
else: two buffers give the same packet exactly if they agree on these bytes.
-/

namespace XdpExperiment

open Bytes

/-! ## Texts of addresses -/

theorem hex02_inj {byte byte' : UInt8} : hex02 byte = hex02 byte' ↔ byte = byte' := by
  constructor
  · intro same
    have byte_lt := byte.toNat_lt
    have byte_lt' := byte'.toNat_lt
    simp only [hex02, List.cons.injEq, and_true] at same
    obtain ⟨high, low⟩ := same
    have high := congrArg Text.hexValue high
    have low := congrArg Text.hexValue low
    rw [Text.hexValue_digitChar (by omega), Text.hexValue_digitChar (by omega)] at high low
    apply UInt8.toNat_inj.mp
    omega
  · rintro rfl
    rfl

theorem colon_notMem_hex02 (byte : UInt8) : ':' ∉ hex02 byte := by
  have digits : ∀ digit : Fin 16, ':' ≠ digit.val.digitChar := by decide
  have byte_lt := byte.toNat_lt
  simp only [hex02, List.mem_cons, List.not_mem_nil, or_false, not_or]
  exact ⟨digits ⟨byte.toNat / 16, by omega⟩, digits ⟨byte.toNat % 16, by omega⟩⟩

theorem decimal_inj {byte byte' : UInt8} : decimal byte = decimal byte' ↔ byte = byte' := by
  rw [decimal, decimal, Text.toDigits_ten_inj, UInt8.toNat_inj]

theorem dot_notMem_decimal (byte : UInt8) : '.' ∉ decimal byte := by
  intro member
  have digit := Nat.isDigit_of_mem_toDigits (by decide) (by decide) member
  revert digit
  decide

theorem colonHex_inj {bytes bytes' : List UInt8} (nonempty : bytes ≠ []) (nonempty' : bytes' ≠ []) :
    colonHex bytes = colonHex bytes' ↔ bytes = bytes' := by
  have apart (bytes : List UInt8) : ∀ part ∈ bytes.map hex02, ':' ∉ part := by
    intro part member
    obtain ⟨byte, -, rfl⟩ := List.mem_map.mp member
    exact colon_notMem_hex02 byte
  rw [colonHex, colonHex, Text.intercalate_inj (apart bytes) (apart bytes') (by simpa) (by simpa),
    List.map_inj_right fun _ _ => hex02_inj.mp]

theorem dottedQuad_inj {octets octets' : List UInt8} (nonempty : octets ≠ [])
    (nonempty' : octets' ≠ []) : dottedQuad octets = dottedQuad octets' ↔ octets = octets' := by
  have apart (octets : List UInt8) : ∀ part ∈ octets.map decimal, '.' ∉ part := by
    intro part member
    obtain ⟨octet, -, rfl⟩ := List.mem_map.mp member
    exact dot_notMem_decimal octet
  rw [dottedQuad, dottedQuad,
    Text.intercalate_inj (apart octets) (apart octets') (by simpa) (by simpa),
    List.map_inj_right fun _ _ => decimal_inj.mp]

theorem formatMacAddress_inj {macBytes macBytes' : Vector UInt8 6} :
    formatMacAddress macBytes = formatMacAddress macBytes' ↔ macBytes = macBytes' := by
  rw [formatMacAddress_eq, formatMacAddress_eq, String.ofList_inj,
    colonHex_inj (by simp [toList_six]) (by simp [toList_six]), Vector.toList_inj]

theorem formatIpv4Address_load32_inj {host : Endian} {bytes bytes' : Vector UInt8 4} :
    formatIpv4Address host (load32 host bytes) = formatIpv4Address host (load32 host bytes') ↔
      bytes = bytes' := by
  rw [formatIpv4Address_load32, formatIpv4Address_load32, String.ofList_inj,
    dottedQuad_inj (by simp [toList_four]) (by simp [toList_four]), Vector.toList_inj]

theorem ntohs_load16_inj {host : Endian} {bytes bytes' : Vector UInt8 2} :
    ntohs host (load16 host bytes) = ntohs host (load16 host bytes') ↔ bytes = bytes' := by
  -- The number in network order is what a big-endian host loads.
  rw [ntohs_load16, ntohs_load16]
  exact @load16_inj .big bytes bytes'

/-! ## Agreement of two buffers -/

/-- Two buffers agree from one offset up to another. -/
def AgreeOn (bytes bytes' : List UInt8) (start stop : Nat) : Prop :=
  ∀ index, start ≤ index → index < stop → bytes.getD index 0 = bytes'.getD index 0

theorem AgreeOn.split {bytes bytes' : List UInt8} {start middle stop : Nat}
    (first : start ≤ middle) (second : middle ≤ stop) :
    AgreeOn bytes bytes' start stop ↔
      AgreeOn bytes bytes' start middle ∧ AgreeOn bytes bytes' middle stop := by
  constructor
  · intro agree
    exact ⟨fun index lower upper => agree index lower (by omega),
      fun index lower upper => agree index (by omega) upper⟩
  · rintro ⟨front, back⟩ index lower upper
    by_cases within : index < middle
    · exact front index lower within
    · exact back index (by omega) upper

theorem field_eq_iff {bytes bytes' : List UInt8} {offset size : Nat} :
    field bytes offset size = field bytes' offset size ↔
      AgreeOn bytes bytes' offset (offset + size) := by
  constructor
  · intro same index lower upper
    have entry := congrArg (fun entries => entries.toList.getD (index - offset) 0) same
    have position : offset + (index - offset) = index := by omega
    simpa [field, show index - offset < size by omega, position] using entry
  · intro agree
    apply Vector.ext
    intro index bound
    simp only [field, Vector.getElem_ofFn]
    exact agree (offset + index) (by omega) (by omega)

theorem take_eq_iff {bytes bytes' : List UInt8} {stop : Nat} (within : stop ≤ bytes.length)
    (within' : stop ≤ bytes'.length) :
    bytes.take stop = bytes'.take stop ↔ AgreeOn bytes bytes' 0 stop := by
  constructor
  · intro same index _ upper
    have entry := congrArg (fun entries => entries.getD index 0) same
    simpa [upper] using entry
  · intro agree
    apply List.ext_getElem
    · simp only [List.length_take]
      omega
    · intro index bound bound'
      simp only [List.length_take] at bound bound'
      have same := agree index (Nat.zero_le _) (by omega)
      simpa [show index < bytes.length by omega, show index < bytes'.length by omega] using same

theorem load8_inj {bytes bytes' : Vector UInt8 1} :
    load8 bytes = load8 bytes' ↔ bytes = bytes' := by
  constructor
  · intro same
    apply Vector.ext
    intro index bound
    obtain rfl : index = 0 := by omega
    exact same
  · rintro rfl
    rfl

/-! ## The packet of a buffer -/

/-- The packet that a handler gets for the bytes of a slot. -/
def decoded (host : Endian) (rawRecordData : List UInt8) : XdpData :=
  XdpData.new host (some (XdpPacket.ofBytes host rawRecordData))

/-- How many bytes of payload a record holds, whatever it claims. -/
def heldCount (host : Endian) (rawRecordData : List UInt8) : Nat :=
  min (load32 host (field rawRecordData 27 4)).toNat 128

/-- Two records agree on their header fields and on their payload. -/
structure SameContent (host : Endian) (bytes bytes' : List UInt8) : Prop where
  head : bytes.take 27 = bytes'.take 27
  count : heldCount host bytes = heldCount host bytes'
  payload : (bytes.drop 31).take (heldCount host bytes) =
    (bytes'.drop 31).take (heldCount host bytes')

variable {host : Endian} {bytes bytes' : List UInt8}

theorem handleRingbufSample_decoded {σ : Type*} (handler : PacketHandler σ)
    (size : XDP_PACKET_SIZE ≤ bytes.length) (state : σ) :
    handleRingbufSample host (some handler) bytes state =
      (0, handler.onPacketArrived (decoded host bytes) state) := by
  rw [handleRingbufSample, if_neg (by omega)]
  rfl

theorem payloadBytes_decoded (size : XDP_PACKET_SIZE ≤ bytes.length) :
    (decoded host bytes).payloadBytes = (bytes.drop 31).take (heldCount host bytes) := by
  rw [XDP_PACKET_SIZE] at size
  rw [decoded, XdpData.payloadBytes_new]
  change (field bytes 31 128).toList.take (load32 host (field bytes 27 4)).toNat = _
  rw [toList_field (by omega), List.take_take, heldCount]

theorem length_payload_decoded (size : XDP_PACKET_SIZE ≤ bytes.length) :
    (decoded host bytes).payloadBytes.length = heldCount host bytes := by
  rw [XDP_PACKET_SIZE] at size
  rw [payloadBytes_decoded size, List.length_take, List.length_drop, heldCount]
  omega

theorem agreeOn_fields :
    AgreeOn bytes bytes' 0 27 ↔
      field bytes 0 6 = field bytes' 0 6 ∧ field bytes 6 6 = field bytes' 6 6 ∧
        field bytes 12 2 = field bytes' 12 2 ∧ field bytes 14 4 = field bytes' 14 4 ∧
          field bytes 18 4 = field bytes' 18 4 ∧ field bytes 22 2 = field bytes' 22 2 ∧
            field bytes 24 2 = field bytes' 24 2 ∧ field bytes 26 1 = field bytes' 26 1 := by
  simp only [field_eq_iff]
  rw [@AgreeOn.split _ _ 0 6 27 (by decide) (by decide),
    @AgreeOn.split _ _ 6 12 27 (by decide) (by decide),
    @AgreeOn.split _ _ 12 14 27 (by decide) (by decide),
    @AgreeOn.split _ _ 14 18 27 (by decide) (by decide),
    @AgreeOn.split _ _ 18 22 27 (by decide) (by decide),
    @AgreeOn.split _ _ 22 24 27 (by decide) (by decide),
    @AgreeOn.split _ _ 24 26 27 (by decide) (by decide)]

/-- Everything but the payload shows the first bytes of the record. -/
theorem decoded_eq_iff :
    decoded host bytes = decoded host bytes' ↔
      AgreeOn bytes bytes' 0 27 ∧
        (decoded host bytes).payloadBytes = (decoded host bytes').payloadBytes := by
  rw [agreeOn_fields]
  simp only [decoded, XdpData.new, XdpPacket.ofBytes, XdpData.mk.injEq, formatMacAddress_inj,
    formatIpv4Address_load32_inj, ntohs_load16_inj, load8_inj]
  constructor
  · rintro ⟨destination, source, etherType, saddr, daddr, protocol, sport, dport, payload⟩
    exact ⟨⟨destination, source, etherType, saddr, daddr, sport, dport, protocol⟩, payload⟩
  · rintro ⟨⟨destination, source, etherType, saddr, daddr, sport, dport, protocol⟩, payload⟩
    exact ⟨destination, source, etherType, saddr, daddr, protocol, sport, dport, payload⟩

/-- The decoder is lossless and depends on nothing else: a handler gets equal packets for two
buffers exactly if their records have the same content. A short buffer is not delivered. -/
theorem handleRingbufSample_lossless {σ : Type*} (host : Endian) (handler : PacketHandler σ)
    (state : σ) {bytes bytes' : List UInt8} (size : XDP_PACKET_SIZE ≤ bytes.length)
    (size' : XDP_PACKET_SIZE ≤ bytes'.length) :
    handleRingbufSample host (some handler) bytes state =
        (0, handler.onPacketArrived (decoded host bytes) state) ∧
      handleRingbufSample host (some handler) bytes' state =
        (0, handler.onPacketArrived (decoded host bytes') state) ∧
      (decoded host bytes = decoded host bytes' ↔ SameContent host bytes bytes') ∧
      (decoded host bytes).payloadBytes.length ≤ 128 ∧
      ∀ short : List UInt8, short.length < XDP_PACKET_SIZE →
        handleRingbufSample host (some handler) short state = (0, state) := by
  have bounds : 27 ≤ XDP_PACKET_SIZE := by decide
  refine ⟨handleRingbufSample_decoded handler size state,
    handleRingbufSample_decoded handler size' state, ?_, ?_, fun short tooShort => if_pos tooShort⟩
  · rw [decoded_eq_iff, ← take_eq_iff (by omega) (by omega)]
    constructor
    · rintro ⟨head, payload⟩
      have count := congrArg List.length payload
      rw [length_payload_decoded size, length_payload_decoded size'] at count
      rw [payloadBytes_decoded size, payloadBytes_decoded size'] at payload
      exact ⟨head, count, payload⟩
    · intro same
      refine ⟨same.head, ?_⟩
      rw [payloadBytes_decoded size, payloadBytes_decoded size']
      exact same.payload
  · rw [length_payload_decoded size]
    exact Nat.min_le_right _ _

/-- Two records that claim more payload than fits, one of them in a larger slot. -/
theorem handleRingbufSample_lossless_full :
    decoded .big (List.replicate 159 255) = decoded .big (List.replicate 160 255) ↔
      SameContent .big (List.replicate 159 255) (List.replicate 160 255) :=
  (handleRingbufSample_lossless .big PacketHandler.recorder [] (by simp [XDP_PACKET_SIZE])
    (by simp [XDP_PACKET_SIZE])).2.2.1

end XdpExperiment

import XdpExperiment.Bytes

/-!
# The packet record

`struct xdp_packet` as both programs see it: a packed record of 159 bytes whose multi-byte fields
are stored in the order of the host, with the byte-order functions of the C library.
-/

namespace XdpExperiment

open Bytes

/-! ## Integers in memory -/

/-- A byte loaded from memory. -/
def load8 (bytes : Vector UInt8 1) : UInt8 := bytes.get 0

/-- A 16-bit integer loaded from two bytes. -/
def load16 (host : Endian) (bytes : Vector UInt8 2) : UInt16 :=
  UInt16.ofNat (host.read bytes.toList)

/-- The bytes of a 16-bit integer. -/
def store16 (host : Endian) (number : UInt16) : Vector UInt8 2 :=
  ⟨(host.write 2 number.toNat).toArray, by simp⟩

/-- A 32-bit integer loaded from four bytes. -/
def load32 (host : Endian) (bytes : Vector UInt8 4) : UInt32 :=
  UInt32.ofNat (host.read bytes.toList)

/-- The bytes of a 32-bit integer. -/
def store32 (host : Endian) (number : UInt32) : Vector UInt8 4 :=
  ⟨(host.write 4 number.toNat).toArray, by simp⟩

/-- A 16-bit integer with its bytes exchanged. -/
def swap16 (number : UInt16) : UInt16 :=
  UInt16.ofNat (Endian.big.read (Endian.little.write 2 number.toNat))

/-- Network to host byte order. -/
def ntohs (host : Endian) (number : UInt16) : UInt16 :=
  match host with
  | .little => swap16 number
  | .big => number

/-- Host to network byte order; `bpf_htons` on the kernel side. -/
def htons (host : Endian) (number : UInt16) : UInt16 :=
  match host with
  | .little => swap16 number
  | .big => number

theorem load16_store16 (host : Endian) (number : UInt16) :
    load16 host (store16 host number) = number := by
  have number_lt := number.toNat_lt
  apply UInt16.toNat_inj.mp
  simp only [load16, store16, Vector.toList, UInt16.toNat_ofNat', Endian.read_write]
  omega

theorem store16_load16 (host : Endian) (bytes : Vector UInt8 2) :
    store16 host (load16 host bytes) = bytes := by
  have read_lt := host.read_lt bytes.toList
  have write_read := host.write_read bytes.toList
  rw [Vector.length_toList] at read_lt write_read
  apply Vector.toList_inj.mp
  have same : (load16 host bytes).toNat = host.read bytes.toList := by
    rw [load16, UInt16.toNat_ofNat']
    omega
  simp only [store16, same, write_read]
  rfl

theorem load32_store32 (host : Endian) (number : UInt32) :
    load32 host (store32 host number) = number := by
  have number_lt := number.toNat_lt
  apply UInt32.toNat_inj.mp
  simp only [load32, store32, Vector.toList, UInt32.toNat_ofNat', Endian.read_write]
  omega

theorem store32_load32 (host : Endian) (bytes : Vector UInt8 4) :
    store32 host (load32 host bytes) = bytes := by
  have read_lt := host.read_lt bytes.toList
  have write_read := host.write_read bytes.toList
  rw [Vector.length_toList] at read_lt write_read
  apply Vector.toList_inj.mp
  have same : (load32 host bytes).toNat = host.read bytes.toList := by
    rw [load32, UInt32.toNat_ofNat']
    omega
  simp only [store32, same, write_read]
  rfl

/-- Whatever the host, bytes taken as a number of network order have their big-endian value. -/
theorem ntohs_load16 (host : Endian) (bytes : Vector UInt8 2) :
    ntohs host (load16 host bytes) = UInt16.ofNat (value bytes.toList) := by
  cases host with
  | big => rfl
  | little =>
      have stored := congrArg Vector.toList (store16_load16 .little bytes)
      have written : Endian.little.write 2 (load16 .little bytes).toNat = bytes.toList := by
        simpa [store16, Vector.toList] using stored
      rw [ntohs, swap16, written]
      rfl

/-- The network-order constant is what the host loads from the big-endian bytes. -/
theorem htons_eq_load16 (host : Endian) (number : UInt16) :
    htons host number = load16 host (store16 .big number) := by
  cases host with
  | big => rw [htons, load16_store16]
  | little =>
      simp [htons, swap16, load16, store16, Endian.read, Endian.write, Vector.toList]

theorem load16_inj {host : Endian} {bytes bytes' : Vector UInt8 2} :
    load16 host bytes = load16 host bytes' ↔ bytes = bytes' := by
  constructor
  · intro same
    rw [← store16_load16 host bytes, ← store16_load16 host bytes', same]
  · rintro rfl
    rfl

/-! ## The record -/

def IPPROTO_ICMP : UInt8 := 1

def IPPROTO_TCP : UInt8 := 6

def IPPROTO_UDP : UInt8 := 17

/-- `XDP_PACKET_MAX_PAYLOAD_BYTES`. -/
abbrev XDP_PACKET_MAX_PAYLOAD_BYTES : Nat := 128

/-- `struct xdp_packet`. Multi-byte fields hold what the host loads from network-order bytes. -/
@[ext]
structure XdpPacket where
  destinationMacAddress : Vector UInt8 6
  sourceMacAddress : Vector UInt8 6
  etherType : UInt16
  sourceIpAddress : UInt32
  destinationIpAddress : UInt32
  sourcePort : UInt16
  destinationPort : UInt16
  ipProtocol : UInt8
  payloadByteCount : UInt32
  payloadBytes : Vector UInt8 XDP_PACKET_MAX_PAYLOAD_BYTES
  deriving DecidableEq

/-- `sizeof(struct xdp_packet)`. -/
def XDP_PACKET_SIZE : Nat := 159

/-- The bytes of a record, packed. -/
def XdpPacket.toBytes (host : Endian) (record : XdpPacket) : List UInt8 :=
  record.destinationMacAddress.toList ++ (record.sourceMacAddress.toList ++
    ((store16 host record.etherType).toList ++ ((store32 host record.sourceIpAddress).toList ++
      ((store32 host record.destinationIpAddress).toList ++
        ((store16 host record.sourcePort).toList ++ ((store16 host record.destinationPort).toList ++
          (#v[record.ipProtocol].toList ++ ((store32 host record.payloadByteCount).toList ++
            record.payloadBytes.toList))))))))

/-- The bytes of a field; a byte beyond the end of the buffer counts as zero. -/
def field (bytes : List UInt8) (offset size : Nat) : Vector UInt8 size :=
  Vector.ofFn fun index => bytes.getD (offset + index) 0

/-- The record at the start of a buffer of at least its size. -/
def XdpPacket.ofBytes (host : Endian) (bytes : List UInt8) : XdpPacket where
  destinationMacAddress := field bytes 0 6
  sourceMacAddress := field bytes 6 6
  etherType := load16 host (field bytes 12 2)
  sourceIpAddress := load32 host (field bytes 14 4)
  destinationIpAddress := load32 host (field bytes 18 4)
  sourcePort := load16 host (field bytes 22 2)
  destinationPort := load16 host (field bytes 24 2)
  ipProtocol := load8 (field bytes 26 1)
  payloadByteCount := load32 host (field bytes 27 4)
  payloadBytes := field bytes 31 XDP_PACKET_MAX_PAYLOAD_BYTES

theorem length_toBytes (host : Endian) (record : XdpPacket) :
    (record.toBytes host).length = XDP_PACKET_SIZE := by
  simp [XdpPacket.toBytes, XDP_PACKET_SIZE, XDP_PACKET_MAX_PAYLOAD_BYTES]

/-- A field at the start of a buffer. -/
theorem field_append_left {size : Nat} (front : Vector UInt8 size) (back : List UInt8) :
    field (front.toList ++ back) 0 size = front := by
  apply Vector.ext
  intro index bound
  have within : index < front.toList.length := by simpa using bound
  simp only [field, Vector.getElem_ofFn, Nat.zero_add, List.getD_eq_getElem?_getD]
  rw [List.getElem?_append_left within]
  simp [bound]

/-- A field behind a field of known size. -/
theorem field_skip {skipped : Nat} (front : Vector UInt8 skipped) (back : List UInt8)
    (offset size : Nat) :
    field (front.toList ++ back) (offset + skipped) size = field back offset size := by
  apply Vector.ext
  intro index bound
  have beyond : front.toList.length ≤ offset + skipped + index := by
    rw [Vector.length_toList]
    omega
  simp only [field, Vector.getElem_ofFn, List.getD_eq_getElem?_getD]
  rw [List.getElem?_append_right beyond, Vector.length_toList]
  congr 2
  omega

/-- Whatever follows a record in memory, reading it back gives the record. -/
theorem ofBytes_toBytes (host : Endian) (record : XdpPacket) (rest : List UInt8) :
    XdpPacket.ofBytes host (record.toBytes host ++ rest) = record := by
  simp only [XdpPacket.ofBytes, XdpPacket.toBytes, List.append_assoc]
  ext1 <;> dsimp only
  · rw [field_append_left]
  · rw [field_skip, field_append_left]
  · iterate 2 rw [field_skip]
    rw [field_append_left, load16_store16]
  · iterate 3 rw [field_skip]
    rw [field_append_left, load32_store32]
  · iterate 4 rw [field_skip]
    rw [field_append_left, load32_store32]
  · iterate 5 rw [field_skip]
    rw [field_append_left, load16_store16]
  · iterate 6 rw [field_skip]
    rw [field_append_left, load16_store16]
  · iterate 7 rw [field_skip]
    rw [field_append_left]
    rfl
  · iterate 8 rw [field_skip]
    rw [field_append_left, load32_store32]
  · iterate 9 rw [field_skip]
    rw [field_append_left]

/-- A field inside a buffer. -/
theorem toList_field {bytes : List UInt8} {offset size : Nat}
    (within : offset + size ≤ bytes.length) :
    (field bytes offset size).toList = (bytes.drop offset).take size := by
  apply List.ext_getElem
  · simp only [Vector.length_toList, List.length_take, List.length_drop]
    omega
  · intro index bound bound'
    have inside : offset + index < bytes.length := by
      simp only [Vector.length_toList] at bound
      omega
    simp [field, inside]

end XdpExperiment

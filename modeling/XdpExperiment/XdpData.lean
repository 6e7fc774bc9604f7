import XdpExperiment.Packet

/-!
# The data class

`XdpData` is what a handler sees of a packet: a copy of the record with addresses as text and
numbers in host order. Text is produced by the C library into buffers of fixed size.
-/

namespace XdpExperiment

open Bytes

/-! ## Addresses as text -/

/-- `%02x`. -/
def hex02 (byte : UInt8) : List Char :=
  [Nat.digitChar (byte.toNat / 16), Nat.digitChar (byte.toNat % 16)]

/-- `%u` of a byte. -/
def decimal (byte : UInt8) : List Char := Nat.toDigits 10 byte.toNat

/-- `snprintf` into a buffer of some size, which keeps room for the terminating zero. -/
def snprintf (size : Nat) (text : List Char) : List Char := text.take (size - 1)

/-- The octets of an address in decimal, separated by dots. -/
def dottedQuad (octets : List UInt8) : List Char := ['.'].intercalate (octets.map decimal)

/-- The bytes of an address in hexadecimal, separated by colons. -/
def colonHex (bytes : List UInt8) : List Char := [':'].intercalate (bytes.map hex02)

/-- `inet_ntop(AF_INET, ...)` into a buffer that is large enough for the text. -/
def inetNtop (address : Vector UInt8 4) (size : Nat)
    (_enough : (dottedQuad address.toList).length < size) : List Char :=
  dottedQuad address.toList

def INET_ADDRSTRLEN : Nat := 16

theorem length_decimal_le (byte : UInt8) : (decimal byte).length ≤ 3 := by
  have byte_lt := byte.toNat_lt
  rw [decimal, Nat.length_toDigits_le_iff (by decide) (by decide)]
  omega

theorem toList_four (bytes : Vector UInt8 4) :
    bytes.toList = [bytes[0], bytes[1], bytes[2], bytes[3]] := by
  apply List.ext_getElem
  · simp
  · intro index bound _
    rw [Vector.length_toList] at bound
    obtain rfl | rfl | rfl | rfl : index = 0 ∨ index = 1 ∨ index = 2 ∨ index = 3 := by omega
    all_goals simp

theorem toList_six (bytes : Vector UInt8 6) :
    bytes.toList = [bytes[0], bytes[1], bytes[2], bytes[3], bytes[4], bytes[5]] := by
  apply List.ext_getElem
  · simp
  · intro index bound _
    rw [Vector.length_toList] at bound
    obtain rfl | rfl | rfl | rfl | rfl | rfl : index = 0 ∨ index = 1 ∨ index = 2 ∨ index = 3 ∨
      index = 4 ∨ index = 5 := by omega
    all_goals simp

/-- The buffer for an IPv4 address is always large enough. -/
theorem length_dottedQuad_lt (address : Vector UInt8 4) :
    (dottedQuad address.toList).length < INET_ADDRSTRLEN := by
  have first := length_decimal_le address[0]
  have second := length_decimal_le address[1]
  have third := length_decimal_le address[2]
  have fourth := length_decimal_le address[3]
  rw [toList_four, dottedQuad, INET_ADDRSTRLEN]
  simp only [List.map_cons, List.map_nil, List.intercalate_cons_cons, List.intercalate_singleton,
    List.length_append, List.length_singleton]
  omega

def formatMacAddress (macBytes : Vector UInt8 6) : String :=
  String.ofList (snprintf 18
    (hex02 macBytes[0] ++ ':' :: hex02 macBytes[1] ++ ':' :: hex02 macBytes[2] ++
      ':' :: hex02 macBytes[3] ++ ':' :: hex02 macBytes[4] ++ ':' :: hex02 macBytes[5]))

def formatIpv4Address (host : Endian) (ipv4AddressNetworkOrder : UInt32) : String :=
  let bytes := store32 host ipv4AddressNetworkOrder
  String.ofList (inetNtop bytes INET_ADDRSTRLEN (length_dottedQuad_lt bytes))

/-- The text of a MAC address is never truncated. -/
theorem formatMacAddress_eq (macBytes : Vector UInt8 6) :
    formatMacAddress macBytes = String.ofList (colonHex macBytes.toList) := by
  rw [formatMacAddress, toList_six, colonHex]
  simp [snprintf, hex02, List.intercalate_cons_cons]

/-- Whatever the host, the text of an address loaded from memory shows its bytes in order. -/
theorem formatIpv4Address_load32 (host : Endian) (bytes : Vector UInt8 4) :
    formatIpv4Address host (load32 host bytes) = String.ofList (dottedQuad bytes.toList) := by
  rw [formatIpv4Address, inetNtop, store32_load32]

/-! ## Names of protocols -/

def ipProtocolName (ipProtocol : UInt8) : String :=
  if ipProtocol = IPPROTO_TCP then "TCP"
  else if ipProtocol = IPPROTO_UDP then "UDP"
  else if ipProtocol = IPPROTO_ICMP then "ICMP"
  else
    String.ofList (snprintf 32 (['O', 't', 'h', 'e', 'r', '('] ++ decimal ipProtocol ++ [')']))

/-! ## The class -/

structure XdpData where
  destinationMacAddress : String
  sourceMacAddress : String
  etherType : UInt16
  sourceIpv4Address : String
  destinationIpv4Address : String
  ipProtocol : UInt8
  sourcePort : UInt16
  destinationPort : UInt16
  payloadBytes : List UInt8
  deriving DecidableEq

namespace XdpData

/-- The constructor; `none` is a null pointer. -/
def new (host : Endian) (rawPacketRecord : Option XdpPacket) : XdpData :=
  match rawPacketRecord with
  | none =>
      { destinationMacAddress := "", sourceMacAddress := "", etherType := 0,
        sourceIpv4Address := "", destinationIpv4Address := "", ipProtocol := 0,
        sourcePort := 0, destinationPort := 0, payloadBytes := [] }
  | some recordCopy =>
      let payloadLength := recordCopy.payloadByteCount.toNat
      let bytesToCopy :=
        if payloadLength ≤ XDP_PACKET_MAX_PAYLOAD_BYTES then payloadLength
        else XDP_PACKET_MAX_PAYLOAD_BYTES
      { destinationMacAddress := formatMacAddress recordCopy.destinationMacAddress
        sourceMacAddress := formatMacAddress recordCopy.sourceMacAddress
        etherType := ntohs host recordCopy.etherType
        sourceIpv4Address := formatIpv4Address host recordCopy.sourceIpAddress
        destinationIpv4Address := formatIpv4Address host recordCopy.destinationIpAddress
        ipProtocol := recordCopy.ipProtocol
        sourcePort := ntohs host recordCopy.sourcePort
        destinationPort := ntohs host recordCopy.destinationPort
        payloadBytes := recordCopy.payloadBytes.toList.take bytesToCopy }

/-- `ip_protocol_name()`. -/
def ipProtocolName (packetData : XdpData) : String :=
  XdpExperiment.ipProtocolName packetData.ipProtocol

/-- `payload_byte_count()`. -/
def payloadByteCount (packetData : XdpData) : Nat := packetData.payloadBytes.length

/-- However many bytes a record claims to carry, the payload is a prefix of its buffer. -/
theorem payloadBytes_new (host : Endian) (record : XdpPacket) :
    (new host (some record)).payloadBytes =
      record.payloadBytes.toList.take record.payloadByteCount.toNat := by
  simp only [new]
  split
  · rfl
  · rename_i long
    rw [List.take_of_length_le (by simp), List.take_of_length_le (by simp; omega)]

end XdpData
end XdpExperiment

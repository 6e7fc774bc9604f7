import Mathlib.Data.List.Count
import XdpExperiment.Decoder
import XdpExperiment.Tally

/-!
# The application of the integration example

The handler translates each packet into the application's own view of it, and the application counts
packets by the name of their protocol. Names stand for numbers without confusion, so that the counts
are those of the protocol numbers.
-/

namespace XdpExperiment

open Bytes

structure AppPacketView where
  sourceIpv4Address : String
  destinationIpv4Address : String
  sourcePort : UInt16
  destinationPort : UInt16
  protocolName : String
  payloadBytes : List UInt8

/-- The application, with what it has printed so far. -/
structure MyApplication where
  protocolPacketCounters : Tally String
  stdout : String

namespace MyApplication

def new : MyApplication := ⟨∅, ""⟩

def ingestPacket (packetView : AppPacketView) (application : MyApplication) : MyApplication :=
  let previewBytes := if packetView.payloadBytes.length < 16 then packetView.payloadBytes.length
    else 16
  { protocolPacketCounters :=
      application.protocolPacketCounters.increment packetView.protocolName
    stdout :=
      application.stdout ++ "app: " ++ packetView.sourceIpv4Address ++ " -> " ++
        packetView.destinationIpv4Address ++ ":" ++ toString packetView.destinationPort ++
        "  (proto=" ++ packetView.protocolName ++ ", payload=" ++
        toString packetView.payloadBytes.length ++ " bytes)\n" ++
        String.ofList ((packetView.payloadBytes.take previewBytes).flatMap fun byte =>
          hex02 byte ++ [' ']) ++ "\n" }

/-- `"  %-10s : %zu\n"`. -/
def summaryLine (protocolName : String) (count : UInt64) : String :=
  "  " ++ protocolName ++ "".pushn ' ' (10 - protocolName.length) ++ " : " ++ toString count ++ "\n"

def printSummary (application : MyApplication) : MyApplication :=
  { application with
    stdout := application.protocolPacketCounters.foldl
      (fun printed protocolName count => printed ++ summaryLine protocolName count)
      (application.stdout ++ "\napp summary (packets per protocol):\n") }

/-- A heading and a line for each counter. -/
def summary (counters : Tally String) : String :=
  "\napp summary (packets per protocol):\n" ++
    String.join (counters.toList.map fun entry => summaryLine entry.1 entry.2)

theorem foldl_summaryLine (entries : List (String × UInt64)) (printed : String) :
    entries.foldl (fun printed entry => printed ++ summaryLine entry.1 entry.2) printed =
      printed ++ String.join (entries.map fun entry => summaryLine entry.1 entry.2) := by
  induction entries generalizing printed with
  | nil => simp
  | cons entry entries ih =>
      rw [List.foldl_cons, List.map_cons, String.join_cons, ih, String.append_assoc]

theorem stdout_printSummary (application : MyApplication) :
    application.printSummary.stdout =
      application.stdout ++ summary application.protocolPacketCounters := by
  rw [printSummary, Std.ExtTreeMap.foldl_eq_foldl_toList, foldl_summaryLine]
  exact String.append_assoc

end MyApplication

/-- The handler of the integration example. -/
def appPacketHandler : PacketHandler MyApplication where
  onPacketArrived packetData targetApplication :=
    targetApplication.ingestPacket {
      sourceIpv4Address := packetData.sourceIpv4Address
      destinationIpv4Address := packetData.destinationIpv4Address
      sourcePort := packetData.sourcePort
      destinationPort := packetData.destinationPort
      protocolName := packetData.ipProtocolName
      payloadBytes := packetData.payloadBytes }

/-! ## Names of protocols -/

/-- The number of a protocol, from its name. -/
def protocolNumber : List Char → Nat
  | ['T', 'C', 'P'] => 6
  | ['U', 'D', 'P'] => 17
  | ['I', 'C', 'M', 'P'] => 1
  | name => Nat.ofDigitChars 10 (name.drop 6).dropLast 0

theorem protocolNumber_ipProtocolName (ipProtocol : UInt8) :
    protocolNumber (ipProtocolName ipProtocol).toList = ipProtocol.toNat := by
  rw [ipProtocolName]
  split
  case isTrue tcp =>
    rw [tcp]
    decide
  split
  case isTrue udp =>
    rw [udp]
    decide
  split
  case isTrue icmp =>
    rw [icmp]
    decide
  case isFalse =>
    have digits := length_decimal_le ipProtocol
    rw [snprintf, List.take_of_length_le (by simp; omega), String.toList_ofList]
    change Nat.ofDigitChars 10 (decimal ipProtocol ++ [')']).dropLast 0 = _
    rw [List.dropLast_concat, decimal, Nat.ofDigitChars_ten_toDigits]

theorem ipProtocolName_injective : Function.Injective ipProtocolName := by
  intro ipProtocol ipProtocol' same
  rw [← UInt8.toNat_inj, ← protocolNumber_ipProtocolName, same, protocolNumber_ipProtocolName]

/-! ## Counting records -/

variable {σ : Type*}

/-- Hand records to the callback one after the other. -/
def handleRecords (host : Endian) (handler : PacketHandler σ) (records : List (List UInt8))
    (state : σ) : σ :=
  records.foldl
    (fun state record => (handleRingbufSample host (some handler) record state).2) state

/-- The protocol numbers of records. -/
def protocols (host : Endian) (records : List (List UInt8)) : List UInt8 :=
  records.map fun record => (XdpPacket.ofBytes host record).ipProtocol

/-- The counters of a new application after some records. -/
def protocolCounters (host : Endian) (records : List (List UInt8)) : Tally String :=
  (handleRecords host appPacketHandler records .new).protocolPacketCounters

/-- A record is counted under the name of its protocol. -/
theorem counters_handleRingbufSample (host : Endian) {record : List UInt8}
    (whole : XDP_PACKET_SIZE ≤ record.length) (application : MyApplication) :
    (handleRingbufSample host (some appPacketHandler) record application).2.protocolPacketCounters =
      application.protocolPacketCounters.increment
        (ipProtocolName (XdpPacket.ofBytes host record).ipProtocol) := by
  rw [handleRingbufSample_decoded appPacketHandler whole]
  rfl

theorem counters_handleRecords (host : Endian) {records : List (List UInt8)}
    (whole : ∀ record ∈ records, XDP_PACKET_SIZE ≤ record.length) (application : MyApplication) :
    (handleRecords host appPacketHandler records application).protocolPacketCounters =
      ((protocols host records).map ipProtocolName).foldl Tally.increment
        application.protocolPacketCounters := by
  induction records generalizing application with
  | nil => rfl
  | cons record records ih =>
      rw [List.forall_mem_cons] at whole
      change (handleRecords host appPacketHandler records _).protocolPacketCounters = _
      rw [ih whole.2, counters_handleRingbufSample host whole.1]
      rfl

theorem protocolCounters_eq (host : Endian) {records : List (List UInt8)}
    (whole : ∀ record ∈ records, XDP_PACKET_SIZE ≤ record.length) :
    protocolCounters host records = Tally.ofList ((protocols host records).map ipProtocolName) :=
  counters_handleRecords host whole .new

theorem protocolCounters_perm (host : Endian) {records records' : List (List UInt8)}
    (whole : ∀ record ∈ records, XDP_PACKET_SIZE ≤ record.length) (perm : records.Perm records') :
    protocolCounters host records' = protocolCounters host records := by
  have whole' : ∀ record ∈ records', XDP_PACKET_SIZE ≤ record.length :=
    fun record member => whole record (perm.mem_iff.mpr member)
  rw [protocolCounters_eq host whole, protocolCounters_eq host whole']
  exact (Tally.ofList_perm ((perm.map _).map _)).symm

/-- In whichever order the records arrive, the summary adds the same text to the output. -/
theorem printSummary_perm (host : Endian) {records records' : List (List UInt8)}
    (whole : ∀ record ∈ records, XDP_PACKET_SIZE ≤ record.length) (perm : records.Perm records') :
    ∃ summary,
      (handleRecords host appPacketHandler records .new).printSummary.stdout =
          (handleRecords host appPacketHandler records .new).stdout ++ summary ∧
        (handleRecords host appPacketHandler records' .new).printSummary.stdout =
          (handleRecords host appPacketHandler records' .new).stdout ++ summary := by
  refine ⟨MyApplication.summary (protocolCounters host records),
    MyApplication.stdout_printSummary _, ?_⟩
  rw [← protocolCounters_perm host whole perm]
  exact MyApplication.stdout_printSummary _

/-- The statistics are exact. There is an entry for each protocol that occurred and no other, it
holds the number of records of that protocol, no two protocols share an entry, and nothing depends
on the order of the records. -/
theorem protocolCounters_exact (host : Endian) {records : List (List UInt8)}
    (whole : ∀ record ∈ records, XDP_PACKET_SIZE ≤ record.length)
    (few : records.length < UInt64.size) :
    (∀ name, name ∈ protocolCounters host records ↔
        ∃ ipProtocol ∈ protocols host records, ipProtocolName ipProtocol = name) ∧
      (∀ ipProtocol, ipProtocolName ipProtocol ∈ protocolCounters host records ↔
        ipProtocol ∈ protocols host records) ∧
      (∀ ipProtocol ∈ protocols host records, ∃ count,
        (protocolCounters host records)[ipProtocolName ipProtocol]? = some count ∧
          count.toNat = (protocols host records).count ipProtocol) ∧
      Function.Injective ipProtocolName ∧
      ((protocolCounters host records).toList.map fun entry => entry.2.toNat).sum =
        records.length ∧
      ∀ records', records.Perm records' →
        protocolCounters host records' = protocolCounters host records := by
  have length : (protocols host records).length = records.length := List.length_map _
  refine ⟨?_, ?_, ?_, ipProtocolName_injective, ?_, fun _ => protocolCounters_perm host whole⟩
  all_goals rw [protocolCounters_eq host whole]
  · intro name
    rw [Tally.mem_ofList, List.mem_map]
  · intro ipProtocol
    rw [Tally.mem_ofList, List.mem_map_of_injective ipProtocolName_injective]
  · intro ipProtocol occurs
    have named : ipProtocolName ipProtocol ∈ (protocols host records).map ipProtocolName :=
      List.mem_map_of_mem occurs
    have counted := Tally.getElem?_ofList named
    rw [List.count_map_of_injective _ _ ipProtocolName_injective] at counted
    refine ⟨_, counted, UInt64.toNat_ofNat_of_lt' ?_⟩
    exact lt_of_le_of_lt List.count_le_length (by rwa [length])
  · rw [Tally.sum_ofList (by rwa [List.length_map, length]), List.length_map, length]

/-- Three records, one of them in a larger slot. -/
theorem protocolCounters_exact_three :
    ((protocolCounters .little [List.replicate 159 6, List.replicate 200 17,
        List.replicate 159 6]).toList.map fun entry => entry.2.toNat).sum = 3 :=
  (protocolCounters_exact .little
    (by simp only [List.forall_mem_cons, List.length_replicate]; decide) (by decide)).2.2.2.2.1

end XdpExperiment

import XdpExperiment.XdpData

/-!
# The callback

The C function that libbpf calls for each record of the ring buffer, and the handler it passes the
packet on to. The state of a handler is whatever its class makes of it.
-/

namespace XdpExperiment

open Bytes

/-- A class derived from `PacketHandler` whose objects have states of type `σ`. -/
structure PacketHandler (σ : Type*) where
  onPacketArrived : XdpData → σ → σ

namespace PacketHandler

/-- The handler that keeps every packet. -/
def recorder : PacketHandler (List XdpData) where
  onPacketArrived packetData packets := packets ++ [packetData]

end PacketHandler

variable {σ : Type*}

/-- Called with the handler as context, null or not, and the bytes of a ring buffer slot. The first
result tells libbpf whether to stop consuming. -/
def handleRingbufSample (host : Endian) (callbackContext : Option (PacketHandler σ))
    (rawRecordData : List UInt8) (state : σ) : Int × σ :=
  if rawRecordData.length < XDP_PACKET_SIZE then
    (0, state)
  else
    let rawRecord := XdpPacket.ofBytes host rawRecordData
    let packetData := XdpData.new host (some rawRecord)
    match callbackContext with
    | none => (0, state)
    | some packetHandler => (0, packetHandler.onPacketArrived packetData state)

/-- A record that the XDP program submitted is delivered once. -/
theorem handleRingbufSample_toBytes (host : Endian) (handler : PacketHandler σ)
    (record : XdpPacket) (state : σ) :
    handleRingbufSample host (some handler) (record.toBytes host) state =
      (0, handler.onPacketArrived (XdpData.new host (some record)) state) := by
  have whole := ofBytes_toBytes host record []
  rw [List.append_nil] at whole
  rw [handleRingbufSample, if_neg (by rw [length_toBytes]; exact Nat.lt_irrefl _), whole]

end XdpExperiment

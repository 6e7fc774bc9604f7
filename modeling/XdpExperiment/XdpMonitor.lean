import XdpExperiment.Libbpf

/-!
# The monitor

`XdpMonitor` with its public methods, private lifecycle steps and destructor. Each method takes
the members and returns them, updated, next to its result. A lifetime is a sequence of public calls
on one freshly constructed monitor followed by the destructor.
-/

namespace XdpExperiment

open Interaction

/-- Name of the XDP program inside the object. -/
def XDP_PROGRAM_NAME : String := "xdp_capture_packet"

/-- Name of the ring buffer map inside the object. -/
def RINGBUF_MAP_NAME : String := "captured_packets_ringbuf"

/-- Timeout of one poll in milliseconds. -/
def POLL_TIMEOUT_MS : Int := 250

/-- The members of `XdpMonitor`, less the handler reference that the sample callback receives. -/
structure XdpMonitor where
  targetInterfaceName : String
  bpfObjectFilePath : String
  interfaceIndex : Int := -1
  bpfObject : Pointer := none
  xdpProgram : Pointer := none
  ringbufMap : Pointer := none
  ringBuffer : Pointer := none
  xdpProgramFd : Int := -1
  deriving DecidableEq

/-- One external call. -/
def invoke (call : Call) : Program signature call.Result :=
  @Program.perform signature call

namespace XdpMonitor

/-- `install_signal_handlers`, a static method. -/
def installSignalHandlers : Program signature Unit := do
  invoke (.signal .sigint)
  invoke (.signal .sigterm)

def construct (targetInterfaceName bpfObjectFilePath : String) : XdpMonitor :=
  { targetInterfaceName, bpfObjectFilePath }

/-- Step 1: interface name to index. -/
def resolveInterfaceIndex (self : XdpMonitor) : Program signature (Bool × XdpMonitor) := do
  let index ← invoke (.ifNametoindex self.targetInterfaceName)
  let self := { self with interfaceIndex := index.val }
  if self.interfaceIndex = 0 then
    return (false, self)
  return (true, self)

/-- Step 2: load the BPF object file into the kernel. -/
def loadBpfObject (self : XdpMonitor) : Program signature (Bool × XdpMonitor) := do
  let object ← invoke (.bpfObjectOpenFile self.bpfObjectFilePath)
  let self := { self with bpfObject := object }
  if self.bpfObject = none then
    return (false, self)
  let loaded ← invoke (.bpfObjectLoad self.bpfObject)
  if loaded ≠ 0 then
    return (false, self)
  return (true, self)

/-- Step 3: locate the XDP program and the ring buffer map by name. -/
def findBpfProgramAndMap (self : XdpMonitor) : Program signature (Bool × XdpMonitor) := do
  let program ← invoke (.bpfObjectFindProgramByName self.bpfObject XDP_PROGRAM_NAME)
  let self := { self with xdpProgram := program }
  if self.xdpProgram = none then
    return (false, self)
  let map ← invoke (.bpfObjectFindMapByName self.bpfObject RINGBUF_MAP_NAME)
  let self := { self with ringbufMap := map }
  if self.ringbufMap = none then
    return (false, self)
  let fd ← invoke (.bpfProgramFd self.xdpProgram)
  let self := { self with xdpProgramFd := fd }
  if self.xdpProgramFd < 0 then
    return (false, self)
  return (true, self)

/-- Step 4: attach the XDP program to the interface in generic mode. -/
def attachXdpProgram (self : XdpMonitor) : Program signature (Bool × XdpMonitor) := do
  let attachFlags : XdpFlags := { mode := .skb, updateIfNoexist := true }
  let attached ← invoke (.bpfXdpAttach self.interfaceIndex self.xdpProgramFd attachFlags)
  if attached ≠ 0 then
    return (false, self)
  return (true, self)

/-- Step 5: open the ring buffer consumer. -/
def openRingBuffer (self : XdpMonitor) : Program signature (Bool × XdpMonitor) := do
  let ringbufFd ← invoke (.bpfMapFd self.ringbufMap)
  if ringbufFd < 0 then
    return (false, self)
  let consumer ← invoke (.ringBufferNew ringbufFd)
  let self := { self with ringBuffer := consumer }
  if self.ringBuffer = none then
    return (false, self)
  return (true, self)

/-- Step 6: poll until a stop is requested. A failed poll leaves the loop as well. -/
def pollRingBuffer (self : XdpMonitor) : Program signature Unit :=
  .repeatWhile .stopMonitoringRequested fun stop => do
    if stop then
      return false
    let poll ← invoke (.ringBufferPoll self.ringBuffer POLL_TIMEOUT_MS)
    if poll.result < 0 then
      return false
    return true

/-- `run`: the full lifecycle, with the exit code the programs pass on. -/
def run (self : XdpMonitor) : Program signature (Int × XdpMonitor) := do
  let (resolved, self) ← self.resolveInterfaceIndex
  if !resolved then
    return (1, self)
  let (loaded, self) ← self.loadBpfObject
  if !loaded then
    return (1, self)
  let (found, self) ← self.findBpfProgramAndMap
  if !found then
    return (1, self)
  let (attached, self) ← self.attachXdpProgram
  if !attached then
    return (1, self)
  let (opened, self) ← self.openRingBuffer
  if !opened then
    return (1, self)
  self.pollRingBuffer
  return (0, self)

/-- `poll_ring_buffer_once`: one pass over the ring buffer, if its consumer is open. -/
def pollRingBufferOnce (self : XdpMonitor) : Program signature (Int × XdpMonitor) := do
  if self.ringBuffer = none then
    return (-EINVAL, self)
  let poll ← invoke (.ringBufferPoll self.ringBuffer POLL_TIMEOUT_MS)
  return (poll.result, self)

def detachXdpProgram (self : XdpMonitor) : Program signature XdpMonitor := do
  if 0 ≤ self.interfaceIndex ∧ 0 ≤ self.xdpProgramFd then
    let detachFlags : XdpFlags := { mode := .skb, updateIfNoexist := false }
    let _ ← invoke (.bpfXdpDetach self.interfaceIndex detachFlags)
    return { self with xdpProgramFd := -1 }
  return self

def closeRingBuffer (self : XdpMonitor) : Program signature XdpMonitor := do
  if self.ringBuffer ≠ none then
    invoke (.ringBufferFree self.ringBuffer)
    return { self with ringBuffer := none }
  return self

def closeBpfObject (self : XdpMonitor) : Program signature XdpMonitor := do
  if self.bpfObject ≠ none then
    invoke (.bpfObjectClose self.bpfObject)
    return { self with bpfObject := none }
  return self

/-- The destructor. -/
def destroy (self : XdpMonitor) : Program signature Unit := do
  let self ← self.detachXdpProgram
  let self ← self.closeRingBuffer
  let _ ← self.closeBpfObject

end XdpMonitor

/-- The public methods an application can call on a monitor. -/
inductive PublicCall
  | run
  | pollRingBufferOnce
  | installSignalHandlers
  deriving DecidableEq

namespace PublicCall

/-- Make one public call; a call without a result counts as returning `0`. -/
def perform : PublicCall → XdpMonitor → Program signature (Int × XdpMonitor)
  | .run, self => self.run
  | .pollRingBufferOnce, self => self.pollRingBufferOnce
  | .installSignalHandlers, self => do
      XdpMonitor.installSignalHandlers
      return (0, self)

/-- Make public calls in order, collecting their results. -/
def performAll : List PublicCall → XdpMonitor → Program signature (List Int × XdpMonitor)
  | [], self => return ([], self)
  | call :: calls, self => do
      let (result, self) ← call.perform self
      let (results, self) ← performAll calls self
      return (result :: results, self)

end PublicCall

/-- A monitor's lifetime: construction, public calls, destruction. -/
def lifetime (targetInterfaceName bpfObjectFilePath : String) (calls : List PublicCall) :
    Program signature (List Int) := do
  let (results, self) ←
    PublicCall.performAll calls (.construct targetInterfaceName bpfObjectFilePath)
  self.destroy
  return results

end XdpExperiment

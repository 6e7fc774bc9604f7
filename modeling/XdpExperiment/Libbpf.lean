import Mathlib.Algebra.Group.Nat.Defs
import XdpExperiment.Interaction.Trace

/-!
# The monitor's surroundings

The calls the monitor makes to libbpf, the kernel and the C library, and the part of their state
that decides what those calls do: the XDP programs attached to each interface, the records waiting
in the ring buffer, and the process's signal handlers with the flag they set.
-/

namespace XdpExperiment

open Interaction

/-- A pointer handed out by libbpf; `none` is the null pointer. -/
abbrev Pointer := Option Nat

/-- The kernel's index of a network interface, a nonnegative `int`; `0` names no interface. -/
structure Ifindex where
  /-- The index itself. -/
  val : Nat
  /-- Interface indices fit the `int` that the monitor stores them in. -/
  fits : val < 2 ^ 31
  deriving DecidableEq

/-- The answer to a name that no interface has. -/
def Ifindex.unknown : Ifindex := ⟨0, by decide⟩

/-- The two signals that ask the monitor to stop. -/
inductive StopSignal
  | sigint
  | sigterm
  deriving DecidableEq

/-- Where in the receive path an XDP program is attached. -/
inductive XdpMode
  | skb
  | driver
  | hardware
  deriving DecidableEq

/-- The `XDP_FLAGS_*` bits of an attach or detach request. -/
structure XdpFlags where
  /-- `XDP_FLAGS_SKB_MODE`, `XDP_FLAGS_DRV_MODE` or `XDP_FLAGS_HW_MODE`. -/
  mode : XdpMode
  /-- `XDP_FLAGS_UPDATE_IF_NOEXIST`. -/
  updateIfNoexist : Bool
  deriving DecidableEq

/-- An XDP program as the kernel sees it on an interface. -/
inductive XdpProgram
  /-- Attached by somebody else. -/
  | foreign (id : Nat)
  /-- Attached through a file descriptor of the monitor's own program. -/
  | loaded (fd : Int)
  deriving DecidableEq

/-- Outcome of one `ring_buffer__poll`: its return value, and the records for which the sample
callback ran. -/
structure Poll where
  /-- Bytes processed, or a negative errno. -/
  result : Int
  /-- Records handed to the callback, oldest first. -/
  records : List (List UInt8)
  deriving DecidableEq

/-- Every call by which the monitor reaches outside its own members. -/
inductive Call
  /-- `std::signal(signal, handle_interrupt_signal)`. -/
  | signal (signal : StopSignal)
  | ifNametoindex (name : String)
  | bpfObjectOpenFile (path : String)
  | bpfObjectLoad (object : Pointer)
  | bpfObjectFindProgramByName (object : Pointer) (name : String)
  | bpfObjectFindMapByName (object : Pointer) (name : String)
  | bpfProgramFd (program : Pointer)
  | bpfXdpAttach (ifindex programFd : Int) (flags : XdpFlags)
  | bpfMapFd (map : Pointer)
  | ringBufferNew (mapFd : Int)
  /-- A read of the `volatile` flag `stop_monitoring_requested`. -/
  | stopMonitoringRequested
  | ringBufferPoll (ringBuffer : Pointer) (timeoutMs : Int)
  | bpfXdpDetach (ifindex : Int) (flags : XdpFlags)
  | ringBufferFree (ringBuffer : Pointer)
  | bpfObjectClose (object : Pointer)
  deriving DecidableEq

/-- What each call returns. -/
@[reducible]
def Call.Result : Call → Type
  | .signal _ => Unit
  | .ifNametoindex _ => Ifindex
  | .bpfObjectOpenFile _ => Pointer
  | .bpfObjectLoad _ => Int
  | .bpfObjectFindProgramByName _ _ => Pointer
  | .bpfObjectFindMapByName _ _ => Pointer
  | .bpfProgramFd _ => Int
  | .bpfXdpAttach _ _ _ => Int
  | .bpfMapFd _ => Int
  | .ringBufferNew _ => Pointer
  | .stopMonitoringRequested => Bool
  | .ringBufferPoll _ _ => Poll
  | .bpfXdpDetach _ _ => Int
  | .ringBufferFree _ => Unit
  | .bpfObjectClose _ => Unit

/-- The monitor's calls as a signature of interactive programs. -/
abbrev signature : Signature where
  Op := Call
  Result := Call.Result

/-- What the surroundings do on their own. -/
inductive External
  /-- A signal is delivered to the process. -/
  | signal (signal : StopSignal)
  /-- The XDP program submits a record to the ring buffer. -/
  | record (bytes : List UInt8)
  deriving DecidableEq

/-- Events of an execution of the monitor. -/
abbrev Trace := List (Event signature External)

/-- What the surroundings offer in answer to the next call; each call takes its own field. -/
structure Reply where
  /-- Answer to `if_nametoindex`. -/
  ifindex : Ifindex := .unknown
  /-- Answer to the calls that return a pointer. -/
  pointer : Pointer := none
  /-- Answer to the calls that return an `int`. -/
  code : Int := 0
  /-- How many waiting records a poll hands to the callback. -/
  consumed : Nat := 0

/-- State of the surroundings. -/
structure World where
  /-- Whether `handle_interrupt_signal` handles a signal; otherwise its default action does. -/
  handlerInstalled : StopSignal → Bool
  /-- The file-level flag `stop_monitoring_requested`. -/
  stopMonitoringRequested : Bool
  /-- A signal's default action has ended the process. -/
  terminated : Bool
  /-- XDP programs by interface index and mode. -/
  attached : Int → XdpMode → Option XdpProgram
  /-- Records in the ring buffer that have not been consumed, oldest first. -/
  pending : List (List UInt8)

/-- A process that has just started, on a machine without XDP programs. -/
def World.idle : World where
  handlerInstalled := fun _ => false
  stopMonitoringRequested := false
  terminated := false
  attached := fun _ _ => none
  pending := []

/-- A process that has just started, on a machine where others have attached programs. -/
def World.booted (foreign : Int → XdpMode → Option Nat) : World :=
  { World.idle with
    attached := fun ifindex mode => (foreign ifindex mode).map .foreign }

/-- `World.idle` after `install_signal_handlers`. -/
def World.handlersInstalled : World :=
  { World.idle with handlerInstalled := fun _ => true }

/-- `errno` value that `bpf_xdp_attach` reports for an occupied interface. -/
def EBUSY : Int := 16

/-- `errno` value for an invalid argument. -/
def EINVAL : Int := 22

namespace World

/-- Some program, in whatever mode, is attached to the interface. -/
def Occupied (world : World) (ifindex : Int) : Prop :=
  ∃ mode ∈ [XdpMode.skb, .driver, .hardware], (world.attached ifindex mode).isSome

instance (world : World) (ifindex : Int) : Decidable (world.Occupied ifindex) :=
  inferInstanceAs (Decidable (∃ mode ∈ [XdpMode.skb, .driver, .hardware],
    (world.attached ifindex mode).isSome))

/-- Result of a call. An attach with `XDP_FLAGS_UPDATE_IF_NOEXIST` fails on an occupied interface
whatever the reply, a read of the stop flag sees its current value, and a poll hands over a prefix
of the waiting records; every other result is the reply's. -/
def result (world : World) : (call : Call) → Reply → call.Result
  | .signal _, _ => ()
  | .ifNametoindex _, reply => reply.ifindex
  | .bpfObjectOpenFile _, reply => reply.pointer
  | .bpfObjectLoad _, reply => reply.code
  | .bpfObjectFindProgramByName _ _, reply => reply.pointer
  | .bpfObjectFindMapByName _ _, reply => reply.pointer
  | .bpfProgramFd _, reply => reply.code
  | .bpfXdpAttach ifindex _ flags, reply =>
      if flags.updateIfNoexist ∧ world.Occupied ifindex ∧ reply.code = 0 then -EBUSY
      else reply.code
  | .bpfMapFd _, reply => reply.code
  | .ringBufferNew _, reply => reply.pointer
  | .stopMonitoringRequested, _ => world.stopMonitoringRequested
  | .ringBufferPoll _ _, reply =>
      { result := reply.code, records := world.pending.take reply.consumed }
  | .bpfXdpDetach _ _, reply => reply.code
  | .ringBufferFree _, _ => ()
  | .bpfObjectClose _, _ => ()

/-- A call returns unless the process is gone. -/
def respond (world : World) (call : Call) (reply : Reply) : Option call.Result :=
  if world.terminated then none else some (world.result call reply)

/-- The signal handler: it only sets the flag. -/
def handleInterruptSignal (world : World) : World :=
  { world with stopMonitoringRequested := true }

/-- Replace what is attached to one interface in one mode. -/
def setAttached (world : World) (ifindex : Int) (mode : XdpMode) (program : Option XdpProgram) :
    World :=
  { world with
    attached := fun ifindex' mode' =>
      if ifindex' = ifindex ∧ mode' = mode then program else world.attached ifindex' mode' }

/-- State after an event. A failed attach or detach changes nothing; a successful detach removes
whatever program is attached in the given mode. -/
def after (world : World) : Event signature External → World
  | .external (.signal signal) =>
      if world.handlerInstalled signal then world.handleInterruptSignal
      else { world with terminated := true }
  | .external (.record bytes) => { world with pending := world.pending ++ [bytes] }
  | .call (.signal signal) _ =>
      { world with
        handlerInstalled := fun other => other = signal || world.handlerInstalled other }
  | .call (.bpfXdpAttach ifindex programFd flags) (code : Int) =>
      if code = 0 then world.setAttached ifindex flags.mode (some (.loaded programFd)) else world
  | .call (.bpfXdpDetach ifindex flags) (code : Int) =>
      if code = 0 then world.setAttached ifindex flags.mode none else world
  | .call (.ringBufferPoll _ _) (poll : Poll) =>
      { world with pending := world.pending.drop poll.records.length }
  | .call _ _ => world

/-- Calls do not touch the stop flag. -/
@[simp] theorem after_call_stop (world : World) (call : Call) (result : call.Result) :
    (world.after (.call call result)).stopMonitoringRequested = world.stopMonitoringRequested := by
  cases call with
  | bpfXdpAttach ifindex fd flags =>
      simp only [after]
      split <;> rfl
  | bpfXdpDetach ifindex flags =>
      simp only [after]
      split <;> rfl
  | _ => rfl

theorem foldl_after_record (world : World) (records : List (List UInt8)) :
    ((records.map External.record).map Event.external).foldl after world =
      { world with pending := world.pending ++ records } := by
  induction records generalizing world with
  | nil => simp
  | cons record records ih =>
      rw [List.map_cons, List.map_cons, List.foldl_cons, ih]
      simp [after]

/-- The surroundings as an environment that starts in `world`. -/
abbrev environment (world : World) : Environment signature External where
  State := World
  initial := world
  Reply := Reply
  respond := respond
  after := after

end World

/-- Calls that can change what is attached to an interface. -/
inductive AttachmentCall : Call → Prop
  | attach (ifindex programFd : Int) (flags : XdpFlags) :
      AttachmentCall (.bpfXdpAttach ifindex programFd flags)
  | detach (ifindex : Int) (flags : XdpFlags) : AttachmentCall (.bpfXdpDetach ifindex flags)

namespace World

/-- Other events leave the attached programs alone. -/
theorem after_attached (world : World) (event : Event signature External)
    (untouched : ∀ call result, event = .call call result → ¬AttachmentCall call) :
    (world.after event).attached = world.attached := by
  cases event with
  | external action =>
      cases action with
      | signal signal =>
          simp only [after]
          split <;> rfl
      | record bytes => rfl
  | call call result =>
      cases call with
      | bpfXdpAttach ifindex programFd flags =>
          exact absurd (.attach _ _ _) (untouched _ _ rfl)
      | bpfXdpDetach ifindex flags => exact absurd (.detach _ _) (untouched _ _ rfl)
      | _ => rfl

theorem attached_append (world : World) (front : Trace) {back : Trace}
    (untouched : Without AttachmentCall back) :
    (world.environment.stateAfter (front ++ back)).attached =
      (world.environment.stateAfter front).attached := by
  induction back using List.reverseRecOn with
  | nil => rw [List.append_nil]
  | append_singleton back event ih =>
      rw [← List.append_assoc, Environment.stateAfter_append_singleton,
        after_attached _ _ fun call result same => ?_, ih untouched.of_append]
      exact untouched call result (by simp [same])

end World

/-- An attach with `XDP_FLAGS_UPDATE_IF_NOEXIST` only succeeds on a free interface. -/
theorem World.free_of_attached {world : World} {ifindex fd : Int} {flags : XdpFlags}
    {reply : Reply} (onlyFree : flags.updateIfNoexist = true)
    (answer : world.respond (.bpfXdpAttach ifindex fd flags) reply = some (0 : Int)) :
    ¬world.Occupied ifindex := by
  intro occupied
  simp only [respond, result, onlyFree, occupied, true_and] at answer
  split at answer
  · simp at answer
  · have refused := Option.some.inj answer
    split at refused
    · simp [EBUSY] at refused
    · next nonzero => exact nonzero refused

/-! ## Signal handlers and the stop flag along a run -/

namespace World

/-- Nothing clears the stop flag. -/
theorem stop_after {world : World} (event : Event signature External)
    (stop : world.stopMonitoringRequested = true) :
    (world.after event).stopMonitoringRequested = true := by
  cases event with
  | call call result => simpa using stop
  | external action =>
      cases action with
      | record bytes => exact stop
      | signal signal =>
          simp only [after]
          split
          · rfl
          · exact stop

theorem stop_append {world : World} {before : Trace} (after : Trace)
    (stop : (world.environment.stateAfter before).stopMonitoringRequested = true) :
    (world.environment.stateAfter (before ++ after)).stopMonitoringRequested = true := by
  induction after using List.reverseRecOn with
  | nil => simpa using stop
  | append_singleton after event ih =>
      rw [← List.append_assoc, Environment.stateAfter_append_singleton]
      exact stop_after event ih

/-- An installed handler stays installed. -/
theorem handlerInstalled_after {world : World} {signal : StopSignal}
    (event : Event signature External) (installed : world.handlerInstalled signal = true) :
    (world.after event).handlerInstalled signal = true := by
  cases event with
  | external action =>
      cases action with
      | record bytes => exact installed
      | signal delivered =>
          simp only [after]
          split <;> exact installed
  | call call result =>
      cases call with
      | signal other => simp [after, installed]
      | bpfXdpAttach ifindex fd flags =>
          simp only [after]
          split <;> exact installed
      | bpfXdpDetach ifindex flags =>
          simp only [after]
          split <;> exact installed
      | _ => exact installed

theorem handlerInstalled_stateAfter {world : World} {signal : StopSignal}
    (installed : world.handlerInstalled signal = true) (trace : Trace) :
    (world.environment.stateAfter trace).handlerInstalled signal = true := by
  induction trace using List.reverseRecOn with
  | nil => exact installed
  | append_singleton trace event ih =>
      rw [Environment.stateAfter_append_singleton]
      exact handlerInstalled_after event ih

/-- A delivered signal sets the flag once its handler is installed. -/
theorem stop_of_signal {world : World} {signal : StopSignal}
    (installed : world.handlerInstalled signal = true) (before : Trace) :
    (world.environment.stateAfter
      (before ++ [.external (.signal signal)])).stopMonitoringRequested = true := by
  have still := handlerInstalled_stateAfter installed before
  simp [after, still, handleInterruptSignal]

end World

end XdpExperiment

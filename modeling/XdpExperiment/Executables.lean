import XdpExperiment.Application
import XdpExperiment.CommandLine
import XdpExperiment.Interaction.Erasure
import XdpExperiment.MonitorCalls
import XdpExperiment.WholeSystem

/-!
# The two programs

The monitor with the messages it prints, and the `main` functions of both programs. Without what
they print, they are lifetimes of a monitor that is run once; so is each of their executions in the
whole system.
-/

namespace XdpExperiment

open Bytes Interaction

/-- What a program does inside of its process. -/
inductive Local (Method : Type)
  /-- A read of `errno`. -/
  | errno
  /-- `std::printf`. -/
  | printf (text : String)
  /-- `std::fprintf` to `stderr`. -/
  | fprintf (text : String)
  /-- A method of an object of its own. -/
  | method (method : Method)

@[reducible]
def Local.Result {Method : Type} : Local Method → Type
  | .errno => Int
  | .printf _ => Unit
  | .fprintf _ => Unit
  | .method _ => Unit

/-- What a program does inside of its process as a signature. -/
abbrev localSignature (Method : Type) : Signature where
  Op := Local Method
  Result := Local.Result

/-- Everything that a program does. -/
abbrev processSignature (Method : Type) : Signature := signature.sum (localSignature Method)

section Local

variable {Method : Type}

def perform (action : Local Method) : Program (processSignature Method) action.Result :=
  @Program.perform (processSignature Method) (.inr action)

/-- The calls that a method of the monitor makes without printing. -/
abbrev Silently (Method : Type) {α : Type} (program : Program signature α) :
    Program (processSignature Method) α :=
  program.embed (localSignature Method)

end Local

/-! ## The monitor and its messages -/

namespace XdpMonitor.Printing

variable {Method : Type} (strerror : Int → String)

def resolveInterfaceIndex (self : XdpMonitor) :
    Program (processSignature Method) (Bool × XdpMonitor) := do
  let index ← Silently Method (invoke (.ifNametoindex self.targetInterfaceName))
  let self := { self with interfaceIndex := index.val }
  if self.interfaceIndex = 0 then
    let errno ← perform .errno
    perform (.fprintf ("Error: unknown network interface '" ++ self.targetInterfaceName ++
      "' (errno=" ++ toString errno ++ ": " ++ strerror errno ++ ")\n"))
    return (false, self)
  return (true, self)

def loadBpfObject (self : XdpMonitor) :
    Program (processSignature Method) (Bool × XdpMonitor) := do
  let object ← Silently Method (invoke (.bpfObjectOpenFile self.bpfObjectFilePath))
  let self := { self with bpfObject := object }
  if self.bpfObject = none then
    let errno ← perform .errno
    perform (.fprintf ("Error: failed to open BPF object '" ++ self.bpfObjectFilePath ++
      "' (errno=" ++ toString errno ++ ": " ++ strerror errno ++ ")\n"))
    return (false, self)
  let loaded ← Silently Method (invoke (.bpfObjectLoad self.bpfObject))
  if loaded ≠ 0 then
    perform (.fprintf "Error: failed to load BPF object into the kernel\n")
    return (false, self)
  return (true, self)

def findBpfProgramAndMap (self : XdpMonitor) :
    Program (processSignature Method) (Bool × XdpMonitor) := do
  let program ← Silently Method
    (invoke (.bpfObjectFindProgramByName self.bpfObject XDP_PROGRAM_NAME))
  let self := { self with xdpProgram := program }
  if self.xdpProgram = none then
    perform (.fprintf ("Error: XDP program '" ++ XDP_PROGRAM_NAME ++ "' not found in object\n"))
    return (false, self)
  let map ← Silently Method (invoke (.bpfObjectFindMapByName self.bpfObject RINGBUF_MAP_NAME))
  let self := { self with ringbufMap := map }
  if self.ringbufMap = none then
    perform
      (.fprintf ("Error: ring buffer map '" ++ RINGBUF_MAP_NAME ++ "' not found in object\n"))
    return (false, self)
  let fd ← Silently Method (invoke (.bpfProgramFd self.xdpProgram))
  let self := { self with xdpProgramFd := fd }
  if self.xdpProgramFd < 0 then
    perform (.fprintf "Error: failed to get XDP program file descriptor\n")
    return (false, self)
  return (true, self)

def attachXdpProgram (self : XdpMonitor) :
    Program (processSignature Method) (Bool × XdpMonitor) := do
  let attachFlags : XdpFlags := { mode := .skb, updateIfNoexist := true }
  let attached ← Silently Method
    (invoke (.bpfXdpAttach self.interfaceIndex self.xdpProgramFd attachFlags))
  if attached ≠ 0 then
    let errno ← perform .errno
    perform (.fprintf ("Error: failed to attach XDP program to '" ++ self.targetInterfaceName ++
      "' (errno=" ++ toString errno ++ ": " ++ strerror errno ++ ").\n" ++
      "  Run with sudo, and make sure no other XDP program is\n" ++
      "  already attached (check: ip link show " ++ self.targetInterfaceName ++ ").\n"))
    return (false, self)
  return (true, self)

def openRingBuffer (self : XdpMonitor) :
    Program (processSignature Method) (Bool × XdpMonitor) := do
  let ringbufFd ← Silently Method (invoke (.bpfMapFd self.ringbufMap))
  if ringbufFd < 0 then
    perform (.fprintf "Error: failed to get ring buffer map fd\n")
    return (false, self)
  let consumer ← Silently Method (invoke (.ringBufferNew ringbufFd))
  let self := { self with ringBuffer := consumer }
  if self.ringBuffer = none then
    perform (.fprintf "Error: failed to open ring buffer consumer\n")
    return (false, self)
  return (true, self)

def pollRingBuffer (self : XdpMonitor) : Program (processSignature Method) Unit :=
  @Program.repeatWhile (processSignature Method) (.inl .stopMonitoringRequested) fun stop => do
    if stop then
      return false
    let poll ← Silently Method (invoke (.ringBufferPoll self.ringBuffer POLL_TIMEOUT_MS))
    if poll.result < 0 then
      perform (.fprintf ("Error: ring buffer poll failed (" ++ toString (-poll.result) ++ ": " ++
        strerror (-poll.result) ++ ")\n"))
      return false
    return true

/-- `"Monitoring interface '%s' (ifindex=%d). Press Ctrl-C to stop.\n"`. -/
def banner (targetInterfaceName : String) (interfaceIndex : Int) : String :=
  "Monitoring interface '" ++ targetInterfaceName ++ "' (ifindex=" ++ toString interfaceIndex ++
    "). Press Ctrl-C to stop.\n"

def farewell : String := "\nShutting down cleanly.\n"

def run (self : XdpMonitor) : Program (processSignature Method) (Int × XdpMonitor) := do
  let (resolved, self) ← resolveInterfaceIndex strerror self
  if !resolved then
    return (1, self)
  let (loaded, self) ← loadBpfObject strerror self
  if !loaded then
    return (1, self)
  let (found, self) ← findBpfProgramAndMap self
  if !found then
    return (1, self)
  let (attached, self) ← attachXdpProgram strerror self
  if !attached then
    return (1, self)
  let (opened, self) ← openRingBuffer self
  if !opened then
    return (1, self)
  perform (.printf (banner self.targetInterfaceName self.interfaceIndex))
  pollRingBuffer strerror self
  perform (.printf farewell)
  return (0, self)

end XdpMonitor.Printing

/-! ## The `main` functions -/

section Main

variable {Method : Type}

/-- Give up before anything else. -/
def reject (rejection : Rejection) : Program (processSignature Method) Int := do
  rejection.stderr.forM fun text => perform (.fprintf text)
  return rejection.status

variable (strerror : Int → String)

/-- `main` of the demo. -/
def xdpDemoMain (program embeddedPath : String) (arguments : List String) :
    Program (processSignature Empty) Int :=
  match xdpDemo program embeddedPath arguments with
  | .error rejection => reject rejection
  | .ok accepted => do
      Silently Empty XdpMonitor.installSignalHandlers
      let monitor := .construct accepted.targetInterfaceName accepted.bpfObjectFilePath
      let (status, monitor) ← XdpMonitor.Printing.run strerror monitor
      Silently Empty monitor.destroy
      return status

/-- The method of `MyApplication` that `main` calls; the other one is called by the handler. -/
inductive ApplicationMethod
  | printSummary
  deriving DecidableEq

/-- `main` of the integration example. The destructors run after everything else. -/
def xdpAppIntegrationExampleMain (program embeddedPath : String) (arguments : List String) :
    Program (processSignature ApplicationMethod) Int :=
  match xdpAppIntegrationExample program embeddedPath arguments with
  | .error rejection => reject rejection
  | .ok accepted => do
      Silently ApplicationMethod XdpMonitor.installSignalHandlers
      let monitor := .construct accepted.targetInterfaceName accepted.bpfObjectFilePath
      let (exitCode, monitor) ← XdpMonitor.Printing.run strerror monitor
      if exitCode = 0 then
        perform (.method .printSummary)
      Silently ApplicationMethod monitor.destroy
      return exitCode

end Main

/-! ## Without the messages -/

section Erasure

variable {Method : Type} {α β : Type} {returns : α → β → Prop}

theorem invoke_erases {call : Call} {next : call.Result → Program (processSignature Method) α}
    {next' : call.Result → Program signature β}
    (continues : ∀ result, (next result).Erases returns (next' result)) :
    ((Silently Method (invoke call)).bind next).Erases returns ((invoke call).bind next') :=
  @Program.Erases.call signature (localSignature Method) α β returns call next next' continues

theorem perform_erases {action : Local Method}
    {next : action.Result → Program (processSignature Method) α} {program' : Program signature β}
    (continues : ∀ result, (next result).Erases returns program') :
    ((perform action).bind next).Erases returns program' :=
  @Program.Erases.further signature (localSignature Method) α β returns action next program'
    continues

end Erasure

namespace XdpMonitor.Printing

variable {Method : Type} (strerror : Int → String) (self : XdpMonitor)

theorem resolveInterfaceIndex_erases :
    (resolveInterfaceIndex strerror self : Program (processSignature Method) _).Erases Eq
      self.resolveInterfaceIndex := by
  refine invoke_erases fun index => ?_
  simp only [Program.pure_eq, Program.bind_eq]
  split
  · exact perform_erases fun errno => perform_erases fun _ => .done rfl
  · exact .done rfl

theorem loadBpfObject_erases :
    (loadBpfObject strerror self : Program (processSignature Method) _).Erases Eq
      self.loadBpfObject := by
  refine invoke_erases fun object => ?_
  simp only [Program.pure_eq, Program.bind_eq]
  split
  · exact perform_erases fun errno => perform_erases fun _ => .done rfl
  · refine invoke_erases fun loaded => ?_
    split
    · exact perform_erases fun _ => .done rfl
    · exact .done rfl

theorem findBpfProgramAndMap_erases :
    (findBpfProgramAndMap self : Program (processSignature Method) _).Erases Eq
      self.findBpfProgramAndMap := by
  refine invoke_erases fun program => ?_
  simp only [Program.pure_eq, Program.bind_eq]
  split
  · exact perform_erases fun _ => .done rfl
  · refine invoke_erases fun map => ?_
    split
    · exact perform_erases fun _ => .done rfl
    · refine invoke_erases fun fd => ?_
      split
      · exact perform_erases fun _ => .done rfl
      · exact .done rfl

theorem attachXdpProgram_erases :
    (attachXdpProgram strerror self : Program (processSignature Method) _).Erases Eq
      self.attachXdpProgram := by
  refine invoke_erases fun attached => ?_
  simp only [Program.pure_eq, Program.bind_eq]
  split
  · exact perform_erases fun errno => perform_erases fun _ => .done rfl
  · exact .done rfl

theorem openRingBuffer_erases :
    (openRingBuffer self : Program (processSignature Method) _).Erases Eq
      self.openRingBuffer := by
  refine invoke_erases fun fd => ?_
  simp only [Program.pure_eq, Program.bind_eq]
  split
  · exact perform_erases fun _ => .done rfl
  · refine invoke_erases fun consumer => ?_
    split
    · exact perform_erases fun _ => .done rfl
    · exact .done rfl

theorem pollRingBuffer_erases :
    (pollRingBuffer strerror self : Program (processSignature Method) _).Erases Eq
      self.pollRingBuffer := by
  refine Program.Erases.loop _ (fun stop => ?_) (.done rfl)
  simp only [Program.pure_eq, Program.bind_eq]
  split
  · exact .done rfl
  · refine invoke_erases fun poll => ?_
    split
    · exact perform_erases fun _ => .done rfl
    · exact .done rfl

theorem run_erases :
    (run strerror self : Program (processSignature Method) _).Erases Eq self.run := by
  refine (resolveInterfaceIndex_erases strerror self).bind ?_
  rintro ⟨resolved, self⟩ _ rfl
  cases resolved
  case false => exact .done rfl
  refine (loadBpfObject_erases strerror self).bind ?_
  rintro ⟨loaded, self⟩ _ rfl
  cases loaded
  case false => exact .done rfl
  refine (findBpfProgramAndMap_erases self).bind ?_
  rintro ⟨found, self⟩ _ rfl
  cases found
  case false => exact .done rfl
  refine (attachXdpProgram_erases strerror self).bind ?_
  rintro ⟨attached, self⟩ _ rfl
  cases attached
  case false => exact .done rfl
  refine (openRingBuffer_erases self).bind ?_
  rintro ⟨opened, self⟩ _ rfl
  cases opened
  case false => exact .done rfl
  refine perform_erases fun _ => (pollRingBuffer_erases strerror self).bind ?_
  rintro _ _ rfl
  exact perform_erases fun _ => .done rfl

end XdpMonitor.Printing

/-- A lifetime in which the monitor is run once, with the signal handlers installed. -/
def singleRun (accepted : MonitorArguments) : Program signature (List Int) :=
  lifetime accepted.targetInterfaceName accepted.bpfObjectFilePath [.installSignalHandlers, .run]

theorem singleRun_eq (accepted : MonitorArguments) :
    singleRun accepted = XdpMonitor.installSignalHandlers.bind fun _ =>
      (XdpMonitor.construct accepted.targetInterfaceName accepted.bpfObjectFilePath).run.bind
        fun out => out.2.destroy.bind fun _ => .done [0, out.1] := by
  simp only [singleRun, lifetime, PublicCall.performAll, PublicCall.perform, Program.pure_eq,
    Program.bind_eq, Program.bind_assoc, Program.bind_done]

/-- The exit status is what the run returned. -/
def ExitsWith (status : Int) (results : List Int) : Prop := results = [0, status]

theorem xdpDemoMain_erases (strerror : Int → String) {program embeddedPath : String}
    {arguments : List String} {accepted : MonitorArguments}
    (accepts : xdpDemo program embeddedPath arguments = .ok accepted) :
    (xdpDemoMain strerror program embeddedPath arguments).Erases ExitsWith
      (singleRun accepted) := by
  rw [xdpDemoMain, accepts, singleRun_eq]
  refine (Program.Erases.embed _).bind ?_
  rintro _ _ rfl
  refine (XdpMonitor.Printing.run_erases strerror _).bind ?_
  rintro ⟨status, monitor⟩ _ rfl
  refine (Program.Erases.embed _).bind ?_
  rintro _ _ rfl
  exact .done rfl

theorem xdpAppIntegrationExampleMain_erases (strerror : Int → String)
    {program embeddedPath : String} {arguments : List String} {accepted : MonitorArguments}
    (accepts : xdpAppIntegrationExample program embeddedPath arguments = .ok accepted) :
    (xdpAppIntegrationExampleMain strerror program embeddedPath arguments).Erases ExitsWith
      (singleRun accepted) := by
  rw [xdpAppIntegrationExampleMain, accepts, singleRun_eq]
  refine (Program.Erases.embed _).bind ?_
  rintro _ _ rfl
  refine (XdpMonitor.Printing.run_erases strerror _).bind ?_
  rintro ⟨exitCode, monitor⟩ _ rfl
  have teardown : ((Silently ApplicationMethod monitor.destroy).bind fun _ =>
      .done exitCode).Erases ExitsWith (monitor.destroy.bind fun _ => .done [0, exitCode]) := by
    refine (Program.Erases.embed _).bind ?_
    rintro _ _ rfl
    exact .done rfl
  simp only [Program.pure_eq, Program.bind_eq]
  split
  · exact perform_erases fun _ => teardown
  · exact teardown

end XdpExperiment

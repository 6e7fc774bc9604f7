import XdpExperiment.Interaction.SideBySide
import XdpExperiment.Output

/-!
# Several instances on one machine

Any number of processes, each with a command line of its own for either program, share a machine on
which others have attached XDP programs before. The kernel refuses to attach a program where there
is one. Everybody's programs stay in place exactly if no process whose attach was refused detaches
what somebody else has attached.
-/

namespace XdpExperiment

open Interaction

/-! ## Attaching and detaching within a process -/

section Process

variable {External Method : Type}

/-- The process attaches or detaches a program. -/
inductive Touches : Call ⊕ Local Method → Prop
  | call {call : Call} : AttachmentCall call → Touches (.inl call)

/-- Whether an event is about what is attached. -/
def touching : Event (processSignature Method) External → Bool
  | .call (.inl (.bpfXdpAttach _ _ _)) _ => true
  | .call (.inl (.bpfXdpDetach _ _)) _ => true
  | _ => false

theorem touching_eq_false {op : Call ⊕ Local Method} (other : ¬Touches op)
    (result : (processSignature Method).Result op) :
    touching (@Event.call (processSignature Method) External op result) = false := by
  unfold touching
  split
  · rename_i same
    cases same
    exact absurd (.call (.attach _ _ _)) other
  · rename_i same
    cases same
    exact absurd (.call (.detach _ _)) other
  · rfl

theorem touching_eq_true {call : Call} (touches : AttachmentCall call) (result : call.Result) :
    touching (@Event.call (processSignature Method) External (.inl call) result) = true := by
  cases touches <;> rfl

/-- What a process has attached and detached. -/
def touched (history : List (Event (processSignature Method) External)) :
    List (Event (processSignature Method) External) :=
  history.filter touching

/-- The one thing touched is that a program was attached to the interface, or was to be. -/
def Tried (ifindex : Int) (events : List (Event (processSignature Method) External)) : Prop :=
  ∃ (fd code : Int), events = [@Event.call (processSignature Method) External
    (.inl (.bpfXdpAttach ifindex fd XdpMonitor.attachFlags)) code]

/-- A process attaches once at most, and detaches once at most, from where it attached or tried. -/
def Considerate : Discipline (processSignature Method) External :=
  fun history op => match op with
    | .inl (.bpfXdpAttach _ _ flags) => flags = XdpMonitor.attachFlags ∧ touched history = []
    | .inl (.bpfXdpDetach ifindex flags) =>
        flags = XdpMonitor.detachFlags ∧ Tried ifindex (touched history)
    | _ => True

theorem considerate_other {history : List (Event (processSignature Method) External)}
    {op : Call ⊕ Local Method} (other : ¬Touches op) : Considerate history op := by
  unfold Considerate
  split
  · exact absurd (.call (.attach _ _ _)) other
  · exact absurd (.call (.detach _ _)) other
  · trivial

variable {env : Environment (processSignature Method) External}
variable {history events : List (Event (processSignature Method) External)}

theorem touched_concat (history : List (Event (processSignature Method) External))
    (event : Event (processSignature Method) External) :
    touched (history ++ [event]) =
      if touching event then touched history ++ [event] else touched history := by
  rw [touched, List.filter_append, ← touched]
  cases touches : touching event <;> simp [touches]

/-- A program that touches nothing. -/
theorem confined_considerate {α : Type} {returned : α → Prop}
    {program : Program (processSignature Method) α}
    (confined : program.Confined Touches returned) (so_far : touched history = events) :
    Obeys env program Considerate
      (fun value history => returned value ∧ touched history = events) history := by
  refine Obeys.of_confined (fun history op so_far other => ?_) confined so_far
  refine ⟨considerate_other other, fun result => ?_⟩
  rw [touched_concat, touching_eq_false other, so_far]
  rfl

theorem startUp_not_touches (op : Call ⊕ Local Method) (starts : XdpMonitor.Printing.StartUp op) :
    ¬Touches op := by
  rintro ⟨⟨⟩⟩ <;> cases starts

theorem polling_not_touches (op : Call ⊕ Local Method) (polls : XdpMonitor.Printing.Polling op) :
    ¬Touches op := by
  rintro ⟨⟨⟩⟩ <;> cases polls

/-- Where the destructor detaches, the process has attached or tried to. -/
def Answerable (self : XdpMonitor) (events : List (Event (processSignature Method) External)) :
    Prop :=
  self.xdpProgramFd < 0 ∧ events = [] ∨ Tried self.interfaceIndex events

namespace XdpMonitor.Printing

variable {strerror : Int → String} {self : XdpMonitor}

theorem attachXdpProgram_considerate (untouched : touched history = []) :
    Obeys env (attachXdpProgram strerror self) Considerate
      (fun out history => out.2 = self ∧ Tried self.interfaceIndex (touched history))
      history := by
  refine .call ⟨rfl, untouched⟩ fun (code : Int) => ?_
  have so_far : touched (history ++ [@Event.call (processSignature Method) External
      (.inl (.bpfXdpAttach self.interfaceIndex self.xdpProgramFd attachFlags)) code]) =
        [.call (.inl (.bpfXdpAttach self.interfaceIndex self.xdpProgramFd attachFlags)) code] := by
    rw [touched_concat, untouched]
    rfl
  refine (confined_considerate ?_ so_far).mono
    fun out history ends => ⟨ends.1, _, code, ends.2⟩
  simp only [Program.pure_eq, Program.bind_eq, Program.embed, Program.bind_done]
  split
  · exact quoting_confined startUp_not_touches _ rfl
  · rfl

/-- What follows a successful attach touches nothing. -/
theorem afterAttach_considerate (tried : Tried self.interfaceIndex (touched history)) :
    Obeys env ((openRingBuffer self).bind fun out =>
        if !out.1 then .done ((1 : Int), out.2) else
          (perform (.printf (banner out.2.targetInterfaceName out.2.interfaceIndex))).bind fun _ =>
            (pollRingBuffer strerror out.2).bind fun _ =>
              (perform (.printf farewell)).bind fun _ => .done (0, out.2))
      Considerate (fun out history => Answerable out.2 (touched history)) history := by
  have prints (text : String) : ¬Touches (.inr (.printf text) : Call ⊕ Local Method) := by
    rintro ⟨⟩
  refine (@confined_considerate _ _ _ _ _ _ (fun out : Int × XdpMonitor =>
    out.2.interfaceIndex = self.interfaceIndex) _ ?_ rfl).mono ?_
  · refine (openRingBuffer_confined self startUp_not_touches).bind ?_
    rintro ⟨opened, self'⟩ ⟨-, same⟩
    cases opened
    case false => exact same
    refine perform_confined (prints _) fun _ => ?_
    refine (pollRingBuffer_confined strerror self' polling_not_touches).bind fun _ _ => ?_
    exact perform_confined (prints _) fun _ => same
  · rintro out history ⟨same, so_far⟩
    rw [Answerable, same, so_far]
    exact .inr tried

/-- A step that fails before the attach leaves nothing to answer for. -/
theorem run_considerate (unset : self.xdpProgramFd < 0) (untouched : touched history = []) :
    Obeys env (run strerror self) Considerate
      (fun out history => Answerable out.2 (touched history)) history := by
  refine .bind ((confined_considerate
    (resolveInterfaceIndex_confined strerror self startUp_not_touches) untouched).mono ?_)
  rintro ⟨resolved, self⟩ history ⟨same, untouched⟩
  rw [← same] at unset
  cases resolved
  case false => exact .done (.inl ⟨unset, untouched⟩)
  refine .bind ((confined_considerate
    (loadBpfObject_confined strerror self startUp_not_touches) untouched).mono ?_)
  rintro ⟨loaded, self⟩ history ⟨⟨-, same⟩, untouched⟩
  rw [← same] at unset
  cases loaded
  case false => exact .done (.inl ⟨unset, untouched⟩)
  refine .bind ((confined_considerate
    (findBpfProgramAndMap_confined self startUp_not_touches) untouched).mono ?_)
  rintro ⟨found, self⟩ history ⟨⟨-, still⟩, untouched⟩
  cases found
  case false => exact .done (.inl ⟨still rfl unset, untouched⟩)
  refine .bind ((attachXdpProgram_considerate untouched).mono ?_)
  rintro ⟨attached, self⟩ history ⟨rfl, tried⟩
  cases attached
  case false => exact .done (.inr tried)
  exact afterAttach_considerate tried

end XdpMonitor.Printing

theorem destroy_considerate {self : XdpMonitor} (answerable : Answerable self (touched history)) :
    Obeys env (Silently Method self.destroy) Considerate (fun _ _ => True) history := by
  rw [XdpMonitor.destroy_eq, Silently, Program.embed_bind]
  have releases (self : XdpMonitor)
      (history : List (Event (processSignature Method) External)) :
      Obeys env (Silently Method self.release) Considerate (fun _ _ => True) history := by
    have confined : (Silently Method self.release).Confined Touches fun _ => True :=
      silently_confined (self.release_avoids fun call releases => by
        rintro ⟨⟨⟩⟩ <;> cases releases)
    exact (confined_considerate confined rfl).mono fun _ _ _ => trivial
  refine .bind ?_
  simp only [XdpMonitor.detachXdpProgram, Program.bind_eq, Program.pure_eq]
  split
  · rename_i guard
    have tried : Tried self.interfaceIndex (touched history) := by
      rcases answerable with ⟨unset, -⟩ | tried
      · exact absurd guard.2 (Int.not_le.mpr unset)
      · exact tried
    exact .call ⟨rfl, tried⟩ fun _ => .done (releases _ _)
  · exact .done (releases _ _)

theorem signal_not_touches (signal : StopSignal) :
    ¬Touches (.inl (.signal signal) : Call ⊕ Local Method) := by rintro ⟨⟨⟩⟩

/-- Both programs up to the end of the run. -/
theorem start_considerate (strerror : Int → String) (accepted : MonitorArguments)
    {α : Type} {next : Int × XdpMonitor → Program (processSignature Method) α}
    (continues : ∀ out history, Answerable out.2 (touched history) →
      Obeys env (next out) Considerate (fun _ _ => True) history) :
    Obeys env ((Silently Method XdpMonitor.installSignalHandlers).bind fun _ =>
      (XdpMonitor.Printing.run strerror (.construct accepted.targetInterfaceName
        accepted.bpfObjectFilePath)).bind next) Considerate (fun _ _ => True) [] := by
  have handlers : (Silently Method XdpMonitor.installSignalHandlers).Confined Touches
      fun _ => True :=
    silently_confined ⟨signal_not_touches _, fun _ => ⟨signal_not_touches _, fun _ => trivial⟩⟩
  refine .bind ((confined_considerate handlers rfl).mono ?_)
  rintro _ history ⟨-, untouched⟩
  have unset : (XdpMonitor.construct accepted.targetInterfaceName
      accepted.bpfObjectFilePath).xdpProgramFd < 0 := by simp [XdpMonitor.construct]
  exact .bind ((XdpMonitor.Printing.run_considerate unset untouched).mono continues)

theorem reject_considerate (rejection : Rejection) :
    Obeys env (reject rejection) Considerate (fun _ _ => True) [] := by
  have confined : (reject rejection : Program (processSignature Method) Int).Confined Touches _ :=
    reject_confined (fun _ => by rintro ⟨⟩) rejection
  exact (confined_considerate confined rfl).mono fun _ _ _ => trivial

theorem xdpDemoMain_considerate {env : Environment (processSignature Empty) External}
    (strerror : Int → String) (program embeddedPath : String) (arguments : List String) :
    Obeys env (xdpDemoMain strerror program embeddedPath arguments) Considerate
      (fun _ _ => True) [] := by
  rw [xdpDemoMain]
  cases xdpDemo program embeddedPath arguments with
  | error rejection => exact reject_considerate rejection
  | ok accepted =>
      refine start_considerate strerror accepted fun out history answerable => ?_
      exact .bind ((destroy_considerate answerable).mono fun _ _ _ => .done trivial)

theorem xdpAppMain_considerate {env : Environment (processSignature ApplicationMethod) External}
    (strerror : Int → String) (program embeddedPath : String) (arguments : List String) :
    Obeys env (xdpAppIntegrationExampleMain strerror program embeddedPath arguments) Considerate
      (fun _ _ => True) [] := by
  rw [xdpAppIntegrationExampleMain]
  cases xdpAppIntegrationExample program embeddedPath arguments with
  | error rejection => exact reject_considerate rejection
  | ok accepted =>
      refine start_considerate strerror accepted fun out history answerable => ?_
      have teardown {history : List (Event (processSignature ApplicationMethod) External)}
          (answerable : Answerable out.2 (touched history)) :
          Obeys env ((Silently ApplicationMethod out.2.destroy).bind fun _ => .done out.1)
            Considerate (fun _ _ => True) history :=
        .bind ((destroy_considerate answerable).mono fun _ _ _ => .done trivial)
      simp only [Program.pure_eq, Program.bind_eq]
      split
      · refine .call trivial fun _ => teardown ?_
        rwa [touched_concat]
      · exact teardown answerable

end Process

/-! ## The programs -/

/-- Either program with its command line. -/
inductive Executable
  | xdpDemo (program embeddedPath : String) (arguments : List String)
  | xdpAppIntegrationExample (program embeddedPath : String) (arguments : List String)

namespace Executable

/-- Methods of the objects that a program has of its own. -/
def Method : Executable → Type
  | .xdpDemo _ _ _ => Empty
  | .xdpAppIntegrationExample _ _ _ => ApplicationMethod

def main (strerror : Int → String) :
    (executable : Executable) → Program (processSignature executable.Method) Int
  | .xdpDemo program embeddedPath arguments =>
      xdpDemoMain strerror program embeddedPath arguments
  | .xdpAppIntegrationExample program embeddedPath arguments =>
      xdpAppIntegrationExampleMain strerror program embeddedPath arguments

theorem main_considerate {External : Type} (strerror : Int → String) (executable : Executable)
    (env : Environment (processSignature executable.Method) External) :
    Obeys env (executable.main strerror) Considerate (fun _ _ => True) [] := by
  cases executable with
  | xdpDemo program embeddedPath arguments =>
      exact xdpDemoMain_considerate strerror program embeddedPath arguments
  | xdpAppIntegrationExample program embeddedPath arguments =>
      exact xdpAppMain_considerate strerror program embeddedPath arguments

end Executable

/-! ## The machine -/

section Machine

variable {π : Type} {Method : π → Type}

/-- The calls of several processes. -/
abbrev machineSignature (Method : π → Type) : Signature :=
  Signature.sigma fun process => processSignature (Method process)

/-- What happens on the machine: signals and records are for one of the processes. -/
abbrev HostEvent (Method : π → Type) : Type := Event (machineSignature Method) (π × External)

/-- A program on an interface, and the process that attached it, if it was one of these. -/
structure Attachment (π : Type) where
  owner : Option π
  program : XdpProgram

/-- State of the machine. -/
structure Host (π : Type) where
  /-- XDP programs by interface index and mode. -/
  attached : Int → XdpMode → Option (Attachment π)
  /-- The surroundings of each process, less what is attached. -/
  process : π → World

namespace Host

/-- No process has done anything on a machine where others have attached programs. -/
def booted (foreign : Int → XdpMode → Option Nat) : Host π where
  attached := fun ifindex mode => (foreign ifindex mode).map fun id => ⟨none, .foreign id⟩
  process := fun _ => World.idle

/-- The surroundings of one process. -/
def world (host : Host π) (process : π) : World :=
  { host.process process with
    attached := fun ifindex mode => (host.attached ifindex mode).map Attachment.program }

/-- Replace what is attached to one interface in one mode. -/
def setAttached (host : Host π) (ifindex : Int) (mode : XdpMode)
    (attachment : Option (Attachment π)) : Int → XdpMode → Option (Attachment π) :=
  fun ifindex' mode' =>
    if ifindex' = ifindex ∧ mode' = mode then attachment else host.attached ifindex' mode'

/-- What is there then has been put there or was there before. -/
theorem setAttached_cases {host : Host π} {ifindex ifindex' : Int} {mode mode' : XdpMode}
    {attachment : Option (Attachment π)} {found : Attachment π}
    (attached : host.setAttached ifindex mode attachment ifindex' mode' = some found) :
    (ifindex' = ifindex ∧ mode' = mode) ∧ attachment = some found ∨
      ¬(ifindex' = ifindex ∧ mode' = mode) ∧ host.attached ifindex' mode' = some found := by
  unfold setAttached at attached
  split at attached
  · exact .inl ⟨‹_›, attached⟩
  · exact .inr ⟨‹_›, attached⟩

/-- What is attached after a call of one process. -/
def attachedAfter (host : Host π) (process : π) :
    (call : Call) → call.Result → Int → XdpMode → Option (Attachment π)
  | .bpfXdpAttach ifindex fd flags, (code : Int) =>
      if code = 0 then host.setAttached ifindex flags.mode (some ⟨some process, .loaded fd⟩)
      else host.attached
  | .bpfXdpDetach ifindex flags, (code : Int) =>
      if code = 0 then host.setAttached ifindex flags.mode none else host.attached
  | _, _ => host.attached

variable [DecidableEq π]

/-- State after an event. -/
def after (host : Host π) : HostEvent Method → Host π
  | .external (process, action) =>
      { host with
        process := Function.update host.process process
          ((host.world process).after (.external action)) }
  | .call ⟨process, .inl call⟩ result =>
      { attached := host.attachedAfter process call result
        process := Function.update host.process process
          ((host.world process).after (.call call result)) }
  | .call ⟨_, .inr _⟩ _ => host

/-- The machine as the environment of all processes. -/
abbrev environment (foreign : Int → XdpMode → Option Nat) :
    Environment (machineSignature Method) (π × External) where
  State := Host π
  initial := booted foreign
  Reply := Reply
  respond := fun host op reply => match op with
    | ⟨process, .inl call⟩ => (host.world process).respond call reply
    | ⟨process, .inr action⟩ =>
        if (host.process process).terminated then none
        else some (System.localResult reply action)
  after := after

/-- What a process does to the machine is what it does to its surroundings. -/
theorem world_after_call (host : Host π) (process : π) (call : Call) (result : call.Result) :
    (host.after (@Event.call (machineSignature Method) (π × External) ⟨process, .inl call⟩
      result)).world process = (host.world process).after (.call call result) := by
  cases call with
  | bpfXdpAttach ifindex fd flags =>
      simp only [after, world, attachedAfter, World.after, Function.update_self]
      split
      · simp only [World.setAttached, setAttached, World.mk.injEq, true_and, and_true]
        funext ifindex' mode'
        split <;> rfl
      · rfl
  | bpfXdpDetach ifindex flags =>
      simp only [after, world, attachedAfter, World.after, Function.update_self]
      split
      · simp only [World.setAttached, setAttached, World.mk.injEq, true_and, and_true]
        funext ifindex' mode'
        split <;> rfl
      · rfl
  | _ =>
      simp only [after, world, attachedAfter, World.after, Function.update_self]

end Host

/-! ## Who holds an interface -/

/-- A call of one of the processes with its result. -/
abbrev calledBy (process : π) (call : Call) (result : call.Result) : HostEvent Method :=
  @Event.call (machineSignature Method) (π × External) ⟨process, .inl call⟩ result

/-- The process attached its program to the interface and has not detached it. -/
def Holds (trace : List (HostEvent Method)) (process : π) (ifindex : Int) : Prop :=
  (∃ fd : Int,
      calledBy process (.bpfXdpAttach ifindex fd XdpMonitor.attachFlags) (0 : Int) ∈ trace) ∧
    calledBy process (.bpfXdpDetach ifindex XdpMonitor.detachFlags) (0 : Int) ∉ trace

/-- The process was refused to attach its program to the interface. -/
def Refused (trace : List (HostEvent Method)) (process : π) (ifindex : Int) : Prop :=
  ∃ fd code : Int, code ≠ 0 ∧
    calledBy process (.bpfXdpAttach ifindex fd XdpMonitor.attachFlags) code ∈ trace

/-- Everybody's programs are in place: those of the processes that hold an interface, and those
that others had attached before. -/
structure InPlace (foreign : Int → XdpMode → Option Nat) (trace : List (HostEvent Method))
    (host : Host π) : Prop where
  held : ∀ process ifindex, Holds trace process ifindex →
    ∃ fd, host.attached ifindex .skb = some ⟨some process, .loaded fd⟩
  found : ∀ ifindex mode id, foreign ifindex mode = some id →
    host.attached ifindex mode = some ⟨none, .foreign id⟩

/-- No program is on an interface but those. -/
structure Accounted (foreign : Int → XdpMode → Option Nat) (trace : List (HostEvent Method))
    (host : Host π) : Prop where
  held : ∀ process program ifindex mode,
    host.attached ifindex mode = some ⟨some process, program⟩ →
      mode = .skb ∧ Holds trace process ifindex
  found : ∀ program ifindex mode, host.attached ifindex mode = some ⟨none, program⟩ →
    ∃ id, foreign ifindex mode = some id ∧ program = .foreign id

/-- A process whose attach was refused detaches what somebody else has on the interface. -/
inductive Intrusion (foreign : Int → XdpMode → Option Nat) (before : List (HostEvent Method)) :
    HostEvent Method → Prop
  | held {process other : π} {ifindex : Int} : Refused before process ifindex →
      other ≠ process → Holds before other ifindex →
      Intrusion foreign before
        (calledBy process (.bpfXdpDetach ifindex XdpMonitor.detachFlags) (0 : Int))
  | found {process : π} {ifindex : Int} {id : Nat} : Refused before process ifindex →
      foreign ifindex .skb = some id →
      Intrusion foreign before
        (calledBy process (.bpfXdpDetach ifindex XdpMonitor.detachFlags) (0 : Int))

/-- Events other than attaching and detaching. -/
def Elsewhere (event : HostEvent Method) : Prop :=
  ∀ process call result, event = calledBy process call result → ¬AttachmentCall call

/-- What an event can be when each process is considerate. -/
inductive Orderly (host : Host π) (before : List (HostEvent Method)) : HostEvent Method → Prop
  /-- A first attach, which needs a free interface. -/
  | attach {process : π} {ifindex fd code : Int} :
      (∀ call result, AttachmentCall call → calledBy process call result ∉ before) →
      (code = 0 → ∀ mode, host.attached ifindex mode = none) →
      Orderly host before
        (calledBy process (.bpfXdpAttach ifindex fd XdpMonitor.attachFlags) code)
  /-- A first detach, where the process attached or tried to. -/
  | detach {process : π} {ifindex fd code code' : Int} :
      calledBy process (.bpfXdpAttach ifindex fd XdpMonitor.attachFlags) code' ∈ before →
      (∀ call result, AttachmentCall call → calledBy process call result ∈ before →
        (calledBy process call result : HostEvent Method) =
          calledBy process (.bpfXdpAttach ifindex fd XdpMonitor.attachFlags) code') →
      Orderly host before (calledBy process (.bpfXdpDetach ifindex XdpMonitor.detachFlags) code)
  | elsewhere {event : HostEvent Method} : Elsewhere event → Orderly host before event

section Steps

variable {foreign : Int → XdpMode → Option Nat} {before : List (HostEvent Method)}
variable {event : HostEvent Method} {process : π} {ifindex : Int}

theorem Holds.concat (holds : Holds before process ifindex)
    (stays : event ≠ calledBy process (.bpfXdpDetach ifindex XdpMonitor.detachFlags) (0 : Int)) :
    Holds (before ++ [event]) process ifindex := by
  obtain ⟨⟨fd, attached⟩, undetached⟩ := holds
  refine ⟨⟨fd, List.mem_append_left _ attached⟩, fun detached => ?_⟩
  rcases List.mem_append.mp detached with earlier | now
  · exact undetached earlier
  · exact stays (List.mem_singleton.mp now).symm

/-- A process that holds an interface has held it before or has just attached. -/
theorem Holds.of_concat (holds : Holds (before ++ [event]) process ifindex) :
    Holds before process ifindex ∨
      ∃ fd : Int, event = calledBy process (.bpfXdpAttach ifindex fd XdpMonitor.attachFlags)
        (0 : Int) := by
  obtain ⟨⟨fd, attached⟩, undetached⟩ := holds
  rcases List.mem_append.mp attached with earlier | now
  · exact .inl ⟨⟨fd, earlier⟩, fun detached => undetached (List.mem_append_left _ detached)⟩
  · exact .inr ⟨fd, (List.mem_singleton.mp now).symm⟩

theorem Holds.undetached (holds : Holds (before ++ [event]) process ifindex) :
    event ≠ calledBy process (.bpfXdpDetach ifindex XdpMonitor.detachFlags) (0 : Int) := by
  rintro rfl
  exact holds.2 (by simp)

theorem Elsewhere.holds_concat (elsewhere : Elsewhere event) :
    Holds (before ++ [event]) process ifindex ↔ Holds before process ifindex := by
  constructor
  · intro holds
    rcases holds.of_concat with holds | ⟨fd, rfl⟩
    · exact holds
    · exact absurd (.attach _ _ _) (elsewhere _ _ _ rfl)
  · intro holds
    refine holds.concat ?_
    rintro rfl
    exact absurd (.detach _ _) (elsewhere _ _ _ rfl)

variable {host : Host π}

/-- Only one process holds an interface. -/
theorem InPlace.alone (inPlace : InPlace foreign before host) {other : π}
    (holds : Holds before process ifindex) (holds' : Holds before other ifindex) :
    other = process := by
  obtain ⟨fd, attached⟩ := inPlace.held process ifindex holds
  obtain ⟨fd', attached'⟩ := inPlace.held other ifindex holds'
  rw [attached] at attached'
  cases attached'
  rfl

/-- Nobody holds an interface where others have attached a program before. -/
theorem InPlace.nothing (inPlace : InPlace foreign before host)
    (holds : Holds before process ifindex) : foreign ifindex .skb = none := by
  obtain ⟨fd, attached⟩ := inPlace.held process ifindex holds
  cases there : foreign ifindex .skb with
  | none => rfl
  | some id =>
      have attached' := inPlace.found ifindex .skb id there
      rw [attached] at attached'
      cases attached'

/-- What changes nothing that is attached, and gives nobody an interface, leaves all in place. -/
theorem InPlace.unchanged (inPlace : InPlace foreign before host) {host' : Host π}
    (same : host'.attached = host.attached)
    (held : ∀ process ifindex, Holds (before ++ [event]) process ifindex →
      Holds before process ifindex) :
    InPlace foreign (before ++ [event]) host' := by
  constructor
  · intro process ifindex holds
    rw [same]
    exact inPlace.held process ifindex (held process ifindex holds)
  · intro ifindex mode id there
    rw [same]
    exact inPlace.found ifindex mode id there

/-- What changes nothing that is attached, and takes no interface from anybody, leaves all
accounted for. -/
theorem Accounted.unchanged (accounted : Accounted foreign before host) {host' : Host π}
    (same : host'.attached = host.attached)
    (held : ∀ process ifindex, Holds before process ifindex →
      Holds (before ++ [event]) process ifindex) :
    Accounted foreign (before ++ [event]) host' := by
  constructor
  · intro process program ifindex mode attached
    rw [same] at attached
    obtain ⟨generic, holds⟩ := accounted.held process program ifindex mode attached
    exact ⟨generic, held process ifindex holds⟩
  · intro program ifindex mode attached
    rw [same] at attached
    exact accounted.found program ifindex mode attached

variable [DecidableEq π]

theorem Elsewhere.attached (elsewhere : Elsewhere event) (host : Host π) :
    (host.after event).attached = host.attached := by
  rcases event with ⟨⟨process, call | action⟩, result⟩ | ⟨process, action⟩
  · cases call with
    | bpfXdpAttach ifindex fd flags => exact absurd (.attach _ _ _) (elsewhere _ _ _ rfl)
    | bpfXdpDetach ifindex flags => exact absurd (.detach _ _) (elsewhere _ _ _ rfl)
    | _ => rfl
  · rfl
  · rfl

/-- An accepted attach takes a free interface. -/
theorem InPlace.attach (inPlace : InPlace foreign before host) {fd : Int}
    (attaches : event = calledBy process (.bpfXdpAttach ifindex fd XdpMonitor.attachFlags)
      (0 : Int)) (free : ∀ mode, host.attached ifindex mode = none) :
    InPlace foreign (before ++ [event]) (host.after event) := by
  subst attaches
  have occupied {ifindex' : Int} {mode : XdpMode} {attachment : Attachment π}
      (attached : host.attached ifindex' mode = some attachment) : ifindex' ≠ ifindex := by
    rintro rfl
    rw [free] at attached
    cases attached
  constructor
  · intro process' ifindex' holds
    rcases holds.of_concat with holds | ⟨fd', same⟩
    · obtain ⟨fd', attached⟩ := inPlace.held process' ifindex' holds
      refine ⟨fd', Eq.trans ?_ attached⟩
      exact if_neg fun same => occupied attached same.1
    · cases same
      exact ⟨fd, if_pos ⟨rfl, rfl⟩⟩
  · intro ifindex' mode id there
    have attached := inPlace.found ifindex' mode id there
    refine Eq.trans ?_ attached
    exact if_neg fun same => occupied attached same.1

/-- An accepted detach takes away what nobody else has there. -/
theorem InPlace.detach (inPlace : InPlace foreign before host)
    (detaches : event = calledBy process (.bpfXdpDetach ifindex XdpMonitor.detachFlags) (0 : Int))
    (alone : ∀ other, Holds before other ifindex → other = process)
    (nothing : foreign ifindex .skb = none) :
    InPlace foreign (before ++ [event]) (host.after event) := by
  subst detaches
  constructor
  · intro other ifindex' holds
    rcases holds.of_concat with earlier | ⟨fd, same⟩
    · obtain ⟨fd, attached⟩ := inPlace.held other ifindex' earlier
      refine ⟨fd, Eq.trans ?_ attached⟩
      refine if_neg fun same => ?_
      obtain ⟨rfl, -⟩ := same
      obtain rfl := alone other earlier
      exact holds.undetached rfl
    · cases same
  · intro ifindex' mode id there
    refine Eq.trans ?_ (inPlace.found ifindex' mode id there)
    refine if_neg fun same => ?_
    obtain ⟨rfl, rfl⟩ := same
    cases nothing.symm.trans there

/-- Without an intrusion everything stays in place. -/
theorem InPlace.step (inPlace : InPlace foreign before host) (orderly : Orderly host before event)
    (noIntrusion : ¬Intrusion foreign before event) :
    InPlace foreign (before ++ [event]) (host.after event) := by
  cases orderly with
  | elsewhere elsewhere =>
      exact inPlace.unchanged (elsewhere.attached host) fun _ _ => elsewhere.holds_concat.mp
  | @attach process ifindex fd code fresh free =>
      by_cases accepted : code = 0
      · subst accepted
        exact inPlace.attach rfl (free rfl)
      · refine inPlace.unchanged (if_neg accepted) fun _ _ holds => ?_
        rcases holds.of_concat with holds | ⟨fd', same⟩
        · exact holds
        · cases same
          exact absurd rfl accepted
  | @detach process ifindex fd code code' tried only =>
      by_cases accepted : code = 0
      · subst accepted
        by_cases refused : code' = 0
        · -- The process holds the interface, so that nobody else does.
          subst refused
          have holds : Holds before process ifindex := by
            refine ⟨⟨fd, tried⟩, fun detached => ?_⟩
            cases only _ _ (.detach _ _) detached
          exact inPlace.detach rfl (fun other => inPlace.alone holds) (inPlace.nothing holds)
        · have refused' : Refused before process ifindex := ⟨fd, code', refused, tried⟩
          refine inPlace.detach rfl ?_ ?_
          · intro other holds
            by_contra different
            exact noIntrusion (.held refused' different holds)
          · cases there : foreign ifindex .skb with
            | none => rfl
            | some id => exact absurd (.found refused' there) noIntrusion
      · refine inPlace.unchanged (if_neg accepted) fun _ _ holds => ?_
        rcases holds.of_concat with holds | ⟨fd', same⟩
        · exact holds
        · cases same

/-- An intrusion takes something from its place. -/
theorem Intrusion.breaks (intrusion : Intrusion foreign before event) (host : Host π) :
    ¬InPlace foreign (before ++ [event]) (host.after event) := by
  intro inPlace
  cases intrusion with
  | @held process other ifindex refused different holds =>
      have still : Holds (before ++ [calledBy process
          (.bpfXdpDetach ifindex XdpMonitor.detachFlags) (0 : Int)]) other ifindex := by
        refine holds.concat ?_
        rintro ⟨⟩
        exact different rfl
      obtain ⟨fd, attached⟩ := inPlace.held other ifindex still
      simp [Host.after, Host.attachedAfter, Host.setAttached, XdpMonitor.detachFlags] at attached
  | @found process ifindex id refused there =>
      have attached := inPlace.found ifindex .skb id there
      simp [Host.after, Host.attachedAfter, Host.setAttached, XdpMonitor.detachFlags] at attached

/-- An accepted attach of a process that has not detached is accounted for. -/
theorem Accounted.attach (accounted : Accounted foreign before host) {fd : Int}
    (attaches : event = calledBy process (.bpfXdpAttach ifindex fd XdpMonitor.attachFlags)
      (0 : Int))
    (undetached : calledBy process (.bpfXdpDetach ifindex XdpMonitor.detachFlags) (0 : Int) ∉
      before) :
    Accounted foreign (before ++ [event]) (host.after event) := by
  subst attaches
  constructor
  · intro other program ifindex' mode attached
    rcases Host.setAttached_cases attached with ⟨⟨rfl, rfl⟩, same⟩ | ⟨-, attached⟩
    · cases same
      refine ⟨rfl, ⟨fd, by simp⟩, fun detached => ?_⟩
      rcases List.mem_append.mp detached with earlier | now
      · exact undetached earlier
      · cases List.mem_singleton.mp now
    · obtain ⟨generic, holds⟩ := accounted.held other program ifindex' mode attached
      exact ⟨generic, holds.concat fun same => by cases same⟩
  · intro program ifindex' mode attached
    rcases Host.setAttached_cases attached with ⟨-, same⟩ | ⟨-, attached⟩
    · cases same
    · exact accounted.found program ifindex' mode attached

/-- After an accepted detach nothing is left on the interface to account for. -/
theorem Accounted.detach (accounted : Accounted foreign before host)
    (detaches : event = calledBy process (.bpfXdpDetach ifindex XdpMonitor.detachFlags)
      (0 : Int)) :
    Accounted foreign (before ++ [event]) (host.after event) := by
  subst detaches
  constructor
  · intro other program ifindex' mode attached
    rcases Host.setAttached_cases attached with ⟨-, same⟩ | ⟨elsewhere, attached⟩
    · cases same
    · obtain ⟨generic, holds⟩ := accounted.held other program ifindex' mode attached
      refine ⟨generic, holds.concat ?_⟩
      rintro ⟨⟩
      exact elsewhere ⟨rfl, generic⟩
  · intro program ifindex' mode attached
    rcases Host.setAttached_cases attached with ⟨-, same⟩ | ⟨-, attached⟩
    · cases same
    · exact accounted.found program ifindex' mode attached

/-- Whatever is attached, it is known who attached it, and that nobody has detached it. -/
theorem Accounted.step (accounted : Accounted foreign before host)
    (orderly : Orderly host before event) :
    Accounted foreign (before ++ [event]) (host.after event) := by
  cases orderly with
  | elsewhere elsewhere =>
      exact accounted.unchanged (elsewhere.attached host) fun _ _ => elsewhere.holds_concat.mpr
  | @attach process ifindex fd code fresh free =>
      by_cases accepted : code = 0
      · subst accepted
        exact accounted.attach rfl (fresh _ _ (.detach _ _))
      · refine accounted.unchanged (if_neg accepted) fun _ _ holds => holds.concat ?_
        rintro ⟨⟩
  | @detach process ifindex fd code code' tried only =>
      by_cases accepted : code = 0
      · subst accepted
        exact accounted.detach rfl
      · refine accounted.unchanged (if_neg accepted) fun _ _ holds => holds.concat ?_
        rintro ⟨⟩
        exact accepted rfl

end Steps

/-! ## Shared executions -/

variable [DecidableEq π]

/-- Processes in the middle of a shared execution on one machine. -/
abbrev Instances (programs : π → Executable) : Type 1 :=
  Team (fun process => processSignature (programs process).Method) (π × External) fun _ => Int

/-- All processes before they have done anything. -/
abbrev Instances.start (strerror : Int → String) (programs : π → Executable) : Instances programs :=
  Team.start (π × External) fun process => (programs process).main strerror

/-- What one process touched is what was touched by its calls. -/
theorem mem_touched_callsOf {before : List (HostEvent Method)} {process : π} {call : Call}
    {result : call.Result} (touches : AttachmentCall call)
    (happened : calledBy process call result ∈ before) :
    @Event.call (processSignature (Method process)) (HostEvent Method) (.inl call) result ∈
      touched (callsOf process before) :=
  List.mem_filter.mpr ⟨mem_callsOf.mpr happened, touching_eq_true touches result⟩

omit [DecidableEq π] in
theorem Host.free_of_attached {host : Host π} {process : π} {ifindex fd : Int} {reply : Reply}
    (answer : (host.world process).respond (.bpfXdpAttach ifindex fd XdpMonitor.attachFlags) reply =
      some (0 : Int)) (mode : XdpMode) : host.attached ifindex mode = none := by
  have free := World.free_of_attached rfl answer
  rcases there : host.attached ifindex mode with _ | attachment
  · rfl
  · refine absurd ⟨mode, by cases mode <;> simp, ?_⟩ free
    simp [world, there]

/-- Every process is considerate, and the kernel attaches only to free interfaces. -/
theorem Instances.orderly (foreign : Int → XdpMode → Option Nat) (strerror : Int → String)
    (programs : π → Executable) (turns : List (TeamTick π Reply (π × External)))
    {before after : List (HostEvent fun process => (programs process).Method)}
    {event : HostEvent fun process => (programs process).Method}
    (split : (Team.run (Host.environment foreign) (Instances.start strerror programs) turns).trace =
      before ++ event :: after) :
    Orderly ((Host.environment foreign).stateAfter before) before event := by
  have admitted := @Team.run_admits π _ (π × External) (fun _ => Int) _ (Host.environment foreign)
    (fun process => (programs process).main strerror) turns before event after split
  rcases event with ⟨⟨process, call | action⟩, result⟩ | ⟨process, action⟩
  · have considerate := @Team.call_allowed π _ (π × External) (fun _ => Int) _
      (Host.environment foreign) process (fun process => (programs process).main strerror) _ _
      ((programs process).main_considerate strerror _) turns before after (.inl call) result split
    cases call with
    | bpfXdpAttach ifindex fd flags =>
        obtain ⟨rfl, untouched⟩ := considerate
        refine .attach (fun call result touches happened => ?_) fun accepted mode => ?_
        · have member := mem_touched_callsOf touches happened
          rw [untouched] at member
          cases member
        · subst accepted
          obtain ⟨reply, answer⟩ := admitted _ _ rfl
          exact Host.free_of_attached answer mode
    | bpfXdpDetach ifindex flags =>
        obtain ⟨rfl, fd, code, tried⟩ := considerate
        refine @Orderly.detach _ _ _ _ process ifindex fd result code ?_ ?_
        · have member : @Event.call (processSignature (programs process).Method) _
              (.inl (.bpfXdpAttach ifindex fd XdpMonitor.attachFlags)) code ∈
                touched (callsOf process before) := by
            rw [tried]
            exact List.mem_singleton_self _
          exact mem_callsOf.mp (List.mem_of_mem_filter member)
        · intro call result touches happened
          have member := mem_touched_callsOf touches happened
          rw [tried] at member
          cases List.mem_singleton.mp member
          rfl
    | _ => exact .elsewhere (by rintro _ _ _ ⟨⟩ ⟨⟩)
  · exact .elsewhere (by rintro _ _ _ ⟨⟩)
  · exact .elsewhere (by rintro _ _ _ ⟨⟩)

/-- Whatever is attached is accounted for along every execution. -/
theorem accounted_run {foreign : Int → XdpMode → Option Nat} {trace : List (HostEvent Method)}
    (orderly : AtEach (fun before event =>
      Orderly ((Host.environment foreign).stateAfter before) before event) trace) :
    Accounted foreign trace ((Host.environment foreign).stateAfter trace) := by
  induction trace using List.reverseRecOn with
  | nil =>
      constructor
      · intro process program ifindex mode attached
        obtain ⟨id, -, same⟩ := Option.map_eq_some_iff.mp attached
        cases same
      · intro program ifindex mode attached
        obtain ⟨id, there, same⟩ := Option.map_eq_some_iff.mp attached
        cases same
        exact ⟨id, there, rfl⟩
  | append_singleton trace event ih =>
      obtain ⟨before, last⟩ := AtEach.concat_iff.mp orderly
      rw [Environment.stateAfter_append_singleton]
      exact (ih before).step last

/-- Everything is in place along every execution without intrusions. -/
theorem inPlace_run {foreign : Int → XdpMode → Option Nat} {trace : List (HostEvent Method)}
    (orderly : AtEach (fun before event =>
      Orderly ((Host.environment foreign).stateAfter before) before event) trace)
    (quiet : AtEach (fun before event => ¬Intrusion foreign before event) trace) :
    InPlace foreign trace ((Host.environment foreign).stateAfter trace) := by
  induction trace using List.reverseRecOn with
  | nil =>
      constructor
      · rintro process ifindex ⟨⟨fd, attached⟩, -⟩
        cases attached
      · intro ifindex mode id there
        exact congrArg (Option.map _) there
  | append_singleton trace event ih =>
      obtain ⟨before, last⟩ := AtEach.concat_iff.mp orderly
      obtain ⟨quietBefore, noIntrusion⟩ := AtEach.concat_iff.mp quiet
      rw [Environment.stateAfter_append_singleton]
      exact (ih before quietBefore).step last noIntrusion

/-- Any number of processes, each of either program, share a machine on which others have attached
programs before, and are answered, interrupted and fed in any order. At every moment a program that
is on an interface was there before, or belongs to a process that attached it and has not detached
it. Everybody's programs are in place all along exactly if no process whose attach was refused
detaches what somebody else has on the interface. -/
theorem instances_inPlace_iff (foreign : Int → XdpMode → Option Nat) (strerror : Int → String)
    (programs : π → Executable) (turns : List (TeamTick π Reply (π × External))) :
    let machine : Environment _ (π × External) := Host.environment foreign
    let trace := ((Instances.start strerror programs).run machine turns).trace
    Accounted foreign trace (machine.stateAfter trace) ∧
      ((∀ front, front <+: trace → InPlace foreign front (machine.stateAfter front)) ↔
        AtEach (fun before event => ¬Intrusion foreign before event) trace) := by
  intro machine trace
  have orderly : AtEach (fun before event => Orderly (machine.stateAfter before) before event)
      trace := fun _ _ _ split => Instances.orderly foreign strerror programs turns split
  refine ⟨accounted_run orderly, fun inPlace => ?_, fun quiet front reached => ?_⟩
  · intro before event after split intrusion
    have still := inPlace (before ++ [event]) ⟨after, by simp [split]⟩
    rw [Environment.stateAfter_append_singleton] at still
    exact intrusion.breaks _ still
  · obtain ⟨back, split⟩ := reached
    rw [← split] at orderly quiet
    exact inPlace_run orderly.of_append quiet.of_append

end Machine
end XdpExperiment

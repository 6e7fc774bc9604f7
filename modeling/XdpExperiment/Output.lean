import XdpExperiment.Process
import XdpExperiment.PublicCalls

/-!
# What the programs show

A session shows the banner of the monitor, what the handler makes of each frame that was captured,
in order, and the farewell. Nothing but polls and the program's own printing changes what is shown.
-/

namespace XdpExperiment

open Bytes Interaction Reservation

variable {ι σ : Type} [DecidableEq ι] {Method : Type}

/-! ## Steps that show nothing -/

/-- The call hands records to the handler. -/
inductive Delivers : Call → Prop
  | poll (ring : Pointer) (timeout : Int) : Delivers (.ringBufferPoll ring timeout)

theorem System.after_quiet {host : Endian} {handler : PacketHandler σ} (system : System ι σ)
    {event : Event signature (Activity ι)} (quiet : event.Outside Delivers) :
    (system.after host handler event).machine.ring.consumed = system.machine.ring.consumed ∧
      (system.after host handler event).machine.handlerState = system.machine.handlerState ∧
      system.machine.reservedFrames <+:
        (system.after host handler event).machine.reservedFrames := by
  have idle : system.machine.ring.consumed = system.machine.ring.consumed ∧
      system.machine.handlerState = system.machine.handlerState ∧
      system.machine.reservedFrames <+: system.machine.reservedFrames :=
    ⟨rfl, rfl, List.prefix_rfl⟩
  have moved (step : Move ι) (noPoll : ∀ budget, step ≠ .poll budget) :
      (system.move host handler step).machine.ring.consumed = system.machine.ring.consumed ∧
        (system.move host handler step).machine.handlerState = system.machine.handlerState ∧
        system.machine.reservedFrames <+:
          (system.move host handler step).machine.reservedFrames := by
    simp only [move]
    cases taken : system.machine.step host handler step with
    | none => exact idle
    | some machine => exact Machine.step_quiet noPoll taken
  cases event with
  | external activity =>
      cases activity with
      | signal signal => exact idle
      | receive ifindex mode cpu frame =>
          rw [after]
          split
          · exact moved _ (by simp)
          · exact idle
      | reserve cpu slot => exact moved _ (by simp)
      | fill cpu => exact moved _ (by simp)
      | submit cpu => exact moved _ (by simp)
  | call call result =>
      cases call with
      | ringBufferPoll ring timeout => exact absurd (.poll ring timeout) (quiet _ _ rfl)
      | _ => exact idle

/-! ## Phases of a session -/

/-- Nothing was handed to the handler so far. -/
structure Fresh (host : Endian) (handler : PacketHandler σ) (start : σ) (system : System ι σ) :
    Prop where
  invariant : system.machine.Invariant host handler start
  untouched : system.machine.ring.consumed = 0

/-- The handler got the packets of the first frames captured, and `tail` happened since then. -/
def Shows (handler : PacketHandler σ) (start : σ) (tail : σ → σ) (system : System ι σ) : Prop :=
  ∃ frames, frames <+: system.machine.reservedFrames ∧
    system.machine.handlerState = tail (handled handler start (frames.map Frame.delivered))

/-- The program prints, which its handler may do as well. -/
inductive Writes : Call ⊕ Local Method → Prop
  | printf (text : String) : Writes (.inr (.printf text))
  | method (method : Method) : Writes (.inr (.method method))

/-- The program prints or hands records to the handler. -/
inductive Stirs : Call ⊕ Local Method → Prop
  | writes {op : Call ⊕ Local Method} : Writes op → Stirs op
  | delivers {call : Call} : Delivers call → Stirs (.inl call)

section Phases

variable {host : Endian} {handler : PacketHandler σ} {console : Console Method σ}
variable {foreign : Int → XdpMode → Option Nat} {boot start : σ}

/-- Shorthand for the state after a trace. -/
abbrev stateOf (host : Endian) (handler : PacketHandler σ) (console : Console Method σ)
    (foreign : Int → XdpMode → Option Nat) (boot : σ)
    (trace : List (Event (processSignature Method) (Activity ι))) : System ι σ :=
  (System.processEnvironment host handler console foreign boot).stateAfter trace

omit [DecidableEq ι] in
theorem Machine.Invariant.shows {system : System ι σ}
    (invariant : system.machine.Invariant host handler start) :
    Shows handler start id system :=
  ⟨_, List.take_prefix _ _, invariant.delivered.2⟩

omit [DecidableEq ι] in
theorem Fresh.handlerState {system : System ι σ} (fresh : Fresh host handler start system) :
    system.machine.handlerState = start := by
  rw [fresh.invariant.delivered.2, fresh.untouched]
  rfl

omit [DecidableEq ι] in
/-- What is printed first comes before everything else. -/
theorem Fresh.printf {system : System ι σ} (fresh : Fresh host handler start system)
    (console : Console Method σ) (text : String) :
    (system.performed console (.printf text)).machine.Invariant host handler
      (console.printf text start) := by
  have state := fresh.handlerState
  obtain ⟨⟨cpus, held, sound, -⟩, untouched⟩ := fresh
  refine ⟨cpus, held, sound, ?_⟩
  have nothing : system.machine.ring.taken = [] := by
    rw [Queue.taken, untouched, List.take_zero]
  change console.printf text system.machine.handlerState =
    handled handler (console.printf text start) (system.machine.ring.taken.map _)
  rw [state, nothing]
  rfl

omit [DecidableEq ι] in
/-- What is printed last comes after everything else. -/
theorem Shows.printf {system : System ι σ} {tail : σ → σ} (shows : Shows handler start tail system)
    (console : Console Method σ) (text : String) :
    Shows handler start (console.printf text ∘ tail) (system.performed console (.printf text)) := by
  obtain ⟨frames, reserved, state⟩ := shows
  exact ⟨frames, reserved, congrArg (console.printf text) state⟩

omit [DecidableEq ι] in
theorem Shows.method {system : System ι σ} {tail : σ → σ} (shows : Shows handler start tail system)
    (console : Console Method σ) (method : Method) :
    Shows handler start (console.method method ∘ tail)
      (system.performed console (.method method)) := by
  obtain ⟨frames, reserved, state⟩ := shows
  exact ⟨frames, reserved, congrArg (console.method method) state⟩

theorem stateOf_performed (trace : List (Event (processSignature Method) (Activity ι)))
    (action : Local Method) (result : action.Result) :
    stateOf host handler console foreign boot
        (trace ++ [@Event.call (processSignature Method) _ (.inr action) result]) =
      (stateOf host handler console foreign boot trace).performed console action :=
  Environment.stateAfter_append_singleton _ trace _

theorem keeps_invariant : Preserves Writes fun trace =>
    (stateOf host handler console foreign boot trace :
      System ι σ).machine.Invariant host handler start := by
  intro trace event outside invariant
  simp only [stateOf, Environment.stateAfter_append_singleton]
  rcases event with ⟨call | action, result⟩ | activity
  · exact System.after_invariant invariant _
  · cases action with
    | errno => exact invariant
    | printf text => exact absurd (.printf text) (outside _ _ rfl)
    | fprintf text => exact invariant
    | method method => exact absurd (.method method) (outside _ _ rfl)
  · exact System.after_invariant invariant _

/-- What an event that is neither a poll nor printing leaves as it is. -/
theorem stateOf_quiet {trace : List (Event (processSignature Method) (Activity ι))}
    {event : Event (processSignature Method) (Activity ι)} (outside : event.Outside Stirs) :
    let before := stateOf host handler console foreign boot trace
    let after := stateOf host handler console foreign boot (trace ++ [event])
    after.machine.ring.consumed = before.machine.ring.consumed ∧
      after.machine.handlerState = before.machine.handlerState ∧
      before.machine.reservedFrames <+: after.machine.reservedFrames := by
  intro before after
  simp only [after, Environment.stateAfter_append_singleton]
  rcases event with ⟨call | action, result⟩ | activity
  · apply System.after_quiet
    rintro _ _ ⟨⟩ delivers
    exact outside _ _ rfl (.delivers delivers)
  · cases action with
    | errno => exact ⟨rfl, rfl, List.prefix_rfl⟩
    | printf text => exact absurd (.writes (.printf text)) (outside _ _ rfl)
    | fprintf text => exact ⟨rfl, rfl, List.prefix_rfl⟩
    | method method => exact absurd (.writes (.method method)) (outside _ _ rfl)
  · apply System.after_quiet
    rintro _ _ ⟨⟩

theorem keeps_fresh : Preserves Stirs fun trace =>
    Fresh host handler start (stateOf host handler console foreign boot trace : System ι σ) := by
  intro trace event outside fresh
  constructor
  · apply keeps_invariant trace event _ fresh.invariant
    exact fun op result same writes => outside op result same (.writes writes)
  · exact (stateOf_quiet outside).1.trans fresh.untouched

theorem keeps_shows (tail : σ → σ) : Preserves Stirs fun trace =>
    Shows handler start tail (stateOf host handler console foreign boot trace : System ι σ) := by
  rintro trace event outside ⟨frames, reserved, state⟩
  obtain ⟨-, same, grown⟩ := @stateOf_quiet ι σ _ Method host handler console foreign boot trace
    event outside
  exact ⟨frames, reserved.trans grown, same.trans state⟩

end Phases

/-! ## The monitor's part -/

namespace XdpMonitor.Printing

theorem invoke_confined {avoided : Call ⊕ Local Method → Prop} {α : Type} {call : Call}
    {next : call.Result → Program (processSignature Method) α} {returned : α → Prop}
    (fine : ¬avoided (.inl call)) (continues : ∀ result, (next result).Confined avoided returned) :
    Program.Confined avoided returned ((Silently Method (invoke call)).bind next) :=
  ⟨fine, continues⟩

theorem perform_confined {avoided : Call ⊕ Local Method → Prop} {α : Type} {action : Local Method}
    {next : action.Result → Program (processSignature Method) α} {returned : α → Prop}
    (fine : ¬avoided (.inr action))
    (continues : ∀ result, (next result).Confined avoided returned) :
    Program.Confined avoided returned ((perform action).bind next) :=
  ⟨fine, continues⟩

/-- One call, whose result may be anything. -/
theorem invoke_ensures {External : Type} {env : Environment (processSignature Method) External}
    {α : Type} {call : Call} {next : call.Result → Program (processSignature Method) α}
    {waiting : Call ⊕ Local Method → List (Event (processSignature Method) External) → Prop}
    {returned : α → List (Event (processSignature Method) External) → Prop}
    {before : List (Event (processSignature Method) External) → Prop} (stable : Stable before)
    (step : ∀ trace, before trace → waiting (.inl call) trace ∧ ∀ result : call.Result,
      Ensures env (next result) waiting returned
        (trace ++ [@Event.call (processSignature Method) _ (.inl call) result]))
    {trace : List (Event (processSignature Method) External)} (holds : before trace) :
    Ensures env ((Silently Method (invoke call)).bind next) waiting returned trace := by
  refine Ensures.call stable (fun reached so_far => ?_) holds
  obtain ⟨waits, continues⟩ := step reached so_far
  exact ⟨waits, fun _ result _ => continues result⟩

/-- Printing, or a method of the program's own. -/
theorem perform_ensures {External : Type} {env : Environment (processSignature Method) External}
    {α : Type} {action : Local Method} {next : action.Result → Program (processSignature Method) α}
    {waiting : Call ⊕ Local Method → List (Event (processSignature Method) External) → Prop}
    {returned : α → List (Event (processSignature Method) External) → Prop}
    {before : List (Event (processSignature Method) External) → Prop} (stable : Stable before)
    (step : ∀ trace, before trace → waiting (.inr action) trace ∧ ∀ result : action.Result,
      Ensures env (next result) waiting returned
        (trace ++ [@Event.call (processSignature Method) _ (.inr action) result]))
    {trace : List (Event (processSignature Method) External)} (holds : before trace) :
    Ensures env ((perform action).bind next) waiting returned trace := by
  refine Ensures.call stable (fun reached so_far => ?_) holds
  obtain ⟨waits, continues⟩ := step reached so_far
  exact ⟨waits, fun _ result _ => continues result⟩

theorem not_stirs {call : Call} (other : ¬Delivers call) :
    ¬Stirs (.inl call : Call ⊕ Local Method) := by
  rintro (⟨⟨⟩⟩ | delivers)
  exact other delivers

theorem not_stirs_errno : ¬Stirs (.inr .errno : Call ⊕ Local Method) := by
  rintro ⟨⟨⟩⟩

theorem not_stirs_fprintf (text : String) :
    ¬Stirs (.inr (.fprintf text) : Call ⊕ Local Method) := by
  rintro ⟨⟨⟩⟩

/-- What the steps of the start-up do, save for attaching. -/
inductive StartUp : Call ⊕ Local Method → Prop
  | ifNametoindex (name : String) : StartUp (.inl (.ifNametoindex name))
  | bpfObjectOpenFile (path : String) : StartUp (.inl (.bpfObjectOpenFile path))
  | bpfObjectLoad (object : Pointer) : StartUp (.inl (.bpfObjectLoad object))
  | bpfObjectFindProgramByName (object : Pointer) (name : String) :
      StartUp (.inl (.bpfObjectFindProgramByName object name))
  | bpfObjectFindMapByName (object : Pointer) (name : String) :
      StartUp (.inl (.bpfObjectFindMapByName object name))
  | bpfProgramFd (program : Pointer) : StartUp (.inl (.bpfProgramFd program))
  | bpfMapFd (map : Pointer) : StartUp (.inl (.bpfMapFd map))
  | ringBufferNew (mapFd : Int) : StartUp (.inl (.ringBufferNew mapFd))
  | errno : StartUp (.inr .errno)
  | fprintf (text : String) : StartUp (.inr (.fprintf text))

theorem StartUp.not_stirs (op : Call ⊕ Local Method) (starts : StartUp op) : ¬Stirs op := by
  rintro (⟨⟨⟩⟩ | ⟨⟨⟩⟩) <;> cases starts

/-- What the banner is made of stays the same. -/
def SameTarget (self self' : XdpMonitor) : Prop :=
  self'.targetInterfaceName = self.targetInterfaceName ∧
    self'.interfaceIndex = self.interfaceIndex

section StartUp

variable {avoided : Call ⊕ Local Method → Prop} (strerror : Int → String) (self : XdpMonitor)

/-- A message that quotes `errno`, and the end of the step. -/
theorem quoting_confined (fine : ∀ op, StartUp op → ¬avoided op) {α : Type} {value : α}
    {returned : α → Prop} (text : Int → String) (holds : returned value) :
    Program.Confined avoided returned ((perform .errno).bind fun errno =>
      (perform (.fprintf (text errno))).bind fun _ => .done value) :=
  perform_confined (fine _ .errno) fun errno =>
    perform_confined (fine _ (.fprintf (text errno))) fun _ => holds

theorem resolveInterfaceIndex_confined (fine : ∀ op, StartUp op → ¬avoided op) :
    (resolveInterfaceIndex strerror self : Program (processSignature Method) _).Confined avoided
      fun out => out.2.xdpProgramFd = self.xdpProgramFd := by
  refine invoke_confined (fine _ (.ifNametoindex _)) fun index => ?_
  simp only [Program.pure_eq, Program.bind_eq]
  split
  · exact quoting_confined fine _ rfl
  · rfl

theorem loadBpfObject_confined (fine : ∀ op, StartUp op → ¬avoided op) :
    (loadBpfObject strerror self : Program (processSignature Method) _).Confined avoided
      fun out => SameTarget self out.2 ∧ out.2.xdpProgramFd = self.xdpProgramFd := by
  refine invoke_confined (fine _ (.bpfObjectOpenFile _)) fun object => ?_
  simp only [Program.pure_eq, Program.bind_eq]
  split
  · exact quoting_confined fine _ ⟨⟨rfl, rfl⟩, rfl⟩
  · refine invoke_confined (fine _ (.bpfObjectLoad _)) fun loaded => ?_
    split
    · exact perform_confined (fine _ (.fprintf _)) fun _ => ⟨⟨rfl, rfl⟩, rfl⟩
    · exact ⟨⟨rfl, rfl⟩, rfl⟩

/-- A lookup that fails does not find a descriptor. -/
theorem findBpfProgramAndMap_confined (fine : ∀ op, StartUp op → ¬avoided op) :
    (findBpfProgramAndMap self : Program (processSignature Method) _).Confined avoided
      fun out => SameTarget self out.2 ∧
        (out.1 = false → self.xdpProgramFd < 0 → out.2.xdpProgramFd < 0) := by
  refine invoke_confined (fine _ (.bpfObjectFindProgramByName _ _)) fun program => ?_
  simp only [Program.pure_eq, Program.bind_eq]
  split
  · exact perform_confined (fine _ (.fprintf _)) fun _ => ⟨⟨rfl, rfl⟩, fun _ unset => unset⟩
  · refine invoke_confined (fine _ (.bpfObjectFindMapByName _ _)) fun map => ?_
    split
    · exact perform_confined (fine _ (.fprintf _)) fun _ => ⟨⟨rfl, rfl⟩, fun _ unset => unset⟩
    · refine invoke_confined (fine _ (.bpfProgramFd _)) fun fd => ?_
      split
      · rename_i negative
        exact perform_confined (fine _ (.fprintf _)) fun _ => ⟨⟨rfl, rfl⟩, fun _ _ => negative⟩
      · exact ⟨⟨rfl, rfl⟩, fun failed => by cases failed⟩

theorem attachXdpProgram_confined (fine : ∀ op, StartUp op → ¬avoided op)
    (attaches : ∀ ifindex fd flags, ¬avoided (.inl (.bpfXdpAttach ifindex fd flags))) :
    (attachXdpProgram strerror self : Program (processSignature Method) _).Confined avoided
      fun out => out.2 = self := by
  refine invoke_confined (attaches _ _ _) fun attached => ?_
  simp only [Program.pure_eq, Program.bind_eq]
  split
  · exact quoting_confined fine _ rfl
  · rfl

theorem openRingBuffer_confined (fine : ∀ op, StartUp op → ¬avoided op) :
    (openRingBuffer self : Program (processSignature Method) _).Confined avoided
      fun out => SameTarget self out.2 := by
  refine invoke_confined (fine _ (.bpfMapFd _)) fun fd => ?_
  simp only [Program.pure_eq, Program.bind_eq]
  split
  · exact perform_confined (fine _ (.fprintf _)) fun _ => ⟨rfl, rfl⟩
  · refine invoke_confined (fine _ (.ringBufferNew _)) fun consumer => ?_
    split
    · exact perform_confined (fine _ (.fprintf _)) fun _ => ⟨rfl, rfl⟩
    · exact ⟨rfl, rfl⟩

end StartUp

/-- A later step of the start-up shows nothing and leaves what the banner is made of. -/
def LaterStep (self : XdpMonitor)
    (program : Program (processSignature Method) (Bool × XdpMonitor)) : Prop :=
  program.Confined Stirs fun out => SameTarget self out.2

variable (strerror : Int → String) (self : XdpMonitor)

theorem loadBpfObject_later :
    LaterStep self (loadBpfObject strerror self : Program (processSignature Method) _) :=
  (loadBpfObject_confined strerror self StartUp.not_stirs).mono fun _ kept => kept.1

theorem findBpfProgramAndMap_later :
    LaterStep self (findBpfProgramAndMap self : Program (processSignature Method) _) :=
  (findBpfProgramAndMap_confined self StartUp.not_stirs).mono fun _ kept => kept.1

theorem attachXdpProgram_later :
    LaterStep self (attachXdpProgram strerror self : Program (processSignature Method) _) := by
  have attaches (ifindex fd : Int) (flags : XdpFlags) :
      ¬Stirs (.inl (.bpfXdpAttach ifindex fd flags) : Call ⊕ Local Method) :=
    not_stirs (by rintro ⟨⟩)
  refine (attachXdpProgram_confined strerror self StartUp.not_stirs attaches).mono ?_
  rintro ⟨ok, _⟩ rfl
  exact ⟨rfl, rfl⟩

theorem openRingBuffer_later :
    LaterStep self (openRingBuffer self : Program (processSignature Method) _) :=
  openRingBuffer_confined self StartUp.not_stirs

/-- What the loop does. -/
inductive Polling : Call ⊕ Local Method → Prop
  | stopMonitoringRequested : Polling (.inl .stopMonitoringRequested)
  | ringBufferPoll (ring : Pointer) (timeout : Int) : Polling (.inl (.ringBufferPoll ring timeout))
  | fprintf (text : String) : Polling (.inr (.fprintf text))

/-- The loop hands records over, but prints nothing to `stdout` itself. -/
theorem Polling.not_writes (op : Call ⊕ Local Method) (polls : Polling op) : ¬Writes op := by
  rintro ⟨⟩ <;> cases polls

theorem pollRingBuffer_confined {avoided : Call ⊕ Local Method → Prop}
    (fine : ∀ op, Polling op → ¬avoided op) :
    (pollRingBuffer strerror self : Program (processSignature Method) _).Confined avoided
      fun _ => True := by
  refine ⟨fine _ .stopMonitoringRequested, fun stop => ?_, trivial⟩
  simp only [Program.pure_eq, Program.bind_eq]
  split
  · trivial
  · refine invoke_confined (fine _ (.ringBufferPoll _ _)) fun poll => ?_
    split
    · exact perform_confined (fine _ (.fprintf _)) fun _ => trivial
    · trivial

end XdpMonitor.Printing

/-! ## Sessions -/

/-- The lookup of the interface had this result. -/
def LookedUp (name : String) (index : Ifindex)
    (trace : List (Event (processSignature Method) (Activity ι))) : Prop :=
  @Event.call (processSignature Method) (Activity ι) (.inl (.ifNametoindex name)) index ∈ trace

omit [DecidableEq ι] in
theorem keeps_lookedUp (avoided : Call ⊕ Local Method → Prop) (name : String) (index : Ifindex) :
    Preserves avoided (LookedUp name index :
      List (Event (processSignature Method) (Activity ι)) → Prop) :=
  fun _ _ _ member => List.mem_append_left _ member

/-- The banner was printed for the index of the interface, then the packets of the first frames
captured were handled, and then `tail` was done. -/
def SessionShows (handler : PacketHandler σ) (console : Console Method σ) (start : σ)
    (name : String) (tail : σ → σ) (trace : List (Event (processSignature Method) (Activity ι)))
    (system : System ι σ) : Prop :=
  ∃ index, LookedUp name index trace ∧
    Shows handler (console.printf (XdpMonitor.Printing.banner name index.val) start) tail system

section Session

variable {host : Endian} {handler : PacketHandler σ} {console : Console Method σ}
variable {foreign : Int → XdpMode → Option Nat} {start : σ}

theorem keeps_session (name : String) (tail : σ → σ) : Preserves Stirs fun trace =>
    SessionShows handler console start name tail trace
      (stateOf host handler console foreign start trace : System ι σ) := by
  rintro trace event outside ⟨index, looked, shows⟩
  exact ⟨index, List.mem_append_left _ looked, keeps_shows tail trace event outside shows⟩

/-- What can be seen while the monitor runs. -/
def Running (host : Endian) (handler : PacketHandler σ) (console : Console Method σ) (start : σ)
    (name : String) (trace : List (Event (processSignature Method) (Activity ι)))
    (system : System ι σ) : Prop :=
  Fresh host handler start system ∨ SessionShows handler console start name id trace system ∨
    SessionShows handler console start name (console.printf XdpMonitor.Printing.farewell) trace
      system

/-- What can be seen when the monitor returns. -/
def Ran (host : Endian) (handler : PacketHandler σ) (console : Console Method σ) (start : σ)
    (name : String) (status : Int) (trace : List (Event (processSignature Method) (Activity ι)))
    (system : System ι σ) : Prop :=
  status = 1 ∧ Fresh host handler start system ∨
    status = 0 ∧
      SessionShows handler console start name (console.printf XdpMonitor.Printing.farewell) trace
        system

/-- The monitor is about to show the banner, unless a step of the start-up fails. -/
structure Launching (host : Endian) (handler : PacketHandler σ) (start : σ) (name : String)
    (index : Ifindex) (monitor : XdpMonitor)
    (trace : List (Event (processSignature Method) (Activity ι))) (system : System ι σ) : Prop where
  fresh : Fresh host handler start system
  looked : LookedUp name index trace
  named : monitor.targetInterfaceName = name
  indexed : monitor.interfaceIndex = index.val

namespace XdpMonitor.Printing

variable (strerror : Int → String) (self : XdpMonitor)

theorem resolveInterfaceIndex_output
    {trace : List (Event (processSignature Method) (Activity ι))}
    (fresh : Fresh host handler start (stateOf host handler console foreign start trace)) :
    Ensures (System.processEnvironment host handler console foreign start)
      (resolveInterfaceIndex strerror self)
      (fun _ trace => Running host handler console start self.targetInterfaceName trace
        (stateOf host handler console foreign start trace))
      (fun out trace => ∃ index, Launching host handler start self.targetInterfaceName index out.2
        trace (stateOf host handler console foreign start trace)) trace := by
  have keeps := @keeps_fresh ι σ _ Method host handler console foreign start start
  refine invoke_ensures keeps.stable (fun reached fresh => ⟨.inl fresh, ?_⟩) fresh
  intro index
  have quiet : ¬Stirs (.inl (.ifNametoindex self.targetInterfaceName) : Call ⊕ Local Method) :=
    not_stirs (by rintro ⟨⟩)
  have fresh' := keeps.call quiet index fresh
  have looked : LookedUp self.targetInterfaceName index
      (reached ++ [@Event.call (processSignature Method) (Activity ι)
        (.inl (.ifNametoindex self.targetInterfaceName)) index]) := by simp [LookedUp]
  refine (@Program.Confined.ensures _ _ _ _ Stirs
    (fun out : Bool × XdpMonitor => out.2.targetInterfaceName = self.targetInterfaceName ∧
      out.2.interfaceIndex = (index.val : Int)) _ ?_ _ (keeps.and (keeps_lookedUp _ _ _)) _
    ⟨fresh', looked⟩).mono (fun _ _ still => .inl still.1) ?_
  · simp only [Program.pure_eq, Program.bind_eq]
    split
    · exact perform_confined not_stirs_errno fun errno =>
        perform_confined (not_stirs_fprintf _) fun _ => ⟨rfl, rfl⟩
    · exact ⟨rfl, rfl⟩
  · rintro out reached' ⟨⟨name, sameIndex⟩, fresh', looked⟩
    exact ⟨index, fresh', looked, name, sameIndex⟩

/-- The later steps go on launching. -/
theorem LaterStep.output {monitor : XdpMonitor}
    {program : Program (processSignature Method) (Bool × XdpMonitor)}
    (step : LaterStep monitor program) {name : String} {index : Ifindex}
    {trace : List (Event (processSignature Method) (Activity ι))}
    (launching : Launching host handler start name index monitor trace
      (stateOf host handler console foreign start trace)) :
    Ensures (System.processEnvironment host handler console foreign start) program
      (fun _ trace => Running host handler console start name trace
        (stateOf host handler console foreign start trace))
      (fun out trace => Launching host handler start name index out.2 trace
        (stateOf host handler console foreign start trace)) trace := by
  obtain ⟨fresh, looked, named, indexed⟩ := launching
  have ensures := @Program.Confined.ensures _ _
    (System.processEnvironment host handler console foreign start) _ _ _ _ step _
    (keeps_fresh.and (keeps_lookedUp Stirs name index)) _ ⟨fresh, looked⟩
  refine ensures.mono (fun _ _ still => .inl still.1) ?_
  rintro out reached ⟨⟨sameName, sameIndex⟩, fresh, looked⟩
  exact ⟨fresh, looked, sameName.trans named, sameIndex.trans indexed⟩

/-- From the banner to the farewell. -/
theorem session_output {monitor : XdpMonitor} {name : String} {index : Ifindex}
    {trace : List (Event (processSignature Method) (Activity ι))}
    (launching : Launching host handler start name index monitor trace
      (stateOf host handler console foreign start trace)) :
    Ensures (System.processEnvironment host handler console foreign start)
      ((perform (.printf (banner monitor.targetInterfaceName monitor.interfaceIndex))).bind fun _ =>
        (pollRingBuffer strerror monitor).bind fun _ =>
          (perform (.printf farewell)).bind fun _ => .done (0, monitor))
      (fun _ trace => Running host handler console start name trace
        (stateOf host handler console foreign start trace))
      (fun out trace => Ran host handler console start name out.1 trace
        (stateOf host handler console foreign start trace)) trace := by
  obtain ⟨fresh, looked, named, indexed⟩ := launching
  rw [named, indexed]
  have keeps := (@keeps_fresh ι σ _ Method host handler console foreign start start).and
    (keeps_lookedUp Stirs name index)
  have keeps' := (@keeps_invariant ι σ _ Method host handler console foreign start
    (console.printf (banner name index.val) start)).and (keeps_lookedUp Writes name index)
  have running {trace : List (Event (processSignature Method) (Activity ι))}
      (holds : (stateOf host handler console foreign start trace :
          System ι σ).machine.Invariant host handler
            (console.printf (banner name index.val) start) ∧ LookedUp name index trace) :
      Running host handler console start name trace
        (stateOf host handler console foreign start trace) :=
    .inr (.inl ⟨index, holds.2, holds.1.shows⟩)
  refine perform_ensures keeps.stable (fun reached launching => ⟨.inl launching.1, fun _ => ?_⟩)
    ⟨fresh, looked⟩
  have opened := launching.1.printf console (banner name index.val)
  rw [← stateOf_performed] at opened
  refine .bind (((pollRingBuffer_confined strerror monitor Polling.not_writes).ensures keeps'
    ⟨opened, List.mem_append_left _ launching.2⟩).mono (fun _ _ => running) ?_)
  rintro _ reached ⟨-, holds⟩
  refine perform_ensures keeps'.stable (fun reached holds => ⟨running holds, fun _ => ?_⟩) holds
  have closed := holds.1.shows.printf console farewell
  rw [← stateOf_performed] at closed
  exact .done (.inr ⟨rfl, index, List.mem_append_left _ holds.2, closed⟩)

theorem run_output {trace : List (Event (processSignature Method) (Activity ι))}
    (fresh : Fresh host handler start (stateOf host handler console foreign start trace)) :
    Ensures (System.processEnvironment host handler console foreign start)
      (run strerror self)
      (fun _ trace => Running host handler console start self.targetInterfaceName trace
        (stateOf host handler console foreign start trace))
      (fun out trace => Ran host handler console start self.targetInterfaceName out.1 trace
        (stateOf host handler console foreign start trace)) trace := by
  refine .bind ((resolveInterfaceIndex_output strerror self fresh).mono (fun _ _ still => still) ?_)
  rintro ⟨resolved, monitor⟩ reached ⟨index, launching⟩
  cases resolved
  case false => exact .done (.inl ⟨rfl, launching.fresh⟩)
  refine .bind (((loadBpfObject_later strerror monitor).output launching).mono
    (fun _ _ still => still) ?_)
  rintro ⟨loaded, monitor⟩ reached launching
  cases loaded
  case false => exact .done (.inl ⟨rfl, launching.fresh⟩)
  refine .bind (((findBpfProgramAndMap_later monitor).output launching).mono
    (fun _ _ still => still) ?_)
  rintro ⟨found, monitor⟩ reached launching
  cases found
  case false => exact .done (.inl ⟨rfl, launching.fresh⟩)
  refine .bind (((attachXdpProgram_later strerror monitor).output launching).mono
    (fun _ _ still => still) ?_)
  rintro ⟨attached, monitor⟩ reached launching
  cases attached
  case false => exact .done (.inl ⟨rfl, launching.fresh⟩)
  refine .bind (((openRingBuffer_later monitor).output launching).mono (fun _ _ still => still) ?_)
  rintro ⟨opened, monitor⟩ reached launching
  cases opened
  case false => exact .done (.inl ⟨rfl, launching.fresh⟩)
  exact session_output strerror launching

end XdpMonitor.Printing

/-! ## Around the monitor -/

/-- A call that a process makes before or after it runs its monitor. -/
inductive AroundRun : Call → Prop
  | signal (signal : StopSignal) : AroundRun (.signal signal)
  | bpfXdpDetach (ifindex : Int) (flags : XdpFlags) : AroundRun (.bpfXdpDetach ifindex flags)
  | release {call : Call} : XdpMonitor.ReleaseCall call → AroundRun call

omit [DecidableEq ι] in
theorem AroundRun.not_stirs (call : Call) (around : AroundRun call) :
    ¬Stirs (.inl call : Call ⊕ Local Method) := by
  apply XdpMonitor.Printing.not_stirs
  rintro ⟨⟩
  rcases around with _ | _ | ⟨⟨⟩⟩

section Around

variable {avoided : Call ⊕ Local Method → Prop}

theorem silently_confined {α : Type} {program : Program signature α}
    (avoids : program.Avoids fun call => avoided (.inl call)) :
    (Silently Method program).Confined avoided fun _ => True :=
  @Program.Confined.embed signature (localSignature Method) α avoided _ program (.of_avoids avoids)

theorem installSignalHandlers_confined (fine : ∀ call, AroundRun call → ¬avoided (.inl call)) :
    (Silently Method XdpMonitor.installSignalHandlers).Confined avoided fun _ => True :=
  silently_confined
    ⟨fine _ (.signal .sigint), fun _ => ⟨fine _ (.signal .sigterm), fun _ => trivial⟩⟩

theorem destroy_confined (fine : ∀ call, AroundRun call → ¬avoided (.inl call))
    (self : XdpMonitor) : (Silently Method self.destroy).Confined avoided fun _ => True := by
  apply silently_confined
  rw [XdpMonitor.destroy_eq]
  refine Program.Avoids.bind ?_ fun self =>
    self.release_avoids fun call releases => fine call (.release releases)
  simp only [XdpMonitor.detachXdpProgram, Program.bind_eq, Program.pure_eq]
  split
  · exact XdpMonitor.invoke_avoids (fine _ (.bpfXdpDetach _ _)) fun _ => trivial
  · trivial

end Around

theorem fprintf_confined {avoided : Call ⊕ Local Method → Prop}
    (fine : ∀ text, ¬avoided (.inr (.fprintf text))) (texts : List String) :
    (texts.forM fun text => perform (.fprintf text) :
      Program (processSignature Method) PUnit).Confined avoided fun _ => True := by
  induction texts with
  | nil => trivial
  | cons text texts ih => exact XdpMonitor.Printing.perform_confined (fine text) fun _ => ih

/-- A rejected command line is answered on `stderr` alone. -/
theorem reject_confined {avoided : Call ⊕ Local Method → Prop}
    (fine : ∀ text, ¬avoided (.inr (.fprintf text))) (rejection : Rejection) :
    (reject rejection : Program (processSignature Method) Int).Confined avoided
      fun status => status = rejection.status :=
  (fprintf_confined fine rejection.stderr).bind fun _ _ => rfl

theorem fresh_nil : Fresh host handler start (stateOf host handler console foreign start
    ([] : List (Event (processSignature Method) (Activity ι)))) :=
  ⟨Machine.initial_invariant, rfl⟩

theorem reject_output (rejection : Rejection) :
    Ensures (System.processEnvironment host handler console foreign start :
        Environment (processSignature Method) (Activity ι)) (reject rejection)
      (fun _ trace =>
        (stateOf host handler console foreign start trace).machine.handlerState = start)
      (fun status trace => status = rejection.status ∧
        (stateOf host handler console foreign start trace).machine.handlerState = start) [] :=
  ((reject_confined XdpMonitor.Printing.not_stirs_fprintf rejection).ensures keeps_fresh
    fresh_nil).mono (fun _ _ fresh => fresh.handlerState)
      fun _ _ ends => ⟨ends.1, ends.2.handlerState⟩

end Session
end XdpExperiment

import XdpExperiment.Executables
import XdpExperiment.Platform
import XdpExperiment.PublicCalls

/-!
# Processes that open one object

A process that opens no more than one object has one ring buffer. It finds itself in the whole
system, which has no other. A monitor that is run once is such a process.
-/

namespace XdpExperiment

open Bytes Interaction Reservation

variable {ι σ : Type}

/-! ## Handles of opened objects -/

/-- Calls that open an object. -/
inductive Call.Opens : Call → Prop
  | bpfObjectOpenFile (path : String) : Call.Opens (.bpfObjectOpenFile path)

namespace Handles

/-- What a table knows are objects that have been opened. -/
def Within {κ : Type} (opened : Nat) (table : κ → Option Nat) : Prop :=
  ∀ key object, table key = some object → object < opened

section Within

variable {κ : Type} {opened opened' : Nat} {table : κ → Option Nat}

theorem Within.nothing : Within opened fun _ : κ => none := by
  intro key object found
  cases found

theorem Within.mono (within : Within opened table) (more : opened ≤ opened') :
    Within opened' table :=
  fun key object found => Nat.lt_of_lt_of_le (within key object found) more

theorem Within.bind (within : Within opened table) {pointer : Option κ} {object : Nat}
    (found : pointer.bind table = some object) : object < opened := by
  obtain ⟨key, -, found⟩ := Option.bind_eq_some_iff.mp found
  exact within key object found

theorem Within.update [DecidableEq κ] (within : Within opened table) {key : κ}
    {value : Option Nat} (known : ∀ object, value = some object → object < opened) :
    Within opened (Function.update table key value) := by
  intro other object found
  by_cases same : other = key
  · subst same
    rw [Function.update_self] at found
    exact known object found
  · rw [Function.update_of_ne same] at found
    exact within other object found

end Within

/-- Handles are given out for opened objects only. -/
structure Known (handles : Handles) : Prop where
  object : Within handles.opened handles.object
  program : Within handles.opened handles.program
  map : Within handles.opened handles.map
  programFd : Within handles.opened handles.programFd
  mapFd : Within handles.opened handles.mapFd
  consumer : Within handles.opened handles.consumer

theorem initial_known : initial.Known :=
  ⟨.nothing, .nothing, .nothing, .nothing, .nothing, .nothing⟩

/-- Only an open adds an object. -/
theorem opened_after (handles : Handles) {call : Call} (other : ¬call.Opens)
    (result : call.Result) : (handles.after call result).opened = handles.opened := by
  cases call with
  | bpfObjectOpenFile path => exact absurd (.bpfObjectOpenFile path) other
  | bpfObjectFindProgramByName object name => cases result <;> rfl
  | bpfObjectFindMapByName object name => cases result <;> rfl
  | ringBufferNew fd => cases result <;> rfl
  | bpfProgramFd program =>
      simp only [after]
      split <;> rfl
  | bpfMapFd map =>
      simp only [after]
      split <;> rfl
  | _ => rfl

/-- An open adds no more than one. -/
theorem opened_after_le (handles : Handles) (call : Call) (result : call.Result) :
    handles.opened ≤ (handles.after call result).opened ∧
      (handles.after call result).opened ≤ handles.opened + 1 := by
  by_cases opens : call.Opens
  · obtain ⟨path⟩ := opens
    cases result with
    | none => exact ⟨Nat.le_refl _, Nat.le_succ _⟩
    | some object => exact ⟨Nat.le_succ _, Nat.le_refl _⟩
  · rw [handles.opened_after opens]
    exact ⟨Nat.le_refl _, Nat.le_succ _⟩

theorem opened_le_afterEvent {External : Type} (handles : Handles)
    (event : Event signature External) : handles.opened ≤ (handles.afterEvent event).opened := by
  cases event with
  | call call result => exact (handles.opened_after_le call result).1
  | external action => exact Nat.le_refl _

theorem Known.after {handles : Handles} (known : handles.Known) (call : Call)
    (result : call.Result) : (handles.after call result).Known := by
  cases call with
  | bpfObjectOpenFile path =>
      cases result with
      | none => exact known
      | some object =>
          obtain ⟨objects, programs, maps, programFds, mapFds, consumers⟩ := known
          have more : handles.opened ≤ handles.opened + 1 := Nat.le_succ _
          refine ⟨(objects.mono more).update ?_, programs.mono more, maps.mono more,
            programFds.mono more, mapFds.mono more, consumers.mono more⟩
          rintro _ ⟨⟩
          exact Nat.lt_succ_self _
  | bpfObjectFindProgramByName object name =>
      cases result with
      | none => exact known
      | some program =>
          exact { known with program := known.program.update fun _ => known.object.bind }
  | bpfObjectFindMapByName object name =>
      cases result with
      | none => exact known
      | some map => exact { known with map := known.map.update fun _ => known.object.bind }
  | bpfProgramFd program =>
      simp only [Handles.after]
      split
      · exact { known with programFd := known.programFd.update fun _ => known.program.bind }
      · exact known
  | bpfMapFd map =>
      simp only [Handles.after]
      split
      · exact { known with mapFd := known.mapFd.update fun _ => known.map.bind }
      · exact known
  | ringBufferNew fd =>
      cases result with
      | none => exact known
      | some ringBuffer =>
          exact { known with consumer := known.consumer.update (known.mapFd fd) }
  | _ => exact known

end Handles

/-! ## The only ring buffer -/

/-- What calls do besides handing over records does not depend on the records. -/
theorem World.after_call_withoutRecords (world : World) (call : Call) (result : call.Result) :
    { world with pending := [] }.after (.call call result) =
      { world.after (.call call result) with pending := [] } := by
  cases call with
  | bpfXdpAttach ifindex fd flags =>
      simp only [after]
      split <;> rfl
  | bpfXdpDetach ifindex flags =>
      simp only [after]
      split <;> rfl
  | ringBufferPoll ring timeout => simp [after]
  | _ => rfl

theorem World.after_signal_withoutRecords (world : World) (signal : StopSignal) :
    { world with pending := [] }.after (.external (.signal signal)) =
      { world.after (.external (.signal signal)) with pending := [] } := by
  simp only [after]
  split <;> rfl

namespace Platform

/-- The platform has no more than one object, and the ring buffer of the system is that of the
object. -/
structure OneObject (host : Endian) (platform : Platform ι σ) (system : System ι σ) : Prop where
  world : platform.world = { system.world host with pending := [] }
  machine : platform.machines 0 = system.machine.forget
  handlerState : platform.handlerState = system.machine.handlerState
  opened : platform.handles.opened ≤ 1
  known : platform.handles.Known
  source : ∀ ifindex mode object, platform.source ifindex mode = some object →
    object < platform.handles.opened ∧ system.captures ifindex mode = true
  running : ∀ cpu, platform.running cpu = 0

variable [DecidableEq ι]
variable {host : Endian} {handler : PacketHandler σ} {start : σ}
variable {foreign : Int → XdpMode → Option Nat}
variable {platform : Platform ι σ} {system : System ι σ}

namespace OneObject

omit [DecidableEq ι] in
theorem polls_eq (one : OneObject host platform system) {ringBuffer : Pointer} {object : Nat}
    (polled : platform.polls ringBuffer = some object) : object = 0 := by
  have known : object < platform.handles.opened := one.known.consumer.bind polled
  have := one.opened
  omega

omit [DecidableEq ι] in
/-- Records that are seen on the platform are seen in the system. -/
theorem seenBy (one : OneObject host platform system) {ringBuffer : Pointer} {timeout : Int}
    {object : Nat} (polled : platform.polls ringBuffer = some object) :
    platform.seenBy host (.ringBufferPoll ringBuffer timeout) = system.world host := by
  obtain rfl := one.polls_eq polled
  simp only [Platform.seenBy, pollable, polled, one.world, one.machine]
  rfl

omit [DecidableEq ι] in
/-- What a call returns on the platform it can return in the system. -/
theorem respond (one : OneObject host platform system) {call : Call} {reply : Reply}
    {result : call.Result} (answer : (platform.seenBy host call).respond call reply = some result) :
    ∃ reply', (system.world host).respond call reply' = some result := by
  have others (other : platform.pollable host call = []) :
      { system.world host with pending := [] }.respond call reply = some result := by
    rwa [← one.world, ← platform.seenBy_of_other other]
  cases call with
  | ringBufferPoll ringBuffer timeout =>
      cases polled : platform.polls ringBuffer with
      | some object =>
          rw [one.seenBy polled] at answer
          exact ⟨reply, answer⟩
      | none =>
          refine ⟨{ reply with consumed := 0 }, ?_⟩
          simpa [World.respond, World.result] using others (by simp [pollable, polled])
  | _ => exact ⟨reply, others rfl⟩

/-- A step of a processor is one in the system. -/
theorem move (one : OneObject host platform system) {step : Move ι}
    (quiet : ∀ budget, step ≠ .poll budget) :
    OneObject host (platform.move host 0 step) (system.move host handler step) := by
  have same : (system.move host handler step).machine.handlerState =
      system.machine.handlerState := by
    rw [System.move]
    cases taken : system.machine.step host handler step with
    | none => rfl
    | some machine => exact (Machine.step_quiet quiet taken).2.1
  refine { one with machine := ?_, handlerState := one.handlerState.trans same.symm }
  simp only [Platform.move, Function.update_self, one.machine, Machine.step_forget host handler,
    System.move]
  cases system.machine.step host handler step <;> rfl

/-- A poll hands over the same records in the system. -/
theorem poll (one : OneObject host platform system) {ringBuffer : Pointer} {budget : Nat}
    (nothing : platform.polls ringBuffer = none → budget = 0) :
    OneObject host (platform.poll host handler ringBuffer budget)
      (system.move host handler (.poll budget)) := by
  cases polled : platform.polls ringBuffer with
  | none =>
      obtain rfl := nothing polled
      simp only [Platform.poll, polled]
      exact one
  | some object =>
      obtain rfl := one.polls_eq polled
      have ring : (platform.machines 0).ring = system.machine.ring := by
        rw [one.machine]
        rfl
      have machine : platform.machines 0 = ⟨(platform.machines 0).ring, system.machine.cpus, ()⟩ := by
        rw [one.machine]
        rfl
      simp only [Platform.poll, polled, ring, one.handlerState]
      refine { one with machine := ?_, handlerState := rfl }
      simp only [Function.update_self, System.move, Machine.step, Machine.poll, Option.getD_some,
        Machine.forget]
      rw [machine]

omit [DecidableEq ι] in
/-- The system captures where a program of an opened object is attached, also after a place was given
a new program or none. -/
theorem source_setAttached (one : OneObject host platform system) {place : Int}
    {placeMode : XdpMode} {value : Option Nat} {program : Option XdpProgram}
    (own : ∀ object, value = some object →
      object < platform.handles.opened ∧ ∃ fd, program = some (.loaded fd))
    {ifindex : Int} {mode : XdpMode} {object : Nat}
    (found : (if ifindex = place ∧ mode = placeMode then value
      else platform.source ifindex mode) = some object) :
    object < platform.handles.opened ∧ (system.update
      ((system.world host).setAttached place placeMode program)).captures ifindex mode = true := by
  simp only [System.captures, System.update, World.setAttached]
  split at found
  · next here =>
      obtain ⟨opened, fd, rfl⟩ := own object found
      exact ⟨opened, by rw [if_pos here]⟩
  · next elsewhere =>
      obtain ⟨opened, captures⟩ := one.source _ _ _ found
      exact ⟨opened, by rwa [if_neg elsewhere]⟩

omit [DecidableEq ι] in
theorem source_called (one : OneObject host platform system) (call : Call) (result : call.Result)
    (ifindex : Int) (mode : XdpMode) (object : Nat)
    (found : platform.sourceAfter call result ifindex mode = some object) :
    object < platform.handles.opened ∧ (system.update
      ((system.world host).after (.call call result))).captures ifindex mode = true := by
  cases call with
  | bpfXdpAttach place fd flags =>
      simp only [sourceAfter] at found
      simp only [World.after]
      split at found
      · next accepted =>
          rw [if_pos accepted]
          refine one.source_setAttached (fun object known => ?_) found
          exact ⟨one.known.programFd fd object known, fd, rfl⟩
      · next refused =>
          rw [if_neg refused]
          exact one.source _ _ _ found
  | bpfXdpDetach place flags =>
      simp only [sourceAfter] at found
      simp only [World.after]
      split at found
      · next accepted =>
          rw [if_pos accepted]
          exact one.source_setAttached (fun object none => by cases none) found
      · next refused =>
          rw [if_neg refused]
          exact one.source _ _ _ found
  | _ => exact one.source _ _ _ found

omit [DecidableEq ι] in
theorem called (one : OneObject host platform system) {call : Call} {result : call.Result}
    (opened : (platform.handles.after call result).opened ≤ 1) :
    OneObject host (platform.called call result)
      (system.update ((system.world host).after (.call call result))) := by
  refine ⟨?_, one.machine, one.handlerState, opened, one.known.after call result, ?_, one.running⟩
  · simp only [Platform.called, one.world, World.after_call_withoutRecords]
    rfl
  · intro ifindex mode object found
    obtain ⟨known, captures⟩ := one.source_called call result ifindex mode object found
    exact ⟨Nat.lt_of_lt_of_le known (platform.handles.opened_after_le call result).1, captures⟩

/-- A call that does not open a second object has the same effect in the system. -/
theorem call (one : OneObject host platform system) {call : Call} {reply : Reply}
    {result : call.Result} (answer : (platform.seenBy host call).respond call reply = some result)
    (opened : (platform.after host handler (.call call result)).handles.opened ≤ 1) :
    OneObject host (platform.after host handler (.call call result))
      (system.after host handler (.call call result)) := by
  rw [handles_after] at opened
  cases call with
  | ringBufferPoll ringBuffer timeout =>
      refine one.poll fun none => ?_
      have empty : (platform.seenBy host (.ringBufferPoll ringBuffer timeout)).pending = [] := by
        simp [Platform.seenBy, pollable, none]
      simp only [World.respond, World.result, empty, List.take_nil] at answer
      split at answer
      · cases answer
      · cases answer
        rfl
  | _ => exact one.called opened

/-- What happens on the platform happens in the system, or has no effect. -/
theorem external (one : OneObject host platform system) (activity : Activity ι) :
    ∃ actions : List (Activity ι),
      OneObject host (platform.after host handler (.external activity))
        ((actions.map .external).foldl (System.after host handler) system) := by
  cases activity with
  | signal signal =>
      refine ⟨[.signal signal], ?_⟩
      refine { one with world := ?_, source := ?_ }
      · simp only [Platform.after, one.world, World.after_signal_withoutRecords]
        rfl
      · intro ifindex mode object found
        obtain ⟨opened, captures⟩ := one.source ifindex mode object found
        refine ⟨opened, ?_⟩
        have untouched : ((system.world host).after (.external (.signal signal))).attached =
            system.attached := World.after_attached _ _ fun _ _ same => by cases same
        simp only [List.map_cons, List.map_nil, List.foldl_cons, List.foldl_nil, System.after,
          System.captures, System.update, untouched]
        exact captures
  | receive ifindex mode cpu frame =>
      cases source : platform.source ifindex mode with
      | none =>
          refine ⟨[], ?_⟩
          simp only [Platform.after, receive, source]
          exact one
      | some object =>
          obtain ⟨known, captures⟩ := one.source ifindex mode object source
          obtain rfl : object = 0 := by
            have := one.opened
            omega
          by_cases idle : platform.idle cpu
          · have moved : OneObject host (platform.move host 0 (.receive cpu frame))
                (system.move host handler (.receive cpu frame)) := one.move fun _ same => by cases same
            refine ⟨[.receive ifindex mode cpu frame], ?_⟩
            simp only [Platform.after, receive, source, idle, if_true, List.map_cons, List.map_nil,
              List.foldl_cons, List.foldl_nil, System.after, captures]
            refine { moved with running := fun other => ?_ }
            by_cases same : other = cpu
            · subst same
              exact Function.update_self ..
            · exact (Function.update_of_ne same _ _).trans (one.running other)
          · refine ⟨[], ?_⟩
            simp only [Platform.after, receive, source, idle]
            exact one
  | reserve cpu slot =>
      refine ⟨[.reserve cpu slot], ?_⟩
      simp only [Platform.after, one.running]
      exact one.move fun _ same => by cases same
  | fill cpu =>
      refine ⟨[.fill cpu], ?_⟩
      simp only [Platform.after, one.running]
      exact one.move fun _ same => by cases same
  | submit cpu =>
      refine ⟨[.submit cpu], ?_⟩
      simp only [Platform.after, one.running]
      exact one.move fun _ same => by cases same

end OneObject

/-- As long as no second object is opened, the system is a correct abstraction of the platform. -/
theorem environment_refines_system (host : Endian) (handler : PacketHandler σ)
    (foreign : Int → XdpMode → Option Nat) (start : σ) :
    Refines ((environment host handler foreign start :
        Environment signature (Activity ι)).upTo fun platform => platform.handles.opened ≤ 1)
      (System.environment host handler foreign start) (OneObject host) where
  initial := ⟨rfl, rfl, rfl, Nat.zero_le _, Handles.initial_known, nofun, fun _ => rfl⟩
  call := by
    intro platform system call reply result one answer
    obtain ⟨answer, inside⟩ := Option.filter_eq_some_iff.mp answer
    obtain ⟨reply', answer'⟩ := one.respond answer
    exact ⟨[], reply', answer', one.call answer (by simpa using inside)⟩
  external := by
    intro platform system activity one
    exact one.external activity

/-- Objects that were opened stay opened. -/
theorem opened_before {event : Event signature (Activity ι)}
    (opened : (platform.after host handler event).handles.opened ≤ 1) :
    platform.handles.opened ≤ 1 := by
  rw [handles_after] at opened
  exact Nat.le_trans (platform.handles.opened_le_afterEvent event) opened

end Platform

/-! ## A monitor that is run once -/

section OpensOnce

variable {External α β : Type} {env : Environment signature External}
variable {trace : List (Event signature External)}

theorem Handles.opened_preserved (kept : Nat → Prop) :
    Preserves Call.Opens fun trace : List (Event signature External) =>
      kept (Handles.along trace).opened := by
  intro trace event outside holds
  rw [Handles.along_concat]
  cases event with
  | external action => exact holds
  | call call result =>
      rw [Handles.afterEvent, Handles.opened_after _ (outside call result rfl)]
      exact holds

/-- The program never has opened more than one object. -/
def OpensOnce (env : Environment signature External) (program : Program signature α)
    (trace : List (Event signature External)) : Prop :=
  Ensures env program (fun _ trace => (Handles.along trace).opened ≤ 1)
    (fun _ trace => (Handles.along trace).opened ≤ 1) trace

namespace OpensOnce

theorem of_avoids {program : Program signature α} (avoids : program.Avoids Call.Opens)
    (once : (Handles.along trace).opened ≤ 1) : OpensOnce env program trace :=
  ((Program.Confined.of_avoids avoids).ensures (Handles.opened_preserved (· ≤ 1)) once).mono
    (fun _ _ once => once) fun _ _ once => once.2

theorem bind {program : Program signature α} {f : α → Program signature β}
    (first : OpensOnce env program trace) (rest : ∀ value, (f value).Avoids Call.Opens) :
    OpensOnce env (program.bind f) trace :=
  Ensures.bind (first.mono (fun _ _ once => once) fun value _ once => of_avoids (rest value) once)

/-- Before the open, nothing has been opened. -/
theorem after {program : Program signature α} {f : α → Program signature β}
    (first : program.Avoids Call.Opens) (none : (Handles.along trace).opened = 0)
    (rest : ∀ value trace, (Handles.along trace).opened = 0 → OpensOnce env (f value) trace) :
    OpensOnce env (program.bind f) trace := by
  refine Ensures.bind ((Program.Confined.ensures (.of_avoids first)
    (Handles.opened_preserved (· = 0)) none).mono (fun _ trace none => ?_)
      fun value trace none => ?_)
  · exact Nat.le_of_lt (Nat.lt_one_iff.mpr none)
  · exact rest value trace none.2

/-- The open itself. -/
theorem invoke {path : String} {next : Pointer → Program signature α}
    (rest : ∀ object, (next object).Avoids Call.Opens)
    (none : (Handles.along trace).opened = 0) :
    OpensOnce env ((XdpExperiment.invoke (.bpfObjectOpenFile path)).bind next) trace := by
  refine Ensures.call (Handles.opened_preserved (· = 0)).stable (fun reached none => ?_) none
  refine ⟨Nat.le_of_lt (Nat.lt_one_iff.mpr none), fun reply object _ => of_avoids (rest object) ?_⟩
  rw [Handles.along_concat]
  have := (Handles.along reached).opened_after_le (.bpfObjectOpenFile path) object
  rw [none] at this
  exact this.2

end OpensOnce

theorem XdpMonitor.startUp_opensOnce (self : XdpMonitor)
    (none : (Handles.along trace).opened = 0) : OpensOnce env self.startUp trace := by
  have fine (call : Call) (starts : StartUpCall call)
      (other : ∀ path, call ≠ .bpfObjectOpenFile path) : ¬call.Opens := by
    rintro ⟨path⟩
    exact other path rfl
  obtain ⟨next, same, avoids⟩ := startUp_opens fine self
  rw [same]
  refine .after (resolveInterfaceIndex_avoids fine self) none fun r trace none => ?_
  split
  · exact .of_avoids trivial (Nat.le_of_lt (Nat.lt_one_iff.mpr none))
  · obtain ⟨next', same', avoids'⟩ := loadBpfObject_opens fine r.2
    rw [same']
    exact (OpensOnce.invoke avoids' none).bind avoids

theorem XdpMonitor.run_opensOnce (self : XdpMonitor)
    (none : (Handles.along trace).opened = 0) : OpensOnce env self.run trace := by
  rw [run_eq]
  refine (self.startUp_opensOnce none).bind fun r => ?_
  split
  · exact (PublicCall.pollRingBuffer_avoids nofun (fun _ _ => nofun) r.2).bind fun _ => trivial
  · trivial

theorem XdpMonitor.destroy_avoids_opens (self : XdpMonitor) :
    self.destroy.Avoids Call.Opens := by
  rw [destroy_eq]
  refine Program.Avoids.bind ?_ fun self => ?_
  · simp only [detachXdpProgram, Program.bind_eq, Program.pure_eq]
    split
    · exact invoke_avoids (fun opens => by cases opens) fun _ => trivial
    · trivial
  · refine self.release_avoids fun call releases => ?_
    rintro ⟨path⟩
    cases releases

theorem singleRun_opensOnce (accepted : MonitorArguments) :
    OpensOnce env (singleRun accepted) [] := by
  rw [singleRun_eq]
  have install : XdpMonitor.installSignalHandlers.Avoids Call.Opens :=
    ⟨nofun, fun _ => ⟨nofun, fun _ => trivial⟩⟩
  refine .after install rfl fun _ trace none => ?_
  exact (XdpMonitor.run_opensOnce _ none).bind fun out =>
    out.2.destroy_avoids_opens.bind fun _ => trivial

end OpensOnce

/-- Every execution of a monitor that is run once, on the platform, is one in the whole system: with
the same calls and results, and in the end with the same ring buffer, processors, attached programs
and state of the handler. -/
theorem Platform.singleRun_inSystem [DecidableEq ι] (host : Endian) (handler : PacketHandler σ)
    (foreign : Int → XdpMode → Option Nat) (start : σ) (accepted : MonitorArguments)
    (ticks : List (Tick Reply (Activity ι))) :
    ∃ ticks' : List (Tick Reply (Activity ι)),
      let env := environment host handler foreign start
      let final := (Config.start (Activity ι) (singleRun accepted)).run env ticks
      let seen := System.environment host handler foreign start
      let final' := (Config.start (Activity ι) (singleRun accepted)).run seen ticks'
      final'.thread = final.thread ∧ calls final'.trace = callsAs (Activity ι) final.trace ∧
        OneObject host (env.stateAfter final.trace) (seen.stateAfter final'.trace) := by
  apply (environment_refines_system host handler foreign start).run_inside
  · exact fun platform event => opened_before
  · have once := Config.Meets.always (@singleRun_opensOnce (Activity ι)
      (environment host handler foreign start) accepted ticks) fun _ _ once => once
    rwa [← @handles_stateAfter ι σ _ host handler start foreign] at once

end XdpExperiment

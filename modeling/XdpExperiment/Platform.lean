import XdpExperiment.WholeSystem

/-!
# A ring buffer for every object

Every BPF object that a process opens has a program and a ring buffer map of its own, which the
process reaches through handles and descriptors. A program that runs its monitor more than once
leaves the earlier objects open, and their programs may stay attached, so records come in at
several ring buffers. No program can tell this from the surroundings that the monitor is verified
in.
-/

namespace XdpExperiment

open Bytes Interaction Reservation

variable {ι σ : Type}

/-! ## Handles -/

/-- What the handles given out by libbpf belong to. Objects are counted as they are opened, and
each has one program and one map. -/
structure Handles where
  /-- How many objects have been opened. -/
  opened : Nat
  object : Nat → Option Nat
  program : Nat → Option Nat
  map : Nat → Option Nat
  programFd : Int → Option Nat
  mapFd : Int → Option Nat
  consumer : Nat → Option Nat

namespace Handles

/-- Nothing has been given out. -/
def initial : Handles where
  opened := 0
  object := fun _ => none
  program := fun _ => none
  map := fun _ => none
  programFd := fun _ => none
  mapFd := fun _ => none
  consumer := fun _ => none

/-- The handles after a call. One that is given out again belongs to what it was given out for
last. -/
def after (handles : Handles) : (call : Call) → call.Result → Handles
  | .bpfObjectOpenFile _, some (object : Nat) =>
      { handles with
        opened := handles.opened + 1
        object := Function.update handles.object object (some handles.opened) }
  | .bpfObjectFindProgramByName object _, some (program : Nat) =>
      { handles with
        program := Function.update handles.program program (object.bind handles.object) }
  | .bpfObjectFindMapByName object _, some (map : Nat) =>
      { handles with map := Function.update handles.map map (object.bind handles.object) }
  | .bpfProgramFd program, (fd : Int) =>
      if 0 ≤ fd then
        { handles with
          programFd := Function.update handles.programFd fd (program.bind handles.program) }
      else handles
  | .bpfMapFd map, (fd : Int) =>
      if 0 ≤ fd then
        { handles with mapFd := Function.update handles.mapFd fd (map.bind handles.map) }
      else handles
  | .ringBufferNew fd, some (ringBuffer : Nat) =>
      { handles with consumer := Function.update handles.consumer ringBuffer (handles.mapFd fd) }
  | _, _ => handles

/-- The handles after an event. -/
def afterEvent {External : Type} (handles : Handles) : Event signature External → Handles
  | .call call result => handles.after call result
  | .external _ => handles

/-- The handles after some events. -/
def along {External : Type} (trace : List (Event signature External)) : Handles :=
  trace.foldl afterEvent initial

@[simp] theorem along_concat {External : Type} (trace : List (Event signature External))
    (event : Event signature External) :
    along (trace ++ [event]) = (along trace).afterEvent event := by
  simp [along]

/-- Only calls give out handles. -/
theorem along_callsAs {External External' : Type} (trace : List (Event signature External)) :
    along (callsAs External' trace) = along trace := by
  induction trace using List.reverseRecOn with
  | nil => rfl
  | append_singleton trace event ih =>
      rw [callsAs_append]
      cases event with
      | call call result => simp [ih, afterEvent]
      | external action => simpa [afterEvent] using ih

end Handles

/-! ## The platform -/

/-- The process with its surroundings, the objects that it has opened, and what runs for them. -/
structure Platform (ι σ : Type) where
  /-- Signal handling and attached programs. -/
  world : World
  /-- The records are in the ring buffers. -/
  noRecords : world.pending = []
  handles : Handles
  /-- The object of the program on an interface, if it is a program of this process. -/
  source : Int → XdpMode → Option Nat
  /-- The ring buffer of each object, and where the processors stand in its program. -/
  machines : Nat → Machine ι Unit
  /-- The object whose program a processor ran last. -/
  running : ι → Nat
  handlerState : σ

/-- Calls leave no records behind where there were none. -/
theorem World.pending_after_call {world : World} (none : world.pending = []) (call : Call)
    (result : call.Result) : (world.after (.call call result)).pending = [] := by
  cases call with
  | bpfXdpAttach ifindex fd flags =>
      simp only [World.after]
      split <;> exact none
  | bpfXdpDetach ifindex flags =>
      simp only [World.after]
      split <;> exact none
  | ringBufferPoll ring timeout => simp [World.after, none]
  | _ => exact none

theorem World.pending_after_signal {world : World} (none : world.pending = [])
    (signal : StopSignal) :
    (world.after (.external (.signal signal))).pending = [] := by
  simp only [World.after]
  split <;> exact none

/-- What is submitted right before a poll is there to be handed over. -/
theorem World.submit_and_poll {world : World} (none : world.pending = [])
    {waiting : List (List UInt8)} {ringBuffer : Pointer} {timeout : Int} {reply : Reply}
    {poll : Poll}
    (answer : { world with pending := waiting }.respond (.ringBufferPoll ringBuffer timeout) reply =
      some poll) :
    let ready := ((poll.records.map External.record).map Event.external).foldl World.after world
    ready.respond (.ringBufferPoll ringBuffer timeout) reply = some poll ∧
      ready.after (.call (.ringBufferPoll ringBuffer timeout) poll) = world := by
  rw [World.foldl_after_record]
  obtain ⟨_, _, terminated, _, _⟩ := world
  cases none
  cases terminated with
  | true => cases answer
  | false =>
      cases answer
      constructor
      · simp [World.respond, World.result, List.take_take]
      · simp [World.after, World.result]

namespace Platform

/-- A process that has just started, on a machine where others have attached programs. -/
def initial (foreign : Int → XdpMode → Option Nat) (start : σ) : Platform ι σ where
  world := .booted foreign
  noRecords := rfl
  handles := .initial
  source := fun _ _ => none
  machines := fun _ => .initial ()
  running := fun _ => 0
  handlerState := start

/-- The frames of an object that the handler has got. -/
def handedOver (platform : Platform ι σ) (object : Nat) : List Frame :=
  (platform.machines object).reservedFrames.take (platform.machines object).ring.consumed

/-- The frames that the handler has got, if it got all of one object before those of the next. -/
def delivered (platform : Platform ι σ) : List Frame :=
  (List.range platform.handles.opened).flatMap platform.handedOver

/-- The object whose ring buffer a consumer polls. -/
def polls (platform : Platform ι σ) (ringBuffer : Pointer) : Option Nat :=
  ringBuffer.bind platform.handles.consumer

/-- The records that a call can hand over: for a poll, those in its own ring buffer. -/
def pollable (host : Endian) (platform : Platform ι σ) : Call → List (List UInt8)
  | .ringBufferPoll ringBuffer _ =>
      match platform.polls ringBuffer with
      | none => []
      | some object =>
          (platform.machines object).ring.available.map fun slot => slot.contents.toBytes host
  | _ => []

/-- What the platform looks like to a call. -/
def seenBy (host : Endian) (platform : Platform ι σ) (call : Call) : World :=
  { platform.world with pending := platform.pollable host call }

variable [DecidableEq ι]

/-- The processor is not in the middle of a program. -/
def idle (platform : Platform ι σ) (cpu : ι) : Bool :=
  match (platform.machines (platform.running cpu)).cpus cpu with
  | .waiting _ => true
  | _ => false

/-- A step of the machine of one object, if it can be taken. -/
def move (host : Endian) (object : Nat) (step : Move ι) (platform : Platform ι σ) :
    Platform ι σ :=
  { platform with
    machines := Function.update platform.machines object
      (((platform.machines object).step host silentHandler step).getD
        (platform.machines object)) }

/-- A processor starts the program that is attached where a frame passes. -/
def receive (host : Endian) (ifindex : Int) (mode : XdpMode) (cpu : ι) (frame : Frame)
    (platform : Platform ι σ) : Platform ι σ :=
  match platform.source ifindex mode with
  | none => platform
  | some object =>
      if platform.idle cpu then
        { platform.move host object (.receive cpu frame) with
          running := Function.update platform.running cpu object }
      else platform

/-- A poll runs the callback on the records that it hands over. -/
def poll (host : Endian) (handler : PacketHandler σ) (ringBuffer : Pointer) (budget : Nat)
    (platform : Platform ι σ) : Platform ι σ :=
  match platform.polls ringBuffer with
  | none => platform
  | some object =>
      let machine := platform.machines object
      let (ring, state) := pollRecords host handler budget machine.ring platform.handlerState
      { platform with
        machines := Function.update platform.machines object { machine with ring := ring }
        handlerState := state }

/-- The objects of the attached programs after a call. -/
def sourceAfter (platform : Platform ι σ) :
    (call : Call) → call.Result → Int → XdpMode → Option Nat
  | .bpfXdpAttach ifindex fd flags, (code : Int) =>
      if code = 0 then fun ifindex' mode =>
        if ifindex' = ifindex ∧ mode = flags.mode then platform.handles.programFd fd
        else platform.source ifindex' mode
      else platform.source
  | .bpfXdpDetach ifindex flags, (code : Int) =>
      if code = 0 then fun ifindex' mode =>
        if ifindex' = ifindex ∧ mode = flags.mode then none
        else platform.source ifindex' mode
      else platform.source
  | _, _ => platform.source

/-- What a call does besides handing over records. -/
def called (platform : Platform ι σ) (call : Call) (result : call.Result) : Platform ι σ :=
  { platform with
    world := platform.world.after (.call call result)
    noRecords := World.pending_after_call platform.noRecords call result
    handles := platform.handles.after call result
    source := platform.sourceAfter call result }

/-- State after an event. -/
def after (host : Endian) (handler : PacketHandler σ) (platform : Platform ι σ) :
    Event signature (Activity ι) → Platform ι σ
  | .external (.signal signal) =>
      { platform with
        world := platform.world.after (.external (.signal signal))
        noRecords := World.pending_after_signal platform.noRecords signal }
  | .external (.receive ifindex mode cpu frame) => platform.receive host ifindex mode cpu frame
  | .external (.reserve cpu slot) => platform.move host (platform.running cpu) (.reserve cpu slot)
  | .external (.fill cpu) => platform.move host (platform.running cpu) (.fill cpu)
  | .external (.submit cpu) => platform.move host (platform.running cpu) (.submit cpu)
  | .call (.ringBufferPoll ringBuffer _) (poll : Poll) =>
      platform.poll host handler ringBuffer poll.records.length
  | .call call result => platform.called call result

/-- The platform as an environment. -/
abbrev environment (host : Endian) (handler : PacketHandler σ)
    (foreign : Int → XdpMode → Option Nat) (start : σ) :
    Environment signature (Activity ι) where
  State := Platform ι σ
  initial := initial foreign start
  Reply := Reply
  respond := fun platform call => (platform.seenBy host call).respond call
  after := after host handler

variable {host : Endian} {handler : PacketHandler σ} {start : σ} {platform : Platform ι σ}
variable {foreign : Int → XdpMode → Option Nat}

theorem handles_after (event : Event signature (Activity ι)) :
    (platform.after host handler event).handles = platform.handles.afterEvent event := by
  cases event with
  | external activity =>
      cases activity with
      | receive ifindex mode cpu frame =>
          simp only [after, receive]
          split
          · rfl
          · split <;> rfl
      | _ => rfl
  | call call result =>
      cases call with
      | ringBufferPoll ringBuffer timeout =>
          simp only [after, poll]
          split <;> rfl
      | _ => rfl

theorem handles_stateAfter (trace : List (Event signature (Activity ι))) :
    ((environment host handler foreign start).stateAfter trace).handles = Handles.along trace := by
  induction trace using List.reverseRecOn with
  | nil => rfl
  | append_singleton trace event ih =>
      rw [Environment.stateAfter_append_singleton, Handles.along_concat, ← ih]
      exact handles_after event

/-! ## The machines -/

omit [DecidableEq ι] in
/-- To a machine a poll is one of its steps. -/
theorem poll_machine [DecidableEq ι] (budget : Nat) (machine : Machine ι Unit) (state : σ) :
    machine.step host silentHandler (.poll budget) =
      some { machine with ring := (pollRecords host handler budget machine.ring state).1 } := by
  simp only [Machine.step, Machine.poll, pollRecords_silent host handler budget machine.ring state]

/-- The step that an event may be to the machine of an object. -/
def steps (platform : Platform ι σ) (object : Nat) :
    Event signature (Activity ι) → Move ι → Prop
  | .external (.signal _), _ => False
  | .external (.receive ifindex mode cpu frame), step =>
      platform.source ifindex mode = some object ∧ step = .receive cpu frame
  | .external (.reserve cpu slot), step => platform.running cpu = object ∧ step = .reserve cpu slot
  | .external (.fill cpu), step => platform.running cpu = object ∧ step = .fill cpu
  | .external (.submit cpu), step => platform.running cpu = object ∧ step = .submit cpu
  | .call (.ringBufferPoll ringBuffer _) (poll : Poll), step =>
      platform.polls ringBuffer = some object ∧ step = .poll poll.records.length
  | .call _ _, _ => False

/-- A step that an event is for the object it is about. -/
theorem move_machine (event : Event signature (Activity ι)) {object other : Nat} {step : Move ι}
    (own : other = object → platform.steps object event step) :
    (platform.move host other step).machines object = platform.machines object ∨
      ∃ step', platform.steps object event step' ∧
        (platform.machines object).step host silentHandler step' =
          some ((platform.move host other step).machines object) := by
  by_cases same : object = other
  · subst same
    have moved : (platform.move host object step).machines object =
        ((platform.machines object).step host silentHandler step).getD
          (platform.machines object) := Function.update_self ..
    rw [moved]
    cases taken : (platform.machines object).step host silentHandler step with
    | none => exact .inl rfl
    | some machine => exact .inr ⟨step, own rfl, taken⟩
  · exact .inl (Function.update_of_ne same _ _)

/-- An event leaves the machine of an object alone or is one of its steps. -/
theorem after_machine (event : Event signature (Activity ι)) (object : Nat) :
    (platform.after host handler event).machines object = platform.machines object ∨
      ∃ step, platform.steps object event step ∧
        (platform.machines object).step host silentHandler step =
          some ((platform.after host handler event).machines object) := by
  cases event with
  | external activity =>
      cases activity with
      | signal signal => exact .inl rfl
      | receive ifindex mode cpu frame =>
          simp only [after, receive]
          cases source : platform.source ifindex mode with
          | none => exact .inl rfl
          | some other =>
              simp only
              split
              · exact platform.move_machine (.external (.receive ifindex mode cpu frame))
                  fun own => ⟨own ▸ source, rfl⟩
              · exact .inl rfl
      | reserve cpu slot => exact platform.move_machine _ fun own => ⟨own, rfl⟩
      | fill cpu => exact platform.move_machine _ fun own => ⟨own, rfl⟩
      | submit cpu => exact platform.move_machine _ fun own => ⟨own, rfl⟩
  | call call result =>
      cases call with
      | ringBufferPoll ringBuffer timeout =>
          simp only [after, poll]
          cases polled : platform.polls ringBuffer with
          | none => exact .inl rfl
          | some other =>
              by_cases same : object = other
              · subst same
                refine .inr ⟨_, ⟨polled, rfl⟩, ?_⟩
                simp only [Function.update_self]
                exact poll_machine _ _ _
              · exact .inl (Function.update_of_ne same _ _)
      | _ => exact .inl rfl

/-- The machine of an object is one that interleaved steps reach. -/
theorem reachable_stateAfter (trace : List (Event signature (Activity ι))) (object : Nat) :
    Machine.Reachable host silentHandler ()
      (((environment host handler foreign start).stateAfter trace).machines object) := by
  induction trace using List.reverseRecOn with
  | nil => exact .initial
  | append_singleton trace event ih =>
      rw [Environment.stateAfter_append_singleton]
      rcases @after_machine ι σ _ host handler
          ((environment host handler foreign start).stateAfter trace) event object with
        same | ⟨step, -, taken⟩
      · change Machine.Reachable host silentHandler () ((Platform.after _ _ _ _).machines object)
        rwa [same]
      · exact ih.step step taken

/-! ## The abstraction -/

omit [DecidableEq ι] in
/-- Only a poll sees records. -/
theorem seenBy_of_other {call : Call} (other : platform.pollable host call = []) :
    platform.seenBy host call = platform.world := by
  obtain ⟨⟨_, _, _, _, pending⟩, none, _, _, _, _, _⟩ := platform
  cases none
  simp only [seenBy, other]

theorem world_receive (ifindex : Int) (mode : XdpMode) (cpu : ι) (frame : Frame) :
    (platform.receive host ifindex mode cpu frame).world = platform.world := by
  rw [receive]
  split
  · rfl
  · split <;> rfl

omit [DecidableEq ι] in
theorem world_poll (ringBuffer : Pointer) (budget : Nat) :
    (platform.poll host handler ringBuffer budget).world = platform.world := by
  rw [poll]
  split <;> rfl

/-- The surroundings of the monitor are a correct abstraction of the platform: a record is submitted
there when it is about to be handed over. -/
theorem environment_refines (host : Endian) (handler : PacketHandler σ)
    (foreign : Int → XdpMode → Option Nat) (start : σ) :
    Refines (environment host handler foreign start : Environment signature (Activity ι))
      (World.booted foreign).environment (fun platform world => world = platform.world) where
  initial := rfl
  call := by
    rintro platform _ call reply result rfl answer
    have others (other : platform.pollable host call = []) :
        platform.world.respond call reply = some result := by
      rwa [← platform.seenBy_of_other other]
    cases call with
    | ringBufferPoll ringBuffer timeout =>
        obtain ⟨answer', after⟩ := World.submit_and_poll platform.noRecords answer
        refine ⟨(result : Poll).records.map .record, reply, answer', ?_⟩
        exact after.trans (world_poll ringBuffer _).symm
    | _ => exact ⟨[], reply, others rfl, rfl⟩
  external := by
    rintro platform _ activity rfl
    cases activity with
    | signal signal => exact ⟨[.signal signal], rfl⟩
    | receive ifindex mode cpu frame =>
        exact ⟨[], (world_receive ifindex mode cpu frame).symm⟩
    | _ => exact ⟨[], rfl⟩

/-- Every execution of a process on the platform, whatever its program, is one in the surroundings
that the monitor is verified against: with the same calls and results, and with the same signal
handling and attached programs in the end. -/
theorem run_refines (host : Endian) (handler : PacketHandler σ)
    (foreign : Int → XdpMode → Option Nat) (start : σ) {α : Type}
    (program : Program signature α) (ticks : List (Tick Reply (Activity ι))) :
    ∃ ticks' : List (Tick Reply External),
      let env := environment host handler foreign start
      let final := (Config.start (Activity ι) program).run env ticks
      let seen := (World.booted foreign).environment
      let final' := (Config.start External program).run seen ticks'
      final'.thread = final.thread ∧ calls final'.trace = callsAs External final.trace ∧
        seen.stateAfter final'.trace = (env.stateAfter final.trace).world := by
  obtain ⟨ticks', thread, sameCalls, same⟩ :=
    (environment_refines host handler foreign start).run_start program ticks
  exact ⟨ticks', thread, sameCalls, same⟩

end Platform
end XdpExperiment

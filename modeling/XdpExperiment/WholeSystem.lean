import XdpExperiment.Delivery
import XdpExperiment.Interaction.Refinement
import XdpExperiment.XdpMonitor

/-!
# The whole system

The process of the monitor, the processors that run the XDP program, the ring buffer between them
and the handler behind the callback. The surroundings in which the monitor is verified are what
this system looks like to it. Its only ring buffer is that of the one object which a monitor opens
that is run once, as in both programs; with a further run comes a further object, and a `Platform`
has a ring buffer for each.
-/

namespace XdpExperiment

open Bytes Interaction Reservation

variable {ι σ : Type}

/-! ## Polling and what is available -/

/-- The consumer takes available slots only, and takes them from the front. -/
theorem available_pollRecords (host : Endian) (handler : PacketHandler σ) (budget : Nat)
    (ring : RingBuffer ι) (state : σ) :
    (pollRecords host handler budget ring state).1.available = ring.available.drop budget := by
  induction budget generalizing ring state with
  | zero => rfl
  | succ budget ih =>
      rw [pollRecords]
      cases first : ring.next with
      | none => simp only [Queue.available_of_next_none first, List.drop_nil]
      | some slot =>
          simp only [handleRingbufSample_toBytes, if_true]
          rw [ih, Queue.available_of_next first, List.drop_succ_cons]

/-! ## Without the handler -/

/-- The handler of whose state nothing is known. -/
def silentHandler : PacketHandler Unit where
  onPacketArrived _ state := state

/-- Which records a poll takes does not depend on the handler. -/
theorem pollRecords_silent (host : Endian) (handler : PacketHandler σ) (budget : Nat)
    (ring : RingBuffer ι) (state : σ) :
    pollRecords host silentHandler budget ring () =
      ((pollRecords host handler budget ring state).1, ()) := by
  induction budget generalizing ring state with
  | zero => rfl
  | succ budget ih =>
      rw [pollRecords, pollRecords]
      cases ring.next with
      | none => rfl
      | some slot =>
          simp only [handleRingbufSample_toBytes, if_true]
          exact ih ring.advance _

namespace Machine

/-- The machine without the state of its handler. -/
def forget (machine : Machine ι σ) : Machine ι Unit := ⟨machine.ring, machine.cpus, ()⟩

variable [DecidableEq ι]

theorem step_forget (host : Endian) (handler : PacketHandler σ) (machine : Machine ι σ)
    (move : Move ι) :
    machine.forget.step host silentHandler move =
      (machine.step host handler move).map forget := by
  cases move with
  | receive cpu frame =>
      simp only [step, receive, forget]
      cases machine.cpus cpu with
      | waiting verdict =>
          simp only
          cases parseHeaders host frame with
          | error fault => rfl
          | ok headers => cases headers <;> rfl
      | _ => rfl
  | reserve cpu slot =>
      simp only [step, reserve, forget]
      cases machine.cpus cpu with
      | parsed frame headers => cases slot <;> rfl
      | _ => rfl
  | fill cpu =>
      simp only [step, fill, forget]
      cases machine.cpus cpu with
      | reserved frame headers index =>
          simp only
          cases machine.ring.slots[index]? with
          | none => rfl
          | some slot =>
              simp only
              cases fillRecord host frame headers slot.contents <;> rfl
      | _ => rfl
  | submit cpu =>
      simp only [step, submit, forget]
      cases machine.cpus cpu <;> rfl
  | poll budget =>
      simp only [step, poll, forget, Option.map_some, pollRecords_silent host handler budget _
        machine.handlerState]

/-- A step that is no poll delivers nothing, and slots that were reserved stay. -/
theorem step_quiet {host : Endian} {handler : PacketHandler σ}
    {machine machine' : Machine ι σ} {move : Move ι} (quiet : ∀ budget, move ≠ .poll budget)
    (taken : machine.step host handler move = some machine') :
    machine'.ring.consumed = machine.ring.consumed ∧
      machine'.handlerState = machine.handlerState ∧
      machine.reservedFrames <+: machine'.reservedFrames := by
  cases move with
  | receive cpu frame =>
      obtain ⟨verdict, -, rfl⟩ := receive_cases taken
      exact ⟨rfl, rfl, List.prefix_rfl⟩
  | reserve cpu slot =>
      obtain ⟨frame, headers, -, ⟨-, rfl⟩ | ⟨stale, -, rfl⟩⟩ := reserve_cases taken
      · exact ⟨rfl, rfl, List.prefix_rfl⟩
      · refine ⟨rfl, rfl, ?_⟩
        simp [reservedFrames, Queue.purposes_reserve]
  | fill cpu =>
      simp only [step, fill] at taken
      split at taken
      · split at taken
        · cases taken
        · split at taken
          · cases taken
            refine ⟨rfl, rfl, ?_⟩
            simp [reservedFrames, Queue.purposes_write]
          · cases taken
            exact ⟨rfl, rfl, List.prefix_rfl⟩
      · cases taken
  | submit cpu =>
      obtain ⟨frame, index, -, rfl⟩ := submit_cases taken
      refine ⟨rfl, rfl, ?_⟩
      simp [reservedFrames, Queue.purposes_commit]
  | poll budget => exact absurd rfl (quiet budget)

end Machine

/-! ## The system -/

/-- What happens besides the steps of the process. -/
inductive Activity (ι : Type)
  /-- A signal is delivered to the process. -/
  | signal (signal : StopSignal)
  /-- A frame arrives at an interface and passes a place where a program can be attached. -/
  | receive (ifindex : Int) (mode : XdpMode) (cpu : ι) (frame : Frame)
  | reserve (cpu : ι) (slot : Option XdpPacket)
  | fill (cpu : ι)
  | submit (cpu : ι)

/-- Signal handling of the process, attached programs, and the machine that captures for the one
object that the process opens. -/
structure System (ι σ : Type) where
  handlerInstalled : StopSignal → Bool
  stopMonitoringRequested : Bool
  terminated : Bool
  attached : Int → XdpMode → Option XdpProgram
  machine : Machine ι σ

namespace System

/-- A process that has just started, on a machine where others have attached programs. -/
def initial (foreign : Int → XdpMode → Option Nat) (start : σ) : System ι σ where
  handlerInstalled := fun _ => false
  stopMonitoringRequested := false
  terminated := false
  attached := fun ifindex mode => (foreign ifindex mode).map .foreign
  machine := .initial start

/-- What the system looks like to the process. The records that a poll can hand over are those of
the available slots. -/
def world (host : Endian) (system : System ι σ) : World where
  handlerInstalled := system.handlerInstalled
  stopMonitoringRequested := system.stopMonitoringRequested
  terminated := system.terminated
  attached := system.attached
  pending := system.machine.ring.available.map fun slot => slot.contents.toBytes host

/-- Take over everything but the records, which are in the ring buffer. -/
def update (system : System ι σ) (world : World) : System ι σ :=
  { system with
    handlerInstalled := world.handlerInstalled
    stopMonitoringRequested := world.stopMonitoringRequested
    terminated := world.terminated
    attached := world.attached }

/-- Whether frames that pass a place are handed to the program of the monitor. -/
def captures (system : System ι σ) (ifindex : Int) (mode : XdpMode) : Bool :=
  match system.attached ifindex mode with
  | some (.loaded _) => true
  | _ => false

variable [DecidableEq ι]

/-- A step of the machine, if it can be taken. -/
def move (host : Endian) (handler : PacketHandler σ) (step : Move ι) (system : System ι σ) :
    System ι σ :=
  { system with machine := (system.machine.step host handler step).getD system.machine }

/-- State after an event. A poll runs the callback on the records that it hands over. -/
def after (host : Endian) (handler : PacketHandler σ) (system : System ι σ) :
    Event signature (Activity ι) → System ι σ
  | .external (.signal signal) =>
      system.update ((system.world host).after (.external (.signal signal)))
  | .external (.receive ifindex mode cpu frame) =>
      if system.captures ifindex mode then system.move host handler (.receive cpu frame)
      else system
  | .external (.reserve cpu slot) => system.move host handler (.reserve cpu slot)
  | .external (.fill cpu) => system.move host handler (.fill cpu)
  | .external (.submit cpu) => system.move host handler (.submit cpu)
  | .call (.ringBufferPoll _ _) (poll : Poll) =>
      system.move host handler (.poll poll.records.length)
  | .call call result => system.update ((system.world host).after (.call call result))

/-- The system as an environment. It answers as its look to the process allows. -/
abbrev environment (host : Endian) (handler : PacketHandler σ)
    (foreign : Int → XdpMode → Option Nat) (start : σ) :
    Environment signature (Activity ι) where
  State := System ι σ
  initial := initial foreign start
  Reply := Reply
  respond := fun system => (system.world host).respond
  after := after host handler

variable {host : Endian} {handler : PacketHandler σ} {start : σ} {system : System ι σ}
variable {foreign : Int → XdpMode → Option Nat}

/-! ## The machine inside -/

/-- An event is a step of the machine or leaves it alone. -/
theorem after_machine (event : Event signature (Activity ι)) :
    (system.after host handler event).machine = system.machine ∨
      ∃ step, system.machine.step host handler step =
        some (system.after host handler event).machine := by
  have moved (tried : Move ι) : (system.move host handler tried).machine = system.machine ∨
      ∃ step, system.machine.step host handler step =
        some (system.move host handler tried).machine := by
    rw [move]
    cases taken : system.machine.step host handler tried with
    | none => exact .inl rfl
    | some machine => exact .inr ⟨tried, taken⟩
  cases event with
  | external activity =>
      cases activity with
      | signal signal => exact .inl rfl
      | receive ifindex mode cpu frame =>
          rw [after]
          split
          · exact moved _
          · exact .inl rfl
      | reserve cpu slot => exact moved _
      | fill cpu => exact moved _
      | submit cpu => exact moved _
  | call call result =>
      cases call with
      | ringBufferPoll ring timeout => exact moved _
      | _ => exact .inl rfl

theorem after_invariant (invariant : system.machine.Invariant host handler start)
    (event : Event signature (Activity ι)) :
    (system.after host handler event).machine.Invariant host handler start := by
  rcases after_machine event with same | ⟨step, taken⟩
  · rwa [same]
  · exact Machine.step_invariant step invariant taken

/-- Whatever the process does, its machine is one that interleaved steps reach. -/
theorem reachable_stateAfter (trace : List (Event signature (Activity ι))) :
    Machine.Reachable host handler start
      ((environment host handler foreign start).stateAfter trace).machine := by
  induction trace using List.reverseRecOn with
  | nil => exact .initial
  | append_singleton trace event ih =>
      rw [Environment.stateAfter_append_singleton]
      rcases @after_machine ι σ _ host handler
          ((environment host handler foreign start).stateAfter trace) event with
        same | ⟨step, taken⟩
      · change Machine.Reachable host handler start (System.after _ _ _ _).machine
        rwa [same]
      · exact ih.step step taken

/-! ## The abstraction -/

/-- The world is what the system looks like, and the machine is as its steps leave it. -/
structure LooksLike (host : Endian) (handler : PacketHandler σ) (start : σ) (system : System ι σ)
    (world : World) : Prop where
  world : world = system.world host
  machine : system.machine.Invariant host handler start

omit [DecidableEq ι] in
/-- An update hides nothing from the process unless the records change. -/
theorem world_update {world : World} (same : world.pending = (system.world host).pending) :
    (system.update world).world host = world := by
  obtain ⟨_, _, _, _, pending⟩ := world
  cases same
  rfl

/-- A step of the machine in terms of what the consumer finds. -/
theorem world_move_eq {step : Move ι}
    (same : (system.move host handler step).machine.ring.available =
      system.machine.ring.available) :
    (system.move host handler step).world host = system.world host := by
  simp only [world, same]
  rfl

theorem world_receive (cpu : ι) (frame : Frame) :
    (system.move host handler (.receive cpu frame)).world host = system.world host := by
  apply world_move_eq
  simp only [move, Machine.step]
  cases taken : system.machine.receive host cpu frame with
  | none => rfl
  | some machine =>
      obtain ⟨_, _, rfl⟩ := Machine.receive_cases taken
      rfl

theorem world_reserve (invariant : system.machine.Invariant host handler start) (cpu : ι)
    (slot : Option XdpPacket) :
    (system.move host handler (.reserve cpu slot)).world host = system.world host := by
  apply world_move_eq
  simp only [move, Machine.step]
  cases taken : system.machine.reserve cpu slot with
  | none => rfl
  | some machine =>
      obtain ⟨frame, headers, _, ⟨_, rfl⟩ | ⟨stale, _, rfl⟩⟩ := Machine.reserve_cases taken
      · rfl
      · exact Queue.available_reserve invariant.sound.consumed_le (cpu, frame) stale

theorem world_fill (invariant : system.machine.Invariant host handler start) (cpu : ι) :
    (system.move host handler (.fill cpu)).world host = system.world host := by
  apply world_move_eq
  simp only [move, Machine.step]
  cases taken : system.machine.fill host cpu with
  | none => rfl
  | some machine =>
      obtain ⟨_, _, _, _, _, isOpen, rfl⟩ := Machine.fill_cases invariant taken
      exact Queue.available_write isOpen _

/-- A submit makes records available: its own, and those that were waiting behind it. -/
theorem world_submit (cpu : ι) :
    ∃ records, (system.move host handler (.submit cpu)).world host =
      { system.world host with pending := (system.world host).pending ++ records } := by
  simp only [move, Machine.step]
  cases taken : system.machine.submit cpu with
  | none => exact ⟨[], by simp [world]⟩
  | some machine =>
      obtain ⟨_, index, _, rfl⟩ := Machine.submit_cases taken
      obtain ⟨more, extended⟩ := Queue.available_commit system.machine.ring index
      exact ⟨more.map fun slot => slot.contents.toBytes host, by simp [world, extended]⟩

theorem world_poll (budget : Nat) :
    (system.move host handler (.poll budget)).world host =
      { system.world host with pending := (system.world host).pending.drop budget } := by
  have taken := available_pollRecords host handler budget system.machine.ring
    system.machine.handlerState
  simp only [world, move, Machine.step, Machine.poll, Option.getD_some, taken, List.map_drop]

/-- The surroundings of the monitor are a correct abstraction of the system. -/
theorem environment_refines (host : Endian) (handler : PacketHandler σ)
    (foreign : Int → XdpMode → Option Nat) (start : σ) :
    Refines (environment host handler foreign start : Environment signature (Activity ι))
      (World.booted foreign).environment
      (LooksLike host handler start) where
  initial := ⟨rfl, Machine.initial_invariant⟩
  call := by
    rintro system world call reply result ⟨rfl, invariant⟩ answer
    refine ⟨[], reply, answer, ?_, after_invariant invariant _⟩
    cases call with
    | ringBufferPoll ring timeout => exact (world_poll _).symm
    | bpfXdpAttach ifindex fd flags =>
        refine (world_update ?_).symm
        simp only [List.map_nil, List.foldl_nil, World.after]
        split <;> rfl
    | bpfXdpDetach ifindex flags =>
        refine (world_update ?_).symm
        simp only [List.map_nil, List.foldl_nil, World.after]
        split <;> rfl
    | _ => rfl
  external := by
    rintro system world activity ⟨rfl, invariant⟩
    have still := @after_invariant ι σ _ host handler start system invariant (.external activity)
    cases activity with
    | signal signal =>
        refine ⟨[.signal signal], ?_, still⟩
        refine (world_update ?_).symm
        simp only [List.map_cons, List.map_nil, List.foldl_cons, List.foldl_nil, World.after]
        split <;> rfl
    | receive ifindex mode cpu frame =>
        refine ⟨[], ?_, still⟩
        simp only [after]
        split
        · exact (world_receive cpu frame).symm
        · rfl
    | reserve cpu slot => exact ⟨[], (world_reserve invariant cpu slot).symm, still⟩
    | fill cpu => exact ⟨[], (world_fill invariant cpu).symm, still⟩
    | submit cpu =>
        obtain ⟨records, submitted⟩ := @world_submit ι σ _ host handler system cpu
        exact ⟨records.map .record, by rw [World.foldl_after_record]; exact submitted.symm, still⟩

end System
end XdpExperiment

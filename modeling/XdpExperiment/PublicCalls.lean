import XdpExperiment.MonitorCalls

/-!
# Public calls and lifetimes

What public calls and the destructor do to the monitor, in terms of the calls they make. The
members after a lifetime's public calls, and the list of calls made so far, determine everything
the destructor does.
-/

namespace XdpExperiment

open Interaction

/-- Calls that the poll loop makes. -/
inductive LoopCall (ringBuffer : Pointer) : Event signature External → Prop
  | flagRead (stop : Bool) : LoopCall ringBuffer (flagRead stop)
  | polled (poll : Poll) : LoopCall ringBuffer (polled ringBuffer poll)

theorem loopCall_of_mem_pollRounds {ringBuffer : Pointer} {polls : List Poll}
    {event : Event signature External} (member : event ∈ pollRounds ringBuffer polls) :
    LoopCall ringBuffer event := by
  obtain ⟨poll, -, member⟩ := List.mem_flatMap.mp member
  rcases List.mem_cons.mp member with rfl | member
  · exact .flagRead false
  · rw [List.mem_singleton.mp member]
    exact .polled poll

theorem PollLoop.made {ringBuffer : Pointer} {trace trace' : Trace}
    (left : PollLoop ringBuffer trace trace') :
    ∃ loop, Made loop trace trace' ∧ ∀ event ∈ loop, LoopCall ringBuffer event := by
  cases left with
  | stopped going made =>
      refine ⟨_, XdpMonitor.made_append made .stopMonitoringRequested true, ?_⟩
      intro event member
      rcases List.mem_append.mp member with member | member
      · exact loopCall_of_mem_pollRounds member
      · rw [List.mem_singleton.mp member]
        exact .flagRead true
  | failed poll going made negative =>
      refine ⟨_, XdpMonitor.made_append made (.ringBufferPoll ringBuffer POLL_TIMEOUT_MS) poll, ?_⟩
      intro event member
      rcases List.mem_append.mp member with member | member
      · rcases List.mem_append.mp member with member | member
        · exact loopCall_of_mem_pollRounds member
        · rw [List.mem_singleton.mp member]
          exact .flagRead false
      · rw [List.mem_singleton.mp member]
        exact .polled poll

/-- What one public call does to the monitor. -/
inductive PublicStep (self : XdpMonitor) : Trace → XdpMonitor → Prop
  | failedRun {made self'} : self.StartsUp made false self' → PublicStep self made self'
  | run {made loop self'} : self.StartsUp made true self' →
      (∀ event ∈ loop, LoopCall self'.ringBuffer event) → PublicStep self (made ++ loop) self'
  | notOpen : self.ringBuffer = none → PublicStep self [] self
  | poll (poll : Poll) : self.ringBuffer ≠ none →
      PublicStep self [polled self.ringBuffer poll] self
  | install : PublicStep self [.call (.signal .sigint) (), .call (.signal .sigterm) ()] self

/-- What a sequence of public calls does to the monitor. -/
inductive PublicSteps : XdpMonitor → Trace → XdpMonitor → Prop
  | nil (self : XdpMonitor) : PublicSteps self [] self
  | cons {self made self₁ rest self'} : PublicStep self made self₁ →
      PublicSteps self₁ rest self' → PublicSteps self (made ++ rest) self'

/-- An assertion about the members and the calls so far that every public call preserves holds
after any sequence of them. -/
theorem PublicSteps.invariant {holds : XdpMonitor → Trace → Prop}
    (preserved : ∀ {self made self' before}, PublicStep self made self' → holds self before →
      holds self' (before ++ made))
    {self self' : XdpMonitor} {made before : Trace} (steps : PublicSteps self made self')
    (start : holds self before) : holds self' (before ++ made) := by
  induction steps generalizing before with
  | nil self => simpa using start
  | cons step _ ih =>
      rw [← List.append_assoc]
      exact ih (preserved step start)

/-- Calls that leave the members as they are: those of the poll loop and of
`install_signal_handlers`. -/
inductive Passive : Event signature External → Prop
  | flagRead (stop : Bool) : Passive (flagRead stop)
  | polled (ringBuffer : Pointer) (poll : Poll) : Passive (polled ringBuffer poll)
  | signal (signal : StopSignal) : Passive (.call (.signal signal) ())

theorem LoopCall.passive {ringBuffer : Pointer} {event : Event signature External}
    (call : LoopCall ringBuffer event) : Passive event := by
  cases call with
  | flagRead stop => exact .flagRead stop
  | polled poll => exact .polled ringBuffer poll

/-- An assertion about the members and the calls so far that each lifecycle step preserves, and
that passive calls do not touch. -/
structure StepInvariant (holds : XdpMonitor → Trace → Prop) : Prop where
  resolves : ∀ {self made ok self' before}, XdpMonitor.Resolves self made ok self' →
    holds self before → holds self' (before ++ made)
  loads : ∀ {self made ok self' before}, XdpMonitor.Loads self made ok self' →
    holds self before → holds self' (before ++ made)
  finds : ∀ {self made ok self' before}, XdpMonitor.Finds self made ok self' →
    holds self before → holds self' (before ++ made)
  attaches : ∀ {self made ok self' before}, XdpMonitor.Attaches self made ok self' →
    holds self before → holds self' (before ++ made)
  opens : ∀ {self made ok self' before}, XdpMonitor.Opens self made ok self' →
    holds self before → holds self' (before ++ made)
  passive : ∀ {self event before}, Passive event → holds self before →
    holds self (before ++ [event])

namespace StepInvariant

variable {holds : XdpMonitor → Trace → Prop} {self self' : XdpMonitor} {made before : Trace}

theorem startsUp (step : StepInvariant holds) {ok : Bool} (starts : self.StartsUp made ok self')
    (start : holds self before) : holds self' (before ++ made) := by
  cases starts with
  | unresolved resolves => exact step.resolves resolves start
  | unloaded resolves loads =>
      rw [← List.append_assoc]
      exact step.loads loads (step.resolves resolves start)
  | unfound resolves loads finds =>
      simp only [← List.append_assoc]
      exact step.finds finds (step.loads loads (step.resolves resolves start))
  | unattached resolves loads finds attaches =>
      simp only [← List.append_assoc]
      exact step.attaches attaches
        (step.finds finds (step.loads loads (step.resolves resolves start)))
  | unopened resolves loads finds attaches opens =>
      simp only [← List.append_assoc]
      exact step.opens opens (step.attaches attaches
        (step.finds finds (step.loads loads (step.resolves resolves start))))
  | opened resolves loads finds attaches opens =>
      simp only [← List.append_assoc]
      exact step.opens opens (step.attaches attaches
        (step.finds finds (step.loads loads (step.resolves resolves start))))

theorem passives (step : StepInvariant holds) {events : Trace}
    (passive : ∀ event ∈ events, Passive event) (start : holds self before) :
    holds self (before ++ events) := by
  induction events generalizing before with
  | nil => simpa using start
  | cons event events ih =>
      rw [List.append_cons]
      exact ih (fun event member => passive event (List.mem_cons_of_mem _ member))
        (step.passive (passive event List.mem_cons_self) start)

theorem publicStep (step : StepInvariant holds) (called : PublicStep self made self')
    (start : holds self before) : holds self' (before ++ made) := by
  cases called with
  | failedRun starts => exact step.startsUp starts start
  | run starts loopCalls =>
      rw [← List.append_assoc]
      exact step.passives (fun event member => (loopCalls event member).passive)
        (step.startsUp starts start)
  | notOpen => simpa using start
  | poll poll => exact step.passive (.polled _ poll) start
  | install =>
      rw [List.append_cons]
      exact step.passive (.signal _) (step.passive (.signal _) start)

/-- The assertion holds after any sequence of public calls. -/
theorem publicSteps (step : StepInvariant holds) (called : PublicSteps self made self')
    (start : holds self before) : holds self' (before ++ made) :=
  called.invariant step.publicStep start

end StepInvariant

namespace PublicCall

variable {world : World}

theorem perform_spec (call : PublicCall) (self : XdpMonitor) (trace : Trace) :
    Ensures world.environment (call.perform self) XdpMonitor.anywhere
      (fun r trace' => ∃ made, PublicStep self made r.2 ∧ Made made trace trace') trace := by
  cases call with
  | run =>
      refine (self.run_spec trace).mono (fun _ _ _ => trivial) ?_
      rintro _ trace' (⟨starts, made⟩ | ⟨starts, made, left⟩)
      · exact ⟨_, .failedRun starts, made⟩
      · obtain ⟨loop, madeLoop, loopCalls⟩ := left.made
        exact ⟨_, .run starts loopCalls, made.trans madeLoop⟩
  | pollRingBufferOnce =>
      simp only [perform, XdpMonitor.pollRingBufferOnce, Program.bind_eq, Program.pure_eq]
      by_cases closed : self.ringBuffer = none
      · rw [if_pos closed]
        exact .done ⟨_, .notOpen closed, Made.refl trace⟩
      · rw [if_neg closed]
        refine XdpMonitor.invoke_made (Made.refl trace) fun (poll : Poll) trace' made => ?_
        exact .done ⟨_, .poll poll closed, made⟩
  | installSignalHandlers =>
      simp only [perform, XdpMonitor.installSignalHandlers, Program.bind_eq, Program.pure_eq,
        Program.bind_assoc]
      refine XdpMonitor.invoke_made (Made.refl trace) fun (_ : Unit) trace₁ made₁ => ?_
      refine XdpMonitor.invoke_made made₁ fun (_ : Unit) trace₂ made₂ => ?_
      exact .done ⟨_, .install, made₂⟩

theorem performAll_spec (calls : List PublicCall) (self : XdpMonitor) (trace : Trace) :
    Ensures world.environment (performAll calls self) XdpMonitor.anywhere
      (fun r trace' => ∃ made, PublicSteps self made r.2 ∧ Made made trace trace') trace := by
  induction calls generalizing self trace with
  | nil => exact .done ⟨[], .nil self, Made.refl trace⟩
  | cons call calls ih =>
      simp only [performAll, Program.bind_eq, Program.pure_eq]
      refine .bind ((call.perform_spec self trace).mono (fun _ _ _ => trivial) ?_)
      rintro ⟨result, self₁⟩ trace₁ ⟨made₁, step, since₁⟩
      refine .bind ((ih self₁ trace₁).mono (fun _ _ _ => trivial) ?_)
      rintro ⟨results, self₂⟩ trace₂ ⟨made₂, steps, since₂⟩
      exact .done ⟨_, .cons step steps, since₁.trans since₂⟩

/-- The calls that public methods make. -/
inductive Makes : Call → Prop
  | startUp {call : Call} : XdpMonitor.StartUpCall call → Makes call
  | stopMonitoringRequested : Makes .stopMonitoringRequested
  | ringBufferPoll (ringBuffer : Pointer) (timeoutMs : Int) :
      Makes (.ringBufferPoll ringBuffer timeoutMs)
  | signal (signal : StopSignal) : Makes (.signal signal)

section Avoids

variable {avoided : Call → Prop}

theorem pollRingBuffer_avoids (readsFlag : ¬avoided .stopMonitoringRequested)
    (polls : ∀ ringBuffer timeoutMs, ¬avoided (.ringBufferPoll ringBuffer timeoutMs))
    (self : XdpMonitor) : self.pollRingBuffer.Avoids avoided := by
  refine ⟨readsFlag, fun stop => ?_, trivial⟩
  simp only [Program.bind_eq, Program.pure_eq]
  split
  · trivial
  · refine XdpMonitor.invoke_avoids (polls _ _) fun poll => ?_
    split <;> trivial

variable (fine : ∀ call, Makes call → ¬avoided call)
include fine

theorem run_avoids (self : XdpMonitor) : self.run.Avoids avoided := by
  rw [XdpMonitor.run_eq]
  have startUpFine : ∀ call, XdpMonitor.StartUpCall call → ¬avoided call :=
    fun call starts => fine call (.startUp starts)
  refine (XdpMonitor.startUp_avoids startUpFine self).bind fun r => ?_
  split
  · have polls := pollRingBuffer_avoids (fine _ .stopMonitoringRequested)
      (fun _ _ => fine _ (.ringBufferPoll _ _)) r.2
    exact polls.bind fun _ => trivial
  · trivial

theorem perform_avoids (call : PublicCall) (self : XdpMonitor) :
    (perform call self).Avoids avoided := by
  cases call with
  | run => exact run_avoids fine self
  | pollRingBufferOnce =>
      simp only [perform, XdpMonitor.pollRingBufferOnce, Program.bind_eq, Program.pure_eq]
      split
      · trivial
      · exact XdpMonitor.invoke_avoids (fine _ (.ringBufferPoll _ _)) fun poll => trivial
  | installSignalHandlers =>
      exact ⟨fine _ (.signal _), fun _ => ⟨fine _ (.signal _), fun _ => trivial⟩⟩

theorem performAll_avoids (publicCalls : List PublicCall) (self : XdpMonitor) :
    (performAll publicCalls self).Avoids avoided := by
  induction publicCalls generalizing self with
  | nil => trivial
  | cons call publicCalls ih =>
      simp only [performAll, Program.bind_eq, Program.pure_eq]
      exact (perform_avoids fine call self).bind fun r => (ih r.2).bind fun _ => trivial

end Avoids

/-- The calls between two points of an execution of public calls are calls they can make. -/
theorem performAll_makes (publicCalls : List PublicCall) (self : XdpMonitor) (trace : Trace) :
    Ensures world.environment (performAll publicCalls self) XdpMonitor.anywhere
      (fun r trace' => ∃ made, PublicSteps self made r.2 ∧ Made made trace trace' ∧
        ∀ event ∈ made, ∃ call result, event = .call call result ∧ Makes call) trace := by
  have avoids : (performAll publicCalls self).Avoids fun call => ¬Makes call :=
    performAll_avoids (fun _ makes => not_not_intro makes) publicCalls self
  apply ((Program.Avoids.ensures avoids trace).and (performAll_spec publicCalls self trace)).mono
  · exact fun _ _ _ => trivial
  · rintro r trace' ⟨⟨between, reached, onlyPublic⟩, made, steps, since⟩
    refine ⟨made, steps, since, fun event member => ?_⟩
    obtain ⟨between', reached', rfl⟩ := since
    obtain rfl := List.append_cancel_left (reached.symm.trans reached')
    obtain ⟨inTrace, call, result, rfl⟩ := mem_calls.mp member
    exact ⟨call, result, rfl, not_not.mp (onlyPublic call result inTrace)⟩

end PublicCall

namespace XdpMonitor

/-- Calls of `detach_xdp_program`, which looks at the index and the program descriptor. -/
def detachCalls (self : XdpMonitor) (detached : Int) : Trace :=
  if 0 ≤ self.interfaceIndex ∧ 0 ≤ self.xdpProgramFd then
    [.call (.bpfXdpDetach self.interfaceIndex detachFlags) detached]
  else []

/-- Calls of `close_ring_buffer`. -/
def freeCalls (self : XdpMonitor) : Trace :=
  if self.ringBuffer ≠ none then [.call (.ringBufferFree self.ringBuffer) ()] else []

/-- Calls of `close_bpf_object`. -/
def closeCalls (self : XdpMonitor) : Trace :=
  if self.bpfObject ≠ none then [.call (.bpfObjectClose self.bpfObject) ()] else []

/-- Calls of the destructor. -/
def teardownCalls (self : XdpMonitor) (detached : Int) : Trace :=
  self.detachCalls detached ++ self.freeCalls ++ self.closeCalls

/-- The destructor after the detach. -/
def release (self : XdpMonitor) : Program signature Unit := do
  let self ← self.closeRingBuffer
  let _ ← self.closeBpfObject

theorem destroy_eq (self : XdpMonitor) : self.destroy = self.detachXdpProgram.bind release := rfl

/-- The calls of the destructor after the detach. -/
inductive ReleaseCall : Call → Prop
  | ringBufferFree (ringBuffer : Pointer) : ReleaseCall (.ringBufferFree ringBuffer)
  | bpfObjectClose (object : Pointer) : ReleaseCall (.bpfObjectClose object)

theorem release_avoids {avoided : Call → Prop} (fine : ∀ call, ReleaseCall call → ¬avoided call)
    (self : XdpMonitor) : self.release.Avoids avoided := by
  simp only [release, closeRingBuffer, closeBpfObject, Program.bind_eq, Program.pure_eq]
  have closes (self : XdpMonitor) :
      Program.Avoids avoided (if self.bpfObject ≠ none then
        (invoke (.bpfObjectClose self.bpfObject)).bind fun _ =>
          .done { self with bpfObject := none }
      else .done self) := by
    split
    · exact invoke_avoids (fine _ (.bpfObjectClose _)) fun _ => trivial
    · trivial
  refine Program.Avoids.bind ?_ fun self => (closes self).bind fun _ => trivial
  split
  · exact invoke_avoids (fine _ (.ringBufferFree _)) fun _ => trivial
  · trivial

variable {world : World}

theorem detachXdpProgram_spec (self : XdpMonitor) (trace : Trace) :
    Ensures world.environment self.detachXdpProgram anywhere
      (fun self' trace' => self'.ringBuffer = self.ringBuffer ∧ self'.bpfObject = self.bpfObject ∧
        ∃ detached, Made (self.detachCalls detached) trace trace') trace := by
  simp only [detachXdpProgram, detachCalls, Program.bind_eq, Program.pure_eq]
  by_cases guard : 0 ≤ self.interfaceIndex ∧ 0 ≤ self.xdpProgramFd
  · simp only [if_pos guard]
    refine invoke_made (Made.refl trace) fun (detached : Int) trace' made => ?_
    exact .done ⟨rfl, rfl, detached, made⟩
  · simp only [if_neg guard]
    exact .done ⟨rfl, rfl, 0, Made.refl trace⟩

theorem closeRingBuffer_spec (self : XdpMonitor) (trace : Trace) :
    Ensures world.environment self.closeRingBuffer anywhere
      (fun self' trace' => self'.bpfObject = self.bpfObject ∧ Made self.freeCalls trace trace')
      trace := by
  simp only [closeRingBuffer, freeCalls, Program.bind_eq, Program.pure_eq]
  by_cases guard : self.ringBuffer ≠ none
  · simp only [if_pos guard]
    refine invoke_made (Made.refl trace) fun (_ : Unit) trace' made => ?_
    exact .done ⟨rfl, made⟩
  · simp only [if_neg guard]
    exact .done ⟨rfl, Made.refl trace⟩

theorem closeBpfObject_spec (self : XdpMonitor) (trace : Trace) :
    Ensures world.environment self.closeBpfObject anywhere
      (fun _ trace' => Made self.closeCalls trace trace') trace := by
  simp only [closeBpfObject, closeCalls, Program.bind_eq, Program.pure_eq]
  by_cases guard : self.bpfObject ≠ none
  · simp only [if_pos guard]
    refine invoke_made (Made.refl trace) fun (_ : Unit) trace' made => ?_
    exact .done made
  · simp only [if_neg guard]
    exact .done (Made.refl trace)

theorem destroy_spec (self : XdpMonitor) (trace : Trace) :
    Ensures world.environment self.destroy anywhere
      (fun _ trace' => ∃ detached, Made (self.teardownCalls detached) trace trace') trace := by
  simp only [destroy, Program.bind_eq, Program.pure_eq]
  refine .bind ((self.detachXdpProgram_spec trace).mono (fun _ _ _ => trivial) ?_)
  rintro self₁ trace₁ ⟨sameRing, sameObject, detached, since₁⟩
  refine .bind ((self₁.closeRingBuffer_spec trace₁).mono (fun _ _ _ => trivial) ?_)
  rintro self₂ trace₂ ⟨sameObject₂, since₂⟩
  refine .bind ((self₂.closeBpfObject_spec trace₂).mono (fun _ _ _ => trivial) ?_)
  intro _ trace₃ since₃
  rw [freeCalls, sameRing] at since₂
  rw [closeCalls, sameObject₂, sameObject] at since₃
  exact .done ⟨detached, (since₁.trans since₂).trans since₃⟩

end XdpMonitor

/-- A completed lifetime: public calls from the freshly constructed monitor, then teardown. -/
theorem lifetime_spec {world : World} (name path : String) (publicCalls : List PublicCall) :
    Ensures world.environment (lifetime name path publicCalls) XdpMonitor.anywhere
      (fun _ trace' => ∃ made self detached, PublicSteps (.construct name path) made self ∧
        (∀ event ∈ made, ∃ call result, event = .call call result ∧ PublicCall.Makes call) ∧
        calls trace' = made ++ self.teardownCalls detached) [] := by
  simp only [lifetime, Program.bind_eq, Program.pure_eq]
  refine .bind ((PublicCall.performAll_makes publicCalls _ []).mono (fun _ _ _ => trivial) ?_)
  rintro ⟨results, self⟩ trace₁ ⟨made, steps, since₁, makes⟩
  refine .bind ((self.destroy_spec trace₁).mono (fun _ _ _ => trivial) ?_)
  rintro _ trace₂ ⟨detached, since₂⟩
  have split := (since₁.trans since₂).calls_eq
  exact .done ⟨made, self, detached, steps, makes, by simpa using split⟩

end XdpExperiment

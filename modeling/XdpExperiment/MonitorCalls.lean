import XdpExperiment.Interaction.Trace
import XdpExperiment.XdpMonitor

/-!
# What the monitor's methods call

One inductive for each method lists the calls it can make, with the results it acted on and the
members it leaves behind. The specification theorems say that a method does nothing else; results
about whole lifetimes are then case analyses on these inductives.
-/

namespace XdpExperiment

open Interaction

/-- A read of the stop flag. -/
abbrev flagRead (stop : Bool) : Event signature External := .call .stopMonitoringRequested stop

/-- A completed `ring_buffer__poll`. -/
abbrev polled (ringBuffer : Pointer) (poll : Poll) : Event signature External :=
  .call (.ringBufferPoll ringBuffer POLL_TIMEOUT_MS) poll

/-- The call polls the ring buffer. -/
def Call.isPoll : Call → Bool
  | .ringBufferPoll _ _ => true
  | _ => false

/-- How often the ring buffer has been polled. -/
def pollsIn (trace : Trace) : Nat :=
  trace.countP fun event => match event with
    | .call call _ => call.isPoll
    | .external _ => false

/-- A completed read saw the flag as it was. -/
theorem World.stop_of_flagRead {world : World} {trace : Trace} {stop : Bool}
    (admits : world.environment.Admits (trace ++ [flagRead stop])) :
    (world.environment.stateAfter trace).stopMonitoringRequested = stop := by
  obtain ⟨reply, answer⟩ := (AtEach.concat_iff.mp admits).2 _ _ rfl
  simp only [World.respond] at answer
  split at answer
  · simp at answer
  · exact Option.some.inj answer

/-- The index that an event makes `run` store. -/
def resolution : Event signature External → Option Int
  | .call (.ifNametoindex _) (index : Ifindex) => some index.val
  | _ => none

namespace XdpMonitor

variable (self : XdpMonitor)

/-- Calls of `resolve_interface_index`. -/
inductive Resolves : Trace → Bool → XdpMonitor → Prop
  | failed (index : Ifindex) : index.val = 0 →
      Resolves [.call (.ifNametoindex self.targetInterfaceName) index] false
        { self with interfaceIndex := index.val }
  | resolved (index : Ifindex) : index.val ≠ 0 →
      Resolves [.call (.ifNametoindex self.targetInterfaceName) index] true
        { self with interfaceIndex := index.val }

/-- Calls of `load_bpf_object`. -/
inductive Loads : Trace → Bool → XdpMonitor → Prop
  | notOpened :
      Loads [.call (.bpfObjectOpenFile self.bpfObjectFilePath) none] false
        { self with bpfObject := none }
  | notLoaded (object : Nat) (code : Int) : code ≠ 0 →
      Loads [.call (.bpfObjectOpenFile self.bpfObjectFilePath) (some object),
          .call (.bpfObjectLoad (some object)) code] false
        { self with bpfObject := some object }
  | loaded (object : Nat) (code : Int) : code = 0 →
      Loads [.call (.bpfObjectOpenFile self.bpfObjectFilePath) (some object),
          .call (.bpfObjectLoad (some object)) code] true
        { self with bpfObject := some object }

/-- Calls of `find_bpf_program_and_map`. -/
inductive Finds : Trace → Bool → XdpMonitor → Prop
  | noProgram :
      Finds [.call (.bpfObjectFindProgramByName self.bpfObject XDP_PROGRAM_NAME) none] false
        { self with xdpProgram := none }
  | noMap (program : Nat) :
      Finds [.call (.bpfObjectFindProgramByName self.bpfObject XDP_PROGRAM_NAME) (some program),
          .call (.bpfObjectFindMapByName self.bpfObject RINGBUF_MAP_NAME) none] false
        { self with xdpProgram := some program, ringbufMap := none }
  | noFd (program map : Nat) (fd : Int) : fd < 0 →
      Finds [.call (.bpfObjectFindProgramByName self.bpfObject XDP_PROGRAM_NAME) (some program),
          .call (.bpfObjectFindMapByName self.bpfObject RINGBUF_MAP_NAME) (some map),
          .call (.bpfProgramFd (some program)) fd] false
        { self with xdpProgram := some program, ringbufMap := some map, xdpProgramFd := fd }
  | found (program map : Nat) (fd : Int) : 0 ≤ fd →
      Finds [.call (.bpfObjectFindProgramByName self.bpfObject XDP_PROGRAM_NAME) (some program),
          .call (.bpfObjectFindMapByName self.bpfObject RINGBUF_MAP_NAME) (some map),
          .call (.bpfProgramFd (some program)) fd] true
        { self with xdpProgram := some program, ringbufMap := some map, xdpProgramFd := fd }

/-- The flags `attach_xdp_program` asks for: generic mode, and only on a free interface. -/
def attachFlags : XdpFlags := { mode := .skb, updateIfNoexist := true }

/-- The flags `detach_xdp_program` asks for. -/
def detachFlags : XdpFlags := { mode := .skb, updateIfNoexist := false }

/-- Calls of `attach_xdp_program`. -/
inductive Attaches : Trace → Bool → XdpMonitor → Prop
  | failed (code : Int) : code ≠ 0 →
      Attaches [.call (.bpfXdpAttach self.interfaceIndex self.xdpProgramFd attachFlags) code] false
        self
  | attached (code : Int) : code = 0 →
      Attaches [.call (.bpfXdpAttach self.interfaceIndex self.xdpProgramFd attachFlags) code] true
        self

/-- Calls of `open_ring_buffer`. -/
inductive Opens : Trace → Bool → XdpMonitor → Prop
  | noFd (fd : Int) : fd < 0 → Opens [.call (.bpfMapFd self.ringbufMap) fd] false self
  | noConsumer (fd : Int) : 0 ≤ fd →
      Opens [.call (.bpfMapFd self.ringbufMap) fd, .call (.ringBufferNew fd) none] false
        { self with ringBuffer := none }
  | opened (fd : Int) (consumer : Nat) : 0 ≤ fd →
      Opens [.call (.bpfMapFd self.ringbufMap) fd, .call (.ringBufferNew fd) (some consumer)] true
        { self with ringBuffer := some consumer }

/-- Calls of the five start-up steps in order, up to the first that fails. -/
inductive StartsUp : Trace → Bool → XdpMonitor → Prop
  | unresolved {made self₁} : self.Resolves made false self₁ → StartsUp made false self₁
  | unloaded {made₁ made₂ self₁ self₂} : self.Resolves made₁ true self₁ →
      self₁.Loads made₂ false self₂ → StartsUp (made₁ ++ made₂) false self₂
  | unfound {made₁ made₂ made₃ self₁ self₂ self₃} : self.Resolves made₁ true self₁ →
      self₁.Loads made₂ true self₂ → self₂.Finds made₃ false self₃ →
      StartsUp (made₁ ++ made₂ ++ made₃) false self₃
  | unattached {made₁ made₂ made₃ made₄ self₁ self₂ self₃ self₄} : self.Resolves made₁ true self₁ →
      self₁.Loads made₂ true self₂ → self₂.Finds made₃ true self₃ →
      self₃.Attaches made₄ false self₄ → StartsUp (made₁ ++ made₂ ++ made₃ ++ made₄) false self₄
  | unopened {made₁ made₂ made₃ made₄ made₅ self₁ self₂ self₃ self₄ self₅} :
      self.Resolves made₁ true self₁ → self₁.Loads made₂ true self₂ →
      self₂.Finds made₃ true self₃ → self₃.Attaches made₄ true self₄ →
      self₄.Opens made₅ false self₅ →
      StartsUp (made₁ ++ made₂ ++ made₃ ++ made₄ ++ made₅) false self₅
  | opened {made₁ made₂ made₃ made₄ made₅ self₁ self₂ self₃ self₄ self₅} :
      self.Resolves made₁ true self₁ → self₁.Loads made₂ true self₂ →
      self₂.Finds made₃ true self₃ → self₃.Attaches made₄ true self₄ →
      self₄.Opens made₅ true self₅ →
      StartsUp (made₁ ++ made₂ ++ made₃ ++ made₄ ++ made₅) true self₅

end XdpMonitor

/-- Rounds of the poll loop that go on: the flag was clear and the poll did not fail. -/
def pollRounds (ringBuffer : Pointer) (polls : List Poll) : Trace :=
  polls.flatMap fun poll => [flagRead false, polled ringBuffer poll]

/-- `poll_ring_buffer` leaves its loop on a stop request or after a failed poll; its last event is
the call that made it leave. -/
inductive PollLoop (ringBuffer : Pointer) (trace : Trace) : Trace → Prop
  | stopped {polls : List Poll} {before : Trace} : (∀ poll ∈ polls, 0 ≤ poll.result) →
      Made (pollRounds ringBuffer polls) trace before →
      PollLoop ringBuffer trace (before ++ [flagRead true])
  | failed {polls : List Poll} {before : Trace} (poll : Poll) : (∀ poll ∈ polls, 0 ≤ poll.result) →
      Made (pollRounds ringBuffer polls ++ [flagRead false]) trace before → poll.result < 0 →
      PollLoop ringBuffer trace (before ++ [polled ringBuffer poll])

/-- `run` ends after a failed start-up step, with `1`, or after its poll loop, with `0`. -/
inductive RunEnds (self : XdpMonitor) (trace : Trace) : Int × XdpMonitor → Trace → Prop
  | startUpFailed {made trace' self'} : self.StartsUp made false self' → Made made trace trace' →
      RunEnds self trace (1, self') trace'
  | loopLeft {made started trace' self'} : self.StartsUp made true self' →
      Made made trace started → PollLoop self'.ringBuffer started trace' →
      RunEnds self trace (0, self') trace'

namespace XdpMonitor

variable {world : World}

/-- Nothing is asserted of the monitor while it waits on a call. -/
abbrev anywhere : Call → Trace → Prop := fun _ _ => True

theorem made_append {made trace trace' : Trace} (since : Made made trace trace') (call : Call)
    (result : call.Result) :
    Made (made ++ [.call call result]) trace (trace' ++ [.call call result]) :=
  since.call call result

/-- One call of the monitor in terms of the calls made so far. -/
theorem invoke_made {α : Type} {call : Call} {next : call.Result → Program signature α}
    {returned : α → Trace → Prop} {made trace trace' : Trace} (since : Made made trace trace')
    (continues : ∀ result trace', Made (made ++ [.call call result]) trace trace' →
      Ensures world.environment (next result) anywhere returned trace') :
    Ensures world.environment ((invoke call).bind next) anywhere returned trace' :=
  Ensures.call_made since continues

theorem resolveInterfaceIndex_spec (self : XdpMonitor) (trace : Trace) :
    Ensures world.environment self.resolveInterfaceIndex anywhere
      (fun r trace' => ∃ made, self.Resolves made r.1 r.2 ∧ Made made trace trace') trace := by
  simp only [resolveInterfaceIndex, Program.bind_eq, Program.pure_eq]
  refine invoke_made (Made.refl trace) fun (index : Ifindex) trace₁ made => ?_
  by_cases failed : index.val = 0
  · rw [if_pos (by simpa using failed)]
    exact .done ⟨_, .failed index failed, made⟩
  · rw [if_neg (by simpa using failed)]
    exact .done ⟨_, .resolved index failed, made⟩

theorem loadBpfObject_spec (self : XdpMonitor) (trace : Trace) :
    Ensures world.environment self.loadBpfObject anywhere
      (fun r trace' => ∃ made, self.Loads made r.1 r.2 ∧ Made made trace trace') trace := by
  simp only [loadBpfObject, Program.bind_eq, Program.pure_eq]
  refine invoke_made (Made.refl trace) fun (object : Pointer) trace₁ made₁ => ?_
  rcases object with _ | object
  · rw [if_pos rfl]
    exact .done ⟨_, .notOpened, made₁⟩
  · rw [if_neg (Option.some_ne_none object)]
    refine invoke_made made₁ fun (code : Int) trace₂ made₂ => ?_
    by_cases loaded : code = 0
    · rw [if_neg (not_not_intro loaded)]
      exact .done ⟨_, .loaded object code loaded, made₂⟩
    · rw [if_pos loaded]
      exact .done ⟨_, .notLoaded object code loaded, made₂⟩

theorem findBpfProgramAndMap_spec (self : XdpMonitor) (trace : Trace) :
    Ensures world.environment self.findBpfProgramAndMap anywhere
      (fun r trace' => ∃ made, self.Finds made r.1 r.2 ∧ Made made trace trace') trace := by
  simp only [findBpfProgramAndMap, Program.bind_eq, Program.pure_eq]
  refine invoke_made (Made.refl trace) fun (program : Pointer) trace₁ made₁ => ?_
  rcases program with _ | program
  · rw [if_pos rfl]
    exact .done ⟨_, .noProgram, made₁⟩
  · rw [if_neg (Option.some_ne_none program)]
    refine invoke_made made₁ fun (map : Pointer) trace₂ made₂ => ?_
    rcases map with _ | map
    · rw [if_pos rfl]
      exact .done ⟨_, .noMap program, made₂⟩
    · rw [if_neg (Option.some_ne_none map)]
      refine invoke_made made₂ fun (fd : Int) trace₃ made₃ => ?_
      by_cases negative : fd < 0
      · rw [if_pos negative]
        exact .done ⟨_, .noFd program map fd negative, made₃⟩
      · rw [if_neg negative]
        exact .done ⟨_, .found program map fd (Int.not_lt.mp negative), made₃⟩

theorem attachXdpProgram_spec (self : XdpMonitor) (trace : Trace) :
    Ensures world.environment self.attachXdpProgram anywhere
      (fun r trace' => ∃ made, self.Attaches made r.1 r.2 ∧ Made made trace trace') trace := by
  simp only [attachXdpProgram, Program.bind_eq, Program.pure_eq]
  refine invoke_made (Made.refl trace) fun (code : Int) trace₁ made => ?_
  by_cases attached : code = 0
  · rw [if_neg (not_not_intro attached)]
    exact .done ⟨_, .attached code attached, made⟩
  · rw [if_pos attached]
    exact .done ⟨_, .failed code attached, made⟩

theorem openRingBuffer_spec (self : XdpMonitor) (trace : Trace) :
    Ensures world.environment self.openRingBuffer anywhere
      (fun r trace' => ∃ made, self.Opens made r.1 r.2 ∧ Made made trace trace') trace := by
  simp only [openRingBuffer, Program.bind_eq, Program.pure_eq]
  refine invoke_made (Made.refl trace) fun (fd : Int) trace₁ made₁ => ?_
  by_cases negative : fd < 0
  · rw [if_pos negative]
    exact .done ⟨_, .noFd fd negative, made₁⟩
  · rw [if_neg negative]
    refine invoke_made made₁ fun (consumer : Pointer) trace₂ made₂ => ?_
    rcases consumer with _ | consumer
    · rw [if_pos rfl]
      exact .done ⟨_, .noConsumer fd (Int.not_lt.mp negative), made₂⟩
    · rw [if_neg (Option.some_ne_none consumer)]
      exact .done ⟨_, .opened fd consumer (Int.not_lt.mp negative), made₂⟩

/-- At the head of the poll loop only rounds that went on have been made. -/
theorem pollRingBuffer_spec (self : XdpMonitor) (trace : Trace) :
    Ensures world.environment self.pollRingBuffer anywhere
      (fun _ trace' => PollLoop self.ringBuffer trace trace') trace := by
  have stable : Stable fun trace' => ∃ polls : List Poll, (∀ poll ∈ polls, 0 ≤ poll.result) ∧
      Made (pollRounds self.ringBuffer polls) trace trace' := by
    rintro trace' action ⟨polls, going, made⟩
    exact ⟨polls, going, Made.stable _ _ trace' action made⟩
  refine Ensures.loop stable ?_ ⟨[], by simp, Made.refl trace⟩
  rintro before ⟨polls, going, made⟩
  refine ⟨trivial, fun reply (stop : Bool) _ => ?_⟩
  simp only [Program.bind_eq, Program.pure_eq]
  cases stop with
  | true =>
      rw [if_pos rfl]
      exact .done (.done (.stopped going made))
  | false =>
      rw [if_neg Bool.false_ne_true]
      refine Ensures.call (Made.stable _ _) (fun reached read => ⟨trivial, ?_⟩)
        (made_append made .stopMonitoringRequested false)
      intro reply (poll : Poll) _
      rw [Program.bind_done]
      by_cases negative : poll.result < 0
      · rw [if_pos negative]
        exact .done (.done (.failed poll going read negative))
      · rw [if_neg negative]
        refine .done ⟨polls ++ [poll], ?_, ?_⟩
        · intro other member
          rcases List.mem_append.mp member with member | member
          · exact going other member
          · rw [List.mem_singleton.mp member]
            exact Int.not_lt.mp negative
        · have round := made_append read (.ringBufferPoll self.ringBuffer POLL_TIMEOUT_MS) poll
          simpa [pollRounds] using round

/-- The start-up part of `run`: its five steps up to the first that fails. -/
def startUp (self : XdpMonitor) : Program signature (Bool × XdpMonitor) := do
  let (resolved, self) ← self.resolveInterfaceIndex
  if !resolved then
    return (false, self)
  let (loaded, self) ← self.loadBpfObject
  if !loaded then
    return (false, self)
  let (found, self) ← self.findBpfProgramAndMap
  if !found then
    return (false, self)
  let (attached, self) ← self.attachXdpProgram
  if !attached then
    return (false, self)
  self.openRingBuffer

/-- `run` is its start-up part followed, on success, by the poll loop. -/
theorem run_eq (self : XdpMonitor) :
    self.run = self.startUp.bind fun r =>
      if r.1 then r.2.pollRingBuffer.bind fun _ => .done (0, r.2) else .done (1, r.2) := by
  have last (r : Bool × XdpMonitor) :
      (if (!r.1) = true then (.done (1, r.2) : Program signature (Int × XdpMonitor))
        else r.2.pollRingBuffer.bind fun _ => .done (0, r.2)) =
      if r.1 then r.2.pollRingBuffer.bind fun _ => .done (0, r.2) else .done (1, r.2) := by
    cases r.1 <;> rfl
  simp only [run, startUp, Program.bind_eq, Program.pure_eq, Program.bind_assoc,
    Program.bind_ite, Program.bind_done, last]
  rfl

theorem startUp_spec (self : XdpMonitor) (trace : Trace) :
    Ensures world.environment self.startUp anywhere
      (fun r trace' => ∃ made, self.StartsUp made r.1 r.2 ∧ Made made trace trace') trace := by
  simp only [startUp, Program.bind_eq, Program.pure_eq]
  refine .bind ((self.resolveInterfaceIndex_spec trace).mono (fun _ _ _ => trivial) ?_)
  rintro ⟨resolved, self₁⟩ trace₁ ⟨made₁, resolves, since₁⟩
  cases resolved with
  | false => exact .done ⟨_, .unresolved resolves, since₁⟩
  | true =>
  refine .bind ((self₁.loadBpfObject_spec trace₁).mono (fun _ _ _ => trivial) ?_)
  rintro ⟨loaded, self₂⟩ trace₂ ⟨made₂, loads, since₂⟩
  have upTo₂ := since₁.trans since₂
  cases loaded with
  | false => exact .done ⟨_, .unloaded resolves loads, upTo₂⟩
  | true =>
  refine .bind ((self₂.findBpfProgramAndMap_spec trace₂).mono (fun _ _ _ => trivial) ?_)
  rintro ⟨found, self₃⟩ trace₃ ⟨made₃, finds, since₃⟩
  have upTo₃ := upTo₂.trans since₃
  cases found with
  | false => exact .done ⟨_, .unfound resolves loads finds, upTo₃⟩
  | true =>
  refine .bind ((self₃.attachXdpProgram_spec trace₃).mono (fun _ _ _ => trivial) ?_)
  rintro ⟨attached, self₄⟩ trace₄ ⟨made₄, attaches, since₄⟩
  have upTo₄ := upTo₃.trans since₄
  cases attached with
  | false => exact .done ⟨_, .unattached resolves loads finds attaches, upTo₄⟩
  | true =>
  refine (self₄.openRingBuffer_spec trace₄).mono (fun _ _ _ => trivial) ?_
  rintro ⟨opened, self₅⟩ trace₅ ⟨made₅, opens, since₅⟩
  have upTo₅ := upTo₄.trans since₅
  cases opened with
  | false => exact ⟨_, .unopened resolves loads finds attaches opens, upTo₅⟩
  | true => exact ⟨_, .opened resolves loads finds attaches opens, upTo₅⟩

/-- `run` goes through the start-up steps and then, if they all succeed, through the poll loop. -/
theorem run_spec (self : XdpMonitor) (trace : Trace) :
    Ensures world.environment self.run anywhere (RunEnds self trace) trace := by
  rw [run_eq]
  refine .bind ((self.startUp_spec trace).mono (fun _ _ _ => trivial) ?_)
  rintro ⟨started, self'⟩ trace₁ ⟨made, starts, since⟩
  cases started with
  | false => exact .done (.startUpFailed starts since)
  | true =>
      refine .bind ((self'.pollRingBuffer_spec trace₁).mono (fun _ _ _ => trivial) ?_)
      intro _ trace₂ left
      exact .done (.loopLeft starts since left)

/-! ## Nothing in these lists is superfluous -/

section Performs

variable {self self' : XdpMonitor} {made : Trace} {ok : Bool}

theorem Resolves.performs (resolves : self.Resolves made ok self') :
    self.resolveInterfaceIndex.Performs made (.done (ok, self')) := by
  cases resolves with
  | failed index zero =>
      apply Program.Performs.call rfl
      simpa [zero] using Program.Performs.refl _
  | resolved index nonzero =>
      apply Program.Performs.call rfl
      simpa [nonzero] using Program.Performs.refl _

theorem Loads.performs (loads : self.Loads made ok self') :
    self.loadBpfObject.Performs made (.done (ok, self')) := by
  cases loads with
  | notOpened => exact .call rfl (.refl _)
  | notLoaded object code failed =>
      apply Program.Performs.call rfl
      apply Program.Performs.call rfl
      simpa [failed] using Program.Performs.refl _
  | loaded object code success =>
      apply Program.Performs.call rfl
      apply Program.Performs.call rfl
      simpa [success] using Program.Performs.refl _

theorem Finds.performs (finds : self.Finds made ok self') :
    self.findBpfProgramAndMap.Performs made (.done (ok, self')) := by
  cases finds with
  | noProgram => exact .call rfl (.refl _)
  | noMap program => exact .call rfl (.call rfl (.refl _))
  | noFd program map fd negative =>
      apply Program.Performs.call rfl
      apply Program.Performs.call rfl
      apply Program.Performs.call rfl
      simpa [negative] using Program.Performs.refl _
  | found program map fd valid =>
      apply Program.Performs.call rfl
      apply Program.Performs.call rfl
      apply Program.Performs.call rfl
      simpa [Int.not_lt.mpr valid] using Program.Performs.refl _

theorem Attaches.performs (attaches : self.Attaches made ok self') :
    self.attachXdpProgram.Performs made (.done (ok, self')) := by
  cases attaches with
  | failed code refused =>
      apply Program.Performs.call rfl
      simpa [refused] using Program.Performs.refl _
  | attached code success =>
      apply Program.Performs.call rfl
      simpa [success] using Program.Performs.refl _

theorem Opens.performs (opens : self.Opens made ok self') :
    self.openRingBuffer.Performs made (.done (ok, self')) := by
  cases opens with
  | noFd fd negative =>
      apply Program.Performs.call rfl
      simpa [negative] using Program.Performs.refl _
  | noConsumer fd valid =>
      simp only [openRingBuffer, Program.bind_eq, Program.pure_eq]
      apply Program.Performs.call rfl
      simp only [Program.bind_done, if_neg (Int.not_lt.mpr valid)]
      exact .call rfl (.refl _)
  | opened fd consumer valid =>
      simp only [openRingBuffer, Program.bind_eq, Program.pure_eq]
      apply Program.Performs.call rfl
      simp only [Program.bind_done, if_neg (Int.not_lt.mpr valid)]
      exact .call rfl (.refl _)

theorem StartsUp.performs (starts : self.StartsUp made ok self') :
    self.startUp.Performs made (.done (ok, self')) := by
  -- The failing step ends the chain, so nothing is performed after it.
  have last {α : Type} {program rest : Program signature α} {events : Trace}
      (performs : program.Performs (events ++ []) rest) : program.Performs events rest := by
    rwa [List.append_nil] at performs
  cases starts with
  | unresolved resolves => exact last (resolves.performs.bind (.refl _))
  | unloaded resolves loads =>
      exact resolves.performs.bind (last (loads.performs.bind (.refl _)))
  | unfound resolves loads finds =>
      simp only [List.append_assoc]
      exact resolves.performs.bind (loads.performs.bind (last (finds.performs.bind (.refl _))))
  | unattached resolves loads finds attaches =>
      simp only [List.append_assoc]
      exact resolves.performs.bind (loads.performs.bind
        (finds.performs.bind (last (attaches.performs.bind (.refl _)))))
  | unopened resolves loads finds attaches opens =>
      simp only [List.append_assoc]
      exact resolves.performs.bind (loads.performs.bind
        (finds.performs.bind (attaches.performs.bind opens.performs)))
  | opened resolves loads finds attaches opens =>
      simp only [List.append_assoc]
      exact resolves.performs.bind (loads.performs.bind
        (finds.performs.bind (attaches.performs.bind opens.performs)))

end Performs

/-! ## Which calls a method can make at all -/

/-- The calls of the five start-up steps. -/
inductive StartUpCall : Call → Prop
  | ifNametoindex (name : String) : StartUpCall (.ifNametoindex name)
  | bpfObjectOpenFile (path : String) : StartUpCall (.bpfObjectOpenFile path)
  | bpfObjectLoad (object : Pointer) : StartUpCall (.bpfObjectLoad object)
  | bpfObjectFindProgramByName (object : Pointer) (name : String) :
      StartUpCall (.bpfObjectFindProgramByName object name)
  | bpfObjectFindMapByName (object : Pointer) (name : String) :
      StartUpCall (.bpfObjectFindMapByName object name)
  | bpfProgramFd (program : Pointer) : StartUpCall (.bpfProgramFd program)
  | bpfXdpAttach (ifindex programFd : Int) :
      StartUpCall (.bpfXdpAttach ifindex programFd attachFlags)
  | bpfMapFd (map : Pointer) : StartUpCall (.bpfMapFd map)
  | ringBufferNew (mapFd : Int) : StartUpCall (.ringBufferNew mapFd)

/-- Every event is a call of some start-up step. -/
def OnlyStartUp (made : Trace) : Prop :=
  ∀ event ∈ made, ∃ call result, event = .call call result ∧ StartUpCall call

theorem OnlyStartUp.nil : OnlyStartUp [] := by
  intro event member
  simp at member

theorem OnlyStartUp.cons {call : Call} {result : call.Result} {made : Trace}
    (first : StartUpCall call) (rest : OnlyStartUp made) :
    OnlyStartUp (.call call result :: made) := by
  intro event member
  rcases List.mem_cons.mp member with rfl | member
  · exact ⟨call, result, rfl, first⟩
  · exact rest event member

theorem OnlyStartUp.append {made made' : Trace} (first : OnlyStartUp made)
    (second : OnlyStartUp made') : OnlyStartUp (made ++ made') := by
  intro event member
  rcases List.mem_append.mp member with member | member
  · exact first event member
  · exact second event member

section OnlyStartUp

variable {self self' : XdpMonitor} {made : Trace} {ok : Bool}

theorem Resolves.onlyStartUp (resolves : self.Resolves made ok self') : OnlyStartUp made := by
  cases resolves <;> exact .cons (.ifNametoindex _) .nil

theorem Loads.onlyStartUp (loads : self.Loads made ok self') : OnlyStartUp made := by
  cases loads with
  | notOpened => exact .cons (.bpfObjectOpenFile _) .nil
  | notLoaded object code => exact .cons (.bpfObjectOpenFile _) (.cons (.bpfObjectLoad _) .nil)
  | loaded object code => exact .cons (.bpfObjectOpenFile _) (.cons (.bpfObjectLoad _) .nil)

theorem Finds.onlyStartUp (finds : self.Finds made ok self') : OnlyStartUp made := by
  have program (result : Pointer) (rest : Trace) (only : OnlyStartUp rest) : OnlyStartUp
      (.call (.bpfObjectFindProgramByName self.bpfObject XDP_PROGRAM_NAME) result :: rest) :=
    .cons (.bpfObjectFindProgramByName _ _) only
  have map (result : Pointer) (rest : Trace) (only : OnlyStartUp rest) : OnlyStartUp
      (.call (.bpfObjectFindMapByName self.bpfObject RINGBUF_MAP_NAME) result :: rest) :=
    .cons (.bpfObjectFindMapByName _ _) only
  cases finds with
  | noProgram => exact program _ _ .nil
  | noMap object => exact program _ _ (map _ _ .nil)
  | noFd object table fd => exact program _ _ (map _ _ (.cons (.bpfProgramFd _) .nil))
  | found object table fd => exact program _ _ (map _ _ (.cons (.bpfProgramFd _) .nil))

theorem Attaches.onlyStartUp (attaches : self.Attaches made ok self') : OnlyStartUp made := by
  cases attaches <;> exact .cons (.bpfXdpAttach _ _) .nil

theorem Opens.onlyStartUp (opens : self.Opens made ok self') : OnlyStartUp made := by
  cases opens with
  | noFd fd => exact .cons (.bpfMapFd _) .nil
  | noConsumer fd => exact .cons (.bpfMapFd _) (.cons (.ringBufferNew _) .nil)
  | opened fd consumer => exact .cons (.bpfMapFd _) (.cons (.ringBufferNew _) .nil)

theorem StartsUp.onlyStartUp (starts : self.StartsUp made ok self') : OnlyStartUp made := by
  cases starts with
  | unresolved resolves => exact resolves.onlyStartUp
  | unloaded resolves loads => exact resolves.onlyStartUp.append loads.onlyStartUp
  | unfound resolves loads finds =>
      exact (resolves.onlyStartUp.append loads.onlyStartUp).append finds.onlyStartUp
  | unattached resolves loads finds attaches =>
      exact ((resolves.onlyStartUp.append loads.onlyStartUp).append finds.onlyStartUp).append
        attaches.onlyStartUp
  | unopened resolves loads finds attaches opens =>
      exact (((resolves.onlyStartUp.append loads.onlyStartUp).append finds.onlyStartUp).append
        attaches.onlyStartUp).append opens.onlyStartUp
  | opened resolves loads finds attaches opens =>
      exact (((resolves.onlyStartUp.append loads.onlyStartUp).append finds.onlyStartUp).append
        attaches.onlyStartUp).append opens.onlyStartUp

end OnlyStartUp

theorem invoke_avoids {α : Type} {avoided : Call → Prop} {call : Call}
    {next : call.Result → Program signature α} (fine : ¬avoided call)
    (rest : ∀ result, (next result).Avoids avoided) :
    ((invoke call).bind next).Avoids avoided :=
  ⟨fine, rest⟩

section StartUpAvoids

variable {avoided : Call → Prop}

section

variable (fine : ∀ call, StartUpCall call → (∀ path, call ≠ .bpfObjectOpenFile path) → ¬avoided call)
include fine

theorem resolveInterfaceIndex_avoids (self : XdpMonitor) :
    self.resolveInterfaceIndex.Avoids avoided := by
  simp only [resolveInterfaceIndex, Program.bind_eq, Program.pure_eq]
  refine invoke_avoids (fine _ (.ifNametoindex _) nofun) fun index => ?_
  split <;> trivial

/-- Loading starts with the open. -/
theorem loadBpfObject_opens (self : XdpMonitor) :
    ∃ next, self.loadBpfObject = (invoke (.bpfObjectOpenFile self.bpfObjectFilePath)).bind next ∧
      ∀ object, (next object).Avoids avoided := by
  simp only [loadBpfObject, Program.bind_eq, Program.pure_eq]
  refine ⟨_, rfl, fun object => ?_⟩
  split
  · trivial
  · refine invoke_avoids (fine _ (.bpfObjectLoad _) nofun) fun loaded => ?_
    split <;> trivial

theorem findBpfProgramAndMap_avoids (self : XdpMonitor) :
    self.findBpfProgramAndMap.Avoids avoided := by
  simp only [findBpfProgramAndMap, Program.bind_eq, Program.pure_eq]
  refine invoke_avoids (fine _ (.bpfObjectFindProgramByName _ _) nofun) fun program => ?_
  split
  · trivial
  · refine invoke_avoids (fine _ (.bpfObjectFindMapByName _ _) nofun) fun map => ?_
    split
    · trivial
    · refine invoke_avoids (fine _ (.bpfProgramFd _) nofun) fun fd => ?_
      split <;> trivial

theorem attachXdpProgram_avoids (self : XdpMonitor) : self.attachXdpProgram.Avoids avoided := by
  simp only [attachXdpProgram, Program.bind_eq, Program.pure_eq]
  refine invoke_avoids (fine _ (.bpfXdpAttach _ _) nofun) fun attached => ?_
  split <;> trivial

theorem openRingBuffer_avoids (self : XdpMonitor) : self.openRingBuffer.Avoids avoided := by
  simp only [openRingBuffer, Program.bind_eq, Program.pure_eq]
  refine invoke_avoids (fine _ (.bpfMapFd _) nofun) fun fd => ?_
  split
  · trivial
  · refine invoke_avoids (fine _ (.ringBufferNew _) nofun) fun consumer => ?_
    split <;> trivial

/-- Start-up resolves the interface and loads the object, and does not open another one. -/
theorem startUp_opens (self : XdpMonitor) :
    ∃ next, self.startUp = self.resolveInterfaceIndex.bind (fun r =>
        if !r.1 then .done (false, r.2) else r.2.loadBpfObject.bind next) ∧
      ∀ r, (next r).Avoids avoided := by
  simp only [startUp, Program.bind_eq, Program.pure_eq]
  refine ⟨_, rfl, fun r₂ => ?_⟩
  split
  · trivial
  refine (findBpfProgramAndMap_avoids fine r₂.2).bind fun r₃ => ?_
  split
  · trivial
  refine (attachXdpProgram_avoids fine r₃.2).bind fun r₄ => ?_
  split
  · trivial
  exact openRingBuffer_avoids fine r₄.2

end

theorem startUp_avoids (fine : ∀ call, StartUpCall call → ¬avoided call) (self : XdpMonitor) :
    self.startUp.Avoids avoided := by
  have others (call : Call) (starts : StartUpCall call)
      (_ : ∀ path, call ≠ .bpfObjectOpenFile path) : ¬avoided call := fine call starts
  obtain ⟨next, same, avoids⟩ := startUp_opens others self
  rw [same]
  refine (resolveInterfaceIndex_avoids others self).bind fun r₁ => ?_
  split
  · trivial
  obtain ⟨next₁, same₁, avoids₁⟩ := loadBpfObject_opens others r₁.2
  rw [same₁]
  exact Program.Avoids.bind (invoke_avoids (fine _ (.bpfObjectOpenFile _)) avoids₁) avoids

end StartUpAvoids

end XdpMonitor

/-- The index of the interface in the runs below. -/
def eth0 : Ifindex := ⟨2, by decide⟩

/-- Replies with which the first seven calls of a start-up succeed on a free interface. -/
def attachReplies (object : Nat) : List (Tick Reply External) :=
  [.reply { ifindex := eth0 }, .reply { pointer := some object }, .reply {},
    .reply { pointer := some 2 }, .reply { pointer := some 3 }, .reply { code := 5 }, .reply {}]

/-- Replies with which a whole start-up succeeds. -/
def startUpReplies (object : Nat) : List (Tick Reply External) :=
  attachReplies object ++ [.reply { code := 6 }, .reply { pointer := some 4 }]

/-- The monitor after such a start-up. -/
def startedMonitor : XdpMonitor :=
  { targetInterfaceName := "eth0", bpfObjectFilePath := "xdp_prog.o", interfaceIndex := 2,
    bpfObject := some 1, xdpProgram := some 2, ringbufMap := some 3, ringBuffer := some 4,
    xdpProgramFd := 5 }

/-- A start-up followed by a signal, which the first read of the stop flag sees. -/
def stoppedRun : List (Tick Reply External) :=
  startUpReplies 1 ++ [.external (.signal .sigint), .reply {}]

/-- A detach that succeeds, and the two calls that return nothing. -/
def teardownReplies : List (Tick Reply External) :=
  [.reply {}, .reply {}, .reply {}]

end XdpExperiment

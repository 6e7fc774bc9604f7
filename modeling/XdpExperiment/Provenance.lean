import Mathlib.Data.List.Basic
import XdpExperiment.CallOrder
import XdpExperiment.Platform

/-!
# Where captured frames come from

A processor captures frames that arrived at it, each at most once and in the order of arrival, and
only at the interface and in the mode that the monitor attached its program to. What the monitor
polls is the ring buffer of the object that it opened last, so the handler gets all it ever gets
from one object before it gets anything from the next.
-/

namespace XdpExperiment

open Bytes Interaction Reservation

variable {ι σ : Type} [DecidableEq ι]

/-! ## Frames on their way through a processor -/

/-- The frame that a processor has parsed and not yet reserved a slot for. -/
def Cpu.inHand : Cpu → List Frame
  | .parsed frame _ => [frame]
  | _ => []

/-- The frame that a step brings to a processor. -/
def Move.arrival (cpu : ι) : Move ι → List Frame
  | .receive other frame => if other = cpu then [frame] else []
  | _ => []

/-- The frames that one processor reserved slots for, in the order of reservation. -/
def reservedBy (cpu : ι) (purposes : List (ι × Frame)) : List Frame :=
  purposes.filterMap fun purpose => if purpose.1 = cpu then some purpose.2 else none

namespace Machine

/-- The frames that a processor took up so far, less those that it passed over. -/
def tookUp (cpu : ι) (machine : Machine ι σ) : List Frame :=
  reservedBy cpu machine.ring.purposes ++ (machine.cpus cpu).inHand

variable {host : Endian} {handler : PacketHandler σ} {start : σ} {machine machine' : Machine ι σ}

theorem tookUp_update (cpu other : ι) (ring : RingBuffer ι) (position : Cpu) (state : σ) :
    tookUp cpu ⟨ring, Function.update machine.cpus other position, state⟩ =
      reservedBy cpu ring.purposes ++
        if cpu = other then position.inHand else (machine.cpus cpu).inHand := by
  by_cases same : cpu = other
  · subst same
    simp [tookUp]
  · simp [tookUp, same]

/-- A processor only takes up what arrives at it. -/
theorem tookUp_step (invariant : machine.Invariant host handler start) {move : Move ι}
    (step : machine.step host handler move = some machine') (cpu : ι) :
    (machine'.tookUp cpu).Sublist (machine.tookUp cpu ++ move.arrival cpu) := by
  cases move with
  | receive other frame =>
      obtain ⟨verdict, position, rfl⟩ := receive_cases step
      simp only [setCpu, tookUp_update, Move.arrival]
      by_cases same : cpu = other
      · subst same
        simp only [tookUp, position, if_true]
        split
        · simp [Cpu.inHand]
        · simp [Cpu.inHand]
      · simp [tookUp, same, Ne.symm same]
  | reserve other slot =>
      obtain ⟨frame, headers, position, outcome⟩ := reserve_cases step
      simp only [Move.arrival, List.append_nil]
      obtain ⟨-, rfl⟩ | ⟨stale, -, rfl⟩ := outcome
      · simp only [setCpu, tookUp_update]
        by_cases same : cpu = other
        · simp [tookUp, same, Cpu.inHand]
        · simp [tookUp, same]
      · simp only [setCpu, tookUp_update, Queue.purposes_reserve]
        by_cases same : cpu = other
        · subst same
          simp [tookUp, position, reservedBy, Cpu.inHand]
        · simp [tookUp, same, reservedBy, Ne.symm same]
  | fill other =>
      obtain ⟨frame, index, stale, -, position, -, rfl⟩ := fill_cases invariant step
      simp only [setCpu, tookUp_update, Queue.purposes_write, Move.arrival, List.append_nil]
      by_cases same : cpu = other
      · simp [tookUp, same, Cpu.inHand]
      · simp [tookUp, same]
  | submit other =>
      obtain ⟨frame, index, position, rfl⟩ := submit_cases step
      simp only [setCpu, tookUp_update, Queue.purposes_commit, Move.arrival, List.append_nil]
      by_cases same : cpu = other
      · simp [tookUp, same, Cpu.inHand]
      · simp [tookUp, same]
  | poll budget =>
      cases step
      obtain ⟨slots, -, -⟩ := pollRecords_spec budget invariant.sound invariant.handler _ _ rfl
      have purposes : (machine.poll host handler budget).ring.purposes = machine.ring.purposes := by
        simp only [Queue.purposes, poll, slots]
      simp only [tookUp, purposes, Move.arrival, List.append_nil]
      exact .refl _

omit [DecidableEq ι] in
/-- Slots are only reserved for frames that are to be captured. -/
theorem Invariant.reserved_captured (invariant : machine.Invariant host handler start)
    {frame : Frame} (reserved : frame ∈ machine.reservedFrames) : frame.Captured := by
  simp only [reservedFrames, Queue.purposes, List.map_map, List.mem_map] at reserved
  obtain ⟨⟨⟨cpu, frame⟩, contents, committed⟩, member, rfl⟩ := reserved
  cases committed with
  | true => exact (invariant.sound.committed_right _ member rfl).1
  | false =>
      obtain ⟨index, isOpen⟩ := List.mem_iff_getElem?.mp member
      have holds := invariant.held index cpu frame contents isOpen
      have valid := invariant.cpus cpu
      cases position : machine.cpus cpu with
      | reserved other headers held =>
          rw [position] at holds valid
          obtain ⟨captured, -, stale, alsoOpen⟩ := valid
          cases holds
          rw [Queue.Open, isOpen] at alsoOpen
          cases alsoOpen
          exact captured
      | filled other held =>
          rw [position] at holds valid
          obtain ⟨record, alsoOpen, right⟩ := valid
          cases holds
          rw [Queue.Open, isOpen] at alsoOpen
          cases alsoOpen
          exact right.1
      | waiting verdict => simp [position] at holds
      | parsed other headers => simp [position] at holds
      | faulted fault =>
          rw [position] at holds
          cases holds

end Machine

/-! ## Arrivals along an execution -/

namespace Platform

variable {host : Endian} {handler : PacketHandler σ} {start : σ} {platform : Platform ι σ}
variable {foreign : Int → XdpMode → Option Nat}

/-- The frame that an event hands to the program of an object on a processor. -/
def arrival (object : Nat) (cpu : ι) (platform : Platform ι σ) :
    Event signature (Activity ι) → List Frame
  | .external (.receive ifindex mode other frame) =>
      if platform.source ifindex mode = some object ∧ other = cpu then [frame] else []
  | _ => []

/-- The frames that were handed to the program of an object on a processor, in the order of
arrival. -/
def arrivals (host : Endian) (handler : PacketHandler σ) (object : Nat) (cpu : ι) :
    Platform ι σ → List (Event signature (Activity ι)) → List Frame
  | _, [] => []
  | platform, event :: trace =>
      platform.arrival object cpu event ++
        arrivals host handler object cpu (platform.after host handler event) trace

theorem arrivals_append_singleton (object : Nat) (cpu : ι) (platform : Platform ι σ)
    (trace : List (Event signature (Activity ι))) (event : Event signature (Activity ι)) :
    arrivals host handler object cpu platform (trace ++ [event]) =
      arrivals host handler object cpu platform trace ++
        (trace.foldl (after host handler) platform).arrival object cpu event := by
  induction trace generalizing platform with
  | nil => simp [arrivals]
  | cons first trace ih => simp [arrivals, ih]

/-- The step that an event is brings in what the event hands over. -/
theorem arrival_of_steps {object : Nat} {event : Event signature (Activity ι)} {step : Move ι}
    (steps : platform.steps object event step) (cpu : ι) :
    step.arrival cpu = platform.arrival object cpu event := by
  cases event with
  | external activity =>
      cases activity with
      | signal signal => cases steps
      | receive ifindex mode other frame =>
          obtain ⟨source, rfl⟩ := steps
          simp [Move.arrival, arrival, source]
      | _ =>
          obtain ⟨-, rfl⟩ := steps
          rfl
  | call call result =>
      cases call with
      | ringBufferPoll ringBuffer timeout =>
          obtain ⟨-, rfl⟩ := steps
          rfl
      | _ => cases steps

/-- What a processor took up is a part of what arrived at it. -/
theorem tookUp_arrivals (object : Nat) (cpu : ι) (trace : List (Event signature (Activity ι))) :
    ((((environment host handler foreign start).stateAfter trace).machines object).tookUp
      cpu).Sublist (arrivals host handler object cpu (initial foreign start) trace) := by
  induction trace using List.reverseRecOn with
  | nil => simp [Machine.tookUp, reservedBy, initial, Machine.initial, Queue.purposes, Queue.empty,
      Cpu.inHand]
  | append_singleton trace event ih =>
      have invariant :=
        (@reachable_stateAfter ι σ _ host handler start foreign trace object).invariant
      rw [Environment.stateAfter_append_singleton, arrivals_append_singleton]
      rcases @after_machine ι σ _ host handler
          ((environment host handler foreign start).stateAfter trace) event object with
        same | ⟨step, steps, taken⟩
      · change (((Platform.after _ _ _ _).machines object).tookUp cpu).Sublist _
        rw [same]
        exact ih.trans (List.sublist_append_left ..)
      · have arrived := Machine.tookUp_step invariant taken cpu
        rw [arrival_of_steps steps cpu] at arrived
        exact arrived.trans (ih.append (.refl _))

end Platform

/-! ## Handles along the calls of a monitor -/

namespace Handles

/-- What was found is the object that was opened last. -/
def Newest (handles : Handles) (found : Option Nat) : Prop :=
  ∃ object, found = some object ∧ handles.opened = object + 1

/-- What a monitor goes on with after its last call belongs to the object that it opened last. -/
def Linked (handles : Handles) (made : Trace) : Event signature External → Prop
  | .call (.bpfObjectOpenFile _) (some (object : Nat)) => handles.Newest (handles.object object)
  | .call (.bpfObjectLoad (some object)) _ => handles.Newest (handles.object object)
  | .call (.bpfObjectFindProgramByName (some object) _) (some (program : Nat)) =>
      handles.Newest (handles.object object) ∧ handles.Newest (handles.program program)
  | .call (.bpfObjectFindMapByName _ _) (some (map : Nat)) =>
      handles.Newest (handles.map map) ∧
        ∀ program, latest findProgramResult none made = some program →
          handles.Newest (handles.program program)
  | .call (.bpfProgramFd _) (fd : Int) =>
      (0 ≤ fd → handles.Newest (handles.programFd fd)) ∧
        ∀ map, latest findMapResult none made = some map → handles.Newest (handles.map map)
  | .call (.bpfXdpAttach _ _ _) _ =>
      ∀ map, latest findMapResult none made = some map → handles.Newest (handles.map map)
  | .call (.bpfMapFd _) (fd : Int) => 0 ≤ fd → handles.Newest (handles.mapFd fd)
  | _ => True

/-- What the last call returned is the latest result of its kind. -/
theorem latest_of_last {β : Type} {select : Event signature External → Option β} {initial value : β}
    {made : Trace} {call : Call} {result : call.Result} (last : Last made call result)
    (picked : select (.call call result) = some value) : latest select initial made = value := by
  obtain ⟨front, rfl⟩ := List.getLast?_eq_some_iff.mp last
  simp [picked]

/-- Each call takes its handle from the call before it. -/
theorem linked_of_inOrder {name path : String} {made : Trace}
    (inOrder : AtEach (fun before event => ∀ call result, event = .call call result →
      InOrder name path before call) made) {call : Call} {result : call.Result}
    (last : Last made call result) : (along made).Linked made (.call call result) := by
  induction made using List.reverseRecOn generalizing call result with
  | nil => cases last
  | append_singleton before event ih =>
      obtain rfl : event = .call call result := by
        simpa [Last] using last
      obtain ⟨earlier, now⟩ := AtEach.concat_iff.mp inOrder
      have ih {call : Call} {result : call.Result} := @ih earlier call result
      rw [along_concat]
      cases (now _ _ rfl).1 with
      | signal => trivial
      | ifNametoindex => trivial
      | bpfObjectOpenFile index =>
          rcases result with _ | object
          · trivial
          · exact ⟨_, Function.update_self .., rfl⟩
      | bpfObjectLoad object opened => exact ih opened
      | bpfObjectFindProgramByName object loaded =>
          rcases result with _ | program
          · trivial
          · obtain ⟨newest, found, opened⟩ := ih loaded
            exact ⟨⟨newest, found, opened⟩, newest, (Function.update_self ..).trans found, opened⟩
      | bpfObjectFindMapByName object program foundProgram =>
          rcases result with _ | map
          · trivial
          · obtain ⟨⟨newest, found, opened⟩, programNewest⟩ := ih foundProgram
            refine ⟨⟨newest, (Function.update_self ..).trans found, opened⟩, fun other same => ?_⟩
            have sameProgram : latest findProgramResult none before = some program :=
              latest_of_last foundProgram rfl
            obtain rfl : program = other := by
              simpa [findProgramResult, sameProgram] using same
            exact programNewest
      | bpfProgramFd object map program foundMap latestProgram =>
          obtain ⟨mapNewest, programNewest⟩ := ih foundMap
          have sameMap : latest findMapResult none before = some map := latest_of_last foundMap rfl
          obtain ⟨newest, found, opened⟩ := programNewest program latestProgram
          constructor
          · intro valid
            refine ⟨newest, ?_, ?_⟩
            · simpa [afterEvent, after, valid] using found
            · simpa [afterEvent, after, valid] using opened
          · intro other same
            obtain rfl : map = other := by
              simpa [findMapResult, sameMap] using same
            simp only [afterEvent, after]
            split <;> exact mapNewest
      | bpfXdpAttach program index fd found valid resolved positive =>
          intro map same
          exact (ih found).2 map (by simpa [findMapResult] using same)
      | bpfMapFd index fd map attached latestMap =>
          intro valid
          obtain ⟨newest, found, opened⟩ := ih attached map latestMap
          refine ⟨newest, ?_, ?_⟩
          · simpa [afterEvent, after, valid] using found
          · simpa [afterEvent, after, valid] using opened
      | _ => trivial

end Handles

/-- An event that resolves an index is a lookup. -/
theorem lookup_of_resolution {event : Event signature External} {index : Int}
    (resolves : resolution event = some index) :
    ∃ (name : String) (found : Ifindex), event = .call (.ifNametoindex name) found ∧
      index = found.val := by
  cases event with
  | external action => cases resolves
  | call call result =>
      cases call with
      | ifNametoindex name => exact ⟨name, result, rfl, (Option.some.inj resolves).symm⟩
      | _ => cases resolves

/-- The interface of an attach is one that the monitor's name was resolved to before. -/
theorem resolved_of_attach {name path : String} {history before after : Trace}
    (inOrder : AtEach (fun before event => ∀ call result, event = .call call result →
      InOrder name path before call) history)
    {ifindex fd code : Int} {flags : XdpFlags}
    (split : history = before ++ .call (.bpfXdpAttach ifindex fd flags) code :: after) :
    flags = XdpMonitor.attachFlags ∧
      ∃ index : Ifindex, ifindex = index.val ∧ .call (.ifNametoindex name) index ∈ before := by
  obtain ⟨prepared, -⟩ := inOrder before _ after split _ _ rfl
  cases prepared with
  | bpfXdpAttach program _ _ _ _ sameIndex positive =>
      refine ⟨rfl, ?_⟩
      rcases @latest_eq_or_exists signature External Int resolution (-1) before with
        unresolved | ⟨event, member, found⟩
      · rw [resolvedIndex, unresolved] at sameIndex
        omega
      · obtain ⟨other, index, rfl, value⟩ := lookup_of_resolution found
        obtain ⟨front, back, rfl⟩ := List.append_of_mem member
        rw [List.append_assoc] at split
        obtain ⟨looksUp, -⟩ := inOrder front _ _ split _ _ rfl
        cases looksUp
        exact ⟨index, sameIndex.symm.trans value, member⟩

/-! ## What the handler has got -/

namespace Platform

variable {host : Endian} {handler : PacketHandler σ} {start : σ} {platform : Platform ι σ}
variable {foreign : Int → XdpMode → Option Nat}

omit [DecidableEq ι] in
theorem handedOver_eq (object : Nat) : platform.handedOver object =
    (platform.machines object).ring.taken.map fun slot => slot.purpose.2 := by
  rw [handedOver, Machine.reservedFrames, ← List.map_take, ← Queue.taken_purposes]
  simp [Function.comp_def]

/-- Only polls hand over anything. -/
theorem handedOver_after {object : Nat}
    (invariant : (platform.machines object).Invariant host silentHandler ())
    {event : Event signature (Activity ι)}
    (quiet : ∀ ringBuffer timeout (poll : Poll),
      event ≠ .call (.ringBufferPoll ringBuffer timeout) poll) :
    (platform.after host handler event).handedOver object = platform.handedOver object := by
  rcases @after_machine ι σ _ host handler platform event object with same | ⟨step, steps, taken⟩
  · rw [handedOver, same, handedOver]
  · have noPoll (budget : Nat) : step ≠ .poll budget := by
      rintro rfl
      cases event with
      | external activity => cases activity <;> simp [Platform.steps] at steps
      | call call result =>
          cases call with
          | ringBufferPoll ringBuffer timeout => exact quiet _ _ _ rfl
          | _ => cases steps
    obtain ⟨consumed, -, more, reserved⟩ := Machine.step_quiet noPoll taken
    rw [handedOver, handedOver, consumed, ← reserved,
      List.take_append_of_le_length invariant.delivered.1]

omit [DecidableEq ι] in
/-- A poll hands over the next frames of its object, and nothing of the others. -/
theorem handedOver_poll {object : Nat} {ringBuffer : Pointer} (budget : Nat)
    (invariant : (platform.machines object).Invariant host silentHandler ())
    (polled : platform.polls ringBuffer = some object) {earlier : List Frame}
    (before : platform.handlerState =
      handled handler start ((earlier ++ platform.handedOver object).map Frame.delivered)) :
    (platform.poll host handler ringBuffer budget).handlerState =
        handled handler start ((earlier ++ (platform.poll host handler ringBuffer
          budget).handedOver object).map Frame.delivered) ∧
      ∀ other ≠ object, (platform.poll host handler ringBuffer budget).handedOver other =
        platform.handedOver other := by
  have before' : platform.handlerState =
      handled handler (handled handler start (earlier.map Frame.delivered))
        ((platform.machines object).ring.taken.map fun slot => slot.purpose.2.delivered) := by
    rw [before, handedOver_eq, List.map_append, handled, List.foldl_append, List.map_map]
    rfl
  obtain ⟨-, -, after⟩ := pollRecords_spec budget invariant.sound before' _ _ rfl
  have result : platform.poll host handler ringBuffer budget =
      { platform with
        machines := Function.update platform.machines object
          { platform.machines object with
            ring := (pollRecords host handler budget (platform.machines object).ring
              platform.handlerState).1 }
        handlerState := (pollRecords host handler budget (platform.machines object).ring
          platform.handlerState).2 } := by
    rw [poll, polled]
  constructor
  · rw [handedOver_eq, List.map_append, handled, List.foldl_append, List.map_map]
    simp only [result, Function.update_self]
    exact after
  · intro other different
    simp only [result, handedOver, Function.update_of_ne different]

/-- The handler has got all it ever gets from the objects before the one that is polled. -/
structure InSequence (handler : PacketHandler σ) (start : σ) (platform : Platform ι σ)
    (made : Trace) : Prop where
  handlerState : platform.handlerState =
    handled handler start (platform.delivered.map Frame.delivered)
  unopened : ∀ object, platform.handles.opened ≤ object → platform.handedOver object = []
  /-- Behind the object that is polled, nothing was handed over. -/
  polled : ∀ ringBuffer, latest newResult none made = some ringBuffer →
    ∃ object, platform.handles.consumer ringBuffer = some object ∧
      object < platform.handles.opened ∧
        ∀ later, object < later → platform.handedOver later = []

omit [DecidableEq ι] in
/-- What is delivered ends with the last object that was handed over from. -/
theorem delivered_eq {object : Nat} (opened : object < platform.handles.opened)
    (rest : ∀ later, object < later → platform.handedOver later = []) :
    platform.delivered =
      (List.range object).flatMap platform.handedOver ++ platform.handedOver object := by
  obtain ⟨more, split⟩ := Nat.exists_eq_add_of_lt opened
  have nothing : ((List.range more).map (object + 1 + ·)).flatMap platform.handedOver = [] := by
    simp only [List.flatMap_eq_nil_iff, List.mem_map]
    rintro _ ⟨index, -, rfl⟩
    exact rest _ (by omega)
  rw [delivered, split, Nat.add_right_comm, List.range_add, List.flatMap_append, nothing,
    List.append_nil, List.range_succ, List.flatMap_append, List.flatMap_singleton]

omit [DecidableEq ι] in
/-- An event that hands nothing over, opens nothing and gives out no consumer. -/
theorem InSequence.quiet {made made' : Trace} {platform' : Platform ι σ}
    (sequence : InSequence handler start platform made)
    (state : platform'.handlerState = platform.handlerState)
    (same : ∀ object, platform'.handedOver object = platform.handedOver object)
    (opened : platform'.handles.opened = platform.handles.opened)
    (consumer : platform'.handles.consumer = platform.handles.consumer)
    (latestNew : latest newResult none made' = latest newResult none made) :
    InSequence handler start platform' made' := by
  obtain ⟨handlerState, unopened, polled⟩ := sequence
  have sameFrames : platform'.handedOver = platform.handedOver := funext same
  refine ⟨?_, ?_, ?_⟩
  · rw [state, handlerState, delivered, delivered, sameFrames, opened]
  · rwa [opened, sameFrames]
  · rwa [latestNew, opened, consumer, sameFrames]

/-- A call of a monitor keeps the objects apart. -/
theorem InSequence.call {name path : String} {made : Trace} {call : Call} {result : call.Result}
    (sequence : InSequence handler start platform made)
    (invariant : ∀ object, (platform.machines object).Invariant host silentHandler ())
    (prepared : Prepared name path made call)
    (newest : ∀ map fd, Last made (.bpfMapFd map) fd → 0 ≤ fd →
      platform.handles.Newest (platform.handles.mapFd fd)) :
    InSequence handler start (platform.after host handler (.call call result))
      (made ++ [.call call result]) := by
  cases prepared with
  | bpfObjectOpenFile index =>
      rcases result with _ | object
      · exact sequence.quiet rfl (fun _ => rfl) rfl rfl (by simp [newResult])
      · obtain ⟨handlerState, unopened, polled⟩ := sequence
        refine ⟨?_, fun object later => unopened object (Nat.le_of_succ_le later), ?_⟩
        · change platform.handlerState = handled handler start
            (((List.range (platform.handles.opened + 1)).flatMap platform.handedOver).map _)
          rw [List.range_succ, List.flatMap_append, List.flatMap_singleton,
            unopened _ (Nat.le_refl _), List.append_nil]
          exact handlerState
        · intro ringBuffer latestNew
          obtain ⟨polls, found, opened, rest⟩ :=
            polled ringBuffer (by simpa [newResult] using latestNew)
          exact ⟨polls, found, Nat.lt_succ_of_lt opened, rest⟩
  | ringBufferNew map fd last valid =>
      obtain ⟨handlerState, unopened, polled⟩ := sequence
      rcases result with _ | ring
      · refine ⟨handlerState, unopened, fun ringBuffer latestNew => ?_⟩
        simp [newResult] at latestNew
      · refine ⟨handlerState, unopened, fun ringBuffer latestNew => ?_⟩
        obtain rfl : ring = ringBuffer := by
          simpa [newResult] using latestNew
        obtain ⟨object, found, last⟩ := newest _ _ last valid
        refine ⟨object, (Function.update_self ..).trans found, ?_, fun later behind => ?_⟩
        · exact Nat.lt_of_lt_of_eq (Nat.lt_succ_self object) last.symm
        · exact unopened later (last ▸ behind)
  | ringBufferPoll ring latestNew =>
      obtain ⟨handlerState, unopened, polled⟩ := sequence
      obtain ⟨object, found, opened, rest⟩ := polled ring latestNew
      rw [delivered_eq opened rest] at handlerState
      have polls : platform.polls (some ring) = some object := found
      obtain ⟨state, others⟩ := handedOver_poll (result : Poll).records.length (invariant object)
        polls handlerState
      have handles : (platform.poll host handler (some ring)
          (result : Poll).records.length).handles = platform.handles :=
        @handles_after ι σ _ host handler platform
          (.call (.ringBufferPoll (some ring) POLL_TIMEOUT_MS) result)
      have rest' (later : Nat) (behind : object < later) :
          (platform.poll host handler (some ring) (result : Poll).records.length).handedOver
            later = [] :=
        (others later (Nat.ne_of_gt behind)).trans (rest later behind)
      have earlier : (List.range object).flatMap (platform.poll host handler (some ring)
          (result : Poll).records.length).handedOver =
            (List.range object).flatMap platform.handedOver :=
        List.flatMap_congr fun index member =>
          others index (Nat.ne_of_lt (List.mem_range.mp member))
      refine ⟨?_, fun later beyond => ?_, fun ringBuffer latestNew' => ?_⟩
      · refine state.trans ?_
        rw [← earlier, ← delivered_eq (by rwa [handles]) rest']
        rfl
      · refine rest' later (Nat.lt_of_lt_of_le opened ?_)
        rwa [← handles]
      · obtain rfl : ring = ringBuffer := by
          simpa [newResult, latestNew] using latestNew'
        refine ⟨object, ?_, ?_, rest'⟩
        · exact (congrArg (fun handles => handles.consumer ring) handles).trans found
        · exact Nat.lt_of_lt_of_eq opened (congrArg Handles.opened handles).symm
  | bpfObjectFindProgramByName =>
      rcases result with _ | program <;>
        exact sequence.quiet rfl (fun _ => rfl) rfl rfl (by simp [newResult])
  | bpfObjectFindMapByName =>
      rcases result with _ | map <;>
        exact sequence.quiet rfl (fun _ => rfl) rfl rfl (by simp [newResult])
  | bpfProgramFd object map program =>
      refine sequence.quiet rfl (fun _ => rfl) ?_ ?_ (by simp [newResult]) <;>
        (simp only [after, called, Handles.after]; split <;> rfl)
  | bpfMapFd index fd map =>
      refine sequence.quiet rfl (fun _ => rfl) ?_ ?_ (by simp [newResult]) <;>
        (simp only [after, called, Handles.after]; split <;> rfl)
  | _ => exact sequence.quiet rfl (fun _ => rfl) rfl rfl (by simp [newResult])

theorem handlerState_external (activity : Activity ι) :
    (platform.after host handler (.external activity)).handlerState = platform.handlerState := by
  cases activity with
  | receive ifindex mode cpu frame =>
      simp only [after, receive]
      split
      · rfl
      · split <;> rfl
  | _ => rfl

/-- The order of the calls keeps the objects apart along every execution. -/
theorem inSequence_stateAfter {name path : String} {trace : List (Event signature (Activity ι))}
    (inOrder : AtEach (fun before event => ∀ call result, event = .call call result →
      InOrder name path before call) (callsAs External trace)) :
    InSequence handler start ((environment host handler foreign start).stateAfter trace)
      (callsAs External trace) := by
  induction trace using List.reverseRecOn with
  | nil =>
      refine ⟨rfl, fun _ _ => ?_, fun ringBuffer none => ?_⟩
      · simp [handedOver, initial, Machine.initial, Queue.empty]
      · cases none
  | append_singleton trace event ih =>
      have invariant (object : Nat) :=
        (@reachable_stateAfter ι σ _ host handler start foreign trace object).invariant
      rw [Environment.stateAfter_append_singleton]
      rw [callsAs_append] at inOrder ⊢
      have sequence := ih inOrder.of_append
      cases event with
      | external activity =>
          have handles := @handles_after ι σ _ host handler
            ((environment host handler foreign start).stateAfter trace) (.external activity)
          refine sequence.quiet (handlerState_external activity)
            (fun object => handedOver_after (invariant object) fun _ _ _ same => by cases same)
            (congrArg Handles.opened handles) (congrArg Handles.consumer handles) (by simp)
      | call call result =>
          obtain ⟨earlier, now⟩ := AtEach.concat_iff.mp inOrder
          refine sequence.call invariant (now _ _ rfl).1 fun map fd last valid => ?_
          have newest := Handles.linked_of_inOrder earlier last valid
          rw [Handles.along_callsAs, ← @handles_stateAfter ι σ _ host handler start foreign]
            at newest
          exact newest

/-! ## Where the program is attached -/

/-- A program of the process was there before or has just been attached. -/
theorem source_after {event : Event signature (Activity ι)} {ifindex : Int} {mode : XdpMode}
    {object : Nat}
    (source : (platform.after host handler event).source ifindex mode = some object) :
    platform.source ifindex mode = some object ∨
      ∃ (fd : Int) (flags : XdpFlags), event = .call (.bpfXdpAttach ifindex fd flags) (0 : Int) ∧
        flags.mode = mode ∧ platform.handles.programFd fd = some object := by
  cases event with
  | external activity =>
      refine .inl ?_
      cases activity with
      | receive index other cpu frame =>
          simp only [after, receive] at source
          split at source
          · exact source
          · split at source <;> exact source
      | _ => exact source
  | call call result =>
      cases call with
      | ringBufferPoll ringBuffer timeout =>
          simp only [after, poll] at source
          split at source <;> exact .inl source
      | bpfXdpAttach index fd flags =>
          simp only [after, called, sourceAfter] at source
          split at source
          · rename_i accepted
            beta_reduce at source
            split at source
            · rename_i place
              obtain ⟨rfl, rfl⟩ := place
              subst accepted
              exact .inr ⟨fd, flags, rfl, rfl, source⟩
            · exact .inl source
          · exact .inl source
      | bpfXdpDetach index flags =>
          simp only [after, called, sourceAfter] at source
          split at source
          · beta_reduce at source
            split at source
            · cases source
            · exact .inl source
          · exact .inl source
      | _ => exact .inl source

/-- A program of the process is where it was attached. -/
theorem attach_of_source {trace : List (Event signature (Activity ι))} {ifindex : Int}
    {mode : XdpMode} {object : Nat}
    (source : ((environment host handler foreign start).stateAfter trace).source ifindex mode =
      some object) :
    ∃ before after fd flags,
      trace = before ++ .call (.bpfXdpAttach ifindex fd flags) (0 : Int) :: after ∧
        flags.mode = mode ∧ (Handles.along before).programFd fd = some object := by
  induction trace using List.reverseRecOn with
  | nil => cases source
  | append_singleton trace event ih =>
      rw [Environment.stateAfter_append_singleton] at source
      rcases source_after source with earlier | ⟨fd, flags, rfl, sameMode, found⟩
      · obtain ⟨before, after, fd, flags, rfl, sameMode, found⟩ := ih earlier
        exact ⟨before, after ++ [event], fd, flags, by simp, sameMode, found⟩
      · rw [handles_stateAfter] at found
        exact ⟨trace, [], fd, flags, rfl, sameMode, found⟩

/-- The calls of a lifetime on the platform are in order. -/
theorem lifetime_calls_inOrder (host : Endian) (handler : PacketHandler σ)
    (foreign : Int → XdpMode → Option Nat) (start : σ) (name path : String)
    (publicCalls : List PublicCall) (ticks : List (Tick Reply (Activity ι))) :
    AtEach (fun before event => ∀ call result, event = .call call result →
        InOrder name path before call)
      (callsAs External ((Config.start (Activity ι) (lifetime name path publicCalls)).run
        (environment host handler foreign start) ticks).trace) := by
  obtain ⟨ticks', -, sameCalls, -⟩ :=
    (environment_refines host handler foreign start).run_start (lifetime name path publicCalls)
      ticks
  rw [← sameCalls]
  exact ((lifetime_obeys _ name path publicCalls).run ticks').1

end Platform

/-- In every execution of a lifetime, the handler has got the first frames that slots were reserved
for, all there are to be of one object before any of the next. Each of them is well-formed; those
of one processor are part of the frames that arrived at it for this object, in their order; and
frames arrive for an object nowhere but on the interface that the name was resolved to, in generic
mode, where the program of this object, the last one opened until then, was attached. -/
theorem lifetime_captures (host : Endian) (handler : PacketHandler σ)
    (foreign : Int → XdpMode → Option Nat) (start : σ) (name path : String)
    (publicCalls : List PublicCall) (ticks : List (Tick Reply (Activity ι))) :
    let env := Platform.environment host handler foreign start
    let final := (Config.start (Activity ι) (lifetime name path publicCalls)).run env ticks
    let platform := env.stateAfter final.trace
    platform.handlerState = handled handler start (platform.delivered.map Frame.delivered) ∧
    (∀ object, ∀ frame ∈ (platform.machines object).reservedFrames, frame.Captured) ∧
    (∀ object cpu, (reservedBy cpu (platform.machines object).ring.purposes).Sublist
      (Platform.arrivals host handler object cpu env.initial final.trace)) ∧
    ∀ (front back : List (Event signature (Activity ι))) (ifindex : Int) (mode : XdpMode)
      (object : Nat), final.trace = front ++ back →
      (env.stateAfter front).source ifindex mode = some object →
        mode = .skb ∧ ∃ (before after : List (Event signature (Activity ι))) (index : Ifindex)
          (fd : Int), ifindex = index.val ∧
            front = before ++
              .call (.bpfXdpAttach ifindex fd XdpMonitor.attachFlags) (0 : Int) :: after ∧
            .call (.ifNametoindex name) index ∈ before ∧
            (env.stateAfter before).handles.opened = object + 1 := by
  intro env final platform
  have inOrder := Platform.lifetime_calls_inOrder host handler foreign start name path publicCalls
    ticks
  refine ⟨(Platform.inSequence_stateAfter inOrder).handlerState, ?_, ?_, ?_⟩
  · exact fun object frame =>
      (Platform.reachable_stateAfter final.trace object).invariant.reserved_captured
  · intro object cpu
    exact (List.sublist_append_left ..).trans (Platform.tookUp_arrivals object cpu final.trace)
  · intro front back ifindex mode object split source
    obtain ⟨before, after, fd, flags, rfl, sameMode, found⟩ := Platform.attach_of_source source
    have history : callsAs External final.trace = callsAs External before ++
        .call (Call.bpfXdpAttach ifindex fd flags) (0 : Int) ::
          callsAs External (after ++ back) := by
      rw [split, List.append_assoc, callsAs_append, List.cons_append, callsAs_call]
    obtain ⟨rfl, index, sameIndex, looksUp⟩ := resolved_of_attach inOrder history
    refine ⟨sameMode.symm, before, after, index, fd, sameIndex, rfl, mem_callsAs.mp looksUp, ?_⟩
    rw [history] at inOrder
    cases (inOrder _ _ _ rfl _ _ rfl).1 with
    | bpfXdpAttach program _ _ last valid =>
        obtain ⟨newest, same, opened⟩ := (Handles.linked_of_inOrder inOrder.of_append last).1 valid
        rw [Handles.along_callsAs] at same opened
        rw [Platform.handles_stateAfter, opened]
        rw [found] at same
        cases same
        rfl

end XdpExperiment

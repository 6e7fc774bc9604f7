import XdpExperiment.PublicCalls

/-!
# Objects, ring buffers and attachments over a lifetime

The start-up steps overwrite the members that hold the kernel resources, so a second `run` can
lose what an earlier one acquired. The custody invariant says what the members still hold after
any sequence of public calls: everything, as long as the runs are entered in the right states, and
provably not everything otherwise.
-/

namespace XdpExperiment

open Interaction

/-! ## Acquisitions and releases -/

/-- The object that an event opens. -/
def openedObject : Event signature External → Option Nat
  | .call (.bpfObjectOpenFile _) (object : Pointer) => object
  | _ => none

/-- The object that an event closes. -/
def closedObject : Event signature External → Option Nat
  | .call (.bpfObjectClose object) _ => object
  | _ => none

/-- The ring buffer consumer that an event creates. -/
def createdRing : Event signature External → Option Nat
  | .call (.ringBufferNew _) (ring : Pointer) => ring
  | _ => none

/-- The ring buffer consumer that an event frees. -/
def freedRing : Event signature External → Option Nat
  | .call (.ringBufferFree ring) _ => ring
  | _ => none

/-- The interface to which an event attaches the program. -/
def attachment : Event signature External → Option Int
  | .call (.bpfXdpAttach ifindex _ _) (code : Int) => if code = 0 then some ifindex else none
  | _ => none

/-- The interface from which an event detaches the program. -/
def detachment : Event signature External → Option Int
  | .call (.bpfXdpDetach ifindex _) (code : Int) => if code = 0 then some ifindex else none
  | _ => none

/-- A handle that libbpf releases on request. -/
inductive Handle
  | object (object : Nat)
  | ring (ring : Nat)
  deriving DecidableEq

/-- The handle passed to a call. -/
def Call.handle : Call → Option Handle
  | .bpfObjectLoad object => object.map .object
  | .bpfObjectFindProgramByName object _ => object.map .object
  | .bpfObjectFindMapByName object _ => object.map .object
  | .bpfObjectClose object => object.map .object
  | .ringBufferPoll ring _ => ring.map .ring
  | .ringBufferFree ring => ring.map .ring
  | _ => none

/-- The handle passed to libbpf in an event. -/
def passedHandle : Event signature External → Option Handle
  | .call call _ => call.handle
  | .external _ => none

/-- The handle that is no longer valid after an event. -/
def releasedHandle (event : Event signature External) : Option Handle :=
  match closedObject event with
  | some object => some (.object object)
  | none => (freedRing event).map .ring

/-- Every resource acquired by the calls is released by them. A handle that was returned several
times is released as often. -/
structure Balanced (made : Trace) : Prop where
  objects : (made.filterMap openedObject).Perm (made.filterMap closedObject)
  rings : (made.filterMap createdRing).Perm (made.filterMap freedRing)
  attachments : ∀ front event back ifindex, made = front ++ event :: back →
    attachment event = some ifindex → ifindex ∈ back.filterMap detachment
  noUseAfterRelease : made.Pairwise fun earlier later =>
    ∀ handle, releasedHandle earlier = some handle → passedHandle later ≠ some handle

/-! ## Runs entered in the right states -/

/-- At every interface lookup, which is where `run` begins, nothing has been attached so far, and
if an object has been opened then the lookup fails. -/
def CleanReentry (made : Trace) : Prop :=
  AtEach (fun front event => ∀ ifindex, resolution event = some ifindex →
    front.filterMap attachment = [] ∧ (front.filterMap openedObject = [] ∨ ifindex = 0)) made

/-- If something was attached, the kernel does not refuse to detach. -/
def DetachesAccepted (made : Trace) : Prop :=
  made.filterMap attachment ≠ [] → ∀ ifindex flags (code : Int),
    .call (.bpfXdpDetach ifindex flags) code ∈ made → code = 0

theorem CleanReentry.append_iff {front back : Trace}
    (noLookup : ∀ event ∈ back, resolution event = none) :
    CleanReentry (front ++ back) ↔ CleanReentry front := by
  rw [CleanReentry, AtEach.append_iff]
  apply and_iff_left
  apply AtEach.of_forall_mem
  intro event member _ ifindex looksUp
  rw [noLookup event member] at looksUp
  simp at looksUp

/-- A run that follows `before` is entered in the right state. -/
theorem CleanReentry.lookup_iff {before rest : Trace} {name : String} {index : Ifindex}
    (noLookup : ∀ event ∈ rest, resolution event = none) :
    CleanReentry (before ++ .call (.ifNametoindex name) index :: rest) ↔
      CleanReentry before ∧ before.filterMap attachment = [] ∧
        (before.filterMap openedObject = [] ∨ (index.val : Int) = 0) := by
  rw [List.append_cons, append_iff noLookup, CleanReentry, AtEach.concat_iff]
  simp [resolution, CleanReentry]

/-! ## What one start-up acquires -/

/-- Calls that neither look up an interface nor acquire anything. -/
structure Inert (event : Event signature External) : Prop where
  resolution : resolution event = none
  openedObject : openedObject event = none
  createdRing : createdRing event = none
  attachment : attachment event = none

theorem Passive.inert {event : Event signature External} (passive : Passive event) :
    Inert event := by
  cases passive <;> exact ⟨rfl, rfl, rfl, rfl⟩

/-- Inert calls add nothing to what was acquired. -/
theorem filterMap_append_inert {α : Type*} {acquired : Event signature External → Option α}
    (nothing : ∀ event, Inert event → acquired event = none) {made rest : Trace}
    (inert : ∀ event ∈ rest, Inert event) :
    (made ++ rest).filterMap acquired = made.filterMap acquired := by
  have none : rest.filterMap acquired = [] := by
    rw [List.filterMap_eq_nil_iff]
    exact fun event member => nothing event (inert event member)
  rw [List.filterMap_append, none, List.append_nil]

/-- What a start-up acquires after a successful interface lookup, in terms of the members it
leaves behind. -/
structure Acquires (old : XdpMonitor) (rest : Trace) (new : XdpMonitor) : Prop where
  noLookup : ∀ event ∈ rest, resolution event = none
  objects : rest.filterMap openedObject = new.bpfObject.toList
  rings : rest.filterMap createdRing = [] ∧ new.ringBuffer = old.ringBuffer ∨
    rest.filterMap createdRing = new.ringBuffer.toList ∧ rest.filterMap attachment ≠ []
  attachments : rest.filterMap attachment = [] ∨
    rest.filterMap attachment = [new.interfaceIndex] ∧ 0 ≤ new.xdpProgramFd ∧
      new.bpfObject ≠ none

/-- A start-up fails at the lookup and only stores the index, or acquires what its later steps
leave in the members. -/
theorem startsUp_cases {self self' : XdpMonitor} {made : Trace} {ok : Bool}
    (starts : self.StartsUp made ok self') :
    ∃ index : Ifindex, (index.val = 0 ∧
        made = [.call (.ifNametoindex self.targetInterfaceName) index] ∧
        self' = { self with interfaceIndex := 0 }) ∨
      index.val ≠ 0 ∧ self'.interfaceIndex = index.val ∧ ∃ rest,
        made = .call (.ifNametoindex self.targetInterfaceName) index :: rest ∧
        Acquires self rest self' := by
  cases starts with
  | unresolved resolves =>
      obtain ⟨index, zero⟩ := resolves
      exact ⟨index, .inl ⟨zero, rfl, by simp [zero]⟩⟩
  | unloaded resolves loads =>
      obtain ⟨-⟩ | ⟨index, nonzero⟩ := resolves
      refine ⟨index, .inr ⟨nonzero, ?_, _, rfl, ?_⟩⟩
      · cases loads <;> rfl
      · constructor <;> cases loads <;>
          simp [List.filterMap_cons, resolution, openedObject, createdRing, attachment]
  | unfound resolves loads finds =>
      obtain ⟨-⟩ | ⟨index, nonzero⟩ := resolves
      obtain - | - | ⟨object, code, success⟩ := loads
      refine ⟨index, .inr ⟨nonzero, ?_, _, rfl, ?_⟩⟩
      · cases finds <;> rfl
      · constructor <;> cases finds <;>
          simp [List.filterMap_cons, resolution, openedObject, createdRing, attachment]
  | unattached resolves loads finds attaches =>
      obtain ⟨-⟩ | ⟨index, nonzero⟩ := resolves
      obtain - | - | ⟨object, code, success⟩ := loads
      obtain - | - | - | ⟨program, map, fd, valid⟩ := finds
      obtain ⟨refusal, refused⟩ | - := attaches
      refine ⟨index, .inr ⟨nonzero, rfl, _, rfl, ?_⟩⟩
      constructor <;>
        simp [List.filterMap_cons, resolution, openedObject, createdRing, attachment, refused]
  | unopened resolves loads finds attaches opens =>
      obtain ⟨-⟩ | ⟨index, nonzero⟩ := resolves
      obtain - | - | ⟨object, code, success⟩ := loads
      obtain - | - | - | ⟨program, map, fd, valid⟩ := finds
      obtain - | ⟨code, success⟩ := attaches
      refine ⟨index, .inr ⟨nonzero, ?_, _, rfl, ?_⟩⟩
      · cases opens <;> rfl
      · constructor <;> cases opens <;>
          simp [List.filterMap_cons, resolution, openedObject, createdRing, attachment, success,
            valid]
  | opened resolves loads finds attaches opens =>
      obtain ⟨-⟩ | ⟨index, nonzero⟩ := resolves
      obtain - | - | ⟨object, code, success⟩ := loads
      obtain - | - | - | ⟨program, map, fd, valid⟩ := finds
      obtain - | ⟨code, success⟩ := attaches
      obtain - | - | ⟨ringFd, consumer, ringFdValid⟩ := opens
      refine ⟨index, .inr ⟨nonzero, rfl, _, rfl, ?_⟩⟩
      constructor <;>
        simp [List.filterMap_cons, resolution, openedObject, createdRing, attachment, success,
          valid]

/-! ## What the members hold -/

/-- The members hold everything that was acquired. -/
structure HoldsAll (monitor : XdpMonitor) (made : Trace) : Prop where
  objects : made.filterMap openedObject = monitor.bpfObject.toList
  rings : made.filterMap createdRing = monitor.ringBuffer.toList
  attachments : made.filterMap attachment = [] ∧ monitor.ringBuffer = none ∨
    made.filterMap attachment = [monitor.interfaceIndex] ∧ 0 < monitor.interfaceIndex ∧
      0 ≤ monitor.xdpProgramFd ∧ monitor.bpfObject ≠ none

/-- The members have lost an object, or the index of the interface that carries the program. -/
structure HasLost (monitor : XdpMonitor) (made : Trace) : Prop where
  opened : made.filterMap openedObject ≠ []
  lost : monitor.bpfObject.toList.length < (made.filterMap openedObject).length ∨
    monitor.interfaceIndex = 0 ∧ ∃ ifindex ≠ 0, ifindex ∈ made.filterMap attachment

/-- The lookup with which a start-up begins. -/
abbrev lookup (self : XdpMonitor) (index : Ifindex) : Event signature External :=
  .call (.ifNametoindex self.targetInterfaceName) index

section Acquired

variable {self self' : XdpMonitor} {before rest : Trace} {index : Ifindex}

theorem filterMap_lookup {α : Type*} {acquired : Event signature External → Option α}
    (nothing : acquired (lookup self index) = none) :
    (before ++ lookup self index :: rest).filterMap acquired =
      before.filterMap acquired ++ rest.filterMap acquired := by
  rw [List.filterMap_append, List.filterMap_cons_none nothing]

/-- Members that hold everything hold nothing as long as no object was opened. -/
theorem HoldsAll.nothing_of_noObject (holds : HoldsAll self before)
    (noObject : before.filterMap openedObject = []) :
    before.filterMap attachment = [] ∧ self.ringBuffer = none := by
  have object : self.bpfObject = none := by
    rw [holds.objects] at noObject
    simpa using noObject
  rcases holds.attachments with nothing | ⟨-, -, -, present⟩
  · exact nothing
  · exact absurd object present

/-- Members that hold nothing take over everything that a start-up acquires. -/
theorem HoldsAll.acquired (holds : HoldsAll self before) (nonzero : index.val ≠ 0)
    (sameIndex : self'.interfaceIndex = index.val) (acquired : Acquires self rest self')
    (noObject : before.filterMap openedObject = []) :
    HoldsAll self' (before ++ lookup self index :: rest) := by
  obtain ⟨none, closed⟩ := holds.nothing_of_noObject noObject
  have noRing : before.filterMap createdRing = [] := by
    rw [holds.rings, closed]
    rfl
  constructor
  · rw [filterMap_lookup rfl, noObject, acquired.objects, List.nil_append]
  · rw [filterMap_lookup rfl, noRing, List.nil_append]
    rcases acquired.rings with ⟨noNew, same⟩ | ⟨ring, -⟩
    · rw [noNew, same, closed]
      rfl
    · exact ring
  · rw [filterMap_lookup rfl, none, List.nil_append]
    rcases acquired.attachments with noneNew | ⟨one, fdValid, present⟩
    · rcases acquired.rings with ⟨-, same⟩ | ⟨-, some⟩
      · exact .inl ⟨noneNew, same.trans closed⟩
      · exact absurd noneNew some
    · exact .inr ⟨one, by omega, fdValid, present⟩

/-- After a second start-up no member holds what had been opened before. -/
theorem Acquires.hasLost (acquired : Acquires self rest self')
    (opened : before.filterMap openedObject ≠ []) :
    HasLost self' (before ++ lookup self index :: rest) := by
  have objects : (before ++ lookup self index :: rest).filterMap openedObject =
      before.filterMap openedObject ++ self'.bpfObject.toList := by
    rw [filterMap_lookup rfl, acquired.objects]
  have positive := List.length_pos_iff.mpr opened
  constructor
  · rw [objects]
    simp [opened]
  · left
    rw [objects, List.length_append]
    omega

end Acquired

/-- The members hold everything exactly when every run was entered in the right state. -/
inductive Custody (monitor : XdpMonitor) (made : Trace) : Prop
  | intact : CleanReentry made → HoldsAll monitor made → Custody monitor made
  | broken : ¬CleanReentry made → HasLost monitor made → Custody monitor made

namespace Custody

variable {self self' : XdpMonitor} {before made : Trace}

theorem construct (name path : String) : Custody (.construct name path) [] :=
  .intact AtEach.nil ⟨rfl, rfl, .inl ⟨rfl, rfl⟩⟩

theorem inert {event : Event signature External} (inert : Inert event)
    (custody : Custody self before) : Custody self (before ++ [event]) := by
  have only : ∀ other ∈ [event], Inert other := by simpa using inert
  have clean_iff : CleanReentry (before ++ [event]) ↔ CleanReentry before :=
    CleanReentry.append_iff fun other member => (only other member).resolution
  have objects := @filterMap_append_inert _ openedObject (fun _ => Inert.openedObject) before _ only
  have rings := @filterMap_append_inert _ createdRing (fun _ => Inert.createdRing) before _ only
  have attachments := @filterMap_append_inert _ attachment (fun _ => Inert.attachment) before _ only
  cases custody with
  | intact clean holds =>
      apply intact (clean_iff.mpr clean)
      exact ⟨objects.trans holds.objects, rings.trans holds.rings,
        attachments ▸ holds.attachments⟩
  | broken unclean lost =>
      apply broken (mt clean_iff.mp unclean)
      exact ⟨objects ▸ lost.opened, objects.symm ▸ attachments.symm ▸ lost.lost⟩

/-- A lookup that fails only matters when something is attached: its index is then forgotten. -/
theorem failedLookup {index : Ifindex} (zero : index.val = 0) (custody : Custody self before) :
    Custody { self with interfaceIndex := 0 }
      (before ++ [.call (.ifNametoindex self.targetInterfaceName) index]) := by
  let event : Event signature External := .call (.ifNametoindex self.targetInterfaceName) index
  have clean_iff : CleanReentry (before ++ [event]) ↔
      CleanReentry before ∧ before.filterMap attachment = [] := by
    rw [CleanReentry.lookup_iff (by simp)]
    simp [zero]
  have objects : (before ++ [event]).filterMap openedObject = before.filterMap openedObject := by
    simp [event, openedObject]
  have rings : (before ++ [event]).filterMap createdRing = before.filterMap createdRing := by
    simp [event, createdRing]
  have attachments : (before ++ [event]).filterMap attachment = before.filterMap attachment := by
    simp [event, attachment]
  cases custody with
  | intact clean holds =>
      rcases holds.attachments with ⟨none, closed⟩ | ⟨one, positive, -, present⟩
      · apply intact (clean_iff.mpr ⟨clean, none⟩)
        exact ⟨objects.trans holds.objects, rings.trans holds.rings,
          .inl ⟨attachments.trans none, closed⟩⟩
      · apply broken
        · intro clean'
          have none := (clean_iff.mp clean').2
          rw [one] at none
          simp at none
        · constructor
          · rw [objects, holds.objects]
            simpa using present
          · right
            refine ⟨rfl, self.interfaceIndex, by omega, ?_⟩
            rw [attachments, one]
            exact List.mem_singleton_self _
  | broken unclean lost =>
      apply broken (fun clean' => unclean (clean_iff.mp clean').1)
      constructor
      · rw [objects]
        exact lost.opened
      · rw [objects, attachments]
        rcases lost.lost with fewer | ⟨-, attached⟩
        · exact .inl fewer
        · exact .inr ⟨rfl, attached⟩

/-- A start-up that goes beyond the lookup replaces what the members hold. -/
theorem acquires {index : Ifindex} {rest : Trace} (nonzero : index.val ≠ 0)
    (sameIndex : self'.interfaceIndex = index.val) (acquired : Acquires self rest self')
    (custody : Custody self before) :
    Custody self' (before ++ lookup self index :: rest) := by
  have clean_iff : CleanReentry (before ++ lookup self index :: rest) ↔
      CleanReentry before ∧ before.filterMap attachment = [] ∧
        before.filterMap openedObject = [] := by
    rw [CleanReentry.lookup_iff acquired.noLookup]
    simp [nonzero]
  cases custody with
  | intact clean holds =>
      by_cases opened : before.filterMap openedObject = []
      · have nothing := holds.nothing_of_noObject opened
        exact intact (clean_iff.mpr ⟨clean, nothing.1, opened⟩)
          (holds.acquired nonzero sameIndex acquired opened)
      · exact broken (fun clean' => opened (clean_iff.mp clean').2.2) (acquired.hasLost opened)
  | broken unclean lost =>
      exact broken (fun clean' => unclean (clean_iff.mp clean').1) (acquired.hasLost lost.opened)

theorem startsUp {ok : Bool} (starts : self.StartsUp made ok self')
    (custody : Custody self before) : Custody self' (before ++ made) := by
  obtain ⟨index, ⟨zero, rfl, rfl⟩ | ⟨nonzero, sameIndex, rest, rfl, acquired⟩⟩ :=
    startsUp_cases starts
  · exact custody.failedLookup zero
  · exact custody.acquires nonzero sameIndex acquired

theorem passives {events : Trace} (passive : ∀ event ∈ events, Passive event)
    (custody : Custody self before) : Custody self (before ++ events) := by
  induction events generalizing before with
  | nil => simpa using custody
  | cons event events ih =>
      rw [List.append_cons]
      apply ih
      · exact fun event member => passive event (List.mem_cons_of_mem _ member)
      · exact custody.inert (passive event List.mem_cons_self).inert

theorem publicStep (called : PublicStep self made self') (custody : Custody self before) :
    Custody self' (before ++ made) := by
  cases called with
  | failedRun starts => exact custody.startsUp starts
  | run starts loopCalls =>
      rw [← List.append_assoc]
      exact (custody.startsUp starts).passives fun event member => (loopCalls event member).passive
  | notOpen => simpa using custody
  | poll poll => exact custody.inert (Passive.polled _ poll).inert
  | install =>
      apply custody.passives
      intro event member
      rcases List.mem_cons.mp member with rfl | member
      · exact .signal .sigint
      · rw [List.mem_singleton.mp member]
        exact .signal .sigterm

/-- Custody after the public calls of a lifetime. -/
theorem publicSteps {name path : String}
    (steps : PublicSteps (.construct name path) made self) : Custody self made :=
  steps.invariant publicStep (construct name path)

end Custody

/-! ## The destructor -/

/-- Calls that neither release anything nor detach. -/
structure Keeps (event : Event signature External) : Prop where
  closedObject : closedObject event = none
  freedRing : freedRing event = none
  detachment : detachment event = none
  notDetach : ∀ ifindex flags (code : Int), event ≠ .call (.bpfXdpDetach ifindex flags) code

/-- Calls that keep everything release nothing. -/
theorem filterMap_keeps {α : Type*} {released : Event signature External → Option α}
    (nothing : ∀ event, Keeps event → released event = none) {made : Trace}
    (keeps : ∀ event ∈ made, Keeps event) : made.filterMap released = [] := by
  rw [List.filterMap_eq_nil_iff]
  exact fun event member => nothing event (keeps event member)

theorem keeps_of_makes {call : Call} {result : call.Result} (makes : PublicCall.Makes call) :
    Keeps (.call call result) := by
  cases makes with
  | startUp starts => cases starts <;> exact ⟨rfl, rfl, rfl, by simp⟩
  | stopMonitoringRequested => exact ⟨rfl, rfl, rfl, by simp⟩
  | ringBufferPoll ring timeout => exact ⟨rfl, rfl, rfl, by simp⟩
  | signal signal => exact ⟨rfl, rfl, rfl, by simp⟩

namespace XdpMonitor

variable (self : XdpMonitor) (detached : Int)

theorem teardownCalls_acquires_nothing (event : Event signature External)
    (member : event ∈ self.teardownCalls detached) : Inert event := by
  simp only [teardownCalls, detachCalls, freeCalls, closeCalls, List.mem_append,
    List.mem_ite_nil_right, List.mem_singleton] at member
  obtain (⟨-, rfl⟩ | ⟨-, rfl⟩) | ⟨-, rfl⟩ := member
  all_goals exact ⟨rfl, rfl, rfl, rfl⟩

theorem teardownCalls_objects :
    (self.teardownCalls detached).filterMap closedObject = self.bpfObject.toList := by
  obtain ⟨name, path, index, object, program, map, ring, fd⟩ := self
  simp only [teardownCalls, detachCalls, freeCalls, closeCalls, List.filterMap_append]
  cases object <;> cases ring <;> split <;> rfl

theorem teardownCalls_rings :
    (self.teardownCalls detached).filterMap freedRing = self.ringBuffer.toList := by
  obtain ⟨name, path, index, object, program, map, ring, fd⟩ := self
  simp only [teardownCalls, detachCalls, freeCalls, closeCalls, List.filterMap_append]
  cases object <;> cases ring <;> split <;> rfl

theorem teardownCalls_detachments :
    (self.teardownCalls detached).filterMap detachment =
      if (0 ≤ self.interfaceIndex ∧ 0 ≤ self.xdpProgramFd) ∧ detached = 0 then
        [self.interfaceIndex]
      else [] := by
  obtain ⟨name, path, index, object, program, map, ring, fd⟩ := self
  have freed : (freeCalls ⟨name, path, index, object, program, map, ring, fd⟩).filterMap
      detachment = [] := by
    rw [freeCalls]
    split <;> rfl
  have closed : (closeCalls ⟨name, path, index, object, program, map, ring, fd⟩).filterMap
      detachment = [] := by
    rw [closeCalls]
    split <;> rfl
  rw [teardownCalls, List.filterMap_append, List.filterMap_append, freed, closed, detachCalls]
  by_cases guard : 0 ≤ index ∧ 0 ≤ fd
  · by_cases accepted : detached = 0 <;> simp [guard, accepted, detachment]
  · simp [guard]

/-- The teardown detaches under the guard of `detach_xdp_program`, with one result. -/
theorem mem_teardownCalls_detach {ifindex code : Int} {flags : XdpFlags} :
    .call (.bpfXdpDetach ifindex flags) code ∈ self.teardownCalls detached ↔
      (0 ≤ self.interfaceIndex ∧ 0 ≤ self.xdpProgramFd) ∧ ifindex = self.interfaceIndex ∧
        flags = detachFlags ∧ code = detached := by
  have notFree : .call (.bpfXdpDetach ifindex flags) code ∉ self.freeCalls := by
    rw [freeCalls]
    split <;> simp
  have notClose : .call (.bpfXdpDetach ifindex flags) code ∉ self.closeCalls := by
    rw [closeCalls]
    split <;> simp
  simp only [teardownCalls, detachCalls, List.mem_append, notFree, notClose, or_false]
  by_cases guard : 0 ≤ self.interfaceIndex ∧ 0 ≤ self.xdpProgramFd
  · simp [guard, and_assoc]
  · simp [guard]

theorem releasedHandle_of_mem_detachCalls {event : Event signature External}
    (member : event ∈ self.detachCalls detached) : releasedHandle event = none := by
  simp only [detachCalls, List.mem_ite_nil_right, List.mem_singleton] at member
  rw [member.2]
  rfl

theorem releasedHandle_of_mem_freeCalls {event : Event signature External} {handle : Handle}
    (member : event ∈ self.freeCalls) (released : releasedHandle event = some handle) :
    ∃ ring, handle = .ring ring := by
  simp only [freeCalls, List.mem_ite_nil_right, List.mem_singleton] at member
  rw [member.2] at released
  obtain ⟨ring, -, rfl⟩ := Option.map_eq_some_iff.mp released
  exact ⟨ring, rfl⟩

theorem passedHandle_of_mem_closeCalls {event : Event signature External} {handle : Handle}
    (member : event ∈ self.closeCalls) (passed : passedHandle event = some handle) :
    ∃ object, handle = .object object := by
  simp only [closeCalls, List.mem_ite_nil_right, List.mem_singleton] at member
  rw [member.2] at passed
  obtain ⟨object, -, rfl⟩ := Option.map_eq_some_iff.mp passed
  exact ⟨object, rfl⟩

/-- No call of the teardown is passed a handle that an earlier one released: it releases the ring
buffer before the object and never names the ring buffer again. -/
theorem teardownCalls_noUseAfterRelease :
    (self.teardownCalls detached).Pairwise fun earlier later =>
      ∀ handle, releasedHandle earlier = some handle → passedHandle later ≠ some handle := by
  have single {guard : Prop} [Decidable guard] (event : Event signature External) :
      (if guard then [event] else []).Pairwise fun earlier later =>
        ∀ handle, releasedHandle earlier = some handle → passedHandle later ≠ some handle := by
    split
    · exact List.pairwise_singleton _ _
    · exact List.Pairwise.nil
  rw [teardownCalls, List.pairwise_append, List.pairwise_append]
  refine ⟨⟨single _, single _, ?_⟩, single _, ?_⟩
  · intro earlier detaches later _ handle released
    rw [self.releasedHandle_of_mem_detachCalls detached detaches] at released
    cases released
  · intro earlier member later closes handle released passed
    obtain ⟨object, isObject⟩ := self.passedHandle_of_mem_closeCalls closes passed
    rcases List.mem_append.mp member with detaches | frees
    · rw [self.releasedHandle_of_mem_detachCalls detached detaches] at released
      cases released
    · obtain ⟨ring, isRing⟩ := self.releasedHandle_of_mem_freeCalls frees released
      rw [isObject] at isRing
      cases isRing

end XdpMonitor

/-! ## Whole lifetimes -/

section Lifetime

variable {self : XdpMonitor} {made : Trace} {detached : Int}
variable (keeps : ∀ event ∈ made, Keeps event)

theorem lifetime_attachments :
    (made ++ self.teardownCalls detached).filterMap attachment = made.filterMap attachment := by
  exact filterMap_append_inert (fun _ => Inert.attachment)
    (self.teardownCalls_acquires_nothing detached)

theorem lifetime_cleanReentry_iff :
    CleanReentry (made ++ self.teardownCalls detached) ↔ CleanReentry made :=
  CleanReentry.append_iff fun event member =>
    (self.teardownCalls_acquires_nothing detached event member).resolution

include keeps

/-- Since only the destructor detaches, "later" is "in the teardown". -/
theorem attachments_undone_iff :
    (∀ front event back ifindex, made ++ self.teardownCalls detached = front ++ event :: back →
        attachment event = some ifindex → ifindex ∈ back.filterMap detachment) ↔
      ∀ ifindex ∈ made.filterMap attachment,
        ifindex ∈ (self.teardownCalls detached).filterMap detachment := by
  constructor
  · intro undone ifindex attached
    obtain ⟨event, member, attaches⟩ := List.mem_filterMap.mp attached
    obtain ⟨front, back, rfl⟩ := List.append_of_mem member
    have later := undone front event (back ++ self.teardownCalls detached) ifindex (by simp)
      attaches
    have none : back.filterMap detachment = [] :=
      filterMap_keeps (fun _ => Keeps.detachment) fun other otherMember =>
        keeps other (by simp [otherMember])
    rwa [List.filterMap_append, none, List.nil_append] at later
  · intro undone front event back ifindex split attaches
    have notTeardown : event ∉ self.teardownCalls detached := by
      intro member
      have acquires := (self.teardownCalls_acquires_nothing detached event member).attachment
      rw [attaches] at acquires
      simp at acquires
    rcases List.append_eq_append_iff.mp split with
      ⟨between, -, teardown⟩ | ⟨between, madeSplit, rest⟩
    · exact absurd (by simp [teardown]) notTeardown
    · cases between with
      | nil =>
          rw [List.nil_append] at rest
          exact absurd (rest ▸ List.mem_cons_self) notTeardown
      | cons head between =>
          rw [List.cons_append, List.cons_eq_cons] at rest
          obtain ⟨rfl, rfl⟩ := rest
          have attached : ifindex ∈ made.filterMap attachment :=
            List.mem_filterMap.mpr ⟨event, by simp [madeSplit], attaches⟩
          rw [List.filterMap_append]
          exact List.mem_append_right _ (undone ifindex attached)

theorem lifetime_noUseAfterRelease :
    (made ++ self.teardownCalls detached).Pairwise fun earlier later =>
      ∀ handle, releasedHandle earlier = some handle → passedHandle later ≠ some handle := by
  have releasesNothing : ∀ event ∈ made, releasedHandle event = none := by
    intro event member
    simp [releasedHandle, (keeps event member).closedObject, (keeps event member).freedRing]
  rw [List.pairwise_append]
  refine ⟨?_, self.teardownCalls_noUseAfterRelease detached, ?_⟩
  · apply List.pairwise_of_forall_mem_list
    intro earlier member later _ handle released
    rw [releasesNothing earlier member] at released
    simp at released
  · intro earlier member later _ handle released
    rw [releasesNothing earlier member] at released
    simp at released

theorem lifetime_objects :
    (made ++ self.teardownCalls detached).filterMap openedObject = made.filterMap openedObject ∧
      (made ++ self.teardownCalls detached).filterMap closedObject = self.bpfObject.toList := by
  constructor
  · exact filterMap_append_inert (fun _ => Inert.openedObject)
      (self.teardownCalls_acquires_nothing detached)
  · rw [List.filterMap_append, filterMap_keeps (fun _ => Keeps.closedObject) keeps,
      List.nil_append, self.teardownCalls_objects]

theorem lifetime_rings :
    (made ++ self.teardownCalls detached).filterMap createdRing = made.filterMap createdRing ∧
      (made ++ self.teardownCalls detached).filterMap freedRing = self.ringBuffer.toList := by
  constructor
  · exact filterMap_append_inert (fun _ => Inert.createdRing)
      (self.teardownCalls_acquires_nothing detached)
  · rw [List.filterMap_append, filterMap_keeps (fun _ => Keeps.freedRing) keeps,
      List.nil_append, self.teardownCalls_rings]

/-- The destructor's one detach has one result. -/
theorem detachesAccepted_iff (attached : made.filterMap attachment ≠ [])
    (guard : 0 ≤ self.interfaceIndex ∧ 0 ≤ self.xdpProgramFd) :
    DetachesAccepted (made ++ self.teardownCalls detached) ↔ detached = 0 := by
  constructor
  · intro accepted
    apply accepted (by rwa [lifetime_attachments]) self.interfaceIndex XdpMonitor.detachFlags
    apply List.mem_append_right
    exact (self.mem_teardownCalls_detach detached).mpr ⟨guard, rfl, rfl, rfl⟩
  · intro accepted _ ifindex flags code member
    rcases List.mem_append.mp member with member | member
    · exact absurd rfl ((keeps _ member).notDetach ifindex flags code)
    · obtain ⟨-, -, -, rfl⟩ := (self.mem_teardownCalls_detach detached).mp member
      exact accepted

/-- With everything still in the members, only the kernel's answer to the detach is left. -/
theorem HoldsAll.balanced_iff (holds : HoldsAll self made) :
    Balanced (made ++ self.teardownCalls detached) ↔
      DetachesAccepted (made ++ self.teardownCalls detached) := by
  have undone_iff : (∀ ifindex ∈ made.filterMap attachment,
      ifindex ∈ (self.teardownCalls detached).filterMap detachment) ↔
        DetachesAccepted (made ++ self.teardownCalls detached) := by
    rw [self.teardownCalls_detachments]
    rcases holds.attachments with ⟨none, -⟩ | ⟨one, positive, fdValid, -⟩
    · have vacuous : DetachesAccepted (made ++ self.teardownCalls detached) := by
        intro attached
        rw [lifetime_attachments, none] at attached
        exact absurd rfl attached
      simp [none, vacuous]
    · have guard : 0 ≤ self.interfaceIndex ∧ 0 ≤ self.xdpProgramFd := ⟨by omega, fdValid⟩
      rw [detachesAccepted_iff keeps (by simp [one]) guard]
      by_cases accepted : detached = 0 <;> simp [one, guard, accepted]
  rw [← undone_iff, ← attachments_undone_iff keeps]
  constructor
  · exact fun balanced => balanced.attachments
  · intro undone
    obtain ⟨opened, closed⟩ := @lifetime_objects self made detached keeps
    obtain ⟨created, freed⟩ := @lifetime_rings self made detached keeps
    constructor
    · rw [opened, closed, holds.objects]
    · rw [created, freed, holds.rings]
    · exact undone
    · exact lifetime_noUseAfterRelease keeps

/-- What the members have lost is not released any more. -/
theorem HasLost.not_balanced (lost : HasLost self made) :
    ¬Balanced (made ++ self.teardownCalls detached) := by
  intro balanced
  obtain ⟨opened, closed⟩ := @lifetime_objects self made detached keeps
  have sameLength := balanced.objects.length_eq
  rw [opened, closed] at sameLength
  rcases lost.lost with fewer | ⟨zero, ifindex, nonzero, attached⟩
  · omega
  · have undone := (attachments_undone_iff keeps).mp balanced.attachments ifindex attached
    rw [self.teardownCalls_detachments] at undone
    split at undone
    · rw [List.mem_singleton.mp undone] at nonzero
      exact nonzero zero
    · simp at undone

end Lifetime

/-- A completed lifetime releases everything it acquired exactly when each of its runs was entered
with nothing attached and, unless the interface lookup failed, with no object opened, and the
kernel did not refuse the detach. -/
theorem lifetime_balanced_iff (world : World) (name path : String)
    (publicCalls : List PublicCall) (ticks : List (Tick Reply External)) (results : List Int)
    (completed : ((Config.start External (lifetime name path publicCalls)).run
      world.environment ticks).thread = .done results) :
    let made := calls ((Config.start External (lifetime name path publicCalls)).run
      world.environment ticks).trace
    Balanced made ↔ CleanReentry made ∧ DetachesAccepted made := by
  intro lifetimeCalls
  obtain ⟨made, self, detached, steps, makes, split⟩ :=
    (@lifetime_spec world name path publicCalls ticks).2 results completed
  have keeps : ∀ event ∈ made, Keeps event := by
    intro event member
    obtain ⟨call, result, rfl, makesCall⟩ := makes event member
    exact keeps_of_makes makesCall
  have sameCalls : lifetimeCalls = made ++ self.teardownCalls detached := split
  rw [sameCalls, lifetime_cleanReentry_iff]
  cases Custody.publicSteps steps with
  | intact clean holds => simp [holds.balanced_iff keeps, clean]
  | broken unclean lost => simp [lost.not_balanced keeps, unclean]

/-- The calls of a lifetime with one run that is stopped by a signal. -/
def stoppedRunCalls : Trace :=
  [.call (.ifNametoindex "eth0") eth0, .call (.bpfObjectOpenFile "xdp_prog.o") (some 1),
    .call (.bpfObjectLoad (some 1)) (0 : Int),
    .call (.bpfObjectFindProgramByName (some 1) XDP_PROGRAM_NAME) (some 2),
    .call (.bpfObjectFindMapByName (some 1) RINGBUF_MAP_NAME) (some 3),
    .call (.bpfProgramFd (some 2)) (5 : Int),
    .call (.bpfXdpAttach 2 5 XdpMonitor.attachFlags) (0 : Int),
    .call (.bpfMapFd (some 3)) (6 : Int),
    .call (.ringBufferNew 6) (some 4), flagRead true,
    .call (.bpfXdpDetach 2 XdpMonitor.detachFlags) (0 : Int), .call (.ringBufferFree (some 4)) (),
    .call (.bpfObjectClose (some 1)) ()]

theorem single_run_balanced : Balanced stoppedRunCalls := by
  apply (lifetime_balanced_iff World.handlersInstalled "eth0" "xdp_prog.o" [.run]
    (stoppedRun ++ teardownReplies) [0] rfl).mpr
  change CleanReentry stoppedRunCalls ∧ DetachesAccepted stoppedRunCalls
  constructor
  · simp [stoppedRunCalls, CleanReentry, AtEach.cons_iff, AtEach.nil, resolution]
  · simp [stoppedRunCalls, DetachesAccepted]

/-- The second run replaces the object of the first one, which is then never closed. -/
theorem second_run_loses_object :
    let reached := (Config.start External (lifetime "eth0" "xdp_prog.o" [.run, .run])).run
      World.handlersInstalled.environment (stoppedRun ++ attachReplies 11 ++ teardownReplies)
    reached.thread = .done [0, 1] ∧ ¬Balanced (calls reached.trace) := by
  refine ⟨rfl, fun balanced => ?_⟩
  have sameLength := balanced.objects.length_eq
  exact absurd sameLength (by decide)

end XdpExperiment

import XdpExperiment.ExitCode
import XdpExperiment.ForeignPrograms
import XdpExperiment.Process
import XdpExperiment.ResourceBalance

/-!
# How the programs end

Whatever else happens in the system, either program makes the calls of a monitor that is run once.
Hence what it has acquired is released in the end, and the exact condition under which it leaves the
interfaces as it found them is one on the results of the attach and of the detach.
-/

namespace XdpExperiment

open Bytes Interaction

/-! ## One run -/

/-- The calls of `install_signal_handlers`. -/
def installCalls : Trace := [.call (.signal .sigint) (), .call (.signal .sigterm) ()]

/-- The calls of a single run up to the destructor. -/
inductive RunOnce (accepted : MonitorArguments) : Trace → Int → XdpMonitor → Prop
  | failed {made self} : (XdpMonitor.construct accepted.targetInterfaceName
        accepted.bpfObjectFilePath).StartsUp made false self →
      RunOnce accepted (installCalls ++ made) 1 self
  | left {made loop self} : (XdpMonitor.construct accepted.targetInterfaceName
        accepted.bpfObjectFilePath).StartsUp made true self →
      (∀ event ∈ loop, LoopCall self.ringBuffer event) →
      RunOnce accepted (installCalls ++ (made ++ loop)) 0 self

theorem singleRun_spec {world : World} (accepted : MonitorArguments) :
    Ensures world.environment (singleRun accepted) XdpMonitor.anywhere
      (fun results trace => ∃ made status self detached before,
        results = [0, status] ∧ RunOnce accepted made status self ∧ Made made [] before ∧
          Made (self.teardownCalls detached) before trace) [] := by
  rw [singleRun_eq]
  simp only [XdpMonitor.installSignalHandlers, Program.bind_eq, Program.bind_assoc]
  refine XdpMonitor.invoke_made (Made.refl []) fun (_ : Unit) trace₁ made₁ => ?_
  refine XdpMonitor.invoke_made made₁ fun (_ : Unit) trace₂ made₂ => ?_
  refine .bind ((XdpMonitor.run_spec _ trace₂).mono (fun _ _ _ => trivial) ?_)
  rintro ⟨status, self⟩ trace₃ ends
  refine .bind ((self.destroy_spec trace₃).mono (fun _ _ _ => trivial) ?_)
  rintro _ trace₄ ⟨detached, since₄⟩
  cases ends with
  | startUpFailed starts since₃ =>
      exact .done ⟨_, _, _, detached, trace₃, rfl, .failed starts, made₂.trans since₃, since₄⟩
  | loopLeft starts since₃ left =>
      obtain ⟨loop, sinceLoop, loopCalls⟩ := left.made
      exact .done ⟨_, _, _, detached, trace₃, rfl, .left starts loopCalls,
        made₂.trans (since₃.trans sinceLoop), since₄⟩

/-- Calls around a run, which do not count for its start-up. -/
inductive Bystander : Call → Prop
  | signal (signal : StopSignal) : Bystander (.signal signal)
  | bpfXdpDetach (ifindex : Int) (flags : XdpFlags) : Bystander (.bpfXdpDetach ifindex flags)
  | ringBufferFree (ring : Pointer) : Bystander (.ringBufferFree ring)
  | bpfObjectClose (object : Pointer) : Bystander (.bpfObjectClose object)

theorem startUpSucceeded_between_iff {front made back : Trace}
    (before : ∀ call result, .call call result ∈ front → Bystander call)
    (after : ∀ call result, .call call result ∈ back → Bystander call) :
    StartUpSucceeded (front ++ made ++ back) ↔ StartUpSucceeded made := by
  constructor
  · rintro ⟨⟨name, index, looksUp, nonzero⟩, ⟨object, loads⟩, ⟨program, fd, finds, valid⟩,
      ⟨ifindex, programFd, flags, attaches⟩, ⟨mapFd, ring, opens⟩⟩
    have within {call : Call} {result : call.Result} (counts : ¬Bystander call)
        (member : .call call result ∈ front ++ made ++ back) : .call call result ∈ made := by
      rcases List.mem_append.mp member with earlier | inBack
      · rcases List.mem_append.mp earlier with inFront | inMade
        · exact absurd (before _ _ inFront) counts
        · exact inMade
      · exact absurd (after _ _ inBack) counts
    constructor
    · exact ⟨name, index, within (by rintro ⟨⟩) looksUp, nonzero⟩
    · exact ⟨object, within (by rintro ⟨⟩) loads⟩
    · exact ⟨program, fd, within (by rintro ⟨⟩) finds, valid⟩
    · exact ⟨ifindex, programFd, flags, within (by rintro ⟨⟩) attaches⟩
    · exact ⟨mapFd, ring, within (by rintro ⟨⟩) opens⟩
  · exact fun succeeded => succeeded.mono fun event member =>
      List.mem_append_left back (List.mem_append_right front member)

namespace RunOnce

variable {accepted : MonitorArguments} {made : Trace} {status : Int} {self : XdpMonitor}

theorem steps (once : RunOnce accepted made status self) :
    PublicSteps (.construct accepted.targetInterfaceName accepted.bpfObjectFilePath) made self := by
  cases once with
  | failed starts =>
      have steps := PublicSteps.cons .install (.cons (.failedRun starts) (.nil self))
      rwa [List.append_nil] at steps
  | left starts loopCalls =>
      have steps := PublicSteps.cons .install (.cons (.run starts loopCalls) (.nil self))
      rwa [List.append_nil] at steps

/-- The calls are those of public methods. -/
theorem makes (once : RunOnce accepted made status self) :
    ∀ event ∈ made, ∃ call result, event = .call call result ∧ PublicCall.Makes call := by
  have startUps {self self' : XdpMonitor} {made : Trace} {ok : Bool}
      (starts : self.StartsUp made ok self') (event : Event signature External)
      (member : event ∈ installCalls ++ made) :
      ∃ call result, event = .call call result ∧ PublicCall.Makes call := by
    rcases List.mem_append.mp member with installs | startsUp
    · simp only [installCalls, List.mem_cons, List.not_mem_nil, or_false] at installs
      rcases installs with rfl | rfl
      · exact ⟨_, _, rfl, .signal .sigint⟩
      · exact ⟨_, _, rfl, .signal .sigterm⟩
    · obtain ⟨call, result, rfl, startUp⟩ := starts.onlyStartUp event startsUp
      exact ⟨call, result, rfl, .startUp startUp⟩
  intro event member
  cases once with
  | failed starts => exact startUps starts event member
  | left starts loopCalls =>
      rw [← List.append_assoc] at member
      rcases List.mem_append.mp member with earlier | inLoop
      · exact startUps starts event earlier
      · cases loopCalls event inLoop with
        | flagRead stop => exact ⟨_, _, rfl, .stopMonitoringRequested⟩
        | polled poll => exact ⟨_, _, rfl, .ringBufferPoll _ _⟩

theorem keeps (once : RunOnce accepted made status self) : ∀ event ∈ made, Keeps event := by
  intro event member
  obtain ⟨call, result, rfl, makes⟩ := once.makes event member
  exact keeps_of_makes makes

/-- The one run is entered in the right state. -/
theorem clean (once : RunOnce accepted made status self) : CleanReentry made := by
  have installed : CleanReentry installCalls :=
    AtEach.of_forall_mem fun event member front ifindex looksUp => by
      simp only [installCalls, List.mem_cons, List.not_mem_nil, or_false] at member
      rcases member with rfl | rfl <;> cases looksUp
  have entered {self self' : XdpMonitor} {made loop : Trace} {ok : Bool}
      (starts : self.StartsUp made ok self') (noLookup : ∀ event ∈ loop, resolution event = none) :
      CleanReentry (installCalls ++ (made ++ loop)) := by
    obtain ⟨index, ⟨-, rfl, -⟩ | ⟨-, -, rest, rfl, acquired⟩⟩ := startsUp_cases starts
    · exact (CleanReentry.lookup_iff noLookup).mpr ⟨installed, rfl, .inl rfl⟩
    · refine (CleanReentry.lookup_iff fun event member => ?_).mpr ⟨installed, rfl, .inl rfl⟩
      rcases List.mem_append.mp member with inRest | inLoop
      · exact acquired.noLookup event inRest
      · exact noLookup event inLoop
  cases once with
  | failed starts =>
      have clean := @entered _ _ _ [] _ starts (by simp)
      rwa [List.append_nil] at clean
  | left starts loopCalls =>
      exact entered starts fun event member => (loopCalls event member).passive.inert.resolution

/-- The members hold everything that was acquired. -/
theorem holds (once : RunOnce accepted made status self) : HoldsAll self made := by
  cases Custody.publicSteps once.steps with
  | intact clean holds => exact holds
  | broken unclean lost => exact absurd once.clean unclean

theorem guards (once : RunOnce accepted made status self) : GuardsLatest self made := by
  have start : GuardsLatest (.construct accepted.targetInterfaceName accepted.bpfObjectFilePath)
      [] := ⟨rfl, rfl⟩
  exact GuardsLatest.stepInvariant.publicSteps once.steps start

/-- The status tells whether start-up succeeded. -/
theorem status_cases (once : RunOnce accepted made status self) (detached : Int) :
    status = 0 ∧ StartUpSucceeded (made ++ self.teardownCalls detached) ∨
      status = 1 ∧ ¬StartUpSucceeded (made ++ self.teardownCalls detached) := by
  have installs (call : Call) (result : call.Result) (member : .call call result ∈ installCalls) :
      Bystander call := by
    simp only [installCalls, List.mem_cons, List.not_mem_nil, or_false] at member
    rcases member with same | same <;> cases same <;> exact .signal _
  have tearsDown (call : Call) (result : call.Result)
      (member : .call call result ∈ self.teardownCalls detached) : Bystander call := by
    simp only [XdpMonitor.teardownCalls, XdpMonitor.detachCalls, XdpMonitor.freeCalls,
      XdpMonitor.closeCalls, List.mem_append, List.mem_ite_nil_right, List.mem_singleton] at member
    obtain (⟨-, same⟩ | ⟨-, same⟩) | ⟨-, same⟩ := member
    · cases same
      exact .bpfXdpDetach _ _
    · cases same
      exact .ringBufferFree _
    · cases same
      exact .bpfObjectClose _
  cases once with
  | failed starts =>
      rw [startUpSucceeded_between_iff installs tearsDown]
      exact .inr ⟨rfl, starts.not_succeeded⟩
  | left starts loopCalls =>
      refine .inl ⟨rfl, starts.succeeded.mono fun event member => ?_⟩
      simp [member]

end RunOnce

/-! ## What stays attached -/

/-- Calls that change what is attached in another way than `attach_xdp_program` does. -/
inductive Intrusive : Call → Prop
  | detach (ifindex : Int) (flags : XdpFlags) : Intrusive (.bpfXdpDetach ifindex flags)
  | attach (ifindex fd : Int) (flags : XdpFlags) : flags ≠ XdpMonitor.attachFlags →
      Intrusive (.bpfXdpAttach ifindex fd flags)

/-- Programs were only added, in generic mode, to interfaces that had none. -/
structure OnlyAdds (found attached : Int → XdpMode → Option XdpProgram) (added : List Int) :
    Prop where
  others : ∀ ifindex mode, ¬(ifindex ∈ added ∧ mode = .skb) →
    attached ifindex mode = found ifindex mode
  ours : ∀ ifindex ∈ added,
    found ifindex .skb = none ∧ ∃ fd, attached ifindex .skb = some (.loaded fd)

theorem attachment_of_untouched {event : Event signature External}
    (untouched : ∀ call result, event = .call call result → ¬AttachmentCall call) :
    attachment event = none := by
  cases event with
  | external action => rfl
  | call call result =>
      cases call with
      | bpfXdpAttach ifindex fd flags =>
          exact absurd (.attach ifindex fd flags) (untouched _ _ rfl)
      | _ => rfl

theorem World.attached_setAttached (world : World) (ifindex other : Int) (mode mode' : XdpMode)
    (program : Option XdpProgram) :
    (world.setAttached ifindex mode program).attached other mode' =
      if other = ifindex ∧ mode' = mode then program else world.attached other mode' := rfl

/-- An attach that the kernel accepts adds a program. -/
theorem OnlyAdds.attach {found : Int → XdpMode → Option XdpProgram} {world : World}
    {added : List Int} (adds : OnlyAdds found world.attached added) {ifindex fd : Int}
    (free : world.attached ifindex .skb = none) :
    OnlyAdds found (world.setAttached ifindex .skb (some (.loaded fd))).attached
      (added ++ [ifindex]) := by
  constructor
  · intro other mode elsewhere
    have different : ¬(other = ifindex ∧ mode = .skb) := by
      rintro ⟨rfl, rfl⟩
      exact elsewhere ⟨by simp, rfl⟩
    rw [World.attached_setAttached, if_neg different]
    apply adds.others
    rintro ⟨member, skb⟩
    exact elsewhere ⟨List.mem_append_left _ member, skb⟩
  · intro other member
    by_cases same : other = ifindex
    · subst same
      refine ⟨?_, fd, by simp [World.setAttached]⟩
      by_cases earlier : other ∈ added
      · exact (adds.ours other earlier).1
      · rw [← adds.others other .skb fun both => earlier both.1]
        exact free
    · have earlier : other ∈ added := by simpa [same] using member
      obtain ⟨unused, fd', attached⟩ := adds.ours other earlier
      exact ⟨unused, fd', by simpa [World.setAttached, same] using attached⟩

theorem onlyAdds_stateAfter {world : World} {trace : Trace}
    (admits : world.environment.Admits trace) (without : Without Intrusive trace) :
    OnlyAdds world.attached (world.environment.stateAfter trace).attached
      (trace.filterMap attachment) := by
  induction trace using List.reverseRecOn with
  | nil => exact ⟨fun _ _ _ => rfl, fun _ member => absurd member List.not_mem_nil⟩
  | append_singleton trace event ih =>
      obtain ⟨earlier, last⟩ := AtEach.concat_iff.mp admits
      have adds := ih earlier without.of_append
      rw [Environment.stateAfter_append_singleton, List.filterMap_append]
      by_cases untouched : ∀ call result, event = .call call result → ¬AttachmentCall call
      · rw [World.after_attached _ _ untouched,
          List.filterMap_cons_none (attachment_of_untouched untouched), List.filterMap_nil,
          List.append_nil]
        exact adds
      · push Not at untouched
        obtain ⟨call, result, rfl, attaches⟩ := untouched
        have fine : ¬Intrusive call := without call result (by simp)
        cases attaches with
        | detach ifindex flags => exact absurd (.detach ifindex flags) fine
        | attach ifindex fd flags =>
            have same : flags = XdpMonitor.attachFlags := by
              by_contra different
              exact fine (.attach ifindex fd flags different)
            subst same
            by_cases accepted : result = (0 : Int)
            · subst accepted
              obtain ⟨reply, answer⟩ := last _ _ rfl
              have free : ¬(world.environment.stateAfter trace).Occupied ifindex :=
                World.free_of_attached rfl answer
              have unused : (world.environment.stateAfter trace).attached ifindex .skb = none := by
                by_contra used
                refine free ⟨.skb, by simp, ?_⟩
                rwa [Option.isSome_iff_ne_none]
              exact adds.attach unused
            · have refused : attachment (.call (.bpfXdpAttach ifindex fd XdpMonitor.attachFlags)
                  result) = none := if_neg accepted
              rw [List.filterMap_cons_none refused, List.filterMap_nil, List.append_nil]
              simpa [World.after, accepted] using adds

/-- What is attached after an event depends on what was attached before it. -/
theorem World.after_attached_congr {world world' : World} (same : world.attached = world'.attached)
    (event : Event signature External) :
    (world.after event).attached = (world'.after event).attached := by
  cases event with
  | external action =>
      rw [after_attached world _ (by simp), after_attached world' _ (by simp)]
      exact same
  | call call result =>
      cases call with
      | bpfXdpAttach ifindex fd flags =>
          simp only [after]
          split <;> simp [setAttached, same]
      | bpfXdpDetach ifindex flags =>
          simp only [after]
          split <;> simp [setAttached, same]
      | _ => exact same

theorem attached_foldl_calls {world world' : World} (same : world.attached = world'.attached)
    (events : Trace) :
    (events.foldl World.after world).attached =
      ((calls events).foldl World.after world').attached := by
  induction events generalizing world world' with
  | nil => exact same
  | cons event events ih =>
      cases event with
      | external action =>
          rw [calls_external, List.foldl_cons]
          apply ih
          rw [World.after_attached _ _ (by simp)]
          exact same
      | call call result =>
          rw [calls_call, List.foldl_cons, List.foldl_cons]
          exact ih (World.after_attached_congr same _)

/-- The destructor takes off what is attached where it looks, if the kernel lets it. -/
theorem attached_foldl_teardown (world : World) (self : XdpMonitor) (detached : Int) :
    ((self.teardownCalls detached).foldl World.after world).attached =
      if (0 ≤ self.interfaceIndex ∧ 0 ≤ self.xdpProgramFd) ∧ detached = 0 then
        (world.setAttached self.interfaceIndex .skb none).attached
      else world.attached := by
  have released (world : World) :
      ((self.freeCalls ++ self.closeCalls).foldl World.after world).attached = world.attached := by
    rw [XdpMonitor.freeCalls, XdpMonitor.closeCalls]
    split <;> split <;> rfl
  rw [XdpMonitor.teardownCalls, List.append_assoc, List.foldl_append, released,
    XdpMonitor.detachCalls]
  by_cases guard : 0 ≤ self.interfaceIndex ∧ 0 ≤ self.xdpProgramFd
  · by_cases accepted : detached = 0
    · simp [guard, accepted, World.after, XdpMonitor.detachFlags]
    · simp [guard, accepted, World.after]
  · simp [guard]

/-- An attach was accepted. -/
def DidAttach (made : Trace) : Prop := made.filterMap attachment ≠ []

/-- A detach was accepted. -/
def DidDetach (made : Trace) : Prop := made.filterMap detachment ≠ []

/-- How the calls left the interfaces, on which they found programs of others. -/
structure Leaves (found attached : Int → XdpMode → Option XdpProgram) (made : Trace) :
    Prop where
  asFound : attached = found ↔ (DidAttach made → DidDetach made) ∧
    (DidDetach made → found (resolvedIndex made) .skb = none)
  stays : (∃ ifindex mode fd, attached ifindex mode = some (.loaded fd)) ↔
    DidAttach made ∧ ¬DidDetach made

section Leaves

variable {found : Int → XdpMode → Option XdpProgram} {world : World} {made : Trace}
variable {self : XdpMonitor} {detached : Int}

theorem resolvedIndex_torndown (guards : GuardsLatest self made) :
    resolvedIndex (made ++ self.teardownCalls detached) = self.interfaceIndex := by
  rw [guards.interfaceIndex, resolvedIndex, latest_append]
  exact latest_eq_initial fun event member =>
    (self.teardownCalls_acquires_nothing detached event member).resolution

theorem OnlyAdds.nothing (adds : OnlyAdds found world.attached []) : world.attached = found := by
  funext ifindex mode
  exact adds.others ifindex mode (by simp)

/-- Taking off the one program that was added leaves what was found. -/
theorem OnlyAdds.removed {ifindex : Int} (adds : OnlyAdds found world.attached [ifindex]) :
    (world.setAttached ifindex .skb none).attached = found := by
  funext other mode
  rw [World.attached_setAttached]
  split
  · next place =>
      obtain ⟨rfl, rfl⟩ := place
      exact (adds.ours other (by simp)).1.symm
  · next elsewhere => exact adds.others other mode (by simpa using elsewhere)

theorem setAttached_none_eq_iff {ifindex : Int} {mode : XdpMode} :
    (world.setAttached ifindex mode none).attached = world.attached ↔
      world.attached ifindex mode = none := by
  constructor
  · intro same
    rw [← same, World.attached_setAttached, if_pos ⟨rfl, rfl⟩]
  · intro unused
    funext other mode'
    rw [World.attached_setAttached]
    split
    · next place => rw [place.1, place.2, unused]
    · rfl

/-- What the destructor makes of what was added. -/
theorem HoldsAll.leaves (holds : HoldsAll self made) (guards : GuardsLatest self made)
    (keeps : ∀ event ∈ made, Keeps event)
    (adds : OnlyAdds found world.attached (made.filterMap attachment))
    (others : ∀ ifindex mode fd, found ifindex mode ≠ some (.loaded fd)) :
    Leaves found ((self.teardownCalls detached).foldl World.after world).attached
      (made ++ self.teardownCalls detached) := by
  have didAttach : DidAttach (made ++ self.teardownCalls detached) ↔
      made.filterMap attachment ≠ [] := by
    rw [DidAttach, lifetime_attachments]
  have didDetach : DidDetach (made ++ self.teardownCalls detached) ↔
      (0 ≤ self.interfaceIndex ∧ 0 ≤ self.xdpProgramFd) ∧ detached = 0 := by
    rw [DidDetach, List.filterMap_append, filterMap_keeps (fun _ => Keeps.detachment) keeps,
      List.nil_append, self.teardownCalls_detachments]
    simp [and_assoc]
  have noneOfOurs : ¬∃ ifindex mode fd, found ifindex mode = some (.loaded fd) := by
    rintro ⟨ifindex, mode, fd, loaded⟩
    exact others ifindex mode fd loaded
  rcases holds.attachments with ⟨nothing, -⟩ | ⟨one, positive, fdValid, -⟩
  · -- Only a program of somebody else can be detached.
    rw [nothing] at adds didAttach
    obtain rfl := adds.nothing
    constructor
    · rw [didAttach, didDetach, resolvedIndex_torndown guards, attached_foldl_teardown]
      by_cases detaches : (0 ≤ self.interfaceIndex ∧ 0 ≤ self.xdpProgramFd) ∧ detached = 0
      · simp [detaches, setAttached_none_eq_iff]
      · simp [detaches]
    · rw [didAttach, attached_foldl_teardown]
      have noneLeft : ¬∃ ifindex mode fd,
          (world.setAttached self.interfaceIndex .skb none).attached ifindex mode =
            some (.loaded fd) := by
        rintro ⟨ifindex, mode, fd, loaded⟩
        rw [World.attached_setAttached] at loaded
        split at loaded
        · cases loaded
        · exact others ifindex mode fd loaded
      split
      · simpa using noneLeft
      · simpa using noneOfOurs
  · -- Our own program is where the destructor looks.
    have guard : 0 ≤ self.interfaceIndex ∧ 0 ≤ self.xdpProgramFd := ⟨by omega, fdValid⟩
    rw [one] at adds didAttach
    obtain ⟨unused, fd, loaded⟩ := adds.ours self.interfaceIndex (by simp)
    constructor
    · rw [didAttach, didDetach, resolvedIndex_torndown guards, attached_foldl_teardown]
      by_cases accepted : detached = 0
      · simp [guard, accepted, adds.removed, unused]
      · have changed : world.attached ≠ found := by
          rintro rfl
          exact others _ _ _ loaded
        simp [accepted, changed]
    · rw [didAttach, didDetach, attached_foldl_teardown]
      by_cases accepted : detached = 0
      · simpa [guard, accepted, adds.removed] using noneOfOurs
      · have stays : ∃ ifindex mode fd, world.attached ifindex mode = some (.loaded fd) :=
          ⟨_, _, fd, loaded⟩
        simpa [accepted] using stays

end Leaves

/-- What a program leaves behind when it has ended with a status. -/
structure Ended (found attached : Int → XdpMode → Option XdpProgram) (made : Trace)
    (status : Int) : Prop where
  status : status = 0 ∧ StartUpSucceeded made ∨ status = 1 ∧ ¬StartUpSucceeded made
  objects : (made.filterMap openedObject).Perm (made.filterMap closedObject)
  rings : (made.filterMap createdRing).Perm (made.filterMap freedRing)
  noUseAfterRelease : made.Pairwise fun earlier later =>
    ∀ handle, releasedHandle earlier = some handle → passedHandle later ≠ some handle
  interfaces : Leaves found attached made

theorem RunOnce.without_intrusive {accepted : MonitorArguments} {made : Trace} {status : Int}
    {self : XdpMonitor} (once : RunOnce accepted made status self) : Without Intrusive made := by
  intro call result member intrusive
  obtain ⟨call, result, same, makes⟩ := once.makes _ member
  cases same
  cases makes with
  | startUp starts =>
      cases starts with
      | bpfXdpAttach ifindex fd =>
          cases intrusive with
          | attach _ _ _ other => exact other rfl
      | _ => cases intrusive
  | _ => cases intrusive

section Ended

variable {world : World}
variable (others : ∀ ifindex mode fd, world.attached ifindex mode ≠ some (.loaded fd))
include others

theorem RunOnce.ended {accepted : MonitorArguments} {made before trace : Trace} {status : Int}
    {self : XdpMonitor} {detached : Int} (once : RunOnce accepted made status self)
    (since : Made made [] before) (torn : Made (self.teardownCalls detached) before trace)
    (admits : world.environment.Admits trace) :
    Ended world.attached (world.environment.stateAfter trace).attached (calls trace) status := by
  obtain ⟨between, rfl, teardown⟩ := torn
  have madeCalls : calls before = made := since.calls_eq
  have adds : OnlyAdds world.attached (world.environment.stateAfter before).attached
      (made.filterMap attachment) := by
    rw [← madeCalls, filterMap_calls fun _ => rfl]
    apply onlyAdds_stateAfter (AtEach.of_append admits)
    exact .of_calls (madeCalls ▸ once.without_intrusive)
  have leaves := @HoldsAll.leaves _ _ _ self detached once.holds once.guards once.keeps adds others
  rw [← teardown, ← attached_foldl_calls rfl] at leaves
  obtain ⟨opened, closed⟩ := @lifetime_objects self made detached once.keeps
  obtain ⟨created, freed⟩ := @lifetime_rings self made detached once.keeps
  rw [calls_append, madeCalls, Environment.stateAfter_append]
  constructor
  · rw [teardown]
    exact once.status_cases detached
  · rw [teardown, opened, closed, once.holds.objects]
  · rw [teardown, created, freed, once.holds.rings]
  · rw [teardown]
    exact lifetime_noUseAfterRelease once.keeps
  · exact leaves

/-- A single run that has returned. -/
theorem singleRun_ends {accepted : MonitorArguments} {ticks : List (Tick Reply External)}
    {results : List Int}
    (returned : ((Config.start External (singleRun accepted)).run world.environment ticks).thread =
      .done results) :
    let final := (Config.start External (singleRun accepted)).run world.environment ticks
    ∃ status, results = [0, status] ∧
      Ended world.attached (world.environment.stateAfter final.trace).attached
        (calls final.trace) status := by
  intro final
  obtain ⟨made, status, self, detached, before, same, once, since, torn⟩ :=
    (@singleRun_spec world accepted ticks).2 results returned
  have admits : world.environment.Admits final.trace := by
    apply Config.run_admits
    exact AtEach.nil
  exact ⟨status, same, once.ended others since torn admits⟩

end Ended

/-! ## The programs in the system -/

section Mains

variable {ι σ : Type} {Method : Type}

/-- Nothing but messages on `stderr` comes of a rejected command line. -/
theorem reject_erases (rejection : Rejection) :
    (reject rejection : Program (processSignature Method) Int).Erases
      (fun status (_ : List Int) => status = rejection.status) (.done []) := by
  have printed (texts : List String) : (texts.forM fun text => perform (.fprintf text) :
      Program (processSignature Method) PUnit).Erases (fun _ _ => True) (.done ()) := by
    induction texts with
    | nil => exact .done trivial
    | cons text texts ih => exact perform_erases fun _ => ih
  have ends := @Program.Erases.bind signature (localSignature Method) _ _ Int (List Int) _
    (fun status _ => status = rejection.status) _ _ (fun _ => .done rejection.status)
    (fun _ => .done []) (printed rejection.stderr) fun _ _ _ => .done rfl
  exact ends

/-- An execution of a program that reads its command line as `parsed`. If that is rejected it makes
no call. Otherwise it is an execution of a single run of a monitor, in the surroundings that the
monitor is verified in: it makes the same calls with the same results, returns the same status, and
leaves the system looking the same. -/
def FollowsSingleRun (host : Endian) (foreign : Int → XdpMode → Option Nat)
    (parsed : Except Rejection MonitorArguments)
    (final : Config (processSignature Method) (Activity ι) Int) (system : System ι σ) : Prop :=
  match parsed with
  | .error rejection => erasedCalls External final.trace = [] ∧
      ∀ status, final.thread = .done status → status = rejection.status
  | .ok accepted => ∃ (ticks : List (Tick Reply External)) (actions : List External),
      let seen := (World.booted foreign).environment
      let final' := (Config.start External (singleRun accepted)).run seen ticks
      calls final'.trace = erasedCalls External final.trace ∧
        (∀ status, final.thread = .done status → final'.thread = .done [0, status]) ∧
        seen.stateAfter (final'.trace ++ actions.map .external) = system.world host

/-- What is left behind by a program that reads its command line as `parsed`. -/
def LeavesBehind (foreign : Int → XdpMode → Option Nat) (parsed : Except Rejection MonitorArguments)
    (final : Config (processSignature Method) (Activity ι) Int) (system : System ι σ) : Prop :=
  match parsed with
  | .error _ => erasedCalls External final.trace = [] ∧
      ∀ status, final.thread = .done status → status = 1
  | .ok _ => ∀ status, final.thread = .done status →
      Ended (fun ifindex mode => (foreign ifindex mode).map .foreign) system.attached
        (erasedCalls External final.trace) status

variable [DecidableEq ι] {host : Endian} {handler : PacketHandler σ}
variable {console : Console Method σ} {foreign : Int → XdpMode → Option Nat} {start : σ}

/-- A program that is a single run but for what it prints. -/
theorem follows_of_erases {program : Program (processSignature Method) Int}
    {parsed : Except Rejection MonitorArguments}
    (rejects : ∀ rejection, parsed = .error rejection → program = reject rejection)
    (accepts : ∀ accepted, parsed = .ok accepted → program.Erases ExitsWith (singleRun accepted))
    (ticks : List (Tick Reply (Activity ι))) :
    let env := System.processEnvironment host handler console foreign start
    let final := (Config.start (Activity ι) program).run env ticks
    FollowsSingleRun host foreign parsed final (env.stateAfter final.trace) := by
  intro env final
  have refines := @System.processEnvironment_refines ι σ Method _ host handler console foreign start
  cases parsed with
  | error rejection =>
      have erases := @reject_erases Method rejection
      rw [← rejects rejection rfl] at erases
      obtain ⟨ticks', thread, sameCalls, -⟩ := refines.run_erased erases ticks
      have idle : (Config.start External (.done ([] : List Int))).run
          (World.booted foreign).environment ticks' = .start External (.done []) :=
        Config.run_done [] [] ticks'
      rw [idle] at thread sameCalls
      refine ⟨sameCalls.symm, fun status returned => ?_⟩
      rw [returned] at thread
      obtain ⟨-, -, same⟩ := thread.of_done
      exact same
  | ok accepted =>
      obtain ⟨ticks', thread, sameCalls, actions, looks⟩ :=
        refines.run_erased (accepts accepted rfl) ticks
      refine ⟨ticks', actions, sameCalls, fun status returned => ?_, looks.world⟩
      rw [returned] at thread
      obtain ⟨results, same, rfl⟩ := thread.of_done
      exact same

theorem xdpDemoMain_follows {console : Console Empty σ} (strerror : Int → String)
    {program embeddedPath : String} {arguments : List String}
    (ticks : List (Tick Reply (Activity ι))) :
    let env := System.processEnvironment host handler console foreign start
    let final := (Config.start (Activity ι)
      (xdpDemoMain strerror program embeddedPath arguments)).run env ticks
    FollowsSingleRun host foreign (xdpDemo program embeddedPath arguments) final
      (env.stateAfter final.trace) :=
  follows_of_erases (fun rejection parsed => by rw [xdpDemoMain, parsed])
    (fun _ => xdpDemoMain_erases strerror) ticks

theorem xdpAppMain_follows {console : Console ApplicationMethod σ} (strerror : Int → String)
    {program embeddedPath : String} {arguments : List String}
    (ticks : List (Tick Reply (Activity ι))) :
    let env := System.processEnvironment host handler console foreign start
    let final := (Config.start (Activity ι)
      (xdpAppIntegrationExampleMain strerror program embeddedPath arguments)).run env ticks
    FollowsSingleRun host foreign (xdpAppIntegrationExample program embeddedPath arguments) final
      (env.stateAfter final.trace) :=
  follows_of_erases (fun rejection parsed => by rw [xdpAppIntegrationExampleMain, parsed])
    (fun _ => xdpAppIntegrationExampleMain_erases strerror) ticks

omit [DecidableEq ι] in
theorem FollowsSingleRun.leavesBehind {parsed : Except Rejection MonitorArguments}
    {final : Config (processSignature Method) (Activity ι) Int} {system : System ι σ}
    (follows : FollowsSingleRun host foreign parsed final system)
    (rejected : ∀ rejection, parsed = .error rejection → rejection.status = 1) :
    LeavesBehind foreign parsed final system := by
  cases parsed with
  | error rejection =>
      obtain ⟨nothing, status⟩ := follows
      exact ⟨nothing, fun code returned => (status code returned).trans (rejected rejection rfl)⟩
  | ok accepted =>
      intro status returned
      obtain ⟨ticks, actions, sameCalls, sameStatus, looks⟩ := follows
      have others : ∀ ifindex mode fd,
          (World.booted foreign).attached ifindex mode ≠ some (.loaded fd) := by
        intro ifindex mode fd loaded
        obtain ⟨program, -, other⟩ := Option.map_eq_some_iff.mp loaded
        cases other
      obtain ⟨status', same, ended⟩ := singleRun_ends others (sameStatus status returned)
      cases same
      have attached : system.attached = ((World.booted foreign).environment.stateAfter
          ((Config.start External (singleRun accepted)).run (World.booted foreign).environment
            ticks).trace).attached := by
        have nothing : Without AttachmentCall (actions.map .external : Trace) := by
          intro call result member
          simp at member
        rw [← World.attached_append _ _ nothing, looks]
        rfl
      rw [attached, ← sameCalls]
      exact ended

/-- Every execution of either program in the system, with all that the processors, the kernel and
the handler do, is one of a single run of a monitor in the surroundings it is verified in. -/
theorem executables_follow_singleRun (host : Endian) (handler : PacketHandler σ)
    (foreign : Int → XdpMode → Option Nat) (start : σ) (strerror : Int → String)
    (program embeddedPath : String) (arguments : List String)
    (ticks : List (Tick Reply (Activity ι))) :
    (∀ console : Console Empty σ,
      let env := System.processEnvironment host handler console foreign start
      let final := (Config.start (Activity ι)
        (xdpDemoMain strerror program embeddedPath arguments)).run env ticks
      FollowsSingleRun host foreign (xdpDemo program embeddedPath arguments) final
        (env.stateAfter final.trace)) ∧
    ∀ console : Console ApplicationMethod σ,
      let env := System.processEnvironment host handler console foreign start
      let final := (Config.start (Activity ι)
        (xdpAppIntegrationExampleMain strerror program embeddedPath arguments)).run env ticks
      FollowsSingleRun host foreign (xdpAppIntegrationExample program embeddedPath arguments) final
        (env.stateAfter final.trace) :=
  ⟨fun _ => xdpDemoMain_follows strerror ticks, fun _ => xdpAppMain_follows strerror ticks⟩

end Mains
end XdpExperiment

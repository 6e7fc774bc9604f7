import XdpExperiment.MonitorCalls

/-!
# The exit code of `run`

`run` returns `0` whenever its poll loop has been left, and the loop does not say why. The theorem
tells apart the runs for which the code is right from those it calls clean after a failed poll.
-/

namespace XdpExperiment

open Interaction

/-- The results with which all five start-up steps succeed. -/
structure StartUpSucceeded (trace : Trace) : Prop where
  resolved : ∃ name, ∃ index : Ifindex,
    .call (.ifNametoindex name) index ∈ trace ∧ index.val ≠ 0
  loaded : ∃ object, .call (.bpfObjectLoad object) (0 : Int) ∈ trace
  found : ∃ program, ∃ fd : Int, .call (.bpfProgramFd program) fd ∈ trace ∧ 0 ≤ fd
  attached : ∃ ifindex fd flags, .call (.bpfXdpAttach ifindex fd flags) (0 : Int) ∈ trace
  opened : ∃ fd, ∃ ring : Nat, .call (.ringBufferNew fd) (some ring) ∈ trace

/-- The code is `0` exactly if start-up succeeded and a stop has been requested. -/
def ExitCodeCorrect (world : World) (code : Int) (trace : Trace) : Prop :=
  code = 0 ↔ StartUpSucceeded trace ∧
    (world.environment.stateAfter trace).stopMonitoringRequested = true

/-- No poll fails before a stop is requested. -/
def NoUnrequestedFailure (world : World) (trace : Trace) : Prop :=
  AtEach (fun front event => ∀ ring timeout (poll : Poll),
    event = .call (.ringBufferPoll ring timeout) poll → poll.result < 0 →
      (world.environment.stateAfter front).stopMonitoringRequested = true) trace

theorem StartUpSucceeded.mono {trace trace' : Trace} (succeeded : StartUpSucceeded trace)
    (within : ∀ event ∈ trace, event ∈ trace') : StartUpSucceeded trace' := by
  obtain ⟨⟨name, index, looksUp, nonzero⟩, ⟨object, loads⟩, ⟨program, fd, finds, valid⟩,
    ⟨ifindex, programFd, flags, attaches⟩, ⟨mapFd, ring, opens⟩⟩ := succeeded
  constructor
  · exact ⟨name, index, within _ looksUp, nonzero⟩
  · exact ⟨object, within _ loads⟩
  · exact ⟨program, fd, within _ finds, valid⟩
  · exact ⟨ifindex, programFd, flags, within _ attaches⟩
  · exact ⟨mapFd, ring, within _ opens⟩

namespace XdpMonitor

variable {self self' : XdpMonitor} {made : Trace}

theorem StartsUp.succeeded (starts : self.StartsUp made true self') : StartUpSucceeded made := by
  cases starts with
  | opened resolves loads finds attaches opens =>
      obtain - | ⟨index, nonzero⟩ := resolves
      obtain - | - | ⟨object, code, success⟩ := loads
      obtain - | - | - | ⟨program, map, fd, valid⟩ := finds
      obtain - | ⟨refusal, accepted⟩ := attaches
      obtain - | - | ⟨ringFd, consumer, ringFdValid⟩ := opens
      subst success accepted
      constructor
      · exact ⟨self.targetInterfaceName, index, by simp, nonzero⟩
      · exact ⟨some object, by simp⟩
      · exact ⟨some program, fd, by simp, valid⟩
      · exact ⟨index.val, fd, attachFlags, by simp⟩
      · exact ⟨ringFd, consumer, by simp⟩

theorem StartsUp.not_succeeded (starts : self.StartsUp made false self') :
    ¬StartUpSucceeded made := by
  rintro ⟨⟨name, index, looksUp, nonzero⟩, ⟨object, loads⟩, ⟨program, fd, finds, valid⟩,
    ⟨ifindex, programFd, flags, attaches⟩, ⟨mapFd, ring, opens⟩⟩
  -- Each case contradicts the result that the step which failed would have needed.
  cases starts with
  | unresolved resolves =>
      obtain ⟨other, zero⟩ := resolves
      simp at looksUp
      exact nonzero (looksUp.2 ▸ zero)
  | unloaded resolves loadFails =>
      cases resolves
      cases loadFails with
      | notOpened => simp at loads
      | notLoaded other code failed =>
          simp at loads
          exact failed loads.2.symm
  | unfound resolves loaded findFails =>
      cases resolves
      cases loaded
      cases findFails with
      | noProgram => simp at finds
      | noMap other => simp at finds
      | noFd other map otherFd negative =>
          simp only [List.mem_append, List.mem_cons, Event.call.injEq, Call.bpfProgramFd.injEq,
            reduceCtorEq, false_and, List.not_mem_nil, or_false, false_or] at finds
          have same : fd = otherFd := eq_of_heq finds.2
          omega
  | unattached resolves loaded found attachFails =>
      cases resolves
      cases loaded
      cases found
      obtain ⟨code, failed⟩ := attachFails
      simp at attaches
      exact failed attaches.2.symm
  | unopened resolves loaded found attached openFails =>
      cases resolves
      cases loaded
      cases found
      cases attached
      cases openFails <;> simp at opens

end XdpMonitor

theorem startUpSucceeded_calls_iff {trace : Trace} :
    StartUpSucceeded (calls trace) ↔ StartUpSucceeded trace := by
  constructor
  · exact fun succeeded => succeeded.mono fun event member => (mem_calls.mp member).1
  · rintro ⟨⟨name, index, looksUp, nonzero⟩, ⟨object, loads⟩, ⟨program, fd, finds, valid⟩,
      ⟨ifindex, programFd, flags, attaches⟩, ⟨mapFd, ring, opens⟩⟩
    have isCall {call : Call} {result : call.Result} (member : .call call result ∈ trace) :
        .call call result ∈ calls trace :=
      mem_calls.mpr ⟨member, call, result, rfl⟩
    constructor
    · exact ⟨name, index, isCall looksUp, nonzero⟩
    · exact ⟨object, isCall loads⟩
    · exact ⟨program, fd, isCall finds, valid⟩
    · exact ⟨ifindex, programFd, flags, isCall attaches⟩
    · exact ⟨mapFd, ring, isCall opens⟩

/-- A start-up that succeeded has succeeded at every later point. -/
theorem StartUpSucceeded.later {made more before : Trace} (succeeded : StartUpSucceeded made)
    (sameCalls : calls before = made ++ more) (event : Event signature External) :
    StartUpSucceeded (before ++ [event]) := by
  have callsSucceeded : StartUpSucceeded (calls before) := by
    rw [sameCalls]
    exact succeeded.mono fun _ => List.mem_append_left more
  exact (startUpSucceeded_calls_iff.mp callsSucceeded).mono fun _ => List.mem_append_left [event]

/-! ## Polls that did not fail -/

/-- No poll failed. -/
def Going (trace : Trace) : Prop :=
  ∀ ring timeout (poll : Poll), .call (.ringBufferPoll ring timeout) poll ∈ trace →
    0 ≤ poll.result

namespace Going

theorem append {trace trace' : Trace} (first : Going trace) (second : Going trace') :
    Going (trace ++ trace') := by
  intro ring timeout poll member
  rcases List.mem_append.mp member with member | member
  · exact first ring timeout poll member
  · exact second ring timeout poll member

theorem of_pollsIn_eq_zero {trace : Trace} (noPoll : pollsIn trace = 0) : Going trace := by
  intro ring timeout poll member
  exact absurd rfl (List.countP_eq_zero.mp noPoll _ member)

theorem of_calls {trace : Trace} (going : Going (calls trace)) : Going trace :=
  fun ring timeout poll member => going ring timeout poll (mem_calls.mpr ⟨member, _, _, rfl⟩)

theorem flagRead (stop : Bool) : Going [XdpExperiment.flagRead stop] := by
  intro ring timeout poll member
  simp at member

theorem startsUp {self self' : XdpMonitor} {made : Trace} {ok : Bool}
    (starts : self.StartsUp made ok self') : Going made := by
  intro ring timeout poll member
  obtain ⟨call, result, same, startUpCall⟩ := starts.onlyStartUp _ member
  cases same
  cases startUpCall

theorem pollRounds {ring : Pointer} {polls : List Poll} (going : ∀ poll ∈ polls, 0 ≤ poll.result) :
    Going (XdpExperiment.pollRounds ring polls) := by
  intro ring' timeout poll member
  obtain ⟨other, otherMember, inRound⟩ := List.mem_flatMap.mp member
  simp at inRound
  rw [inRound.2]
  exact going other otherMember

theorem noUnrequestedFailure {world : World} {trace : Trace} (going : Going trace) :
    NoUnrequestedFailure world trace := by
  apply AtEach.of_forall_mem
  rintro event member front ring timeout poll rfl negative
  have nonnegative := going ring timeout poll member
  omega

end Going

/-- The exit code is right unless the last poll failed with no stop requested. -/
theorem RunEnds.exitCode_iff {world : World} {self self' : XdpMonitor} {code : Int}
    {trace : Trace} (ends : RunEnds self [] (code, self') trace)
    (admits : world.environment.Admits trace) :
    ExitCodeCorrect world code trace ↔ NoUnrequestedFailure world trace := by
  cases ends with
  | @startUpFailed made _ _ starts since =>
      have sameCalls : calls trace = made := by simpa using since.calls_eq
      have failed : ¬StartUpSucceeded trace := by
        rw [← startUpSucceeded_calls_iff, sameCalls]
        exact starts.not_succeeded
      have going : Going trace := .of_calls (sameCalls ▸ .startsUp starts)
      simp [ExitCodeCorrect, failed, going.noUnrequestedFailure]
  | @loopLeft made started _ _ starts since left =>
      have startedCalls : calls started = made := by simpa using since.calls_eq
      cases left with
      | @stopped polls before going sinceStarted =>
          have beforeCalls : calls before = made ++ pollRounds self'.ringBuffer polls := by
            rw [sinceStarted.calls_eq, startedCalls]
          have succeeded := starts.succeeded.later beforeCalls (flagRead true)
          have goingOn : Going (before ++ [flagRead true]) := by
            apply Going.append _ (.flagRead true)
            exact .of_calls (beforeCalls ▸ (Going.startsUp starts).append (.pollRounds going))
          have stop := World.stop_of_flagRead admits
          simp [ExitCodeCorrect, succeeded, goingOn.noUnrequestedFailure, stop]
      | @failed polls before poll going sinceStarted negative =>
          have beforeCalls : calls before =
              made ++ (pollRounds self'.ringBuffer polls ++ [flagRead false]) := by
            rw [sinceStarted.calls_eq, startedCalls]
          have succeeded := starts.succeeded.later beforeCalls (polled self'.ringBuffer poll)
          have goingOn : Going before := by
            apply Going.of_calls
            rw [beforeCalls]
            exact (Going.startsUp starts).append ((Going.pollRounds going).append (.flagRead false))
          have failure_iff : NoUnrequestedFailure world (before ++ [polled self'.ringBuffer poll]) ↔
              (world.environment.stateAfter before).stopMonitoringRequested = true := by
            rw [NoUnrequestedFailure, AtEach.concat_iff]
            constructor
            · rintro ⟨-, last⟩
              exact last _ _ poll rfl negative
            · intro stop
              exact ⟨goingOn.noUnrequestedFailure, fun _ _ _ _ _ => stop⟩
          simp [ExitCodeCorrect, succeeded, failure_iff]

/-- A run that returns reports the right exit code exactly if none of its polls failed while no
stop was requested. -/
theorem run_exitCode_iff (world : World) (self self' : XdpMonitor) (code : Int)
    (ticks : List (Tick Reply External))
    (returned : ((Config.start External self.run).run world.environment ticks).thread =
      .done (code, self')) :
    let trace := ((Config.start External self.run).run world.environment ticks).trace
    ExitCodeCorrect world code trace ↔ NoUnrequestedFailure world trace := by
  intro trace
  have ends : RunEnds self [] (code, self') trace :=
    (@XdpMonitor.run_spec world self [] ticks).2 _ returned
  have admits : world.environment.Admits trace := by
    apply Config.run_admits
    exact AtEach.nil
  exact ends.exitCode_iff admits

theorem stoppedRun_exitCode :
    ExitCodeCorrect World.handlersInstalled 0 ((Config.start External
      (XdpMonitor.construct "eth0" "xdp_prog.o").run).run World.handlersInstalled.environment
        stoppedRun).trace := by
  apply (run_exitCode_iff World.handlersInstalled (.construct "eth0" "xdp_prog.o") startedMonitor 0
    stoppedRun rfl).mpr
  have noPoll : pollsIn ((Config.start External
      (XdpMonitor.construct "eth0" "xdp_prog.o").run).run World.handlersInstalled.environment
        stoppedRun).trace = 0 := rfl
  exact (Going.of_pollsIn_eq_zero noPoll).noUnrequestedFailure

/-- The first poll fails with `EBADF` and no stop is ever requested. -/
def failedPoll : List (Tick Reply External) :=
  startUpReplies 1 ++ [.reply {}, .reply { code := -9 }]

/-- The failed poll ends the run with exit code `0`. -/
theorem failedPoll_reported_clean :
    let reached := (Config.start External (XdpMonitor.construct "eth0" "xdp_prog.o").run).run
      World.handlersInstalled.environment failedPoll
    reached.thread = .done (0, startedMonitor) ∧
      ¬ExitCodeCorrect World.handlersInstalled 0 reached.trace := by
  refine ⟨rfl, fun correct => ?_⟩
  have stop := (correct.mp rfl).2
  exact absurd stop (by decide)

end XdpExperiment

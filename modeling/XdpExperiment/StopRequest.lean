import XdpExperiment.MonitorCalls

/-!
# Stop requests

A signal can be delivered at any point of a run. The stop flag is read once in each round of the
poll loop and never cleared, so a request that comes between the read and the poll costs at most
that one poll, and an earlier one costs none.
-/

namespace XdpExperiment

open Interaction

/-- The polls of a trace and the one that the program may be waiting for. -/
def pollsStarted {α : Type} (thread : Program signature α) (trace : Trace) : Nat :=
  pollsIn trace + match thread.await with
    | some ⟨call, _⟩ => call.isPoll.toNat
    | none => 0

/-- The stop flag is not read in the trace. -/
def NoFlagRead (trace : Trace) : Prop :=
  ∀ stop, flagRead stop ∉ trace

@[simp] theorem pollsIn_nil : pollsIn [] = 0 := rfl

@[simp] theorem pollsIn_concat_call (trace : Trace) (call : Call) (result : call.Result) :
    pollsIn (trace ++ [.call call result]) = pollsIn trace + call.isPoll.toNat := by
  cases polls : call.isPoll <;> simp [pollsIn, polls]

@[simp] theorem pollsIn_concat_external (trace : Trace) (action : External) :
    pollsIn (trace ++ [.external action]) = pollsIn trace := by
  simp [pollsIn]

/-- The ways to cut a list that has just grown by one element. -/
theorem cut_concat {event : Event signature External} {trace before after : Trace}
    (cut : trace ++ [event] = before ++ after) :
    after = [] ∨ ∃ after', after = after' ++ [event] ∧ trace = before ++ after' := by
  rcases List.eq_nil_or_concat after with rfl | ⟨after', last, rfl⟩
  · exact .inl rfl
  · right
    rw [List.concat_eq_append, ← List.append_assoc] at cut
    obtain ⟨rfl, same⟩ := List.append_inj' cut rfl
    obtain rfl := List.singleton_inj.mp same
    exact ⟨after', by simp, rfl⟩

/-- `install_signal_handlers` installs both handlers. -/
theorem installSignalHandlers_spec {world : World} (trace : Trace) :
    Ensures world.environment XdpMonitor.installSignalHandlers XdpMonitor.anywhere
      (fun _ trace' => ∀ signal,
        (world.environment.stateAfter trace').handlerInstalled signal = true) trace := by
  simp only [XdpMonitor.installSignalHandlers, Program.bind_eq]
  have stableAny : Stable fun _ : Trace => True := fun _ _ _ => trivial
  have stableOne : Stable fun trace : Trace =>
      (world.environment.stateAfter trace).handlerInstalled .sigint = true := by
    intro trace action installed
    rw [Environment.stateAfter_append_singleton]
    exact World.handlerInstalled_after _ installed
  have stableBoth : Stable fun trace : Trace => ∀ signal,
      (world.environment.stateAfter trace).handlerInstalled signal = true := by
    intro trace action installed signal
    rw [Environment.stateAfter_append_singleton]
    exact World.handlerInstalled_after _ (installed signal)
  refine Ensures.call stableAny (fun trace _ => ⟨trivial, fun _ _ _ => ?_⟩) trivial
  refine Ensures.call stableOne (fun trace installed => ⟨trivial, fun _ _ _ => ?_⟩) ?_
  · apply Ensures.done
    intro signal
    rw [Environment.stateAfter_append_singleton]
    cases signal with
    | sigint =>
        exact World.handlerInstalled_after (.call (.signal .sigterm) ()) installed
    | sigterm => simp [World.after]
  · rw [Environment.stateAfter_append_singleton]
    simp [World.after]

/-! ## What a stop request leaves possible -/

/-- Since a stop request at most one poll was started, and none if the flag had not been read
before; `pending` polls are about to be started. -/
def StopBound (world : World) (pending : Nat) (trace : Trace) : Prop :=
  ∀ before after, trace = before ++ after →
    (world.environment.stateAfter before).stopMonitoringRequested = true →
      pollsIn after + pending ≤ 1 ∧ (NoFlagRead before → pollsIn after + pending = 0)

/-- Since a stop request the flag has not been read. -/
def UnreadSinceStop (world : World) (trace : Trace) : Prop :=
  ∀ before after, trace = before ++ after →
    (world.environment.stateAfter before).stopMonitoringRequested = true → NoFlagRead after

/-- What holds at the head of the loop, and while start-up goes on. -/
def BeforeRead (world : World) (trace : Trace) : Prop :=
  StopBound world 0 trace ∧ UnreadSinceStop world trace

/-- What holds between a read of the flag that saw it clear and the poll that follows. -/
def BeforePoll (world : World) (trace : Trace) : Prop :=
  ¬NoFlagRead trace ∧ ∀ before after, trace = before ++ after →
    (world.environment.stateAfter before).stopMonitoringRequested = true →
      pollsIn after = 0 ∧ ¬NoFlagRead before ∧ NoFlagRead after

theorem noFlagRead_concat {trace : Trace} {event : Event signature External}
    (notRead : ∀ stop, event ≠ flagRead stop) (unread : NoFlagRead trace) :
    NoFlagRead (trace ++ [event]) := by
  intro stop member
  rcases List.mem_append.mp member with member | member
  · exact unread stop member
  · exact notRead stop (List.mem_singleton.mp member).symm

namespace BeforeRead

variable {world : World} {trace : Trace}

/-- An event that is neither a poll nor a read of the flag changes nothing. -/
theorem concat {event : Event signature External} (before : BeforeRead world trace)
    (notPoll : ∀ after : Trace, pollsIn (after ++ [event]) = pollsIn after)
    (notRead : ∀ stop, event ≠ flagRead stop) : BeforeRead world (trace ++ [event]) := by
  obtain ⟨bound, unread⟩ := before
  constructor
  · intro front back cut stop
    rcases cut_concat cut with rfl | ⟨back', rfl, cut'⟩
    · simp
    · rw [notPoll]
      exact bound front back' cut' stop
  · intro front back cut stop
    rcases cut_concat cut with rfl | ⟨back', rfl, cut'⟩
    · simp [NoFlagRead]
    · exact noFlagRead_concat notRead (unread front back' cut' stop)

theorem stable (world : World) : Stable (BeforeRead world) := by
  intro trace action before
  exact before.concat (fun after => pollsIn_concat_external after action) (by simp)

/-- A read that sees the flag set ends the loop; the bound stays. -/
theorem read_set (before : BeforeRead world trace) :
    StopBound world 0 (trace ++ [flagRead true]) := by
  intro front back cut stop
  rcases cut_concat cut with rfl | ⟨back', rfl, cut'⟩
  · simp
  · have same : pollsIn (back' ++ [flagRead true]) = pollsIn back' := pollsIn_concat_call ..
    rw [same]
    exact before.1 front back' cut' stop

/-- A read that sees the flag clear: no stop has been requested at any earlier point. -/
theorem read_clear
    (clear : (world.environment.stateAfter trace).stopMonitoringRequested = false) :
    BeforePoll world (trace ++ [flagRead false]) := by
  constructor
  · intro unread
    exact unread false (by simp)
  · intro front back cut stop
    have requested := World.stop_append back stop
    rw [← cut, Environment.stateAfter_append_singleton, World.after_call_stop, clear] at requested
    simp at requested

end BeforeRead

namespace BeforePoll

variable {world : World} {trace : Trace}

theorem stable (world : World) : Stable (BeforePoll world) := by
  rintro trace action ⟨read, before⟩
  have readStill : ¬NoFlagRead (trace ++ [.external action]) := by
    intro unread
    exact read fun stop member => unread stop (List.mem_append_left _ member)
  refine ⟨readStill, fun front back cut stop => ?_⟩
  rcases cut_concat cut with rfl | ⟨back', rfl, cut'⟩
  · rw [List.append_nil] at cut
    exact ⟨rfl, cut ▸ readStill, by simp [NoFlagRead]⟩
  · obtain ⟨none, readBefore, unread⟩ := before front back' cut' stop
    rw [pollsIn_concat_external]
    exact ⟨none, readBefore, noFlagRead_concat (by simp) unread⟩

theorem bound (before : BeforePoll world trace) : StopBound world 1 trace := by
  intro front back cut stop
  obtain ⟨none, read, -⟩ := before.2 front back cut stop
  rw [none]
  exact ⟨Nat.le_refl 1, fun unread => absurd unread read⟩

theorem unread (before : BeforePoll world trace) : UnreadSinceStop world trace :=
  fun front back cut stop => (before.2 front back cut stop).2.2

/-- After the poll the loop is at its head again. -/
theorem poll (before : BeforePoll world trace) (ring : Pointer) (result : Poll) :
    BeforeRead world (trace ++ [polled ring result]) := by
  constructor
  · intro front back cut stop
    rcases cut_concat cut with rfl | ⟨back', rfl, cut'⟩
    · simp
    · obtain ⟨none, read, -⟩ := before.2 front back' cut' stop
      have one : pollsIn (back' ++ [polled ring result]) = pollsIn back' + 1 :=
        pollsIn_concat_call ..
      rw [one, none]
      exact ⟨Nat.le_refl 1, fun unread => absurd unread read⟩
  · intro front back cut stop
    rcases cut_concat cut with rfl | ⟨back', rfl, cut'⟩
    · simp [NoFlagRead]
    · apply noFlagRead_concat (by simp)
      exact before.unread front back' cut' stop

end BeforePoll

/-! ## Runs -/

/-- What holds while the monitor waits on a call, whichever it is. -/
def WaitingPromptly (world : World) (call : Call) (trace : Trace) : Prop :=
  StopBound world call.isPoll.toNat trace ∧ UnreadSinceStop world trace

theorem not_isPoll_of_startUpCall {call : Call} (starts : XdpMonitor.StartUpCall call) :
    call.isPoll = false := by
  cases starts <;> rfl

namespace XdpMonitor

variable {world : World}

/-- Start-up neither reads the flag nor polls. -/
theorem startUp_stopBound (self : XdpMonitor) :
    Ensures world.environment self.startUp (WaitingPromptly world)
      (fun _ => BeforeRead world) [] := by
  let otherCall : Call → Prop := fun call => call.isPoll = true ∨ call = .stopMonitoringRequested
  have avoids : self.startUp.Avoids otherCall := by
    apply startUp_avoids
    rintro call starts (polls | reads)
    · rw [not_isPoll_of_startUpCall starts] at polls
      simp at polls
    · subst reads
      cases starts
  have quiet {trace : Trace}
      (clean : ∀ call result, .call call result ∈ trace → ¬otherCall call) :
      BeforeRead world trace := by
    have noPoll {part : Trace} (within : ∀ event ∈ part, event ∈ trace) : pollsIn part = 0 := by
      rw [pollsIn, List.countP_eq_zero]
      intro event member
      cases event with
      | call call result => exact fun polls => clean call result (within _ member) (.inl polls)
      | external action => simp
    constructor
    · rintro before after rfl _
      rw [noPoll fun event member => List.mem_append_right before member]
      exact ⟨Nat.zero_le 1, fun _ => rfl⟩
    · rintro before after rfl _ stop member
      exact clean _ _ (List.mem_append_right before member) (.inr rfl)
  apply (Program.Avoids.ensures avoids []).mono
  · rintro call _ ⟨other, trace, rfl, clean⟩
    have notPoll : call.isPoll = false := by
      simpa using fun polls => other (.inl polls)
    rw [WaitingPromptly, notPoll]
    exact quiet clean
  · rintro r _ ⟨trace, rfl, clean⟩
    exact quiet clean

theorem pollRingBuffer_stopBound (self : XdpMonitor) {trace : Trace}
    (atHead : BeforeRead world trace) :
    Ensures world.environment self.pollRingBuffer (WaitingPromptly world)
      (fun _ => StopBound world 0) trace := by
  apply Ensures.loop (BeforeRead.stable world) _ atHead
  intro trace before
  refine ⟨before, fun reply (stop : Bool) answer => ?_⟩
  simp only [Program.bind_eq, Program.pure_eq]
  cases stop with
  | true =>
      rw [if_pos rfl]
      exact .done (.done before.read_set)
  | false =>
      rw [if_neg Bool.false_ne_true]
      have clear : (world.environment.stateAfter trace).stopMonitoringRequested = false := by
        simp only [World.respond] at answer
        split at answer
        · simp at answer
        · exact Option.some.inj answer
      apply Ensures.call (BeforePoll.stable world) _ (BeforeRead.read_clear clear)
      intro trace beforePoll
      refine ⟨⟨beforePoll.bound, beforePoll.unread⟩, fun reply (poll : Poll) _ => ?_⟩
      have atHead := beforePoll.poll self.ringBuffer poll
      rw [Program.bind_done]
      by_cases negative : poll.result < 0
      · rw [if_pos negative]
        exact .done (.done atHead.1)
      · rw [if_neg negative]
        exact .done atHead

theorem run_stopBound (self : XdpMonitor) :
    Ensures world.environment self.run (WaitingPromptly world) (fun _ => StopBound world 0)
      [] := by
  rw [run_eq]
  apply Ensures.bind
  apply self.startUp_stopBound.mono (fun _ _ promptly => promptly)
  rintro ⟨started, self'⟩ trace atHead
  cases started with
  | false => exact .done atHead.1
  | true =>
      apply Ensures.bind
      apply (self'.pollRingBuffer_stopBound atHead).mono (fun _ _ promptly => promptly)
      intro _ trace bound
      exact .done bound

end XdpMonitor

/-- What a stop request at some point of a run guarantees from there on: at most one further poll
is started, none if the flag had not been read before, and once the flag is read the run is over. -/
structure StopsPromptly {α : Type} (thread : Program signature α) (before after : Trace) :
    Prop where
  onePoll : pollsStarted thread after ≤ 1
  noPoll : NoFlagRead before → pollsStarted thread after = 0
  leaves : ¬NoFlagRead after → thread.await = none

/-- In every reachable state of a run with the handlers installed, the run stops promptly after
every signal delivered so far, and from its start if a signal came before it. -/
theorem run_stopsPromptly (world : World)
    (installed : ∀ signal, world.handlerInstalled signal = true) (self : XdpMonitor)
    (ticks : List (Tick Reply External)) :
    let reached := (Config.start External self.run).run world.environment ticks
    (world.stopMonitoringRequested = true → StopsPromptly reached.thread [] reached.trace) ∧
      ∀ before signal after, reached.trace = before ++ .external (.signal signal) :: after →
        StopsPromptly reached.thread before after := by
  intro reached
  have meets := @XdpMonitor.run_stopBound world self ticks
  have promptly (before after : Trace) (cut : reached.trace = before ++ after)
      (stop : (world.environment.stateAfter before).stopMonitoringRequested = true) :
      StopsPromptly reached.thread before after := by
    rcases waits : reached.thread.await with _ | ⟨call, next⟩
    · obtain ⟨value, returned⟩ := Program.await_eq_none_iff.mp waits
      have bound := meets.2 value returned before after cut stop
      exact ⟨by simpa [pollsStarted, waits] using bound.1,
        by simpa [pollsStarted, waits] using bound.2, fun _ => waits⟩
    · obtain ⟨bound, unread⟩ := meets.1 call next waits
      have bounds := bound before after cut stop
      exact ⟨by simpa [pollsStarted, waits] using bounds.1,
        by simpa [pollsStarted, waits] using bounds.2,
        fun read => absurd (unread before after cut stop) read⟩
  constructor
  · exact fun stop => promptly [] reached.trace rfl stop
  · intro before signal after cut
    have stop := World.stop_of_signal (installed signal) before
    have fromSignal := promptly (before ++ [.external (.signal signal)]) after (by simpa using cut)
      stop
    refine ⟨fromSignal.onePoll, fun unread => fromSignal.noPoll ?_, fromSignal.leaves⟩
    exact noFlagRead_concat (by simp) unread

/-- A signal between the read of the flag and the poll: that poll is the only further one. -/
theorem signal_before_poll_stopsPromptly :
    let reached := (Config.start External (XdpMonitor.construct "eth0" "xdp_prog.o").run).run
      World.handlersInstalled.environment
      (startUpReplies 1 ++ [.reply {}, .external (.signal .sigterm), .reply {}, .reply {}])
    ∀ before signal after, reached.trace = before ++ .external (.signal signal) :: after →
      StopsPromptly reached.thread before after :=
  (run_stopsPromptly World.handlersInstalled (fun _ => rfl) (.construct "eth0" "xdp_prog.o") _).2

end XdpExperiment

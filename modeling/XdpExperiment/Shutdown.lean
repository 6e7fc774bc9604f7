import XdpExperiment.Interaction.Shutdown
import XdpExperiment.Process

/-!
# Ctrl-C ends the programs

Once a stop is requested of a program whose signal handlers are installed, it ends within a fixed
number of calls that are answered, wherever in its start-up, its loop or its shutdown it is, and
whatever the answers are.
-/

namespace XdpExperiment

open Bytes Interaction

section Settles

variable {Method : Type}

/-- A read of the stop flag sees the request. -/
def StopSeen : (op : Call ⊕ Local Method) → signature.sumResult (localSignature Method) op → Prop
  | .inl .stopMonitoringRequested, (stop : Bool) => stop = true
  | _, _ => True

/-- Shorthand for programs that do with so many calls once a stop is requested. -/
abbrev EndsIn {α : Type} (left : α → Nat) (bound : Nat)
    (program : Program (processSignature Method) α) : Prop :=
  program.Settles StopSeen left bound

variable {α : Type} {left : α → Nat} {bound : Nat}

theorem invoke_endsIn {call : Call} {next : call.Result → Program (processSignature Method) α}
    (continues : ∀ result, EndsIn left bound (next result)) :
    EndsIn left (bound + 1) ((Silently Method (invoke call)).bind next) :=
  @Program.Settles.call (processSignature Method) _ _ _ _ (.inl call) next continues

theorem perform_ends {action : Local Method}
    {next : action.Result → Program (processSignature Method) α} {start : Nat}
    (continues : ∀ result, (next result).Ends StopSeen left start bound)
    (fits : start + 1 ≤ bound) :
    ((perform action).bind next).Ends StopSeen left (start + 1) bound :=
  @Program.Ends.call (processSignature Method) _ _ _ _ _ (.inr action) next continues fits

theorem perform_endsIn {action : Local Method}
    {next : action.Result → Program (processSignature Method) α}
    (continues : ∀ result, EndsIn left bound (next result)) :
    EndsIn left (bound + 1) ((perform action).bind next) :=
  @Program.Settles.call (processSignature Method) _ _ _ _ (.inr action) next continues

/-- What a step of the start-up leaves for the time after it: a failure only for the shutdown. -/
def leftAfter (further : Nat) (out : Bool × XdpMonitor) : Nat := if out.1 then further else 4

theorem failed_endsIn {further : Nat} {self : XdpMonitor} (enough : 4 ≤ bound) :
    EndsIn (leftAfter further) bound
      (.done (false, self) : Program (processSignature Method) (Bool × XdpMonitor)) :=
  enough

theorem succeeded_endsIn {self : XdpMonitor} :
    EndsIn (leftAfter bound) bound
      (.done (true, self) : Program (processSignature Method) (Bool × XdpMonitor)) :=
  Nat.le_refl bound

namespace XdpMonitor.Printing

variable (strerror : Int → String) (self : XdpMonitor)

theorem resolveInterfaceIndex_endsIn : EndsIn (leftAfter 15) 16
    (resolveInterfaceIndex strerror self : Program (processSignature Method) _) := by
  refine invoke_endsIn fun index => ?_
  simp only [Program.pure_eq, Program.bind_eq]
  split
  · exact perform_endsIn fun errno => perform_endsIn fun _ => failed_endsIn (by decide)
  · exact succeeded_endsIn

theorem loadBpfObject_endsIn : EndsIn (leftAfter 13) 15
    (loadBpfObject strerror self : Program (processSignature Method) _) := by
  refine invoke_endsIn fun object => ?_
  simp only [Program.pure_eq, Program.bind_eq]
  split
  · exact perform_endsIn fun errno => perform_endsIn fun _ => failed_endsIn (by decide)
  · refine invoke_endsIn fun loaded => ?_
    split
    · exact perform_endsIn fun _ => failed_endsIn (by decide)
    · exact succeeded_endsIn

theorem findBpfProgramAndMap_endsIn : EndsIn (leftAfter 10) 13
    (findBpfProgramAndMap self : Program (processSignature Method) _) := by
  refine invoke_endsIn fun program => ?_
  simp only [Program.pure_eq, Program.bind_eq]
  split
  · exact perform_endsIn fun _ => failed_endsIn (by decide)
  · refine invoke_endsIn fun map => ?_
    split
    · exact perform_endsIn fun _ => failed_endsIn (by decide)
    · refine invoke_endsIn fun fd => ?_
      split
      · exact perform_endsIn fun _ => failed_endsIn (by decide)
      · exact succeeded_endsIn

theorem attachXdpProgram_endsIn : EndsIn (leftAfter 9) 10
    (attachXdpProgram strerror self : Program (processSignature Method) _) := by
  refine invoke_endsIn fun attached => ?_
  simp only [Program.pure_eq, Program.bind_eq]
  split
  · exact perform_endsIn fun errno => perform_endsIn fun _ => failed_endsIn (by decide)
  · exact succeeded_endsIn

theorem openRingBuffer_endsIn : EndsIn (leftAfter 7) 9
    (openRingBuffer self : Program (processSignature Method) _) := by
  refine invoke_endsIn fun fd => ?_
  simp only [Program.pure_eq, Program.bind_eq]
  split
  · exact perform_endsIn fun _ => failed_endsIn (by decide)
  · refine invoke_endsIn fun consumer => ?_
    split
    · exact perform_endsIn fun _ => failed_endsIn (by decide)
    · exact succeeded_endsIn

/-- A round that began before the request is finished first. -/
theorem pollRingBuffer_ends : (pollRingBuffer strerror self :
    Program (processSignature Method) _).Ends StopSeen (fun _ => 5) 6 18 := by
  refine Program.repeatWhile_ends ?_ ?_ (by decide)
  · rintro _ rfl
    rfl
  · intro stop
    simp only [Program.pure_eq, Program.bind_eq]
    split
    · change 6 ≤ 18
      decide
    · refine Program.Settles.mono (invoke_endsIn fun poll => ?_) (by decide : 8 ≤ 18)
      split
      · refine perform_endsIn fun _ => ?_
        exact Nat.le_refl 6
      · change 6 ≤ 7
        decide

theorem run_ends : (run strerror self : Program (processSignature Method) _).Ends StopSeen
    (fun _ => 4) 16 18 := by
  have gaveUp {monitor : XdpMonitor} :
      (.done (1, monitor) : Program (processSignature Method) (Int × XdpMonitor)).Ends StopSeen
        (fun _ => 4) 4 18 :=
    Program.Settles.ends (Nat.le_refl 4) (by decide)
  refine ((resolveInterfaceIndex_endsIn strerror self).ends (by decide)).bind ?_
  rintro ⟨resolved, monitor⟩
  cases resolved
  case false => exact gaveUp
  refine ((loadBpfObject_endsIn strerror monitor).ends (by decide)).bind ?_
  rintro ⟨loaded, monitor⟩
  cases loaded
  case false => exact gaveUp
  refine ((findBpfProgramAndMap_endsIn monitor).ends (by decide)).bind ?_
  rintro ⟨found, monitor⟩
  cases found
  case false => exact gaveUp
  refine ((attachXdpProgram_endsIn strerror monitor).ends (by decide)).bind ?_
  rintro ⟨attached, monitor⟩
  cases attached
  case false => exact gaveUp
  refine ((openRingBuffer_endsIn monitor).ends (by decide)).bind ?_
  rintro ⟨opened, monitor⟩
  cases opened
  case false => exact gaveUp
  refine perform_ends (fun _ => (pollRingBuffer_ends strerror monitor).bind fun _ => ?_) (by decide)
  exact perform_ends (fun _ => Program.Settles.ends (Nat.le_refl 4) (by decide)) (by decide)

end XdpMonitor.Printing

theorem silently_ends {program : Program signature α} {start : Nat}
    (settles : program.Settles
      (fun call result => StopSeen (.inl call : Call ⊕ Local Method) result) left start)
    (fits : start ≤ bound) :
    (Silently Method program).Ends StopSeen left start bound := by
  have embedded := @Program.Settles.embed signature (localSignature Method) α StopSeen left start
    program settles
  exact embedded.ends fits

theorem installSignalHandlers_ends (further : Nat) (fits : further + 2 ≤ bound) :
    (Silently Method XdpMonitor.installSignalHandlers).Ends StopSeen (fun _ => further)
      (further + 2) bound :=
  silently_ends (.call fun _ => .call fun _ => Nat.le_refl further) fits

theorem destroy_ends (monitor : XdpMonitor) (fits : 3 ≤ bound) :
    (Silently Method monitor.destroy).Ends StopSeen (fun _ => 0) 3 bound := by
  -- At most one call each: the detach, the release of the ring buffer and that of the object.
  have detaches : monitor.detachXdpProgram.Ends
      (fun call result => StopSeen (.inl call : Call ⊕ Local Method) result) (fun _ => 2) 3 3 := by
    refine Program.Settles.ends ?_ (Nat.le_refl 3)
    simp only [XdpMonitor.detachXdpProgram, Program.pure_eq, Program.bind_eq]
    split
    · exact .call fun _ => Nat.le_refl 2
    · exact Nat.le_succ 2
  have frees (monitor : XdpMonitor) : monitor.closeRingBuffer.Ends
      (fun call result => StopSeen (.inl call : Call ⊕ Local Method) result) (fun _ => 1) 2 3 := by
    refine Program.Settles.ends ?_ (by decide)
    simp only [XdpMonitor.closeRingBuffer, Program.pure_eq, Program.bind_eq]
    split
    · exact .call fun _ => Nat.le_refl 1
    · exact Nat.le_succ 1
  have closes (monitor : XdpMonitor) : monitor.closeBpfObject.Ends
      (fun call result => StopSeen (.inl call : Call ⊕ Local Method) result) (fun _ => 0) 1 3 := by
    refine Program.Settles.ends ?_ (by decide)
    simp only [XdpMonitor.closeBpfObject, Program.pure_eq, Program.bind_eq]
    split
    · exact .call fun _ => Nat.le_refl 0
    · exact Nat.le_succ 0
  have destroys := detaches.bind fun monitor => (frees monitor).bind fun monitor =>
    (closes monitor).bind fun _ =>
      @Program.Ends.done _ Unit _ (fun _ => 0) 0 3 () (Nat.le_refl 0) (Nat.zero_le 3)
  exact silently_ends destroys.settles fits

theorem reject_endsIn (rejection : Rejection) (few : rejection.stderr.length ≤ bound) :
    EndsIn (fun _ => 0) bound (reject rejection : Program (processSignature Method) Int) := by
  obtain ⟨texts, status⟩ := rejection
  have printed : EndsIn (fun _ => 0) texts.length ((texts.forM fun text => perform (.fprintf text) :
      Program (processSignature Method) PUnit).bind fun _ => .done status) := by
    clear few
    induction texts with
    | nil => exact Nat.le_refl 0
    | cons text texts ih =>
        change EndsIn _ (texts.length + 1) ((perform (.fprintf text)).bind fun _ =>
          (texts.forM fun text => perform (.fprintf text)).bind fun _ => .done status)
        exact perform_endsIn fun _ => ih
  exact printed.mono few

/-- The longest way is that of a monitor which starts up and is stopped at once. -/
theorem xdpDemoMain_endsIn (strerror : Int → String) (program embeddedPath : String)
    (arguments : List String) :
    EndsIn (fun _ => 0) 18 (xdpDemoMain strerror program embeddedPath arguments) := by
  rw [xdpDemoMain]
  split
  case h_1 rejection parsed =>
    obtain ⟨message, lines⟩ := xdpDemo_stderr parsed
    exact reject_endsIn rejection (by simp [lines])
  case h_2 accepted parsed =>
    refine ((installSignalHandlers_ends 16 (Nat.le_refl 18)).bind fun _ =>
      (XdpMonitor.Printing.run_ends strerror _).bind ?_).settles
    rintro ⟨status, monitor⟩
    refine .mono ((destroy_ends monitor (by decide)).bind fun _ => ?_) (by decide : 3 ≤ 4)
    exact .done (Nat.le_refl 0) (Nat.zero_le 18)

theorem xdpAppIntegrationExampleMain_endsIn (strerror : Int → String)
    (program embeddedPath : String) (arguments : List String) :
    EndsIn (fun _ => 0) 18
      (xdpAppIntegrationExampleMain strerror program embeddedPath arguments) := by
  rw [xdpAppIntegrationExampleMain]
  split
  case h_1 rejection parsed =>
    exact reject_endsIn rejection (by simp [xdpAppIntegrationExample_stderr parsed])
  case h_2 accepted parsed =>
    refine ((installSignalHandlers_ends 16 (Nat.le_refl 18)).bind fun _ =>
      (XdpMonitor.Printing.run_ends strerror _).bind ?_).settles
    rintro ⟨exitCode, monitor⟩
    have teardown : ((Silently ApplicationMethod monitor.destroy).bind fun _ =>
        .done exitCode).Ends StopSeen (fun _ => 0) 3 18 :=
      (destroy_ends monitor (by decide)).bind fun _ => .done (Nat.le_refl 0) (Nat.zero_le 18)
    simp only [Program.pure_eq, Program.bind_eq]
    split
    · exact perform_ends (fun _ => teardown) (by decide)
    · exact teardown.mono (by decide)

end Settles

/-! ## A stop that was requested -/

/-- A stop is requested of a process that handles signals. -/
structure System.Stopping {ι σ : Type} (system : System ι σ) : Prop where
  requested : system.stopMonitoringRequested = true
  running : system.terminated = false
  handles : ∀ signal, system.handlerInstalled signal = true

namespace System.Stopping

variable {ι σ Method : Type} [DecidableEq ι] {host : Endian} {handler : PacketHandler σ}
variable {console : Console Method σ} {foreign : Int → XdpMode → Option Nat} {start : σ}
variable {system : System ι σ}

/-- A request is not forgotten, and further signals do no harm. -/
theorem after_call (stopping : system.Stopping) (call : Call) (result : call.Result) :
    (system.after host handler (.call call result)).Stopping := by
  obtain ⟨requested, running, handles⟩ := stopping
  cases call with
  | signal signal =>
      refine ⟨requested, running, fun other => ?_⟩
      change (other = signal || system.handlerInstalled other) = true
      rw [handles, Bool.or_true]
  | bpfXdpAttach ifindex fd flags =>
      simp only [System.after, System.update, World.after]
      split <;> exact ⟨requested, running, handles⟩
  | bpfXdpDetach ifindex flags =>
      simp only [System.after, System.update, World.after]
      split <;> exact ⟨requested, running, handles⟩
  | _ => exact ⟨requested, running, handles⟩

theorem after_external (stopping : system.Stopping) (activity : Activity ι) :
    (system.after host handler (.external activity)).Stopping := by
  obtain ⟨requested, running, handles⟩ := stopping
  cases activity with
  | signal signal =>
      have handled : (system.world host).handlerInstalled signal = true := handles signal
      simp only [System.after, System.update, World.after, handled, if_true]
      exact ⟨rfl, running, handles⟩
  | receive ifindex mode cpu frame =>
      simp only [System.after]
      split <;> exact ⟨requested, running, handles⟩
  | _ => exact ⟨requested, running, handles⟩

theorem after (stopping : system.Stopping)
    (event : Event (processSignature Method) (Activity ι)) :
    ((processEnvironment host handler console foreign start).after system event).Stopping := by
  rcases event with ⟨call | action, result⟩ | activity
  · exact stopping.after_call call result
  · obtain ⟨requested, running, handles⟩ := stopping
    cases action <;> exact ⟨requested, running, handles⟩
  · exact stopping.after_external activity

/-- Every call is answered, and the stop flag is seen. -/
theorem answers (stopping : system.Stopping) (op : Call ⊕ Local Method) (reply : Reply) :
    ∃ result, (processEnvironment host handler console foreign start).respond system op reply =
      some result ∧ StopSeen op result := by
  have alive : ¬system.terminated = true := by simp [stopping.running]
  cases op with
  | inl call =>
      refine ⟨(system.world host).result call reply, if_neg alive, ?_⟩
      cases call with
      | stopMonitoringRequested => exact stopping.requested
      | _ => trivial
  | inr action => exact ⟨localResult reply action, if_neg alive, trivial⟩

end System.Stopping

/-- Ctrl-C ends either program. Whatever a process was doing when a stop was requested of it while
it handled both signals, it has ended once `18` more of its calls are answered, whatever the answers
are and whatever else happens. -/
theorem executables_end_once_stopped {ι σ : Type} [DecidableEq ι] (host : Endian)
    (handler : PacketHandler σ) (foreign : Int → XdpMode → Option Nat) (start : σ)
    (strerror : Int → String) (program embeddedPath : String) (arguments : List String)
    (ticks more : List (Tick Reply (Activity ι))) (enough : 18 ≤ more.countP Tick.isReply) :
    (∀ console : Console Empty σ,
      let env := System.processEnvironment host handler console foreign start
      let reached := (Config.start (Activity ι)
        (xdpDemoMain strerror program embeddedPath arguments)).run env ticks
      (env.stateAfter reached.trace).Stopping →
        ∃ status, (reached.run env more).thread = .done status) ∧
    ∀ console : Console ApplicationMethod σ,
      let env := System.processEnvironment host handler console foreign start
      let reached := (Config.start (Activity ι)
        (xdpAppIntegrationExampleMain strerror program embeddedPath arguments)).run env ticks
      (env.stateAfter reached.trace).Stopping →
        ∃ status, (reached.run env more).thread = .done status := by
  constructor
  · intro console env reached stopping
    have settles := xdpDemoMain_endsIn strerror program embeddedPath arguments
    exact @Config.ends_once_calm _ _ _ env StopSeen System.Stopping _ _
      (fun _ event now => now.after event) (fun _ op reply now => now.answers op reply) _ settles
      ticks more stopping enough
  · intro console env reached stopping
    have settles := xdpAppIntegrationExampleMain_endsIn strerror program embeddedPath arguments
    exact @Config.ends_once_calm _ _ _ env StopSeen System.Stopping _ _
      (fun _ event now => now.after event) (fun _ op reply now => now.answers op reply) _ settles
      ticks more stopping enough

/-- A start-up that succeeds, and a signal while the first poll waits. -/
def interruptedPoll : List (Tick Reply (Activity Unit)) :=
  [.reply {}, .reply {}, .reply { ifindex := eth0 }, .reply { pointer := some 1 }, .reply {},
    .reply { pointer := some 2 }, .reply { pointer := some 3 }, .reply { code := 5 }, .reply {},
    .reply { code := 6 }, .reply { pointer := some 4 }, .reply {}, .reply {},
    .external (.signal .sigint)]

/-- The demo polls when it is interrupted, and ends. -/
theorem interrupted_demo_ends :
    let console : Console Empty Unit := ⟨fun _ state => state, Empty.elim⟩
    let env := System.processEnvironment .little silentHandler console (fun _ _ => none) ()
    let reached := (Config.start (Activity Unit) (xdpDemoMain (fun _ => "") "xdp_demo" "xdp_prog.o"
      [])).run env interruptedPoll
    reached.thread.await.map Sigma.fst =
        some (.inl (.ringBufferPoll (some 4) POLL_TIMEOUT_MS)) ∧
      ∃ status, (reached.run env (List.replicate 18 (.reply {}))).thread = .done status :=
  ⟨rfl, (executables_end_once_stopped .little silentHandler (fun _ _ => none) () (fun _ => "")
    "xdp_demo" "xdp_prog.o" [] _ _ (by decide)).1 _
      ⟨rfl, rfl, fun signal => by cases signal <;> rfl⟩⟩

end XdpExperiment

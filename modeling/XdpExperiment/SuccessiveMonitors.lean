import XdpExperiment.EndToEnd
import XdpExperiment.PublicCalls

/-!
# Monitors used one after another

All state of a monitor is in its members, except for the stop flag, which belongs to the process
and is never cleared. A monitor constructed after an earlier one was stopped by a signal therefore
finds the flag set. The theorem says when a later run can tell the difference.
-/

namespace XdpExperiment

open Interaction

/-- One monitor of a process: what it is constructed with and the public calls made on it. -/
structure Session where
  targetInterfaceName : String
  bpfObjectFilePath : String
  publicCalls : List PublicCall

/-- Monitors that are constructed, used and destroyed one after another. -/
def successive : List Session → Program signature (List (List Int))
  | [] => return []
  | session :: sessions => do
      let results ←
        lifetime session.targetInterfaceName session.bpfObjectFilePath session.publicCalls
      let rest ← successive sessions
      return results :: rest

/-- A fresh process after `install_signal_handlers`, with the kernel in some state. -/
def World.fresh (attached : Int → XdpMode → Option XdpProgram) (pending : List (List UInt8)) :
    World :=
  { World.handlersInstalled with attached := attached, pending := pending }

/-- A signal is delivered somewhere in the trace. -/
def SignalDelivered (trace : Trace) : Prop :=
  ∃ signal, .external (.signal signal) ∈ trace

/-! ## What a history leaves behind -/

namespace World

/-- A process that handles both signals is not ended by one. -/
theorem terminated_stateAfter {world : World}
    (installed : ∀ signal, world.handlerInstalled signal = true)
    (running : world.terminated = false) (trace : Trace) :
    (world.environment.stateAfter trace).terminated = false := by
  induction trace using List.reverseRecOn with
  | nil => exact running
  | append_singleton trace event ih =>
      rw [Environment.stateAfter_append_singleton]
      cases event with
      | external action =>
          cases action with
          | record bytes => exact ih
          | signal signal =>
              have still := handlerInstalled_stateAfter (installed signal) trace
              simpa [after, still, handleInterruptSignal] using ih
      | call call result =>
          cases call with
          | bpfXdpAttach ifindex fd flags =>
              simp only [after]
              split <;> exact ih
          | bpfXdpDetach ifindex flags =>
              simp only [after]
              split <;> exact ih
          | _ => exact ih

/-- With the handlers installed, the flag records whether a signal was delivered. -/
theorem stop_iff {world : World} (installed : ∀ signal, world.handlerInstalled signal = true)
    (unstopped : world.stopMonitoringRequested = false) (trace : Trace) :
    (world.environment.stateAfter trace).stopMonitoringRequested = true ↔
      SignalDelivered trace := by
  induction trace using List.reverseRecOn with
  | nil => simp [unstopped, SignalDelivered]
  | append_singleton trace event ih =>
      cases event with
      | call call result =>
          rw [Environment.stateAfter_append_singleton, after_call_stop, ih]
          simp [SignalDelivered]
      | external action =>
          cases action with
          | record bytes =>
              have same : (world.environment.stateAfter
                  (trace ++ [.external (.record bytes)])).stopMonitoringRequested =
                (world.environment.stateAfter trace).stopMonitoringRequested := by
                rw [Environment.stateAfter_append_singleton]
                rfl
              rw [same, ih]
              simp [SignalDelivered]
          | signal signal =>
              have set := stop_of_signal (installed signal) trace
              simp only [set, true_iff]
              exact ⟨signal, by simp⟩

end World

/-- The kernel is as the process found it when it started. -/
def KernelRestored (attached : Int → XdpMode → Option XdpProgram) (pending : List (List UInt8))
    (world : World) : Prop :=
  world.attached = attached ∧ world.pending = pending

/-- A history that leaves the kernel as it found it leaves nothing but the flag. -/
theorem stateAfter_eq_of_restored {attached : Int → XdpMode → Option XdpProgram}
    {pending : List (List UInt8)} {trace : Trace}
    (restored : KernelRestored attached pending
      ((World.fresh attached pending).environment.stateAfter trace)) :
    (World.fresh attached pending).environment.stateAfter trace =
      { World.fresh attached pending with
        stopMonitoringRequested := ((World.fresh attached pending).environment.stateAfter
          trace).stopMonitoringRequested } := by
  have installed : ((World.fresh attached pending).environment.stateAfter
      trace).handlerInstalled = fun _ => true := by
    funext signal
    exact World.handlerInstalled_stateAfter rfl trace
  have running : ((World.fresh attached pending).environment.stateAfter trace).terminated = false :=
    World.terminated_stateAfter (fun _ => rfl) rfl trace
  obtain ⟨sameAttached, samePending⟩ := restored
  generalize (World.fresh attached pending).environment.stateAfter trace = used at *
  obtain ⟨handlers, stop, terminated, attached', pending'⟩ := used
  simp only at installed running sameAttached samePending
  rw [installed, running, sameAttached, samePending]
  rfl

/-! ## Runs that never come to read the flag -/

/-- The two states differ in the flag at most. -/
def SameButStop (world world' : World) : Prop :=
  ∃ stop, world' = { world with stopMonitoringRequested := stop }

/-- The call reads the stop flag. -/
def ReadsFlag (call : Call) : Prop := call = .stopMonitoringRequested

theorem sameButStop_indistinguishable (world : World) :
    Indistinguishable world.environment ReadsFlag SameButStop where
  after := by
    rintro state _ event ⟨stop, rfl⟩
    cases event with
    | external action =>
        cases action with
        | record bytes => exact ⟨stop, rfl⟩
        | signal signal =>
            cases installed : state.handlerInstalled signal with
            | true => exact ⟨true, by simp [World.after, installed, World.handleInterruptSignal]⟩
            | false => exact ⟨stop, by simp [World.after, installed]⟩
    | call call result =>
        cases call with
        | bpfXdpAttach ifindex fd flags =>
            refine ⟨stop, ?_⟩
            simp only [World.after]
            split <;> rfl
        | bpfXdpDetach ifindex flags =>
            refine ⟨stop, ?_⟩
            simp only [World.after]
            split <;> rfl
        | _ => exact ⟨stop, rfl⟩
  respond := by
    rintro state _ call reply ⟨stop, rfl⟩ notRead
    cases call with
    | stopMonitoringRequested => exact absurd rfl notRead
    | _ => rfl

/-- Every interface that a lookup can return carries a program. -/
def EveryInterfaceOccupied (world : World) : Prop :=
  ∀ index : Ifindex, index.val ≠ 0 → world.Occupied index.val

/-- The start-up steps do not read the flag. -/
theorem startUp_avoids_readsFlag (self : XdpMonitor) :
    Program.Avoids ReadsFlag self.startUp := by
  apply XdpMonitor.startUp_avoids
  rintro call starts rfl
  cases starts

/-- A start-up that succeeds has attached the program, and to a valid interface. -/
theorem XdpMonitor.StartsUp.attached {self self' : XdpMonitor} {made : Trace}
    (starts : self.StartsUp made true self') :
    ∃ before after fd, ∃ index : Ifindex, index.val ≠ 0 ∧
      made = before ++ .call (.bpfXdpAttach index.val fd attachFlags) (0 : Int) :: after ∧
      Without AttachmentCall before := by
  cases starts with
  | @opened _ _ _ _ made₅ _ _ _ _ _ resolves loads finds attaches opens =>
      obtain - | ⟨index, nonzero⟩ := resolves
      obtain - | - | ⟨object, code, success⟩ := loads
      obtain - | - | - | ⟨program, map, fd, valid⟩ := finds
      obtain - | ⟨refusal, rfl⟩ := attaches
      refine ⟨[_, _, _, _, _, _], made₅, fd, index, nonzero, rfl, ?_⟩
      intro call result member attachment
      cases attachment <;> simp at member

/-- Where nothing can be attached no start-up succeeds. -/
theorem startUp_fails {world : World} (occupied : EveryInterfaceOccupied world)
    (self : XdpMonitor) {ticks : List (Tick Reply External)} {ok : Bool} {self' : XdpMonitor}
    {trace : Trace}
    (returned : (Config.mk self.startUp []).run world.environment ticks =
      { thread := .done (ok, self'), trace := trace }) : ok = false := by
  by_contra succeeded
  rw [Bool.not_eq_false] at succeeded
  subst succeeded
  have spec := (@XdpMonitor.startUp_spec world self [] ticks).2 (true, self') (by rw [returned])
  rw [returned] at spec
  obtain ⟨made, starts, since⟩ := spec
  have admits : world.environment.Admits trace := by
    have reached := @Config.run_admits _ _ _ world.environment (Config.mk self.startUp [])
      AtEach.nil ticks
    rwa [returned] at reached
  obtain ⟨before, after, fd, index, nonzero, rfl, noAttach⟩ := starts.attached
  obtain ⟨front, back, rfl, sameCalls⟩ := exists_split_of_calls (by simpa using since.calls_eq)
  obtain ⟨reply, answer⟩ := admits front _ back rfl _ _ rfl
  have free := World.free_of_attached rfl answer
  have untouched : (world.environment.stateAfter front).attached = world.attached := by
    have unchanged := World.attached_append world [] (Without.of_calls (sameCalls ▸ noAttach))
    simpa using unchanged
  rw [World.Occupied, untouched] at free
  exact free (occupied index nonzero)

/-! ## Runs that do read it -/

/-- The calls of a start-up that succeeds on the given interface. -/
def startUpCalls (name path : String) (index : Ifindex) : Trace :=
  [.call (.ifNametoindex name) index, .call (.bpfObjectOpenFile path) (some 1),
    .call (.bpfObjectLoad (some 1)) (0 : Int),
    .call (.bpfObjectFindProgramByName (some 1) XDP_PROGRAM_NAME) (some 2),
    .call (.bpfObjectFindMapByName (some 1) RINGBUF_MAP_NAME) (some 3),
    .call (.bpfProgramFd (some 2)) (5 : Int),
    .call (.bpfXdpAttach index.val 5 XdpMonitor.attachFlags) (0 : Int),
    .call (.bpfMapFd (some 3)) (6 : Int), .call (.ringBufferNew 6) (some 4)]

theorem startsUp_startUpCalls (self : XdpMonitor) {index : Ifindex} (nonzero : index.val ≠ 0) :
    ∃ self', self.StartsUp
      (startUpCalls self.targetInterfaceName self.bpfObjectFilePath index) true self' :=
  ⟨_, .opened (.resolved index nonzero) (.loaded 1 0 rfl) (.found 2 3 5 (by decide))
    (.attached 0 rfl) (.opened 6 4 (by decide))⟩

/-- On a free interface a run comes to its first read of the flag and sees its value. -/
theorem exists_run_reading {world : World} (running : world.terminated = false)
    (self : XdpMonitor) {index : Ifindex} (nonzero : index.val ≠ 0)
    (free : ¬world.Occupied index.val) :
    ∃ ticks : List (Tick Reply External),
      ((Config.start External self.run).run world.environment ticks).trace =
        startUpCalls self.targetInterfaceName self.bpfObjectFilePath index ++
          [flagRead world.stopMonitoringRequested] := by
  obtain ⟨self', starts⟩ := startsUp_startUpCalls self nonzero
  have performs : ∃ rest, self.run.Performs
      (startUpCalls self.targetInterfaceName self.bpfObjectFilePath index ++
        [flagRead world.stopMonitoringRequested]) rest := by
    rw [XdpMonitor.run_eq]
    exact ⟨_, starts.performs.bind (.call rfl (.refl _))⟩
  have allows : world.environment.Allows world
      (startUpCalls self.targetInterfaceName self.bpfObjectFilePath index ++
        [flagRead world.stopMonitoringRequested]) := by
    have index : ∃ reply : Reply, reply.ifindex = index := ⟨{ ifindex := index }, rfl⟩
    have pointer (pointer : Pointer) : ∃ reply : Reply, reply.pointer = pointer :=
      ⟨{ pointer := pointer }, rfl⟩
    have code (code : Int) : ∃ reply : Reply, reply.code = code := ⟨{ code := code }, rfl⟩
    have : Nonempty Reply := ⟨{}⟩
    simp [startUpCalls, Environment.Allows, World.after, World.respond, World.result,
      World.setAttached, running, free, index, pointer, code]
  obtain ⟨rest, performs⟩ := performs
  obtain ⟨ticks, runs⟩ :=
    @Program.Performs.exists_run _ _ _ world.environment _ _ _ performs [] allows
  exact ⟨ticks, by rw [Config.start, runs]; rfl⟩

/-! ## Interference through the flag -/

/-- Runs behave the same in two worlds: under every schedule they make the same calls with the
same results and reach the same point. -/
def SameRuns (self : XdpMonitor) (world world' : World) : Prop :=
  ∀ ticks : List (Tick Reply External),
    (Config.start External self.run).run world.environment ticks =
      (Config.start External self.run).run world'.environment ticks

/-- The flag makes no difference to runs exactly when no run can come to read it. -/
theorem sameRuns_stopped_iff {world : World} (running : world.terminated = false)
    (unstopped : world.stopMonitoringRequested = false) (self : XdpMonitor) :
    SameRuns self { world with stopMonitoringRequested := true } world ↔
      EveryInterfaceOccupied world := by
  constructor
  · intro same
    by_contra someFree
    simp only [EveryInterfaceOccupied, not_forall] at someFree
    obtain ⟨index, nonzero, free⟩ := someFree
    obtain ⟨ticks, reads⟩ := exists_run_reading running self nonzero free
    rw [unstopped, ← same ticks] at reads
    have admits := @Config.run_admits _ _ _
      { world with stopMonitoringRequested := true }.environment (Config.start External self.run)
      AtEach.nil ticks
    rw [reads] at admits
    have clear := World.stop_of_flagRead admits
    have set := @World.stop_append { world with stopMonitoringRequested := true } []
      (startUpCalls self.targetInterfaceName self.bpfObjectFilePath index) rfl
    rw [List.nil_append, clear] at set
    simp at set
  · intro occupied ticks
    rw [Config.start, XdpMonitor.run_eq]
    have related : SameButStop world { world with stopMonitoringRequested := true } := ⟨true, rfl⟩
    apply @Config.run_bind_congr _ _ _ _ world.environment
      { world with stopMonitoringRequested := true }
    · intro ticks
      exact (sameButStop_indistinguishable world).run_eq related (startUp_avoids_readsFlag self)
        ticks
    · rintro front ⟨ok, self'⟩ trace returned back
      obtain rfl := startUp_fails occupied self returned
      rw [if_neg Bool.false_ne_true, Config.run_done, Config.run_done]

/-- A monitor constructed after a history of others that left the kernel as they found it runs as
in a fresh process exactly when no signal was delivered during the history, or every interface is
occupied, so that no run gets as far as the flag. -/
theorem successive_run_fresh_iff (attached : Int → XdpMode → Option XdpProgram)
    (pending : List (List UInt8)) (history : List Session) (ticks : List (Tick Reply External))
    (name path : String) :
    let past := ((Config.start External (successive history)).run
      (World.fresh attached pending).environment ticks).trace
    let used := (World.fresh attached pending).environment.stateAfter past
    KernelRestored attached pending used →
      (SameRuns (.construct name path) used (World.fresh attached pending) ↔
        ¬SignalDelivered past ∨ EveryInterfaceOccupied (World.fresh attached pending)) := by
  intro past used restored
  have stop_iff := @World.stop_iff (World.fresh attached pending) (fun _ => rfl) rfl past
  have used_eq : used = _ := stateAfter_eq_of_restored restored
  by_cases delivered : SignalDelivered past
  · rw [stop_iff.mpr delivered] at used_eq
    rw [used_eq, sameRuns_stopped_iff rfl rfl]
    simp [delivered]
  · have clear : ((World.fresh attached pending).environment.stateAfter
        past).stopMonitoringRequested = false := by
      simpa using fun set => delivered (stop_iff.mp set)
    rw [clear] at used_eq
    rw [used_eq]
    exact ⟨fun _ => .inl delivered, fun _ _ => rfl⟩

/-- A history of one monitor that is run and destroyed. -/
def oneMonitor : List Session := [⟨"eth0", "xdp_prog.o", [.run]⟩]

/-- A record of a captured frame that was submitted and not polled. -/
def unpolled : List UInt8 := (acknowledgement.record .little blankSlot).toBytes .little

/-- What a history of that monitor leaves behind in a process without XDP programs where one
record is pending. -/
def leftBy (ticks : List (Tick Reply External)) : World :=
  (World.fresh (fun _ _ => none) [unpolled]).environment.stateAfter
    ((Config.start External (successive oneMonitor)).run
      (World.fresh (fun _ _ => none) [unpolled]).environment ticks).trace

/-- After a run that could not resolve its interface the next one finds nothing changed. -/
theorem unresolved_history_fresh :
    SameRuns (.construct "eth0" "xdp_prog.o") (leftBy [.reply {}])
      (World.fresh (fun _ _ => none) [unpolled]) := by
  apply (successive_run_fresh_iff (fun _ _ => none) [unpolled] oneMonitor [.reply {}] "eth0"
    "xdp_prog.o" ⟨rfl, rfl⟩).mpr
  left
  rintro ⟨signal, delivered⟩
  cases delivered with
  | tail _ delivered => cases delivered

/-- After a run that a signal stopped, the kernel is as before but the next run does not poll. -/
theorem stopped_history_not_fresh :
    KernelRestored (fun _ _ => none) [unpolled] (leftBy (stoppedRun ++ teardownReplies)) ∧
      ¬SameRuns (.construct "eth0" "xdp_prog.o") (leftBy (stoppedRun ++ teardownReplies))
        (World.fresh (fun _ _ => none) [unpolled]) := by
  constructor
  · refine ⟨?_, rfl⟩
    funext ifindex mode
    change (if ifindex = 2 ∧ mode = .skb then none
      else if ifindex = 2 ∧ mode = .skb then some (XdpProgram.loaded 5) else none) = none
    split <;> simp_all
  · intro same
    have sameLength := congrArg (fun config => config.trace.length)
      (same (startUpReplies 1 ++ [.reply {}, .reply { consumed := 1 }]))
    exact absurd sameLength (by decide)

end XdpExperiment

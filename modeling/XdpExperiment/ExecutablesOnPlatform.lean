import XdpExperiment.Exit
import XdpExperiment.OneObject

/-!
# The two programs on the platform

Both programs run their monitor once, so they open no more than one object. With a ring buffer for
every object they do nothing that they do not do in the whole system with its only ring buffer.
-/

namespace XdpExperiment

open Bytes Interaction Reservation

variable {ι σ Method : Type}


theorem Handles.along_calls {External : Type} (trace : List (Event signature External)) :
    along (calls trace) = along trace := by
  induction trace using List.reverseRecOn with
  | nil => rfl
  | append_singleton trace event ih =>
      rw [calls_append]
      cases event with
      | call call result => simp [ih]
      | external action => simpa [afterEvent] using ih

namespace Platform

/-- State after the program did something inside of its process. -/
def performed (console : Console Method σ) (platform : Platform ι σ) :
    Local Method → Platform ι σ
  | .errno => platform
  | .printf text => { platform with handlerState := console.printf text platform.handlerState }
  | .fprintf _ => platform
  | .method method =>
      { platform with handlerState := console.method method platform.handlerState }

variable [DecidableEq ι]

/-- The platform as the environment of a whole program. -/
abbrev processEnvironment (host : Endian) (handler : PacketHandler σ) (console : Console Method σ)
    (foreign : Int → XdpMode → Option Nat) (start : σ) :
    Environment (processSignature Method) (Activity ι) where
  State := Platform ι σ
  initial := initial foreign start
  Reply := Reply
  respond := fun platform op reply => match op with
    | .inl call => (platform.seenBy host call).respond call reply
    | .inr action =>
        if platform.world.terminated then none else some (System.localResult reply action)
  after := fun platform event => match event with
    | .external activity => platform.after host handler (.external activity)
    | .call (.inl call) result => platform.after host handler (.call call result)
    | .call (.inr action) _ => platform.performed console action

variable {host : Endian} {handler : PacketHandler σ} {console : Console Method σ}
variable {foreign : Int → XdpMode → Option Nat} {start : σ}
variable {platform : Platform ι σ} {system : System ι σ}

/-- The surroundings of the monitor are a correct abstraction of what a program runs in. -/
theorem processEnvironment_refines (host : Endian) (handler : PacketHandler σ)
    (console : Console Method σ) (foreign : Int → XdpMode → Option Nat) (start : σ) :
    Refines (processEnvironment host handler console foreign start :
        Environment (processSignature Method) (Activity ι)).erase
      (World.booted foreign).environment (fun platform world => world = platform.world) where
  initial := rfl
  call := fun same answer => (environment_refines host handler foreign start).call same answer
  external := by
    intro platform world action same
    cases action with
    | inl activity => exact (environment_refines host handler foreign start).external activity same
    | inr further =>
        refine ⟨[], ?_⟩
        obtain ⟨action, result⟩ := further
        cases action <;> exact same

/-- Handles come with the calls of the monitor. -/
theorem handles_afterProcess (platform : Platform ι σ)
    (event : Event (processSignature Method) (Activity ι)) :
    ((processEnvironment host handler console foreign start).after platform event).handles =
      (callsAs External [event.erase]).foldl Handles.afterEvent platform.handles := by
  cases event with
  | external activity => exact handles_after (.external activity)
  | call op result =>
      cases op with
      | inl call => exact handles_after (.call call result)
      | inr action => cases action <;> rfl

theorem handles_process (trace : List (Event (processSignature Method) (Activity ι))) :
    ((processEnvironment host handler console foreign start).stateAfter trace).handles =
      Handles.along (erasedCalls External trace) := by
  induction trace using List.reverseRecOn with
  | nil => rfl
  | append_singleton trace event ih =>
      have split : erasedCalls External (trace ++ [event]) =
          erasedCalls External trace ++ callsAs External [event.erase] := by
        simp [erasedCalls]
      rw [Environment.stateAfter_append_singleton, handles_afterProcess, ih, split, Handles.along,
        Handles.along, List.foldl_append]

/-- A program that is a single run but for what it prints opens no second object. -/
theorem opened_of_erases {program : Program (processSignature Method) Int}
    {parsed : Except Rejection MonitorArguments}
    (rejects : ∀ rejection, parsed = .error rejection → program = reject rejection)
    (accepts : ∀ accepted, parsed = .ok accepted → program.Erases ExitsWith (singleRun accepted))
    (ticks : List (Tick Reply (Activity ι))) :
    let env := processEnvironment host handler console foreign start
    (env.stateAfter ((Config.start (Activity ι) program).run env ticks).trace).handles.opened
      ≤ 1 := by
  intro env
  have refines := @processEnvironment_refines ι σ Method _ host handler console foreign start
  rw [handles_process]
  cases parsed with
  | error rejection =>
      have erases := @reject_erases Method rejection
      rw [← rejects rejection rfl] at erases
      obtain ⟨ticks', -, sameCalls, -⟩ := refines.run_erased erases ticks
      have idle : (Config.start External (.done ([] : List Int))).run
          (World.booted foreign).environment ticks' = .start External (.done []) :=
        Config.run_done [] [] ticks'
      rw [idle] at sameCalls
      rw [← sameCalls]
      exact Nat.zero_le _
  | ok accepted =>
      obtain ⟨ticks', -, sameCalls, -⟩ := refines.run_erased (accepts accepted rfl) ticks
      have once := Config.Meets.always (@singleRun_opensOnce External
        (World.booted foreign).environment accepted ticks') fun _ _ once => once
      rwa [← sameCalls, Handles.along_calls]

omit [DecidableEq ι] in
theorem OneObject.performed (one : OneObject host platform system) (action : Local Method) :
    OneObject host (platform.performed console action) (system.performed console action) := by
  cases action with
  | printf text =>
      exact { one with handlerState := congrArg (console.printf text) one.handlerState }
  | method method =>
      exact { one with handlerState := congrArg (console.method method) one.handlerState }
  | _ => exact one

theorem foldl_activities (actions : List (Activity ι)) (system : System ι σ) :
    (actions.map .external).foldl
        (System.processEnvironment host handler console foreign start).after system =
      (actions.map .external).foldl (System.after host handler) system := by
  induction actions generalizing system with
  | nil => rfl
  | cons action actions ih => exact ih _

/-- As long as no second object is opened, a program finds itself in the whole system. -/
theorem processEnvironment_refines_system (host : Endian) (handler : PacketHandler σ)
    (console : Console Method σ) (foreign : Int → XdpMode → Option Nat) (start : σ) :
    Refines ((processEnvironment host handler console foreign start :
        Environment (processSignature Method) (Activity ι)).upTo
          fun platform => platform.handles.opened ≤ 1)
      (System.processEnvironment host handler console foreign start) (OneObject host) where
  initial := (environment_refines_system host handler foreign start).initial
  call := by
    intro platform system op reply result one answer
    obtain ⟨answer, inside⟩ := Option.filter_eq_some_iff.mp answer
    cases op with
    | inl call =>
        obtain ⟨reply', answer'⟩ := one.respond answer
        exact ⟨[], reply', answer', one.call answer (by simpa using inside)⟩
    | inr action =>
        refine ⟨[], reply, ?_, one.performed action⟩
        have terminated : platform.world.terminated = system.terminated := by
          rw [one.world]
          rfl
        simp only [terminated] at answer
        exact answer
  external := by
    intro platform system activity one
    obtain ⟨actions, still⟩ := one.external activity
    refine ⟨actions, ?_⟩
    rw [foldl_activities]
    exact still

/-- Every execution of a program that is a single run but for what it prints. -/
theorem inSystem_of_erases (console : Console Method σ)
    {program : Program (processSignature Method) Int} {parsed : Except Rejection MonitorArguments}
    (rejects : ∀ rejection, parsed = .error rejection → program = reject rejection)
    (accepts : ∀ accepted, parsed = .ok accepted → program.Erases ExitsWith (singleRun accepted))
    (ticks : List (Tick Reply (Activity ι))) :
    ∃ ticks' : List (Tick Reply (Activity ι)),
      let env := processEnvironment host handler console foreign start
      let final := (Config.start (Activity ι) program).run env ticks
      let seen := System.processEnvironment host handler console foreign start
      let final' := (Config.start (Activity ι) program).run seen ticks'
      final'.thread = final.thread ∧ calls final'.trace = callsAs (Activity ι) final.trace ∧
        OneObject host (env.stateAfter final.trace) (seen.stateAfter final'.trace) := by
  refine (processEnvironment_refines_system host handler console foreign start).run_inside ?_
    (opened_of_erases rejects accepts ticks)
  intro platform event opened
  cases event with
  | external activity => exact opened_before opened
  | call op result =>
      cases op with
      | inl call => exact opened_before opened
      | inr action => cases action <;> exact opened

end Platform

/-- Every execution of either program, on the platform where each object has its own ring buffer, is
one in the whole system: with the same calls and results, the same output in the state of the
handler, the same ring buffer and the same attached programs. -/
theorem executables_inSystem [DecidableEq ι] (host : Endian) (handler : PacketHandler σ)
    (foreign : Int → XdpMode → Option Nat) (start : σ) (strerror : Int → String)
    (program embeddedPath : String) (arguments : List String)
    (ticks : List (Tick Reply (Activity ι))) :
    (∀ console : Console Empty σ, ∃ ticks' : List (Tick Reply (Activity ι)),
      let env := Platform.processEnvironment host handler console foreign start
      let main := Config.start (Activity ι) (xdpDemoMain strerror program embeddedPath arguments)
      let final := main.run env ticks
      let seen := System.processEnvironment host handler console foreign start
      let final' := main.run seen ticks'
      final'.thread = final.thread ∧ calls final'.trace = callsAs (Activity ι) final.trace ∧
        Platform.OneObject host (env.stateAfter final.trace) (seen.stateAfter final'.trace)) ∧
    ∀ console : Console ApplicationMethod σ, ∃ ticks' : List (Tick Reply (Activity ι)),
      let env := Platform.processEnvironment host handler console foreign start
      let main := Config.start (Activity ι)
        (xdpAppIntegrationExampleMain strerror program embeddedPath arguments)
      let final := main.run env ticks
      let seen := System.processEnvironment host handler console foreign start
      let final' := main.run seen ticks'
      final'.thread = final.thread ∧ calls final'.trace = callsAs (Activity ι) final.trace ∧
        Platform.OneObject host (env.stateAfter final.trace) (seen.stateAfter final'.trace) := by
  constructor
  · intro console
    refine Platform.inSystem_of_erases console (fun rejection parsed => ?_)
      (fun accepted => xdpDemoMain_erases strerror) ticks
    rw [xdpDemoMain, parsed]
  · intro console
    refine Platform.inSystem_of_erases console (fun rejection parsed => ?_)
      (fun accepted => xdpAppIntegrationExampleMain_erases strerror) ticks
    rw [xdpAppIntegrationExampleMain, parsed]

end XdpExperiment

import XdpExperiment.Executables

/-!
# Programs in the whole system

What a program prints goes to the state of its handler, which prints as well. Since libbpf, the
kernel and the processors do not look at that state, executions of either program are executions of
a monitor in the surroundings it is verified in.
-/

namespace XdpExperiment

open Bytes Interaction

variable {ι σ : Type}

namespace System

/-- The system without the state of the handler. -/
def forget (system : System ι σ) : System ι Unit where
  handlerInstalled := system.handlerInstalled
  stopMonitoringRequested := system.stopMonitoringRequested
  terminated := system.terminated
  attached := system.attached
  machine := system.machine.forget

@[simp] theorem world_forget (host : Endian) (system : System ι σ) :
    system.forget.world host = system.world host := rfl

variable [DecidableEq ι]

theorem move_forget (host : Endian) (handler : PacketHandler σ) (system : System ι σ)
    (step : Move ι) :
    (system.move host handler step).forget = system.forget.move host silentHandler step := by
  have machine : (system.forget.machine.step host silentHandler step).getD
      system.forget.machine =
        ((system.machine.step host handler step).getD system.machine).forget := by
    change (system.machine.forget.step host silentHandler step).getD system.machine.forget = _
    rw [Machine.step_forget host handler]
    cases system.machine.step host handler step <;> rfl
  simp only [move, machine]
  rfl

theorem after_forget (host : Endian) (handler : PacketHandler σ) (system : System ι σ)
    (event : Event signature (Activity ι)) :
    (system.after host handler event).forget = system.forget.after host silentHandler event := by
  cases event with
  | external activity =>
      cases activity with
      | signal signal => rfl
      | receive ifindex mode cpu frame =>
          simp only [after]
          have same : system.forget.captures ifindex mode = system.captures ifindex mode := rfl
          rw [same]
          split
          · exact move_forget host handler system _
          · rfl
      | _ => exact move_forget host handler system _
  | call call result =>
      cases call with
      | ringBufferPoll ring timeout => exact move_forget host handler system _
      | _ => rfl

end System

/-! ## Printing -/

/-- What a program's own methods, and printing, do to the state of its handler. -/
structure Console (Method σ : Type) where
  printf : String → σ → σ
  method : Method → σ → σ

namespace System

variable {Method : Type}

def setHandlerState (system : System ι σ) (state : σ) : System ι σ :=
  { system with machine := { system.machine with handlerState := state } }

/-- State after the program did something inside of its process. -/
def performed (console : Console Method σ) (system : System ι σ) : Local Method → System ι σ
  | .errno => system
  | .printf text => system.setHandlerState (console.printf text system.machine.handlerState)
  | .fprintf _ => system
  | .method method => system.setHandlerState (console.method method system.machine.handlerState)

theorem performed_forget (console : Console Method σ) (system : System ι σ)
    (action : Local Method) : (system.performed console action).forget = system.forget := by
  cases action <;> rfl

/-- What comes back from within the process. -/
def localResult (reply : Reply) : (action : Local Method) → action.Result
  | .errno => reply.code
  | .printf _ => ()
  | .fprintf _ => ()
  | .method _ => ()

variable [DecidableEq ι]

/-- The system as the environment of a whole program. -/
abbrev processEnvironment (host : Endian) (handler : PacketHandler σ) (console : Console Method σ)
    (foreign : Int → XdpMode → Option Nat) (start : σ) :
    Environment (processSignature Method) (Activity ι) where
  State := System ι σ
  initial := initial foreign start
  Reply := Reply
  respond := fun system op reply => match op with
    | .inl call => (system.world host).respond call reply
    | .inr action => if system.terminated then none else some (localResult reply action)
  after := fun system event => match event with
    | .external activity => system.after host handler (.external activity)
    | .call (.inl call) result => system.after host handler (.call call result)
    | .call (.inr action) _ => system.performed console action

variable {host : Endian} {handler : PacketHandler σ} {console : Console Method σ}
variable {foreign : Int → XdpMode → Option Nat} {start : σ}

/-- The surroundings of the monitor are a correct abstraction of what a program runs in. -/
theorem processEnvironment_refines (host : Endian) (handler : PacketHandler σ)
    (console : Console Method σ) (foreign : Int → XdpMode → Option Nat) (start : σ) :
    Refines (processEnvironment host handler console foreign start :
        Environment (processSignature Method) (Activity ι)).erase
      (World.booted foreign).environment
      (fun system world => LooksLike host silentHandler () system.forget world) where
  initial := ⟨rfl, Machine.initial_invariant⟩
  call := by
    intro system world call reply result looks answer
    obtain ⟨actions, reply', answer', still⟩ :=
      (environment_refines host silentHandler foreign ()).call looks answer
    refine ⟨actions, reply', answer', ?_⟩
    change LooksLike host silentHandler () (System.after host handler _ _).forget _
    rw [after_forget]
    exact still
  external := by
    intro system world action looks
    cases action with
    | inl activity =>
        obtain ⟨actions, still⟩ :=
          (environment_refines host silentHandler foreign ()).external activity looks
        refine ⟨actions, ?_⟩
        change LooksLike host silentHandler () (System.after host handler _ _).forget _
        rw [after_forget]
        exact still
    | inr further =>
        refine ⟨[], ?_⟩
        change LooksLike host silentHandler () (System.performed _ _ _).forget _
        rw [performed_forget]
        exact looks

end System
end XdpExperiment

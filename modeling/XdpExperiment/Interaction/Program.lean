import Mathlib.Data.List.Induction
import Mathlib.Tactic.Common

/-!
# Interactive programs

A sequential program is a tree of external calls with one kind of loop, a loop whose every round
starts with a call. The environment answers the calls and may also act on its own between any two
of them. A configuration is a residual program together with the trace of everything that
happened; the state of the environment is a function of the trace.
-/

namespace Interaction

/-- The external calls a program can make, with the type of each call's result. -/
structure Signature where
  /-- Calls, their arguments included. -/
  Op : Type
  /-- What a call returns. -/
  Result : Op → Type

/-- A sequential program over a signature of external calls. -/
inductive Program (sig : Signature) : Type → Type 1
  /-- Return without a further call. -/
  | done {α : Type} (value : α) : Program sig α
  /-- Make one call and continue with its result. -/
  | call {α : Type} (op : sig.Op) (next : sig.Result op → Program sig α) : Program sig α
  /-- Make `op` and run `body` on its result, again and again while `body` returns `true`. -/
  | loop {α : Type} (op : sig.Op) (body : sig.Result op → Program sig Bool)
      (next : Program sig α) : Program sig α

namespace Program

variable {sig : Signature} {α β γ : Type}

/-- Sequential composition. -/
def bind : Program sig α → (α → Program sig β) → Program sig β
  | .done value, f => f value
  | .call op next, f => .call op fun result => (next result).bind f
  | .loop op body next, f => .loop op body (next.bind f)

instance : Monad (Program sig) where
  pure := .done
  bind := bind

/-- A single call, returning its result. -/
def perform (op : sig.Op) : Program sig (sig.Result op) := .call op .done

/-- Repeat `op` followed by `body` until `body` returns `false`. -/
def repeatWhile (op : sig.Op) (body : sig.Result op → Program sig Bool) : Program sig Unit :=
  .loop op body (.done ())

@[simp] theorem pure_eq (value : α) : (pure value : Program sig α) = .done value := rfl

@[simp] theorem bind_eq (program : Program sig α) (f : α → Program sig β) :
    program >>= f = program.bind f := rfl

@[simp] theorem bind_done (value : α) (f : α → Program sig β) :
    (Program.done value : Program sig α).bind f = f value := rfl

@[simp] theorem bind_call (op : sig.Op) (next : sig.Result op → Program sig α)
    (f : α → Program sig β) :
    (Program.call op next).bind f = .call op fun result => (next result).bind f := rfl

@[simp] theorem bind_loop (op : sig.Op) (body : sig.Result op → Program sig Bool)
    (next : Program sig α) (f : α → Program sig β) :
    (Program.loop op body next).bind f = .loop op body (next.bind f) := rfl

theorem bind_ite (condition : Prop) [Decidable condition] (program program' : Program sig α)
    (f : α → Program sig β) :
    (if condition then program else program').bind f =
      if condition then program.bind f else program'.bind f := by
  split <;> rfl

theorem bind_assoc (program : Program sig α) (f : α → Program sig β) (g : β → Program sig γ) :
    (program.bind f).bind g = program.bind fun value => (f value).bind g := by
  induction program with
  | done value => rfl
  | call op next ih => simp only [bind_call, ih]
  | loop op body next _ ih => simp only [bind_loop, ih]

/-- Continue a loop for another round, or leave it. -/
def again (op : sig.Op) (body : sig.Result op → Program sig Bool) (next : Program sig α)
    (continues : Bool) : Program sig α :=
  if continues then .loop op body next else next

theorem again_bind (op : sig.Op) (body : sig.Result op → Program sig Bool) (next : Program sig α)
    (continues : Bool) (f : α → Program sig β) :
    (again op body next continues).bind f = again op body (next.bind f) continues := by
  cases continues <;> rfl

/-- The call a program waits for and what it does with the result; `none` once it returned. -/
def await : Program sig α → Option ((op : sig.Op) × (sig.Result op → Program sig α))
  | .done _ => none
  | .call op next => some ⟨op, next⟩
  | .loop op body next => some ⟨op, fun result => (body result).bind (again op body next)⟩

@[simp] theorem await_done (value : α) : (Program.done value : Program sig α).await = none := rfl

@[simp] theorem await_call (op : sig.Op) (next : sig.Result op → Program sig α) :
    (Program.call op next).await = some ⟨op, next⟩ := rfl

@[simp] theorem await_loop (op : sig.Op) (body : sig.Result op → Program sig Bool)
    (next : Program sig α) :
    (Program.loop op body next).await =
      some ⟨op, fun result => (body result).bind (again op body next)⟩ := rfl

theorem await_eq_none_iff {program : Program sig α} :
    program.await = none ↔ ∃ value, program = .done value := by
  cases program <;> simp

/-- A waiting program still waits for the same call after composition. -/
theorem await_bind {program : Program sig α} {op : sig.Op} {next : sig.Result op → Program sig α}
    (waits : program.await = some ⟨op, next⟩) (f : α → Program sig β) :
    (program.bind f).await = some ⟨op, fun result => (next result).bind f⟩ := by
  cases program with
  | done value => simp at waits
  | call op' next' =>
      cases waits
      rfl
  | loop op' body next' =>
      cases waits
      simp only [bind_loop, await_loop, bind_assoc, again_bind]

end Program

/-- What can be observed of an execution: a completed call, or an action of the environment. -/
inductive Event (sig : Signature) (External : Type)
  | call (op : sig.Op) (result : sig.Result op)
  | external (action : External)

/-- The other side of an execution. Nondeterminism is in the replies: whatever reply is offered,
`respond` makes of it a result that is possible in the current state, or none. -/
structure Environment (sig : Signature) (External : Type) where
  /-- State of everything outside the program. -/
  State : Type
  /-- State before the first event. -/
  initial : State
  /-- Replies the environment may offer to whichever call is waiting. -/
  Reply : Type
  /-- Result of a call in a state, when an answer is possible there. -/
  respond : State → (op : sig.Op) → Reply → Option (sig.Result op)
  /-- State after an event. -/
  after : State → Event sig External → State

namespace Environment

variable {sig : Signature} {External : Type} (env : Environment sig External)

/-- State of the environment after a trace. -/
def stateAfter (trace : List (Event sig External)) : env.State :=
  trace.foldl env.after env.initial

@[simp] theorem stateAfter_nil : env.stateAfter [] = env.initial := rfl

@[simp] theorem stateAfter_append_singleton (trace : List (Event sig External))
    (event : Event sig External) :
    env.stateAfter (trace ++ [event]) = env.after (env.stateAfter trace) event := by
  simp [stateAfter]

theorem stateAfter_append (front back : List (Event sig External)) :
    env.stateAfter (front ++ back) = back.foldl env.after (env.stateAfter front) :=
  List.foldl_append

end Environment

/-- One move of the environment. -/
inductive Tick (Reply External : Type)
  /-- Offer a reply to the waiting call. -/
  | reply (reply : Reply)
  /-- Act on its own. -/
  | external (action : External)

/-- A residual program and the trace that led to it. -/
structure Config (sig : Signature) (External α : Type) where
  /-- What remains to be executed. -/
  thread : Program sig α
  /-- Events so far, oldest first. -/
  trace : List (Event sig External)

namespace Config

variable {sig : Signature} {External : Type} {env : Environment sig External} {α β : Type}

/-- Start of a program. -/
def start (External : Type) (program : Program sig α) : Config sig External α :=
  { thread := program, trace := [] }

/-- One step of an execution. A program that returned takes no further step, and a reply the
environment cannot make is no step. -/
def step (env : Environment sig External) (config : Config sig External α) :
    Tick env.Reply External → Config sig External α
  | .reply reply =>
      match config.thread.await with
      | none => config
      | some ⟨op, next⟩ =>
          match env.respond (env.stateAfter config.trace) op reply with
          | none => config
          | some result =>
              { thread := next result, trace := config.trace ++ [.call op result] }
  | .external action =>
      match config.thread.await with
      | none => config
      | some _ => { config with trace := config.trace ++ [.external action] }

/-- Execute a schedule of moves. -/
def run (env : Environment sig External) (config : Config sig External α)
    (ticks : List (Tick env.Reply External)) : Config sig External α :=
  ticks.foldl (step env) config

@[simp] theorem run_nil (config : Config sig External α) : config.run env [] = config := rfl

@[simp] theorem run_cons (config : Config sig External α) (tick : Tick env.Reply External)
    (ticks : List (Tick env.Reply External)) :
    config.run env (tick :: ticks) = (config.step env tick).run env ticks := rfl

theorem run_append (config : Config sig External α) (front back : List (Tick env.Reply External)) :
    config.run env (front ++ back) = (config.run env front).run env back :=
  List.foldl_append

@[simp] theorem step_done (value : α) (trace : List (Event sig External))
    (tick : Tick env.Reply External) :
    ({ thread := .done value, trace } : Config sig External α).step env tick =
      { thread := .done value, trace } := by
  cases tick <;> rfl

@[simp] theorem run_done (value : α) (trace : List (Event sig External))
    (ticks : List (Tick env.Reply External)) :
    ({ thread := .done value, trace } : Config sig External α).run env ticks =
      { thread := .done value, trace } := by
  induction ticks with
  | nil => rfl
  | cons tick ticks ih => rw [run_cons, step_done, ih]

/-- Every step keeps the program or hands the result of the awaited call to it. -/
theorem step_cases (config : Config sig External α) (tick : Tick env.Reply External) :
    config.step env tick = config ∨
      (∃ op next reply result,
        tick = .reply reply ∧
        config.thread.await = some ⟨op, next⟩ ∧
        env.respond (env.stateAfter config.trace) op reply = some result ∧
        config.step env tick =
          { thread := next result, trace := config.trace ++ [.call op result] }) ∨
      ∃ action, tick = .external action ∧ config.thread.await ≠ none ∧
        config.step env tick = { config with trace := config.trace ++ [.external action] } := by
  rcases waits : config.thread.await with _ | ⟨op, next⟩
  · left
    cases tick <;> simp [step, waits]
  · cases tick with
    | external action =>
        right; right
        exact ⟨action, rfl, by simp, by simp [step, waits]⟩
    | reply reply =>
        cases answer : env.respond (env.stateAfter config.trace) op reply with
        | none =>
            left
            simp [step, waits, answer]
        | some result =>
            right; left
            exact ⟨op, next, reply, result, rfl, rfl, answer, by simp [step, waits, answer]⟩

/-- While the first part of a composition has not returned, the composition steps as it does. -/
theorem step_bind {program : Program sig α} {trace : List (Event sig External)}
    (waiting : program.await ≠ none) (f : α → Program sig β) (tick : Tick env.Reply External) :
    (Config.mk (program.bind f) trace).step env tick =
      { thread := ((Config.mk program trace).step env tick).thread.bind f
        trace := ((Config.mk program trace).step env tick).trace } := by
  rcases waits : program.await with _ | ⟨op, next⟩
  · exact absurd waits waiting
  · have composed := Program.await_bind waits f
    cases tick with
    | external action => simp [step, waits, composed]
    | reply reply =>
        cases answer : env.respond (env.stateAfter trace) op reply <;>
          simp [step, waits, composed, answer]

/-- An execution of a composition is an execution of its first part, or a completed one followed
by an execution of the second part. -/
theorem run_bind (program : Program sig α) (f : α → Program sig β)
    (trace : List (Event sig External)) (ticks : List (Tick env.Reply External)) :
    ((Config.mk program trace).run env ticks).thread.await ≠ none ∧
        (Config.mk (program.bind f) trace).run env ticks =
          { thread := ((Config.mk program trace).run env ticks).thread.bind f
            trace := ((Config.mk program trace).run env ticks).trace } ∨
      ∃ front back value reached,
        ticks = front ++ back ∧
        (Config.mk program trace).run env front = { thread := .done value, trace := reached } ∧
        (Config.mk (program.bind f) trace).run env ticks =
          (Config.mk (f value) reached).run env back := by
  induction ticks generalizing program trace with
  | nil =>
      by_cases waiting : program.await = none
      · obtain ⟨value, rfl⟩ := Program.await_eq_none_iff.mp waiting
        exact .inr ⟨[], [], value, trace, rfl, rfl, rfl⟩
      · exact .inl ⟨waiting, rfl⟩
  | cons tick ticks ih =>
      by_cases waiting : program.await = none
      · obtain ⟨value, rfl⟩ := Program.await_eq_none_iff.mp waiting
        exact .inr ⟨[], tick :: ticks, value, trace, rfl, rfl, rfl⟩
      · rw [run_cons, run_cons, step_bind waiting f tick]
        rcases ih ((Config.mk program trace).step env tick).thread
            ((Config.mk program trace).step env tick).trace with
          ⟨still, same⟩ | ⟨front, back, value, reached, rfl, returned, rest⟩
        · exact .inl ⟨still, same⟩
        · exact .inr ⟨tick :: front, back, value, reached, rfl, returned, rest⟩

end Config
end Interaction

import XdpExperiment.Interaction.Trace

/-!
# Refinement between environments

An environment refines another one if every answer it gives is also possible there and the states
stay related. One action of the refined environment may be several actions of the other one, or
none. No program can tell the two apart: each of its executions in the first environment is one in
the second, up to the actions of the environment.
-/

namespace Interaction

variable {sig : Signature} {External External' : Type} {α : Type}

/-- The completed calls of a trace, among actions of another environment. -/
def callsAs (External' : Type) (trace : List (Event sig External)) :
    List (Event sig External') :=
  trace.filterMap fun event => match event with
    | .call op result => some (.call op result)
    | .external _ => none

@[simp] theorem callsAs_nil : callsAs External' ([] : List (Event sig External)) = [] := rfl

@[simp] theorem callsAs_append (front back : List (Event sig External)) :
    callsAs External' (front ++ back) = callsAs External' front ++ callsAs External' back :=
  List.filterMap_append

@[simp] theorem callsAs_call (op : sig.Op) (result : sig.Result op)
    (trace : List (Event sig External)) :
    callsAs External' (.call op result :: trace) = .call op result :: callsAs External' trace := rfl

@[simp] theorem callsAs_external (action : External) (trace : List (Event sig External)) :
    callsAs External' (.external action :: trace) = callsAs External' trace := rfl

theorem mem_callsAs {op : sig.Op} {result : sig.Result op} {trace : List (Event sig External)} :
    .call op result ∈ callsAs External' trace ↔ .call op result ∈ trace := by
  induction trace with
  | nil => simp
  | cons event trace ih => cases event <;> simp [ih]

@[simp] theorem callsAs_map_external (actions : List External) :
    callsAs External' (actions.map fun action => (.external action : Event sig External)) = [] := by
  induction actions with
  | nil => rfl
  | cons action actions ih => simpa using ih

@[simp] theorem calls_map_external (actions : List External) :
    calls (actions.map fun action => (.external action : Event sig External)) = [] := by
  induction actions with
  | nil => rfl
  | cons action actions ih => simpa using ih

/-- A waiting program waits on while the environment acts. -/
theorem Config.run_external {env : Environment sig External} {program : Program sig α}
    (waiting : program.await ≠ none) (trace : List (Event sig External))
    (actions : List External) :
    (Config.mk program trace).run env (actions.map .external) =
      { thread := program, trace := trace ++ actions.map .external } := by
  obtain ⟨⟨op, next⟩, waits⟩ := Option.ne_none_iff_exists'.mp waiting
  induction actions generalizing trace with
  | nil => simp
  | cons action actions ih =>
      have step : (Config.mk program trace).step env (.external action) =
          { thread := program, trace := trace ++ [.external action] } := by
        simp only [Config.step, waits]
      rw [List.map_cons, Config.run_cons, step, ih]
      simp

/-- The environment, as long as it stays inside of `allowed`: an answer that would lead out of it is
not given. -/
abbrev Environment.upTo (env : Environment sig External) (allowed : env.State → Prop)
    [DecidablePred allowed] : Environment sig External where
  State := env.State
  initial := env.initial
  Reply := env.Reply
  respond := fun state op reply =>
    (env.respond state op reply).filter fun result => allowed (env.after state (.call op result))
  after := env.after

@[simp] theorem Environment.stateAfter_upTo (env : Environment sig External)
    (allowed : env.State → Prop) [DecidablePred allowed] (trace : List (Event sig External)) :
    (env.upTo allowed).stateAfter trace = env.stateAfter trace := rfl

theorem Config.step_upTo {env : Environment sig External} {allowed : env.State → Prop}
    [DecidablePred allowed] (config : Config sig External α) (tick : Tick env.Reply External)
    (inside : allowed (env.stateAfter (config.step env tick).trace)) :
    config.step (env.upTo allowed) tick = config.step env tick := by
  rcases waits : config.thread.await with _ | ⟨op, next⟩
  · cases tick <;> simp [step, waits]
  · cases tick with
    | external action => simp [step, waits]
    | reply reply =>
        cases answer : env.respond (env.stateAfter config.trace) op reply with
        | none => simp [step, waits, answer]
        | some result =>
            simp only [step, waits, answer, Environment.stateAfter_append_singleton] at inside
            simp [step, waits, answer, Option.filter, inside]

/-- An execution that ends inside has never been outside, if there is no way back. -/
theorem Config.run_upTo {env : Environment sig External} {allowed : env.State → Prop}
    [DecidablePred allowed]
    (noReturn : ∀ state event, allowed (env.after state event) → allowed state)
    (config : Config sig External α) (ticks : List (Tick env.Reply External))
    (inside : allowed (env.stateAfter (config.run env ticks).trace)) :
    config.run (env.upTo allowed) ticks = config.run env ticks := by
  induction ticks using List.reverseRecOn with
  | nil => rfl
  | append_singleton ticks tick ih =>
      have last (env : Environment sig External) (ticks : List (Tick env.Reply External))
          (tick : Tick env.Reply External) :
          config.run env (ticks ++ [tick]) = (config.run env ticks).step env tick :=
        Config.run_append ..
      rw [last env] at inside ⊢
      have before : allowed (env.stateAfter (config.run env ticks).trace) := by
        rcases (config.run env ticks).step_cases tick with
          same | ⟨_, _, _, _, -, -, -, same⟩ | ⟨_, -, -, same⟩
        · rwa [same] at inside
        · rw [same, Environment.stateAfter_append_singleton] at inside
          exact noReturn _ _ inside
        · rw [same, Environment.stateAfter_append_singleton] at inside
          exact noReturn _ _ inside
      rw [last (env.upTo allowed), ih before]
      exact step_upTo _ tick inside

/-- What `concrete` does, `abstract` can do as well, and related states stay related. Before the
other environment answers a call it may have to act. -/
structure Refines (concrete : Environment sig External) (abstract : Environment sig External')
    (related : concrete.State → abstract.State → Prop) : Prop where
  initial : related concrete.initial abstract.initial
  call : ∀ {state state' op reply result}, related state state' →
    concrete.respond state op reply = some result →
      ∃ (actions : List External') (reply' : abstract.Reply),
        abstract.respond ((actions.map .external).foldl abstract.after state') op reply' =
          some result ∧
        related (concrete.after state (.call op result))
          (abstract.after ((actions.map .external).foldl abstract.after state')
            (.call op result))
  external : ∀ {state state'} action, related state state' →
    ∃ actions : List External', related (concrete.after state (.external action))
      ((actions.map .external).foldl abstract.after state')

/-- Two executions of one program that the program cannot tell apart. -/
structure SameExecution {concrete : Environment sig External}
    {abstract : Environment sig External'} (related : concrete.State → abstract.State → Prop)
    (config : Config sig External α) (config' : Config sig External' α) : Prop where
  thread : config'.thread = config.thread
  calls : calls config'.trace = callsAs External' config.trace
  state : related (concrete.stateAfter config.trace) (abstract.stateAfter config'.trace)

namespace Refines

variable {concrete : Environment sig External} {abstract : Environment sig External'}
variable {related : concrete.State → abstract.State → Prop}

/-- Actions of the detailed environment are actions of the other one. -/
theorem externals (refines : Refines concrete abstract related) {state : concrete.State}
    {state' : abstract.State} (start : related state state') (actions : List External) :
    ∃ actions' : List External', related ((actions.map .external).foldl concrete.after state)
      ((actions'.map .external).foldl abstract.after state') := by
  induction actions generalizing state state' with
  | nil => exact ⟨[], start⟩
  | cons action actions ih =>
      obtain ⟨first, acted⟩ := refines.external action start
      obtain ⟨rest, still⟩ := ih acted
      refine ⟨first ++ rest, ?_⟩
      rw [List.map_append, List.foldl_append]
      exact still

/-- A step of the detailed execution is some number of steps of the other one. -/
theorem step (refines : Refines concrete abstract related) {config : Config sig External α}
    {config' : Config sig External' α} (same : SameExecution related config config')
    (tick : Tick concrete.Reply External) :
    ∃ ticks : List (Tick abstract.Reply External'),
      SameExecution related (config.step concrete tick) (config'.run abstract ticks) := by
  rcases config.step_cases tick with
    unchanged | ⟨op, next, reply, result, -, waits, answer, stepped⟩ |
      ⟨action, -, waiting, stepped⟩
  · refine ⟨[], ?_⟩
    rwa [unchanged]
  · obtain ⟨actions, reply', answer', still⟩ := refines.call same.state answer
    have waits' : config'.thread.await = some ⟨op, next⟩ := by rw [same.thread, waits]
    have acted : config'.run abstract (actions.map .external) =
        { config' with trace := config'.trace ++ actions.map .external } :=
      Config.run_external (by simp [waits']) config'.trace actions
    rw [← Environment.stateAfter_append] at answer' still
    have step' : (Config.mk config'.thread (config'.trace ++ actions.map .external)).step abstract
        (.reply reply') =
          { thread := next result
            trace := config'.trace ++ actions.map .external ++ [.call op result] } := by
      simp only [Config.step, waits', answer']
    refine ⟨actions.map .external ++ [.reply reply'], ?_⟩
    rw [stepped, Config.run_append, acted, Config.run_cons, Config.run_nil, step']
    constructor
    · rfl
    · simp [same.calls]
    · rw [Environment.stateAfter_append_singleton, Environment.stateAfter_append_singleton]
      exact still
  · obtain ⟨actions, still⟩ := refines.external action same.state
    refine ⟨actions.map .external, ?_⟩
    have waiting' : config'.thread.await ≠ none := by rwa [same.thread]
    have acted : config'.run abstract (actions.map .external) =
        { config' with trace := config'.trace ++ actions.map .external } :=
      Config.run_external waiting' config'.trace actions
    rw [stepped, acted]
    constructor
    · exact same.thread
    · simp [same.calls]
    · rw [Environment.stateAfter_append_singleton, Environment.stateAfter_append]
      exact still

/-- Every detailed execution has a counterpart. -/
theorem run (refines : Refines concrete abstract related) {config : Config sig External α}
    {config' : Config sig External' α} (same : SameExecution related config config')
    (ticks : List (Tick concrete.Reply External)) :
    ∃ ticks' : List (Tick abstract.Reply External'),
      SameExecution related (config.run concrete ticks) (config'.run abstract ticks') := by
  induction ticks generalizing config config' with
  | nil => exact ⟨[], same⟩
  | cons tick ticks ih =>
      obtain ⟨first, stepped⟩ := refines.step same tick
      obtain ⟨rest, final⟩ := ih stepped
      refine ⟨first ++ rest, ?_⟩
      rwa [Config.run_cons, Config.run_append]

theorem run_start (refines : Refines concrete abstract related) (program : Program sig α)
    (ticks : List (Tick concrete.Reply External)) :
    ∃ ticks' : List (Tick abstract.Reply External'),
      SameExecution related ((Config.start External program).run concrete ticks)
        ((Config.start External' program).run abstract ticks') := by
  apply refines.run
  exact ⟨rfl, rfl, refines.initial⟩

/-- Up to where the detailed environment is not an abstract one any more. -/
theorem run_inside {allowed : concrete.State → Prop} [DecidablePred allowed]
    (refines : Refines (concrete.upTo allowed) abstract related)
    (noReturn : ∀ state event, allowed (concrete.after state event) → allowed state)
    {program : Program sig α} {ticks : List (Tick concrete.Reply External)}
    (inside : allowed
      (concrete.stateAfter ((Config.start External program).run concrete ticks).trace)) :
    ∃ ticks' : List (Tick abstract.Reply External'),
      let final := (Config.start External program).run concrete ticks
      let final' := (Config.start External' program).run abstract ticks'
      final'.thread = final.thread ∧ calls final'.trace = callsAs External' final.trace ∧
        related (concrete.stateAfter final.trace) (abstract.stateAfter final'.trace) := by
  obtain ⟨ticks', thread, sameCalls, same⟩ := refines.run_start program ticks
  rw [Config.run_upTo noReturn _ ticks inside] at thread sameCalls same
  exact ⟨ticks', thread, sameCalls, same⟩

/-- What a program ensures about its calls in the abstract environment it ensures in the detailed
one. -/
theorem ensures (refines : Refines concrete abstract related) {program : Program sig α}
    {waiting : sig.Op → List (Event sig External') → Prop}
    {returned : α → List (Event sig External') → Prop}
    (abstractly : Ensures abstract program (fun op trace => waiting op (calls trace))
      (fun value trace => returned value (calls trace)) []) :
    Ensures concrete program (fun op trace => waiting op (callsAs External' trace))
      (fun value trace => returned value (callsAs External' trace)) [] := by
  intro ticks
  obtain ⟨ticks', thread, sameCalls, -⟩ := refines.run_start program ticks
  obtain ⟨whileWaiting, atReturn⟩ := abstractly ticks'
  simp only [Config.start] at thread sameCalls
  rw [thread] at whileWaiting atReturn
  constructor
  · intro op next waits
    rw [← sameCalls]
    exact whileWaiting op next waits
  · intro value returns
    rw [← sameCalls]
    exact atReturn value returns

end Refines
end Interaction

import XdpExperiment.Interaction.Ensures

/-!
# Traces

What a trace says about the program alone is the list of its calls; what it says about the
environment is that every result in it could be given where it was given. This file relates both
to executions, and compares executions of one program in two environments.
-/

namespace Interaction

variable {sig : Signature} {External : Type} {α β : Type}

/-- The completed calls of a trace, without the actions of the environment. -/
def calls (trace : List (Event sig External)) : List (Event sig External) :=
  trace.filter fun event => match event with
    | .call _ _ => true
    | .external _ => false

@[simp] theorem calls_nil : calls ([] : List (Event sig External)) = [] := rfl

@[simp] theorem calls_append (front back : List (Event sig External)) :
    calls (front ++ back) = calls front ++ calls back := List.filter_append ..

@[simp] theorem calls_call (op : sig.Op) (result : sig.Result op)
    (trace : List (Event sig External)) :
    calls (.call op result :: trace) = .call op result :: calls trace := rfl

@[simp] theorem calls_external (action : External) (trace : List (Event sig External)) :
    calls (.external action :: trace) = calls trace := rfl

theorem mem_calls {event : Event sig External} {trace : List (Event sig External)} :
    event ∈ calls trace ↔ event ∈ trace ∧ ∃ op result, event = .call op result := by
  cases event <;> simp [calls]

/-- A call among the calls of a trace is preceded in the trace by the calls before it. -/
theorem filterMap_calls {β : Type*} {select : Event sig External → Option β}
    (blind : ∀ action, select (.external action) = none) (trace : List (Event sig External)) :
    (calls trace).filterMap select = trace.filterMap select := by
  induction trace with
  | nil => rfl
  | cons event trace ih =>
      cases event with
      | call op result => rw [calls_call, List.filterMap_cons, List.filterMap_cons, ih]
      | external action => rw [calls_external, List.filterMap_cons_none (blind action), ih]

theorem exists_split_of_calls {trace before after : List (Event sig External)} {op : sig.Op}
    {result : sig.Result op} (split : calls trace = before ++ .call op result :: after) :
    ∃ front back, trace = front ++ .call op result :: back ∧ calls front = before := by
  obtain ⟨first, second, rfl, rfl, rest⟩ := List.filter_eq_append_iff.mp split
  obtain ⟨between, back, rfl, skipped, -, -⟩ := List.filter_eq_cons_iff.mp rest
  have none : calls between = [] := List.filter_eq_nil_iff.mpr skipped
  refine ⟨first ++ between, back, by simp, ?_⟩
  rw [calls_append, none, List.append_nil]
  rfl

/-! ## Calls made since a point of an execution -/

/-- `trace'` extends `trace`, and exactly the calls `made` happened in between. -/
def Made (made trace trace' : List (Event sig External)) : Prop :=
  ∃ between, trace' = trace ++ between ∧ calls between = made

namespace Made

variable {made made' trace trace' trace'' : List (Event sig External)}

theorem refl (trace : List (Event sig External)) : Made [] trace trace :=
  ⟨[], by simp, rfl⟩

theorem trans (first : Made made trace trace') (second : Made made' trace' trace'') :
    Made (made ++ made') trace trace'' := by
  obtain ⟨between, rfl, rfl⟩ := first
  obtain ⟨between', rfl, rfl⟩ := second
  exact ⟨between ++ between', by simp, by simp⟩

theorem call (since : Made made trace trace') (op : sig.Op) (result : sig.Result op) :
    Made (made ++ [.call op result]) trace (trace' ++ [.call op result]) :=
  since.trans ⟨[.call op result], rfl, rfl⟩

theorem calls_eq (since : Made made trace trace') : calls trace' = calls trace ++ made := by
  obtain ⟨between, rfl, rfl⟩ := since
  simp

theorem stable (made trace : List (Event sig External)) : Stable (Made made trace) := by
  rintro _ action ⟨between, rfl, rfl⟩
  exact ⟨between ++ [.external action], by simp, by simp⟩

end Made

/-- One call in terms of the calls made so far. -/
theorem Ensures.call_made {env : Environment sig External} {op : sig.Op}
    {next : sig.Result op → Program sig α} {returned : α → List (Event sig External) → Prop}
    {made trace trace' : List (Event sig External)} (since : Made made trace trace')
    (continues : ∀ result trace', Made (made ++ [.call op result]) trace trace' →
      Ensures env (next result) (fun _ _ => True) returned trace') :
    Ensures env (.call op next) (fun _ _ => True) returned trace' := by
  refine Ensures.call (Made.stable made trace) (fun reached so_far => ⟨trivial, ?_⟩) since
  intro reply result _
  exact continues result _ (so_far.call op result)

/-- What the last event that `select` picks says, or `initial` when it picks none. -/
def latest {β : Type} (select : Event sig External → Option β) (initial : β)
    (trace : List (Event sig External)) : β :=
  trace.foldl (fun current event => (select event).getD current) initial

section Latest

variable {β : Type} {select : Event sig External → Option β} {initial : β}

@[simp] theorem latest_nil : latest select initial [] = initial := rfl

@[simp] theorem latest_cons (event : Event sig External) (trace : List (Event sig External)) :
    latest select initial (event :: trace) =
      latest select ((select event).getD initial) trace := rfl

@[simp] theorem latest_append (front back : List (Event sig External)) :
    latest select initial (front ++ back) = latest select (latest select initial front) back := by
  simp [latest]

/-- Only the calls matter when `select` looks at nothing else. -/
theorem latest_calls (blind : ∀ action, select (.external action) = none)
    (trace : List (Event sig External)) :
    latest select initial (calls trace) = latest select initial trace := by
  induction trace generalizing initial with
  | nil => rfl
  | cons event trace ih =>
      cases event with
      | call op result => simp [ih]
      | external action => simp [blind, ih]

/-- What is latest was picked at some time, unless nothing ever was. -/
theorem latest_eq_or_exists (trace : List (Event sig External)) :
    latest select initial trace = initial ∨
      ∃ event ∈ trace, select event = some (latest select initial trace) := by
  induction trace using List.reverseRecOn with
  | nil => exact .inl rfl
  | append_singleton trace event ih =>
      rw [latest_append, latest_cons, latest_nil]
      cases picked : select event with
      | some value => exact .inr ⟨event, by simp, picked⟩
      | none =>
          rcases ih with same | ⟨earlier, member, found⟩
          · exact .inl same
          · exact .inr ⟨earlier, List.mem_append_left _ member, found⟩

/-- Events that `select` does not pick change nothing. -/
theorem latest_eq_initial {trace : List (Event sig External)}
    (unpicked : ∀ event ∈ trace, select event = none) : latest select initial trace = initial := by
  induction trace generalizing initial with
  | nil => rfl
  | cons event trace ih =>
      rw [latest_cons, unpicked event List.mem_cons_self]
      exact ih fun event member => unpicked event (List.mem_cons_of_mem _ member)

end Latest

/-! ## Relations between an event and what came before it -/

/-- `holds` relates every element of a list to the elements before it. -/
def AtEach {β : Type} (holds : List β → β → Prop) (events : List β) : Prop :=
  ∀ front event back, events = front ++ event :: back → holds front event

namespace AtEach

variable {β : Type} {holds : List β → β → Prop} {event : β} {front back events : List β}

theorem nil : AtEach holds [] := by
  intro front event back split
  simp at split

theorem cons_iff :
    AtEach holds (event :: events) ↔
      holds [] event ∧ AtEach (fun front => holds (event :: front)) events := by
  constructor
  · intro all
    constructor
    · exact all [] event events rfl
    · rintro front event' back rfl
      exact all (event :: front) event' back rfl
  · rintro ⟨first, rest⟩ front event' back split
    cases front with
    | nil =>
        obtain ⟨rfl, -⟩ := List.cons_eq_cons.mp split
        exact first
    | cons head front =>
        obtain ⟨rfl, splitRest⟩ := List.cons_eq_cons.mp split
        exact rest front event' back splitRest

theorem append_iff :
    AtEach holds (front ++ back) ↔
      AtEach holds front ∧ AtEach (fun middle => holds (front ++ middle)) back := by
  induction front generalizing holds with
  | nil => simp [nil]
  | cons head front ih =>
      rw [List.cons_append, cons_iff, ih, cons_iff, and_assoc]
      rfl

theorem concat_iff :
    AtEach holds (events ++ [event]) ↔ AtEach holds events ∧ holds events event := by
  rw [append_iff, cons_iff, List.append_nil]
  simp [nil]

theorem of_append (all : AtEach holds (front ++ back)) : AtEach holds front :=
  (append_iff.mp all).1

/-- A relation that concerns none of the elements holds at each of them. -/
theorem of_forall_mem (each : ∀ event ∈ events, ∀ front, holds front event) :
    AtEach holds events := by
  rintro front event back rfl
  exact each event (by simp) front

end AtEach

/-! ## Results the environment can give -/

/-- Every call of the trace got a result that the environment could give at that point. -/
def Environment.Admits (env : Environment sig External) (trace : List (Event sig External)) :
    Prop :=
  AtEach (fun front event => ∀ op result, event = .call op result →
    ∃ reply, env.respond (env.stateAfter front) op reply = some result) trace

theorem Config.step_admits {env : Environment sig External} {config : Config sig External α}
    (admits : env.Admits config.trace) (tick : Tick env.Reply External) :
    env.Admits (config.step env tick).trace := by
  rcases config.step_cases tick with
    same | ⟨op, next, reply, result, -, -, answer, same⟩ | ⟨action, -, -, same⟩
  · rwa [same]
  · rw [same]
    refine AtEach.concat_iff.mpr ⟨admits, ?_⟩
    rintro _ _ ⟨⟩
    exact ⟨reply, answer⟩
  · rw [same]
    exact AtEach.concat_iff.mpr ⟨admits, by simp⟩

/-- Whatever the program, executions have admissible traces. -/
theorem Config.run_admits {env : Environment sig External} {config : Config sig External α}
    (admits : env.Admits config.trace) (ticks : List (Tick env.Reply External)) :
    env.Admits (config.run env ticks).trace := by
  induction ticks generalizing config with
  | nil => exact admits
  | cons tick ticks ih => exact ih (Config.step_admits admits tick)

/-! ## Programs that avoid some calls -/

/-- No call of the trace is of the given kind. -/
def Without (kind : sig.Op → Prop) (trace : List (Event sig External)) : Prop :=
  ∀ op result, .call op result ∈ trace → ¬kind op

namespace Without

variable {kind : sig.Op → Prop} {front back : List (Event sig External)}

theorem nil : Without kind ([] : List (Event sig External)) := by
  intro op result member
  simp at member

theorem of_append (without : Without kind (front ++ back)) : Without kind front :=
  fun op result member => without op result (List.mem_append_left _ member)

theorem append (first : Without kind front) (second : Without kind back) :
    Without kind (front ++ back) := by
  intro op result member
  rcases List.mem_append.mp member with member | member
  · exact first op result member
  · exact second op result member

theorem call {op : sig.Op} (result : sig.Result op) (other : ¬kind op) :
    Without kind ([.call op result] : List (Event sig External)) := by
  intro op' result' member
  cases List.mem_singleton.mp member
  exact other

theorem external (action : External) : Without kind [(.external action : Event sig External)] := by
  intro op result member
  simp at member

theorem of_calls {trace : List (Event sig External)} (without : Without kind (calls trace)) :
    Without kind trace :=
  fun op result member => without op result (mem_calls.mpr ⟨member, op, result, rfl⟩)

theorem stable (kind : sig.Op → Prop) : Stable (@Without sig External kind) :=
  fun _ action without => without.append (external action)

end Without

/-- No path of the program makes a call in `avoided`. -/
def Program.Avoids (avoided : sig.Op → Prop) : {α : Type} → Program sig α → Prop
  | _, .done _ => True
  | _, .call op next => ¬avoided op ∧ ∀ result, (next result).Avoids avoided
  | _, .loop op body next =>
      ¬avoided op ∧ (∀ result, (body result).Avoids avoided) ∧ next.Avoids avoided

theorem Program.Avoids.bind {avoided : sig.Op → Prop} {program : Program sig α}
    {f : α → Program sig β} (first : program.Avoids avoided)
    (second : ∀ value, (f value).Avoids avoided) : (program.bind f).Avoids avoided := by
  induction program with
  | done value => exact second value
  | call op next ih => exact ⟨first.1, fun result => ih result (first.2 result) second⟩
  | loop op body next _ ih => exact ⟨first.1, first.2.1, ih first.2.2 second⟩

theorem Program.Avoids.mono {avoided avoided' : sig.Op → Prop} {program : Program sig α}
    (avoids : program.Avoids avoided) (fewer : ∀ op, avoided' op → avoided op) :
    program.Avoids avoided' := by
  induction program with
  | done value => trivial
  | call op next ih =>
      exact ⟨fun bad => avoids.1 (fewer op bad), fun result => ih result (avoids.2 result)⟩
  | loop op body next ihBody ih =>
      exact ⟨fun bad => avoids.1 (fewer op bad), fun result => ihBody result (avoids.2.1 result),
        ih avoids.2.2⟩

/-- A waiting program that avoids some calls waits for another one, and goes on avoiding them. -/
theorem Program.Avoids.await {avoided : sig.Op → Prop} {program : Program sig α}
    (avoids : program.Avoids avoided) {op : sig.Op} {next : sig.Result op → Program sig α}
    (waits : program.await = some ⟨op, next⟩) :
    ¬avoided op ∧ ∀ result, (next result).Avoids avoided := by
  cases program with
  | done value => simp at waits
  | call op' next' =>
      cases waits
      exact avoids
  | loop op' body next' =>
      cases waits
      refine ⟨avoids.1, fun result => (avoids.2.1 result).bind fun continues => ?_⟩
      cases continues
      · exact avoids.2.2
      · exact avoids

/-- A program that avoids some calls makes none of them. -/
theorem Program.Avoids.ensures {env : Environment sig External} {avoided : sig.Op → Prop}
    {program : Program sig α} (avoids : program.Avoids avoided)
    (trace : List (Event sig External)) :
    Ensures env program
      (fun op trace' => ¬avoided op ∧ ∃ between, trace' = trace ++ between ∧
        Without avoided between)
      (fun _ trace' => ∃ between, trace' = trace ++ between ∧ Without avoided between) trace := by
  intro ticks
  suffices reached : ∀ config : Config sig External α, config.thread.Avoids avoided →
      (∃ between, config.trace = trace ++ between ∧ Without avoided between) →
      (config.run env ticks).thread.Avoids avoided ∧
        ∃ between, (config.run env ticks).trace = trace ++ between ∧ Without avoided between by
    obtain ⟨still, between⟩ := reached ⟨program, trace⟩ avoids ⟨[], by simp, .nil⟩
    exact ⟨fun op next waits => ⟨(still.await waits).1, between⟩, fun _ _ => between⟩
  induction ticks with
  | nil => exact fun config still between => ⟨still, between⟩
  | cons tick ticks ih =>
      rintro config still ⟨between, split, clean⟩
      rcases config.step_cases tick with
        same | ⟨op, next, reply, result, -, waits, -, same⟩ | ⟨action, -, -, same⟩
      · rw [Config.run_cons, same]
        exact ih config still ⟨between, split, clean⟩
      · obtain ⟨other, stillNext⟩ := still.await waits
        rw [Config.run_cons, same]
        apply ih _ (stillNext result)
        exact ⟨between ++ [.call op result], by simp [split], clean.append (.call result other)⟩
      · rw [Config.run_cons, same]
        apply ih { config with trace := config.trace ++ [.external action] } still
        exact ⟨between ++ [.external action], by simp [split], clean.append (.external action)⟩

/-! ## What a program can perform -/

/-- From a state, every call of the list can get its result when its turn comes. -/
def Environment.Allows (env : Environment sig External) :
    env.State → List (Event sig External) → Prop
  | _, [] => True
  | state, .call op result :: events =>
      (∃ reply, env.respond state op reply = some result) ∧
        env.Allows (env.after state (.call op result)) events
  | state, .external action :: events => env.Allows (env.after state (.external action)) events

/-- The program can go through the events and then be left with `rest`, if the environment plays
its part. -/
inductive Program.Performs {External : Type} : {α : Type} → Program sig α →
    List (Event sig External) → Program sig α → Prop
  | refl {α : Type} (program : Program sig α) : Performs program [] program
  | call {α : Type} {program : Program sig α} {op : sig.Op} {next : sig.Result op → Program sig α}
      {result : sig.Result op} {events : List (Event sig External)} {rest : Program sig α} :
      program.await = some ⟨op, next⟩ → Performs (next result) events rest →
        Performs program (.call op result :: events) rest
  | external {α : Type} {program : Program sig α} (action : External)
      {events : List (Event sig External)} {rest : Program sig α} :
      program.await ≠ none → Performs program events rest →
        Performs program (.external action :: events) rest

namespace Program.Performs

theorem bind {program : Program sig α} {f : α → Program sig β} {value : α}
    {events events' : List (Event sig External)} {rest : Program sig β}
    (first : program.Performs events (.done value)) (second : (f value).Performs events' rest) :
    (program.bind f).Performs (events ++ events') rest := by
  generalize target : Program.done value = reached at first
  induction first with
  | refl program =>
      subst target
      exact second
  | call waits _ ih => exact .call (Program.await_bind waits f) (ih target)
  | @external program action events rest waiting _ ih =>
      apply Performs.external action _ (ih target)
      obtain ⟨⟨op, next⟩, waits⟩ := Option.ne_none_iff_exists'.mp waiting
      simp [Program.await_bind waits f]

/-- What a program can perform is executed under some schedule if every result is possible. -/
theorem exists_run {env : Environment sig External} {program rest : Program sig α}
    {events : List (Event sig External)} (performs : program.Performs events rest)
    {trace : List (Event sig External)} (allows : env.Allows (env.stateAfter trace) events) :
    ∃ ticks : List (Tick env.Reply External),
      (Config.mk program trace).run env ticks = { thread := rest, trace := trace ++ events } := by
  induction performs generalizing trace with
  | refl program => exact ⟨[], by simp⟩
  | @call program op next result events rest waits _ ih =>
      obtain ⟨⟨reply, answer⟩, later⟩ := allows
      rw [← Environment.stateAfter_append_singleton] at later
      obtain ⟨ticks, runs⟩ := ih later
      refine ⟨.reply reply :: ticks, ?_⟩
      have step : (Config.mk program trace).step env (.reply reply) =
          { thread := next result, trace := trace ++ [.call op result] } := by
        simp only [Config.step, waits, answer]
      rw [Config.run_cons, step, runs, List.append_assoc]
      rfl
  | @external program action events rest waiting _ ih =>
      have later : env.Allows (env.stateAfter (trace ++ [.external action])) events := by
        rw [Environment.stateAfter_append_singleton]
        exact allows
      obtain ⟨ticks, runs⟩ := ih later
      obtain ⟨⟨op, next⟩, waits⟩ := Option.ne_none_iff_exists'.mp waiting
      refine ⟨.external action :: ticks, ?_⟩
      have step : (Config.mk program trace).step env (.external action) =
          { thread := program, trace := trace ++ [.external action] } := by
        simp only [Config.step, waits]
      rw [Config.run_cons, step, runs, List.append_assoc]
      rfl

end Program.Performs

/-! ## One program in two states of its environment -/

/-- The same environment, starting in another state. -/
abbrev Environment.startingIn (env : Environment sig External) (state : env.State) :
    Environment sig External :=
  { env with initial := state }

/-- States that no call of the program tells apart, whatever happens to both. -/
structure Indistinguishable (env : Environment sig External) (avoided : sig.Op → Prop)
    (related : env.State → env.State → Prop) : Prop where
  after : ∀ {state state'} event, related state state' →
    related (env.after state event) (env.after state' event)
  respond : ∀ {state state'} op reply, related state state' → ¬avoided op →
    env.respond state op reply = env.respond state' op reply

namespace Indistinguishable

variable {env : Environment sig External} {avoided : sig.Op → Prop}
variable {related : env.State → env.State → Prop} {state : env.State}

theorem stateAfter (alike : Indistinguishable env avoided related)
    (start : related env.initial state) (trace : List (Event sig External)) :
    related (env.stateAfter trace) ((env.startingIn state).stateAfter trace) := by
  induction trace using List.reverseRecOn with
  | nil => exact start
  | append_singleton trace event ih =>
      rw [Environment.stateAfter_append_singleton, Environment.stateAfter_append_singleton]
      exact alike.after event ih

theorem step_eq (alike : Indistinguishable env avoided related)
    (start : related env.initial state) {config : Config sig External α}
    (avoids : config.thread.Avoids avoided) (tick : Tick env.Reply External) :
    config.step (env.startingIn state) tick = config.step env tick := by
  rcases waits : config.thread.await with _ | ⟨op, next⟩
  · cases tick <;> simp [Config.step, waits]
  · cases tick with
    | external action => simp [Config.step, waits]
    | reply reply =>
        have same : env.respond (env.stateAfter config.trace) op reply =
            env.respond ((env.startingIn state).stateAfter config.trace) op reply :=
          alike.respond op reply (alike.stateAfter start config.trace) (avoids.await waits).1
        simp only [Config.step, waits, same]

/-- A program that avoids the telling calls runs alike from both states. -/
theorem run_eq (alike : Indistinguishable env avoided related)
    (start : related env.initial state) {config : Config sig External α}
    (avoids : config.thread.Avoids avoided) (ticks : List (Tick env.Reply External)) :
    config.run (env.startingIn state) ticks = config.run env ticks := by
  induction ticks generalizing config with
  | nil => rfl
  | cons tick ticks ih =>
      rw [Config.run_cons, Config.run_cons, alike.step_eq start avoids tick]
      apply ih
      rcases config.step_cases tick with
        same | ⟨op, next, reply, result, -, waits, -, same⟩ | ⟨action, -, -, same⟩
      · rwa [same]
      · rw [same]
        exact (avoids.await waits).2 result
      · rwa [same]

end Indistinguishable

/-- Compositions run alike when their first parts do, and so do their second parts from every
point at which the first part can return. -/
theorem Config.run_bind_congr {env : Environment sig External} {state : env.State}
    {program : Program sig α} {f : α → Program sig β} {trace : List (Event sig External)}
    (first : ∀ ticks : List (Tick env.Reply External),
      (Config.mk program trace).run (env.startingIn state) ticks =
        (Config.mk program trace).run env ticks)
    (second : ∀ front value reached,
      (Config.mk program trace).run env front = { thread := .done value, trace := reached } →
        ∀ back : List (Tick env.Reply External),
          (Config.mk (f value) reached).run (env.startingIn state) back =
            (Config.mk (f value) reached).run env back)
    (ticks : List (Tick env.Reply External)) :
    (Config.mk (program.bind f) trace).run (env.startingIn state) ticks =
      (Config.mk (program.bind f) trace).run env ticks := by
  induction ticks generalizing program trace with
  | nil => rfl
  | cons tick ticks ih =>
      by_cases returned : program.await = none
      · obtain ⟨value, rfl⟩ := Program.await_eq_none_iff.mp returned
        exact second [] value trace rfl (tick :: ticks)
      · have sameStep : (Config.mk program trace).step (env.startingIn state) tick =
            (Config.mk program trace).step env tick := first [tick]
        have composed :=
          @Config.step_bind _ _ (env.startingIn state) _ _ _ trace returned f tick
        rw [Config.run_cons, Config.run_cons, composed, Config.step_bind returned f tick, sameStep]
        apply ih
        · intro later
          have continued := first (tick :: later)
          rwa [Config.run_cons, Config.run_cons, sameStep] at continued
        · intro front value reached runs
          exact second (tick :: front) value reached runs

end Interaction

import XdpExperiment.Interaction.Confinement
import XdpExperiment.Interaction.Refinement

/-!
# Erasing calls

A program can make calls that do not decide what it does next, such as those that print. Erasing
them gives a program whose executions are the same but for these calls, which its environment makes
on its own. What is known of the erased program then holds of the program itself.
-/

namespace Interaction

variable {sig extra : Signature} {External External' : Type} {α β γ δ : Type}

/-- What the calls of either of two signatures return. -/
@[reducible]
def Signature.sumResult (sig extra : Signature) : sig.Op ⊕ extra.Op → Type
  | .inl op => sig.Result op
  | .inr op => extra.Result op

/-- The calls of a signature and further ones. -/
abbrev Signature.sum (sig extra : Signature) : Signature where
  Op := sig.Op ⊕ extra.Op
  Result := sig.sumResult extra

namespace Program

/-- A program of the smaller signature makes no further calls. -/
def embed (extra : Signature) : {α : Type} → Program sig α → Program (sig.sum extra) α
  | _, .done value => .done value
  | _, .call op next => @Program.call (sig.sum extra) _ (.inl op) fun result =>
      (next result).embed extra
  | _, .loop op body next => @Program.loop (sig.sum extra) _ (.inl op)
      (fun result => (body result).embed extra) (next.embed extra)

theorem embed_bind (program : Program sig α) (f : α → Program sig β) :
    (program.bind f).embed extra =
      (program.embed extra).bind fun value => (f value).embed extra := by
  induction program with
  | done value => rfl
  | call op next ih => simp only [bind_call, embed, ih]
  | loop op body next _ ih => simp only [bind_loop, embed, ih]

theorem await_embed {program : Program sig α} {op : sig.Op} {next : sig.Result op → Program sig α}
    (waits : program.await = some ⟨op, next⟩) :
    (program.embed extra).await = some ⟨.inl op, fun result => (next result).embed extra⟩ := by
  cases program with
  | done value => cases waits
  | call op' next' =>
      cases waits
      rfl
  | loop op' body leaves =>
      cases waits
      have goesOn (continues : Bool) : (again op body leaves continues).embed extra =
          @again (sig.sum extra) α (.inl op) (fun result => (body result).embed extra)
            (leaves.embed extra) continues := by
        cases continues <;> rfl
      simp only [embed_bind, goesOn]
      rfl

theorem Confined.embed {avoided : sig.Op ⊕ extra.Op → Prop} {returned : α → Prop}
    {program : Program sig α} (confined : program.Confined (fun op => avoided (.inl op)) returned) :
    Confined avoided returned (program.embed extra) := by
  induction program with
  | done value => exact confined
  | call op next ih => exact ⟨confined.1, fun result => ih result (confined.2 result)⟩
  | loop op body next ihBody ih =>
      exact ⟨confined.1, fun result => ihBody result (confined.2.1 result), ih confined.2.2⟩

/-- The second program is the first one without its further calls. Whatever these return, the
program goes on alike, and the two return related values. -/
inductive Erases : {α β : Type} → (α → β → Prop) → Program (sig.sum extra) α → Program sig β → Prop
  | done {α β : Type} {returns : α → β → Prop} {value : α} {value' : β} :
      returns value value' → Erases returns (.done value) (.done value')
  | call {α β : Type} {returns : α → β → Prop} (op : sig.Op)
      {next : sig.Result op → Program (sig.sum extra) α} {next' : sig.Result op → Program sig β} :
      (∀ result, Erases returns (next result) (next' result)) →
        Erases returns (@Program.call (sig.sum extra) α (.inl op) next) (.call op next')
  | further {α β : Type} {returns : α → β → Prop} (op : extra.Op)
      {next : extra.Result op → Program (sig.sum extra) α} {program' : Program sig β} :
      (∀ result, Erases returns (next result) program') →
        Erases returns (@Program.call (sig.sum extra) α (.inr op) next) program'
  | loop {α β : Type} {returns : α → β → Prop} (op : sig.Op)
      {body : sig.Result op → Program (sig.sum extra) Bool}
      {body' : sig.Result op → Program sig Bool} {next : Program (sig.sum extra) α}
      {next' : Program sig β} :
      (∀ result, Erases Eq (body result) (body' result)) → Erases returns next next' →
        Erases returns (@Program.loop (sig.sum extra) α (.inl op) body next) (.loop op body' next')

namespace Erases

theorem bind {returns : α → β → Prop} {returns' : γ → δ → Prop}
    {program : Program (sig.sum extra) α} {program' : Program sig β}
    {f : α → Program (sig.sum extra) γ} {f' : β → Program sig δ}
    (first : Erases returns program program')
    (second : ∀ value value', returns value value' → Erases returns' (f value) (f' value')) :
    Erases returns' (program.bind f) (program'.bind f') := by
  induction first with
  | done related => exact second _ _ related
  | call op _ ih => exact .call op fun result => ih result second
  | further op _ ih => exact .further op fun result => ih result second
  | loop op body _ _ ih => exact .loop op body (ih second)

theorem embed (program : Program sig α) : Erases Eq (program.embed extra) program := by
  induction program with
  | done value => exact .done rfl
  | call op next ih => exact .call op ih
  | loop op body next ihBody ih => exact .loop op ihBody ih

theorem again {returns : α → β → Prop} {op : sig.Op}
    {body : sig.Result op → Program (sig.sum extra) Bool} {body' : sig.Result op → Program sig Bool}
    {next : Program (sig.sum extra) α} {next' : Program sig β}
    (round : ∀ result, Erases Eq (body result) (body' result)) (leaves : Erases returns next next')
    (continues : Bool) :
    Erases returns (@Program.again (sig.sum extra) α (.inl op) body next continues)
      (Program.again op body' next' continues) := by
  cases continues with
  | true => exact .loop op round leaves
  | false => exact leaves

variable {returns : α → β → Prop} {program : Program (sig.sum extra) α} {program' : Program sig β}

/-- A call of the smaller signature is made by both programs. -/
theorem await_inl (erases : Erases returns program program') {op : sig.Op}
    {next : sig.Result op → Program (sig.sum extra) α}
    (waits : program.await = some ⟨.inl op, next⟩) :
    ∃ next', program'.await = some ⟨op, next'⟩ ∧
      ∀ result, Erases returns (next result) (next' result) := by
  cases erases with
  | done related => cases waits
  | call op' continues =>
      cases waits
      exact ⟨_, rfl, continues⟩
  | further op' continues => cases waits
  | loop op' round leaves =>
      cases waits
      refine ⟨_, rfl, fun result => (round result).bind ?_⟩
      rintro continues _ rfl
      exact again round leaves continues

/-- A further call changes nothing for the erased program. -/
theorem await_inr (erases : Erases returns program program') {op : extra.Op}
    {next : extra.Result op → Program (sig.sum extra) α}
    (waits : program.await = some ⟨.inr op, next⟩) (result : extra.Result op) :
    Erases returns (next result) program' := by
  cases erases with
  | done related => cases waits
  | call op' continues => cases waits
  | further op' continues =>
      cases waits
      exact continues result
  | loop op' round leaves => cases waits

theorem of_done {value : α}
    (erases : Erases returns (.done value : Program (sig.sum extra) α) program') :
    ∃ value', program' = .done value' ∧ returns value value' := by
  cases erases with
  | done related => exact ⟨_, rfl, related⟩

end Erases
end Program

/-! ## Executions -/

/-- A further call with its result. -/
abbrev Further (extra : Signature) : Type := (op : extra.Op) × extra.Result op

namespace Event

/-- The same event for the erased program, in whose place the environment makes further calls. -/
def erase : Event (sig.sum extra) External → Event sig (External ⊕ Further extra)
  | .call (.inl op) result => .call op result
  | .call (.inr op) result => .external (.inr ⟨op, result⟩)
  | .external action => .external (.inl action)

def restore : Event sig (External ⊕ Further extra) → Event (sig.sum extra) External
  | .call op result => @Event.call (sig.sum extra) _ (.inl op) result
  | .external (.inr further) => @Event.call (sig.sum extra) _ (.inr further.1) further.2
  | .external (.inl action) => .external action

@[simp] theorem restore_erase (event : Event (sig.sum extra) External) :
    event.erase.restore = event := by
  rcases event with ⟨op | op, result⟩ | action <;> rfl

end Event

/-- The environment of the erased program. -/
abbrev Environment.erase (env : Environment (sig.sum extra) External) :
    Environment sig (External ⊕ Further extra) where
  State := env.State
  initial := env.initial
  Reply := env.Reply
  respond := fun state op => env.respond state (.inl op)
  after := fun state event => env.after state event.restore

theorem Environment.stateAfter_erase (env : Environment (sig.sum extra) External)
    (trace : List (Event (sig.sum extra) External)) :
    env.erase.stateAfter (trace.map Event.erase) = env.stateAfter trace := by
  simp only [Environment.stateAfter, List.foldl_map, Event.restore_erase]

/-- The calls of the smaller signature in a trace, among actions of another environment. -/
def erasedCalls (External' : Type) (trace : List (Event (sig.sum extra) External)) :
    List (Event sig External') :=
  callsAs External' (trace.map Event.erase)

/-- An execution and the corresponding one of the erased program. The latter may have returned
earlier; then the environment is still busy. -/
structure Erased (returns : α → β → Prop) (config : Config (sig.sum extra) External α)
    (config' : Config sig (External ⊕ Further extra) β) : Prop where
  thread : config.thread.Erases returns config'.thread
  trace : ∃ later : List (External ⊕ Further extra),
    config.trace.map Event.erase = config'.trace ++ later.map .external ∧
      (config'.thread.await ≠ none → later = [])

namespace Erased

variable {returns : α → β → Prop} {env : Environment (sig.sum extra) External}
variable {config final : Config (sig.sum extra) External α}
variable {config' : Config sig (External ⊕ Further extra) β}

/-- What the environment does instead of the erased program. -/
theorem act (erased : Erased returns config config')
    (still : final.thread.Erases returns config'.thread) {event : Event (sig.sum extra) External}
    {action : External ⊕ Further extra} (acts : event.erase = .external action)
    (moved : final.trace = config.trace ++ [event]) :
    ∃ ticks : List (Tick env.Reply (External ⊕ Further extra)),
      Erased returns final (config'.run env.erase ticks) := by
  obtain ⟨later, split, waiting⟩ := erased.trace
  by_cases returned : config'.thread.await = none
  · refine ⟨[], still, later ++ [action], ?_, fun waits => absurd returned waits⟩
    simp [moved, acts, split]
  · have acted : config'.run env.erase [.external action] =
        { config' with trace := config'.trace ++ [.external action] } :=
      Config.run_external returned config'.trace [action]
    refine ⟨[.external action], ?_, [], ?_, fun _ => rfl⟩
    · rw [acted]
      exact still
    · rw [acted]
      simp [moved, acts, split, waiting returned]

theorem step (erased : Erased returns config config') (tick : Tick env.Reply External) :
    ∃ ticks : List (Tick env.Reply (External ⊕ Further extra)),
      Erased returns (config.step env tick) (config'.run env.erase ticks) := by
  rcases config.step_cases tick with
    unchanged | ⟨op, next, reply, result, -, waits, answer, stepped⟩ |
      ⟨action, -, waiting, stepped⟩
  · refine ⟨[], ?_⟩
    rwa [unchanged]
  · cases op with
    | inr op =>
        rw [stepped]
        exact erased.act (erased.thread.await_inr waits result) rfl rfl
    | inl op =>
        obtain ⟨next', waits', continues⟩ := erased.thread.await_inl waits
        obtain ⟨later, split, waiting⟩ := erased.trace
        obtain rfl := waiting (by simp [waits'])
        rw [List.map_nil, List.append_nil] at split
        have answer' : env.respond (env.erase.stateAfter config'.trace) (.inl op) reply =
            some result := by
          rw [← split, Environment.stateAfter_erase]
          exact answer
        have stepped' : config'.step env.erase (.reply reply) =
            { thread := next' result, trace := config'.trace ++ [.call op result] } := by
          simp only [Config.step, waits', answer']
        refine ⟨[.reply reply], ?_⟩
        rw [stepped, Config.run_cons, Config.run_nil, stepped']
        refine ⟨continues result, [], ?_, fun _ => rfl⟩
        simp only [List.map_append, split, List.map_nil, List.append_nil]
        rfl
  · rw [stepped]
    exact erased.act erased.thread rfl rfl

/-- Every execution has a counterpart for the erased program. -/
theorem run (erased : Erased returns config config') (ticks : List (Tick env.Reply External)) :
    ∃ ticks' : List (Tick env.Reply (External ⊕ Further extra)),
      Erased returns (config.run env ticks) (config'.run env.erase ticks') := by
  induction ticks generalizing config config' with
  | nil => exact ⟨[], erased⟩
  | cons tick ticks ih =>
      obtain ⟨first, stepped⟩ := erased.step tick
      obtain ⟨rest, ran⟩ := ih stepped
      refine ⟨first ++ rest, ?_⟩
      rwa [Config.run_cons, Config.run_append]

end Erased

/-- In an environment that refines another one, an execution makes the calls of the erased program
in the other one. -/
theorem Refines.run_erased {env : Environment (sig.sum extra) External}
    {abstract : Environment sig External'} {related : env.State → abstract.State → Prop}
    (refines : Refines env.erase abstract related) {returns : α → β → Prop}
    {program : Program (sig.sum extra) α} {program' : Program sig β}
    (erases : program.Erases returns program') (ticks : List (Tick env.Reply External)) :
    ∃ ticks' : List (Tick abstract.Reply External'),
      let final := (Config.start External program).run env ticks
      let final' := (Config.start External' program').run abstract ticks'
      final.thread.Erases returns final'.thread ∧
        calls final'.trace = erasedCalls External' final.trace ∧
        ∃ actions : List External', related (env.stateAfter final.trace)
          (abstract.stateAfter (final'.trace ++ actions.map .external)) := by
  have start : Erased returns (Config.start External program)
      (Config.start (External ⊕ Further extra) program') := ⟨erases, [], rfl, fun _ => rfl⟩
  obtain ⟨ticks₁, erased⟩ := start.run ticks
  obtain ⟨ticks₂, same⟩ := refines.run_start program' ticks₁
  obtain ⟨later, split, -⟩ := erased.trace
  refine ⟨ticks₂, ?_, ?_, ?_⟩
  · rw [same.thread]
    exact erased.thread
  · rw [same.calls, erasedCalls, split, callsAs_append, callsAs_map_external, List.append_nil]
  · obtain ⟨actions, still⟩ := refines.externals same.state later
    refine ⟨actions, ?_⟩
    rw [← Environment.stateAfter_erase, split, Environment.stateAfter_append,
      Environment.stateAfter_append]
    exact still

end Interaction

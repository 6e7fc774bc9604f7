import XdpExperiment.Interaction.Program

/-!
# Safety and partial correctness of interactive programs

`Ensures` states what holds of every reachable configuration of a program: an assertion for each
call it can be found waiting on, and an assertion for every value it can return. The rules follow
the program: return, call, composition and loop. Since the environment may act between any two
calls, each call rule starts from an assertion that survives such actions.
-/

namespace Interaction

variable {sig : Signature} {External : Type} {env : Environment sig External} {α β : Type}

namespace Config

/-- The assertions hold of a configuration: `waiting` while it waits on a call, `returned` once
it has returned. -/
def Meets (config : Config sig External α)
    (waiting : sig.Op → List (Event sig External) → Prop)
    (returned : α → List (Event sig External) → Prop) : Prop :=
  (∀ op next, config.thread.await = some ⟨op, next⟩ → waiting op config.trace) ∧
    ∀ value, config.thread = .done value → returned value config.trace

/-- A composition whose first part still waits meets what the first part meets. -/
theorem Meets.bind {config : Config sig External β}
    {waiting : sig.Op → List (Event sig External) → Prop}
    {returnedFirst : β → List (Event sig External) → Prop}
    {returned : α → List (Event sig External) → Prop}
    (meets : config.Meets waiting returnedFirst) (still : config.thread.await ≠ none)
    (f : β → Program sig α) :
    ({ thread := config.thread.bind f, trace := config.trace } :
      Config sig External α).Meets waiting returned := by
  rcases waits : config.thread.await with _ | ⟨op, next⟩
  · exact absurd waits still
  · have composed := Program.await_bind waits f
    refine ⟨fun op' next' waits' => ?_, fun value returns => ?_⟩
    · rw [composed] at waits'
      cases waits'
      exact meets.1 op next waits
    · change config.thread.bind f = .done value at returns
      rw [returns] at composed
      simp at composed

/-- What is asserted of waiting and of returned configurations alike holds. -/
theorem Meets.always {config : Config sig External α}
    {always : List (Event sig External) → Prop} {returned : α → List (Event sig External) → Prop}
    (meets : config.Meets (fun _ => always) returned)
    (weaken : ∀ value trace, returned value trace → always trace) : always config.trace := by
  rcases waits : config.thread.await with _ | ⟨op, next⟩
  · obtain ⟨value, returns⟩ := Program.await_eq_none_iff.mp waits
    exact weaken value _ (meets.2 value returns)
  · exact meets.1 op next waits

end Config

/-- Every configuration reachable from `program` after `trace` meets the assertions. -/
def Ensures (env : Environment sig External) (program : Program sig α)
    (waiting : sig.Op → List (Event sig External) → Prop)
    (returned : α → List (Event sig External) → Prop) (trace : List (Event sig External)) : Prop :=
  ∀ ticks : List (Tick env.Reply External),
    ((Config.mk program trace).run env ticks).Meets waiting returned

/-- The assertion survives whatever the environment does on its own. -/
def Stable (assertion : List (Event sig External) → Prop) : Prop :=
  ∀ trace action, assertion trace → assertion (trace ++ [.external action])

namespace Ensures

variable {waiting waiting' : sig.Op → List (Event sig External) → Prop}
variable {returned returned' : α → List (Event sig External) → Prop}

theorem mono {program : Program sig α} {trace : List (Event sig External)}
    (ensures : Ensures env program waiting returned trace)
    (weakenWaiting : ∀ op trace, waiting op trace → waiting' op trace)
    (weakenReturned : ∀ value trace, returned value trace → returned' value trace) :
    Ensures env program waiting' returned' trace := by
  intro ticks
  obtain ⟨whileWaiting, atReturn⟩ := ensures ticks
  exact ⟨fun op next waits => weakenWaiting op _ (whileWaiting op next waits),
    fun value returns => weakenReturned value _ (atReturn value returns)⟩

theorem and {program : Program sig α} {trace : List (Event sig External)}
    (left : Ensures env program waiting returned trace)
    (right : Ensures env program waiting' returned' trace) :
    Ensures env program (fun op trace => waiting op trace ∧ waiting' op trace)
      (fun value trace => returned value trace ∧ returned' value trace) trace := by
  intro ticks
  exact ⟨fun op next waits => ⟨(left ticks).1 op next waits, (right ticks).1 op next waits⟩,
    fun value returns => ⟨(left ticks).2 value returns, (right ticks).2 value returns⟩⟩

theorem done {value : α} {trace : List (Event sig External)} (holds : returned value trace) :
    Ensures env (.done value) waiting returned trace := by
  intro ticks
  rw [Config.run_done]
  refine ⟨fun op next waits => by simp at waits, fun other same => ?_⟩
  cases same
  exact holds

/-- One call: the assertion before it is stable, and each possible result is continued. -/
theorem call {op : sig.Op} {next : sig.Result op → Program sig α}
    {before : List (Event sig External) → Prop} (stable : Stable before)
    (step : ∀ trace, before trace → waiting op trace ∧
      ∀ reply result, env.respond (env.stateAfter trace) op reply = some result →
        Ensures env (next result) waiting returned (trace ++ [.call op result]))
    {trace : List (Event sig External)} (holds : before trace) :
    Ensures env (.call op next) waiting returned trace := by
  intro ticks
  induction ticks generalizing trace with
  | nil =>
      refine ⟨fun op' next' waits => ?_, fun value returns => by simp at returns⟩
      cases waits
      exact (step trace holds).1
  | cons tick ticks ih =>
      rw [Config.run_cons]
      rcases Config.step_cases (Config.mk (.call op next) trace) tick with
        same | ⟨op', next', reply, result, -, waits, answer, same⟩ | ⟨action, -, -, same⟩
      · rw [same]
        exact ih holds
      · cases waits
        rw [same]
        exact (step trace holds).2 reply result answer ticks
      · rw [same]
        exact ih (stable trace action holds)

/-- Composition: the first part ensures what the second part needs. -/
theorem bind {program : Program sig β} {f : β → Program sig α}
    {trace : List (Event sig External)}
    (ensures : Ensures env program waiting
      (fun value trace => Ensures env (f value) waiting returned trace) trace) :
    Ensures env (program.bind f) waiting returned trace := by
  intro ticks
  rcases Config.run_bind program f trace ticks with
    ⟨still, same⟩ | ⟨front, back, value, reached, -, returns, same⟩
  · rw [same]
    exact (ensures ticks).bind still f
  · rw [same]
    have reached_ensures := (ensures front).2 value (by rw [returns])
    rw [returns] at reached_ensures
    exact reached_ensures back

/-- A loop: an assertion at its head that is stable and that every round re-establishes. -/
theorem loop {op : sig.Op} {body : sig.Result op → Program sig Bool} {next : Program sig α}
    {head : List (Event sig External) → Prop} (stable : Stable head)
    (round : ∀ trace, head trace → waiting op trace ∧
      ∀ reply result, env.respond (env.stateAfter trace) op reply = some result →
        Ensures env (body result) waiting
          (fun continues trace =>
            if continues then head trace else Ensures env next waiting returned trace)
          (trace ++ [.call op result]))
    {trace : List (Event sig External)} (holds : head trace) :
    Ensures env (.loop op body next) waiting returned trace := by
  -- The rounds left to execute are bounded by the schedule, not by the program.
  intro ticks
  induction bound : ticks.length using Nat.strongRecOn generalizing trace ticks with
  | ind length ih =>
      cases ticks with
      | nil =>
          refine ⟨fun op' next' waits => ?_, fun value returns => by simp at returns⟩
          cases waits
          exact (round trace holds).1
      | cons tick ticks =>
          simp only [List.length_cons] at bound
          rw [Config.run_cons]
          rcases Config.step_cases (Config.mk (.loop op body next) trace) tick with
            same | ⟨op', next', reply, result, -, waits, answer, same⟩ | ⟨action, -, -, same⟩
          · rw [same]
            exact ih ticks.length (by omega) holds ticks rfl
          · cases waits
            rw [same]
            have body_ensures := (round trace holds).2 reply result answer
            rcases Config.run_bind (body result) (Program.again op body next)
                (trace ++ [.call op result]) ticks with
              ⟨still, composed⟩ | ⟨front, back, continues, reached, split, returns, composed⟩
            · rw [composed]
              exact (body_ensures ticks).bind still (Program.again op body next)
            · rw [composed]
              have reached_holds := (body_ensures front).2 continues (by rw [returns])
              rw [returns] at reached_holds
              have shorter := congrArg List.length split
              simp only [List.length_append] at shorter
              cases continues with
              | true => exact ih back.length (by omega) reached_holds back rfl
              | false => exact reached_holds back
          · rw [same]
            exact ih ticks.length (by omega) (stable trace action holds) ticks rfl

end Ensures
end Interaction

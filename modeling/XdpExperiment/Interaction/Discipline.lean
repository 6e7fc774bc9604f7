import XdpExperiment.Interaction.Confinement

/-!
# Call disciplines

A discipline says which calls are allowed after which calls. Whether a program obeys it does not
depend on what the environment does between its calls, so the rules below speak of the history of
calls alone.
-/

namespace Interaction

variable {sig : Signature} {External : Type} {env : Environment sig External} {α β : Type}

/-- What is allowed after some calls. -/
abbrev Discipline (sig : Signature) (External : Type) :=
  List (Event sig External) → sig.Op → Prop

/-- After the calls in `history` the program only makes allowed calls, and what it returns holds of
the calls made by then. -/
def Obeys (env : Environment sig External) (program : Program sig α)
    (allowed : Discipline sig External) (returned : α → List (Event sig External) → Prop)
    (history : List (Event sig External)) : Prop :=
  ∀ trace, calls trace = history →
    Ensures env program (fun op trace => allowed (calls trace) op)
      (fun value trace => returned value (calls trace)) trace

namespace Obeys

variable {allowed : Discipline sig External}
variable {returned returned' : α → List (Event sig External) → Prop}
variable {history : List (Event sig External)}

theorem mono {program : Program sig α} (obeys : Obeys env program allowed returned history)
    (weaken : ∀ value history, returned value history → returned' value history) :
    Obeys env program allowed returned' history :=
  fun trace same => (obeys trace same).mono (fun _ _ isAllowed => isAllowed)
    fun value trace => weaken value (calls trace)

theorem done {value : α} (holds : returned value history) :
    Obeys env (.done value) allowed returned history := by
  rintro trace rfl
  exact .done holds

theorem call {op : sig.Op} {next : sig.Result op → Program sig α} (isAllowed : allowed history op)
    (continues : ∀ result, Obeys env (next result) allowed returned
      (history ++ [.call op result])) :
    Obeys env (.call op next) allowed returned history := by
  intro trace same
  have stable : Stable fun trace : List (Event sig External) => calls trace = history := by
    intro trace action same
    simpa using same
  refine Ensures.call stable (fun reached so_far => ?_) same
  subst so_far
  refine ⟨isAllowed, fun reply result _ => ?_⟩
  exact continues result _ (by simp)

theorem bind {program : Program sig β} {f : β → Program sig α}
    (first : Obeys env program allowed
      (fun value history => Obeys env (f value) allowed returned history) history) :
    Obeys env (program.bind f) allowed returned history := by
  intro trace same
  refine .bind ((first trace same).mono (fun _ _ isAllowed => isAllowed) ?_)
  exact fun value trace second => second trace rfl

/-- A loop: an assertion about the history at its head, which every round re-establishes. -/
theorem loop {op : sig.Op} {body : sig.Result op → Program sig Bool} {next : Program sig α}
    {head : List (Event sig External) → Prop}
    (round : ∀ history, head history → allowed history op ∧
      ∀ result, Obeys env (body result) allowed
        (fun continues history =>
          if continues then head history else Obeys env next allowed returned history)
        (history ++ [.call op result]))
    (holds : head history) : Obeys env (.loop op body next) allowed returned history := by
  rintro trace rfl
  have stable : Stable fun trace : List (Event sig External) => head (calls trace) := by
    intro trace action holds
    simpa using holds
  refine Ensures.loop stable (fun reached atHead => ?_) holds
  obtain ⟨isAllowed, continues⟩ := round (calls reached) atHead
  refine ⟨isAllowed, fun reply result _ => ?_⟩
  refine (continues result _ (by simp)).mono (fun _ _ isAllowed => isAllowed) ?_
  intro goesOn trace after
  cases goesOn with
  | true => exact after
  | false => exact after trace rfl

/-- Confined programs obey if the calls left to them are allowed and keep an assertion. -/
theorem of_confined {avoided : sig.Op → Prop} {kept : List (Event sig External) → Prop}
    (keeps : ∀ history op, kept history → ¬avoided op →
      allowed history op ∧ ∀ result, kept (history ++ [.call op result]))
    {always : α → Prop} {program : Program sig α} (confined : program.Confined avoided always)
    (holds : kept history) :
    Obeys env program allowed (fun value history => always value ∧ kept history) history := by
  induction program generalizing history with
  | done value => exact .done ⟨confined, holds⟩
  | call op next ih =>
      obtain ⟨isAllowed, still⟩ := keeps history op holds confined.1
      exact .call isAllowed fun result => ih result (confined.2 result) (still result)
  | loop op body next ihBody ih =>
      refine .loop (fun history holds => ?_) holds
      obtain ⟨isAllowed, still⟩ := keeps history op holds confined.1
      refine ⟨isAllowed, fun result => (ihBody result (confined.2.1 result) (still result)).mono ?_⟩
      rintro continues history ⟨-, holds⟩
      cases continues with
      | true => exact holds
      | false => exact ih confined.2.2 holds

/-- Every call of an execution, completed or not, is allowed by those before it. -/
theorem run {program : Program sig α} (obeys : Obeys env program allowed returned [])
    (ticks : List (Tick env.Reply External)) :
    AtEach (fun before event => ∀ op result, event = .call op result → allowed before op)
        (calls ((Config.start External program).run env ticks).trace) ∧
      ∀ op next, ((Config.start External program).run env ticks).thread.await = some ⟨op, next⟩ →
        allowed (calls ((Config.start External program).run env ticks).trace) op := by
  have waiting (ticks : List (Tick env.Reply External)) := (obeys [] rfl ticks).1
  refine ⟨?_, waiting ticks⟩
  induction ticks using List.reverseRecOn with
  | nil => exact .nil
  | append_singleton ticks tick ih =>
      have last : (Config.start External program).run env (ticks ++ [tick]) =
          ((Config.start External program).run env ticks).step env tick :=
        Config.run_append ..
      rw [last]
      rcases Config.step_cases ((Config.start External program).run env ticks) tick with
        same | ⟨op, next, reply, result, -, waits, -, same⟩ | ⟨action, -, -, same⟩
      · rwa [same]
      · rw [same, calls_append]
        refine AtEach.concat_iff.mpr ⟨ih, ?_⟩
        rintro op' result' ⟨⟩
        exact waiting ticks op next waits
      · rw [same, calls_append]
        simpa using ih

end Obeys
end Interaction

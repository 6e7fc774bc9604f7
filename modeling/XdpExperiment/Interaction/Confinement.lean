import XdpExperiment.Interaction.Trace

/-!
# Confined programs

A program is confined if no path of it makes certain calls and every path returns certain values.
This depends on the program alone. Along its executions it keeps whatever all other calls keep.
-/

namespace Interaction

variable {sig : Signature} {External : Type} {env : Environment sig External} {α β : Type}

/-- No path of the program makes a call in `avoided`, and each returns a value in `returned`. -/
def Program.Confined (avoided : sig.Op → Prop) : {α : Type} → (α → Prop) → Program sig α → Prop
  | _, returned, .done value => returned value
  | _, returned, .call op next => ¬avoided op ∧ ∀ result, (next result).Confined avoided returned
  | _, returned, .loop op body next =>
      ¬avoided op ∧ (∀ result, (body result).Confined avoided fun _ => True) ∧
        next.Confined avoided returned

/-- The event is no call in `avoided`. -/
def Event.Outside (avoided : sig.Op → Prop) (event : Event sig External) : Prop :=
  ∀ op result, event = .call op result → ¬avoided op

/-- The assertion survives every event but the calls in `avoided`. -/
def Preserves (avoided : sig.Op → Prop) (kept : List (Event sig External) → Prop) : Prop :=
  ∀ trace (event : Event sig External), event.Outside avoided → kept trace → kept (trace ++ [event])

theorem Preserves.stable {avoided : sig.Op → Prop} {kept : List (Event sig External) → Prop}
    (keeps : Preserves avoided kept) : Stable kept := by
  intro trace action holds
  exact keeps trace (.external action) (fun _ _ same => by cases same) holds

theorem Preserves.call {avoided : sig.Op → Prop} {kept : List (Event sig External) → Prop}
    (keeps : Preserves avoided kept) {op : sig.Op} (fine : ¬avoided op) (result : sig.Result op)
    {trace : List (Event sig External)} (holds : kept trace) :
    kept (trace ++ [.call op result]) := by
  refine keeps trace (.call op result) ?_ holds
  rintro _ _ ⟨⟩
  exact fine

theorem Preserves.and {avoided : sig.Op → Prop} {kept kept' : List (Event sig External) → Prop}
    (keeps : Preserves avoided kept) (keeps' : Preserves avoided kept') :
    Preserves avoided fun trace => kept trace ∧ kept' trace :=
  fun trace event outside holds =>
    ⟨keeps trace event outside holds.1, keeps' trace event outside holds.2⟩

namespace Program.Confined

variable {avoided : sig.Op → Prop}

theorem mono {returned returned' : α → Prop} {program : Program sig α}
    (confined : program.Confined avoided returned)
    (weaken : ∀ value, returned value → returned' value) : program.Confined avoided returned' := by
  induction program with
  | done value => exact weaken value confined
  | call op next ih => exact ⟨confined.1, fun result => ih result (confined.2 result) weaken⟩
  | loop op body next _ ih => exact ⟨confined.1, confined.2.1, ih confined.2.2 weaken⟩

theorem bind {first : α → Prop} {returned : β → Prop} {program : Program sig α}
    {f : α → Program sig β} (confined : program.Confined avoided first)
    (continues : ∀ value, first value → (f value).Confined avoided returned) :
    (program.bind f).Confined avoided returned := by
  induction program with
  | done value => exact continues value confined
  | call op next ih => exact ⟨confined.1, fun result => ih result (confined.2 result) continues⟩
  | loop op body next _ ih => exact ⟨confined.1, confined.2.1, ih confined.2.2 continues⟩

theorem of_avoids {program : Program sig α} (avoids : program.Avoids avoided) :
    program.Confined avoided fun _ => True := by
  induction program with
  | done value => trivial
  | call op next ih => exact ⟨avoids.1, fun result => ih result (avoids.2 result)⟩
  | loop op body next ihBody ih =>
      exact ⟨avoids.1, fun result => ihBody result (avoids.2.1 result), ih avoids.2.2⟩

/-- A confined program keeps what the calls that are left to it keep. -/
theorem ensures {returned : α → Prop} {program : Program sig α}
    (confined : program.Confined avoided returned) {kept : List (Event sig External) → Prop}
    (keeps : Preserves avoided kept) {trace : List (Event sig External)} (holds : kept trace) :
    Ensures env program (fun _ => kept) (fun value trace => returned value ∧ kept trace) trace := by
  induction program generalizing trace with
  | done value => exact .done ⟨confined, holds⟩
  | call op next ih =>
      refine Ensures.call keeps.stable (fun reached still => ⟨still, ?_⟩) holds
      intro reply result _
      exact ih result (confined.2 result) (keeps.call confined.1 result still)
  | loop op body next ihBody ih =>
      refine Ensures.loop keeps.stable (fun reached still => ⟨still, ?_⟩) holds
      intro reply result _
      have round := ihBody result (confined.2.1 result)
        (keeps.call confined.1 result still)
      refine round.mono (fun _ _ still => still) ?_
      rintro continues reached ⟨-, still⟩
      cases continues with
      | true => exact still
      | false => exact ih confined.2.2 still

end Program.Confined
end Interaction

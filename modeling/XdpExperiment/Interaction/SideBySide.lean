import Mathlib.Logic.Function.Basic
import XdpExperiment.Interaction.Discipline

/-!
# Programs side by side

Several programs share one environment, in which their calls interleave in any way. To each of them
the others are part of what it runs in, so its part of the shared execution is one of its own
executions, and whatever it is bound to in every environment binds it here.
-/

namespace Interaction

variable {π : Type} {sig : π → Signature} {External : Type} {α : π → Type}

/-- The calls of several programs, each with the one who makes it. -/
abbrev Signature.sigma (sig : π → Signature) : Signature where
  Op := (who : π) × (sig who).Op
  Result := fun op => (sig op.1).Result op.2

/-- Programs in the middle of a shared execution. -/
structure Team (sig : π → Signature) (External : Type) (α : π → Type) where
  /-- What remains of each program. -/
  threads : (who : π) → Program (sig who) (α who)
  /-- Events so far, oldest first. -/
  trace : List (Event (Signature.sigma sig) External)

/-- One move of the environment. -/
inductive TeamTick (π Reply External : Type)
  /-- Offer a reply to the call that one program waits on. -/
  | reply (who : π) (reply : Reply)
  /-- Act on its own. -/
  | external (action : External)

variable [DecidableEq π]

namespace Team

/-- Start of the programs. -/
def start (External : Type) (programs : (who : π) → Program (sig who) (α who)) :
    Team sig External α :=
  { threads := programs, trace := [] }

/-- One step of a shared execution. -/
def step (env : Environment (Signature.sigma sig) External) (team : Team sig External α) :
    TeamTick π env.Reply External → Team sig External α
  | .reply who reply =>
      match (team.threads who).await with
      | none => team
      | some ⟨op, next⟩ =>
          match env.respond (env.stateAfter team.trace) ⟨who, op⟩ reply with
          | none => team
          | some result =>
              { threads := Function.update team.threads who (next result)
                trace := team.trace ++ [@Event.call (Signature.sigma sig) _ ⟨who, op⟩ result] }
  | .external action => { team with trace := team.trace ++ [.external action] }

/-- Execute a schedule of moves. -/
def run (env : Environment (Signature.sigma sig) External) (team : Team sig External α)
    (turns : List (TeamTick π env.Reply External)) : Team sig External α :=
  turns.foldl (step env) team

variable {env : Environment (Signature.sigma sig) External}

theorem run_concat (team : Team sig External α) (turns : List (TeamTick π env.Reply External))
    (turn : TeamTick π env.Reply External) :
    team.run env (turns ++ [turn]) = (team.run env turns).step env turn := by
  simp [run]

/-- Every step changes nothing, hands a result to one program, or is an action of the
environment. -/
theorem step_cases (team : Team sig External α) (turn : TeamTick π env.Reply External) :
    team.step env turn = team ∨
      (∃ who op next reply result,
        (team.threads who).await = some ⟨op, next⟩ ∧
        env.respond (env.stateAfter team.trace) ⟨who, op⟩ reply = some result ∧
        team.step env turn =
          { threads := Function.update team.threads who (next result)
            trace := team.trace ++ [@Event.call (Signature.sigma sig) _ ⟨who, op⟩ result] }) ∨
      ∃ action, team.step env turn =
        { team with trace := team.trace ++ [.external action] } := by
  cases turn with
  | external action => exact .inr (.inr ⟨action, rfl⟩)
  | reply who reply =>
      rcases waits : (team.threads who).await with _ | ⟨op, next⟩
      · left
        simp [step, waits]
      · cases answer : env.respond (env.stateAfter team.trace) ⟨who, op⟩ reply with
        | none =>
            left
            simp [step, waits, answer]
        | some result =>
            right; left
            exact ⟨who, op, next, reply, result, waits, answer, by simp [step, waits, answer]⟩

/-- Every call gets a result that the environment can give. -/
theorem run_admits (programs : (who : π) → Program (sig who) (α who))
    (turns : List (TeamTick π env.Reply External)) :
    env.Admits ((start External programs).run env turns).trace := by
  induction turns using List.reverseRecOn with
  | nil => exact .nil
  | append_singleton turns turn ih =>
      rw [run_concat]
      rcases ((start External programs).run env turns).step_cases turn with
        same | ⟨who, op, next, reply, result, -, answer, same⟩ | ⟨action, same⟩
      · rwa [same]
      · rw [same]
        refine AtEach.concat_iff.mpr ⟨ih, ?_⟩
        rintro _ _ ⟨⟩
        exact ⟨reply, answer⟩
      · rw [same]
        exact AtEach.concat_iff.mpr ⟨ih, by simp⟩

end Team

/-! ## One program's part -/

/-- An event as one of the programs sees it: what others do is done by its environment. -/
def Event.seenBy (who : π) :
    Event (Signature.sigma sig) External →
      Event (sig who) (Event (Signature.sigma sig) External)
  | .call op result =>
      if own : op.1 = who then
        own ▸ (.call op.2 result : Event (sig op.1) (Event (Signature.sigma sig) External))
      else .external (.call op result)
  | .external action => .external (.external action)

namespace Event

variable {who : π}

@[simp] theorem seenBy_own (op : (sig who).Op) (result : (sig who).Result op) :
    seenBy who (@Event.call (Signature.sigma sig) External ⟨who, op⟩ result) = .call op result :=
  dif_pos rfl

theorem seenBy_other {op : (Signature.sigma sig).Op} (other : op.1 ≠ who)
    (result : (Signature.sigma sig).Result op) :
    seenBy who (@Event.call (Signature.sigma sig) External op result) =
      .external (.call op result) :=
  dif_neg other

end Event

/-- What one of the programs runs in. -/
abbrev Environment.seenFrom (env : Environment (Signature.sigma sig) External) (who : π) :
    Environment (sig who) (Event (Signature.sigma sig) External) where
  State := env.State
  initial := env.initial
  Reply := env.Reply
  respond := fun state op reply => env.respond state ⟨who, op⟩ reply
  after := fun state event => match event with
    | .call op result => env.after state (.call ⟨who, op⟩ result)
    | .external event => env.after state event

theorem Environment.after_seenBy (env : Environment (Signature.sigma sig) External) (who : π)
    (state : env.State) (event : Event (Signature.sigma sig) External) :
    (env.seenFrom who).after state (event.seenBy who) = env.after state event := by
  cases event with
  | external action => rfl
  | call op result =>
      by_cases own : op.1 = who
      · subst own
        exact congrArg ((env.seenFrom op.1).after state) (Event.seenBy_own op.2 result)
      · rw [Event.seenBy_other own]

theorem Environment.stateAfter_seenBy (env : Environment (Signature.sigma sig) External) (who : π)
    (trace : List (Event (Signature.sigma sig) External)) :
    (env.seenFrom who).stateAfter (trace.map (Event.seenBy who)) = env.stateAfter trace := by
  induction trace using List.reverseRecOn with
  | nil => rfl
  | append_singleton trace event ih =>
      rw [List.map_append, List.map_singleton, stateAfter_append_singleton,
        stateAfter_append_singleton, ih, env.after_seenBy]

/-- What one of the programs called. -/
def callsOf (who : π) (trace : List (Event (Signature.sigma sig) External)) :
    List (Event (sig who) (Event (Signature.sigma sig) External)) :=
  calls (trace.map (Event.seenBy who))

theorem mem_callsOf {who : π} {trace : List (Event (Signature.sigma sig) External)}
    {op : (sig who).Op} {result : (sig who).Result op} :
    .call op result ∈ callsOf who trace ↔
      @Event.call (Signature.sigma sig) External ⟨who, op⟩ result ∈ trace := by
  constructor
  · intro member
    obtain ⟨event, happened, seen⟩ := List.mem_map.mp (mem_calls.mp member).1
    cases event with
    | external action => cases seen
    | call op' result' =>
        by_cases own : op'.1 = who
        · subst own
          have same := (Event.seenBy_own op'.2 result').symm.trans seen
          cases same
          exact happened
        · rw [Event.seenBy_other own] at seen
          cases seen
  · intro member
    exact mem_calls.mpr ⟨List.mem_map.mpr ⟨_, member, Event.seenBy_own op result⟩, op, result, rfl⟩

/-- A program in its own execution is where it is in the shared one. -/
structure Team.PartOf (who : π)
    (config : Config (sig who) (Event (Signature.sigma sig) External) (α who))
    (team : Team sig External α) : Prop where
  thread : config.thread = team.threads who
  calls : Interaction.calls config.trace = callsOf who team.trace
  /-- While it waits, it has seen everything. -/
  trace : config.thread.await ≠ none → config.trace = team.trace.map (Event.seenBy who)

namespace Team

variable {env : Environment (Signature.sigma sig) External} {who : π}

/-- What happens elsewhere is seen by a program that still waits. -/
theorem PartOf.external {config : Config (sig who) (Event (Signature.sigma sig) External) (α who)}
    {team team' : Team sig External α} (part : PartOf who config team)
    {event : Event (Signature.sigma sig) External}
    (elsewhere : event.seenBy who = .external event) (same : team'.threads who = team.threads who)
    (appended : team'.trace = team.trace ++ [event]) :
    PartOf who (config.step (env.seenFrom who) (.external event)) team' := by
  obtain ⟨thread, sameCalls, trace⟩ := part
  have calls' : callsOf who team'.trace = callsOf who team.trace := by
    simp [callsOf, appended, elsewhere]
  rcases waits : config.thread.await with _ | ⟨op, next⟩
  · simp only [Config.step, waits]
    exact ⟨thread.trans same.symm, sameCalls.trans calls'.symm, fun waiting => absurd waits waiting⟩
  · simp only [Config.step, waits]
    refine ⟨thread.trans same.symm, ?_, fun _ => ?_⟩
    · rw [calls', ← sameCalls]
      simp
    · rw [trace (by simp [waits]), appended]
      simp [elsewhere]

/-- A call of its own is answered to a program as it is in the shared execution. -/
theorem PartOf.call {config : Config (sig who) (Event (Signature.sigma sig) External) (α who)}
    {team : Team sig External α} (part : PartOf who config team) {op : (sig who).Op}
    {next : (sig who).Result op → Program (sig who) (α who)} {reply : env.Reply}
    {result : (sig who).Result op} (waits : (team.threads who).await = some ⟨op, next⟩)
    (answer : env.respond (env.stateAfter team.trace) ⟨who, op⟩ reply = some result) :
    PartOf who (config.step (env.seenFrom who) (.reply reply))
      { threads := Function.update team.threads who (next result)
        trace := team.trace ++ [@Event.call (Signature.sigma sig) _ ⟨who, op⟩ result] } := by
  obtain ⟨thread, sameCalls, trace⟩ := part
  rw [← thread] at waits
  have seen := trace (by simp [waits])
  have answer' : env.respond ((env.seenFrom who).stateAfter config.trace) ⟨who, op⟩ reply =
      some result := by
    rw [seen, env.stateAfter_seenBy]
    exact answer
  have stepped : config.step (env.seenFrom who) (.reply reply) =
      { thread := next result, trace := config.trace ++ [.call op result] } := by
    simp only [Config.step, waits, answer']
  rw [stepped]
  constructor
  · simp
  · simp [callsOf, sameCalls]
  · intro _
    simp [seen]

/-- The part of one program in a shared execution is one of its own executions. -/
theorem run_part (programs : (who : π) → Program (sig who) (α who)) (who : π)
    (turns : List (TeamTick π env.Reply External)) :
    ∃ ticks : List (Tick env.Reply (Event (Signature.sigma sig) External)),
      PartOf who ((Config.start _ (programs who)).run (env.seenFrom who) ticks)
        ((start External programs).run env turns) := by
  induction turns using List.reverseRecOn with
  | nil => exact ⟨[], rfl, rfl, fun _ => rfl⟩
  | append_singleton turns turn ih =>
      obtain ⟨ticks, part⟩ := ih
      have last (tick : Tick env.Reply (Event (Signature.sigma sig) External)) :
          (Config.start _ (programs who)).run (env.seenFrom who) (ticks ++ [tick]) =
            ((Config.start _ (programs who)).run (env.seenFrom who) ticks).step (env.seenFrom who)
              tick := Config.run_append ..
      rw [run_concat]
      rcases ((start External programs).run env turns).step_cases turn with
        same | ⟨other, op, next, reply, result, waits, answer, same⟩ | ⟨action, same⟩
      · exact ⟨ticks, by rwa [same]⟩
      · by_cases own : other = who
        · subst own
          exact ⟨ticks ++ [.reply reply], by rw [last, same]; exact part.call waits answer⟩
        · refine ⟨ticks ++ [.external (.call ⟨other, op⟩ result)], ?_⟩
          rw [last, same]
          exact part.external (Event.seenBy_other own result)
            (Function.update_of_ne (Ne.symm own) ..) rfl
      · refine ⟨ticks ++ [.external (.external action)], ?_⟩
        rw [last, same]
        exact part.external rfl rfl rfl

/-- What a program is bound to everywhere binds it in a shared execution. -/
theorem call_allowed {programs : (who : π) → Program (sig who) (α who)}
    {allowed : Discipline (sig who) (Event (Signature.sigma sig) External)}
    {returned : α who → List (Event (sig who) (Event (Signature.sigma sig) External)) → Prop}
    (obeys : Obeys (env.seenFrom who) (programs who) allowed returned [])
    {turns : List (TeamTick π env.Reply External)}
    {front back : List (Event (Signature.sigma sig) External)} {op : (sig who).Op}
    {result : (sig who).Result op}
    (split : ((start External programs).run env turns).trace =
      front ++ @Event.call (Signature.sigma sig) _ ⟨who, op⟩ result :: back) :
    allowed (callsOf who front) op := by
  obtain ⟨ticks, part⟩ := run_part programs who turns
  have all := (obeys.run ticks).1
  rw [part.calls, split] at all
  refine all (callsOf who front) (.call op result) (callsOf who back) ?_ op result rfl
  simp [callsOf]

end Team
end Interaction

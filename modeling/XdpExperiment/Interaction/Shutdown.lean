import XdpExperiment.Interaction.Erasure

/-!
# Programs that come to an end

A loop goes on for as long as the results of its calls let it. Once the environment only gives
results that make a program leave its loops, the program has a bounded number of calls left,
wherever it is.
-/

namespace Interaction

variable {sig extra : Signature} {External : Type} {α β : Type}

namespace Program

/-- Given a number of calls that it may make, a program has at least `left value` of them left when
it returns a value, as long as the results are allowed. -/
inductive Spends (allowed : (op : sig.Op) → sig.Result op → Prop) {α : Type} (left : α → Nat) :
    Nat → Program sig α → Prop
  | done {bound : Nat} {value : α} : left value ≤ bound → Spends allowed left bound (.done value)
  | wait {bound : Nat} {program : Program sig α} {op : sig.Op}
      {next : sig.Result op → Program sig α} : program.await = some ⟨op, next⟩ →
      (∀ result, allowed op result → Spends allowed left bound (next result)) →
      Spends allowed left (bound + 1) program

namespace Spends

variable {allowed : (op : sig.Op) → sig.Result op → Prop} {left : α → Nat} {left' : β → Nat}
variable {bound bound' : Nat} {program : Program sig α}

theorem mono (spends : program.Spends allowed left bound) (le : bound ≤ bound') :
    program.Spends allowed left bound' := by
  induction spends generalizing bound' with
  | done fits => exact .done (Nat.le_trans fits le)
  | wait waits _ ih =>
      obtain ⟨bound', rfl⟩ := Nat.exists_eq_add_of_le' (Nat.le_of_add_left_le le)
      exact .wait waits fun result fine => ih result fine (Nat.le_of_succ_le_succ le)

theorem bind {f : α → Program sig β} (first : program.Spends allowed left bound)
    (second : ∀ value, (f value).Spends allowed left' (left value)) :
    (program.bind f).Spends allowed left' bound := by
  induction first with
  | done fits => exact (second _).mono fits
  | wait waits _ ih => exact .wait (await_bind waits f) ih

/-- A waiting program has calls left, and one less afterwards. -/
theorem next (spends : program.Spends allowed left bound) {op : sig.Op}
    {next : sig.Result op → Program sig α} (waits : program.await = some ⟨op, next⟩) :
    ∃ rest, bound = rest + 1 ∧
      ∀ result, allowed op result → (next result).Spends allowed left rest := by
  cases spends with
  | done => cases waits
  | wait waits' continues =>
      rw [waits] at waits'
      cases waits'
      exact ⟨_, rfl, continues⟩

theorem again {op : sig.Op} {body : sig.Result op → Program sig Bool} {next : Program sig α}
    (loop : (Program.loop op body next).Spends allowed left bound)
    (leaves : next.Spends allowed left bound) (continues : Bool) :
    (Program.again op body next continues).Spends allowed left bound := by
  cases continues with
  | true => exact loop
  | false => exact leaves

end Spends

/-- Wherever the program is, it does with so many calls from then on. In a round of a loop that is
what the round leaves for the time after it. -/
def Settles (allowed : (op : sig.Op) → sig.Result op → Prop) :
    {α : Type} → (α → Nat) → Nat → Program sig α → Prop
  | _, left, bound, .done value => left value ≤ bound
  | _, left, bound, .call op next => Spends allowed left bound (.call op next) ∧
      ∀ result, (next result).Settles allowed left bound
  | _, left, bound, .loop op body next => (∃ rest ≤ bound,
      Spends allowed left rest (.loop op body next) ∧ Spends allowed left rest next ∧
        ∀ result, (body result).Settles allowed (fun _ => rest) bound) ∧
      next.Settles allowed left bound

namespace Settles

variable {allowed : (op : sig.Op) → sig.Result op → Prop} {left : α → Nat} {left' : β → Nat}
variable {bound bound' : Nat} {program : Program sig α}

theorem spends (settles : program.Settles allowed left bound) :
    program.Spends allowed left bound := by
  cases program with
  | done value => exact .done settles
  | call op next => exact settles.1
  | loop op body next =>
      obtain ⟨⟨rest, fits, loop, -⟩, -⟩ := settles
      exact loop.mono fits

theorem mono (settles : program.Settles allowed left bound) (le : bound ≤ bound') :
    program.Settles allowed left bound' := by
  induction program generalizing bound bound' with
  | done value => exact Nat.le_trans settles le
  | call op next ih => exact ⟨settles.1.mono le, fun result => ih result (settles.2 result) le⟩
  | loop op body next ihBody ih =>
      obtain ⟨⟨rest, fits, loop, leaves, rounds⟩, further⟩ := settles
      exact ⟨⟨rest, Nat.le_trans fits le, loop, leaves,
        fun result => ihBody result (rounds result) le⟩, ih further le⟩

theorem call {op : sig.Op} {next : sig.Result op → Program sig α}
    (continues : ∀ result, (next result).Settles allowed left bound) :
    (Program.call op next).Settles allowed left (bound + 1) :=
  ⟨.wait rfl fun result _ => (continues result).spends,
    fun result => (continues result).mono (Nat.le_succ bound)⟩

theorem bind {f : α → Program sig β} (first : program.Settles allowed left bound)
    (second : ∀ value, (f value).Spends allowed left' (left value))
    (further : ∀ value, (f value).Settles allowed left' bound) :
    (program.bind f).Settles allowed left' bound := by
  induction program with
  | done value => exact further value
  | call op next ih =>
      exact ⟨first.1.bind second, fun result => ih result (first.2 result) second further⟩
  | loop op body next _ ih =>
      obtain ⟨⟨rest, fits, loop, leaves, rounds⟩, settles⟩ := first
      exact ⟨⟨rest, fits, loop.bind second, leaves.bind second, rounds⟩,
        ih settles second further⟩

/-- What remains after a call settles as well, whatever its result. -/
theorem next (settles : program.Settles allowed left bound) {op : sig.Op}
    {next : sig.Result op → Program sig α} (waits : program.await = some ⟨op, next⟩)
    (result : sig.Result op) : (next result).Settles allowed left bound := by
  cases program with
  | done value => cases waits
  | call op' next' =>
      cases waits
      exact settles.2 result
  | loop op' body leaves =>
      cases waits
      obtain ⟨⟨rest, fits, loop, leaving, rounds⟩, further⟩ := settles
      refine (rounds result).bind (loop.again leaving) fun continues => ?_
      cases continues with
      | true => exact ⟨⟨rest, fits, loop, leaving, rounds⟩, further⟩
      | false => exact further

end Settles

/-- A program does with `bound` calls wherever it is, and with `start` of them at its start. -/
structure Ends (allowed : (op : sig.Op) → sig.Result op → Prop) (left : α → Nat)
    (start bound : Nat) (program : Program sig α) : Prop where
  spends : program.Spends allowed left start
  settles : program.Settles allowed left bound

section Ends

variable {allowed : (op : sig.Op) → sig.Result op → Prop} {left : α → Nat} {left' : β → Nat}
variable {start bound : Nat} {program : Program sig α}

theorem Settles.ends (settles : program.Settles allowed left start) (fits : start ≤ bound) :
    program.Ends allowed left start bound :=
  ⟨settles.spends, settles.mono fits⟩

theorem Ends.done {value : α} (fits : left value ≤ start) (within : start ≤ bound) :
    (Program.done value : Program sig α).Ends allowed left start bound :=
  ⟨.done fits, Nat.le_trans fits within⟩

theorem Ends.mono {start' : Nat} (ends : program.Ends allowed left start bound)
    (le : start ≤ start') : program.Ends allowed left start' bound :=
  ⟨ends.spends.mono le, ends.settles⟩

theorem Ends.bind {f : α → Program sig β} (first : program.Ends allowed left start bound)
    (second : ∀ value, (f value).Ends allowed left' (left value) bound) :
    (program.bind f).Ends allowed left' start bound where
  spends := first.spends.bind fun value => (second value).spends
  settles := first.settles.bind (fun value => (second value).spends)
    fun value => (second value).settles

theorem Ends.call {op : sig.Op} {next : sig.Result op → Program sig α}
    (continues : ∀ result, (next result).Ends allowed left start bound) (fits : start + 1 ≤ bound) :
    (Program.call op next).Ends allowed left (start + 1) bound := by
  have spends : (Program.call op next).Spends allowed left (start + 1) :=
    .wait rfl fun result _ => (continues result).spends
  exact ⟨spends, spends.mono fits, fun result => (continues result).settles⟩

/-- A loop that every allowed result makes the program leave. -/
theorem repeatWhile_ends {op : sig.Op} {body : sig.Result op → Program sig Bool} {left : Unit → Nat}
    (leaves : ∀ result, allowed op result → body result = .done false)
    (rounds : ∀ result, (body result).Settles allowed (fun _ => left () + 1) bound)
    (fits : left () + 1 ≤ bound) :
    (repeatWhile op body).Ends allowed left (left () + 1) bound := by
  have spends : (repeatWhile op body).Spends allowed left (left () + 1) := by
    refine .wait rfl fun result fine => ?_
    rw [leaves result fine]
    exact .done (Nat.le_refl _)
  exact ⟨spends, ⟨left () + 1, fits, spends, .done (Nat.le_succ _), rounds⟩,
    Nat.le_of_succ_le fits⟩

end Ends

section Embed

variable {allowed : (op : sig.Op ⊕ extra.Op) → sig.sumResult extra op → Prop}

theorem Spends.embed {left : α → Nat} {bound : Nat} {program : Program sig α}
    (spends : program.Spends (fun op result => allowed (.inl op) result) left bound) :
    @Spends (sig.sum extra) allowed α left bound (program.embed extra) := by
  induction spends with
  | done fits => exact .done fits
  | wait waits _ ih => exact .wait (await_embed waits) ih

/-- A program of the smaller signature settles as before. -/
theorem Settles.embed {left : α → Nat} {bound : Nat} {program : Program sig α}
    (settles : program.Settles (fun op result => allowed (.inl op) result) left bound) :
    @Settles (sig.sum extra) allowed α left bound (program.embed extra) := by
  induction program generalizing bound with
  | done value => exact settles
  | call op next ih => exact ⟨settles.1.embed, fun result => ih result (settles.2 result)⟩
  | loop op body next ihBody ih =>
      obtain ⟨⟨rest, fits, loop, leaves, rounds⟩, further⟩ := settles
      exact ⟨⟨rest, fits, loop.embed, leaves.embed,
        fun result => ihBody result (rounds result)⟩, ih further⟩

end Embed
end Program

/-! ## Executions -/

/-- The move is a reply. -/
def Tick.isReply {Reply : Type} : Tick Reply External → Bool
  | .reply _ => true
  | .external _ => false

namespace Config

variable {env : Environment sig External} {allowed : (op : sig.Op) → sig.Result op → Prop}
variable {calm : env.State → Prop} {left : α → Nat} {bound : Nat}

theorem run_settles {config : Config sig External α}
    (settles : config.thread.Settles allowed left bound) (ticks : List (Tick env.Reply External)) :
    (config.run env ticks).thread.Settles allowed left bound := by
  induction ticks generalizing config with
  | nil => exact settles
  | cons tick ticks ih =>
      rw [run_cons]
      apply ih
      rcases config.step_cases tick with
        same | ⟨op, next, reply, result, -, waits, -, same⟩ | ⟨action, -, -, same⟩
      · rwa [same]
      · rw [same]
        exact settles.next waits result
      · rwa [same]

/-- In a state that is calm from now on, every reply brings the program nearer to its end. -/
theorem run_ends (stays : ∀ state event, calm state → calm (env.after state event))
    (answers : ∀ state op reply, calm state →
      ∃ result, env.respond state op reply = some result ∧ allowed op result)
    {config : Config sig External α} (spends : config.thread.Spends allowed left bound)
    (now : calm (env.stateAfter config.trace)) {ticks : List (Tick env.Reply External)}
    (enough : bound ≤ ticks.countP Tick.isReply) :
    ∃ value, (config.run env ticks).thread = .done value := by
  induction ticks generalizing config bound with
  | nil =>
      obtain rfl := Nat.le_zero.mp enough
      cases waits : config.thread.await with
      | none => exact Program.await_eq_none_iff.mp waits
      | some waiting =>
          obtain ⟨rest, impossible, -⟩ := spends.next waits
          cases impossible
  | cons tick ticks ih =>
      rw [run_cons]
      cases waits : config.thread.await with
      | none =>
          obtain ⟨value, returned⟩ := Program.await_eq_none_iff.mp waits
          obtain ⟨thread, trace⟩ := config
          cases returned
          exact ⟨value, by rw [step_done, run_done]⟩
      | some waiting =>
          obtain ⟨op, next⟩ := waiting
          obtain ⟨rest, rfl, continues⟩ := spends.next waits
          cases tick with
          | external action =>
              have stepped : config.step env (.external action) =
                  { config with trace := config.trace ++ [.external action] } := by
                simp only [step, waits]
              rw [stepped]
              rw [List.countP_cons_of_neg (by simp [Tick.isReply])] at enough
              refine ih spends ?_ enough
              rw [Environment.stateAfter_append_singleton]
              exact stays _ _ now
          | reply reply =>
              obtain ⟨result, answer, fine⟩ := answers _ op reply now
              have stepped : config.step env (.reply reply) =
                  { thread := next result, trace := config.trace ++ [.call op result] } := by
                simp only [step, waits, answer]
              rw [stepped]
              rw [List.countP_cons_of_pos rfl] at enough
              refine ih (continues result fine) ?_ (Nat.le_of_succ_le_succ enough)
              rw [Environment.stateAfter_append_singleton]
              exact stays _ _ now

/-- From every configuration that is reached in a calm state, the program comes to its end. -/
theorem ends_once_calm (stays : ∀ state event, calm state → calm (env.after state event))
    (answers : ∀ state op reply, calm state →
      ∃ result, env.respond state op reply = some result ∧ allowed op result)
    {program : Program sig α} (settles : program.Settles allowed left bound)
    {ticks more : List (Tick env.Reply External)}
    (now : calm (env.stateAfter ((start External program).run env ticks).trace))
    (enough : bound ≤ more.countP Tick.isReply) :
    ∃ value, (((start External program).run env ticks).run env more).thread = .done value :=
  run_ends stays answers
    (@run_settles _ _ _ env _ _ _ (start External program) settles ticks).spends now enough

end Config
end Interaction

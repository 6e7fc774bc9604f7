import Mathlib.Data.List.Induction
import Mathlib.Tactic.Common

/-!
# Queues with reservation

Several producers and one consumer share a queue. A producer first reserves a slot, which fixes its
position, then writes to it and commits it at some later time. The consumer takes the slots in order
and waits at the first one that is not committed.
-/

namespace Reservation

/-- A slot. What it was reserved for is not stored in the queue of a real program. -/
structure Slot (τ α : Type*) where
  purpose : τ
  contents : α
  committed : Bool

structure Queue (τ α : Type*) where
  /-- All slots in the order of reservation, taken ones included. -/
  slots : List (Slot τ α)
  /-- How many slots the consumer has taken. -/
  consumed : Nat

namespace Queue

variable {τ α : Type*}

def empty : Queue τ α := ⟨[], 0⟩

/-- A new slot, with whatever its memory holds. -/
def reserve (queue : Queue τ α) (purpose : τ) (stale : α) : Queue τ α :=
  { queue with slots := queue.slots ++ [⟨purpose, stale, false⟩] }

def write (queue : Queue τ α) (index : Nat) (contents : α) : Queue τ α :=
  { queue with
    slots := queue.slots.modify index fun slot => { slot with contents := contents } }

def commit (queue : Queue τ α) (index : Nat) : Queue τ α :=
  { queue with slots := queue.slots.modify index fun slot => { slot with committed := true } }

/-- The slot that the consumer can take. -/
def next (queue : Queue τ α) : Option (Slot τ α) :=
  queue.slots[queue.consumed]?.filter (·.committed)

def advance (queue : Queue τ α) : Queue τ α := { queue with consumed := queue.consumed + 1 }

/-- The slots that the consumer has taken. -/
def taken (queue : Queue τ α) : List (Slot τ α) := queue.slots.take queue.consumed

/-- What slots were reserved for, in the order of reservation. -/
def purposes (queue : Queue τ α) : List τ := queue.slots.map (·.purpose)

/-- The slot at a position is reserved and not committed. -/
def Open (queue : Queue τ α) (index : Nat) (purpose : τ) (contents : α) : Prop :=
  queue.slots[index]? = some ⟨purpose, contents, false⟩

theorem taken_purposes (queue : Queue τ α) :
    queue.taken.map (·.purpose) = queue.purposes.take queue.consumed := by
  rw [taken, purposes, List.map_take]

theorem purposes_reserve (queue : Queue τ α) (purpose : τ) (stale : α) :
    (queue.reserve purpose stale).purposes = queue.purposes ++ [purpose] := by
  simp [purposes, reserve]

/-- What a slot was reserved for does not change. -/
theorem purposes_modify (queue : Queue τ α) (index : Nat) {change : Slot τ α → Slot τ α}
    (kept : ∀ slot, (change slot).purpose = slot.purpose) :
    purposes { queue with slots := queue.slots.modify index change } = queue.purposes := by
  apply List.ext_getElem?
  intro position
  simp only [purposes, List.getElem?_map, List.getElem?_modify]
  cases queue.slots[position]? with
  | none => rfl
  | some slot => by_cases same : index = position <;> simp [same, kept]

theorem purposes_write (queue : Queue τ α) (index : Nat) (contents : α) :
    (queue.write index contents).purposes = queue.purposes :=
  queue.purposes_modify index fun _ => rfl

theorem purposes_commit (queue : Queue τ α) (index : Nat) :
    (queue.commit index).purposes = queue.purposes :=
  queue.purposes_modify index fun _ => rfl

/-! ## Open slots -/

theorem Open.lt {queue : Queue τ α} {index : Nat} {purpose : τ} {contents : α}
    (isOpen : queue.Open index purpose contents) : index < queue.slots.length := by
  obtain ⟨bound, _⟩ := List.getElem?_eq_some_iff.mp isOpen
  exact bound

theorem open_reserve_iff {queue : Queue τ α} {index : Nat} {purpose added : τ}
    {contents stale : α} :
    (queue.reserve added stale).Open index purpose contents ↔
      queue.Open index purpose contents ∨
        index = queue.slots.length ∧ added = purpose ∧ stale = contents := by
  rw [Open, Open, reserve]
  by_cases old : index < queue.slots.length
  · rw [List.getElem?_append_left old]
    constructor
    · exact .inl
    · rintro (same | ⟨rfl, _⟩)
      · exact same
      · exact absurd old (Nat.lt_irrefl _)
  · rw [List.getElem?_append_right (by omega), List.getElem?_eq_none (by omega : _ ≤ index)]
    by_cases last : index = queue.slots.length
    · subst last
      simp
    · have beyond : index - queue.slots.length ≠ 0 := by omega
      simp [last, beyond]

theorem open_write_iff {queue : Queue τ α} {index written : Nat} {purpose : τ}
    {contents replacement : α} :
    (queue.write written replacement).Open index purpose contents ↔
      (index ≠ written ∧ queue.Open index purpose contents) ∨
        (index = written ∧ replacement = contents ∧ ∃ old, queue.Open index purpose old) := by
  rw [Open, Open, write, List.getElem?_modify]
  by_cases same : written = index
  · subst same
    cases present : queue.slots[written]? with
    | none => simp [Open, present]
    | some slot =>
        obtain ⟨slotPurpose, slotContents, slotCommitted⟩ := slot
        simp [Open, present]
        tauto
  · have other : index ≠ written := fun equal => same equal.symm
    simp [same, other]

theorem open_commit_iff {queue : Queue τ α} {index committed : Nat} {purpose : τ}
    {contents : α} :
    (queue.commit committed).Open index purpose contents ↔
      index ≠ committed ∧ queue.Open index purpose contents := by
  rw [Open, Open, commit, List.getElem?_modify]
  by_cases same : committed = index
  · subst same
    cases queue.slots[committed]? <;> simp
  · have other : index ≠ committed := fun equal => same equal.symm
    simp [same, other]

/-! ## Soundness -/

/-- What is taken was committed, and what is committed is right for its purpose. -/
structure Sound (right : τ → α → Prop) (queue : Queue τ α) : Prop where
  taken_committed : ∀ index < queue.consumed,
    ∃ slot, queue.slots[index]? = some slot ∧ slot.committed = true
  committed_right : ∀ slot ∈ queue.slots, slot.committed = true →
    right slot.purpose slot.contents

variable {right : τ → α → Prop} {queue : Queue τ α}

theorem sound_empty : Sound right (empty : Queue τ α) where
  taken_committed := fun index taken => absurd taken (Nat.not_lt_zero index)
  committed_right := by simp [empty]

theorem Sound.consumed_le (sound : Sound right queue) : queue.consumed ≤ queue.slots.length := by
  by_contra beyond
  obtain ⟨slot, present, _⟩ := sound.taken_committed queue.slots.length (by omega)
  rw [List.getElem?_eq_none (Nat.le_refl _)] at present
  cases present

/-- An open slot lies behind everything that was taken. -/
theorem Sound.consumed_le_of_open (sound : Sound right queue) {index : Nat} {purpose : τ}
    {contents : α} (isOpen : queue.Open index purpose contents) : queue.consumed ≤ index := by
  by_contra before
  obtain ⟨slot, present, committed⟩ := sound.taken_committed index (by omega)
  rw [isOpen] at present
  cases present
  cases committed

theorem Sound.reserve (sound : Sound right queue) (purpose : τ) (stale : α) :
    Sound right (queue.reserve purpose stale) where
  taken_committed := by
    intro index taken
    obtain ⟨slot, present, committed⟩ := sound.taken_committed index taken
    have old : index < queue.slots.length := Nat.lt_of_lt_of_le taken sound.consumed_le
    exact ⟨slot, by rw [Queue.reserve, List.getElem?_append_left old, present], committed⟩
  committed_right := by
    intro slot member committed
    rcases List.mem_append.mp member with old | new
    · exact sound.committed_right slot old committed
    · rw [List.mem_singleton] at new
      subst new
      cases committed

theorem taken_reserve (sound : Sound right queue) (purpose : τ) (stale : α) :
    (queue.reserve purpose stale).taken = queue.taken := by
  rw [taken, Queue.reserve, List.take_append_of_le_length sound.consumed_le]
  rfl

theorem Sound.modify (sound : Sound right queue) {index : Nat} {purpose : τ} {contents : α}
    (isOpen : queue.Open index purpose contents) (change : Slot τ α → Slot τ α)
    (allowed : (change ⟨purpose, contents, false⟩).committed = true →
      right (change ⟨purpose, contents, false⟩).purpose
        (change ⟨purpose, contents, false⟩).contents) :
    Sound right { queue with slots := queue.slots.modify index change } where
  taken_committed := by
    intro earlier taken
    have behind := sound.consumed_le_of_open isOpen
    have different : index ≠ earlier := by
      change earlier < queue.consumed at taken
      omega
    obtain ⟨slot, present, committed⟩ := sound.taken_committed earlier taken
    exact ⟨slot, by simp [different, present], committed⟩
  committed_right := by
    intro slot member committed
    obtain ⟨position, present⟩ := List.mem_iff_getElem?.mp member
    rw [List.getElem?_modify] at present
    by_cases same : index = position
    · subst same
      rw [isOpen] at present
      simp only [if_true, Option.map_eq_map, Option.map_some, Option.some.injEq] at present
      subst present
      exact allowed committed
    · simp only [same, if_false, Option.map_eq_map, Option.map_id'] at present
      exact sound.committed_right slot (List.mem_iff_getElem?.mpr ⟨position, present⟩) committed

theorem taken_modify (sound : Sound right queue) {index : Nat} {purpose : τ} {contents : α}
    (isOpen : queue.Open index purpose contents) (change : Slot τ α → Slot τ α) :
    Queue.taken { queue with slots := queue.slots.modify index change } = queue.taken := by
  have behind := sound.consumed_le_of_open isOpen
  apply List.ext_getElem?
  intro position
  rw [taken, taken, List.getElem?_take, List.getElem?_take]
  split
  · have different : index ≠ position := by
      rename_i before
      change position < queue.consumed at before
      omega
    simp [different]
  · rfl

theorem Sound.write (sound : Sound right queue) {index : Nat} {purpose : τ} {contents : α}
    (isOpen : queue.Open index purpose contents) (replacement : α) :
    Sound right (queue.write index replacement) :=
  sound.modify isOpen _ fun committed => by cases committed

theorem Sound.commit (sound : Sound right queue) {index : Nat} {purpose : τ} {contents : α}
    (isOpen : queue.Open index purpose contents) (holds : right purpose contents) :
    Sound right (queue.commit index) :=
  sound.modify isOpen _ fun _ => holds

theorem next_eq_some {slot : Slot τ α} (available : queue.next = some slot) :
    queue.slots[queue.consumed]? = some slot ∧ slot.committed = true := by
  rw [next, Option.filter_eq_some_iff] at available
  exact available

/-- Without open slots the consumer never waits. -/
theorem exists_next (settled : ∀ index purpose contents, ¬ queue.Open index purpose contents)
    (left : queue.consumed < queue.slots.length) : ∃ slot, queue.next = some slot := by
  obtain ⟨⟨purpose, contents, committed⟩, present⟩ :
      ∃ slot, queue.slots[queue.consumed]? = some slot := ⟨_, List.getElem?_eq_getElem left⟩
  cases committed with
  | true => exact ⟨_, by rw [next, present]; rfl⟩
  | false => exact absurd present (settled _ _ _)

theorem next_eq_none (done : queue.slots.length ≤ queue.consumed) : queue.next = none := by
  rw [next, List.getElem?_eq_none done]
  rfl

theorem Sound.advance (sound : Sound right queue) {slot : Slot τ α}
    (available : queue.next = some slot) : Sound right queue.advance where
  taken_committed := by
    intro index taken
    obtain earlier | last : index < queue.consumed ∨ index = queue.consumed := by
      change index < queue.consumed + 1 at taken
      omega
    · exact sound.taken_committed index earlier
    · subst last
      exact ⟨slot, next_eq_some available⟩
  committed_right := sound.committed_right

/-- What the consumer takes is right for its purpose. -/
theorem Sound.next_right (sound : Sound right queue) {slot : Slot τ α}
    (available : queue.next = some slot) : right slot.purpose slot.contents := by
  obtain ⟨present, committed⟩ := next_eq_some available
  exact sound.committed_right slot (List.mem_of_getElem? present) committed

theorem taken_advance {slot : Slot τ α} (available : queue.next = some slot) :
    queue.advance.taken = queue.taken ++ [slot] := by
  obtain ⟨present, _⟩ := next_eq_some available
  rw [taken, taken, advance, List.take_add_one, present]
  rfl

theorem modify_last (slots : List (Slot τ α)) (last : Slot τ α) (change : Slot τ α → Slot τ α) :
    (slots ++ [last]).modify slots.length change = slots ++ [change last] := by
  simp [List.modify_eq_take_drop]

/-- Reserving, writing and committing in one go appends a committed slot. -/
theorem commit_write_reserve (queue : Queue τ α) (purpose : τ) (stale contents : α) :
    ((queue.reserve purpose stale).write queue.slots.length contents).commit queue.slots.length =
      { queue with slots := queue.slots ++ [⟨purpose, contents, true⟩] } := by
  simp only [reserve, write, commit, modify_last]

/-! ## What the consumer finds -/

/-- The slots that the consumer can take before it has to wait. -/
def available (queue : Queue τ α) : List (Slot τ α) :=
  (queue.slots.drop queue.consumed).takeWhile (·.committed)

@[simp] theorem available_empty : (empty : Queue τ α).available = [] := rfl

theorem available_of_next_none (waits : queue.next = none) : queue.available = [] := by
  rw [available]
  by_cases left : queue.consumed < queue.slots.length
  · have present := List.getElem?_eq_getElem left
    rw [next, present, Option.filter_eq_none_iff] at waits
    rw [List.drop_eq_getElem_cons left, List.takeWhile_cons, if_neg (waits _ rfl)]
  · rw [List.drop_eq_nil_of_le (by omega), List.takeWhile_nil]

/-- The consumer takes the first available slot. -/
theorem available_of_next {slot : Slot τ α} (first : queue.next = some slot) :
    queue.available = slot :: queue.advance.available := by
  obtain ⟨present, committed⟩ := next_eq_some first
  obtain ⟨bound, here⟩ := List.getElem?_eq_some_iff.mp present
  rw [available, List.drop_eq_getElem_cons bound, here, List.takeWhile_cons, if_pos committed]
  rfl

/-- A slot that is only reserved makes nothing available. -/
theorem available_reserve (consumed_le : queue.consumed ≤ queue.slots.length) (purpose : τ)
    (stale : α) : (queue.reserve purpose stale).available = queue.available := by
  have uncommitted (slots : List (Slot τ α)) :
      (slots ++ [Slot.mk purpose stale false]).takeWhile (·.committed) =
        slots.takeWhile (·.committed) := by
    induction slots with
    | nil => rfl
    | cons slot slots ih => rw [List.cons_append, List.takeWhile_cons, List.takeWhile_cons, ih]
  rw [available, reserve, List.drop_append_of_le_length consumed_le]
  exact uncommitted _

/-- Changing slots in front of the consumer's position has no effect on what it finds. -/
theorem available_modify (queue : Queue τ α) (index : Nat) (change : Slot τ α → Slot τ α) :
    available { queue with slots := queue.slots.modify index change } =
      if index < queue.consumed then queue.available
      else ((queue.slots.drop queue.consumed).modify (index - queue.consumed) change).takeWhile
        (·.committed) := by
  simp only [available]
  split
  · rename_i taken
    rw [List.drop_modify_of_lt _ _ _ _ taken]
  · rename_i beyond
    rw [List.drop_modify_of_ge _ _ _ _ (Nat.le_of_not_lt beyond)]

/-- A slot that can still be written to is not available. -/
theorem available_write {index : Nat} {purpose : τ} {contents : α}
    (isOpen : queue.Open index purpose contents) (replacement : α) :
    (queue.write index replacement).available = queue.available := by
  have unavailable (slots : List (Slot τ α)) (position : Nat)
      (present : slots[position]? = some ⟨purpose, contents, false⟩) :
      (slots.modify position fun slot => { slot with contents := replacement }).takeWhile
          (·.committed) = slots.takeWhile (·.committed) := by
    induction slots generalizing position with
    | nil => cases present
    | cons slot slots ih =>
        cases position with
        | zero =>
            cases present
            rfl
        | succ position =>
            rw [List.modify_succ_cons, List.takeWhile_cons, List.takeWhile_cons,
              ih position present]
  rw [write, available_modify]
  split
  · rfl
  · rename_i beyond
    apply unavailable
    rwa [List.getElem?_drop, Nat.add_sub_cancel' (Nat.le_of_not_lt beyond)]

/-- A commit adds available slots behind those that there are. -/
theorem available_commit (queue : Queue τ α) (index : Nat) :
    ∃ more, (queue.commit index).available = queue.available ++ more := by
  have extended (slots : List (Slot τ α)) (position : Nat) :
      ∃ more, (slots.modify position fun slot => { slot with committed := true }).takeWhile
          (·.committed) = slots.takeWhile (·.committed) ++ more := by
    induction slots generalizing position with
    | nil => exact ⟨[], by rw [List.modify_nil]; rfl⟩
    | cons slot slots ih =>
        cases position with
        | zero =>
            obtain ⟨purpose, contents, committed⟩ := slot
            cases committed with
            | false => exact ⟨_, rfl⟩
            | true => exact ⟨[], (List.append_nil _).symm⟩
        | succ position =>
            obtain ⟨more, tail⟩ := ih position
            rw [List.modify_succ_cons, List.takeWhile_cons, List.takeWhile_cons, tail]
            cases slot.committed with
            | false => exact ⟨[], rfl⟩
            | true => exact ⟨more, rfl⟩
  rw [commit, available_modify]
  split
  · exact ⟨[], (List.append_nil _).symm⟩
  · exact extended _ _

end Queue
end Reservation

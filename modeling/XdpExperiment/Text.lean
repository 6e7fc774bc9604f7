import Mathlib.Algebra.Group.Nat.Defs
import Mathlib.Data.List.Induction
import Mathlib.Tactic.Common

/-!
# Text in fixed buffers

Numbers and lists written as characters can be read back. A C program assembles such text in
buffers of fixed size: stores are checked against the size, and a text ends at the first zero
character. The invariant of an assembly is that the text so far is a prefix of the buffer.
-/

namespace Text

/-! ## Digits and separators -/

/-- Value of a hexadecimal digit in lower case. -/
def hexValue (digit : Char) : Nat :=
  if digit.isDigit then digit.toNat - '0'.toNat else digit.toNat - 'a'.toNat + 10

theorem hexValue_digitChar {digit : Nat} (digit_lt : digit < 16) :
    hexValue digit.digitChar = digit := by
  have all : ∀ digit : Fin 16, hexValue digit.val.digitChar = digit.val := by decide
  exact all ⟨digit, digit_lt⟩

theorem toDigits_ten_inj {number number' : Nat} :
    Nat.toDigits 10 number = Nat.toDigits 10 number' ↔ number = number' := by
  constructor
  · intro same
    have value := congrArg (fun digits => Nat.ofDigitChars 10 digits 0) same
    simpa only [Nat.ofDigitChars_ten_toDigits] using value
  · rintro rfl
    rfl

/-- A separator that occurs in none of the parts keeps them apart. -/
theorem intercalate_inj {α : Type*} [BEq α] [LawfulBEq α] {separator : α}
    {parts parts' : List (List α)} (apart : ∀ part ∈ parts, separator ∉ part)
    (apart' : ∀ part ∈ parts', separator ∉ part) (nonempty : parts ≠ [])
    (nonempty' : parts' ≠ []) :
    [separator].intercalate parts = [separator].intercalate parts' ↔ parts = parts' := by
  constructor
  · intro same
    have split := congrArg (List.splitOn separator) same
    rwa [List.splitOn_intercalate separator apart nonempty,
      List.splitOn_intercalate separator apart' nonempty'] at split
  · rintro rfl
    rfl

/-! ## Buffers -/

/-- The character that ends a text. -/
def nul : Char := Char.ofNat 0

/-- A store outside a buffer, or a text that does not end in its buffer. -/
inductive Fault
  | outOfBuffer (offset : Nat)
  | unterminated
  deriving DecidableEq

variable {capacity : Nat}

def store (buffer : Vector Char capacity) (offset : Nat) (character : Char) :
    Except Fault (Vector Char capacity) :=
  if within : offset < capacity then .ok (buffer.set offset character within)
  else .error (.outOfBuffer offset)

/-- Store characters one after the other. -/
def storeAll (buffer : Vector Char capacity) (offset : Nat) :
    List Char → Except Fault (Vector Char capacity)
  | [] => .ok buffer
  | character :: characters => do
      let buffer ← store buffer offset character
      storeAll buffer (offset + 1) characters

/-- `snprintf` to a place in a buffer: the text cut to the given size, and a zero behind it. -/
def snprintfAt (buffer : Vector Char capacity) (offset size : Nat) (text : List Char) :
    Except Fault (Vector Char capacity) :=
  storeAll buffer offset (text.take (size - 1) ++ [nul])

/-- The text that a buffer starts with. -/
def cString (buffer : Vector Char capacity) : Except Fault (List Char) :=
  if nul ∈ buffer.toList then .ok (buffer.toList.takeWhile (· ≠ nul)) else .error .unterminated

/-- The buffer starts with the characters. -/
def Starts (buffer : Vector Char capacity) (text : List Char) : Prop := text <+: buffer.toList

theorem Starts.nil (buffer : Vector Char capacity) : Starts buffer [] := List.nil_prefix

theorem Starts.of_append {buffer : Vector Char capacity} {text more : List Char}
    (starts : Starts buffer (text ++ more)) : Starts buffer text :=
  (List.prefix_append text more).trans starts

/-- A store behind the text extends it. -/
theorem Starts.store {buffer : Vector Char capacity} {text : List Char}
    (starts : Starts buffer text) (room : text.length < capacity) (character : Char) :
    ∃ buffer', Text.store buffer text.length character = .ok buffer' ∧
      Starts buffer' (text ++ [character]) := by
  refine ⟨_, dif_pos room, ?_⟩
  obtain ⟨rest, whole⟩ := starts
  have size : rest.length = capacity - text.length := by
    have length := congrArg List.length whole
    rw [List.length_append, Vector.length_toList] at length
    omega
  cases rest with
  | nil =>
      rw [List.length_nil] at size
      omega
  | cons old rest =>
      refine ⟨rest, ?_⟩
      rw [Vector.toList_set, ← whole, List.set_append_right _ _ (Nat.le_refl _), Nat.sub_self,
        List.set_cons_zero, List.append_assoc]
      rfl

/-- Stores behind the text that stay inside the buffer extend it. -/
theorem Starts.storeAll {buffer : Vector Char capacity} {text : List Char}
    (starts : Starts buffer text) {characters : List Char}
    (room : text.length + characters.length ≤ capacity) :
    ∃ buffer', Text.storeAll buffer text.length characters = .ok buffer' ∧
      Starts buffer' (text ++ characters) := by
  induction characters generalizing buffer text with
  | nil => exact ⟨buffer, rfl, by rwa [List.append_nil]⟩
  | cons character characters ih =>
      rw [List.length_cons] at room
      obtain ⟨stored, first, extended⟩ := starts.store (by omega) character
      obtain ⟨buffer', others, final⟩ := ih extended (by
        rw [List.length_append, List.length_singleton]
        omega)
      rw [List.length_append, List.length_singleton] at others
      refine ⟨buffer', ?_, ?_⟩
      · rw [Text.storeAll, first]
        exact others
      · rwa [List.append_assoc] at final

/-- A text printed behind another one takes the place of its terminating zero. -/
theorem Starts.snprintfAt {buffer : Vector Char capacity} {text : List Char}
    (starts : Starts buffer text) {size : Nat} {more : List Char} (fits : more.length < size)
    (room : text.length + more.length < capacity) :
    ∃ buffer', Text.snprintfAt buffer text.length size more = .ok buffer' ∧
      Starts buffer' (text ++ more ++ [nul]) := by
  have whole : more.take (size - 1) = more := List.take_of_length_le (by omega)
  have inside : text.length + (more ++ [nul]).length ≤ capacity := by
    rw [List.length_append, List.length_singleton]
    omega
  obtain ⟨buffer', stored, extended⟩ := starts.storeAll inside
  refine ⟨buffer', ?_, ?_⟩
  · rw [Text.snprintfAt, whole, stored]
  · rwa [List.append_assoc]

/-- The text ends at the first zero, wherever the buffer ends. -/
theorem Starts.cString {buffer : Vector Char capacity} {text : List Char}
    (starts : Starts buffer (text ++ [nul])) (noNul : nul ∉ text) :
    Text.cString buffer = .ok text := by
  obtain ⟨rest, whole⟩ := starts
  have terminated : nul ∈ buffer.toList := by
    rw [← whole]
    simp
  have characters : ∀ character ∈ text, decide (character ≠ nul) = true := by
    intro character member
    rw [decide_eq_true_eq]
    rintro rfl
    exact noNul member
  rw [Text.cString, if_pos terminated, ← whole, List.append_assoc,
    List.takeWhile_append_of_pos characters]
  simp

/-! ## Counting loops -/

section Loops

variable {ε σ : Type*} {body : Nat → σ → Except ε (ForInStep σ)} {assertion : Nat → σ → Prop}

/-- The rounds that are left of a loop over equally spaced numbers. -/
theorem forIn_range' {first stride done left : Nat}
    (round : ∀ index, index < done + left → ∀ state, assertion index state →
      ∃ state', body (first + stride * index) state = .ok (.yield state') ∧
        assertion (index + 1) state')
    {state : σ} (holds : assertion done state) :
    ∃ final, forIn (List.range' (first + stride * done) left stride) state body = .ok final ∧
      assertion (done + left) final := by
  induction left generalizing done state with
  | zero => exact ⟨state, rfl, holds⟩
  | succ left ih =>
      obtain ⟨after, step, kept⟩ := round done (by omega) state holds
      have sameEnd : done + 1 + left = done + (left + 1) := by omega
      have sameStart : first + stride * done + stride = first + stride * (done + 1) := by
        rw [Nat.mul_succ, Nat.add_assoc]
      obtain ⟨final, rounds, ends⟩ := ih (sameEnd ▸ round) kept
      refine ⟨final, ?_, sameEnd ▸ ends⟩
      rw [List.range'_succ, List.forIn_cons, step, sameStart]
      exact rounds

/-- A counting loop: an assertion that holds at the start, and that every round keeps without
failing or leaving the loop, holds at the end. -/
theorem forIn_range {range : Std.Legacy.Range}
    (round : ∀ index < range.size, ∀ state, assertion index state →
      ∃ state', body (range.start + range.step * index) state = .ok (.yield state') ∧
        assertion (index + 1) state')
    {state : σ} (start : assertion 0 state) :
    ∃ final, forIn range state body = .ok final ∧ assertion range.size final := by
  have rounds := @forIn_range' ε σ body assertion range.start range.step 0 range.size
    (by simpa using round) state start
  rw [Std.Legacy.Range.forIn_eq_forIn_range']
  simpa using rounds

end Loops
end Text

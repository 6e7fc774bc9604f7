import Mathlib.Data.List.TakeWhile
import Mathlib.Tactic.Common

/-!
# Formats of text

A format writes values so that a reader finds each of them again, whatever text comes behind it.
The law is part of the format, and the ways to put formats together keep it.
-/

namespace Text

/-- A writer of values and a reader that takes a value from the front of a text. -/
structure Format (α : Type) where
  print : α → List Char
  read : List Char → Option (α × List Char)
  read_print : ∀ value rest, read (print value ++ rest) = some (value, rest)

namespace Format

variable {α β : Type}

/-- Texts of the same length. -/
def fixed (size : Nat) (print : α → List Char) (parse : List Char → α)
    (length : ∀ value, (print value).length = size)
    (parse_print : ∀ value, parse (print value) = value) : Format α where
  print := print
  read input :=
    if size ≤ input.length then some (parse (input.take size), input.drop size) else none
  read_print := by
    intro value rest
    have within : size ≤ (print value ++ rest).length := by
      rw [List.length_append, length]
      exact Nat.le_add_right _ _
    rw [if_pos within, List.take_left' (length value), List.drop_left' (length value),
      parse_print]

/-- Texts that end at the first occurrence of a character. -/
def terminated (last : Char) (print : α → List Char) (parse : List Char → α)
    (apart : ∀ value, last ∉ print value) (parse_print : ∀ value, parse (print value) = value) :
    Format α where
  print value := print value ++ [last]
  read input :=
    match input.dropWhile (· ≠ last) with
    | [] => none
    | _ :: rest => some (parse (input.takeWhile (· ≠ last)), rest)
  read_print := by
    intro value rest
    have others : ∀ character ∈ print value, decide (character ≠ last) = true := by
      intro character member
      rw [decide_eq_true_eq]
      rintro rfl
      exact apart value member
    have stop : ([last] ++ rest).dropWhile (fun character => decide (character ≠ last)) =
        last :: rest := by simp
    have start : ([last] ++ rest).takeWhile (fun character => decide (character ≠ last)) = [] := by
      simp
    rw [List.append_assoc, List.dropWhile_append_of_pos others, stop,
      List.takeWhile_append_of_pos others, start, List.append_nil]
    exact congrArg (fun value => some (value, rest)) (parse_print value)

/-- Texts whose length follows from a number in front of them. -/
def counted (number : Format Nat) (count : α → Nat) (size : Nat → Nat) (print : α → List Char)
    (parse : List Char → α) (length : ∀ value, (print value).length = size (count value))
    (parse_print : ∀ value, parse (print value) = value) : Format α where
  print value := number.print (count value) ++ print value
  read input := do
    let (count, input) ← number.read input
    if size count ≤ input.length then
      return (parse (input.take (size count)), input.drop (size count))
    else none
  read_print := by
    intro value rest
    have within : size (count value) ≤ (print value ++ rest).length := by
      rw [List.length_append, length]
      exact Nat.le_add_right _ _
    simp only [List.append_assoc, number.read_print, Option.bind_eq_bind, Option.bind_some,
      if_pos within, List.take_left' (length value), List.drop_left' (length value), parse_print,
      Option.pure_def]

/-- No text at all. -/
def nothing : Format Unit where
  print _ := []
  read input := some ((), input)
  read_print _ _ := rfl

/-- One value behind the other. -/
def pair (first : Format α) (second : Format β) : Format (α × β) where
  print value := first.print value.1 ++ second.print value.2
  read input := do
    let (value, input) ← first.read input
    let (value', rest) ← second.read input
    return ((value, value'), rest)
  read_print := by
    rintro ⟨value, value'⟩ rest
    simp only [List.append_assoc, first.read_print, second.read_print, Option.bind_eq_bind,
      Option.bind_some, Option.pure_def]

/-- The same text for other values. -/
def convert (format : Format α) (raw : β → α) (value : α → β)
    (value_raw : ∀ entry, value (raw entry) = entry) : Format β where
  print entry := format.print (raw entry)
  read input := (format.read input).map fun found => (value found.1, found.2)
  read_print := by
    intro entry rest
    rw [format.read_print, Option.map_some, value_raw]

/-- A fixed text in front. -/
def after (text : List Char) (format : Format α) : Format α where
  print value := text ++ format.print value
  read input := if text <+: input then format.read (input.drop text.length) else none
  read_print := by
    intro value rest
    rw [List.append_assoc, if_pos (List.prefix_append ..), List.drop_left, format.read_print]

/-- A fixed text behind. -/
def before (format : Format α) (text : List Char) : Format α where
  print value := format.print value ++ text
  read input := do
    let (value, input) ← format.read input
    if text <+: input then return (value, input.drop text.length) else none
  read_print := by
    intro value rest
    simp only [List.append_assoc, format.read_print, Option.bind_eq_bind, Option.bind_some,
      List.prefix_append, if_true, List.drop_left, Option.pure_def]

section Print

variable {print : α → List Char} {parse : List Char → α}

@[simp] theorem print_pair (first : Format α) (second : Format β) (value : α × β) :
    (first.pair second).print value = first.print value.1 ++ second.print value.2 := rfl

@[simp] theorem print_convert (format : Format α) {raw : β → α} {value : α → β}
    (value_raw : ∀ entry, value (raw entry) = entry) (entry : β) :
    (format.convert raw value value_raw).print entry = format.print (raw entry) := rfl

@[simp] theorem print_after (text : List Char) (format : Format α) (value : α) :
    (after text format).print value = text ++ format.print value := rfl

@[simp] theorem print_before (format : Format α) (text : List Char) (value : α) :
    (format.before text).print value = format.print value ++ text := rfl

@[simp] theorem print_nothing (value : Unit) : nothing.print value = [] := rfl

end Print

/-- Read items for as long as the text starts like one. -/
def readMany (first : Char) (item : Format α) (last : Format β) :
    Nat → List Char → Option ((List α × β) × List Char)
  | 0, _ => none
  | fuel + 1, input =>
      if input.head? = some first then do
        let (value, input) ← item.read input
        let ((values, value'), rest) ← readMany first item last fuel input
        return ((value :: values, value'), rest)
      else do
        let (value', rest) ← last.read input
        return (([], value'), rest)

theorem readMany_print {first : Char} {item : Format α} {last : Format β}
    (starts : ∀ value, (item.print value).head? = some first)
    (ends : ∀ value, ∃ other tail, last.print value = other :: tail ∧ other ≠ first)
    (values : List α) (value' : β) (rest : List Char) {fuel : Nat} (enough : values.length < fuel) :
    readMany first item last fuel (values.flatMap item.print ++ last.print value' ++ rest) =
      some ((values, value'), rest) := by
  induction values generalizing fuel with
  | nil =>
      obtain ⟨fuel, rfl⟩ := Nat.exists_eq_succ_of_ne_zero (Nat.ne_of_gt enough)
      obtain ⟨other, tail, printed, different⟩ := ends value'
      have stops : ¬ (last.print value' ++ rest).head? = some first := by
        simpa [printed] using different
      rw [List.flatMap_nil, List.nil_append, readMany, if_neg stops, last.read_print]
      rfl
  | cons value values ih =>
      obtain ⟨fuel, rfl⟩ := Nat.exists_eq_succ_of_ne_zero (Nat.ne_of_gt (Nat.zero_lt_of_lt enough))
      have goesOn : (item.print value ++ (values.flatMap item.print ++ last.print value' ++
          rest)).head? = some first := by
        rw [List.head?_append, starts, Option.some_or]
      rw [List.flatMap_cons, List.append_assoc, List.append_assoc,
        ← List.append_assoc (values.flatMap item.print), readMany, if_pos goesOn, item.read_print]
      simp only [Option.bind_eq_bind, Option.bind_some, Option.pure_def]
      rw [ih (Nat.lt_of_succ_lt_succ enough)]
      rfl

/-- Any number of items, each of which starts with the same character, and a last part, which
starts with another one. -/
def many (first : Char) (item : Format α) (last : Format β)
    (starts : ∀ value, (item.print value).head? = some first)
    (ends : ∀ value, ∃ other tail, last.print value = other :: tail ∧ other ≠ first) :
    Format (List α × β) where
  print value := value.1.flatMap item.print ++ last.print value.2
  read input := readMany first item last (input.length + 1) input
  read_print := by
    rintro ⟨values, value'⟩ rest
    apply readMany_print starts ends
    -- No item is empty, so that there are no more items than characters.
    have nonempty : ∀ value, 1 ≤ (item.print value).length := by
      intro value
      have start := starts value
      cases printed : item.print value with
      | nil => simp [printed] at start
      | cons character tail => simp
    have short : values.length ≤ (values.flatMap item.print).length := by
      induction values with
      | nil => exact Nat.le_refl 0
      | cons value values ih =>
          have one := nonempty value
          simp only [List.flatMap_cons, List.length_append, List.length_cons]
          omega
    simp only [List.length_append]
    omega

@[simp] theorem print_many {first : Char} (item : Format α) (last : Format β)
    (starts : ∀ value, (item.print value).head? = some first)
    (ends : ∀ value, ∃ other tail, last.print value = other :: tail ∧ other ≠ first)
    (value : List α × β) :
    (many first item last starts ends).print value =
      value.1.flatMap item.print ++ last.print value.2 := rfl

end Format
end Text

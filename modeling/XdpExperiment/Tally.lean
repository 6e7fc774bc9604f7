import Mathlib.Algebra.BigOperators.Group.List.Lemmas
import Mathlib.Algebra.GroupWithZero.Nat
import Mathlib.Tactic.Common

/-!
# Counting by key

An ordered map of 64-bit counters. A key that is counted for the first time gets a counter, so that
the keys of the map are the keys that were counted.
-/

/-- Counters ordered by their keys. -/
abbrev Tally (α : Type*) [Ord α] := Std.ExtTreeMap α UInt64

namespace Tally

/-- Count a key once more; the counter of a new key starts at zero. -/
def increment {α : Type*} [Ord α] [Std.TransOrd α] (counters : Tally α) (key : α) : Tally α :=
  counters.alter key fun counter => some (counter.getD 0 + 1)

variable {α : Type*} [Ord α] [Std.TransOrd α] [Std.LawfulEqOrd α] [DecidableEq α]

theorem getElem?_increment (counters : Tally α) (key other : α) :
    (counters.increment key)[other]? =
      if key = other then some (counters[key]?.getD 0 + 1) else counters[other]? := by
  rw [increment, Std.ExtTreeMap.getElem?_alter]
  simp only [Std.LawfulEqCmp.compare_eq_iff_eq]

/-- The counter of a key after some keys were counted. -/
theorem getD_foldl (keys : List α) (counters : Tally α) (key : α) :
    (keys.foldl increment counters)[key]?.getD 0 =
      counters[key]?.getD 0 + UInt64.ofNat (keys.count key) := by
  induction keys generalizing counters with
  | nil => simp
  | cons first keys ih =>
      rw [List.foldl_cons, ih, getElem?_increment, List.count_cons]
      by_cases same : first = key
      · subst same
        simp [UInt64.ofNat_add, UInt64.add_assoc, UInt64.add_comm 1]
      · simp [same]

theorem mem_foldl (keys : List α) (counters : Tally α) (key : α) :
    key ∈ keys.foldl increment counters ↔ key ∈ counters ∨ key ∈ keys := by
  induction keys generalizing counters with
  | nil => simp
  | cons first keys ih =>
      rw [List.foldl_cons, ih, List.mem_cons, ← or_assoc]
      apply or_congr_left
      rw [Std.ExtTreeMap.mem_iff_isSome_getElem?, getElem?_increment,
        Std.ExtTreeMap.mem_iff_isSome_getElem?]
      by_cases same : first = key
      · simp [same]
      · simp [same, Ne.symm same]

/-- Count keys from nothing. -/
def ofList (keys : List α) : Tally α := keys.foldl increment ∅

theorem mem_ofList {keys : List α} {key : α} : key ∈ ofList keys ↔ key ∈ keys := by
  rw [ofList, mem_foldl]
  simp

theorem getElem?_ofList {keys : List α} {key : α} (counted : key ∈ keys) :
    (ofList keys)[key]? = some (UInt64.ofNat (keys.count key)) := by
  obtain ⟨counter, present⟩ := Option.isSome_iff_exists.mp
    (Std.ExtTreeMap.mem_iff_isSome_getElem?.mp (mem_ofList.mpr counted))
  have value := getD_foldl keys ∅ key
  change (ofList keys)[key]?.getD 0 = _ at value
  rw [present] at value ⊢
  simpa using value

/-- The order of counting does not matter. -/
theorem ofList_perm {keys keys' : List α} (perm : keys.Perm keys') :
    ofList keys = ofList keys' := by
  apply Std.ExtTreeMap.ext_getElem?
  intro key
  by_cases counted : key ∈ keys
  · rw [getElem?_ofList counted, getElem?_ofList (perm.mem_iff.mp counted), perm.count_eq]
  · have notCounted : key ∉ keys' := fun member => counted (perm.mem_iff.mpr member)
    rw [Std.ExtTreeMap.getElem?_eq_none (mem_ofList.not.mpr counted),
      Std.ExtTreeMap.getElem?_eq_none (mem_ofList.not.mpr notCounted)]

/-- Below the range of the counters none of them overflows, and their sum is how often anything was
counted. -/
theorem sum_ofList {keys : List α} (short : keys.length < UInt64.size) :
    ((ofList keys).toList.map fun entry => entry.2.toNat).sum = keys.length := by
  have counts : ∀ entry ∈ (ofList keys).toList, entry.2.toNat = keys.count entry.1 := by
    rintro ⟨key, counter⟩ member
    have found := Std.ExtTreeMap.mem_toList_iff_getElem?_eq_some.mp member
    have counted : key ∈ keys := mem_ofList.mp (by
      rw [Std.ExtTreeMap.mem_iff_isSome_getElem?, found]
      rfl)
    rw [getElem?_ofList counted, Option.some_inj] at found
    rw [← found]
    exact UInt64.toNat_ofNat_of_lt' (lt_of_le_of_lt List.count_le_length short)
  have distinct : (ofList keys).keys.Perm keys.dedup := by
    rw [List.perm_ext_iff_of_nodup (Std.ExtTreeMap.nodup_keys) keys.nodup_dedup]
    intro key
    rw [Std.ExtTreeMap.mem_keys, mem_ofList, List.mem_dedup]
  calc
    ((ofList keys).toList.map fun entry => entry.2.toNat).sum
        = ((ofList keys).toList.map fun entry => keys.count entry.1).sum := by
      rw [List.map_congr_left counts]
    _ = ((ofList keys).keys.map keys.count).sum := by
      rw [← Std.ExtTreeMap.map_fst_toList_eq_keys, List.map_map]
      rfl
    _ = (keys.dedup.map keys.count).sum := (distinct.map _).sum_eq
    _ = keys.length := keys.sum_map_count_dedup_eq_length

end Tally

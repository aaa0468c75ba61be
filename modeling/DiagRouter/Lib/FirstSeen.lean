import Mathlib.Data.List.Induction
import Mathlib.Data.List.Nodup
import Mathlib.Tactic.Common

/-!
# First occurrences

`eraseDups` lists what a sequence has shown so far, in the order of the first
occurrences. Growing the sequence by one element either changes nothing or adds
that element at the end.
-/
namespace DiagRouter.Lib.FirstSeen

variable {α : Type} [BEq α] [LawfulBEq α] {earlier : List α} {x y : α}

theorem eraseDups_seen (seen : x ∈ earlier) : (earlier ++ [x]).eraseDups = earlier.eraseDups := by
  rw [List.eraseDups_append]
  simp [List.removeAll,seen]

theorem eraseDups_new (new : x ∉ earlier) : (earlier ++ [x]).eraseDups = earlier.eraseDups ++ [x] := by
  rw [List.eraseDups_append]
  simp [List.removeAll,new,List.eraseDups_cons]

theorem eraseDups_nodup (xs : List α) : xs.eraseDups.Nodup := by
  induction xs using List.reverseRecOn with
  | nil => simp
  | append_singleton xs x ih =>
    by_cases seen : x ∈ xs
    · rw [eraseDups_seen seen]
      exact ih
    · rw [eraseDups_new seen,← List.concat_eq_append]
      exact ih.concat (fun member => seen (List.mem_eraseDups.mp member))

/-- Elements keep their numbers. -/
theorem idxOf_eraseDups_concat (seen : x ∈ earlier) (y : α) :
    (earlier ++ [y]).eraseDups.idxOf x = earlier.eraseDups.idxOf x := by
  by_cases old : y ∈ earlier
  · rw [eraseDups_seen old]
  · rw [eraseDups_new old,List.idxOf_append,if_pos (List.mem_eraseDups.mpr seen)]

theorem eraseDups_length_append_le (xs ys : List α) : xs.eraseDups.length ≤ (xs ++ ys).eraseDups.length := by
  rw [List.eraseDups_append,List.length_append]
  omega

/-- The last element of a sequence has the last number when it is the newest. -/
theorem last_number_iff (last : earlier.getLast? = some x) :
    earlier.eraseDups.idxOf x + 1 = earlier.eraseDups.length ↔ earlier.getLast? = earlier.eraseDups.getLast? := by
  have member : x ∈ earlier.eraseDups := List.mem_eraseDups.mpr (List.mem_of_getLast? last)
  have inside := List.idxOf_lt_length_of_mem member
  rw [last,List.getLast?_eq_getElem?]
  constructor
  · intro number
    rw [← number,Nat.add_sub_cancel,List.getElem?_eq_getElem inside,List.getElem_idxOf]
  · intro newest
    obtain ⟨final,same⟩ := List.getElem?_eq_some_iff.mp newest.symm
    have number := (eraseDups_nodup earlier).idxOf_getElem _ final
    rw [same] at number
    omega

end DiagRouter.Lib.FirstSeen

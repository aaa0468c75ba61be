import Mathlib.Algebra.BigOperators.Group.Finset.Basic
import Mathlib.Algebra.BigOperators.Group.List.Basic

/-!
# Tallies

What is held in a finite set of cells, or along a list, summed up; and how the
sum changes when one cell does.
-/
namespace DiagRouter.Lib.Tally

variable {ι α β M : Type} [AddCommMonoid M]

theorem sum_update_cell [DecidableEq ι] (amount : β → M) (cells : ι → β) {S : Finset ι} {i : ι} (member : i ∈ S) (b : β) :
    S.sum (fun j => amount (Function.update cells i b j)) + amount (cells i) =
      S.sum (fun j => amount (cells j)) + amount b := by
  rw [← Finset.sum_erase_add S _ member,← Finset.sum_erase_add S (fun j => amount (cells j)) member,
    Function.update_self,add_right_comm]
  congr 2
  refine Finset.sum_congr rfl ?_
  intro j other
  rw [Function.update_of_ne (Finset.ne_of_mem_erase other)]

theorem sum_update_other [DecidableEq ι] (amount : β → M) (cells : ι → β) {S : Finset ι} {i : ι} (outside : i ∉ S) (b : β) :
    S.sum (fun j => amount (Function.update cells i b j)) = S.sum (fun j => amount (cells j)) := by
  refine Finset.sum_congr rfl ?_
  intro j member
  rw [Function.update_of_ne (ne_of_mem_of_not_mem member outside)]

theorem sum_map_set (amount : α → M) {xs : List α} {i : Nat} {x : α} (found : xs[i]? = some x) (y : α) :
    ((xs.set i y).map amount).sum + amount x = (xs.map amount).sum + amount y := by
  induction xs generalizing i with
  | nil => cases found
  | cons z zs ih =>
    cases i with
    | zero =>
      cases found
      simp only [List.set_cons_zero,List.map_cons,List.sum_cons]
      rw [add_right_comm,add_comm (amount y),add_right_comm]
    | succ i =>
      simp only [List.set_cons_succ,List.map_cons,List.sum_cons]
      rw [add_assoc,ih found,← add_assoc]

end DiagRouter.Lib.Tally

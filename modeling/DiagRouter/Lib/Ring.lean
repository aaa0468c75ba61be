import Mathlib.Data.List.Range
import Mathlib.Tactic.Common

/-!
# Circular buffers

`N` cells with a read index `tail` and a write index `head`: what they hold in
order, what taking a cell at the tail and writing cells at the head does to it,
and how much room is left. One cell stays free, so that equal indices mean empty.
-/
namespace DiagRouter.Lib.Ring

variable {α : Type}

/-- The number of cells held. -/
def used (N head tail : Nat) : Nat := if tail ≤ head then head - tail else head + N - tail

/-- The cells held, oldest first. -/
def held (N : Nat) (cells : Nat → α) (head tail : Nat) : List α :=
  (List.range (used N head tail)).map (fun i => cells ((tail + i) % N))

/-- Cells from `start` on overwritten, without wrapping. -/
def write (cells : Nat → α) (start : Nat) (xs : List α) (i : Nat) : α :=
  if start ≤ i then (xs[i - start]?).getD (cells i) else cells i

theorem mod_wrap {N i : Nat} (below : i < N + N) : i % N = if i < N then i else i - N := by
  split
  · exact Nat.mod_eq_of_lt ‹_›
  · rw [Nat.mod_eq_sub_mod (by omega)]
    exact Nat.mod_eq_of_lt (by omega)

@[simp] theorem held_length (N : Nat) (cells : Nat → α) (head tail : Nat) :
    (held N cells head tail).length = used N head tail := by
  simp [held]

theorem used_lt {N head tail : Nat} (h : head < N) (t : tail < N) : used N head tail < N := by
  unfold used
  split <;> omega

theorem used_eq_zero {N head tail : Nat} (t : tail < N) : used N head tail = 0 ↔ tail = head := by
  unfold used
  split <;> omega

theorem held_empty {N : Nat} {cells : Nat → α} {head tail : Nat} (t : tail < N) :
    held N cells head tail = [] ↔ tail = head := by
  rw [← used_eq_zero t,← held_length N cells,List.length_eq_zero_iff]

theorem used_next {N head tail : Nat} (h : head < N) (t : tail < N) (nonempty : tail ≠ head) :
    used N head tail = used N head ((tail + 1) % N) + 1 := by
  rw [mod_wrap (by omega)]
  unfold used
  split_ifs <;> omega

/-- Taking the cell at the tail. -/
theorem held_pop {N : Nat} {cells : Nat → α} {head tail : Nat} (h : head < N) (t : tail < N) (nonempty : tail ≠ head) :
    held N cells head tail = cells tail :: held N cells head ((tail + 1) % N) := by
  rw [held,used_next h t nonempty,List.range_succ_eq_map,List.map_cons,List.map_map,held]
  congr 1
  · rw [Nat.add_zero,Nat.mod_eq_of_lt t]
  · apply List.map_congr_left
    intro i _
    simp only [Function.comp]
    congr 1
    rw [Nat.mod_add_mod]
    congr 1
    omega

theorem used_write {N head tail n : Nat} (h : head < N) (t : tail < N) (room : used N head tail + n < N) :
    used N ((head + n) % N) tail = used N head tail + n := by
  have below : head + n < N + N := by omega
  rw [mod_wrap below]
  revert room
  unfold used
  split_ifs <;> omega

/-- Cells behind the head for which there is room are none of those held. -/
theorem held_apart {N head tail n i : Nat} (h : head < N) (t : tail < N) (room : used N head tail + n < N)
    (old : i < used N head tail) : (tail + i) % N < head ∨ head + n ≤ (tail + i) % N := by
  have below := used_lt h t
  have at_i : (tail + i) % N = if tail + i < N then tail + i else tail + i - N := mod_wrap (by omega)
  revert old room
  rw [at_i]
  unfold used
  split_ifs <;> omega

/-- Writing at the head, up to the end of the buffer at most, appends. -/
theorem held_write {N : Nat} {cells : Nat → α} {head tail : Nat} {xs : List α} (h : head < N) (t : tail < N)
    (room : used N head tail + xs.length < N) (inside : head + xs.length ≤ N) :
    held N (write cells head xs) ((head + xs.length) % N) tail = held N cells head tail ++ xs := by
  have count := used_write h t room
  apply List.ext_getElem
  · simp only [held_length,count,List.length_append]
  · intro i first second
    simp only [held_length,count] at first
    have at_i : (tail + i) % N = if tail + i < N then tail + i else tail + i - N := mod_wrap (by omega)
    by_cases old : i < used N head tail
    · rw [List.getElem_append_left (by simpa using old)]
      simp only [held,List.getElem_map,List.getElem_range]
      have untouched := held_apart h t room old
      unfold write
      rcases untouched with low | high
      · rw [if_neg (by omega)]
      · rw [if_pos (by omega),List.getElem?_eq_none (by omega)]
        rfl
    · rw [List.getElem_append_right (by simpa using old)]
      simp only [held,List.getElem_map,List.getElem_range,List.length_map,List.length_range]
      have place : (tail + i) % N = head + (i - used N head tail) := by
        revert old first
        rw [at_i]
        unfold used
        split_ifs <;> omega
      rw [place,write,if_pos (by omega),Nat.add_sub_cancel_left,List.getElem?_eq_getElem (by omega)]
      rfl

theorem head_eq {N head tail : Nat} (h : head < N) (t : tail < N) : (tail + used N head tail) % N = head := by
  have below := used_lt h t
  rw [mod_wrap (by omega)]
  unfold used
  split_ifs <;> omega

/-- Cells from `start` on overwritten, wrapping at the end. -/
def laid (N : Nat) (cells : Nat → α) (start : Nat) (xs : List α) (i : Nat) : α :=
  (xs[(i + N - start) % N]?).getD (cells i)

@[simp] theorem laid_nil (N : Nat) (cells : Nat → α) (start : Nat) : laid N cells start [] = cells := by
  funext i
  simp [laid]

/-- Writing where the cells laid out so far end lays out more. -/
theorem write_laid {N : Nat} {cells before : Nat → α} {start i : Nat} {xs ys : List α} (inside : start < N) (below : i < N)
    (room : xs.length + ys.length < N) (whole : (start + xs.length) % N + ys.length ≤ N)
    (cell : before i = laid N cells start xs i) :
    write before ((start + xs.length) % N) ys i = laid N cells start (xs ++ ys) i := by
  have place : (i + N - start) % N = if start ≤ i then i - start else i + N - start := by
    rw [mod_wrap (by omega)]
    split_ifs <;> omega
  have head : (start + xs.length) % N = if start + xs.length < N then start + xs.length else start + xs.length - N :=
    mod_wrap (by omega)
  rw [write,cell,laid,laid]
  by_cases old : (i + N - start) % N < xs.length
  · rw [List.getElem?_append_left old]
    split_ifs with from_head
    · rw [List.getElem?_eq_none (by rw [place] at old; rw [head] at from_head ⊢; split_ifs at * <;> omega)]
      rfl
    · rfl
  · rw [List.getElem?_append_right (by omega),List.getElem?_eq_none (by omega : xs.length ≤ (i + N - start) % N)]
    split_ifs with from_head
    · have same : i - (start + xs.length) % N = (i + N - start) % N - xs.length := by
        rw [place] at old ⊢
        rw [head] at from_head ⊢
        split_ifs at * <;> omega
      rw [same]
      rfl
    · rw [List.getElem?_eq_none (by rw [place] at old ⊢; rw [head] at from_head whole; split_ifs at * <;> omega)]

end DiagRouter.Lib.Ring

import Mathlib.Data.List.Basic
import Mathlib.Tactic.Common

/-!
# Bounded queues

A queue that holds so many elements at most, with what has been taken out of it.
What arrives is appended to what waits, and what is taken is the first of it, so
what has been taken is always the beginning of what has arrived.
-/
namespace DiagRouter.Lib.Queue

structure Fifo (α : Type) (capacity : Nat) where
  taken : List α
  waiting : List α
  bounded : waiting.length ≤ capacity

namespace Fifo
variable {α : Type} {capacity : Nat}

/-- All that has arrived, in order. -/
def arrived (q : Fifo α capacity) : List α := q.taken ++ q.waiting

def put (q : Fifo α capacity) (xs : List α) (room : (q.waiting ++ xs).length ≤ capacity) : Fifo α capacity :=
  ⟨q.taken,q.waiting ++ xs,room⟩

/-- Takes the first element, if one waits. -/
def get (q : Fifo α capacity) : Fifo α capacity :=
  ⟨q.taken ++ q.waiting.take 1,q.waiting.drop 1,by
    have bounded := q.bounded
    rw [List.length_drop]
    omega⟩

@[simp] theorem taken_get (q : Fifo α capacity) : q.get.taken = q.taken ++ q.waiting.take 1 := rfl
@[simp] theorem waiting_get (q : Fifo α capacity) : q.get.waiting = q.waiting.drop 1 := rfl

theorem taken_prefix (q : Fifo α capacity) : q.taken <+: q.arrived := List.prefix_append _ _

@[simp] theorem arrived_put (q : Fifo α capacity) (xs : List α) (room : (q.waiting ++ xs).length ≤ capacity) :
    (q.put xs room).arrived = q.arrived ++ xs := (List.append_assoc ..).symm

@[simp] theorem arrived_get (q : Fifo α capacity) : q.get.arrived = q.arrived := by
  rw [arrived,get,List.append_assoc,List.take_append_drop]
  rfl

end Fifo
end DiagRouter.Lib.Queue

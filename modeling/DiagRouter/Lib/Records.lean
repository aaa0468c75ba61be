import Mathlib.Data.List.Basic

/-!
# Counted records

A given number of records read off the front of a list of cells, each by a
reader that leaves the cells behind it. What writing items one behind the other
has spelled is read back as their records, and with it whatever is read after
them.
-/
namespace DiagRouter.Lib.Records

variable {α β γ : Type}

/-- `count` records, and the cells behind them. -/
def read_records (read : List α → Option (β × List α)) : (count : Nat) → List α → Option (List β × List α)
  | 0, cells => some ([],cells)
  | count + 1, cells =>
    (read cells).bind (fun first => (read_records read count first.2).map (fun others => (first.1 :: others.1,others.2)))

variable {read : List α → Option (β × List α)} {write : γ → List α} {record : γ → β} {items : List γ}

@[simp] theorem read_records_zero (cells : List α) : read_records read 0 cells = some ([],cells) := rfl

/-- Items that were written are read first. -/
theorem read_records_written (reads : ∀ item ∈ items, ∀ cells, read (write item ++ cells) = some (record item,cells))
    (count : Nat) (cells : List α) :
    read_records read (items.length + count) (items.flatMap write ++ cells) =
      (read_records read count cells).map (fun others => (items.map record ++ others.1,others.2)) := by
  induction items with
  | nil =>
    rw [List.length_nil,Nat.zero_add,List.flatMap_nil,List.nil_append]
    cases read_records read count cells <;> rfl
  | cons item items ih =>
    obtain ⟨first,others⟩ := List.forall_mem_cons.mp reads
    have more : (item :: items).length + count = (items.length + count) + 1 := by
      rw [List.length_cons]
      omega
    rw [more,read_records,List.flatMap_cons,List.append_assoc,first,Option.bind_some,ih others]
    cases read_records read count cells <;> rfl

/-- Nothing is left of items that were written alone. -/
theorem read_records_all (reads : ∀ item ∈ items, ∀ cells, read (write item ++ cells) = some (record item,cells)) :
    read_records read items.length (items.flatMap write) = some (items.map record,[]) := by
  have written := read_records_written reads 0 []
  rw [List.append_nil,Nat.add_zero] at written
  rw [written,read_records_zero,Option.map_some,List.append_nil]

/-- One record more than items were written is read from what follows them. -/
theorem read_records_more (reads : ∀ item ∈ items, ∀ cells, read (write item ++ cells) = some (record item,cells))
    {cells : List α} (nothing : read cells = none) :
    read_records read (items.length + 1) (items.flatMap write ++ cells) = none := by
  rw [read_records_written reads,read_records,nothing]
  rfl

end DiagRouter.Lib.Records

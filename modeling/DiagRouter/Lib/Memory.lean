import Mathlib.Data.List.GetD
import Mathlib.Tactic.Common

/-!
# Blocks of memory

A block is the list of cells an allocation granted. Copies, fills and reads
that leave their block fault instead of inventing contents, so a program that
runs to the end has stayed inside every block it was given.
-/
namespace DiagRouter.Lib.Memory

/-- How a C statement leaves the defined part of the language. -/
inductive Fault
  | outOfBounds
  | nullPointer
  | freed
  | assertion
  | hang
deriving DecidableEq, Repr

variable {α β ε : Type}

@[simp] theorem ok_bind (a : α) (f : α → Except ε β) : (Except.ok a >>= f) = f a := rfl
@[simp] theorem error_bind (e : ε) (f : α → Except ε β) : (Except.error e >>= f) = .error e := rfl
@[simp] theorem pure_ok (a : α) : (pure a : Except ε α) = .ok a := rfl
@[simp] theorem map_ok (f : α → β) (a : α) : f <$> (Except.ok a : Except ε α) = .ok (f a) := rfl
@[simp] theorem map_error (f : α → β) (e : ε) : f <$> (Except.error e : Except ε α) = .error e := rfl

/-- A computation that ends well has gone well in its first part. -/
theorem bind_eq_ok {x : Except ε α} {f : α → Except ε β} {b : β} :
    (x >>= f) = .ok b ↔ ∃ a, x = .ok a ∧ f a = .ok b := by
  cases x with
  | error e => simp
  | ok a => simp

theorem map_eq_ok {x : Except ε α} {f : α → β} {b : β} :
    (f <$> x) = .ok b ↔ ∃ a, x = .ok a ∧ f a = b := by
  cases x with
  | error e => simp
  | ok a => simp

/-- What a computation leaves behind where it does not fault. -/
def Ensures (x : Except ε α) (P : α → Prop) : Prop := ∀ a, x = .ok a → P a

theorem ensures_ok {P : α → Prop} {a : α} (holds : P a) : Ensures (Except.ok a : Except ε α) P := by
  rintro b ⟨⟩
  exact holds

theorem ensures_bind {x : Except ε α} {f : α → Except ε β} {P : β → Prop} (each : ∀ a, x = .ok a → Ensures (f a) P) :
    Ensures (x >>= f) P := by
  intro b ran
  obtain ⟨a,first,rest⟩ := bind_eq_ok.mp ran
  exact each a first b rest

/-- Each result is that of the element at its place. -/
theorem mapM_getElem? {f : α → Except ε β} {xs : List α} {ys : List β} (ran : xs.mapM f = .ok ys) {i : Nat} {x : α}
    (present : xs[i]? = some x) : ∃ y, ys[i]? = some y ∧ f x = .ok y := by
  induction xs generalizing ys i with
  | nil => simp at present
  | cons head rest ih =>
    rw [List.mapM_cons] at ran
    obtain ⟨first,here,more⟩ := bind_eq_ok.mp ran
    obtain ⟨others,later,same⟩ := bind_eq_ok.mp more
    cases same
    cases i with
    | zero =>
      cases present
      exact ⟨first,rfl,here⟩
    | succ i => exact ih later present

/-- What holds of every entry of a table still does once one entry has given way
    to another that has it too. -/
theorem forall_replaced {P : α → Prop} {before later : List α} {old new : α}
    (all : ∀ entry ∈ before ++ old :: later, P entry) (good : P new) : ∀ entry ∈ before ++ new :: later, P entry := by
  rw [List.forall_mem_append,List.forall_mem_cons] at all ⊢
  obtain ⟨early,_,late⟩ := all
  exact ⟨early,good,late⟩

/-! ## Copies and fills -/

/-- `memcpy(block + offset, cells, n)`. -/
def store (block : List α) (offset : Nat) (cells : List α) : Except Fault (List α) :=
  if offset + cells.length ≤ block.length then
    .ok (block.take offset ++ cells ++ block.drop (offset + cells.length))
  else .error .outOfBounds

/-- `memcpy(copy, block, count)` into a copy of its own. -/
def load (block : List α) (count : Nat) : Except Fault (List α) :=
  if count ≤ block.length then .ok (block.take count) else .error .outOfBounds

/-- `memset(block, cell, count)`. -/
def fill (block : List α) (count : Nat) (cell : α) : Except Fault (List α) :=
  store block 0 (List.replicate count cell)

/-- `realloc(block, count)`: the old contents, cut or followed by `junk`. -/
def resize (block : List α) (count : Nat) (junk : Nat → α) : List α :=
  block.take count ++ (List.range (count - block.length)).map junk

/-- The cells of `memory` from `offset` on. -/
def span (memory : Nat → α) (offset count : Nat) : List α :=
  (List.range count).map (fun i => memory (offset + i))

/-- The memory a list of cells occupies; what follows the list is `rest`. -/
def place (cells : List α) (rest : Nat → α) (i : Nat) : α :=
  (cells[i]?).getD (rest i)

theorem store_ok_iff {block cells after : List α} {offset : Nat} :
    store block offset cells = .ok after ↔
      offset + cells.length ≤ block.length ∧
        after = block.take offset ++ cells ++ block.drop (offset + cells.length) := by
  unfold store
  by_cases inside : offset + cells.length ≤ block.length
  · simp [inside,eq_comm]
  · simp [inside]

theorem store_length {block cells after : List α} {offset : Nat} (stored : store block offset cells = .ok after) :
    after.length = block.length := by
  obtain ⟨inside,rfl⟩ := store_ok_iff.mp stored
  simp only [List.length_append,List.length_take,List.length_drop]
  omega

/-- A store over as many cells. -/
theorem store_over {before old new : List α} (after : List α) (same : new.length = old.length) :
    store (before ++ old ++ after) before.length new = .ok (before ++ new ++ after) := by
  refine store_ok_iff.mpr ⟨by simp only [List.length_append]; omega,?_⟩
  rw [List.append_assoc before old,List.take_left,← List.append_assoc before old,List.drop_left' (by rw [List.length_append]; omega)]

/-- What a store leaves in each cell. -/
theorem store_getElem? {block cells after : List α} {offset : Nat} (stored : store block offset cells = .ok after)
    (k : Nat) :
    after[k]? = if offset ≤ k ∧ k < offset + cells.length then cells[k - offset]? else block[k]? := by
  obtain ⟨inside,rfl⟩ := store_ok_iff.mp stored
  have taken : (block.take offset).length = offset := by simp only [List.length_take]; omega
  by_cases below : k < offset
  · have outside : ¬ (offset ≤ k ∧ k < offset + cells.length) := by omega
    rw [if_neg outside,List.append_assoc,List.getElem?_append_left (by omega),List.getElem?_take,if_pos below]
  · by_cases within : k < offset + cells.length
    · rw [if_pos ⟨by omega,within⟩,List.append_assoc,List.getElem?_append_right (by omega),taken,
        List.getElem?_append_left (by omega)]
    · have outside : ¬ (offset ≤ k ∧ k < offset + cells.length) := by omega
      have taken' : (block.take offset ++ cells).length = offset + cells.length := by
        rw [List.length_append,taken]
      rw [if_neg outside,List.getElem?_append_right (by omega),taken',List.getElem?_drop]
      congr 1
      omega

theorem load_ok_iff {block cells : List α} {count : Nat} :
    load block count = .ok cells ↔ count ≤ block.length ∧ cells = block.take count := by
  unfold load
  by_cases inside : count ≤ block.length
  · simp [inside,eq_comm]
  · simp [inside]

theorem load_length {block cells : List α} {count : Nat} (loaded : load block count = .ok cells) :
    cells.length = count := by
  obtain ⟨inside,rfl⟩ := load_ok_iff.mp loaded
  rw [List.length_take]
  omega

theorem fill_ok_iff {block after : List α} {count : Nat} {cell : α} :
    fill block count cell = .ok after ↔
      count ≤ block.length ∧ after = List.replicate count cell ++ block.drop count := by
  simp [fill,store_ok_iff]

theorem fill_length {block after : List α} {count : Nat} {cell : α} (filled : fill block count cell = .ok after) :
    after.length = block.length :=
  store_length filled

@[simp] theorem resize_length (block : List α) (count : Nat) (junk : Nat → α) :
    (resize block count junk).length = count := by
  simp only [resize,List.length_append,List.length_take,List.length_map,List.length_range]
  omega

/-- Resizing keeps the cells that fit. -/
theorem resize_getElem? {block : List α} {count : Nat} (junk : Nat → α) {k : Nat} (inside : k < count)
    (old : k < block.length) : (resize block count junk)[k]? = block[k]? := by
  have taken : k < (block.take count).length := by simp only [List.length_take]; omega
  rw [resize,List.getElem?_append_left taken,List.getElem?_take,if_pos inside]

@[simp] theorem span_length (memory : Nat → α) (offset count : Nat) : (span memory offset count).length = count := by
  simp [span]

theorem span_getElem? {memory : Nat → α} {offset count k : Nat} (inside : k < count) :
    (span memory offset count)[k]? = some (memory (offset + k)) := by
  simp [span,inside]

theorem span_append (memory : Nat → α) (offset first second : Nat) :
    span memory offset (first + second) = span memory offset first ++ span memory (offset + first) second := by
  simp [span,List.range_add,Nat.add_assoc]

theorem span_take {memory : Nat → α} {offset first count : Nat} (within : first ≤ count) :
    (span memory offset count).take first = span memory offset first := by
  obtain ⟨rest,rfl⟩ := Nat.exists_eq_add_of_le within
  rw [span_append,List.take_left' (span_length memory offset first)]

/-- A block that agrees with a memory cell by cell begins with its span. -/
theorem take_eq_span {block : List α} {memory : Nat → α} {count : Nat}
    (same : ∀ k, k < count → block[k]? = some (memory k)) : block.take count = span memory 0 count := by
  apply List.ext_getElem?
  intro k
  by_cases inside : k < count
  · rw [List.getElem?_take,if_pos inside,same k inside,span_getElem? inside,Nat.zero_add]
  · rw [List.getElem?_take,if_neg inside,List.getElem?_eq_none (by rw [span_length]; omega)]

/-- Only the cells of the span matter to it. -/
theorem span_congr {memory other : Nat → α} {offset count : Nat}
    (same : ∀ i, offset ≤ i → i < offset + count → memory i = other i) :
    span memory offset count = span other offset count := by
  apply List.map_congr_left
  intro i member
  exact same _ (by omega) (by have := List.mem_range.mp member; omega)

theorem place_inside {cells : List α} {rest : Nat → α} {i : Nat} (inside : i < cells.length) :
    place cells rest i = cells[i] := by
  simp [place,inside]

theorem span_place (before cells after : List α) (rest : Nat → α) :
    span (place (before ++ cells ++ after) rest) before.length cells.length = cells := by
  apply List.ext_getElem
  · simp
  · intro k inside inside'
    have bound : before.length + k < (before ++ cells ++ after).length := by simp; omega
    simp only [span,List.getElem_map,List.getElem_range,place_inside bound]
    rw [List.getElem_append_left (by simp; omega),List.getElem_append_right (by omega)]
    simp

end DiagRouter.Lib.Memory

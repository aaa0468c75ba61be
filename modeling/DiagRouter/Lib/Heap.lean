import DiagRouter.Lib.Runs
import DiagRouter.Lib.Memory
import Mathlib.Data.List.Nodup
import Mathlib.Data.List.Perm.Basic

/-!
# A heap

Blocks that `malloc` grants or refuses, and that `free` gives back. An address is
the number of the call that got it, so none is used again, and freeing a block
twice is a fault.
-/
namespace DiagRouter.Lib.Heap
open DiagRouter.Lib.Memory DiagRouter.Lib.Runs

/-- The blocks that are live, with their sizes. -/
structure Blocks where
  calls : Nat
  live : List (Nat × Nat)
deriving DecidableEq, Repr

/-- `granted` tells the calls that get their block. -/
def malloc (granted : Nat → Bool) (size : Nat) (h : Blocks) : Option Nat × Blocks :=
  if granted h.calls then (some h.calls,⟨h.calls + 1,h.live ++ [(h.calls,size)]⟩) else (none,⟨h.calls + 1,h.live⟩)

def free (h : Blocks) : Option Nat → Except Fault Blocks
  | none => .ok h
  | some addr =>
    if addr ∈ h.live.map Prod.fst then .ok { h with live := h.live.filter (fun block => block.1 ≠ addr) } else .error .freed

/-- Blocks one after the other, up to the first that is refused; pointers behind
    it stay NULL. -/
def mallocs (granted : Nat → Bool) : List Nat → Blocks → Bool × List (Option Nat) × Blocks
  | [], h => (true,[],h)
  | size :: sizes, h =>
    match malloc granted size h with
    | (none,after) => (false,none :: sizes.map (fun _ => none),after)
    | (some addr,after) =>
      let (done,ptrs,last) := mallocs granted sizes after
      (done,some addr :: ptrs,last)

section
variable {granted : Nat → Bool} {h t : Blocks}

/-- Addresses are below the number of calls. -/
def Valid (h : Blocks) : Prop := ∀ block ∈ h.live, block.1 < h.calls

/-- Of the blocks asked for, the first `k` are got. -/
structure Got (granted : Nat → Bool) (sizes : List Nat) (h : Blocks) (k : Nat) (ptrs : List (Option Nat)) (t : Blocks) : Prop where
  most : k ≤ sizes.length
  first : ∀ j, j < k → granted (h.calls + j) = true
  refused : k < sizes.length → granted (h.calls + k) = false
  ptrs : ptrs = (List.range' h.calls k).map some ++ List.replicate (sizes.length - k) none
  live : t.live = h.live ++ (List.range' h.calls k).zip (sizes.take k)

theorem mallocs_got (sizes : List Nat) (h : Blocks) :
    ∃ k, Got granted sizes h k (mallocs granted sizes h).2.1 (mallocs granted sizes h).2.2 ∧
      ((mallocs granted sizes h).1 = true ↔ k = sizes.length) := by
  induction sizes generalizing h with
  | nil =>
    exact ⟨0,⟨Nat.le_refl 0,(fun j below => absurd below (Nat.not_lt_zero j)),(fun below => absurd below (Nat.lt_irrefl 0)),rfl,
      (List.append_nil _).symm⟩,by simp [mallocs]⟩
  | cons size sizes ih =>
    cases first : granted h.calls with
    | false =>
      have ran : mallocs granted (size :: sizes) h = (false,none :: sizes.map (fun _ => none),⟨h.calls + 1,h.live⟩) := by
        simp [mallocs,malloc,first]
      rw [ran]
      refine ⟨0,⟨Nat.zero_le _,(fun j below => absurd below (Nat.not_lt_zero j)),(fun _ => first),?_,?_⟩,by simp⟩
      · simp [List.replicate_succ,List.map_const']
      · simp
    | true =>
      obtain ⟨k,got,done⟩ := ih ⟨h.calls + 1,h.live ++ [(h.calls,size)]⟩
      have ran : mallocs granted (size :: sizes) h =
          ((mallocs granted sizes ⟨h.calls + 1,h.live ++ [(h.calls,size)]⟩).1,
            some h.calls :: (mallocs granted sizes ⟨h.calls + 1,h.live ++ [(h.calls,size)]⟩).2.1,
            (mallocs granted sizes ⟨h.calls + 1,h.live ++ [(h.calls,size)]⟩).2.2) := by
        simp [mallocs,malloc,first]
      rw [ran]
      refine ⟨k + 1,⟨Nat.succ_le_succ got.most,?_,?_,?_,?_⟩,?_⟩
      · intro j below
        cases j with
        | zero => exact first
        | succ j =>
          have rest := got.first j (by omega)
          dsimp only at rest
          rwa [show h.calls + (j + 1) = h.calls + 1 + j by omega]
      · intro below
        have rest := got.refused (by simpa using below)
        dsimp only at rest
        rwa [show h.calls + (k + 1) = h.calls + 1 + k by omega]
      · rw [List.length_cons,Nat.add_sub_add_right,List.range'_succ,List.map_cons,List.cons_append,← got.ptrs]
      · rw [got.live,List.range'_succ,List.take_succ_cons,List.zip_cons_cons,List.append_assoc]
        rfl
      · rw [done]
        simp

/-- A list of blocks is got in two parts; the second is not asked for when the
    first is refused. -/
theorem mallocs_append (xs ys : List Nat) (h : Blocks) :
    mallocs granted (xs ++ ys) h =
      if (mallocs granted xs h).1 then
        ((mallocs granted ys (mallocs granted xs h).2.2).1,
          (mallocs granted xs h).2.1 ++ (mallocs granted ys (mallocs granted xs h).2.2).2.1,
          (mallocs granted ys (mallocs granted xs h).2.2).2.2)
      else (false,(mallocs granted xs h).2.1 ++ ys.map (fun _ => none),(mallocs granted xs h).2.2) := by
  induction xs generalizing h with
  | nil => rfl
  | cons size xs ih =>
    cases first : granted h.calls with
    | false => simp [mallocs,malloc,first]
    | true =>
      have rest := ih ⟨h.calls + 1,h.live ++ [(h.calls,size)]⟩
      simp only [List.cons_append,mallocs,malloc,first,if_true,rest]
      split_ifs <;> rfl

/-! ## Giving back -/

/-- Blocks that are live are all freed, once each. -/
theorem free_all {ptrs : List (Option Nat)} (distinct : (ptrs.filterMap id).Nodup)
    (live : ∀ addr, some addr ∈ ptrs → addr ∈ h.live.map Prod.fst) :
    exec free h ptrs = .ok { h with live := h.live.filter (fun block => some block.1 ∉ ptrs) } := by
  induction ptrs generalizing h with
  | nil => simp [exec,List.filter_true]
  | cons ptr ptrs ih =>
    rw [exec_cons]
    cases ptr with
    | none =>
      rw [free,ok_bind,ih distinct (fun addr member => live addr (List.mem_cons_of_mem _ member))]
      simp
    | some addr =>
      rw [show (some addr :: ptrs).filterMap id = addr :: ptrs.filterMap id from rfl,List.nodup_cons] at distinct
      have once : some addr ∉ ptrs := fun member => distinct.1 (List.mem_filterMap.mpr ⟨_,member,rfl⟩)
      rw [free,if_pos (live addr List.mem_cons_self),ok_bind,ih distinct.2]
      · simp only [List.filter_filter,List.mem_cons,Option.some.injEq,not_or]
        congr 2
        refine List.filter_congr fun block _ => ?_
        rw [Bool.eq_iff_iff]
        simp only [ne_eq,Bool.and_eq_true,decide_eq_true_eq]
        exact And.comm
      · intro other member
        obtain ⟨block,listed,rfl⟩ := List.mem_map.mp (live other (List.mem_cons_of_mem _ member))
        refine List.mem_map_of_mem (List.mem_filter.mpr ⟨listed,decide_eq_true ?_⟩)
        rintro rfl
        exact once member

/-- What was allocated since is freed, and nothing else. -/
theorem freed_back (valid : Valid h) {k : Nat} {sizes : List Nat} (most : k ≤ sizes.length)
    (live : t.live = h.live ++ (List.range' h.calls k).zip (sizes.take k)) {ptrs : List (Option Nat)}
    (all : (ptrs.filterMap id).Perm (List.range' h.calls k)) : exec free t ptrs = .ok { t with live := h.live } := by
  have addresses : ((List.range' h.calls k).zip (sizes.take k)).map Prod.fst = List.range' h.calls k :=
    List.map_fst_zip (by simp [most])
  have member {addr : Nat} : some addr ∈ ptrs ↔ addr ∈ List.range' h.calls k := by
    rw [← all.mem_iff,List.mem_filterMap]
    simp
  rw [free_all (all.nodup_iff.mpr List.nodup_range') ?_]
  · congr 2
    rw [live,List.filter_append]
    have old : h.live.filter (fun block => some block.1 ∉ ptrs) = h.live := by
      rw [List.filter_eq_self]
      intro block listed
      have below := valid block listed
      simp only [decide_eq_true_eq,member,List.mem_range'_1,not_and,Nat.not_lt]
      omega
    have new : ((List.range' h.calls k).zip (sizes.take k)).filter (fun block => some block.1 ∉ ptrs) = [] := by
      rw [List.filter_eq_nil_iff]
      intro block listed kept
      have address : block.1 ∈ List.range' h.calls k := addresses ▸ List.mem_map_of_mem listed
      exact of_decide_eq_true kept (member.mpr address)
    rw [old,new,List.append_nil]
  · intro addr listed
    rw [live,List.map_append,addresses]
    exact List.mem_append_right _ (member.mp listed)

end

end DiagRouter.Lib.Heap

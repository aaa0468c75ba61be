import Mathlib.Data.List.Sort
import Mathlib.Data.List.Perm.Subperm
import Mathlib.Order.Defs.LinearOrder

/-!
# Taking the least first

A scan that keeps the first element until it meets a smaller one ends at the
first of the smallest. Taking that one out, again and again, takes a list apart
in the order of a stable sort. The least number that is not taken is found by such a
scan too.
-/
namespace DiagRouter.Lib.Selection

variable {α κ : Type} [LinearOrder κ] {key : α → κ}

/-- Where the scan ends. -/
def least (key : α → κ) (selected : α) (rest : List α) : α :=
  rest.foldl (fun selected x => if key x < key selected then x else selected) selected

/-- What is before the selected element is greater, what is behind it is not
    smaller. -/
theorem least_split (key : α → κ) (x : α) (xs : List α) :
    ∃ front back, x :: xs = front ++ least key x xs :: back ∧ (∀ y ∈ front, key (least key x xs) < key y) ∧
      ∀ y ∈ back, key (least key x xs) ≤ key y := by
  induction xs generalizing x with
  | nil => exact ⟨[],[],rfl,by simp,by simp⟩
  | cons y xs ih =>
    by_cases smaller : key y < key x
    · have step : least key x (y :: xs) = least key y xs := by rw [least,List.foldl_cons,if_pos smaller,least]
      obtain ⟨front,back,split,greater,others⟩ := ih y
      rw [step]
      refine ⟨x :: front,back,by rw [split,List.cons_append],?_,others⟩
      have below : key (least key y xs) ≤ key y := by
        have member : y ∈ front ++ least key y xs :: back := split ▸ List.mem_cons_self
        rcases List.mem_append.mp member with early | late
        · exact (greater y early).le
        · rcases List.mem_cons.mp late with same | behind
          · exact (congrArg key same).ge
          · exact others y behind
      exact List.forall_mem_cons.mpr ⟨below.trans_lt smaller,greater⟩
    · have step : least key x (y :: xs) = least key x xs := by rw [least,List.foldl_cons,if_neg smaller,least]
      obtain ⟨front,back,split,greater,others⟩ := ih x
      rw [step]
      have above := not_lt.mp smaller
      cases front with
      | nil =>
        obtain ⟨same,rest⟩ := List.cons.inj split
        rw [← same] at others ⊢
        exact ⟨[],y :: xs,rfl,by simp,List.forall_mem_cons.mpr ⟨above,rest ▸ others⟩⟩
      | cons first front =>
        obtain ⟨rfl,rest⟩ := List.cons.inj split
        obtain ⟨here,more⟩ := List.forall_mem_cons.mp greater
        refine ⟨x :: y :: front,back,congrArg (fun tail => x :: y :: tail) rest,?_,others⟩
        exact List.forall_mem_cons.mpr ⟨here,List.forall_mem_cons.mpr ⟨here.trans_le above,more⟩⟩

/-- A stable sort begins with the first of the smallest elements. -/
theorem insertionSort_split {front back : List α} {x : α} (greater : ∀ y ∈ front, key x < key y)
    (others : ∀ y ∈ back, key x ≤ key y) :
    (front ++ x :: back).insertionSort (fun a b => key a ≤ key b) =
      x :: (front ++ back).insertionSort (fun a b => key a ≤ key b) := by
  induction front with
  | nil => exact List.insertionSort_cons_of_forall_rel _ others
  | cons y front ih =>
    obtain ⟨here,more⟩ := List.forall_mem_cons.mp greater
    rw [List.cons_append,List.insertionSort_cons,ih more,List.orderedInsert_cons,if_neg (not_le.mpr here)]
    rfl

/-- A scan is the same for keys that compare the same. -/
theorem foldl_least {lt : α → α → Bool} {x : α} {xs : List α}
    (same : ∀ a ∈ x :: xs, ∀ b ∈ x :: xs, (lt a b = true ↔ key a < key b)) :
    xs.foldl (fun selected y => if lt y selected then y else selected) x = least key x xs := by
  induction xs generalizing x with
  | nil => rfl
  | cons y xs ih =>
    have here := same y (by simp) x (by simp)
    by_cases smaller : key y < key x
    · rw [List.foldl_cons,if_pos (here.mpr smaller),least,List.foldl_cons,if_pos smaller]
      exact ih (fun a left b right => same a (List.mem_cons_of_mem x left) b (List.mem_cons_of_mem x right))
    · rw [List.foldl_cons,if_neg (fun less => smaller (here.mp less)),least,List.foldl_cons,if_neg smaller]
      have fewer : ∀ a, a ∈ x :: xs → a ∈ x :: y :: xs := by
        intro a member
        rcases List.mem_cons.mp member with rfl | late
        · exact List.mem_cons_self
        · exact List.mem_cons_of_mem x (List.mem_cons_of_mem y late)
      exact ih (fun a left b right => same a (fewer a left) b (fewer b right))

/-! ## The least that is free -/

/-- The least natural number that is not among those taken. -/
def unused (taken : List Int) : Nat := ((List.range (taken.length + 1)).find? (fun n : Nat => (n : Int) ∉ taken)).getD 0

theorem unused_free (taken : List Int) : (unused taken : Int) ∉ taken := by
  unfold unused
  cases found : (List.range (taken.length + 1)).find? (fun n : Nat => (n : Int) ∉ taken) with
  | some n => simpa using List.find?_some found
  | none =>
    -- there would be more numbers than places in the list
    have inside : (List.range (taken.length + 1)).map (fun n : Nat => (n : Int)) ⊆ taken := by
      intro fd member
      obtain ⟨n,below,rfl⟩ := List.mem_map.mp member
      simpa using List.find?_eq_none.mp found n below
    have distinct : ((List.range (taken.length + 1)).map (fun n : Nat => (n : Int))).Nodup :=
      List.Nodup.map (fun _ _ same => Int.ofNat.inj same) List.nodup_range
    have fits := (List.subperm_of_subset distinct inside).length_le
    rw [List.length_map,List.length_range] at fits
    omega

end DiagRouter.Lib.Selection

import DiagRouter.Lib.Memory
import Mathlib.Logic.Function.Basic

/-!
# Circular doubly linked lists

Nodes link to each other and to the head of their list. A node that was taken
out of its list, or was freed, must not be looked at any more: doing so is a
fault. `Linked` says which nodes a list has, in order, and the operations and
the loop that may lose the node it stands on are described by it.
-/
namespace DiagRouter.Lib.LinkedList
open DiagRouter.Lib.Memory

/-- The links and the marks of all nodes, heads of lists among them. -/
structure Links (α : Type) where
  prev : α → α
  next : α → α
  removed : α → Bool
  freed : α → Bool

section
variable {α : Type}

/-- The node was removed from its list, freed, or both. -/
def Links.gone (m : Links α) (a : α) : Bool := m.removed a || m.freed a

def get_prev (m : Links α) (a : α) : Except Fault α := if m.gone a then .error .freed else .ok (m.prev a)

def get_next (m : Links α) (a : α) : Except Fault α := if m.gone a then .error .freed else .ok (m.next a)

theorem get_prev_present {m : Links α} {a : α} (present : m.gone a = false) : get_prev m a = .ok (m.prev a) := by
  simp [get_prev,present]

theorem get_next_present {m : Links α} {a : α} (present : m.gone a = false) : get_next m a = .ok (m.next a) := by
  simp [get_next,present]

/-! ## Segments -/

/-- The nodes `xs` lie between `a` and `b`, linked in both directions. -/
def Segment (m : Links α) : (a : α) → (xs : List α) → (b : α) → Prop
  | a, [], b => m.next a = b ∧ m.prev b = a
  | a, x :: xs, b => m.next a = x ∧ m.prev x = a ∧ Segment m x xs b

variable {m m' : Links α} {a b item list : α} {xs ys : List α}

theorem segment_append : Segment m a (xs ++ item :: ys) b ↔ Segment m a xs item ∧ Segment m item ys b := by
  induction xs generalizing a with
  | nil => simp [Segment,and_assoc]
  | cons x xs ih => simp only [List.cons_append,Segment,ih,and_assoc]

/-- A segment depends on the links of its own nodes only. -/
theorem segment_congr (next : ∀ x ∈ a :: xs, m'.next x = m.next x) (prev : ∀ x ∈ xs ++ [b], m'.prev x = m.prev x)
    (segment : Segment m a xs b) : Segment m' a xs b := by
  induction xs generalizing a with
  | nil => exact ⟨(next a List.mem_cons_self).trans segment.1,(prev b List.mem_cons_self).trans segment.2⟩
  | cons x xs ih =>
    obtain ⟨forth,back,rest⟩ := segment
    refine ⟨(next a List.mem_cons_self).trans forth,(prev x List.mem_cons_self).trans back,?_⟩
    exact ih (fun y member => next y (List.mem_cons_of_mem a member))
      (fun y member => prev y (List.mem_cons_of_mem x member)) rest

/-- The last node before the end. -/
theorem segment_prev_mem (segment : Segment m a xs b) : m.prev b ∈ a :: xs := by
  induction xs generalizing a with
  | nil => exact segment.2 ▸ List.mem_cons_self
  | cons x xs ih => exact List.mem_cons_of_mem a (ih segment.2.2)

/-- A segment that ends in another node, where the last link leads there and all
    others are kept. -/
theorem segment_retarget (distinct : (a :: xs).Nodup) (last : m'.next (m.prev b) = item) (back : m'.prev item = m.prev b)
    (next : ∀ x ∈ a :: xs, x ≠ m.prev b → m'.next x = m.next x) (prev : ∀ x ∈ xs, m'.prev x = m.prev x)
    (segment : Segment m a xs b) : Segment m' a xs item := by
  induction xs generalizing a with
  | nil =>
    rw [segment.2] at last back
    exact ⟨last,back⟩
  | cons x xs ih =>
    obtain ⟨forth,behind,rest⟩ := segment
    have a_before : a ≠ m.prev b := fun same => (List.nodup_cons.mp distinct).1 (same ▸ segment_prev_mem rest)
    refine ⟨(next a List.mem_cons_self a_before).trans forth,(prev x List.mem_cons_self).trans behind,?_⟩
    exact ih (List.nodup_cons.mp distinct).2 (fun y member => next y (List.mem_cons_of_mem a member))
      (fun y member => prev y (List.mem_cons_of_mem x member)) rest

/-- What follows the head of a list that is left. -/
def first (list : α) (xs : List α) : α := xs.head?.getD list

/-- What follows the last of a list is behind it, or is its head. -/
theorem first_mem (list : α) (xs : List α) : first list xs = list ∨ first list xs ∈ xs := by
  cases xs with
  | nil => exact .inl rfl
  | cons x xs => exact .inr List.mem_cons_self

theorem segment_next (segment : Segment m a xs b) : m.next a = first b xs := by
  cases xs with
  | nil => exact segment.1
  | cons x xs => exact segment.1

/-! ## Lists -/

/-- The list has the nodes `xs`, in this order, all of them there. -/
structure Linked (m : Links α) (list : α) (xs : List α) : Prop where
  distinct : (list :: xs).Nodup
  present : ∀ a ∈ list :: xs, m.gone a = false
  links : Segment m list xs list

theorem Linked.next (linked : Linked m list (xs ++ item :: ys)) : get_next m item = .ok (first list ys) := by
  have present := linked.present item (by simp)
  rw [get_next_present present,segment_next (segment_append.mp linked.links).2]

theorem Linked.head (linked : Linked m list xs) : get_next m list = .ok (first list xs) := by
  rw [get_next_present (linked.present list List.mem_cons_self),segment_next linked.links]

theorem Linked.ne_head (linked : Linked m list (xs ++ item :: ys)) : item ≠ list := by
  rintro rfl
  simpa using (List.nodup_cons.mp linked.distinct).1

variable [DecidableEq α]

def set_prev (m : Links α) (a target : α) : Except Fault (Links α) :=
  if m.gone a then .error .freed else .ok { m with prev := Function.update m.prev a target }

def set_next (m : Links α) (a target : α) : Except Fault (Links α) :=
  if m.gone a then .error .freed else .ok { m with next := Function.update m.next a target }

theorem set_prev_present (present : m.gone a = false) (target : α) :
    set_prev m a target = .ok { m with prev := Function.update m.prev a target } := by
  simp [set_prev,present]

theorem set_next_present (present : m.gone a = false) (target : α) :
    set_next m a target = .ok { m with next := Function.update m.next a target } := by
  simp [set_next,present]

def list_del (m : Links α) (item : α) : Except Fault (Links α) := do
  let m ← set_next m (← get_prev m item) (← get_next m item)
  let m ← set_prev m (← get_next m item) (← get_prev m item)
  return { m with removed := Function.update m.removed item true }

def free (m : Links α) (a : α) : Links α := { m with freed := Function.update m.freed a true }

/-- Where the node before `item` links to `b` instead, and `b` back to it. -/
theorem segment_redirect (distinct : (a :: xs).Nodup) (beyond : b ∉ xs)
    (segment : Segment m a xs item) :
    Segment { m with
      next := Function.update m.next (m.prev item) b
      prev := Function.update m.prev b (m.prev item) } a xs b := by
  refine segment_retarget distinct (Function.update_self ..) (Function.update_self ..) ?_ ?_ segment
  · exact fun x _ other => Function.update_of_ne other ..
  · intro x member
    have other : x ≠ b := fun same => beyond (same ▸ member)
    exact Function.update_of_ne other ..

/-- Where the node and its neighbours are there, the neighbours are linked to
    each other. -/
theorem list_del_present (present : m.gone item = false) (before : m.gone (m.prev item) = false)
    (behind : m.gone (m.next item) = false) (other : item ≠ m.prev item) :
    list_del m item = .ok { m with
      next := Function.update m.next (m.prev item) (m.next item)
      prev := Function.update m.prev (m.next item) (m.prev item)
      removed := Function.update m.removed item true } := by
  let unlinked : Links α := { m with next := Function.update m.next (m.prev item) (m.next item) }
  have forth : unlinked.next item = m.next item := Function.update_of_ne other ..
  rw [list_del,get_prev_present present,ok_bind,get_next_present present,ok_bind,set_next_present before,ok_bind]
  change (get_next unlinked item >>= _) = _
  rw [get_next_present (m := unlinked) present,ok_bind,get_prev_present (m := unlinked) present,ok_bind,forth,
    set_prev_present (m := unlinked) behind,ok_bind]
  rfl

/-- The nodes of a list but `item`, whose neighbours link to each other. -/
theorem segment_del (distinct : (list :: (xs ++ item :: ys)).Nodup) (segment : Segment m list (xs ++ item :: ys) list) :
    Segment { m with
      next := Function.update m.next (m.prev item) (m.next item)
      prev := Function.update m.prev (m.next item) (m.prev item) } list (xs ++ ys) list := by
  rw [← List.cons_append,List.nodup_append] at distinct
  obtain ⟨early,late,apart⟩ := distinct
  obtain ⟨front,back⟩ := segment_append.mp segment
  have last := segment_prev_mem front
  have beyond : first list ys ∉ xs := by
    intro member
    rcases first_mem list ys with head | rest
    · exact (List.nodup_cons.mp early).1 (head ▸ member)
    · exact apart _ (List.mem_cons_of_mem list member) _ (List.mem_cons_of_mem item rest) rfl
  rw [segment_next back]
  have redirected := segment_redirect early beyond front
  cases ys with
  | nil =>
    rw [List.append_nil]
    exact redirected
  | cons y ys =>
    refine segment_append.mpr ⟨redirected,?_⟩
    refine segment_congr ?_ ?_ back.2.2
    · intro x member
      have other : x ≠ m.prev item := by
        rintro rfl
        exact apart _ last _ (List.mem_cons_of_mem item member) rfl
      exact Function.update_of_ne other ..
    · intro x member
      have other : x ≠ y := by
        rintro rfl
        rcases List.mem_append.mp member with rest | head
        · exact (List.nodup_cons.mp (List.nodup_cons.mp late).2).1 rest
        · exact apart x (List.mem_singleton.mp head ▸ List.mem_cons_self) x
            (List.mem_cons_of_mem item List.mem_cons_self) rfl
      exact Function.update_of_ne other ..

/-- A node that is taken out leaves the others as they were. -/
theorem list_del_linked (linked : Linked m list (xs ++ item :: ys)) :
    ∃ m', list_del m item = .ok m' ∧ Linked m' list (xs ++ ys) ∧ m'.removed = Function.update m.removed item true ∧
      m'.freed = m.freed := by
  obtain ⟨front,back⟩ := segment_append.mp linked.links
  have last := segment_prev_mem front
  have follows := segment_next back
  have sublist : (list :: (xs ++ ys)).Sublist (list :: (xs ++ item :: ys)) :=
    ((List.Sublist.refl xs).append (List.sublist_cons_self item ys)).cons_cons list
  have apart : item ∉ list :: (xs ++ ys) := by
    have distinct := linked.distinct
    rw [← List.cons_append,List.perm_middle.nodup_iff] at distinct
    exact (List.nodup_cons.mp distinct).1
  have still : ∀ a ∈ list :: (xs ++ ys), m.gone a = false := fun a member => linked.present a (sublist.subset member)
  have front_kept : m.prev item ∈ list :: (xs ++ ys) := List.mem_append_left ys last
  have back_kept : m.next item ∈ list :: (xs ++ ys) := by
    rw [follows]
    rcases first_mem list ys with head | rest
    · rw [head]
      exact List.mem_cons_self
    · exact List.mem_append_right (list :: xs) rest
  have other : item ≠ m.prev item := fun same => apart (same ▸ front_kept)
  refine ⟨_,list_del_present (linked.present item (by simp)) (still _ front_kept) (still _ back_kept) other,
    ⟨linked.distinct.sublist sublist,?_,?_⟩,rfl,rfl⟩
  · intro a member
    have other : a ≠ item := fun same => apart (same ▸ member)
    have present := still a member
    simp only [Links.gone,Function.update_of_ne other] at present ⊢
    exact present
  · refine segment_congr ?_ ?_ (segment_del linked.distinct linked.links)
    · exact fun _ _ => rfl
    · exact fun _ _ => rfl

/-- Freeing a node that is in no list. -/
theorem free_linked (linked : Linked m list xs) (apart : a ∉ list :: xs) : Linked (free m a) list xs := by
  refine ⟨linked.distinct,?_,?_⟩
  · intro x member
    have other : x ≠ a := fun same => apart (same ▸ member)
    have present := linked.present x member
    simp only [Links.gone,free,Function.update_of_ne other] at present ⊢
    exact present
  · refine segment_congr ?_ ?_ linked.links
    · exact fun _ _ => rfl
    · exact fun _ _ => rfl

end

/-! ## Loops -/

section
variable {α σ : Type} [DecidableEq α]

/-- `list_for_each_safe` from a node on: the one after it is looked up before its
    turn. `links` finds the links in the state. -/
def for_each_safe (links : σ → Links α) (body : σ → α → Except Fault σ) (list : α) :
    (fuel : Nat) → (item next : α) → σ → Except Fault σ
  | 0, _, _, _ => .error .hang
  | fuel + 1, item, next, s =>
    if item = list then .ok s
    else do
      let s ← body s item
      let following ← get_next (links s) next
      for_each_safe links body list fuel next following s

def list_for_each_safe (links : σ → Links α) (body : σ → α → Except Fault σ) (list : α) (fuel : Nat) (s : σ) :
    Except Fault σ := do
  let item ← get_next (links s) list
  let next ← get_next (links s) item
  for_each_safe links body list fuel item next s

variable {links : σ → Links α} {body : σ → α → Except Fault σ} {list : α} {xs : List α} {s : σ}

/-- The loop begins with the first node and the one behind it. -/
theorem list_for_each_safe_linked (body : σ → α → Except Fault σ) (linked : Linked (links s) list xs) (fuel : Nat) :
    ∃ next, list_for_each_safe links body list fuel s = for_each_safe links body list fuel (first list xs) next s ∧
      ∀ x rest, xs = x :: rest → next = first list rest := by
  cases xs with
  | nil =>
    refine ⟨list,?_,by simp⟩
    have head : get_next (links s) list = .ok list := linked.head
    rw [list_for_each_safe,head,ok_bind,head,ok_bind]
    rfl
  | cons x rest =>
    have head : get_next (links s) list = .ok x := linked.head
    have next : get_next (links s) x = .ok (first list rest) := @Linked.next _ _ x list [] rest linked
    refine ⟨first list rest,?_,?_⟩
    · rw [list_for_each_safe,head,ok_bind,next,ok_bind]
      rfl
    · rintro y others same
      rw [(List.cons.inj same).2]

/-- One turn of the loop. -/
theorem for_each_safe_turn {item next : α} (inside : item ≠ list) (fuel : Nat) :
    for_each_safe links body list (fuel + 1) item next s = (body s item >>= fun t =>
      get_next (links t) next >>= fun following => for_each_safe links body list fuel next following t) := by
  rw [for_each_safe,if_neg inside]

theorem for_each_safe_end {next : α} (fuel : Nat) : for_each_safe links body list (fuel + 1) list next s = .ok s := by
  rw [for_each_safe,if_pos rfl]

/-- The turn of the node behind `front` goes well and leaves the one behind it
    where it was, behind `kept`; so the loop goes on from there. -/
theorem for_each_safe_next {front kept rest more : List α} {x : α} {t : σ}
    (linked : Linked (links s) list (front ++ x :: rest)) (turn : body s x = .ok t)
    (after : Linked (links t) list (kept ++ more)) (same : first list more = first list rest) (fuel : Nat) :
    ∃ following, for_each_safe links body list (fuel + 1) x (first list rest) s =
      for_each_safe links body list fuel (first list more) following t ∧
      ∀ y others, more = y :: others → following = first list others := by
  have step (following : α) (found : get_next (links t) (first list more) = .ok following) :
      for_each_safe links body list (fuel + 1) x (first list rest) s =
        for_each_safe links body list fuel (first list more) following t := by
    rw [for_each_safe_turn linked.ne_head,turn,ok_bind,← same,found,ok_bind]
  cases more with
  | nil =>
    rw [List.append_nil] at after
    exact ⟨first list kept,step _ after.head,by simp⟩
  | cons y others =>
    refine ⟨first list others,step _ after.next,?_⟩
    rintro z tail split
    rw [(List.cons.inj split).2]

/-- A loop that loses no node but the one it stands on goes through them all:
    what `I` says of the nodes passed and the ones to come is carried to the
    end. -/
theorem list_for_each_safe_rule {I : (passed rest : List α) → σ → Prop}
    (linked : ∀ {passed rest s}, I passed rest s → ∃ front, Linked (links s) list (front ++ rest))
    (turn : ∀ {passed x rest s}, I passed (x :: rest) s → ∃ t, body s x = .ok t ∧ I (passed ++ [x]) rest t)
    {fuel : Nat} (enough : xs.length < fuel) (list_xs : Linked (links s) list xs) (start : I [] xs s) :
    ∃ t, list_for_each_safe links body list fuel s = .ok t ∧ I xs [] t := by
  have carry {passed rest : List α} {s : σ} {fuel : Nat} {next : α} (enough : rest.length < fuel) (now : I passed rest s)
      (cached : ∀ x more, rest = x :: more → next = first list more) :
      ∃ t, for_each_safe links body list fuel (first list rest) next s = .ok t ∧ I (passed ++ rest) [] t := by
    induction rest generalizing passed s fuel next with
    | nil =>
      obtain ⟨fuel,rfl⟩ := Nat.exists_eq_add_of_lt enough
      exact ⟨s,for_each_safe_end _,(List.append_nil passed).symm ▸ now⟩
    | cons x rest ih =>
      obtain ⟨fuel,rfl⟩ : ∃ n, fuel = n + 1 := Nat.exists_eq_add_one.mpr (Nat.zero_lt_of_lt enough)
      obtain ⟨front,before⟩ := linked now
      obtain ⟨t,done,reached⟩ := turn now
      obtain ⟨kept,after⟩ := linked reached
      obtain ⟨following,step,cached'⟩ := for_each_safe_next before done after rfl fuel
      obtain ⟨u,ran,finished⟩ := ih (Nat.lt_of_succ_lt_succ enough) reached cached'
      refine ⟨u,?_,?_⟩
      · rw [cached x rest rfl]
        exact step.trans ran
      · rw [← List.append_cons] at finished
        exact finished
  obtain ⟨next,begins,cached⟩ := list_for_each_safe_linked body list_xs fuel
  obtain ⟨t,ran,finished⟩ := carry enough start cached
  exact ⟨t,begins.trans ran,finished⟩

end

end DiagRouter.Lib.LinkedList

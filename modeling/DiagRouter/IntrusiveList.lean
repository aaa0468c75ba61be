import Mathlib.Data.List.Nodup
import DiagRouter.Lib.LinkedList
import DiagRouter.Dispatch

/-!
# Lists of the router

The operations of `list.h` on the links of all nodes, and what they are on the
lists that these spell: appending, removing, and a walk that may remove the
node it stands on. The commands a peripheral has registered are such a list.
-/
namespace DiagRouter.IntrusiveList
open DiagRouter.Lib.Memory DiagRouter.Lib.LinkedList DiagRouter.Lib.Words DiagRouter.Dispatch

/-- The `list_head` of every node, the heads of lists among them. -/
structure ListHeads (α : Type) where
  prev : α → α
  next : α → α

section
variable {α : Type} {m m' : ListHeads α} {list item : α} {xs before after : List α}

/-- No node is gone. -/
def links (m : ListHeads α) : Links α := ⟨m.prev,m.next,fun _ => false,fun _ => false⟩

/-- The list has the nodes `xs`, in this order, linked in both directions. -/
structure Represents (m : ListHeads α) (list : α) (xs : List α) : Prop where
  distinct : (list :: xs).Nodup
  circular : Segment (links m) list xs list

/-- Nodes that are not among the given ones keep their links. -/
def Frame (nodes : List α) (m m' : ListHeads α) : Prop := ∀ a, a ∉ nodes → m'.next a = m.next a ∧ m'.prev a = m.prev a

theorem Represents.linked (represents : Represents m list xs) : Linked (links m) list xs :=
  ⟨represents.distinct,fun _ _ => rfl,represents.circular⟩

/-- The last node of a list is one of its nodes, or its head. -/
theorem Represents.last (represents : Represents m list xs) : m.prev list ∈ list :: xs := segment_prev_mem represents.circular

/-- The neighbours of a node of a list are others of its nodes. -/
theorem Represents.neighbours (represents : Represents m list (before ++ item :: after)) :
    item ≠ m.prev item ∧ m.prev item ∈ list :: (before ++ after) ∧ m.next item ∈ list :: (before ++ after) := by
  obtain ⟨front,back⟩ := segment_append.mp represents.circular
  have last := segment_prev_mem front
  have apart : item ∉ list :: before := by
    have distinct := represents.distinct
    rw [← List.cons_append,List.nodup_append] at distinct
    exact fun member => distinct.2.2 item member item List.mem_cons_self rfl
  have follows : m.next item = first list after := segment_next back
  refine ⟨fun same => apart (same ▸ last),List.mem_append_left after last,?_⟩
  rw [follows]
  rcases first_mem list after with head | rest
  · rw [head]
    exact List.mem_cons_self
  · exact List.mem_append_right (list :: before) rest

/-- A list whose nodes keep their links stays as it is. -/
theorem Frame.represents {nodes : List α} (frame : Frame nodes m m') (represents : Represents m list xs)
    (apart : ∀ a ∈ list :: xs, a ∉ nodes) : Represents m' list xs := by
  refine ⟨represents.distinct,segment_congr ?_ ?_ represents.circular⟩
  · intro x member
    exact (frame x (apart x member)).1
  · intro x member
    refine (frame x (apart x ?_)).2
    rcases List.mem_append.mp member with inner | head
    · exact List.mem_cons_of_mem list inner
    · rw [List.mem_singleton.mp head]
      exact List.mem_cons_self

theorem Frame.trans {nodes : List α} {m'' : ListHeads α} (early : Frame nodes m m') (late : Frame nodes m' m'') :
    Frame nodes m m'' := by
  intro a outside
  exact ⟨(late a outside).1.trans (early a outside).1,(late a outside).2.trans (early a outside).2⟩

theorem Frame.weaken {nodes more : List α} (frame : Frame nodes m m') (part : ∀ a ∈ nodes, a ∈ more) : Frame more m m' :=
  fun a outside => frame a (fun member => outside (part a member))

end

section
variable {α σ : Type}

/-- The items that the turns, one after the other, do not delete. -/
def undeleted (turn : σ → α → Bool × σ) : σ → List α → List α
  | _, [] => []
  | s, x :: xs => if (turn s x).1 then undeleted turn (turn s x).2 xs else x :: undeleted turn (turn s x).2 xs

theorem undeleted_concat (turn : σ → α → Bool × σ) (s : σ) (xs : List α) (x : α) :
    undeleted turn s (xs ++ [x]) = undeleted turn s xs ++
      if (turn (xs.foldl (fun s x => (turn s x).2) s) x).1 then [] else [x] := by
  induction xs generalizing s with
  | nil => rfl
  | cons y xs ih =>
    rw [List.cons_append,undeleted,undeleted,ih,List.foldl_cons]
    split_ifs <;> rfl

theorem undeleted_sublist (turn : σ → α → Bool × σ) (s : σ) (xs : List α) : (undeleted turn s xs).Sublist xs := by
  induction xs generalizing s with
  | nil => exact List.Sublist.refl []
  | cons x xs ih =>
    rw [undeleted]
    split_ifs
    · exact (ih _).cons x
    · exact (ih _).cons_cons x

/-- Where the turns only look at the item, a filter is left. -/
theorem undeleted_filter (p : α → Bool) (xs : List α) :
    undeleted (fun (_ : Unit) x => (p x,())) () xs = xs.filter (fun x => !p x) := by
  induction xs with
  | nil => rfl
  | cons x xs ih =>
    rw [undeleted,ih,List.filter_cons]
    cases p x <;> rfl

end

section
variable {α σ : Type} [DecidableEq α]

/-! ## Operations -/

def set_prev (m : ListHeads α) (a target : α) : ListHeads α := { m with prev := Function.update m.prev a target }

def set_next (m : ListHeads α) (a target : α) : ListHeads α := { m with next := Function.update m.next a target }

def list_init (m : ListHeads α) (list : α) : ListHeads α := set_prev (set_next m list list) list list

def list_add (m : ListHeads α) (list item : α) : ListHeads α :=
  let prev := m.prev list
  let m := set_next m item list
  let m := set_prev m item prev
  let m := set_prev m list item
  set_next m prev item

def list_del (m : ListHeads α) (item : α) : ListHeads α :=
  let m := set_next m (m.prev item) (m.next item)
  set_prev m (m.next item) (m.prev item)

/-! ## Walks -/

/-- The links, the nodes visited so far, and what the body keeps besides. -/
structure Walk (α σ : Type) where
  nodes : ListHeads α
  visited : List α
  state : σ

/-- A body that may remove its item; `turn` says whether it does. -/
def visit (turn : σ → α → Bool × σ) (w : Walk α σ) (item : α) : Except Fault (Walk α σ) :=
  let turned := turn w.state item
  .ok ⟨if turned.1 then list_del w.nodes item else w.nodes,w.visited ++ [item],turned.2⟩

def walk (turn : σ → α → Bool × σ) (list : α) (fuel : Nat) (m : ListHeads α) (s : σ) : Except Fault (Walk α σ) :=
  list_for_each_safe (fun w => links w.nodes) (visit turn) list fuel ⟨m,[],s⟩

/-- A command that the `i`-th range of a packet names. -/
def deregisters (peripheral : Nat) (pkt : Nat → UInt8) (i : Nat) (dc : DiagCmd Nat) : Bool :=
  dc.target = peripheral ∧ dc.first = (deregister_entry peripheral pkt i).first ∧
    dc.last = (deregister_entry peripheral pkt i).last

/-- The loops of `diag_cntl_deregister`, on nodes that hold commands. -/
def deregister_nodes (cmd : α → DiagCmd Nat) (diag_cmds : α) (fuel peripheral : Nat) (pkt : Nat → UInt8) (m : ListHeads α) :
    Except Fault (ListHeads α) :=
  (List.range (le16At pkt 16).toNat).foldlM (fun m i =>
    Walk.nodes <$> walk (fun (_ : Unit) item => (deregisters peripheral pkt i (cmd item),())) diag_cmds fuel m ()) m

/-! ## One operation -/

variable {m m' : ListHeads α} {list item : α} {xs before after : List α}

theorem list_init_represents (m : ListHeads α) (list : α) : Represents (list_init m list) list [] :=
  ⟨by simp,by simp [links,list_init,set_prev,set_next],by simp [links,list_init,set_prev,set_next]⟩

theorem list_add_represents (represents : Represents m list xs) (apart : item ∉ list :: xs) :
    Represents (list_add m list item) list (xs ++ [item]) := by
  have last := represents.last
  have head : item ≠ list := fun same => apart (same ▸ List.mem_cons_self)
  have before : item ≠ m.prev list := fun same => apart (same ▸ last)
  have distinct := represents.distinct
  refine ⟨?_,segment_append.mpr ⟨?_,?_,?_⟩⟩
  · rw [← List.cons_append,← List.concat_eq_append]
    exact List.Nodup.concat apart distinct
  · refine segment_retarget distinct ?_ ?_ ?_ ?_ represents.circular
    · exact Function.update_self ..
    · exact (Function.update_of_ne head ..).trans (Function.update_self ..)
    · intro x member other
      have new : x ≠ item := fun same => apart (same ▸ member)
      exact (Function.update_of_ne other ..).trans (Function.update_of_ne new ..)
    · intro x member
      have other : x ≠ list := fun same => (List.nodup_cons.mp distinct).1 (same ▸ member)
      have new : x ≠ item := fun same => apart (same ▸ List.mem_cons_of_mem list member)
      exact (Function.update_of_ne other ..).trans (Function.update_of_ne new ..)
  · exact (Function.update_of_ne before ..).trans (Function.update_self ..)
  · exact Function.update_self ..

theorem list_add_frame (represents : Represents m list xs) (item : α) :
    Frame (item :: list :: xs) m (list_add m list item) := by
  intro a outside
  have last := represents.last
  have before : a ≠ m.prev list := fun same => outside (same ▸ List.mem_cons_of_mem item last)
  have new : a ≠ item := fun same => outside (same ▸ List.mem_cons_self)
  have head : a ≠ list := fun same => outside (same ▸ List.mem_cons_of_mem item List.mem_cons_self)
  exact ⟨(Function.update_of_ne before ..).trans (Function.update_of_ne new ..),
    (Function.update_of_ne head ..).trans (Function.update_of_ne new ..)⟩

theorem list_del_eq (other : item ≠ m.prev item) :
    list_del m item = ⟨Function.update m.prev (m.next item) (m.prev item),Function.update m.next (m.prev item) (m.next item)⟩ := by
  have forth : (set_next m (m.prev item) (m.next item)).next item = m.next item := Function.update_of_ne other ..
  rw [list_del,forth]
  rfl

theorem list_del_represents (represents : Represents m list (before ++ item :: after)) :
    Represents (list_del m item) list (before ++ after) := by
  have sublist : (list :: (before ++ after)).Sublist (list :: (before ++ item :: after)) :=
    ((List.Sublist.refl before).append (List.sublist_cons_self item after)).cons_cons list
  rw [list_del_eq represents.neighbours.1]
  exact ⟨represents.distinct.sublist sublist,segment_del represents.distinct represents.circular⟩

theorem list_del_frame (represents : Represents m list (before ++ item :: after)) :
    Frame (list :: (before ++ after)) m (list_del m item) := by
  obtain ⟨other,front,back⟩ := represents.neighbours
  rw [list_del_eq other]
  intro a outside
  have before : a ≠ m.prev item := fun same => outside (same ▸ front)
  have behind : a ≠ m.next item := fun same => outside (same ▸ back)
  exact ⟨Function.update_of_ne before ..,Function.update_of_ne behind ..⟩

theorem present_of_ok {β : Type} {gone : Bool} {x y : β} (ran : (if gone then .error .freed else .ok x : Except Fault β) = .ok y) :
    x = y := by
  split_ifs at ran
  exact Except.ok.inj ran

/-- `list_del` on nodes that know whether they are gone does the same to the
    links. -/
theorem list_del_marked {marked after : Links α} (ran : Lib.LinkedList.list_del marked item = .ok after) :
    list_del ⟨marked.prev,marked.next⟩ item = ⟨after.prev,after.next⟩ := by
  obtain ⟨prev,before,ran⟩ := bind_eq_ok.mp ran
  obtain ⟨next,behind,ran⟩ := bind_eq_ok.mp ran
  obtain ⟨unlinked,first,ran⟩ := bind_eq_ok.mp ran
  obtain ⟨next',ahead,ran⟩ := bind_eq_ok.mp ran
  obtain ⟨prev',back,ran⟩ := bind_eq_ok.mp ran
  obtain ⟨linked,second,ran⟩ := bind_eq_ok.mp ran
  cases present_of_ok before
  cases present_of_ok behind
  cases present_of_ok first
  cases present_of_ok ahead
  cases present_of_ok back
  cases present_of_ok second
  cases ran
  rfl

/-! ## A walk -/

/-- A walk between two turns: what it has passed is what it has visited, and what
    is left of that is linked to the nodes to come. -/
structure Passing (turn : σ → α → Bool × σ) (m : ListHeads α) (s : σ) (list : α) (xs passed rest : List α) (w : Walk α σ) :
    Prop where
  visited : w.visited = passed
  state : w.state = passed.foldl (fun s x => (turn s x).2) s
  split : passed ++ rest = xs
  left : Represents w.nodes list (undeleted turn s passed ++ rest)
  frame : Frame (list :: xs) m w.nodes

/-- One turn. -/
theorem visit_passes {turn : σ → α → Bool × σ} {s : σ} {passed rest : List α} {w : Walk α σ}
    (passing : Passing turn m s list xs passed (item :: rest) w) :
    ∃ w', visit turn w item = .ok w' ∧ Passing turn m s list xs (passed ++ [item]) rest w' := by
  obtain ⟨visited,state,split,left,frame⟩ := passing
  have concat := undeleted_concat turn s passed item
  rw [← state] at concat
  refine ⟨_,rfl,by rw [visited],by rw [List.foldl_append,← state]; rfl,by rw [← split,List.append_assoc]; rfl,?_,?_⟩
  · rw [concat]
    dsimp only
    split_ifs with delete
    · rw [List.append_nil]
      exact list_del_represents left
    · rw [List.append_assoc]
      exact left
  · dsimp only
    split_ifs with delete
    · refine frame.trans ((list_del_frame left).weaken ?_)
      have part := (undeleted_sublist turn s passed).append (List.sublist_cons_self item rest)
      rw [split] at part
      exact fun a member => (part.cons_cons list).subset member
    · exact frame

/-- A walk passes every node once, in order, and what it deletes is gone from the
    list when it ends; all other nodes keep their links. -/
theorem walk_represents (turn : σ → α → Bool × σ) {fuel : Nat} (s : σ) (represents : Represents m list xs)
    (enough : xs.length < fuel) :
    ∃ w, walk turn list fuel m s = .ok w ∧ w.visited = xs ∧ Represents w.nodes list (undeleted turn s xs) ∧
      Frame (list :: xs) m w.nodes := by
  have start : Passing turn m s list xs [] xs ⟨m,[],s⟩ := ⟨rfl,rfl,rfl,represents,fun _ _ => ⟨rfl,rfl⟩⟩
  obtain ⟨w,ran,passing⟩ := @list_for_each_safe_rule α (Walk α σ) _ (fun w => links w.nodes) (visit turn) list xs ⟨m,[],s⟩
    (Passing turn m s list xs) (fun passing => ⟨_,passing.left.linked⟩) visit_passes fuel enough represents.linked start
  refine ⟨w,ran,passing.visited,?_,passing.frame⟩
  have left := passing.left
  rwa [List.append_nil] at left

/-- What the operations of `list.h` do to a list, and that they do it to no other
    node than the ones of the list and the one that is added. -/
theorem list_refines (represents : Represents m list xs) :
    (∀ item, item ∉ list :: xs → Represents (list_add m list item) list (xs ++ [item]) ∧
      Frame (item :: list :: xs) m (list_add m list item)) ∧
    (∀ before item after, xs = before ++ item :: after → Represents (list_del m item) list (before ++ after) ∧
      Frame (list :: (before ++ after)) m (list_del m item)) ∧
    ∀ (σ : Type) (turn : σ → α → Bool × σ) (s : σ) (fuel : Nat), xs.length < fuel →
      ∃ w, walk turn list fuel m s = .ok w ∧ w.visited = xs ∧ Represents w.nodes list (undeleted turn s xs) ∧
        Frame (list :: xs) m w.nodes := by
  refine ⟨?_,?_,?_⟩
  · intro item apart
    exact ⟨list_add_represents represents apart,list_add_frame represents item⟩
  · rintro before item after rfl
    exact ⟨list_del_represents represents,list_del_frame represents⟩
  · intro σ turn s fuel enough
    exact walk_represents turn s represents enough

/-- The nodes 1 to 3 in a list that has node 0 for its head. -/
def three_nodes : ListHeads Nat := list_add (list_add (list_add (list_init ⟨id,id⟩ 0) 0 1) 0 2) 0 3

theorem list_refines_three :
    Represents (list_add three_nodes 0 4) 0 [1,2,3,4] ∧ Represents (list_del three_nodes 2) 0 [1,3] ∧
      ∃ w, walk (fun (count : Nat) item => (item % 2 = 1,count + item)) 0 4 three_nodes 0 = .ok w ∧ w.visited = [1,2,3] ∧
        Represents w.nodes 0 [2] := by
  have represents : Represents three_nodes 0 [1,2,3] :=
    list_add_represents (list_add_represents (list_add_represents (list_init_represents _ 0) (by decide)) (by decide)) (by decide)
  obtain ⟨added,deleted,walked⟩ := list_refines represents
  obtain ⟨w,ran,visited,left,_⟩ := walked Nat (fun count item => (item % 2 = 1,count + item)) 0 4 (by decide)
  exact ⟨(added 4 (by decide)).1,(deleted [1] 2 [3] rfl).1,w,ran,visited,left⟩

/-! ## Registered commands -/

/-- Removing the nodes of the commands a packet names leaves the nodes of those
    that `diag_cntl_deregister` leaves. -/
theorem deregister_nodes_represents (cmd : α → DiagCmd Nat) {fuel : Nat} (peripheral : Nat) (pkt : Nat → UInt8)
    (represents : Represents m list xs) (enough : xs.length < fuel) :
    ∃ m' ys, deregister_nodes cmd list fuel peripheral pkt m = .ok m' ∧ Represents m' list ys ∧
      ys.map cmd = diag_cntl_deregister peripheral pkt (xs.map cmd) ∧ Frame (list :: xs) m m' := by
  rw [deregister_nodes,diag_cntl_deregister]
  generalize List.range (le16At pkt 16).toNat = ranges
  induction ranges generalizing m xs with
  | nil => exact ⟨m,xs,rfl,represents,rfl,fun _ _ => ⟨rfl,rfl⟩⟩
  | cons i ranges ih =>
    obtain ⟨w,ran,_,left,frame⟩ :=
      walk_represents (fun (_ : Unit) item => (deregisters peripheral pkt i (cmd item),())) () represents enough
    rw [undeleted_filter] at left
    have kept := List.length_filter_le (fun item => !deregisters peripheral pkt i (cmd item)) xs
    obtain ⟨m',ys,rest,done,same,further⟩ := ih left (Nat.lt_of_le_of_lt kept enough)
    refine ⟨m',ys,?_,done,?_,frame.trans (further.weaken ?_)⟩
    · rw [List.foldlM_cons,ran]
      exact rest
    · have filtered : (xs.map cmd).filter (fun dc => !deregisters peripheral pkt i dc) =
          (xs.filter (fun item => !deregisters peripheral pkt i (cmd item))).map cmd := List.filter_map
      rw [same,List.foldl_cons,← filtered]
      simp only [deregisters,decide_not]
    · intro a member
      rcases List.mem_cons.mp member with rfl | inner
      · exact List.mem_cons_self
      · exact List.mem_cons_of_mem _ (List.mem_of_mem_filter inner)

end

end DiagRouter.IntrusiveList

import DiagRouter.Watch
import DiagRouter.Lib.LinkedList
import Mathlib.Data.List.Nodup

/-!
# Callbacks of read watches

`watch_run` goes through `read_watches` and calls the watches whose descriptor
is ready. It looks up the next watch before it calls one, and the callback may
remove any watches by `watch_remove_fd`, the next one among them. A watch that
was removed must not be looked at again, so the pass goes wrong exactly when a
callback removes the watch behind its own, or its own and then asks for that.
-/
namespace DiagRouter.WatchCallbacks
open DiagRouter.Lib.Memory DiagRouter.Lib.Runs DiagRouter.Lib.LinkedList

/-- The watches at their addresses. `called` is a record of the watches whose
    callbacks were called. -/
structure ReadWatches where
  links : Links Nat
  fd : Nat → Int
  called : List Nat

/-- What a callback does in this pass: it removes the watches of the descriptors
    `removes`, in order, and returns `ret`. -/
structure Callback where
  removes : List Int
  ret : Int
deriving DecidableEq, Repr

/-- `w->fd`. -/
def get_fd (s : ReadWatches) (w : Nat) : Except Fault Int := if s.links.gone w then .error .freed else .ok (s.fd w)

def remove_body (fd : Int) (s : ReadWatches) (w : Nat) : Except Fault ReadWatches := do
  if (← get_fd s w) = fd then
    let links ← list_del s.links w
    return { s with links := free links w }
  else return s

/-- The loop of `watch_remove_fd` over the list at `read_watches`. -/
def watch_remove_fd (read_watches fuel : Nat) (s : ReadWatches) (fd : Int) : Except Fault ReadWatches :=
  list_for_each_safe ReadWatches.links (remove_body fd) read_watches fuel s

/-- `w->cb(w->fd, w->data)`. -/
def call (read_watches fuel : Nat) (cb : Nat → Callback) (s : ReadWatches) (w : Nat) : Except Fault ReadWatches := do
  let _ ← get_fd s w
  exec (watch_remove_fd read_watches fuel) { s with called := s.called ++ [w] } (cb w).removes

def callback_body (read_watches fuel : Nat) (rfds : Int → Bool) (cb : Nat → Callback) (s : ReadWatches) (w : Nat) :
    Except Fault ReadWatches := do
  if rfds (← get_fd s w) then
    let s ← call read_watches fuel cb s w
    if (cb w).ret < 0 then
      let links ← list_del s.links w
      return { s with links := links }
    else return s
  else return s

/-- The loop of `watch_run` over the read watches, after `select`. -/
def callback_pass (read_watches fuel : Nat) (rfds : Int → Bool) (cb : Nat → Callback) (s : ReadWatches) :
    Except Fault ReadWatches :=
  list_for_each_safe ReadWatches.links (callback_body read_watches fuel rfds cb) read_watches fuel s

/-- Of the watches `xs`, whose descriptors are not all among those `gone`: no
    callback called for one of them removes the watch that is behind its own
    then, nor its own if it returns an error. -/
def Spares (fd : Nat → Int) (rfds : Int → Bool) (cb : Nat → Callback) : (gone : List Int) → (xs : List Nat) → Prop
  | _, [] => True
  | gone, w :: rest =>
    if fd w ∈ gone ∨ rfds (fd w) = false then Spares fd rfds cb gone rest
    else
      (∀ next ∈ rest.find? (fun a => fd a ∉ gone), fd next ∉ (cb w).removes) ∧
      ((cb w).ret < 0 → fd w ∉ (cb w).removes) ∧
      Spares fd rfds cb (gone ++ (cb w).removes) rest

instance Spares.decide (fd : Nat → Int) (rfds : Int → Bool) (cb : Nat → Callback) :
    (gone : List Int) → (xs : List Nat) → Decidable (Spares fd rfds cb gone xs)
  | _, [] => inferInstanceAs (Decidable True)
  | gone, w :: rest =>
    have := Spares.decide fd rfds cb gone rest
    have := Spares.decide fd rfds cb (gone ++ (cb w).removes) rest
    inferInstanceAs (Decidable (if fd w ∈ gone ∨ rfds (fd w) = false then Spares fd rfds cb gone rest
      else
        (∀ next ∈ rest.find? (fun a => fd a ∉ gone), fd next ∉ (cb w).removes) ∧
        ((cb w).ret < 0 → fd w ∉ (cb w).removes) ∧
        Spares fd rfds cb (gone ++ (cb w).removes) rest))

/-! ## Removing -/

/-- What is removed from a list and what stays. -/
structure Removes (gone : Nat → Bool) (s t : ReadWatches) : Prop where
  fd : t.fd = s.fd
  called : t.called = s.called
  gone_iff : ∀ a, t.links.gone a = true ↔ s.links.gone a = true ∨ gone a = true

section
variable {read_watches fuel : Nat} {s t : ReadWatches} {xs : List Nat}

theorem get_fd_present {w : Nat} (present : s.links.gone w = false) : get_fd s w = .ok (s.fd w) := by
  simp [get_fd,present]

/-- Where the watch at the front of the rest is removed. -/
theorem remove_turn {fd : Int} {front rest : List Nat} {w : Nat}
    (linked : Linked s.links read_watches (front ++ w :: rest)) :
    ∃ t, remove_body fd s w = .ok t ∧
      Linked t.links read_watches (front ++ (if s.fd w = fd then [] else [w]) ++ rest) ∧
      Removes (fun a => a = w ∧ s.fd w = fd) s t := by
  have present := linked.present w (by simp)
  by_cases here : s.fd w = fd
  · obtain ⟨links,deleted,after,removed,freed⟩ := list_del_linked linked
    have apart : w ∉ read_watches :: (front ++ rest) := by
      have distinct := linked.distinct
      rw [← List.cons_append] at distinct
      have moved := (List.perm_middle.nodup_iff).mp distinct
      exact (List.nodup_cons.mp moved).1
    refine ⟨{ s with links := free links w },?_,?_,rfl,rfl,?_⟩
    · simp [remove_body,get_fd_present present,here,deleted]
    · rw [if_pos here,List.append_nil]
      exact free_linked after apart
    · intro a
      by_cases same : a = w
      · simp [Links.gone,free,same,here]
      · simp [Links.gone,free,same,removed,freed]
  · refine ⟨s,by simp [remove_body,get_fd_present present,here],?_,rfl,rfl,by simp [here]⟩
    rw [if_neg here,List.append_assoc]
    exact linked

/-- `s` with the watches of the descriptor removed, as far as it has been gone
    through. -/
structure Removed (read_watches : Nat) (xs : List Nat) (fd : Int) (s : ReadWatches) (passed rest : List Nat)
    (t : ReadWatches) : Prop where
  split : xs = passed ++ rest
  linked : Linked t.links read_watches (passed.filter (fun a => s.fd a ≠ fd) ++ rest)
  removes : Removes (fun a => a ∈ passed ∧ s.fd a = fd) s t

theorem Removed.turn {fd : Int} {passed rest : List Nat} {w : Nat}
    (before : Removed read_watches xs fd s passed (w :: rest) t) :
    ∃ u, remove_body fd t w = .ok u ∧ Removed read_watches xs fd s (passed ++ [w]) rest u := by
  obtain ⟨u,turn,after,removes⟩ := @remove_turn read_watches t fd _ _ _ before.linked
  have earlier := before.removes
  rw [earlier.fd] at after removes
  refine ⟨u,turn,before.split.trans (List.append_cons ..),?_,removes.fd.trans earlier.fd,
    removes.called.trans earlier.called,?_⟩
  · rw [List.filter_append]
    by_cases here : s.fd w = fd
    · simpa [here] using after
    · simpa [here] using after
  · intro a
    rw [removes.gone_iff,earlier.gone_iff]
    simp only [decide_eq_true_eq,List.mem_append,List.mem_singleton]
    constructor
    · rintro ((was | ⟨there,fd⟩) | ⟨rfl,fd⟩)
      · exact .inl was
      · exact .inr ⟨.inl there,fd⟩
      · exact .inr ⟨.inr rfl,fd⟩
    · rintro (was | ⟨there | rfl,fd⟩)
      · exact .inl (.inl was)
      · exact .inl (.inr ⟨there,fd⟩)
      · exact .inr ⟨rfl,fd⟩

/-- `watch_remove_fd` takes out the watches of the descriptor and no others. -/
theorem watch_remove_fd_linked (linked : Linked s.links read_watches xs) (enough : xs.length < fuel) (fd : Int) :
    ∃ t, watch_remove_fd read_watches fuel s fd = .ok t ∧
      Linked t.links read_watches (xs.filter (fun a => s.fd a ≠ fd)) ∧ Removes (fun a => a ∈ xs ∧ s.fd a = fd) s t := by
  have start : Removed read_watches xs fd s [] xs s := ⟨rfl,linked,rfl,rfl,by simp⟩
  obtain ⟨t,removed,_,after,same⟩ := list_for_each_safe_rule (I := Removed read_watches xs fd s)
    (fun now => ⟨_,now.linked⟩) Removed.turn enough linked start
  rw [List.append_nil] at after
  exact ⟨t,removed,after,same⟩

/-- The list is what the list of watches of `Watch.watch_remove_fd` stands for. -/
theorem watch_remove_fd_refines {abstract : Watch.Watches} {flow : Nat → Option Nat}
    (linked : Linked s.links read_watches xs) (enough : xs.length < fuel)
    (stands : abstract.read_watches = xs.map (fun a => ⟨s.fd a,flow a⟩)) (fd : Int) :
    ∃ t ys, watch_remove_fd read_watches fuel s fd = .ok t ∧ Linked t.links read_watches ys ∧
      (Watch.watch_remove_fd abstract fd).read_watches = ys.map (fun a => ⟨t.fd a,flow a⟩) := by
  obtain ⟨t,removed,after,removes⟩ := watch_remove_fd_linked linked enough fd
  refine ⟨t,_,removed,after,?_⟩
  rw [removes.fd]
  change abstract.read_watches.filter _ = _
  rw [stands,List.filter_map]
  rfl

/-- The descriptors of one callback. -/
theorem remove_all_linked (linked : Linked s.links read_watches xs) (enough : xs.length < fuel) (fds : List Int) :
    ∃ t, exec (watch_remove_fd read_watches fuel) s fds = .ok t ∧
      Linked t.links read_watches (xs.filter (fun a => s.fd a ∉ fds)) ∧ Removes (fun a => a ∈ xs ∧ s.fd a ∈ fds) s t := by
  induction fds generalizing s xs with
  | nil => exact ⟨s,rfl,by simpa using linked,rfl,rfl,by simp⟩
  | cons fd fds ih =>
    obtain ⟨m,first,between,one⟩ := watch_remove_fd_linked linked enough fd
    obtain ⟨t,rest,after,others⟩ := ih between ((List.length_filter_le _ _).trans_lt enough)
    rw [one.fd,List.filter_filter] at after
    refine ⟨t,by rw [exec_cons,first,ok_bind,rest],?_,others.fd.trans one.fd,others.called.trans one.called,?_⟩
    · simpa [Bool.and_comm] using after
    · intro a
      rw [others.gone_iff,one.gone_iff,one.fd]
      simp only [List.mem_filter,decide_eq_true_eq,List.mem_cons]
      tauto

/-! ## Calling -/

/-- A callback went well: the watches behind its own that it did not remove are
    in the list as before. -/
structure Turned (read_watches : Nat) (removes : List Int) (w : Nat) (front live : List Nat) (s t : ReadWatches)
    (kept : List Nat) : Prop where
  linked : Linked t.links read_watches (kept ++ live.filter (fun a => s.fd a ∉ removes))
  shorter : kept.length ≤ front.length + 1
  fd : t.fd = s.fd
  called : t.called = s.called ++ [w]
  grows : ∀ a, s.links.gone a = true → t.links.gone a = true
  gone : ∀ a ∈ live, s.fd a ∈ removes → t.links.gone a = true

variable {rfds : Int → Bool} {cb : Nat → Callback} {w : Nat} {front live : List Nat}

/-- The turn of a ready watch: the callback goes well, unless it removes its own
    watch and has it removed again. -/
theorem callback_turn (linked : Linked s.links read_watches (front ++ w :: live))
    (room : (front ++ w :: live).length < fuel) (ready : rfds (s.fd w) = true) :
    ((cb w).ret < 0 ∧ s.fd w ∈ (cb w).removes ∧ callback_body read_watches fuel rfds cb s w = .error .freed) ∨
    ((cb w).ret < 0 → s.fd w ∉ (cb w).removes) ∧ ∃ t kept, callback_body read_watches fuel rfds cb s w = .ok t ∧
      Turned read_watches (cb w).removes w front live s t kept := by
  have present := linked.present w (by simp)
  obtain ⟨t,removed,after,removes⟩ :=
    @remove_all_linked read_watches fuel { s with called := s.called ++ [w] } _ linked room (cb w).removes
  have called : call read_watches fuel cb s w = .ok t := by
    rw [call,get_fd_present present,ok_bind,removed]
  have body : callback_body read_watches fuel rfds cb s w =
      if (cb w).ret < 0 then (list_del t.links w >>= fun links => .ok { t with links := links }) else .ok t := by
    simp [callback_body,get_fd_present present,ready,called]
  rw [List.filter_append,List.filter_cons] at after
  have grows (a : Nat) (before : s.links.gone a = true) : t.links.gone a = true :=
    (removes.gone_iff a).mpr (.inl before)
  have gone (a : Nat) (member : a ∈ live) (there : s.fd a ∈ (cb w).removes) : t.links.gone a = true :=
    (removes.gone_iff a).mpr (.inr (by simp [member,there]))
  have shorter : (front.filter (fun a => s.fd a ∉ (cb w).removes)).length ≤ front.length := List.length_filter_le _ _
  rw [body]
  split_ifs with negative
  · by_cases own : s.fd w ∈ (cb w).removes
    · refine .inl ⟨negative,own,?_⟩
      have lost : t.links.gone w = true := (removes.gone_iff w).mpr (.inr (by simp [own]))
      simp [list_del,get_prev,lost]
    · rw [if_pos (by simpa using own)] at after
      obtain ⟨links,deleted,still,taken,freed⟩ := list_del_linked after
      refine .inr ⟨fun _ => own,{ t with links := links },_,by rw [deleted]; rfl,still,?_,removes.fd,removes.called,
        ?_,?_⟩
      · exact Nat.le_succ_of_le shorter
      all_goals
        have more (a : Nat) (before : t.links.gone a = true) : links.gone a = true := by
          simp only [Links.gone,taken,freed,Bool.or_eq_true] at before ⊢
          rcases before with there | there
          · exact .inl (by simp [Function.update_apply,there])
          · exact .inr there
      · exact fun a before => more a (grows a before)
      · exact fun a member there => more a (gone a member there)
  · refine .inr ⟨fun low => absurd low negative,?_⟩
    by_cases own : s.fd w ∈ (cb w).removes
    · rw [if_neg (by simpa using own)] at after
      exact ⟨t,_,rfl,after,Nat.le_succ_of_le shorter,removes.fd,removes.called,grows,gone⟩
    · rw [if_pos (by simpa using own),List.append_cons] at after
      exact ⟨t,_,rfl,after,by simpa using shorter,removes.fd,removes.called,grows,gone⟩

/-! ## The pass -/

/-- The watches `calls` were called from `s` to `t`, of those that are in `rest`
    and whose descriptors were not removed before. -/
structure Calls (rfds : Int → Bool) (gone : List Int) (rest : List Nat) (s t : ReadWatches) (calls : List Nat) :
    Prop where
  called : t.called = s.called ++ calls
  in_order : calls.Sublist rest
  ready : ∀ a ∈ calls, rfds (s.fd a) = true
  grows : ∀ a, s.links.gone a = true → t.links.gone a = true
  all : ∀ a ∈ rest, s.fd a ∉ gone → rfds (s.fd a) = true → t.links.gone a = false → a ∈ calls

theorem Calls.passed_over {gone : List Int} {rest : List Nat} {w : Nat} {calls : List Nat}
    (after : Calls rfds gone rest s t calls) (idle : s.fd w ∈ gone ∨ rfds (s.fd w) = false) :
    Calls rfds gone (w :: rest) s t calls := by
  refine ⟨after.called,after.in_order.cons w,after.ready,after.grows,?_⟩
  intro a member there ready present
  rcases List.mem_cons.mp member with rfl | later
  · rcases idle with removed | silent
    · exact absurd removed there
    · rw [ready] at silent
      cases silent
  · exact after.all a later there ready present

/-- A watch that was called, and then those behind it. -/
theorem Calls.turned {gone removes : List Int} {rest : List Nat} {w : Nat} {kept calls : List Nat} {u : ReadWatches}
    (turned : Turned read_watches removes w front (rest.filter (fun a => s.fd a ∉ gone)) s t kept)
    (after : Calls rfds (gone ++ removes) rest t u calls) (ready : rfds (s.fd w) = true) :
    Calls rfds gone (w :: rest) s u (w :: calls) := by
  have same := turned.fd
  refine ⟨?_,after.in_order.cons_cons w,?_,fun a before => after.grows a (turned.grows a before),?_⟩
  · rw [after.called,turned.called,List.append_assoc]
    rfl
  · intro a member
    rcases List.mem_cons.mp member with rfl | later
    · exact ready
    · exact same ▸ after.ready a later
  · intro a member there ready present
    rcases List.mem_cons.mp member with rfl | later
    · exact List.mem_cons_self
    · by_cases removed : s.fd a ∈ removes
      · have lost := after.grows a (turned.gone a (by simp [later,there]) removed)
        rw [present] at lost
        cases lost
      · refine List.mem_cons_of_mem w (after.all a later ?_ (same ▸ ready) present)
        rw [same]
        simp [there,removed]

/-- The first of those left is the first still, if it is left. -/
theorem first_filter {p : Nat → Prop} [DecidablePred p] {list : Nat} (left : ∀ x ∈ xs.head?, p x) :
    first list (xs.filter p) = first list xs := by
  cases xs with
  | nil => rfl
  | cons x xs =>
    rw [List.filter_cons_of_pos (by simpa using left x)]
    rfl

/-- A callback that removes the watch behind its own leaves the pass with a watch
    that is gone. -/
theorem turned_gone {room next : Nat} {kept : List Nat} {t : ReadWatches} (inside_loop : w ≠ read_watches)
    (turn : callback_body read_watches room rfds cb s w = .ok t)
    (turned : Turned read_watches (cb w).removes w front live s t kept) (follows : next ∈ live.head?)
    (removed : s.fd next ∈ (cb w).removes) :
    for_each_safe ReadWatches.links (callback_body read_watches room rfds cb) read_watches (fuel + 1) w next s =
      .error .freed := by
  have lost := turned.gone next (List.mem_of_mem_head? follows) removed
  rw [for_each_safe_turn inside_loop,turn,ok_bind,get_next,if_pos lost]
  rfl

/-- From any watch on the pass calls those it has to, or it looks at a watch that
    was removed. -/
theorem pass_from {gone : List Int} {rest : List Nat} {room next : Nat}
    (linked : Linked s.links read_watches (front ++ rest.filter (fun a => s.fd a ∉ gone)))
    (inside : (front ++ rest.filter (fun a => s.fd a ∉ gone)).length < room)
    (enough : (rest.filter (fun a => s.fd a ∉ gone)).length < fuel)
    (cached : ∀ x more, rest.filter (fun a => s.fd a ∉ gone) = x :: more → next = first read_watches more) :
    (Spares s.fd rfds cb gone rest ∧ ∃ t calls,
      for_each_safe ReadWatches.links (callback_body read_watches room rfds cb) read_watches fuel
        (first read_watches (rest.filter (fun a => s.fd a ∉ gone))) next s = .ok t ∧ Calls rfds gone rest s t calls) ∨
    (¬ Spares s.fd rfds cb gone rest ∧
      for_each_safe ReadWatches.links (callback_body read_watches room rfds cb) read_watches fuel
        (first read_watches (rest.filter (fun a => s.fd a ∉ gone))) next s = .error .freed) := by
  induction rest generalizing gone front s fuel next with
  | nil =>
    obtain ⟨fuel,rfl⟩ : ∃ n, fuel = n + 1 := Nat.exists_eq_add_one.mpr (Nat.zero_lt_of_lt enough)
    exact .inl ⟨trivial,s,[],for_each_safe_end fuel,by simp,.refl _,by simp,fun _ same => same,by simp⟩
  | cons w rest ih =>
    by_cases before : s.fd w ∈ gone
    · -- the watch was removed before its turn
      rw [List.filter_cons_of_neg (by simpa using before)] at linked inside enough cached ⊢
      rw [Spares,if_pos (.inl before)]
      rcases ih linked inside enough cached with ⟨spares,t,calls,ran,after⟩ | broken
      · exact .inl ⟨spares,t,calls,ran,after.passed_over (.inl before)⟩
      · exact .inr broken
    · rw [List.filter_cons_of_pos (by simpa using before)] at linked inside enough cached ⊢
      obtain ⟨fuel,rfl⟩ : ∃ n, fuel = n + 1 := Nat.exists_eq_add_one.mpr (Nat.zero_lt_of_lt enough)
      have enough := Nat.lt_of_succ_lt_succ enough
      rw [cached w _ rfl]
      cases ready : rfds (s.fd w) with
      | false =>
        have present := linked.present w (by simp)
        have turn : callback_body read_watches room rfds cb s w = .ok s := by
          simp [callback_body,get_fd_present present,ready]
        have passed := linked
        rw [List.append_cons] at passed inside
        obtain ⟨following,step,behind⟩ := for_each_safe_next linked turn passed rfl fuel
        rw [Spares,if_pos (.inr ready)]
        rcases ih passed inside enough behind with ⟨spares,t,calls,ran,after⟩ | ⟨broken,ran⟩
        · exact .inl ⟨spares,t,calls,step.trans ran,after.passed_over (.inr ready)⟩
        · exact .inr ⟨broken,step.trans ran⟩
      | true =>
        have called : ¬ (s.fd w ∈ gone ∨ rfds (s.fd w) = false) := by simp [before,ready]
        rw [Spares,if_neg called]
        have inside_loop := linked.ne_head
        rcases callback_turn linked inside ready with ⟨negative,own,failed⟩ | ⟨own,t,kept,turn,turned⟩
        · refine .inr ⟨fun spares => spares.2.1 negative own,?_⟩
          rw [first,List.head?_cons,Option.getD_some,for_each_safe_turn inside_loop,failed]
          rfl
        · rw [← List.head?_filter]
          by_cases spared : ∀ x ∈ (rest.filter (fun a => s.fd a ∉ gone)).head?, s.fd x ∉ (cb w).removes
          · have same := @first_filter _ _ _ read_watches spared
            obtain ⟨following,step,behind⟩ := for_each_safe_next linked turn turned.linked same fuel
            have linked := turned.linked
            have shorter := turned.shorter
            have fewer :=
              List.length_filter_le (fun a => s.fd a ∉ (cb w).removes) (rest.filter (fun a => s.fd a ∉ gone))
            have left : (rest.filter (fun a => s.fd a ∉ gone)).filter (fun a => s.fd a ∉ (cb w).removes) =
                rest.filter (fun a => t.fd a ∉ gone ++ (cb w).removes) := by
              rw [List.filter_filter,turned.fd]
              refine List.filter_congr ?_
              intro a _
              simp [Bool.and_comm]
            rw [left] at linked step behind fewer
            rw [List.length_append,List.length_cons] at inside
            rcases ih linked (by rw [List.length_append]; omega) (fewer.trans_lt enough) behind with
              ⟨spares,u,calls,ran,after⟩ | ⟨broken,ran⟩
            · rw [turned.fd] at spares
              exact .inl ⟨⟨spared,own,spares⟩,u,w :: calls,step.trans ran,after.turned turned ready⟩
            · rw [turned.fd] at broken
              exact .inr ⟨fun spares => broken spares.2.2,step.trans ran⟩
          · refine .inr ⟨fun spares => spared spares.1,?_⟩
            push Not at spared
            obtain ⟨x,follows,removed⟩ := spared
            have next : first read_watches (rest.filter (fun a => s.fd a ∉ gone)) = x := by rw [first,follows]; rfl
            rw [next]
            exact turned_gone inside_loop turn turned follows removed

/-- Whatever watches there are, whichever are ready, and whatever the callbacks
    remove: the pass looks at no watch after it was removed, and calls every
    ready one that stays exactly once, exactly when the callbacks spare the
    watches behind their own. -/
theorem callback_pass_iff (linked : Linked s.links read_watches xs) (enough : xs.length < fuel)
    (none_called : s.called = []) (rfds : Int → Bool) (cb : Nat → Callback) :
    (∃ t, callback_pass read_watches fuel rfds cb s = .ok t ∧
      ∀ w ∈ xs, rfds (s.fd w) = true → t.links.gone w = false → t.called.count w = 1) ↔
    Spares s.fd rfds cb [] xs := by
  obtain ⟨next,begins,cached⟩ :=
    list_for_each_safe_linked (callback_body read_watches fuel rfds cb) linked fuel
  have whole : xs.filter (fun a => s.fd a ∉ ([] : List Int)) = xs := by simp
  have from_start := @pass_from read_watches fuel s rfds cb [] [] xs fuel next (by rw [whole]; exact linked)
    (by rw [whole]; exact enough) (by rw [whole]; exact enough) (by rw [whole]; exact cached)
  rw [whole] at from_start
  rw [callback_pass,begins]
  rcases from_start with ⟨spares,t,calls,ran,after⟩ | ⟨broken,ran⟩
  · refine ⟨fun _ => spares,fun _ => ⟨t,ran,?_⟩⟩
    intro w member ready present
    rw [after.called,none_called,List.nil_append]
    have distinct := after.in_order.nodup (List.nodup_cons.mp linked.distinct).2
    exact List.count_eq_one_of_mem distinct (after.all w member (by simp) ready present)
  · refine ⟨?_,fun spares => absurd spares broken⟩
    rintro ⟨t,again,_⟩
    cases ran.symm.trans again

end

/-! ## A peripheral's watches -/

/-- The descriptors whose watches `perif_rpmsg_close` removes. -/
def perif_rpmsg_close (data_fd cntl_fd cmd_fd : Int) : List Int := [data_fd,cntl_fd,cmd_fd]

/-- The watches at 1, 2 and 3 are those of a peripheral's control, data and command
    channels, in the order in which `peripheral_open` adds them. -/
def opened : ReadWatches :=
  ⟨⟨fun a => (a + 3) % 4,fun a => (a + 1) % 4,fun _ => false,fun _ => false⟩,
    fun a => if a = 1 then 5 else if a = 2 then 4 else 6,[]⟩

theorem opened_linked : Linked opened.links 0 [1,2,3] :=
  ⟨by decide,by decide,rfl,rfl,rfl,rfl,rfl,rfl,rfl,rfl⟩

/-- The last of the three watches may close the peripheral. -/
theorem cmd_close_safe :
    ∃ t, callback_pass 0 4 (fun fd => fd = 6) (fun _ => ⟨perif_rpmsg_close 4 5 6,0⟩) opened = .ok t ∧
      ∀ w ∈ [1,2,3], decide (opened.fd w = 6) = true → t.links.gone w = false → t.called.count w = 1 :=
  (callback_pass_iff opened_linked (by decide) rfl (fun fd => fd = 6) (fun _ => ⟨perif_rpmsg_close 4 5 6,0⟩)).mpr
    (by decide)

/-- A peripheral whose control channel fails is closed, and the pass goes on with
    the watch of its data channel, which was freed. -/
theorem cntl_close_looks_at_freed :
    Linked opened.links 0 [1,2,3] ∧
    callback_pass 0 4 (fun fd => fd = 5) (fun _ => ⟨perif_rpmsg_close 4 5 6,0⟩) opened = .error .freed :=
  ⟨opened_linked,rfl⟩

end DiagRouter.WatchCallbacks

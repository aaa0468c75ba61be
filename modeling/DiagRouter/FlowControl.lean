import Mathlib.Algebra.Ring.Nat
import DiagRouter.Endpoints
import DiagRouter.Lib.Tally
import Mathlib.Algebra.Order.BigOperators.Group.List
import Mathlib.Algebra.Order.Group.Nat

/-!
# Flow control

A peripheral's flow counts the messages of the peripheral that clients have not
been sent yet, so that the peripheral is not read while there are too many. The
count is right as long as no client goes while its queue holds such messages,
and none is queued to a client that has gone.
-/
namespace DiagRouter.FlowControl
open DiagRouter.Lib.Memory DiagRouter.Lib.Runs DiagRouter.Lib.Tally DiagRouter.Watch DiagRouter.Endpoints

/-- How many of the buffers are counted in the flow. -/
def tagged (flow : Nat) (mbufs : List Mbuf) : Nat := mbufs.countP (fun mbuf => mbuf.flow = some flow)

def write_queue (w : AioWatch) : Option Queue := if w.is_write then some w.queue else none

/-- The queues that have a write watch. -/
def write_queues (watches : List AioWatch) : Finset Queue := (watches.filterMap write_queue).toFinset

def pending_tagged (flow : Nat) (w : AioWatch) : Nat := if w.is_write then tagged flow w.pending_aio.toList else 0

/-- The messages of a flow that are in the queue of, or pending in, a write
    watch. -/
def outstanding (queues : Queue → List Mbuf) (watches : List AioWatch) (flow : Nat) : Nat :=
  (write_queues watches).sum (fun queue => tagged flow (queues queue)) + (watches.map (pending_tagged flow)).sum

/-- The count is right, so the flow is blocked only while more messages are
    outstanding than the watermark. -/
structure Balanced (flow : Nat) (s : Watches) : Prop where
  counted : s.packets flow = outstanding s.queues s.aio_watches flow
  blocked : watch_flow_blocked s.packets (some flow) → FLOW_WATERMARK < outstanding s.queues s.aio_watches flow

theorem balanced_iff {flow : Nat} {s : Watches} :
    Balanced flow s ↔ s.packets flow = outstanding s.queues s.aio_watches flow := by
  refine ⟨Balanced.counted,fun counted => ⟨counted,?_⟩⟩
  rw [watch_flow_blocked,counted]
  exact of_decide_eq_true

/-- `n` messages more are counted at the end that are not outstanding. -/
def Loses (flow n : Nat) (s t : Watches) : Prop :=
  t.packets flow + outstanding s.queues s.aio_watches flow =
    s.packets flow + outstanding t.queues t.aio_watches flow + n

theorem Loses.trans {flow n m : Nat} {s t u : Watches} (first : Loses flow n s t) (second : Loses flow m t u) :
    Loses flow (n + m) s u := by
  unfold Loses at *
  omega

theorem Loses.balanced_iff {flow n : Nat} {s t : Watches} (loses : Loses flow n s t) (balanced : Balanced flow s) :
    Balanced flow t ↔ n = 0 := by
  rw [FlowControl.balanced_iff]
  have counted := balanced.counted
  unfold Loses at loses
  omega

/-! ## Where messages are -/

/-- The one read watch is USB's, its queue holds no peripheral's messages, and
    the write watch of a client's queue has the client's descriptor, of which
    the list is given. -/
structure Placed (out_fds : List Int) (s : Watches) : Prop where
  read_watch : ∀ w ∈ s.aio_watches, w.is_write = false → w.queue = .ffs_outq ∧ ∀ mbuf ∈ w.pending_aio, mbuf.flow = none
  write_watch : ∀ w ∈ s.aio_watches, w.is_write = true → w.queue ≠ .ffs_outq
  client_fd : ∀ w ∈ s.aio_watches, ∀ dm, w.queue = .outq dm → out_fds[dm]? = some w.fd
  untagged : ∀ queue, (∀ dm, queue ≠ .outq dm) → ∀ mbuf ∈ s.queues queue, mbuf.flow = none

theorem tagged_eq_zero {flow : Nat} {mbufs : List Mbuf} (untagged : ∀ mbuf ∈ mbufs, mbuf.flow = none) :
    tagged flow mbufs = 0 := by
  rw [tagged,List.countP_eq_zero]
  intro mbuf member
  simp [untagged mbuf member]

theorem mem_write_queues {watches : List AioWatch} {queue : Queue} :
    queue ∈ write_queues watches ↔ ∃ w ∈ watches, w.is_write = true ∧ w.queue = queue := by
  simp [write_queues,write_queue]

theorem Placed.ffs_outq {out_fds : List Int} {s : Watches} (placed : Placed out_fds s) :
    Queue.ffs_outq ∉ write_queues s.aio_watches := by
  rw [mem_write_queues]
  rintro ⟨w,member,write,queue⟩
  exact placed.write_watch w member write queue

section
variable {flow : Nat} {watches : List AioWatch} {queue : Queue}

theorem outstanding_queue (listed : queue ∈ write_queues watches) (queues : Queue → List Mbuf) (mbufs : List Mbuf) :
    outstanding (Function.update queues queue mbufs) watches flow + tagged flow (queues queue) =
      outstanding queues watches flow + tagged flow mbufs := by
  have replaced := sum_update_cell (tagged flow) queues listed mbufs
  unfold outstanding
  omega

/-- A queue without a write watch may hold anything. -/
theorem outstanding_other (unlisted : queue ∉ write_queues watches) (queues : Queue → List Mbuf) (mbufs : List Mbuf) :
    outstanding (Function.update queues queue mbufs) watches flow = outstanding queues watches flow := by
  rw [outstanding,sum_update_other (tagged flow) queues unlisted mbufs,outstanding]

theorem write_queues_set {i : Nat} {w : AioWatch} (found : watches[i]? = some w) (pending : Option Mbuf) :
    write_queues (watches.set i { w with pending_aio := pending }) = write_queues watches := by
  have listed (watches : List AioWatch) : watches.filterMap write_queue = (watches.map write_queue).filterMap id := by
    rw [List.filterMap_map,Function.id_comp]
  rw [write_queues,listed,map_set_pending write_queue found pending rfl,← listed,write_queues]

theorem outstanding_set {i : Nat} {w : AioWatch} (found : watches[i]? = some w) (queues : Queue → List Mbuf)
    (pending : Option Mbuf) :
    outstanding queues (watches.set i { w with pending_aio := pending }) flow + pending_tagged flow w =
      outstanding queues watches flow + pending_tagged flow { w with pending_aio := pending } := by
  have pendings := sum_map_set (pending_tagged flow) found { w with pending_aio := pending }
  unfold outstanding
  rw [write_queues_set found pending]
  omega

end

theorem Loses.unlisted {flow : Nat} {s : Watches} {queue : Queue} (unlisted : queue ∉ write_queues s.aio_watches)
    (mbufs : List Mbuf) : Loses flow 0 s { s with queues := Function.update s.queues queue mbufs } := by
  unfold Loses
  rw [outstanding_other unlisted,Nat.add_zero]

/-! ## Queueing -/

@[simp] theorem watch_flow_inc_at (packets : Nat → Nat) (tag : Option Nat) (flow : Nat) :
    watch_flow_inc packets tag flow = packets flow + if tag = some flow then 1 else 0 := by
  cases tag with
  | none => simp [watch_flow_inc]
  | some other =>
    by_cases same : other = flow
    · simp [watch_flow_inc,same]
    · simp [watch_flow_inc,same,Ne.symm same]

theorem tagged_concat (flow : Nat) (mbufs : List Mbuf) (mbuf : Mbuf) :
    tagged flow (mbufs ++ [mbuf]) = tagged flow mbufs + if mbuf.flow = some flow then 1 else 0 := by
  simp [tagged,List.countP_append,List.countP_singleton]

/-- A counted message in a queue without a write watch is lost. -/
theorem queue_push_flow_loses (flow : Nat) (s : Watches) (queue : Queue) (msg : List UInt8) (tag : Option Nat) :
    Loses flow (if tag = some flow ∧ queue ∉ write_queues s.aio_watches then 1 else 0) s
      (queue_push_flow s queue msg tag) := by
  unfold Loses queue_push_flow
  dsimp only
  rw [watch_flow_inc_at]
  by_cases listed : queue ∈ write_queues s.aio_watches
  · have queued := @outstanding_queue flow _ _ listed s.queues (s.queues queue ++ [⟨msg,msg.length,tag⟩])
    rw [tagged_concat] at queued
    dsimp only at queued
    simp only [listed,not_true_eq_false,and_false,if_false]
    omega
  · rw [outstanding_other listed]
    simp only [listed,not_false_eq_true,and_true]
    omega

theorem Placed.queues {out_fds : List Int} {s : Watches} (placed : Placed out_fds s) (packets : Nat → Nat)
    (queue : Queue) (mbufs : List Mbuf) (untagged : (∀ dm, queue ≠ .outq dm) → ∀ mbuf ∈ mbufs, mbuf.flow = none) :
    Placed out_fds { s with queues := Function.update s.queues queue mbufs, packets := packets } := by
  refine ⟨placed.read_watch,placed.write_watch,placed.client_fd,?_⟩
  intro q other mbuf member
  dsimp only at member
  by_cases same : q = queue
  · subst same
    rw [Function.update_self] at member
    exact untagged other mbuf member
  · rw [Function.update_of_ne same] at member
    exact placed.untagged q other mbuf member

/-- Only clients' queues get a peripheral's messages. -/
theorem queue_push_flow_placed {out_fds : List Int} {s : Watches} (placed : Placed out_fds s) (queue : Queue)
    (msg : List UInt8) {tag : Option Nat} (allowed : tag = none ∨ ∃ dm, queue = .outq dm) :
    Placed out_fds (queue_push_flow s queue msg tag) := by
  refine placed.queues _ _ _ ?_
  intro other mbuf member
  rcases List.mem_append.mp member with old | new
  · exact placed.untagged queue other mbuf old
  · rw [List.mem_singleton.mp new]
    exact allowed.elim (fun none => none) (fun ⟨dm,same⟩ => absurd same (other dm))

/-- The step loses no message, where they are as they should be. -/
def Quiet (out_fds : List Int) (flow : Nat) (s t : Watches) : Prop :=
  Placed out_fds s → Placed out_fds t ∧ Loses flow 0 s t

section
variable {out_fds : List Int} {flow : Nat} {s t u : Watches}

theorem Quiet.refl (s : Watches) : Quiet out_fds flow s s := fun placed => ⟨placed,rfl⟩

theorem Quiet.trans (first : Quiet out_fds flow s t) (second : Quiet out_fds flow t u) : Quiet out_fds flow s u := by
  intro placed
  obtain ⟨between,none_lost⟩ := first placed
  obtain ⟨after,none_lost_later⟩ := second between
  exact ⟨after,none_lost.trans none_lost_later⟩

theorem queue_push_quiet (s : Watches) (queue : Queue) (msg : List UInt8) :
    Quiet out_fds flow s (queue_push s queue msg) := by
  intro placed
  refine ⟨queue_push_flow_placed placed queue msg (.inl rfl),?_⟩
  simpa [queue_push] using queue_push_flow_loses flow s queue msg none

theorem queue_all_quiet (s : Watches) (pushed : List (Queue × List UInt8)) :
    Quiet out_fds flow s (queue_all s pushed) := by
  induction pushed generalizing s with
  | nil => exact .refl s
  | cons push pushed ih => exact (queue_push_quiet s push.1 push.2).trans (ih (queue_push s push.1 push.2))

/-! ## Adding and removing -/

theorem watch_add_readfd_quiet (s : Watches) (fd : Int) (tag : Option Nat) :
    Quiet out_fds flow s (watch_add_readfd s fd tag) :=
  fun placed => ⟨⟨placed.read_watch,placed.write_watch,placed.client_fd,placed.untagged⟩,rfl⟩

theorem watch_add_aio_placed (placed : Placed out_fds s) {fd : Int} {queue : Queue} {is_write : Bool}
    (way : queue = .ffs_outq ↔ is_write = false) (client_fd : ∀ dm, queue = .outq dm → out_fds[dm]? = some fd) :
    Placed out_fds (watch_add_aio s fd queue is_write) := by
  refine ⟨?_,?_,?_,placed.untagged⟩
  · intro w member read
    rcases List.mem_append.mp member with old | new
    · exact placed.read_watch w old read
    · rw [List.mem_singleton.mp new] at read ⊢
      exact ⟨way.mpr read,by simp⟩
  · intro w member write
    rcases List.mem_append.mp member with old | new
    · exact placed.write_watch w old write
    · rw [List.mem_singleton.mp new] at write ⊢
      intro usb
      exact absurd (write.symm.trans (way.mp usb)) (by decide)
  · intro w member dm same
    rcases List.mem_append.mp member with old | new
    · exact placed.client_fd w old dm same
    · rw [List.mem_singleton.mp new] at same ⊢
      exact client_fd dm same

theorem watch_add_readq_quiet (s : Watches) (fd : Int) : Quiet out_fds flow s (watch_add_readq s fd .ffs_outq) := by
  intro placed
  refine ⟨watch_add_aio_placed placed (by simp) (by simp),?_⟩
  simp [Loses,outstanding,watch_add_readq,watch_add_aio,write_queues,List.filterMap_append,write_queue,pending_tagged]

theorem watch_add_writeq_quiet (s : Watches) (fd : Int) {queue : Queue} (not_usb : queue ≠ .ffs_outq)
    (client_fd : ∀ dm, queue = .outq dm → out_fds[dm]? = some fd) (empty : tagged flow (s.queues queue) = 0) :
    Quiet out_fds flow s (watch_add_writeq s fd queue) := by
  intro placed
  refine ⟨watch_add_aio_placed placed (by simp [not_usb]) client_fd,?_⟩
  have more : write_queues (s.aio_watches ++ [⟨s.next,fd,queue,none,true⟩]) = insert queue (write_queues s.aio_watches) := by
    ext q
    simp [write_queues,List.filterMap_append,write_queue]
  unfold Loses outstanding watch_add_writeq watch_add_aio
  dsimp only
  have same := Finset.sum_insert_of_eq_zero_if_notMem (s := write_queues s.aio_watches)
    (f := fun q => tagged flow (s.queues q)) (fun _ => empty)
  rw [more,same]
  simp [pending_tagged,tagged]

theorem Placed.filter (placed : Placed out_fds s) (p : AioWatch → Bool) :
    Placed out_fds { s with aio_watches := s.aio_watches.filter p } :=
  ⟨fun w member => placed.read_watch w (List.mem_of_mem_filter member),
    fun w member => placed.write_watch w (List.mem_of_mem_filter member),
    fun w member => placed.client_fd w (List.mem_of_mem_filter member),placed.untagged⟩

/-- No write watch of the descriptor has messages of the flow. -/
def Spent (flow : Nat) (s : Watches) (fd : Int) : Prop :=
  ∀ w ∈ s.aio_watches, w.is_write = true → w.fd = fd →
    tagged flow (s.queues w.queue) = 0 ∧ tagged flow w.pending_aio.toList = 0

/-- What is queued to or pending in the watches of a descriptor is lost with
    them. -/
theorem watch_remove_writeq_loses (flow : Nat) (placed : Placed out_fds s) (fd : Int) :
    ∃ n, Loses flow n s (watch_remove_writeq s fd) ∧ (n = 0 ↔ Spent flow s fd) := by
  obtain ⟨left,left_is⟩ : ∃ left, s.aio_watches.filter (fun w => w.fd ≠ fd) = left := ⟨_,rfl⟩
  obtain ⟨gone,gone_is⟩ : ∃ gone, s.aio_watches.filter (fun w => ¬ w.fd ≠ fd) = gone := ⟨_,rfl⟩
  have fewer : write_queues left ⊆ write_queues s.aio_watches := by
    intro queue
    simp only [mem_write_queues]
    rintro ⟨w,member,write,same⟩
    exact ⟨w,List.mem_of_mem_filter (left_is ▸ member),write,same⟩
  have queues := Finset.sum_sdiff (f := fun q => tagged flow (s.queues q)) fewer
  have pending := List.sum_map_filter_add_sum_map_filter_not (fun w : AioWatch => w.fd ≠ fd) (pending_tagged flow)
    s.aio_watches
  rw [left_is,gone_is] at pending
  refine ⟨(write_queues s.aio_watches \ write_queues left).sum (fun q => tagged flow (s.queues q)) +
    (gone.map (pending_tagged flow)).sum,?_,?_⟩
  · unfold Loses outstanding watch_remove_writeq
    dsimp only
    rw [left_is]
    omega
  · rw [Nat.add_eq_zero_iff,Finset.sum_eq_zero_iff,List.sum_eq_zero_iff]
    constructor
    · rintro ⟨queues_zero,pending_zero⟩ w member write same
      constructor
      · by_cases listed : w.queue ∈ write_queues left
        · -- only a client's queue has such messages, and its watches have one descriptor
          refine tagged_eq_zero (placed.untagged w.queue ?_)
          intro dm client
          obtain ⟨other,kept,_,queue⟩ := mem_write_queues.mp listed
          rw [← left_is,List.mem_filter] at kept
          have fds := (placed.client_fd w member dm client).symm.trans (placed.client_fd other kept.1 dm (queue.trans client))
          simp [← Option.some.inj fds,same] at kept
        · exact queues_zero w.queue (Finset.mem_sdiff.mpr ⟨mem_write_queues.mpr ⟨w,member,write,rfl⟩,listed⟩)
      · have among : w ∈ gone := by
          rw [← gone_is,List.mem_filter]
          exact ⟨member,by simp [same]⟩
        simpa [pending_tagged,write] using pending_zero _ (List.mem_map_of_mem among)
    · intro spent
      constructor
      · intro queue member
        obtain ⟨before,after⟩ := Finset.mem_sdiff.mp member
        obtain ⟨w,listed,write,rfl⟩ := mem_write_queues.mp before
        refine (spent w listed write ?_).1
        by_contra other
        refine after (mem_write_queues.mpr ⟨w,?_,write,rfl⟩)
        rw [← left_is,List.mem_filter]
        exact ⟨listed,by simpa using other⟩
      · intro amount member
        obtain ⟨w,among,rfl⟩ := List.mem_map.mp member
        rw [← gone_is,List.mem_filter] at among
        unfold pending_tagged
        split_ifs with write
        · exact (spent w among.1 write (by simpa using among.2)).2
        · rfl

/-! ## Submitting and completing -/

theorem Placed.set (placed : Placed out_fds s) {i : Nat} {w : AioWatch} (found : s.aio_watches[i]? = some w)
    (pending : Option Mbuf) (untagged : w.is_write = false → ∀ mbuf ∈ pending, mbuf.flow = none) :
    Placed out_fds { s with aio_watches := s.aio_watches.set i { w with pending_aio := pending } } := by
  have member := List.mem_of_getElem? found
  refine ⟨?_,?_,?_,placed.untagged⟩
  · intro v listed read
    rcases List.mem_or_eq_of_mem_set listed with old | rfl
    · exact placed.read_watch v old read
    · exact ⟨(placed.read_watch w member read).1,untagged read⟩
  · intro v listed write
    rcases List.mem_or_eq_of_mem_set listed with old | rfl
    · exact placed.write_watch v old write
    · exact placed.write_watch w member write
  · intro v listed dm same
    rcases List.mem_or_eq_of_mem_set listed with old | rfl
    · exact placed.client_fd v old dm same
    · exact placed.client_fd w member dm same

theorem submit_visit_quiet {accepted : Nat → Bool} {i : Nat} (visited : submit_visit accepted s i = .ok t) :
    Quiet out_fds flow s t := by
  rcases submit_visit_cases accepted s i with same | ⟨w,mbuf,rest,opcode,found,idle,queued,moved⟩
  · cases same.symm.trans visited
    exact .refl s
  · cases moved.symm.trans visited
    intro placed
    have member := List.mem_of_getElem? found
    have untagged : (∀ dm, w.queue ≠ .outq dm) → ∀ x ∈ mbuf :: rest, x.flow = none := by
      rw [← queued]
      exact placed.untagged w.queue
    constructor
    · have usb (read : w.is_write = false) : ∀ x ∈ some mbuf, x.flow = none := by
        intro x same
        refine untagged ?_ x (by simp [Option.mem_some_iff.mp same])
        rw [(placed.read_watch w member read).1]
        simp
      have after := (placed.queues s.packets w.queue rest (fun other x there =>
        untagged other x (List.mem_cons_of_mem mbuf there))).set found (some mbuf) usb
      exact ⟨after.read_watch,after.write_watch,after.client_fd,after.untagged⟩
    · have moved := @outstanding_set flow _ _ _ found (Function.update s.queues w.queue rest) (some mbuf)
      have before : pending_tagged flow w = 0 := by simp [pending_tagged,idle,tagged]
      rw [before] at moved
      unfold Loses
      dsimp only
      by_cases write : w.is_write = true
      · have left := @outstanding_queue flow _ _ (mem_write_queues.mpr ⟨w,member,write,rfl⟩) s.queues rest
        have after : pending_tagged flow { w with pending_aio := some mbuf } = tagged flow [mbuf] := by
          simp [pending_tagged,write]
        have first : tagged flow (mbuf :: rest) = tagged flow [mbuf] + tagged flow rest := by
          rw [← List.singleton_append,tagged,List.countP_append,tagged,tagged]
        rw [queued] at left
        omega
      · have read : w.is_write = false := by simpa using write
        have unlisted : w.queue ∉ write_queues s.aio_watches := by
          rw [(placed.read_watch w member read).1]
          exact placed.ffs_outq
        have after : pending_tagged flow { w with pending_aio := some mbuf } = 0 := by simp [pending_tagged,read]
        rw [outstanding_other unlisted] at moved
        omega

theorem submit_pass_quiet {accepted : Nat → Bool} (ran : submit_pass accepted s = .ok t) : Quiet out_fds flow s t :=
  exec_invariant (I := Quiet out_fds flow s) (fun before visited => before.trans (submit_visit_quiet visited)) (.refl s) ran

@[simp] theorem watch_flow_dec_at (packets : Nat → Nat) (tag : Option Nat) (flow : Nat) :
    watch_flow_dec packets tag flow = packets flow - if tag = some flow then 1 else 0 := by
  cases tag with
  | none => simp [watch_flow_dec]
  | some other =>
    by_cases same : other = flow
    · subst same
      by_cases zero : packets other = 0 <;> simp [watch_flow_dec,zero]
    · by_cases zero : packets other = 0 <;> simp [watch_flow_dec,zero,same,Ne.symm same]

theorem diag_ffs_recv_quiet (s : Watches) {mbuf : Mbuf} (untagged : mbuf.flow = none)
    (pushed : List (Queue × List UInt8)) : Quiet out_fds flow s (diag_ffs_recv s mbuf pushed) := by
  refine (queue_all_quiet s pushed).trans ?_
  intro placed
  refine ⟨placed.queues _ _ _ ?_,?_⟩
  · intro other x member
    rcases List.mem_append.mp member with old | new
    · exact placed.untagged _ other x old
    · rw [List.mem_singleton.mp new]
      exact untagged
  · exact Loses.unlisted placed.ffs_outq _

/-- The callback of USB's read watch loses nothing. -/
theorem aio_complete_quiet (placed : Placed out_fds s) {w : AioWatch} (member : w ∈ s.aio_watches)
    (read : w.is_write = false) {mbuf : Mbuf} (pending : w.pending_aio = some mbuf) (event : IoEvent) :
    Quiet out_fds flow s (aio_complete s w mbuf event) := by
  have untagged := (placed.read_watch w member read).2 mbuf pending
  simp only [aio_complete,read,Bool.false_eq_true,if_false]
  split_ifs with delivered
  · exact diag_ffs_recv_quiet s untagged event.pushed
  · exact diag_ffs_recv_quiet s untagged event.pushed

theorem aio_complete_write {w : AioWatch} (write : w.is_write = true) (mbuf : Mbuf) (event : IoEvent) :
    aio_complete s w mbuf event = watch_free_write_aio s mbuf := if_pos write

theorem handle_event_placed {i : Nat} {event : IoEvent} (placed : Placed out_fds s)
    (handled : handle_event i s event = .ok t) : Placed out_fds t := by
  rcases handle_event_ok handled with ⟨rfl,_⟩ | ⟨w,mbuf,found,_,pending,_,rfl⟩
  · exact placed
  · have called : Placed out_fds (aio_complete s w mbuf event) := by
      by_cases write : w.is_write = true
      · rw [aio_complete_write write]
        exact ⟨placed.read_watch,placed.write_watch,placed.client_fd,placed.untagged⟩
      · have member := List.mem_of_getElem? found
        exact (@aio_complete_quiet _ 0 s placed w member (by simpa using write) mbuf pending event placed).1
    have same := (aio_complete_same s w mbuf event).aio_watches
    rw [← same] at found
    have after := called.set found none (by simp)
    rw [same] at after
    exact ⟨after.read_watch,after.write_watch,after.client_fd,after.untagged⟩

/-- A completion takes one message off both sides, or none. -/
theorem handle_event_balanced {i : Nat} {event : IoEvent} (placed : Placed out_fds s) (balanced : Balanced flow s)
    (handled : handle_event i s event = .ok t) : Balanced flow t := by
  rcases handle_event_ok handled with ⟨rfl,_⟩ | ⟨w,mbuf,found,_,pending,_,rfl⟩
  · exact balanced
  · have same := (aio_complete_same s w mbuf event).aio_watches
    refine balanced_iff.mpr ?_
    dsimp only
    have moved := @outstanding_set flow _ _ _ found (aio_complete s w mbuf event).queues none
    by_cases write : w.is_write = true
    · have before : pending_tagged flow w = if mbuf.flow = some flow then 1 else 0 := by
        simp [pending_tagged,write,pending,tagged,List.countP_singleton]
      have after : pending_tagged flow { w with pending_aio := none } = 0 := by simp [pending_tagged,tagged]
      have counted := balanced.counted
      rw [aio_complete_write write] at moved ⊢
      dsimp only [watch_free_write_aio] at moved ⊢
      rw [watch_flow_dec_at]
      omega
    · have read : w.is_write = false := by simpa using write
      have before : pending_tagged flow w = 0 := by simp [pending_tagged,read]
      have after : pending_tagged flow { w with pending_aio := none } = 0 := by simp [pending_tagged,read]
      have quiet : Loses flow 0 s (aio_complete s w mbuf event) :=
        (aio_complete_quiet placed (List.mem_of_getElem? found) read pending event placed).2
      have counted := ((quiet.balanced_iff balanced).mpr rfl).counted
      rw [same] at counted
      omega

theorem watch_handle_eventfd_placed {replies : List Reply} (placed : Placed out_fds s)
    (handled : watch_handle_eventfd s replies = .ok t) : Placed out_fds t := by
  refine exec_invariant (I := Placed out_fds) ?_ ?_ handled
  · intro u i v good turn
    exact exec_invariant (I := Placed out_fds) (fun good first => handle_event_placed good first) good turn
  · exact ⟨placed.read_watch,placed.write_watch,placed.client_fd,placed.untagged⟩

theorem watch_handle_eventfd_balanced {replies : List Reply} (placed : Placed out_fds s) (balanced : Balanced flow s)
    (handled : watch_handle_eventfd s replies = .ok t) : Balanced flow t := by
  refine (exec_invariant (I := fun u => Placed out_fds u ∧ Balanced flow u) ?_ ⟨?_,?_⟩ handled).2
  · intro u i v good turn
    exact exec_invariant (I := fun u => Placed out_fds u ∧ Balanced flow u)
      (fun good first => ⟨handle_event_placed good.1 first,handle_event_balanced good.1 good.2 first⟩) good turn
  · exact ⟨placed.read_watch,placed.write_watch,placed.client_fd,placed.untagged⟩
  · exact ⟨balanced.counted,balanced.blocked⟩

end

/-! ## Calls -/

def out_fds (s : Router) : List Int := s.diag_clients.map DiagClient.out_fd

/-- Every enabled client's queue has a write watch. -/
def Heard (s : Router) : Prop :=
  ∀ dm client, s.diag_clients[dm]? = some client → client.enabled = true →
    ∃ w ∈ s.io.aio_watches, w.is_write = true ∧ w.queue = .outq dm

/-- A call removes no write watch that has messages of the flow, and queues none
    to a client without one. -/
def Keeps (flow : Nat) (s : Router) (c : Call) : Prop :=
  (∀ fd ∈ removes s c, Spent flow s.io fd) ∧ (broadcasts s c = some flow → Heard s)

/-- The call loses no message exactly when it `keeps` them. -/
def Tells (flow : Nat) (s t : Router) (keeps : Prop) : Prop :=
  Placed (out_fds t) t.io ∧ ∃ n, Loses flow n s.io t.io ∧ (n = 0 ↔ keeps)

section
variable {flow : Nat} {s t : Router}

theorem Tells.quiet (placed : Placed (out_fds s) s.io) (clients : out_fds t = out_fds s)
    (quiet : Quiet (out_fds s) flow s.io t.io) {keeps : Prop} (kept : keeps) : Tells flow s t keeps := by
  obtain ⟨after,none_lost⟩ := quiet placed
  exact ⟨clients ▸ after,0,none_lost,iff_of_true rfl kept⟩

theorem Tells.congr {keeps same : Prop} (tells : Tells flow s t keeps) (iff : keeps ↔ same) : Tells flow s t same := by
  obtain ⟨after,n,loses,zero⟩ := tells
  exact ⟨after,n,loses,zero.trans iff⟩

theorem Tells.after {u : Router} {keeps : Prop} (tells : Tells flow t u keeps) (loses : Loses flow 0 s.io t.io) :
    Tells flow s u keeps := by
  obtain ⟨after,n,later,zero⟩ := tells
  refine ⟨after,n,?_,zero⟩
  simpa using loses.trans later

/-- The clients from the `dm`-th on that are enabled and have no write watch. -/
def unheard (watches : List AioWatch) : Nat → List DiagClient → Nat
  | _, [] => 0
  | dm, client :: clients =>
    (if client.enabled = true ∧ Queue.outq dm ∉ write_queues watches then 1 else 0) + unheard watches (dm + 1) clients

theorem unheard_eq_zero {watches : List AioWatch} {dm : Nat} {clients : List DiagClient} :
    unheard watches dm clients = 0 ↔
      ∀ i client, clients[i]? = some client → client.enabled = true → Queue.outq (dm + i) ∈ write_queues watches := by
  induction clients generalizing dm with
  | nil => simp [unheard]
  | cons client clients ih =>
    rw [unheard,Nat.add_eq_zero_iff,ih]
    constructor
    · rintro ⟨first,rest⟩ i other found enabled
      cases i with
      | zero =>
        cases found
        simpa [enabled] using first
      | succ i =>
        rw [Nat.add_succ,← Nat.succ_add]
        exact rest i other found enabled
    · intro all
      constructor
      · rw [if_neg]
        rintro ⟨enabled,unlisted⟩
        exact unlisted (all 0 client rfl enabled)
      · intro i other found enabled
        rw [Nat.succ_add,← Nat.add_succ]
        exact all (i + 1) other found enabled

theorem dm_send_flow_loses (flow : Nat) (io : Watches) (dm : Nat) (client : DiagClient) (msg : List UInt8)
    (tag : Option Nat) :
    Loses flow (if tag = some flow ∧ client.enabled = true ∧ Queue.outq dm ∉ write_queues io.aio_watches then 1 else 0) io
      (dm_send_flow io dm client msg tag) := by
  rw [dm_send_flow]
  cases enabled : client.enabled with
  | false => simp [Loses]
  | true =>
    simp only [true_and,if_true]
    cases client.encode_type with
    | RAW => exact queue_push_flow_loses flow io _ _ tag
    | HDLC => exact queue_push_flow_loses flow io _ _ tag
    | NHDLC => exact queue_push_flow_loses flow io _ _ tag

theorem dm_send_flow_placed {fds : List Int} {io : Watches} (placed : Placed fds io) (dm : Nat) (client : DiagClient)
    (msg : List UInt8) (tag : Option Nat) : Placed fds (dm_send_flow io dm client msg tag) := by
  rw [dm_send_flow]
  split_ifs with enabled
  · cases client.encode_type with
    | RAW => exact queue_push_flow_placed placed _ _ (.inr ⟨dm,rfl⟩)
    | HDLC => exact queue_push_flow_placed placed _ _ (.inr ⟨dm,rfl⟩)
    | NHDLC => exact queue_push_flow_placed placed _ _ (.inr ⟨dm,rfl⟩)
  · exact placed

/-- A broadcast loses a message for every client that is enabled and has gone. -/
theorem broadcast_loop_loses (flow : Nat) {fds : List Int} {io : Watches} (placed : Placed fds io) (msg : List UInt8)
    (tag : Option Nat) (dm : Nat) (clients : List DiagClient) :
    Placed fds (broadcast_loop msg tag io dm clients) ∧
      Loses flow (if tag = some flow then unheard io.aio_watches dm clients else 0) io
        (broadcast_loop msg tag io dm clients) := by
  induction clients generalizing io dm with
  | nil => exact ⟨placed,by simp [Loses,broadcast_loop,unheard]⟩
  | cons client clients ih =>
    obtain ⟨after,rest⟩ := ih (dm_send_flow_placed placed dm client msg tag) (dm + 1)
    refine ⟨after,?_⟩
    have both := (dm_send_flow_loses flow io dm client msg tag).trans rest
    rw [(dm_send_flow_same io dm client msg tag).aio_watches] at both
    by_cases mine : tag = some flow
    · simpa [mine,unheard,broadcast_loop] using both
    · simpa [mine,broadcast_loop] using both

theorem Tells.broadcast (placed : Placed (out_fds s) s.io) (msg : List UInt8) (tag : Option Nat) :
    Tells flow s (dm_broadcast s msg tag) (tag = some flow → Heard s) := by
  obtain ⟨after,loses⟩ := broadcast_loop_loses flow placed msg tag 0 s.diag_clients
  refine ⟨after,_,loses,?_⟩
  by_cases mine : tag = some flow
  · rw [if_pos mine,unheard_eq_zero]
    simp only [Nat.zero_add,mem_write_queues,mine,forall_const]
    rfl
  · simp [mine]

theorem Tells.removed (placed : Placed (out_fds s) s.io) (clients : out_fds t = out_fds s) {fd : Int}
    {read_watches : List ReadWatch} (io : t.io = watch_remove_writeq { s.io with read_watches := read_watches } fd) :
    Tells flow s t (∀ gone ∈ some fd, Spent flow s.io gone) := by
  obtain ⟨n,loses,spent⟩ := watch_remove_writeq_loses flow placed fd
  have after := placed.filter (fun w => w.fd ≠ fd)
  refine ⟨?_,n,?_,spent.trans (by simp)⟩
  · rw [clients,io]
    exact ⟨after.read_watch,after.write_watch,after.client_fd,after.untagged⟩
  · rw [io]
    exact loses

theorem Placed.more {fds : List Int} {io : Watches} (placed : Placed fds io) (fd : Int) : Placed (fds ++ [fd]) io := by
  refine ⟨placed.read_watch,placed.write_watch,?_,placed.untagged⟩
  intro w member dm same
  have known := placed.client_fd w member dm same
  rw [List.getElem?_append_left (List.getElem?_eq_some_iff.mp known).1]
  exact known

/-- A new client's queue is empty, and no watch had it. -/
theorem dm_add_loses (placed : Placed (out_fds s) s.io) (in_fd out_fd : Int) (is_encoded : Bool) :
    Placed (out_fds (dm_add s in_fd out_fd is_encoded)) (dm_add s in_fd out_fd is_encoded).io ∧
      Loses flow 0 s.io (dm_add s in_fd out_fd is_encoded).io := by
  have clients : out_fds (dm_add s in_fd out_fd is_encoded) = out_fds s ++ [out_fd] := by simp [out_fds,dm_add]
  have length : (out_fds s).length = s.diag_clients.length := by simp [out_fds]
  have unlisted : Queue.outq s.diag_clients.length ∉ write_queues s.io.aio_watches := by
    rw [mem_write_queues,← length]
    rintro ⟨w,member,_,queue⟩
    have known := placed.client_fd w member _ queue
    simp at known
  rw [clients]
  let listed := { s.io with queues := Function.update s.io.queues (.outq s.diag_clients.length) [] }
  have empty : listed.queues (.outq s.diag_clients.length) = [] := Function.update_self ..
  have first : Quiet (out_fds s ++ [out_fd]) flow s.io listed :=
    fun placed => ⟨placed.queues _ _ _ (by simp),Loses.unlisted unlisted _⟩
  have own_fd : ∀ dm, Queue.outq s.diag_clients.length = .outq dm → (out_fds s ++ [out_fd])[dm]? = some out_fd := by
    rintro dm ⟨⟩
    simp [← length]
  refine (first.trans ?_) (placed.more out_fd)
  rw [dm_add]
  dsimp only
  split_ifs with reads
  · exact (watch_add_readfd_quiet listed in_fd none).trans
      (watch_add_writeq_quiet _ out_fd (by simp) own_fd (by simp [watch_add_readfd,empty,tagged]))
  · exact watch_add_writeq_quiet listed out_fd (by simp) own_fd (by simp [empty,tagged])

theorem out_fds_set_enabled (s : Router) (dm : Nat) (enabled : Bool) : out_fds (set_enabled s dm enabled) = out_fds s := by
  refine List.ext_getElem? ?_
  intro i
  simp only [out_fds,set_enabled,List.getElem?_map,List.getElem?_modify]
  cases s.diag_clients[i]? with
  | none => rfl
  | some client =>
    simp only [Option.map_some]
    split_ifs <;> rfl

theorem out_fds_set_encode_type (s : Router) (type : Clients.EncodeType) : out_fds (set_encode_type s type) = out_fds s := by
  rw [out_fds,set_encode_type,List.map_map,out_fds]
  refine List.map_congr_left ?_
  intro client _
  simp only [Function.comp_apply]
  split_ifs <;> rfl

theorem diag_usb_open_loses (placed : Placed (out_fds s) s.io) (ep0 bulk_out bulk_in : Int) :
    Placed (out_fds (diag_usb_open s ep0 bulk_out bulk_in)) (diag_usb_open s ep0 bulk_out bulk_in).io ∧
      Loses flow 0 s.io (diag_usb_open s ep0 bulk_out bulk_in).io := by
  rw [diag_usb_open]
  cases s.ffs with
  | some ffs => exact ⟨placed,rfl⟩
  | none =>
    dsimp only
    have listed : Quiet (out_fds s) flow s.io
        { s.io with queues := Function.update s.io.queues .ffs_outq [⟨List.replicate 16384 0,0,none⟩] } := by
      refine fun placed => ⟨placed.queues _ _ _ ?_,Loses.unlisted placed.ffs_outq _⟩
      intro _ mbuf member
      rw [List.mem_singleton.mp member]
    obtain ⟨before,none_lost⟩ := (listed.trans (watch_add_readfd_quiet _ ep0 none)) placed
    generalize watch_add_readfd _ ep0 none = io at before none_lost ⊢
    obtain ⟨after,none_lost_later⟩ := @dm_add_loses flow { s with io := io } before (-1) bulk_in true
    exact ⟨after,none_lost.trans none_lost_later⟩

/-- A peripheral's write watch, added if the socket was not open. -/
theorem open_quiet {fds : List Int} (io : Watches) (opened : Bool) (fd : Int) {queue : Queue} (not_usb : queue ≠ .ffs_outq)
    (not_client : ∀ dm, queue ≠ .outq dm) : Quiet fds flow io (if opened then io else watch_add_writeq io fd queue) := by
  intro placed
  split_ifs with already
  · exact ⟨placed,rfl⟩
  · exact watch_add_writeq_quiet io fd not_usb (fun dm same => absurd same (not_client dm))
      (tagged_eq_zero (placed.untagged queue not_client)) placed

theorem ep0_recv_tells (placed : Placed (out_fds s) s.io) (event : FunctionfsEvent) {keeps : Prop} (kept : keeps) :
    Tells flow s (ep0_recv s event) keeps := by
  rw [ep0_recv]
  cases s.ffs with
  | none => exact .quiet placed rfl (.refl s.io) kept
  | some ffs =>
    cases event with
    | FUNCTIONFS_ENABLE =>
      exact .quiet placed (out_fds_set_enabled { s with io := watch_add_readq s.io ffs.bulk_out .ffs_outq } ffs.dm true)
        (watch_add_readq_quiet s.io ffs.bulk_out) kept
    | FUNCTIONFS_DISABLE => exact .quiet placed (out_fds_set_enabled s ffs.dm false) (.refl s.io) kept
    | other => exact .quiet placed rfl (.refl s.io) kept

theorem dm_recv_end_tells (placed : Placed (out_fds s) s.io) (dm : Nat) :
    Tells flow s (dm_recv_end s dm) (∀ fd ∈ removes s (.dm_recv_end dm), Spent flow s.io fd) := by
  rw [dm_recv_end,removes]
  cases s.diag_clients[dm]? with
  | none => exact .quiet placed rfl (.refl s.io) (by simp)
  | some client =>
    dsimp only
    split_ifs with raw
    · exact .removed placed (by rfl) (by rfl)
    · exact .quiet placed rfl (.refl s.io) (by simp)

theorem qrtr_cntl_recv_tells (placed : Placed (out_fds s) s.io) (i : Nat) (pkt : QrtrPacket) (pushed : List (List UInt8)) :
    Tells flow s (qrtr_cntl_recv s i pkt pushed) (∀ fd ∈ removes s (.qrtr_cntl_recv i pkt pushed), Spent flow s.io fd) := by
  rw [qrtr_cntl_recv,removes]
  cases s.peripherals[i]? with
  | none => exact .quiet placed rfl (.refl s.io) (by simp)
  | some perif =>
    cases pkt.type with
    | QRTR_TYPE_DATA =>
      refine .quiet placed (by rfl) ?_ (by simp)
      exact (open_quiet s.io perif.cntl_open perif.cntl_fd (by simp) (by simp)).trans (queue_all_quiet _ _)
    | QRTR_TYPE_BYE => exact .removed placed (by rfl) (by rfl)
    | _ => exact .quiet placed rfl (.refl s.io) (by simp)

theorem qrtr_cmd_recv_tells (placed : Placed (out_fds s) s.io) (i : Nat) (pkt : QrtrPacket) :
    Tells flow s (qrtr_cmd_recv s i pkt) (∀ fd ∈ removes s (.qrtr_cmd_recv i pkt), Spent flow s.io fd) := by
  rw [qrtr_cmd_recv,removes]
  cases s.peripherals[i]? with
  | none => exact .quiet placed rfl (.refl s.io) (by simp)
  | some perif =>
    cases pkt.type with
    | QRTR_TYPE_DATA =>
      cases non_hdlc_payload pkt.data with
      | none => exact .quiet placed rfl (.refl s.io) (by simp)
      | some payload => exact (Tells.broadcast placed payload none).congr (by simp)
    | QRTR_TYPE_NEW_SERVER =>
      dsimp only
      split_ifs with none_there
      · exact .quiet placed rfl (.refl s.io) (by simp)
      · refine .quiet placed (by rfl) ?_ (by simp)
        exact open_quiet s.io false perif.cmd_fd (by simp) (by simp)
    | QRTR_TYPE_DEL_SERVER => exact .removed placed (by rfl) (by rfl)
    | _ => exact .quiet placed rfl (.refl s.io) (by simp)

/-- A peripheral's own watch makes no client heard. -/
theorem heard_open {opened : Bool} {fd : Int} {queue : Queue} (not_client : ∀ dm, queue ≠ .outq dm)
    (peripherals : List Peripheral) :
    Heard { s with io := if opened then s.io else watch_add_writeq s.io fd queue, peripherals := peripherals } ↔ Heard s := by
  refine forall_congr' fun dm => forall_congr' fun client => imp_congr_right fun _ => imp_congr_right fun _ => ?_
  cases opened with
  | true => rfl
  | false =>
    constructor
    · rintro ⟨w,member,write,same⟩
      rcases List.mem_append.mp member with old | new
      · exact ⟨w,old,write,same⟩
      · rw [List.mem_singleton.mp new] at same
        exact absurd same (not_client dm)
    · rintro ⟨w,member,write,same⟩
      exact ⟨w,List.mem_append_left _ member,write,same⟩

theorem qrtr_data_recv_tells (placed : Placed (out_fds s) s.io) (i : Nat) (pkt : QrtrPacket) :
    Tells flow s (qrtr_data_recv s i pkt) (Keeps flow s (.qrtr_data_recv i pkt)) := by
  rw [qrtr_data_recv,Keeps,removes,broadcasts]
  cases s.peripherals[i]? with
  | none => exact .quiet placed rfl (.refl s.io) (by simp)
  | some perif =>
    cases pkt.type with
    | QRTR_TYPE_DATA =>
      dsimp only
      obtain ⟨between,none_lost⟩ := @open_quiet flow (out_fds s) s.io perif.data_open perif.data_fd (.dataq i) (by simp) (by simp)
        placed
      cases non_hdlc_payload pkt.data with
      | none => exact ⟨between,0,none_lost,by simp⟩
      | some payload =>
        refine Tells.congr (Tells.after (Tells.broadcast between payload (some i)) none_lost) ?_
        rw [heard_open (by simp)]
        simp
    | QRTR_TYPE_BYE => exact (Tells.removed placed (by rfl) (by rfl)).congr (by simp)
    | _ => exact .quiet placed rfl (.refl s.io) (by simp)

theorem call_tells (placed : Placed (out_fds s) s.io) (c : Call) : Tells flow s (call s c) (Keeps flow s c) := by
  cases c with
  | dm_add in_fd out_fd is_encoded =>
    obtain ⟨after,none_lost⟩ := dm_add_loses placed in_fd out_fd is_encoded
    exact ⟨after,0,none_lost,by simp [Keeps,removes,broadcasts]⟩
  | dm_enable dm =>
    exact .quiet placed (out_fds_set_enabled s dm true) (.refl s.io) (by simp [Keeps,removes,broadcasts])
  | dm_disable dm =>
    exact .quiet placed (out_fds_set_enabled s dm false) (.refl s.io) (by simp [Keeps,removes,broadcasts])
  | set_encode_type type =>
    exact .quiet placed (out_fds_set_encode_type s type) (.refl s.io) (by simp [Keeps,removes,broadcasts])
  | dm_broadcast msg tag => exact (Tells.broadcast placed msg tag).congr (by simp [Keeps,removes,broadcasts])
  | dm_recv_end dm => exact (dm_recv_end_tells placed dm).congr (by simp [Keeps,broadcasts])
  | diag_usb_open ep0 bulk_out bulk_in =>
    obtain ⟨after,none_lost⟩ := diag_usb_open_loses placed ep0 bulk_out bulk_in
    exact ⟨after,0,none_lost,by simp [Keeps,removes,broadcasts]⟩
  | ep0_recv event => exact ep0_recv_tells placed event (by simp [Keeps,removes,broadcasts])
  | qrtr_perif_init_subsystem cntl_fd cmd_fd data_fd =>
    refine .quiet placed (by rfl) ?_ (by simp [Keeps,removes,broadcasts])
    exact ((watch_add_readfd_quiet _ _ _).trans (watch_add_readfd_quiet _ _ _)).trans (watch_add_readfd_quiet _ _ _)
  | qrtr_cntl_recv perif pkt pushed => exact (qrtr_cntl_recv_tells placed perif pkt pushed).congr (by simp [Keeps,broadcasts])
  | qrtr_cmd_recv perif pkt => exact (qrtr_cmd_recv_tells placed perif pkt).congr (by simp [Keeps,broadcasts])
  | qrtr_data_recv perif pkt => exact qrtr_data_recv_tells placed perif pkt
  | queue_push queue msg =>
    exact .quiet placed (by rfl) (queue_push_quiet s.io queue msg) (by simp [Keeps,removes,broadcasts])
  | watch_remove_fd fd => exact (Tells.removed placed (by rfl) (by rfl)).congr (by simp [Keeps,removes,broadcasts])
  | watch_remove_writeq fd => exact (Tells.removed placed (by rfl) (by rfl)).congr (by simp [Keeps,removes,broadcasts])

end

/-! ## Runs -/

/-- The condition on a step: it is one on calls only. -/
def Careful (flow : Nat) (s : Router) : Action → Prop
  | .call c => Keeps flow s c
  | _ => True

theorem step_placed {s t : Router} {a : Action} (placed : Placed (out_fds s) s.io) (stepped : step s a = .ok t) :
    Placed (out_fds t) t.io := by
  cases a with
  | call c =>
    cases stepped
    exact (@call_tells 0 s placed c).1
  | submit_pass accepted =>
    obtain ⟨io,ran,rfl⟩ := map_eq_ok.mp stepped
    exact (@submit_pass_quiet _ 0 _ _ _ ran placed).1
  | watch_handle_eventfd replies =>
    obtain ⟨io,ran,rfl⟩ := map_eq_ok.mp stepped
    exact watch_handle_eventfd_placed placed ran

/-- A step loses messages exactly when it is a call that does not keep them. -/
theorem step_careful_iff {flow : Nat} {s : Router} {a : Action} (placed : Placed (out_fds s) s.io)
    (balanced : Balanced flow s.io) : Careful flow s a ↔ ∀ t, step s a = .ok t → Balanced flow t.io := by
  cases a with
  | call c =>
    obtain ⟨_,n,loses,zero⟩ := @call_tells flow s placed c
    rw [Careful,← zero,← loses.balanced_iff balanced]
    exact ⟨fun after t stepped => by cases stepped; exact after,fun all => all _ rfl⟩
  | submit_pass accepted =>
    refine iff_of_true trivial ?_
    intro t stepped
    obtain ⟨io,ran,rfl⟩ := map_eq_ok.mp stepped
    exact ((submit_pass_quiet ran placed).2.balanced_iff balanced).mpr rfl
  | watch_handle_eventfd replies =>
    refine iff_of_true trivial ?_
    intro t stepped
    obtain ⟨io,ran,rfl⟩ := map_eq_ok.mp stepped
    exact watch_handle_eventfd_balanced placed balanced ran

theorem start_placed : Placed (out_fds start) start.io := by constructor <;> simp [start]

theorem start_balanced (flow : Nat) : Balanced flow start.io :=
  balanced_iff.mpr (by simp [start,outstanding,write_queues])

/-- From the start, the count of a flow is right in every state of a run exactly
    when no call of it removes a write watch that has messages of the flow, or
    queues one to an enabled client whose write watch is gone. -/
theorem flow_balanced_iff (flow : Nat) (actions : List Action) :
    Along step (fun s => Balanced flow s.io) start actions ↔ Meets step (Careful flow) start actions :=
  along_iff_meets (fun s => Placed (out_fds s) s.io) (fun placed stepped => step_placed placed stepped)
    (fun placed balanced => step_careful_iff placed balanced) actions start_placed (start_balanced flow)

/-- A client leaves with eleven messages queued, or leaves and is sent eleven
    more: the peripheral is not read any more, and nothing is left to be sent. -/
theorem client_leaves :
    (∃ t, exec step start ([.call (.dm_add 5 5 false),.call (.dm_enable 0)] ++
      List.replicate 11 (.call (.dm_broadcast [1] (some 0))) ++ [.call (.dm_recv_end 0)]) = .ok t ∧
      t.io.packets 0 = 11 ∧ watch_flow_blocked t.io.packets (some 0) = true ∧
      outstanding t.io.queues t.io.aio_watches 0 = 0) ∧
    ∃ t, exec step start ([.call (.dm_add 5 5 false),.call (.dm_enable 0),.call (.dm_recv_end 0)] ++
      List.replicate 11 (.call (.dm_broadcast [1] (some 0)))) = .ok t ∧
      t.io.packets 0 = 11 ∧ watch_flow_blocked t.io.packets (some 0) = true ∧
      outstanding t.io.queues t.io.aio_watches 0 = 0 :=
  ⟨⟨_,rfl,rfl,rfl,rfl⟩,⟨_,rfl,rfl,rfl,rfl⟩⟩

end DiagRouter.FlowControl

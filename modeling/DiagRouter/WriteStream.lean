import DiagRouter.AioBookkeeping
import Mathlib.Data.List.TakeDrop

/-!
# Outgoing byte streams

A write watch takes the buffers of its queue one after the other and has the
kernel write each of them to its descriptor. Next to the program's state stands
what was pushed to the queue and what the descriptor has accepted. A completion
frees the buffer whatever its count, and `-EAGAIN` leaves `pending_aio` set, so
the stream stays whole as long as every write is a full one.
-/
namespace DiagRouter.WriteStream
open DiagRouter.Lib.Memory DiagRouter.Lib.Runs DiagRouter.Watch DiagRouter.AioBookkeeping

inductive Action
  | queue_push_flow (queue : Queue) (msg : List UInt8) (flow : Option Nat)
  | watch_add_readq (fd : Int) (queue : Queue)
  | watch_add_writeq (fd : Int) (queue : Queue)
  | watch_remove_fd (fd : Int)
  | watch_remove_writeq (fd : Int)
  | submit_pass (accepted : Nat → Bool)
  | watch_handle_eventfd (replies : List Reply)

def io_step (s : Watches) : Action → Except Fault Watches
  | .queue_push_flow queue msg flow => .ok (queue_push_flow s queue msg flow)
  | .watch_add_readq fd queue => .ok (watch_add_readq s fd queue)
  | .watch_add_writeq fd queue => .ok (watch_add_writeq s fd queue)
  | .watch_remove_fd fd => .ok (watch_remove_fd s fd)
  | .watch_remove_writeq fd => .ok (watch_remove_writeq s fd)
  | .submit_pass accepted => submit_pass accepted s
  | .watch_handle_eventfd replies => watch_handle_eventfd s replies

/-- Before any watch was added. -/
def unwatched : Watches := ⟨fun _ => [],fun _ => 0,[],[],0,[],[]⟩

/-! ## What was pushed and what was accepted -/

/-- The bytes of the buffer that a watch has pending. -/
def held (w : AioWatch) : List UInt8 := (w.pending_aio.map Mbuf.data).getD []

def queued (s : Watches) (queue : Queue) : List UInt8 := (s.queues queue).flatMap Mbuf.data

/-- The events `watch_handle_eventfd` handles, of which there is room for 32. -/
def events (s : Watches) (replies : List Reply) : List IoEvent := (io_getevents s.in_flight (replies.take 32)).1

/-- What the descriptor took of the operation an event is about, if the watch
    `id` submitted it: its `aio_buf` is the data of the pending buffer, and `res`
    counts from the front. -/
def written (id : Nat) (s : Watches) (event : IoEvent) : List UInt8 :=
  if event.obj.watch = id then
    match s.aio_watches.find? (fun w => w.id = id) with
    | none => []
    | some w => (held w).take event.res.toNat
  else []

/-- What a step from `s` to `t` pushes to the queue. The commands that a USB read
    brings are handled in the step of its completion. -/
def pushes (queue : Queue) (s t : Watches) : Action → List UInt8
  | .queue_push_flow other msg _ => if other = queue then msg else []
  | .watch_handle_eventfd _ => ((t.queues queue).drop (s.queues queue).length).flatMap Mbuf.data
  | _ => []

def accepts (id : Nat) (s : Watches) : Action → List UInt8
  | .watch_handle_eventfd replies => (events s replies).flatMap (written id s)
  | _ => []

/-- The program's state, what was pushed to one queue, and what one watch's
    descriptor has accepted. -/
structure Traffic where
  io : Watches
  pushed : List UInt8
  accepted : List UInt8

def step (id : Nat) (queue : Queue) (s : Traffic) (a : Action) : Except Fault Traffic :=
  (fun io => ⟨io,s.pushed ++ pushes queue s.io io a,s.accepted ++ accepts id s.io a⟩) <$> io_step s.io a

/-- A write watch was just added. What its queue holds already is pushed. -/
def opened (s : Watches) (fd : Int) (queue : Queue) : Traffic := ⟨watch_add_writeq s fd queue,queued s queue,[]⟩

/-- The descriptor has accepted a front part of what was pushed; the buffer the
    watch holds and its queue are the rest, so that nothing is dropped; and what
    is queued while no write is in flight is submitted at the next pass, if the
    kernel takes it. -/
structure Intact (id : Nat) (s : Traffic) : Prop where
  in_front : s.accepted <+: s.pushed
  in_order : ∀ w ∈ s.io.aio_watches, w.id = id → s.accepted ++ held w ++ queued s.io w.queue = s.pushed
  submitted : ∀ w ∈ s.io.aio_watches, w.id = id → s.io.queues w.queue ≠ [] → own s.io.in_flight id = 0 →
    ∃ t, submit_pass (fun _ => true) s.io = .ok t ∧ 0 < own t.in_flight id

/-- The watch is the only one of its descriptor and is never removed, and the
    kernel answers its operations with a count or `-EAGAIN`. -/
def Legal (id : Nat) (fd : Int) (s : Traffic) : Action → Prop
  | .watch_add_readq other _ => other ≠ fd
  | .watch_add_writeq other _ => other ≠ fd
  | .watch_remove_fd other => other ≠ fd
  | .watch_remove_writeq other => other ≠ fd
  | .watch_handle_eventfd replies => ∀ event ∈ events s.io replies, event.obj.watch = id →
      event.res = -EAGAIN ∨ 0 ≤ event.res ∧ event.res ≤ event.obj.aio_nbytes
  | _ => True

instance (id : Nat) (fd : Int) (s : Traffic) (a : Action) : Decidable (Legal id fd s a) :=
  match a with
  | .queue_push_flow .. => inferInstanceAs (Decidable True)
  | .watch_add_readq other _ => inferInstanceAs (Decidable (other ≠ fd))
  | .watch_add_writeq other _ => inferInstanceAs (Decidable (other ≠ fd))
  | .watch_remove_fd other => inferInstanceAs (Decidable (other ≠ fd))
  | .watch_remove_writeq other => inferInstanceAs (Decidable (other ≠ fd))
  | .submit_pass _ => inferInstanceAs (Decidable True)
  | .watch_handle_eventfd replies => inferInstanceAs (Decidable (∀ event ∈ events s.io replies, event.obj.watch = id →
      event.res = -EAGAIN ∨ 0 ≤ event.res ∧ event.res ≤ event.obj.aio_nbytes))

/-- The queue is given to no other watch. -/
def OwnQueue (queue : Queue) : Action → Prop
  | .watch_add_readq _ other => other ≠ queue
  | .watch_add_writeq _ other => other ≠ queue
  | _ => True

/-- The watch has a buffer pending that the kernel gave back. -/
def Stuck (id : Nat) (s : Watches) : Prop :=
  own s.in_flight id = 0 ∧ ∃ w ∈ s.aio_watches, w.id = id ∧ w.pending_aio.isSome

/-- No command that an event brings pushes to the queue, and no buffer of a read
    watch comes back to it. -/
def Quiet (queue : Queue) (s : Watches) (events : List IoEvent) : Prop :=
  ∀ w ∈ s.aio_watches, w.is_write = false → ∀ event ∈ events, event.obj.aio_fildes = w.fd → event.res ≠ -EAGAIN →
    queue ≠ .ffs_outq ∧ ∀ push ∈ event.pushed, push.1 ≠ queue

instance (id : Nat) (s : Watches) : Decidable (Stuck id s) :=
  inferInstanceAs (Decidable (own s.in_flight id = 0 ∧ ∃ w ∈ s.aio_watches, w.id = id ∧ w.pending_aio.isSome))

instance (queue : Queue) (s : Watches) (events : List IoEvent) : Decidable (Quiet queue s events) :=
  inferInstanceAs (Decidable (∀ w ∈ s.aio_watches, w.is_write = false → ∀ event ∈ events, event.obj.aio_fildes = w.fd →
    event.res ≠ -EAGAIN → queue ≠ .ffs_outq ∧ ∀ push ∈ event.pushed, push.1 ≠ queue))

/-- Every write of the watch is a full one. One may end in `-EAGAIN` if nothing is
    queued then and nothing is pushed from then on. -/
def Delivered (id : Nat) (queue : Queue) (s : Traffic) : Action → Prop
  | .queue_push_flow other _ _ => other = queue → ¬ Stuck id s.io
  | .watch_handle_eventfd replies =>
    (∀ event ∈ events s.io replies, event.obj.watch = id → event.res = event.obj.aio_nbytes ∨ event.res = -EAGAIN) ∧
    (Stuck id s.io ∨ (∃ event ∈ events s.io replies, event.obj.watch = id ∧ event.res = -EAGAIN) →
      s.io.queues queue = [] ∧ Quiet queue s.io (events s.io replies))
  | _ => True

instance (id : Nat) (queue : Queue) (s : Traffic) (a : Action) : Decidable (Delivered id queue s a) :=
  match a with
  | .queue_push_flow other _ _ => inferInstanceAs (Decidable (other = queue → ¬ Stuck id s.io))
  | .watch_handle_eventfd replies => inferInstanceAs (Decidable (
    (∀ event ∈ events s.io replies, event.obj.watch = id → event.res = event.obj.aio_nbytes ∨ event.res = -EAGAIN) ∧
    (Stuck id s.io ∨ (∃ event ∈ events s.io replies, event.obj.watch = id ∧ event.res = -EAGAIN) →
      s.io.queues queue = [] ∧ Quiet queue s.io (events s.io replies))))
  | .watch_add_readq .. => inferInstanceAs (Decidable True)
  | .watch_add_writeq .. => inferInstanceAs (Decidable True)
  | .watch_remove_fd _ => inferInstanceAs (Decidable True)
  | .watch_remove_writeq _ => inferInstanceAs (Decidable True)
  | .submit_pass _ => inferInstanceAs (Decidable True)

/-! ## Watches and operations -/

/-- Addresses tell watches apart, and an operation has the descriptor of the
    watch that submitted it. -/
structure Sound (s : Watches) : Prop where
  distinct : (s.aio_watches.map AioWatch.id).Nodup
  watch_below : ∀ w ∈ s.aio_watches, w.id < s.next
  iocb_below : ∀ iocb ∈ s.in_flight, iocb.watch < s.next
  fildes : ∀ iocb ∈ s.in_flight, ∀ w ∈ s.aio_watches, w.id = iocb.watch → w.fd = iocb.aio_fildes

theorem Sound.same {s : Watches} (sound : Sound s) {v w : AioWatch} (one : v ∈ s.aio_watches) (other : w ∈ s.aio_watches)
    (id : v.id = w.id) : v = w := List.inj_on_of_nodup_map sound.distinct one other id

/-- Nothing is wrong with fewer watches and fewer operations. -/
theorem Sound.shrink {s t : Watches} (sound : Sound s) (distinct : (t.aio_watches.map AioWatch.id).Nodup)
    (watches : ∀ w ∈ t.aio_watches, ∃ v ∈ s.aio_watches, v.id = w.id ∧ v.fd = w.fd) (next : t.next = s.next)
    (flying : t.in_flight ⊆ s.in_flight) : Sound t where
  distinct := distinct
  watch_below w member := by
    obtain ⟨v,known,id,_⟩ := watches w member
    rw [next,← id]
    exact sound.watch_below v known
  iocb_below iocb member := next ▸ sound.iocb_below iocb (flying member)
  fildes iocb member w listed same := by
    obtain ⟨v,known,id,fd⟩ := watches w listed
    rw [← fd]
    exact sound.fildes iocb (flying member) v known (id.trans same)

/-- What does not change about a watch. -/
def name (w : AioWatch) : Nat × Int × Queue × Bool := (w.id,w.fd,w.queue,w.is_write)

/-- The watches are the same but for what they have pending. -/
def SameNames (s t : Watches) : Prop := t.aio_watches.map name = s.aio_watches.map name

theorem SameNames.known {s t : Watches} (names : SameNames s t) {w : AioWatch} (member : w ∈ t.aio_watches) :
    ∃ v ∈ s.aio_watches, v.id = w.id ∧ v.fd = w.fd ∧ v.queue = w.queue ∧ v.is_write = w.is_write := by
  have named := List.mem_map_of_mem (f := name) member
  rw [names] at named
  obtain ⟨v,old,same⟩ := List.mem_map.mp named
  simp only [name,Prod.mk.injEq] at same
  exact ⟨v,old,same⟩

/-- The watch is still in its place. -/
theorem SameNames.found {s t : Watches} (names : SameNames s t) {i : Nat} {w : AioWatch}
    (found : s.aio_watches[i]? = some w) :
    ∃ v, t.aio_watches[i]? = some v ∧ v.id = w.id ∧ v.fd = w.fd ∧ v.queue = w.queue ∧ v.is_write = w.is_write := by
  have named := congrArg (fun names => names[i]?) names
  simp only [List.getElem?_map,found,Option.map_some,Option.map_eq_some_iff] at named
  obtain ⟨v,there,same⟩ := named
  simp only [name,Prod.mk.injEq] at same
  exact ⟨v,there,same⟩

theorem SameNames.ids {s t : Watches} (names : SameNames s t) :
    t.aio_watches.map AioWatch.id = s.aio_watches.map AioWatch.id := by
  have ids := congrArg (List.map Prod.fst) names
  rw [List.map_map,List.map_map] at ids
  exact ids

theorem SameNames.sound {s t : Watches} (names : SameNames s t) (sound : Sound s) (next : t.next = s.next)
    (flying : t.in_flight ⊆ s.in_flight) : Sound t := by
  refine sound.shrink (names.ids ▸ sound.distinct) ?_ next flying
  intro w member
  obtain ⟨v,known,id,fd,_⟩ := names.known member
  exact ⟨v,known,id,fd⟩

/-- A watch submits. -/
theorem Sound.submitted {s : Watches} (sound : Sound s) {i : Nat} {w : AioWatch} (found : s.aio_watches[i]? = some w)
    (queues : Queue → List Mbuf) (mbuf : Mbuf) {iocb : Iocb} (mine : iocb.watch = w.id) (fildes : iocb.aio_fildes = w.fd) :
    Sound { s with
      queues := queues
      aio_watches := s.aio_watches.set i { w with pending_aio := some mbuf }
      in_flight := s.in_flight ++ [iocb] } := by
  have member := List.mem_of_getElem? found
  have names : SameNames s { s with
      queues := queues
      aio_watches := s.aio_watches.set i { w with pending_aio := some mbuf } } := map_set_pending name found _ rfl
  have before := names.sound sound rfl (List.Subset.refl _)
  refine ⟨before.distinct,before.watch_below,?_,?_⟩
  · intro other flying
    rcases List.mem_append.mp flying with old | new
    · exact sound.iocb_below other old
    · rw [List.mem_singleton.mp new,mine]
      exact sound.watch_below w member
  · intro other flying v listed same
    rcases List.mem_append.mp flying with old | new
    · exact before.fildes other old v listed same
    · rw [List.mem_singleton.mp new] at same ⊢
      obtain ⟨u,known,id,fd,_⟩ := names.known listed
      rw [← fd,fildes,sound.same known member (id.trans (same.trans mine))]

theorem Sound.added {s : Watches} (sound : Sound s) (fd : Int) (queue : Queue) (is_write : Bool) :
    Sound (watch_add_aio s fd queue is_write) where
  distinct := by
    rw [watch_add_aio,List.map_append,List.map_singleton]
    refine List.Nodup.append sound.distinct (List.nodup_singleton _) ?_
    intro id old new
    obtain ⟨v,member,rfl⟩ := List.mem_map.mp old
    exact absurd (List.mem_singleton.mp new) (Nat.ne_of_lt (sound.watch_below v member))
  watch_below v member := by
    rcases List.mem_append.mp member with old | new
    · exact Nat.lt_succ_of_lt (sound.watch_below v old)
    · rw [List.mem_singleton.mp new]
      exact Nat.lt_succ_self s.next
  iocb_below iocb member := Nat.lt_succ_of_lt (sound.iocb_below iocb member)
  fildes iocb member v listed same := by
    rcases List.mem_append.mp listed with old | new
    · exact sound.fildes iocb member v old same
    · have below := sound.iocb_below iocb member
      rw [List.mem_singleton.mp new] at same
      exact absurd same.symm (Nat.ne_of_lt below)

theorem Sound.removed {s : Watches} (sound : Sound s) (fd : Int) : Sound (watch_remove_writeq s fd) :=
  sound.shrink (sound.distinct.sublist (List.filter_sublist.map _))
    (fun w member => ⟨w,List.mem_of_mem_filter member,rfl,rfl⟩) rfl (List.Subset.refl _)

theorem submit_visit_sound {accepted : Nat → Bool} {s t : Watches} {i : Nat} (sound : Sound s)
    (visited : submit_visit accepted s i = .ok t) : Sound t := by
  rcases submit_visit_cases accepted s i with same | ⟨w,mbuf,rest,opcode,found,_,_,taken⟩
  · cases same.symm.trans visited
    exact sound
  · cases taken.symm.trans visited
    exact sound.submitted found _ mbuf rfl rfl

/-- A pass over events changes the watches in nothing but what they have pending. -/
structure Handled (s : Watches) (left : List Iocb) (t : Watches) : Prop where
  names : SameNames s t
  next : t.next = s.next
  in_flight : t.in_flight = left
  queues : ∀ queue, s.queues queue <+: t.queues queue

theorem queue_push_flow_queues (s : Watches) (other : Queue) (msg : List UInt8) (flow : Option Nat) (queue : Queue) :
    (queue_push_flow s other msg flow).queues queue =
      s.queues queue ++ if other = queue then [⟨msg,msg.length,flow⟩] else [] := by
  by_cases here : other = queue
  · simp [queue_push_flow,here]
  · simp [queue_push_flow,here,Ne.symm here]

/-- What a handler queues comes behind what is queued already. -/
theorem queue_all_queues (s : Watches) (pushed : List (Queue × List UInt8)) (queue : Queue) :
    ∃ new, (queue_all s pushed).queues queue = s.queues queue ++ new ∧ (new = [] ↔ ∀ push ∈ pushed, push.1 ≠ queue) := by
  induction pushed generalizing s with
  | nil => exact ⟨[],(List.append_nil _).symm,by simp⟩
  | cons push pushed ih =>
    obtain ⟨new,rest,none⟩ := ih (queue_push s push.1 push.2)
    refine ⟨(if push.1 = queue then [⟨push.2,push.2.length,Option.none⟩] else []) ++ new,?_,?_⟩
    · rw [← List.append_assoc,← queue_push_flow_queues]
      exact rest
    · rw [List.append_eq_nil_iff,none,List.forall_mem_cons]
      simp

/-- A completed write pushes nothing. A completed read brings its buffer back and
    pushes what its commands push. -/
theorem aio_complete_queues (s : Watches) (w : AioWatch) (mbuf : Mbuf) (event : IoEvent) (queue : Queue) :
    ∃ new, (aio_complete s w mbuf event).queues queue = s.queues queue ++ new ∧
      (new = [] ↔ (w.is_write = false → queue ≠ .ffs_outq ∧ ∀ push ∈ event.pushed, push.1 ≠ queue)) := by
  have received (mbuf : Mbuf) : ∃ new, (diag_ffs_recv s mbuf event.pushed).queues queue = s.queues queue ++ new ∧
      (new = [] ↔ queue ≠ .ffs_outq ∧ ∀ push ∈ event.pushed, push.1 ≠ queue) := by
    obtain ⟨new,handled,none⟩ := queue_all_queues s event.pushed queue
    by_cases back : queue = .ffs_outq
    · refine ⟨new ++ [{ mbuf with offset := 0 }],?_,by simp [back]⟩
      rw [back] at handled ⊢
      simp [diag_ffs_recv,handled]
    · refine ⟨new,?_,by simp [back,none]⟩
      simp [diag_ffs_recv,handled,back]
  cases kind : w.is_write with
  | true => exact ⟨[],by simp [aio_complete,kind,watch_free_write_aio],by simp⟩
  | false =>
    simp only [aio_complete,kind,Bool.false_eq_true,if_false,true_implies]
    split_ifs with delivered
    · exact received _
    · exact received _

theorem Handled.refl (s : Watches) : Handled s s.in_flight s := ⟨rfl,rfl,rfl,fun _ => List.prefix_rfl⟩

theorem Handled.event {s t u : Watches} {left : List Iocb} {i : Nat} {event : IoEvent} (before : Handled s left t)
    (handled : handle_event i t event = .ok u) : Handled s left u := by
  rcases handle_event_ok handled with ⟨rfl,_⟩ | ⟨w,mbuf,found,_,_,_,rfl⟩
  · exact before
  · have same := aio_complete_same t w mbuf event
    refine ⟨(map_set_pending name found none rfl).trans before.names,same.next.trans before.next,
      same.in_flight.trans before.in_flight,?_⟩
    intro queue
    obtain ⟨new,queues,_⟩ := aio_complete_queues t w mbuf event queue
    exact (before.queues queue).trans ⟨new,queues.symm⟩

theorem Handled.events {s t u : Watches} {left : List Iocb} {i : Nat} {events : List IoEvent} (before : Handled s left t)
    (handled : handle_events events t i = .ok u) : Handled s left u :=
  exec_invariant (fun before handled => Handled.event before handled) before handled

/-! ## One watch -/

/-- The watch is the only one of its descriptor and of its queue, and it has at
    most one operation in flight, on the buffer it has pending. -/
structure Serving (w : AioWatch) (s : Watches) : Prop where
  sound : Sound s
  member : w ∈ s.aio_watches
  own_fd : ∀ v ∈ s.aio_watches, v.fd = w.fd → v.id = w.id
  own_queue : ∀ v ∈ s.aio_watches, v.queue = w.queue → v.id = w.id
  single : own s.in_flight w.id ≤ 1
  busy : ∀ iocb ∈ s.in_flight, iocb.watch = w.id →
    ∃ mbuf, w.pending_aio = some mbuf ∧ iocb.aio_nbytes = mbuf.data.length

/-- What is queued while no write is in flight finds the watch free. -/
def Ready (w : AioWatch) (s : Watches) : Prop :=
  s.queues w.queue ≠ [] → own s.in_flight w.id = 0 → w.pending_aio = none

theorem Serving.idle {w : AioWatch} {s : Watches} (serving : Serving w s) (idle : w.pending_aio = none) :
    own s.in_flight w.id = 0 := by
  refine own_eq_zero ?_
  intro iocb member mine
  obtain ⟨mbuf,pending,_⟩ := serving.busy iocb member mine
  rw [idle] at pending
  cases pending

/-- The watch stays the only one where watches change only what they have
    pending. -/
theorem Serving.renamed {w v : AioWatch} {s t : Watches} (serving : Serving w s) (sound : Sound t)
    (names : SameNames s t) (member : v ∈ t.aio_watches) (same : name v = name w) (single : own t.in_flight w.id ≤ 1)
    (busy : ∀ iocb ∈ t.in_flight, iocb.watch = w.id →
      ∃ mbuf, v.pending_aio = some mbuf ∧ iocb.aio_nbytes = mbuf.data.length) : Serving v t := by
  simp only [name,Prod.mk.injEq] at same
  obtain ⟨id,fd,queue,_⟩ := same
  refine ⟨sound,member,?_,?_,id ▸ single,id ▸ busy⟩
  · intro u listed there
    obtain ⟨x,known,x_id,x_fd,_⟩ := names.known listed
    rw [← x_id,id]
    exact serving.own_fd x known (x_fd.trans (there.trans fd))
  · intro u listed there
    obtain ⟨x,known,x_id,_,x_queue,_⟩ := names.known listed
    rw [← x_id,id]
    exact serving.own_queue x known (x_queue.trans (there.trans queue))

theorem mem_set_other {watches : List AioWatch} {i : Nat} {v w : AioWatch} (member : w ∈ watches)
    (found : watches[i]? = some v) (other : v ≠ w) (x : AioWatch) : w ∈ watches.set i x := by
  obtain ⟨j,at_j⟩ := List.mem_iff_getElem?.mp member
  have elsewhere : i ≠ j := by
    rintro rfl
    exact other (Option.some.inj (found.symm.trans at_j))
  exact List.mem_of_getElem? ((List.getElem?_set_ne elsewhere).trans at_j)

/-! ## Submitting -/

/-- Another watch's turn. -/
theorem submit_visit_other {accepted : Nat → Bool} {s t : Watches} {i : Nat} {v w : AioWatch} (serving : Serving w s)
    (found : s.aio_watches[i]? = some v) (other : v.id ≠ w.id) (visited : submit_visit accepted s i = .ok t) :
    Serving w t ∧ t.queues w.queue = s.queues w.queue ∧ own t.in_flight w.id = own s.in_flight w.id := by
  have sound := submit_visit_sound serving.sound visited
  rcases submit_visit_cases accepted s i with same | ⟨u,mbuf,rest,opcode,there,_,_,taken⟩
  · cases same.symm.trans visited
    exact ⟨serving,rfl,rfl⟩
  · cases found.symm.trans there
    cases taken.symm.trans visited
    have different : v ≠ w := fun same => other (congrArg AioWatch.id same)
    have flying (iocb : Iocb) (mine : iocb.watch = w.id)
        (member : iocb ∈ s.in_flight ++ [⟨v.id,v.fd,opcode,mbuf.data.length⟩]) : iocb ∈ s.in_flight := by
      rcases List.mem_append.mp member with old | new
      · exact old
      · rw [List.mem_singleton.mp new] at mine
        exact absurd mine other
    have count : own (s.in_flight ++ [⟨v.id,v.fd,opcode,mbuf.data.length⟩]) w.id = own s.in_flight w.id := by
      rw [own_concat,if_neg other,Nat.add_zero]
    refine ⟨?_,?_,count⟩
    · exact serving.renamed sound (map_set_pending name found _ rfl) (mem_set_other serving.member found different _) rfl
        (count ▸ serving.single) (fun iocb member mine => serving.busy iocb (flying iocb mine member) mine)
    · have elsewhere : w.queue ≠ v.queue :=
        fun same => other (serving.own_queue v (List.mem_of_getElem? found) same.symm)
      exact Function.update_of_ne elsewhere ..

/-- The watch's own turn, with a buffer to submit. -/
theorem submitted_serving {s : Watches} {i : Nat} {w : AioWatch} (serving : Serving w s)
    (found : s.aio_watches[i]? = some w) (idle : w.pending_aio = none) (queues : Queue → List Mbuf) (mbuf : Mbuf)
    (opcode : Opcode) : Serving { w with pending_aio := some mbuf } { s with
      queues := queues
      aio_watches := s.aio_watches.set i { w with pending_aio := some mbuf }
      in_flight := s.in_flight ++ [⟨w.id,w.fd,opcode,mbuf.data.length⟩] } := by
  have inside := (List.getElem?_eq_some_iff.mp found).1
  have count := own_concat s.in_flight ⟨w.id,w.fd,opcode,mbuf.data.length⟩ w.id
  rw [serving.idle idle] at count
  refine serving.renamed (serving.sound.submitted found _ mbuf rfl rfl) (map_set_pending name found _ rfl)
    (List.mem_of_getElem? (List.getElem?_set_self inside)) rfl (by simp [count]) ?_
  intro iocb member mine
  rcases List.mem_append.mp member with old | new
  · obtain ⟨earlier,pending,_⟩ := serving.busy iocb old mine
    rw [idle] at pending
    cases pending
  · exact ⟨mbuf,rfl,congrArg Iocb.aio_nbytes (List.mem_singleton.mp new)⟩

/-- A turn moves a buffer from the watch's queue to its hands, if it moves one. -/
theorem submit_visit_serving {accepted : Nat → Bool} {s t : Watches} {i : Nat} {w : AioWatch} (serving : Serving w s)
    (visited : submit_visit accepted s i = .ok t) :
    ∃ v, Serving v t ∧ name v = name w ∧ held v ++ queued t v.queue = held w ++ queued s w.queue ∧
      (Ready w s → Ready v t) := by
  rcases submit_visit_cases accepted s i with same | ⟨u,mbuf,rest,opcode,found,idle,waiting,taken⟩
  · cases same.symm.trans visited
    exact ⟨w,serving,rfl,rfl,fun ready => ready⟩
  · by_cases mine : u.id = w.id
    · cases serving.sound.same (List.mem_of_getElem? found) serving.member mine
      cases taken.symm.trans visited
      refine ⟨_,submitted_serving serving found idle _ mbuf opcode,rfl,?_,?_⟩
      · simp [held,queued,idle,waiting]
      · intro _ _ none_flying
        rw [own_concat] at none_flying
        simp at none_flying
    · obtain ⟨still,queues,flying⟩ := submit_visit_other serving found mine visited
      refine ⟨w,still,rfl,by rw [queued,queued,queues],?_⟩
      intro ready
      rw [Ready,queues,flying]
      exact ready

theorem submit_pass_serving {accepted : Nat → Bool} {s t : Watches} {w : AioWatch} (serving : Serving w s)
    (submitted : submit_pass accepted s = .ok t) :
    ∃ v, Serving v t ∧ name v = name w ∧ held v ++ queued t v.queue = held w ++ queued s w.queue ∧
      (Ready w s → Ready v t) := by
  refine exec_invariant (I := fun u => ∃ v, Serving v u ∧ name v = name w ∧
    held v ++ queued u v.queue = held w ++ queued s w.queue ∧ (Ready w s → Ready v u)) ?_
    ⟨w,serving,rfl,rfl,fun ready => ready⟩ submitted
  rintro u i x ⟨v,before,same,bytes,ready⟩ visited
  obtain ⟨y,after,still,moved,keeps⟩ := submit_visit_serving before visited
  exact ⟨y,after,still.trans same,moved.trans bytes,fun start => keeps (ready start)⟩

theorem submit_visit_flying {accepted : Nat → Bool} {s t : Watches} {i id : Nat} (flying : 0 < own s.in_flight id)
    (visited : submit_visit accepted s i = .ok t) : 0 < own t.in_flight id := by
  rcases submit_visit_cases accepted s i with same | ⟨w,mbuf,rest,opcode,_,_,_,taken⟩
  · cases same.symm.trans visited
    exact flying
  · cases taken.symm.trans visited
    rw [own_append]
    exact Nat.add_pos_left flying _

/-- The turns up to the `i`-th, which is the watch's, when its queue is waiting:
    the watch and the queue are as they were, or it has submitted. -/
theorem submit_turn {s : Watches} {i k : Nat} {w : AioWatch} (idle : w.pending_aio = none)
    (before : (k ≤ i ∧ Serving w s ∧ s.queues w.queue ≠ [] ∧ s.aio_watches[i]? = some w) ∨ 0 < own s.in_flight w.id) :
    ∃ t, submit_visit (fun _ => true) s k = .ok t ∧
      ((k + 1 ≤ i ∧ Serving w t ∧ t.queues w.queue ≠ [] ∧ t.aio_watches[i]? = some w) ∨ 0 < own t.in_flight w.id) := by
  have total : ∃ t, submit_visit (fun _ => true) s k = .ok t := by
    rcases submit_visit_cases (fun _ => true) s k with same | ⟨_,_,_,_,_,_,_,taken⟩
    · exact ⟨s,same⟩
    · exact ⟨_,taken⟩
  obtain ⟨t,visited⟩ := total
  refine ⟨t,visited,?_⟩
  rcases before with ⟨early,serving,waiting,found⟩ | flying
  · rcases Nat.lt_or_eq_of_le early with earlier | rfl
    · left
      rcases submit_visit_cases (fun _ => true) s k with same | ⟨v,_,_,_,there,_,_,taken⟩
      · cases same.symm.trans visited
        exact ⟨earlier,serving,waiting,found⟩
      · have other : v.id ≠ w.id := by
          intro same
          have inside : k < (s.aio_watches.map AioWatch.id).length := by
            simpa using (List.getElem?_eq_some_iff.mp there).1
          exact Nat.ne_of_lt earlier ((List.getElem?_inj inside serving.sound.distinct).mp (by simp [there,found,same]))
        obtain ⟨after,queues,_⟩ := submit_visit_other serving there other visited
        cases taken.symm.trans visited
        exact ⟨earlier,after,queues ▸ waiting,(List.getElem?_set_ne (Nat.ne_of_lt earlier)).trans found⟩
    · right
      obtain ⟨mbuf,rest,queue⟩ := List.exists_cons_of_ne_nil waiting
      rw [submit_visit,found] at visited
      simp only [queue,idle,watch_submit_aio,ne_eq,reduceCtorEq,not_false_eq_true,and_self,if_true,Option.isSome_none,
        Bool.false_eq_true,if_false] at visited
      cases visited
      rw [own_concat,if_pos rfl]
      exact Nat.succ_pos _
  · exact .inr (submit_visit_flying flying visited)

/-- A pass that submits what is queued is one that finds the watch free. -/
theorem submitted_iff {s : Watches} {w : AioWatch} (serving : Serving w s) (waiting : s.queues w.queue ≠ [])
    (none_flying : own s.in_flight w.id = 0) :
    (∃ t, submit_pass (fun _ => true) s = .ok t ∧ 0 < own t.in_flight w.id) ↔ w.pending_aio = none := by
  constructor
  · rintro ⟨t,submitted,flying⟩
    by_contra busy
    have stays : Serving w t ∧ own t.in_flight w.id = 0 := by
      refine exec_invariant (I := fun u => Serving w u ∧ own u.in_flight w.id = 0) ?_ ⟨serving,none_flying⟩ submitted
      rintro u i x ⟨before,count⟩ visited
      rcases submit_visit_cases (fun _ => true) u i with same | ⟨v,_,_,_,found,idle,_,_⟩
      · cases same.symm.trans visited
        exact ⟨before,count⟩
      · have other : v.id ≠ w.id := by
          intro mine
          rw [before.sound.same (List.mem_of_getElem? found) before.member mine] at idle
          exact busy idle
        obtain ⟨after,_,same⟩ := submit_visit_other before found other visited
        exact ⟨after,same.trans count⟩
    omega
  · intro idle
    obtain ⟨i,found⟩ := List.mem_iff_getElem?.mp serving.member
    have inside := (List.getElem?_eq_some_iff.mp found).1
    obtain ⟨t,submitted,done⟩ := exec_range (P := fun k u =>
      (k ≤ i ∧ Serving w u ∧ u.queues w.queue ≠ [] ∧ u.aio_watches[i]? = some w) ∨ 0 < own u.in_flight w.id)
      s.aio_watches.length (.inl ⟨Nat.zero_le i,serving,waiting,found⟩) (fun _ before => submit_turn idle before)
    refine ⟨t,submitted,?_⟩
    rcases done with ⟨early,_⟩ | flying
    · omega
    · exact flying

/-! ## Completing -/

theorem handle_event_registered {i : Nat} {s t : Watches} {event : IoEvent} {w : AioWatch}
    (found : s.aio_watches[i]? = some w) (handled : handle_event i s event = .ok t) :
    event.obj.watch ∈ s.aio_watches.map AioWatch.id := by
  by_contra gone
  simp [handle_event,found,gone] at handled

/-- A watch that one event completes stays completed: another event of its
    descriptor would fail the assertion. -/
theorem pass_completes {events : List IoEvent} {s t : Watches} {is : List Nat}
    (handled : exec (handle_events events) s is = .ok t) {i : Nat} (among : i ∈ is) {w : AioWatch}
    (found : s.aio_watches[i]? = some w) {event : IoEvent} (member : event ∈ events)
    (same : event.obj.aio_fildes = w.fd) (final : event.res ≠ -EAGAIN) :
    t.aio_watches[i]? = some { w with pending_aio := none } := by
  have pending_step {u v : Watches} {j : Nat} {other : IoEvent}
      (before : ∃ p, u.aio_watches[i]? = some { w with pending_aio := p }) (first : handle_event j u other = .ok v) :
      ∃ p, v.aio_watches[i]? = some { w with pending_aio := p } := by
    obtain ⟨p,there⟩ := before
    rcases handle_event_ok first with ⟨rfl,_⟩ | ⟨x,mbuf,here,_,_,_,rfl⟩
    · exact ⟨p,there⟩
    · by_cases turn : j = i
      · rw [turn] at here ⊢
        cases here.symm.trans there
        exact ⟨none,List.getElem?_set_self (List.getElem?_eq_some_iff.mp there).1⟩
      · exact ⟨p,(List.getElem?_set_ne turn).trans there⟩
  have done_step {u v : Watches} {j : Nat} {other : IoEvent}
      (done : u.aio_watches[i]? = some { w with pending_aio := none }) (first : handle_event j u other = .ok v) :
      v.aio_watches[i]? = some { w with pending_aio := none } := by
    rcases handle_event_ok first with ⟨rfl,_⟩ | ⟨x,mbuf,here,_,pending,_,rfl⟩
    · exact done
    · by_cases turn : j = i
      · rw [turn] at here
        rw [← Option.some.inj (done.symm.trans here)] at pending
        cases pending
      · exact (List.getElem?_set_ne turn).trans done
  obtain ⟨u,v,rest,before,turn,after⟩ := exec_mem
    (I := fun u => ∃ p, u.aio_watches[i]? = some { w with pending_aio := p })
    (fun before turn => exec_invariant pending_step before turn) ⟨w.pending_aio,found⟩ handled among
  obtain ⟨x,y,others,⟨p,there⟩,first,remaining⟩ := exec_mem pending_step before turn member
  have done : y.aio_watches[i]? = some { w with pending_aio := none } := by
    rcases handle_event_ok first with ⟨_,again⟩ | ⟨z,mbuf,here,_,_,_,rfl⟩
    · exact absurd (again _ there same) final
    · cases here.symm.trans there
      exact List.getElem?_set_self (List.getElem?_eq_some_iff.mp there).1
  exact exec_invariant (fun done turn => exec_invariant done_step done turn) (exec_invariant done_step done remaining) after

/-- Every event of a pass over some watch is a registered watch's. -/
theorem pass_registered {events : List IoEvent} {s t : Watches} {is : List Nat}
    (handled : exec (handle_events events) s is = .ok t) {i : Nat} (among : i ∈ is) {w : AioWatch}
    (found : s.aio_watches[i]? = some w) {event : IoEvent} (member : event ∈ events) :
    event.obj.watch ∈ s.aio_watches.map AioWatch.id := by
  obtain ⟨u,v,rest,before,turn,_⟩ := exec_mem Handled.events (.refl s) handled among
  obtain ⟨x,y,others,still,first,_⟩ := exec_mem Handled.event before turn member
  obtain ⟨v,there,_⟩ := still.names.found found
  have listed := handle_event_registered there first
  rw [still.names.ids] at listed
  exact listed

/-- A pass pushes nothing to a queue exactly when its events bring nothing to it. -/
theorem pass_quiet_iff {events : List IoEvent} {s t : Watches}
    (handled : exec (handle_events events) s (List.range s.aio_watches.length) = .ok t) (queue : Queue) :
    t.queues queue = s.queues queue ↔ Quiet queue s events := by
  constructor
  · intro same w member read event among fd final
    obtain ⟨i,found⟩ := List.mem_iff_getElem?.mp member
    have inside : i ∈ List.range s.aio_watches.length := List.mem_range.mpr (List.getElem?_eq_some_iff.mp found).1
    obtain ⟨u,v,rest,before,turn,after⟩ := exec_mem Handled.events (.refl s) handled inside
    obtain ⟨x,y,others,still,first,remaining⟩ := exec_mem Handled.event before turn among
    obtain ⟨w',there,_,same_fd,_,same_kind⟩ := still.names.found found
    have later : Handled y y.in_flight t :=
      exec_invariant Handled.events (exec_invariant Handled.event (.refl y) remaining) after
    rcases handle_event_ok first with ⟨_,again⟩ | ⟨z,mbuf,here,_,_,_,completed⟩
    · exact absurd (again w' there (fd.trans same_fd.symm)) final
    · cases here.symm.trans there
      obtain ⟨new,brought,none⟩ := aio_complete_queues x w' mbuf event queue
      have onto : y.queues queue = x.queues queue ++ new := by rw [completed,← brought]
      -- nothing comes off a queue in a pass, so nothing was put on it here
      have most := (later.queues queue).length_le
      have least := (still.queues queue).length_le
      rw [onto,List.length_append,same] at most
      have empty : new = [] := List.eq_nil_of_length_eq_zero (by omega)
      exact none.mp empty (same_kind.trans read)
  · intro quiet
    refine (exec_invariant (I := fun u => Handled s s.in_flight u ∧ u.queues queue = s.queues queue) ?_
      ⟨.refl s,rfl⟩ handled).2
    rintro u i v ⟨before,queues⟩ turn
    refine exec_invariant_mem (I := fun u => Handled s s.in_flight u ∧ u.queues queue = s.queues queue) ?_
      ⟨before,queues⟩ turn
    rintro x event y among ⟨still,same⟩ first
    refine ⟨still.event first,?_⟩
    rcases handle_event_ok first with ⟨rfl,_⟩ | ⟨w',mbuf,here,fd,_,final,rfl⟩
    · exact same
    · obtain ⟨w,known,_,same_fd,_,same_kind⟩ := still.names.known (List.mem_of_getElem? here)
      obtain ⟨new,brought,none⟩ := aio_complete_queues x w' mbuf event queue
      have empty := none.mpr (fun read => quiet w known (same_kind.trans read) event among (fd.trans same_fd.symm) final)
      rw [empty,List.append_nil] at brought
      exact brought.trans same

/-- The answered operations, and those that stay in flight. -/
theorem events_perm (s : Watches) (replies : List Reply) :
    ((events s replies).map IoEvent.obj ++ (io_getevents s.in_flight (replies.take 32)).2).Perm s.in_flight :=
  io_getevents_perm s.in_flight (replies.take 32)

theorem watch_handle_eventfd_handled {s t : Watches} {replies : List Reply}
    (handled : watch_handle_eventfd s replies = .ok t) : Handled s (io_getevents s.in_flight (replies.take 32)).2 t :=
  exec_invariant Handled.events
    (⟨rfl,rfl,rfl,fun _ => List.prefix_rfl⟩ :
      Handled s (io_getevents s.in_flight (replies.take 32)).2 { s with
        in_flight := (io_getevents s.in_flight (replies.take 32)).2 }) handled

/-- The descriptor's events are the watch's own. -/
theorem Serving.matched {s t : Watches} {w : AioWatch} (serving : Serving w s) {replies : List Reply}
    (handled : watch_handle_eventfd s replies = .ok t) {event : IoEvent} (member : event ∈ events s replies) :
    event.obj.aio_fildes = w.fd ↔ event.obj.watch = w.id := by
  have flying : event.obj ∈ s.in_flight :=
    (events_perm s replies).subset (List.mem_append_left _ (List.mem_map_of_mem member))
  constructor
  · intro fd
    obtain ⟨i,found⟩ := List.mem_iff_getElem?.mp serving.member
    have inside : i ∈ List.range s.aio_watches.length := List.mem_range.mpr (List.getElem?_eq_some_iff.mp found).1
    have registered := pass_registered handled inside found member
    obtain ⟨v,known,same⟩ := List.mem_map.mp registered
    rw [← same]
    exact serving.own_fd v known ((serving.sound.fildes event.obj flying v known same).trans fd)
  · intro mine
    exact (serving.sound.fildes event.obj flying w serving.member mine.symm).symm

/-- The watch's operation was answered by `event`: with `-EAGAIN` the watch stays
    as it is, with anything else it has nothing pending any more. -/
structure Answered (w : AioWatch) (s t : Watches) (replies : List Reply) (event : IoEvent) (mbuf : Mbuf) : Prop where
  member : event ∈ events s replies
  mine : event.obj.watch = w.id
  only : ∀ other ∈ events s replies, other.obj.watch = w.id → other = event
  pending : w.pending_aio = some mbuf
  size : event.obj.aio_nbytes = mbuf.data.length
  flying : own s.in_flight w.id = 1
  settled : own t.in_flight w.id = 0
  accepted : (events s replies).flatMap (written w.id s) = mbuf.data.take event.res.toNat
  serving : Serving (if event.res = -EAGAIN then w else { w with pending_aio := none }) t

theorem Serving.find {s : Watches} {w : AioWatch} (serving : Serving w s) :
    s.aio_watches.find? (fun v => v.id = w.id) = some w := by
  cases found : s.aio_watches.find? (fun v => v.id = w.id) with
  | none => simpa using List.find?_eq_none.mp found w serving.member
  | some v =>
    have same : v.id = w.id := by simpa using List.find?_some found
    rw [serving.sound.same (List.mem_of_find?_eq_some found) serving.member same]

/-- Where a watch has one event at most, the other events are other watches'. -/
theorem lone_event {es : List IoEvent} {event : IoEvent} (member : event ∈ es)
    (single : own (es.map IoEvent.obj) event.obj.watch ≤ 1) :
    ∃ front back, es = front ++ event :: back ∧ ∀ other ∈ front ++ back, other.obj.watch ≠ event.obj.watch := by
  obtain ⟨front,back,rfl⟩ := List.append_of_mem member
  refine ⟨front,back,rfl,?_⟩
  intro other among same
  have positive := own_pos (List.mem_map_of_mem (f := IoEvent.obj) among)
  rw [same,List.map_append,own_append] at positive
  rw [List.map_append,List.map_cons,own_append,own,own,List.countP_cons_of_pos (by simp),← own,← own] at single
  omega

/-- What one event of a watch brought is all that the events brought. -/
theorem lone_written {front back : List IoEvent} {event : IoEvent}
    (others : ∀ other ∈ front ++ back, other.obj.watch ≠ event.obj.watch) (s : Watches) :
    (front ++ event :: back).flatMap (written event.obj.watch s) = written event.obj.watch s event := by
  have nothing (es : List IoEvent) (none : ∀ other ∈ es, other.obj.watch ≠ event.obj.watch) :
      es.flatMap (written event.obj.watch s) = [] :=
    List.flatMap_eq_nil_iff.mpr (fun other among => if_neg (none other among))
  rw [List.flatMap_append,List.flatMap_cons,
    nothing front (fun other early => others other (List.mem_append_left back early)),
    nothing back (fun other late => others other (List.mem_append_right front late)),List.nil_append,List.append_nil]

/-- Either no event is the watch's, or one is. -/
theorem watch_handle_eventfd_serving {s t : Watches} {w : AioWatch} (serving : Serving w s) {replies : List Reply}
    (handled : watch_handle_eventfd s replies = .ok t) :
    (∀ event ∈ events s replies, event.obj.watch ≠ w.id) ∧ Serving w t ∧ own t.in_flight w.id = own s.in_flight w.id ∨
      ∃ event mbuf, Answered w s t replies event mbuf := by
  have perm := events_perm s replies
  have after := watch_handle_eventfd_handled handled
  have counts : own ((events s replies).map IoEvent.obj) w.id + own t.in_flight w.id = own s.in_flight w.id := by
    rw [after.in_flight,← own_append]
    exact perm.countP_eq _
  have flying : t.in_flight ⊆ s.in_flight := by
    rw [after.in_flight]
    exact fun iocb member => perm.subset (List.mem_append_right _ member)
  have sound : Sound t := after.names.sound serving.sound after.next flying
  have single := serving.single
  obtain ⟨i,found⟩ := List.mem_iff_getElem?.mp serving.member
  have inside : i ∈ List.range s.aio_watches.length := List.mem_range.mpr (List.getElem?_eq_some_iff.mp found).1
  -- without a final event the watch stays as it is
  have spared (again : ∀ event ∈ events s replies, event.obj.watch = w.id → event.res = -EAGAIN) : Serving w t := by
    have still := pass_spares handled found
      (fun event member fd => again event member ((serving.matched handled member).mp fd))
    exact serving.renamed sound after.names (List.mem_of_getElem? still) rfl (by omega)
      (fun iocb there mine => serving.busy iocb (flying there) mine)
  by_cases mine : ∃ event ∈ events s replies, event.obj.watch = w.id
  · right
    obtain ⟨event,member,mine⟩ := mine
    obtain ⟨mbuf,pending,size⟩ :=
      serving.busy event.obj (perm.subset (List.mem_append_left _ (List.mem_map_of_mem member))) mine
    have positive := own_pos (List.mem_map_of_mem (f := IoEvent.obj) member)
    rw [mine] at positive
    obtain ⟨front,back,split,others⟩ := lone_event member (by rw [mine]; omega)
    have only : ∀ other ∈ events s replies, other.obj.watch = w.id → other = event := by
      intro other among same
      by_contra different
      refine others other ?_ (same.trans mine.symm)
      rw [split] at among
      simpa [different] using among
    refine ⟨event,mbuf,member,mine,only,pending,size,by omega,by omega,?_,?_⟩
    · rw [split,← mine,lone_written others,written,if_pos rfl,mine,serving.find]
      simp [held,pending]
    · split_ifs with again
      · exact spared (fun other among same => only other among same ▸ again)
      · have done := pass_completes handled inside found member ((serving.matched handled member).mpr mine) again
        refine serving.renamed sound after.names (List.mem_of_getElem? done) rfl (by omega) ?_
        intro iocb there same
        have positive := own_pos there
        rw [same] at positive
        omega
  · left
    have none : ∀ event ∈ events s replies, event.obj.watch ≠ w.id := fun event member same => mine ⟨event,member,same⟩
    refine ⟨none,spared (fun event member same => absurd same (none event member)),?_⟩
    have zero : own ((events s replies).map IoEvent.obj) w.id = 0 := by
      refine own_eq_zero ?_
      intro iocb there
      obtain ⟨event,member,rfl⟩ := List.mem_map.mp there
      exact none event member
    omega

/-! ## One step -/

/-- What was accepted, what the watch holds and what is queued is what was
    pushed. -/
def Ordered (w : AioWatch) (s : Traffic) : Prop := s.accepted ++ held w ++ queued s.io w.queue = s.pushed

theorem intact_iff {w : AioWatch} {s : Traffic} (serving : Serving w s.io) :
    Intact w.id s ↔ Ordered w s ∧ Ready w s.io := by
  constructor
  · intro intact
    refine ⟨intact.in_order w serving.member rfl,?_⟩
    intro waiting none_flying
    exact (submitted_iff serving waiting none_flying).mp (intact.submitted w serving.member rfl waiting none_flying)
  · rintro ⟨ordered,ready⟩
    refine ⟨⟨held w ++ queued s.io w.queue,?_⟩,?_,?_⟩
    · rw [← ordered,List.append_assoc]
    · intro v member same
      rw [serving.sound.same member serving.member same]
      exact ordered
    · intro v member same waiting none_flying
      rw [serving.sound.same member serving.member same] at waiting
      exact (submitted_iff serving waiting none_flying).mpr (ready waiting none_flying)

theorem stuck_iff {w : AioWatch} {s : Watches} (serving : Serving w s) :
    Stuck w.id s ↔ own s.in_flight w.id = 0 ∧ w.pending_aio ≠ none := by
  constructor
  · rintro ⟨none_flying,v,member,same,busy⟩
    rw [serving.sound.same member serving.member same] at busy
    exact ⟨none_flying,Option.isSome_iff_ne_none.mp busy⟩
  · rintro ⟨none_flying,busy⟩
    exact ⟨none_flying,w,serving.member,rfl,Option.isSome_iff_ne_none.mpr busy⟩

theorem Serving.same {w : AioWatch} {s t : Watches} (serving : Serving w s) (same : SameAio s t) : Serving w t := by
  have names : SameNames s t := congrArg (List.map name) same.aio_watches
  refine serving.renamed (names.sound serving.sound same.next (same.in_flight ▸ List.Subset.refl _)) names
    (same.aio_watches ▸ serving.member) rfl (same.in_flight ▸ serving.single) ?_
  rw [same.in_flight]
  exact serving.busy

theorem Serving.added {w : AioWatch} {s : Watches} (serving : Serving w s) {fd : Int} {queue : Queue} (is_write : Bool)
    (other_fd : fd ≠ w.fd) (other_queue : queue ≠ w.queue) : Serving w (watch_add_aio s fd queue is_write) := by
  refine ⟨serving.sound.added fd queue is_write,List.mem_append_left _ serving.member,?_,?_,serving.single,serving.busy⟩
  · intro v listed same
    rcases List.mem_append.mp listed with old | new
    · exact serving.own_fd v old same
    · rw [List.mem_singleton.mp new] at same
      exact absurd same other_fd
  · intro v listed same
    rcases List.mem_append.mp listed with old | new
    · exact serving.own_queue v old same
    · rw [List.mem_singleton.mp new] at same
      exact absurd same other_queue

theorem Serving.removed {w : AioWatch} {s : Watches} (serving : Serving w s) {fd : Int} (other : fd ≠ w.fd) :
    Serving w (watch_remove_writeq s fd) :=
  ⟨serving.sound.removed fd,List.mem_filter.mpr ⟨serving.member,by simpa using other.symm⟩,
    fun v member => serving.own_fd v (List.mem_of_mem_filter member),
    fun v member => serving.own_queue v (List.mem_of_mem_filter member),serving.single,serving.busy⟩

/-- What is pushed to a stuck watch is never submitted. -/
theorem push_delivered_iff {w : AioWatch} {s : Traffic} (serving : Serving w s.io) (ordered : Ordered w s)
    (ready : Ready w s.io) (other : Queue) (msg : List UInt8) (flow : Option Nat) {t : Traffic}
    (stepped : step w.id w.queue s (.queue_push_flow other msg flow) = .ok t) :
    Delivered w.id w.queue s (.queue_push_flow other msg flow) ↔ Ordered w t ∧ Ready w t.io := by
  cases stepped
  have in_order : Ordered w ⟨queue_push_flow s.io other msg flow,s.pushed ++ if other = w.queue then msg else [],
      s.accepted ++ []⟩ := by
    rw [Ordered,queued,queue_push_flow_queues,List.flatMap_append,← List.append_assoc,List.append_nil,← queued,ordered]
    split_ifs with here
    · simp
    · rfl
  have free : Ready w (queue_push_flow s.io other msg flow) ↔ (other = w.queue → ¬ Stuck w.id s.io) := by
    rw [Ready,queue_push_flow_queues,stuck_iff serving]
    split_ifs with here
    · simp only [ne_eq,List.append_eq_nil_iff,reduceCtorEq,and_false,not_false_eq_true,true_implies,here,not_and,not_not]
      exact Iff.rfl
    · rw [List.append_nil]
      exact ⟨fun _ same => absurd same here,fun _ => ready⟩
  exact ⟨fun delivered => ⟨in_order,free.mpr delivered⟩,fun after => free.mp after.2⟩

/-- What is queued behind a completion, and when that is nothing. -/
theorem eventfd_queued {s t : Watches} {replies : List Reply} (handled : watch_handle_eventfd s replies = .ok t)
    (queue : Queue) :
    queued t queue = queued s queue ++ pushes queue s t (.watch_handle_eventfd replies) ∧
      (t.queues queue = [] ↔ s.queues queue = [] ∧ Quiet queue s (events s replies)) := by
  obtain ⟨new,grown⟩ := (watch_handle_eventfd_handled handled).queues queue
  have quiet_iff : t.queues queue = s.queues queue ↔ Quiet queue s (events s replies) := pass_quiet_iff handled queue
  constructor
  · rw [queued,pushes,← grown,List.drop_left,List.flatMap_append,← queued]
  · rw [← quiet_iff,← grown]
    simp

/-- Without an event of the watch the stream stays whole, unless the kernel gave
    back its buffer and something is queued behind it now. -/
theorem idle_delivered_iff {w : AioWatch} {s : Traffic} {io : Watches} {replies : List Reply}
    (serving : Serving w s.io) (handled : watch_handle_eventfd s.io replies = .ok io)
    (none : ∀ event ∈ events s.io replies, event.obj.watch ≠ w.id)
    (flying : own io.in_flight w.id = own s.io.in_flight w.id) (ordered : Ordered w s) :
    Delivered w.id w.queue s (.watch_handle_eventfd replies) ↔
      Ordered w ⟨io,s.pushed ++ pushes w.queue s.io io (.watch_handle_eventfd replies),
        s.accepted ++ accepts w.id s.io (.watch_handle_eventfd replies)⟩ ∧ Ready w io := by
  obtain ⟨queues,empty_iff⟩ := eventfd_queued handled w.queue
  have stuck := stuck_iff serving
  have accepted : accepts w.id s.io (.watch_handle_eventfd replies) = [] :=
    List.flatMap_eq_nil_iff.mpr (fun other among => if_neg (none other among))
  have in_order : Ordered w ⟨io,s.pushed ++ pushes w.queue s.io io (.watch_handle_eventfd replies),
      s.accepted ++ accepts w.id s.io (.watch_handle_eventfd replies)⟩ := by
    rw [Ordered,accepted,queues,← ordered,List.append_nil,List.append_assoc,List.append_assoc,List.append_assoc]
  rw [Ready,flying]
  constructor
  · rintro ⟨_,waits⟩
    refine ⟨in_order,?_⟩
    intro waiting none_flying
    by_contra busy
    exact waiting (empty_iff.mpr (waits (.inl (stuck.mpr ⟨none_flying,busy⟩))))
  · rintro ⟨_,free⟩
    refine ⟨fun event member mine => absurd mine (none event member),?_⟩
    rintro (given_back | ⟨event,member,mine,_⟩)
    · obtain ⟨none_flying,busy⟩ := stuck.mp given_back
      exact empty_iff.mp (not_not.mp (fun waiting => busy (free waiting none_flying)))
    · exact absurd mine (none event member)

section
variable {w : AioWatch} {s : Traffic} {io : Watches} {replies : List Reply} {event : IoEvent} {mbuf : Mbuf}

/-- Of an answered watch only its one event counts. -/
theorem Answered.delivered_iff (answered : Answered w s.io io replies event mbuf) :
    Delivered w.id w.queue s (.watch_handle_eventfd replies) ↔
      (event.res = event.obj.aio_nbytes ∨ event.res = -EAGAIN) ∧
        (event.res = -EAGAIN → s.io.queues w.queue = [] ∧ Quiet w.queue s.io (events s.io replies)) := by
  constructor
  · rintro ⟨full,waits⟩
    exact ⟨full event answered.member answered.mine,
      fun again => waits (.inr ⟨event,answered.member,answered.mine,again⟩)⟩
  · rintro ⟨full,waits⟩
    refine ⟨fun other among mine => answered.only other among mine ▸ full,?_⟩
    rintro (⟨none_flying,_⟩ | ⟨other,among,mine,again⟩)
    · have flying := answered.flying
      omega
    · exact waits (answered.only other among mine ▸ again)

/-- A buffer that the kernel gives back is held still, and blocks what is queued. -/
theorem Answered.given_back (answered : Answered w s.io io replies event mbuf)
    (handled : watch_handle_eventfd s.io replies = .ok io) (again : event.res = -EAGAIN) (ordered : Ordered w s) :
    Ordered w ⟨io,s.pushed ++ pushes w.queue s.io io (.watch_handle_eventfd replies),
      s.accepted ++ accepts w.id s.io (.watch_handle_eventfd replies)⟩ ∧
      (Ready w io ↔ io.queues w.queue = []) := by
  constructor
  · rw [Ordered,accepts,answered.accepted,(eventfd_queued handled w.queue).1,again,← ordered]
    simp [EAGAIN]
  · rw [Ready,answered.pending,answered.settled]
    simp

/-- A buffer that was written is whole exactly when its write was a full one. -/
theorem Answered.written_iff (answered : Answered w s.io io replies event mbuf)
    (handled : watch_handle_eventfd s.io replies = .ok io) (low : 0 ≤ event.res ∧ event.res ≤ event.obj.aio_nbytes)
    (ordered : Ordered w s) :
    Ordered { w with pending_aio := none } ⟨io,s.pushed ++ pushes w.queue s.io io (.watch_handle_eventfd replies),
      s.accepted ++ accepts w.id s.io (.watch_handle_eventfd replies)⟩ ↔ event.res = event.obj.aio_nbytes := by
  have whole : mbuf.data.take event.res.toNat = mbuf.data ↔ event.res = event.obj.aio_nbytes := by
    have size := answered.size
    rw [List.take_eq_self_iff]
    omega
  rw [← whole,Ordered,accepts,answered.accepted,(eventfd_queued handled w.queue).1,← ordered]
  simp [held,answered.pending,← List.append_assoc]

end

/-- A completion keeps the stream whole exactly when it is a full one, or is
    `-EAGAIN` and leaves nothing to submit. -/
theorem eventfd_delivered_iff {w : AioWatch} {s t : Traffic} (serving : Serving w s.io) {replies : List Reply}
    (legal : Legal w.id w.fd s (.watch_handle_eventfd replies))
    (stepped : step w.id w.queue s (.watch_handle_eventfd replies) = .ok t) :
    ∃ v, Serving v t.io ∧ name v = name w ∧ (Ordered w s → Ready w s.io →
      (Delivered w.id w.queue s (.watch_handle_eventfd replies) ↔ Ordered v t ∧ Ready v t.io)) := by
  obtain ⟨io,handled,rfl⟩ := map_eq_ok.mp stepped
  rcases watch_handle_eventfd_serving serving handled with ⟨none,after,flying⟩ | ⟨event,mbuf,answered⟩
  · exact ⟨w,after,rfl,fun ordered _ => idle_delivered_iff serving handled none flying ordered⟩
  · have serves := answered.serving
    rw [answered.delivered_iff]
    by_cases again : event.res = -EAGAIN
    · rw [if_pos again] at serves
      refine ⟨w,serves,rfl,?_⟩
      intro ordered _
      obtain ⟨in_order,free⟩ := answered.given_back handled again ordered
      rw [free,(eventfd_queued handled w.queue).2]
      simp [again,in_order]
    · rw [if_neg again] at serves
      refine ⟨_,serves,rfl,?_⟩
      intro ordered _
      have low := (legal event answered.member answered.mine).resolve_left again
      rw [answered.written_iff handled low ordered]
      simp [again,Ready]

/-- Every step decides the same way whether the stream stays whole. -/
theorem step_delivered_iff {w : AioWatch} {s t : Traffic} {a : Action} (serving : Serving w s.io)
    (legal : Legal w.id w.fd s a) (given : OwnQueue w.queue a) (stepped : step w.id w.queue s a = .ok t) :
    ∃ v, Serving v t.io ∧ name v = name w ∧ (Ordered w s → Ready w s.io →
      (Delivered w.id w.queue s a ↔ Ordered v t ∧ Ready v t.io)) := by
  -- a step that neither pushes nor completes, and leaves the queue and the operations
  have unconcerned {io : Watches} (after : Serving w io) (queues : io.queues = s.io.queues)
      (flying : io.in_flight = s.io.in_flight) : ∃ v, Serving v io ∧ name v = name w ∧
      (Ordered w s → Ready w s.io → (True ↔ Ordered v ⟨io,s.pushed ++ [],s.accepted ++ []⟩ ∧ Ready v io)) := by
    refine ⟨w,after,rfl,?_⟩
    intro ordered ready
    simp only [Ordered,Ready,queued,queues,flying,List.append_nil,true_iff]
    exact ⟨ordered,ready⟩
  cases a with
  | queue_push_flow queue msg flow =>
    refine ⟨w,?_,rfl,fun ordered ready => push_delivered_iff serving ordered ready queue msg flow stepped⟩
    cases stepped
    exact serving.same (queue_push_flow_same s.io queue msg flow)
  | watch_add_readq fd queue =>
    cases stepped
    exact unconcerned (serving.added false legal given) rfl rfl
  | watch_add_writeq fd queue =>
    cases stepped
    exact unconcerned (serving.added true legal given) rfl rfl
  | watch_remove_fd fd =>
    cases stepped
    have read : SameAio s.io { s.io with read_watches := s.io.read_watches.filter (fun w => w.fd ≠ fd) } :=
      ⟨rfl,rfl,rfl,rfl⟩
    exact unconcerned ((serving.same read).removed legal) rfl rfl
  | watch_remove_writeq fd =>
    cases stepped
    exact unconcerned (serving.removed legal) rfl rfl
  | submit_pass accepted =>
    obtain ⟨io,submitted,rfl⟩ := map_eq_ok.mp stepped
    obtain ⟨v,after,same,bytes,keeps⟩ := submit_pass_serving serving submitted
    refine ⟨v,after,same,?_⟩
    intro ordered ready
    refine ⟨fun _ => ⟨?_,keeps ready⟩,fun _ => trivial⟩
    rw [Ordered,List.append_assoc,bytes,← List.append_assoc]
    simpa [pushes,accepts,Ordered] using ordered
  | watch_handle_eventfd replies => exact eventfd_delivered_iff serving legal stepped

/-! ## Runs -/

theorem io_step_sound {s t : Watches} {a : Action} (sound : Sound s) (stepped : io_step s a = .ok t) : Sound t := by
  cases a with
  | queue_push_flow queue msg flow =>
    cases stepped
    exact ⟨sound.distinct,sound.watch_below,sound.iocb_below,sound.fildes⟩
  | watch_add_readq fd queue =>
    cases stepped
    exact sound.added fd queue false
  | watch_add_writeq fd queue =>
    cases stepped
    exact sound.added fd queue true
  | watch_remove_fd fd =>
    cases stepped
    have read : Sound { s with read_watches := s.read_watches.filter (fun w => w.fd ≠ fd) } :=
      ⟨sound.distinct,sound.watch_below,sound.iocb_below,sound.fildes⟩
    exact read.removed fd
  | watch_remove_writeq fd =>
    cases stepped
    exact sound.removed fd
  | submit_pass accepted => exact exec_invariant submit_visit_sound sound stepped
  | watch_handle_eventfd replies =>
    have after := watch_handle_eventfd_handled stepped
    refine after.names.sound sound after.next ?_
    rw [after.in_flight]
    exact fun iocb member => (events_perm s replies).subset (List.mem_append_right _ member)

theorem unwatched_sound : Sound unwatched := by constructor <;> simp [unwatched]

theorem opened_serving {s : Watches} (sound : Sound s) {fd : Int} {queue : Queue}
    (alone : ∀ w ∈ s.aio_watches, w.fd ≠ fd) (own_queue : ∀ w ∈ s.aio_watches, w.queue ≠ queue) :
    Serving ⟨s.next,fd,queue,none,true⟩ (opened s fd queue).io := by
  have unused : ∀ iocb ∈ s.in_flight, iocb.watch ≠ s.next :=
    fun iocb member => Nat.ne_of_lt (sound.iocb_below iocb member)
  refine ⟨sound.added fd queue true,List.mem_append_right _ List.mem_cons_self,?_,?_,?_,?_⟩
  · intro v listed same
    rcases List.mem_append.mp listed with old | new
    · exact absurd same (alone v old)
    · rw [List.mem_singleton.mp new]
  · intro v listed same
    rcases List.mem_append.mp listed with old | new
    · exact absurd same (own_queue v old)
    · rw [List.mem_singleton.mp new]
  · exact (own_eq_zero unused).trans_le (Nat.zero_le 1)
  · exact fun iocb member mine => absurd mine (unused iocb member)

theorem opened_intact {s : Watches} (sound : Sound s) {fd : Int} {queue : Queue}
    (alone : ∀ w ∈ s.aio_watches, w.fd ≠ fd) (own_queue : ∀ w ∈ s.aio_watches, w.queue ≠ queue) :
    Intact s.next (opened s fd queue) :=
  (intact_iff (opened_serving sound alone own_queue)).mpr ⟨rfl,fun _ _ => rfl⟩

/-- From the moment a write watch is added, in every state of the run the stream
    of its descriptor is whole, exactly when every write of the watch is a full
    one or gives back the last buffer for good. -/
theorem stream_intact_iff {before : List Action} {s : Watches} (reached : exec io_step unwatched before = .ok s) {fd : Int}
    {queue : Queue} (alone : ∀ w ∈ s.aio_watches, w.fd ≠ fd) (own_queue : ∀ w ∈ s.aio_watches, w.queue ≠ queue)
    {actions : List Action} {t : Traffic} (ran : exec (step s.next queue) (opened s fd queue) actions = .ok t)
    (legal : Meets (step s.next queue) (Legal s.next fd) (opened s fd queue) actions)
    (given : ∀ a ∈ actions, OwnQueue queue a) :
    Along (step s.next queue) (Intact s.next) (opened s fd queue) actions ↔
      Meets (step s.next queue) (Delivered s.next queue) (opened s fd queue) actions := by
  have sound := exec_invariant io_step_sound unwatched_sound reached
  refine along_iff_meets_of_run
    (fun s' => ∃ w, Serving w s'.io ∧ w.id = s.next ∧ w.fd = fd ∧ w.queue = queue) ?_ ?_ ran
    ⟨_,opened_serving sound alone own_queue,rfl,rfl,rfl⟩ (legal.and given) (opened_intact sound alone own_queue)
  · rintro u a v ⟨w,serving,id,rfl,rfl⟩ ⟨allowed,given⟩ stepped
    rw [← id] at allowed stepped ⊢
    obtain ⟨x,after,same,_⟩ := step_delivered_iff serving allowed given stepped
    simp only [name,Prod.mk.injEq] at same
    exact ⟨x,after,same.1,same.2.1,same.2.2.1⟩
  · rintro u a v ⟨w,serving,id,rfl,rfl⟩ ⟨allowed,given⟩ whole stepped
    rw [← id] at allowed stepped whole ⊢
    obtain ⟨x,after,same,decides⟩ := step_delivered_iff serving allowed given stepped
    obtain ⟨ordered,ready⟩ := (intact_iff serving).mp whole
    simp only [name,Prod.mk.injEq] at same
    rw [decides ordered ready,← same.1]
    exact (intact_iff after).symm

/-- A full write between two pushes leaves the stream whole throughout. -/
theorem full_write_intact :
    Along (step 0 (.outq 0)) (Intact 0) (opened unwatched 5 (.outq 0)) [.queue_push_flow (.outq 0) [1,2] none,
      .submit_pass (fun _ => true),.queue_push_flow (.outq 0) [3] none,.watch_handle_eventfd [⟨0,2,[]⟩]] := by
  refine (@stream_intact_iff [] unwatched rfl 5 (.outq 0) (by simp [unwatched]) (by simp [unwatched]) _ _ rfl ?_
    (by simp [OwnQueue])).mpr ?_
  · exact .cons rfl trivial (.cons rfl trivial (.cons rfl trivial (.cons rfl (by decide) trivial)))
  · exact .cons rfl (by decide) (.cons rfl trivial (.cons rfl (by decide) (.cons rfl (by decide) trivial)))

/-- One byte of two is written, and the next message follows it. A message pushed
    after `-EAGAIN` waits for ever. -/
theorem short_write_drops_bytes :
    (∃ t, Meets (step 0 (.outq 0)) (Legal 0 5) (opened unwatched 5 (.outq 0)) [.queue_push_flow (.outq 0) [1,2] none,
        .queue_push_flow (.outq 0) [3] none,.submit_pass (fun _ => true),.watch_handle_eventfd [⟨0,1,[]⟩],
        .submit_pass (fun _ => true),.watch_handle_eventfd [⟨0,1,[]⟩]] ∧
      exec (step 0 (.outq 0)) (opened unwatched 5 (.outq 0)) [.queue_push_flow (.outq 0) [1,2] none,
        .queue_push_flow (.outq 0) [3] none,.submit_pass (fun _ => true),.watch_handle_eventfd [⟨0,1,[]⟩],
        .submit_pass (fun _ => true),.watch_handle_eventfd [⟨0,1,[]⟩]] = .ok t ∧
      t.pushed = [1,2,3] ∧ t.accepted = [1,3] ∧ ¬ t.accepted <+: t.pushed) ∧
    ∃ t, Meets (step 0 (.outq 0)) (Legal 0 5) (opened unwatched 5 (.outq 0)) [.queue_push_flow (.outq 0) [1] none,
        .submit_pass (fun _ => true),.watch_handle_eventfd [⟨0,-EAGAIN,[]⟩],.queue_push_flow (.outq 0) [2] none] ∧
      exec (step 0 (.outq 0)) (opened unwatched 5 (.outq 0)) [.queue_push_flow (.outq 0) [1] none,
        .submit_pass (fun _ => true),.watch_handle_eventfd [⟨0,-EAGAIN,[]⟩],.queue_push_flow (.outq 0) [2] none] = .ok t ∧
      t.io.queues (.outq 0) ≠ [] ∧ own t.io.in_flight 0 = 0 ∧
      ∃ u, submit_pass (fun _ => true) t.io = .ok u ∧ own u.in_flight 0 = 0 := by
  constructor
  · refine ⟨_,?_,rfl,rfl,rfl,by decide⟩
    exact .cons rfl trivial (.cons rfl trivial (.cons rfl trivial (.cons rfl (by decide) (.cons rfl trivial
      (.cons rfl (by decide) trivial)))))
  · refine ⟨_,?_,rfl,List.cons_ne_nil _ _,rfl,_,rfl,rfl⟩
    exact .cons rfl trivial (.cons rfl trivial (.cons rfl (by decide) (.cons rfl trivial trivial)))

end DiagRouter.WriteStream

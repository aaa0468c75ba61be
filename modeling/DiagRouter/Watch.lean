import DiagRouter.Clients
import DiagRouter.Lib.Runs
import Mathlib.Data.List.Perm.Basic
import Mathlib.Logic.Function.Basic

/-!
# Watches

`watch.c`: the descriptors the main loop reads, the queues it moves with
asynchronous I/O, and the flow control between them. Next to the program's data
stands the kernel's: the operations in flight.
-/
namespace DiagRouter.Watch
open DiagRouter.Lib.Memory DiagRouter.Lib.Words DiagRouter.Lib.Runs DiagRouter.Hdlc DiagRouter.Clients

def FLOW_WATERMARK : Nat := 10
def EAGAIN : Int := 11

/-- A `struct list_head *queue`, by what owns the queue. -/
inductive Queue
  | outq (dm : Nat)
  | cmdq (perif : Nat)
  | cntlq (perif : Nat)
  | dataq (perif : Nat)
  | ffs_outq
deriving DecidableEq, Repr

/-- `data` has the buffer's size, and `flow` is the flow control context the
    buffer is counted in. -/
structure Mbuf where
  data : List UInt8
  offset : Nat
  flow : Option Nat
deriving DecidableEq, Repr

/-- A watch on `read_watches`. -/
structure ReadWatch where
  fd : Int
  flow : Option Nat
deriving DecidableEq, Repr

/-- A watch on `aio_watches`. `id` is its address, of which no two are the same. -/
structure AioWatch where
  id : Nat
  fd : Int
  queue : Queue
  pending_aio : Option Mbuf
  is_write : Bool
deriving DecidableEq, Repr

inductive Opcode
  | IOCB_CMD_PREAD
  | IOCB_CMD_PWRITE
deriving DecidableEq, Repr

/-- An operation the kernel has, and the watch that holds its control block. -/
structure Iocb where
  watch : Nat
  aio_fildes : Int
  aio_lio_opcode : Opcode
  aio_nbytes : Nat
deriving DecidableEq, Repr

/-- `completed` is a record of the completions: the watch that was completed and
    the one that had submitted the operation. The program does not keep it. -/
structure Watches where
  queues : Queue → List Mbuf
  packets : Nat → Nat
  read_watches : List ReadWatch
  aio_watches : List AioWatch
  next : Nat
  in_flight : List Iocb
  completed : List (Nat × Nat)

/-- The list after `pending_aio` of the watch at `i` was set. -/
theorem map_set_pending {β : Type} (field : AioWatch → β) {watches : List AioWatch} {i : Nat} {w : AioWatch}
    (found : watches[i]? = some w) (pending : Option Mbuf) (same : field { w with pending_aio := pending } = field w) :
    (watches.set i { w with pending_aio := pending }).map field = watches.map field := by
  obtain ⟨inside,rfl⟩ := List.getElem?_eq_some_iff.mp found
  rw [List.map_set,same,← List.getElem_map field (h := by simpa using inside),List.set_getElem_self]

/-! ## Flow control -/

def watch_flow_inc (packets : Nat → Nat) : Option Nat → Nat → Nat
  | none => packets
  | some flow => Function.update packets flow (packets flow + 1)

def watch_flow_dec (packets : Nat → Nat) : Option Nat → Nat → Nat
  | none => packets
  | some flow => if packets flow = 0 then packets else Function.update packets flow (packets flow - 1)

def watch_flow_blocked (packets : Nat → Nat) : Option Nat → Bool
  | none => false
  | some flow => FLOW_WATERMARK < packets flow

/-- The descriptors `watch_run` selects for reading. -/
def readable (s : Watches) : List Int :=
  (s.read_watches.filter (fun w => !watch_flow_blocked s.packets w.flow)).map ReadWatch.fd

/-! ## Queues -/

def queue_push_flow (s : Watches) (queue : Queue) (msg : List UInt8) (flow : Option Nat) : Watches :=
  { s with
    queues := Function.update s.queues queue (s.queues queue ++ [⟨msg,msg.length,flow⟩])
    packets := watch_flow_inc s.packets flow }

def queue_push (s : Watches) (queue : Queue) (msg : List UInt8) : Watches := queue_push_flow s queue msg none

def hdlc_enqueue_flow (s : Watches) (queue : Queue) (msg : List UInt8) (flow : Option Nat) : Watches :=
  queue_push_flow s queue (hdlc_encode msg) flow

def queue_push_nhdlc_flow (s : Watches) (queue : Queue) (msg : List UInt8) (flow : Option Nat) : Watches :=
  queue_push_flow s queue ([NHDLC_CONTROL_CHAR,1] ++ le16 (UInt16.ofNat msg.length) ++ msg ++ [NHDLC_CONTROL_CHAR]) flow

/-- What a handler queues, in order. -/
def queue_all (s : Watches) (pushed : List (Queue × List UInt8)) : Watches :=
  pushed.foldl (fun s push => queue_push s push.1 push.2) s

/-- What concerns asynchronous I/O is the same, apart from the queues. -/
structure SameAio (s t : Watches) : Prop where
  aio_watches : t.aio_watches = s.aio_watches
  next : t.next = s.next
  in_flight : t.in_flight = s.in_flight
  completed : t.completed = s.completed

theorem SameAio.refl (s : Watches) : SameAio s s := ⟨rfl,rfl,rfl,rfl⟩

theorem SameAio.trans {s t u : Watches} (first : SameAio s t) (second : SameAio t u) : SameAio s u :=
  ⟨second.aio_watches.trans first.aio_watches,second.next.trans first.next,second.in_flight.trans first.in_flight,
    second.completed.trans first.completed⟩

theorem queue_push_flow_same (s : Watches) (queue : Queue) (msg : List UInt8) (flow : Option Nat) :
    SameAio s (queue_push_flow s queue msg flow) := ⟨rfl,rfl,rfl,rfl⟩

theorem queue_all_same (s : Watches) (pushed : List (Queue × List UInt8)) : SameAio s (queue_all s pushed) := by
  induction pushed generalizing s with
  | nil => exact .refl s
  | cons push pushed ih => exact (queue_push_flow_same s push.1 push.2 none).trans (ih (queue_push s push.1 push.2))

/-! ## Adding and removing -/

def watch_add_readfd (s : Watches) (fd : Int) (flow : Option Nat) : Watches :=
  { s with read_watches := s.read_watches ++ [⟨fd,flow⟩] }

def watch_add_aio (s : Watches) (fd : Int) (queue : Queue) (is_write : Bool) : Watches :=
  { s with aio_watches := s.aio_watches ++ [⟨s.next,fd,queue,none,is_write⟩], next := s.next + 1 }

def watch_add_readq (s : Watches) (fd : Int) (queue : Queue) : Watches := watch_add_aio s fd queue false

def watch_add_writeq (s : Watches) (fd : Int) (queue : Queue) : Watches := watch_add_aio s fd queue true

def watch_remove_writeq (s : Watches) (fd : Int) : Watches :=
  { s with aio_watches := s.aio_watches.filter (fun w => w.fd ≠ fd) }

def watch_remove_fd (s : Watches) (fd : Int) : Watches :=
  watch_remove_writeq { s with read_watches := s.read_watches.filter (fun w => w.fd ≠ fd) } fd

/-! ## Submitting -/

/-- Whether the kernel takes the operation is `accepted`. -/
def watch_submit_aio (accepted : Bool) (s : Watches) (i : Nat) (w : AioWatch) : Except Fault Watches :=
  if w.pending_aio.isSome then .error .assertion
  else
    match s.queues w.queue with
    | [] => .ok s
    | mbuf :: rest =>
      let opcode := if w.is_write then Opcode.IOCB_CMD_PWRITE else .IOCB_CMD_PREAD
      if accepted then
        .ok { s with
          queues := Function.update s.queues w.queue rest
          aio_watches := s.aio_watches.set i { w with pending_aio := some mbuf }
          in_flight := s.in_flight ++ [⟨w.id,w.fd,opcode,mbuf.data.length⟩] }
      else .ok s

/-- The body of the loop of `watch_run` over `aio_watches`. -/
def submit_visit (accepted : Nat → Bool) (s : Watches) (i : Nat) : Except Fault Watches :=
  match s.aio_watches[i]? with
  | none => .ok s
  | some w => if s.queues w.queue ≠ [] ∧ w.pending_aio = none then watch_submit_aio (accepted i) s i w else .ok s

/-- A visit fails no assertion. It leaves the watch as it is, or the first buffer
    of the queue becomes the pending one. -/
theorem submit_visit_cases (accepted : Nat → Bool) (s : Watches) (i : Nat) :
    submit_visit accepted s i = .ok s ∨
    ∃ w mbuf rest opcode, s.aio_watches[i]? = some w ∧ w.pending_aio = none ∧ s.queues w.queue = mbuf :: rest ∧
      submit_visit accepted s i = .ok { s with
        queues := Function.update s.queues w.queue rest
        aio_watches := s.aio_watches.set i { w with pending_aio := some mbuf }
        in_flight := s.in_flight ++ [⟨w.id,w.fd,opcode,mbuf.data.length⟩] } := by
  unfold submit_visit
  cases found : s.aio_watches[i]? with
  | none => exact .inl rfl
  | some w =>
    dsimp only
    split_ifs with ready
    · obtain ⟨waiting,idle⟩ := ready
      rw [watch_submit_aio,idle]
      cases queued : s.queues w.queue with
      | nil => exact absurd queued waiting
      | cons mbuf rest =>
        cases accepted i with
        | false => exact .inl rfl
        | true => exact .inr ⟨w,mbuf,rest,_,rfl,idle,queued,rfl⟩
    · exact .inl rfl

def submit_pass (accepted : Nat → Bool) (s : Watches) : Except Fault Watches :=
  exec (submit_visit accepted) s (List.range s.aio_watches.length)

/-! ## Completing -/

/-- The kernel's answer to the operation at a place among those in flight. Where
    it is the USB read, `pushed` is what the commands it brought queue. -/
structure Reply where
  place : Nat
  res : Int
  pushed : List (Queue × List UInt8)
deriving DecidableEq, Repr

structure IoEvent where
  obj : Iocb
  res : Int
  pushed : List (Queue × List UInt8)
deriving DecidableEq, Repr

/-- The events handed out, and what stays in flight. -/
def io_getevents (in_flight : List Iocb) : List Reply → List IoEvent × List Iocb
  | [] => ([],in_flight)
  | reply :: replies =>
    match in_flight[reply.place]? with
    | none => io_getevents in_flight replies
    | some iocb =>
      let (ev,left) := io_getevents (in_flight.eraseIdx reply.place) replies
      (⟨iocb,reply.res,reply.pushed⟩ :: ev,left)

/-- Every operation is answered once or stays. -/
theorem io_getevents_perm (in_flight : List Iocb) (replies : List Reply) :
    ((io_getevents in_flight replies).1.map IoEvent.obj ++ (io_getevents in_flight replies).2).Perm in_flight := by
  induction replies generalizing in_flight with
  | nil => exact .refl _
  | cons reply replies ih =>
    unfold io_getevents
    cases found : in_flight[reply.place]? with
    | none => exact ih in_flight
    | some iocb =>
      obtain ⟨inside,rfl⟩ := List.getElem?_eq_some_iff.mp found
      exact ((ih (in_flight.eraseIdx reply.place)).cons _).trans (List.getElem_cons_eraseIdx_perm inside)

def watch_free_write_aio (s : Watches) (mbuf : Mbuf) : Watches :=
  { s with packets := watch_flow_dec s.packets mbuf.flow }

def diag_ffs_recv (s : Watches) (mbuf : Mbuf) (pushed : List (Queue × List UInt8)) : Watches :=
  let handled := queue_all s pushed
  { handled with
    queues := Function.update handled.queues .ffs_outq (handled.queues .ffs_outq ++ [{ mbuf with offset := 0 }]) }

/-- The callback of a watch: write watches free the buffer, and the read watch
    is USB's. -/
def aio_complete (s : Watches) (w : AioWatch) (mbuf : Mbuf) (event : IoEvent) : Watches :=
  if w.is_write then watch_free_write_aio s mbuf
  else if 0 ≤ event.res then diag_ffs_recv s { mbuf with offset := event.res.toNat } event.pushed
  else diag_ffs_recv s mbuf event.pushed

theorem aio_complete_same (s : Watches) (w : AioWatch) (mbuf : Mbuf) (event : IoEvent) :
    SameAio s (aio_complete s w mbuf event) := by
  have received (mbuf : Mbuf) : SameAio s (diag_ffs_recv s mbuf event.pushed) :=
    (queue_all_same s event.pushed).trans ⟨rfl,rfl,rfl,rfl⟩
  unfold aio_complete
  split_ifs with write delivered
  · exact ⟨rfl,rfl,rfl,rfl⟩
  · exact received _
  · exact received _

/-- One event and one watch. The event's control block is part of the watch that
    submitted it, and reading it faults if that watch is gone. -/
def handle_event (i : Nat) (s : Watches) (event : IoEvent) : Except Fault Watches :=
  match s.aio_watches[i]? with
  | none => .ok s
  | some w =>
    if event.obj.watch ∉ s.aio_watches.map AioWatch.id then .error .freed
    else if event.obj.aio_fildes ≠ w.fd then .ok s
    else
      match w.pending_aio with
      | none => .error .assertion
      | some mbuf =>
        if event.res = -EAGAIN then .ok s
        else
          .ok { aio_complete s w mbuf event with
            aio_watches := s.aio_watches.set i { w with pending_aio := none }
            completed := s.completed ++ [(w.id,event.obj.watch)] }

/-- What one event does to one watch: nothing, unless it has the watch's
    descriptor and a result other than `-EAGAIN`; then it completes it. -/
theorem handle_event_ok {i : Nat} {s t : Watches} {event : IoEvent} (handled : handle_event i s event = .ok t) :
    (t = s ∧ ∀ w, s.aio_watches[i]? = some w → event.obj.aio_fildes = w.fd → event.res = -EAGAIN) ∨
    ∃ w mbuf, s.aio_watches[i]? = some w ∧ event.obj.aio_fildes = w.fd ∧ w.pending_aio = some mbuf ∧ event.res ≠ -EAGAIN ∧
      t = { aio_complete s w mbuf event with
        aio_watches := s.aio_watches.set i { w with pending_aio := none }
        completed := s.completed ++ [(w.id,event.obj.watch)] } := by
  unfold handle_event at handled
  cases found : s.aio_watches[i]? with
  | none =>
    rw [found] at handled
    cases handled
    exact .inl ⟨rfl,by simp⟩
  | some w =>
    rw [found] at handled
    cases pending : w.pending_aio with
    | none =>
      simp only [pending] at handled
      split_ifs at handled with gone other
      cases handled
      exact .inl ⟨rfl,fun v same fd => absurd (Option.some.inj same ▸ fd) other⟩
    | some mbuf =>
      simp only [pending] at handled
      split_ifs at handled with gone other again
      · cases handled
        exact .inl ⟨rfl,fun v same fd => absurd (Option.some.inj same ▸ fd) other⟩
      · cases handled
        exact .inl ⟨rfl,fun _ _ _ => again⟩
      · cases handled
        exact .inr ⟨w,mbuf,rfl,not_not.mp other,pending,again,rfl⟩

def handle_events (events : List IoEvent) (s : Watches) (i : Nat) : Except Fault Watches :=
  exec (handle_event i) s events

/-- There is room for 32 events. -/
def watch_handle_eventfd (s : Watches) (replies : List Reply) : Except Fault Watches :=
  let (ev,left) := io_getevents s.in_flight (replies.take 32)
  exec (handle_events ev) { s with in_flight := left } (List.range s.aio_watches.length)

end DiagRouter.Watch

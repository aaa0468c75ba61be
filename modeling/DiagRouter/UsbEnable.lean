import DiagRouter.Channels

/-!
# Enabling USB

Each `FUNCTIONFS_ENABLE` adds a read watch on the same descriptor, while there is
one buffer to read into. An event of the descriptor is taken for each of its
watches, and for the watch without a buffer that fails an assertion: so a host
that connects again ends the router with its first transfer.
-/
namespace DiagRouter.UsbEnable
open DiagRouter.Lib.Memory DiagRouter.Lib.Runs DiagRouter.Watch DiagRouter.FlowControl DiagRouter.MainLoop DiagRouter.Channels
open DiagRouter.Endpoints hiding Action step
open DiagRouter.WriteStream (events queue_push_flow_queues queue_all_queues)

/-- Only USB's own callbacks queue its buffer. -/
def OthersQueues : Action → Prop
  | .callback _ (.commands pushed _ _) _ => ∀ push ∈ pushed, push.1 ≠ .ffs_outq
  | .watch_handle_eventfd replies => ∀ reply ∈ replies, ∀ push ∈ reply.pushed, push.1 ≠ .ffs_outq
  | _ => True

/-- A read of USB that is in flight. -/
def reads_into (w : AioWatch) : Bool := w.queue = .ffs_outq && w.pending_aio.isSome

/-- The buffers that USB reads into: queued, or pending. -/
def buffers (io : Watches) : Nat := (io.queues .ffs_outq).length + io.aio_watches.countP reads_into

section
variable {io after : Watches} {s t : Router}

/-! ## One buffer -/

theorem reads_into_set {watches : List AioWatch} {i : Nat} {w : AioWatch} (found : watches[i]? = some w) (changed : AioWatch) :
    (watches.set i changed).countP reads_into + (if reads_into w then 1 else 0) =
      watches.countP reads_into + if reads_into changed then 1 else 0 := by
  obtain ⟨inside,rfl⟩ := List.getElem?_eq_some_iff.mp found
  have there : (if reads_into watches[i] then 1 else 0) ≤ watches.countP reads_into := by
    split_ifs with reads
    · exact List.countP_pos_iff.mpr ⟨_,List.getElem_mem inside,reads⟩
    · exact Nat.zero_le _
  rw [List.countP_set inside]
  omega

theorem submit_visit_buffers {accepted : Nat → Bool} {i : Nat} (visited : submit_visit accepted io i = .ok after) :
    buffers after = buffers io := by
  rcases submit_visit_cases accepted io i with same | ⟨w,mbuf,rest,opcode,found,idle,queued,taken⟩
  · cases same.symm.trans visited
    rfl
  · cases taken.symm.trans visited
    have count := reads_into_set found { w with pending_aio := some mbuf }
    have before : reads_into w = false := by simp [reads_into,idle]
    unfold buffers
    dsimp only
    by_cases usb : w.queue = .ffs_outq
    · have reads : reads_into { w with pending_aio := some mbuf } = true := by simp [reads_into,usb]
      simp only [before,reads,Bool.false_eq_true,if_false,if_true] at count
      rw [usb] at queued count ⊢
      rw [Function.update_self,queued,List.length_cons]
      omega
    · have other : reads_into { w with pending_aio := some mbuf } = false := by simp [reads_into,usb]
      rw [Function.update_of_ne (Ne.symm usb)]
      simp only [before,other,Bool.false_eq_true,if_false] at count
      omega

theorem queue_all_usb (io : Watches) {pushed : List (Queue × List UInt8)} (others : ∀ push ∈ pushed, push.1 ≠ .ffs_outq) :
    (queue_all io pushed).queues .ffs_outq = io.queues .ffs_outq := by
  obtain ⟨new,queued,none⟩ := queue_all_queues io pushed .ffs_outq
  rw [queued,none.mpr others,List.append_nil]

/-- A completed read gives its buffer back. -/
theorem aio_complete_usb {out_fds : List Int} (placed : Placed out_fds io) {w : AioWatch} (member : w ∈ io.aio_watches)
    (mbuf : Mbuf) {event : IoEvent} (others : ∀ push ∈ event.pushed, push.1 ≠ .ffs_outq) :
    ((aio_complete io w mbuf event).queues .ffs_outq).length =
      (io.queues .ffs_outq).length + if w.queue = .ffs_outq then 1 else 0 := by
  have received (mbuf : Mbuf) : ((diag_ffs_recv io mbuf event.pushed).queues .ffs_outq).length =
      (io.queues .ffs_outq).length + 1 := by
    simp [diag_ffs_recv,queue_all_usb io others]
  cases kind : w.is_write with
  | true =>
    rw [if_neg (placed.write_watch w member kind)]
    simp [aio_complete,kind,watch_free_write_aio]
  | false =>
    rw [if_pos (placed.read_watch w member kind).1]
    simp only [aio_complete,kind,Bool.false_eq_true,if_false]
    split_ifs with delivered
    · exact received _
    · exact received _

theorem handle_event_buffers {out_fds : List Int} (placed : Placed out_fds io) {i : Nat} {event : IoEvent}
    (others : ∀ push ∈ event.pushed, push.1 ≠ .ffs_outq) (handled : handle_event i io event = .ok after) :
    buffers after = buffers io := by
  rcases handle_event_ok handled with ⟨rfl,_⟩ | ⟨w,mbuf,found,_,pending,_,rfl⟩
  · rfl
  · have count := reads_into_set found { w with pending_aio := none }
    have idle : reads_into { w with pending_aio := none } = false := by simp [reads_into]
    have usb : reads_into w = true ↔ w.queue = .ffs_outq := by simp [reads_into,pending]
    have back := aio_complete_usb placed (List.mem_of_getElem? found) mbuf others
    unfold buffers
    dsimp only
    rw [back]
    simp only [usb,idle,Bool.false_eq_true,if_false] at count
    omega

theorem events_pushed {in_flight : List Iocb} {replies : List Reply} {event : IoEvent}
    (member : event ∈ (io_getevents in_flight replies).1) : ∃ reply ∈ replies, event.pushed = reply.pushed := by
  induction replies generalizing in_flight with
  | nil => exact nomatch member
  | cons reply replies ih =>
    unfold io_getevents at member
    cases found : in_flight[reply.place]? with
    | none =>
      rw [found] at member
      obtain ⟨other,listed,same⟩ := ih member
      exact ⟨other,List.mem_cons_of_mem _ listed,same⟩
    | some iocb =>
      rw [found] at member
      rcases List.mem_cons.mp member with rfl | later
      · exact ⟨reply,List.mem_cons_self,rfl⟩
      · obtain ⟨other,listed,same⟩ := ih later
        exact ⟨other,List.mem_cons_of_mem _ listed,same⟩

theorem eventfd_buffers {out_fds : List Int} (placed : Placed out_fds io) {replies : List Reply}
    (others : ∀ reply ∈ replies, ∀ push ∈ reply.pushed, push.1 ≠ .ffs_outq)
    (handled : watch_handle_eventfd io replies = .ok after) : buffers after = buffers io := by
  refine (exec_invariant (I := fun u => Placed out_fds u ∧ buffers u = buffers io) ?_ ?_ handled).2
  · intro u i v before turn
    refine exec_invariant_mem (I := fun u => Placed out_fds u ∧ buffers u = buffers io) ?_ before turn
    rintro x event y listed ⟨good,same⟩ first
    obtain ⟨reply,taken,pushed⟩ := events_pushed listed
    exact ⟨handle_event_placed good first,
      (handle_event_buffers good (pushed ▸ others reply (List.mem_of_mem_take taken)) first).trans same⟩
  · exact ⟨⟨placed.read_watch,placed.write_watch,placed.client_fd,placed.untagged⟩,rfl⟩

/-! ## Calls -/

/-- A step of the router that neither brings buffers of USB nor takes a watch
    from it. -/
structure Keeps (s t : Router) : Prop where
  fewer : buffers t.io ≤ buffers s.io
  watches : watches_on s.io .ffs_outq ≤ watches_on t.io .ffs_outq

theorem Keeps.refl (s : Router) : Keeps s s := ⟨le_rfl,le_rfl⟩

theorem Keeps.trans {u : Router} (first : Keeps s t) (second : Keeps t u) : Keeps s u :=
  ⟨second.fewer.trans first.fewer,first.watches.trans second.watches⟩

/-- The queue of USB is as it was, and a watch without a buffer may be new. -/
theorem Keeps.added (queue : t.io.queues .ffs_outq = s.io.queues .ffs_outq) {new : List AioWatch}
    (watches : t.io.aio_watches = s.io.aio_watches ++ new) (idle : ∀ w ∈ new, w.pending_aio = none) : Keeps s t := by
  have none_reads : new.countP reads_into = 0 := by
    rw [List.countP_eq_zero]
    intro w member
    simp [reads_into,idle w member]
  refine ⟨?_,?_⟩
  · rw [buffers,buffers,queue,watches,List.countP_append,none_reads,Nat.add_zero]
  · rw [watches_on,watches_on,watches,List.countP_append]
    exact Nat.le_add_right _ _

/-- Watches of another queue are removed. -/
theorem Keeps.removed {opened : List Int} (wired : Wired opened s) (queue : t.io.queues = s.io.queues) {fd : Int} {other : Queue}
    (watches : t.io.aio_watches = (watch_remove_writeq s.io fd).aio_watches) (here : socket_of s other = some fd)
    (not_usb : other ≠ .ffs_outq) : Keeps s t := by
  refine ⟨?_,?_⟩
  · rw [buffers,buffers,queue,watches]
    exact Nat.add_le_add_left (List.filter_sublist.countP_le) _
  · have same : watches_on t.io .ffs_outq = watches_on (watch_remove_writeq s.io fd) .ffs_outq := by
      rw [watches_on,watches,watches_on]
    rw [same,watches_on_removed wired.apart wired.connected.socket here,if_neg (Ne.symm not_usb)]

theorem broadcast_usb (msg : List UInt8) (flow : Option Nat) (io : Watches) (dm : Nat) (clients : List DiagClient) :
    (broadcast_loop msg flow io dm clients).queues .ffs_outq = io.queues .ffs_outq := by
  induction clients generalizing io dm with
  | nil => rfl
  | cons client clients ih =>
    rw [broadcast_loop,ih]
    unfold dm_send_flow
    split_ifs
    · cases client.encode_type <;>
        simp [queue_push_flow,hdlc_enqueue_flow,queue_push_nhdlc_flow]
    · rfl

theorem open_watches (io : Watches) (opened : Bool) (fd : Int) (queue : Queue) :
    ∃ new, (if opened then io else watch_add_writeq io fd queue).aio_watches = io.aio_watches ++ new ∧
      (∀ w ∈ new, w.pending_aio = none) ∧ (if opened then io else watch_add_writeq io fd queue).queues = io.queues := by
  cases opened with
  | true => exact ⟨[],(List.append_nil _).symm,(fun _ member => nomatch member),rfl⟩
  | false =>
    refine ⟨_,rfl,?_,rfl⟩
    intro w member
    rw [List.mem_singleton.mp member]

/-- Calls that queue nothing where USB's buffer belongs. -/
def ToOthers : Call → Prop
  | .queue_push queue _ => queue ≠ .ffs_outq
  | _ => True

theorem call_keeps {opened : List Int} (wired : Wired opened s) {c : Call} (inner : MainLoop.Inner c) (others : ToOthers c) :
    Keeps s (call s c) := by
  cases c with
  | dm_add in_fd out_fd is_encoded => exact absurd inner id
  | dm_enable dm => exact absurd inner id
  | dm_disable dm => exact absurd inner id
  | dm_broadcast msg flow => exact absurd inner id
  | diag_usb_open ep0 bulk_out bulk_in => exact absurd inner id
  | qrtr_perif_init_subsystem cntl_fd cmd_fd data_fd => exact absurd inner id
  | watch_remove_fd fd => exact absurd inner id
  | watch_remove_writeq fd => exact absurd inner id
  | set_encode_type type => exact ⟨le_rfl,le_rfl⟩
  | queue_push queue msg =>
    refine .added ?_ (List.append_nil _).symm (fun _ member => nomatch member)
    simp only [call,queue_push]
    rw [queue_push_flow_queues,if_neg others,List.append_nil]
  | dm_recv_end dm =>
    simp only [call,dm_recv_end]
    cases found : s.diag_clients[dm]? with
    | none => exact .refl s
    | some client =>
      dsimp only
      split_ifs with raw
      · have here : socket_of s (.outq dm) = some client.in_fd := by
          rw [socket_of,found,← wired.raw dm client found raw]
          rfl
        exact .removed wired rfl rfl here (by simp)
      · exact .refl s
  | ep0_recv event =>
    simp only [call,ep0_recv]
    cases s.ffs with
    | none => exact .refl s
    | some ffs =>
      cases event with
      | FUNCTIONFS_ENABLE =>
        refine .added rfl rfl ?_
        intro w member
        rw [List.mem_singleton.mp member]
      | FUNCTIONFS_DISABLE => exact ⟨le_rfl,le_rfl⟩
      | other => exact .refl s
  | qrtr_cntl_recv i pkt pushed =>
    simp only [call,qrtr_cntl_recv]
    cases found : s.peripherals[i]? with
    | none => exact .refl s
    | some perif =>
      cases pkt.type with
      | QRTR_TYPE_DATA =>
        obtain ⟨new,watches,idle,queues⟩ := open_watches s.io perif.cntl_open perif.cntl_fd (.cntlq i)
        refine .added ?_ ?_ idle
        · refine (queue_all_usb _ ?_).trans (congrFun queues _)
          intro push member
          obtain ⟨msg,_,rfl⟩ := List.mem_map.mp member
          simp
        · exact (queue_all_same _ _).aio_watches.trans watches
      | QRTR_TYPE_BYE =>
        exact .removed wired rfl rfl (socket_found found).1 (by simp)
      | _ => exact .refl s
  | qrtr_cmd_recv i pkt =>
    simp only [call,qrtr_cmd_recv]
    cases found : s.peripherals[i]? with
    | none => exact .refl s
    | some perif =>
      cases pkt.type with
      | QRTR_TYPE_DATA =>
        cases non_hdlc_payload pkt.data with
        | none => exact .refl s
        | some payload =>
          exact .added (broadcast_usb _ _ _ _ _)
            ((broadcast_loop_same _ _ _ _ _).aio_watches.trans (List.append_nil _).symm) (fun _ member => nomatch member)
      | QRTR_TYPE_NEW_SERVER =>
        dsimp only
        split_ifs with none_there
        · exact .refl s
        · obtain ⟨new,watches,idle,queues⟩ := open_watches s.io false perif.cmd_fd (.cmdq i)
          exact .added (congrFun queues _) watches idle
      | QRTR_TYPE_DEL_SERVER =>
        have here : socket_of s (.cmdq i) = some perif.cmd_fd := by
          rw [socket_of,found]
          rfl
        exact .removed wired rfl rfl here (by simp)
      | _ => exact .refl s
  | qrtr_data_recv i pkt =>
    simp only [call,qrtr_data_recv]
    cases found : s.peripherals[i]? with
    | none => exact .refl s
    | some perif =>
      cases pkt.type with
      | QRTR_TYPE_DATA =>
        obtain ⟨new,watches,idle,queues⟩ := open_watches s.io perif.data_open perif.data_fd (.dataq i)
        dsimp only
        cases non_hdlc_payload pkt.data with
        | none => exact .added (congrFun queues _) watches idle
        | some payload =>
          exact .added ((broadcast_usb _ _ _ _ _).trans (congrFun queues _))
            ((broadcast_loop_same _ _ _ _ _).aio_watches.trans watches) idle
      | QRTR_TYPE_BYE =>
        exact .removed wired rfl rfl (socket_found found).2 (by simp)
      | _ => exact .refl s

/-! ## Steps -/

/-- There is one buffer for USB, from when it is opened. -/
structure OneBuffer (s : Loop) : Prop where
  bounded : Bounded s
  wired : Wired s.opened s.router
  most : buffers s.router.io ≤ 1
  unopened : s.router.ffs = none → buffers s.router.io = 0

/-- What a step has to show, next to what is known of every state. -/
structure Goes (s t : Router) : Prop where
  most : buffers t.io ≤ 1
  unopened : t.ffs = none → buffers t.io = 0
  watches : watches_on s.io .ffs_outq ≤ watches_on t.io .ffs_outq

theorem Keeps.goes (keeps : Keeps s t) (ffs : t.ffs = s.ffs) (most : buffers s.io ≤ 1) (unopened : s.ffs = none → buffers s.io = 0) :
    Goes s t :=
  ⟨keeps.fewer.trans most,fun closed => Nat.le_zero.mp (keeps.fewer.trans (unopened (ffs ▸ closed)).le),keeps.watches⟩

theorem callback_others (callback : Callback) (fd : Int) {input : Input} {failed : Bool}
    (others : OthersQueues (.callback fd input failed)) : ∀ c ∈ callback.calls input, ToOthers c := by
  intro c member
  cases callback with
  | dm_recv dm =>
    cases input with
    | commands pushed hdlc_disable ended =>
      simp only [Callback.calls,List.mem_append,List.mem_map] at member
      rcases member with (⟨push,listed,rfl⟩ | disable) | last
      · exact others push listed
      · split_ifs at disable
        · rw [List.mem_singleton.mp disable]
          trivial
        · cases disable
      · split_ifs at last
        · rw [List.mem_singleton.mp last]
          trivial
        · cases last
    | _ => cases member
  | ep0_recv =>
    cases input with
    | event event =>
      rw [List.mem_singleton.mp member]
      trivial
    | _ => cases member
  | _ =>
    cases input with
    | packet pkt pushed =>
      rw [List.mem_singleton.mp member]
      trivial
    | _ => cases member

theorem relays_keep {calls : List Call} (inner : ∀ c ∈ calls, MainLoop.Inner c ∧ ToOthers c) {s : Loop} (wired : Wired s.opened s.router) :
    Keeps s.router (calls.foldl relay s).router ∧ (calls.foldl relay s).router.ffs = s.router.ffs := by
  induction calls generalizing s with
  | nil => exact ⟨.refl _,rfl⟩
  | cons c calls ih =>
    obtain ⟨first,others⟩ := inner c List.mem_cons_self
    obtain ⟨rest,ffs⟩ := @ih (fun d member => inner d (List.mem_cons_of_mem c member)) (relay s c) (call_wired wired first)
    exact ⟨(call_keeps wired first others).trans rest,ffs.trans (call_counts first s.router).1.ffs⟩

/-- The buffer is queued, and the client's watch is not one of those that read into it. -/
theorem usb_opened (closed : s.ffs = none) (ep0 bulk_out bulk_in : Int) :
    ((diag_usb_open s ep0 bulk_out bulk_in).io.queues .ffs_outq).length = 1 ∧
      (diag_usb_open s ep0 bulk_out bulk_in).io.aio_watches =
        s.io.aio_watches ++ [⟨s.io.next,bulk_in,.outq s.diag_clients.length,none,true⟩] ∧
      (diag_usb_open s ep0 bulk_out bulk_in).ffs ≠ none := by
  unfold diag_usb_open
  split
  · rename_i ffs found
    cases closed.symm.trans found
  · generalize List.replicate 16384 (0 : UInt8) = out_buf
    simp [dm_add,watch_add_writeq,watch_add_aio,watch_add_readfd]

theorem opening_goes {s : Loop} (one : OneBuffer s) {opening : Opening} (fresh : Fresh s opening.fds) :
    Goes s.router ((opening.calls s.router).foldl relay { s with opened := s.opened ++ opening.fds }).router := by
  have client (fd : Int) (is_encoded : Bool) (natural : 0 ≤ fd) :
      Goes s.router (call (call s.router (.dm_add fd fd is_encoded)) (.dm_enable s.router.diag_clients.length)) := by
    have watches : (call (call s.router (.dm_add fd fd is_encoded)) (.dm_enable s.router.diag_clients.length)).io.aio_watches =
        s.router.io.aio_watches ++ [⟨s.router.io.next,fd,.outq s.router.diag_clients.length,none,true⟩] := by
      simp [call,dm_enable,set_enabled,dm_add,natural,watch_add_writeq,watch_add_aio,watch_add_readfd]
    refine (Keeps.added ?_ watches (by simp)).goes rfl one.most one.unopened
    simp [call,dm_enable,set_enabled,dm_add,natural,watch_add_writeq,watch_add_aio,watch_add_readfd]
  cases opening with
  | diag_sock_connect fd => exact client fd true (fresh.2 fd (List.mem_singleton_self fd)).1
  | diag_uart_open fd => exact client fd true (fresh.2 fd (List.mem_singleton_self fd)).1
  | unix_listen fd => exact client fd false (fresh.2 fd (List.mem_singleton_self fd)).1
  | qrtr_perif_init_subsystem cntl_fd data_fd cmd_fd => exact ⟨one.most,one.unopened,le_rfl⟩
  | diag_usb_open ep0 bulk_out bulk_in =>
    dsimp only [Opening.calls,List.foldl,relay,call]
    rcases closed : s.router.ffs with _ | ffs
    · obtain ⟨queue,watches,open_now⟩ := usb_opened closed ep0 bulk_out bulk_in
      have before := one.unopened closed
      have reads : s.router.io.aio_watches.countP reads_into = 0 := by
        unfold buffers at before
        omega
      refine ⟨?_,fun none => absurd none open_now,?_⟩
      · rw [buffers,queue,watches,List.countP_append,reads]
        simp [reads_into]
      · rw [watches_on,watches_on,watches,List.countP_append]
        exact Nat.le_add_right _ _
    · have same : diag_usb_open s.router ep0 bulk_out bulk_in = s.router := by rw [diag_usb_open,closed]
      rw [same]
      exact ⟨one.most,one.unopened,le_rfl⟩

theorem step_goes {s t : Loop} {a : Action} (one : OneBuffer s) (others : OthersQueues a) (stepped : step s a = .ok t) :
    Goes s.router t.router := by
  cases a with
  | opens opening =>
    rw [step] at stepped
    split_ifs at stepped with fresh
    · cases stepped
      exact opening_goes one fresh
    · cases stepped
      exact ⟨one.most,one.unopened,le_rfl⟩
  | select ready =>
    cases stepped
    exact ⟨one.most,one.unopened,le_rfl⟩
  | submit_pass accepted =>
    obtain ⟨io,ran,rfl⟩ := map_eq_ok.mp stepped
    have same : buffers io = buffers s.router.io :=
      exec_invariant (I := fun u => buffers u = buffers s.router.io) (fun kept visited => (submit_visit_buffers visited).trans kept)
        rfl ran
    refine ⟨same.le.trans one.most,fun closed => same.trans (one.unopened closed),?_⟩
    dsimp only
    rw [watches_on_places,watches_on_places,submit_pass_places ran]
  | diag_hdlc_reset =>
    cases stepped
    exact ⟨one.most,one.unopened,le_rfl⟩
  | handle_hdlc_disable_cmd =>
    cases stepped
    exact ⟨one.most,one.unopened,le_rfl⟩
  | diag_start_hdlc_recovery dm =>
    cases stepped
    exact ⟨one.most,one.unopened,le_rfl⟩
  | watch_handle_eventfd replies =>
    obtain ⟨io,ran,rfl⟩ := map_eq_ok.mp stepped
    have same := eventfd_buffers one.bounded.placed others ran
    refine ⟨same.le.trans one.most,fun closed => same.trans (one.unopened closed),?_⟩
    dsimp only
    rw [watches_on_places,watches_on_places,eventfd_places ran]
  | callback fd input failed =>
    rw [step] at stepped
    by_cases selected : fd ∈ s.rfds
    · rw [if_pos selected] at stepped
      cases stepped
      have calls : ∀ c ∈ (callback_of s.router fd).calls input, MainLoop.Inner c ∧ ToOthers c :=
        fun c member => ⟨callback_inner _ input c member,callback_others _ fd others c member⟩
      obtain ⟨keeps,ffs⟩ := relays_keep calls (s := { s with rfds := s.rfds.filter (fun other => other ≠ fd) }) one.wired
      have goes := keeps.goes ffs one.most one.unopened
      cases failed with
      | true => exact ⟨goes.most,goes.unopened,goes.watches⟩
      | false => exact goes
    · rw [if_neg selected] at stepped
      cases stepped
      exact ⟨one.most,one.unopened,le_rfl⟩

theorem OneBuffer.stepped {s t : Loop} {a : Action} (one : OneBuffer s) (others : OthersQueues a) (stepped : step s a = .ok t) :
    OneBuffer t := by
  have goes := step_goes one others stepped
  exact ⟨step_bounded one.bounded stepped,step_wired one.wired stepped,goes.most,goes.unopened⟩

theorem start_one : OneBuffer Loop.start := ⟨start_bounded,start_wired,Nat.zero_le 1,fun _ => rfl⟩

/-! ## A watch without a buffer -/

theorem idle_event {i : Nat} {event : IoEvent} {w : AioWatch} (found : io.aio_watches[i]? = some w) (idle : w.pending_aio = none)
    (mine : event.obj.aio_fildes = w.fd) : handle_event i io event ≠ .ok after := by
  unfold handle_event
  simp only [found,mine,idle,ne_eq,not_true_eq_false,if_false]
  split_ifs <;> simp

/-- An event of a descriptor of which a watch has nothing pending fails. -/
theorem idle_watch_fails {i : Nat} {w : AioWatch} {replies : List Reply} (found : io.aio_watches[i]? = some w)
    (idle : w.pending_aio = none) {event : IoEvent} (answered : event ∈ events io replies) (mine : event.obj.aio_fildes = w.fd) :
    watch_handle_eventfd io replies ≠ .ok after := by
  intro ran
  obtain ⟨inside,_⟩ := List.getElem?_eq_some_iff.mp found
  -- the turns before that of the watch leave it alone
  have others {k : Nat} (apart : k ≠ i) {u v : Watches} {e : IoEvent} (there : u.aio_watches[i]? = some w)
      (handled : handle_event k u e = .ok v) : v.aio_watches[i]? = some w := by
    rcases handle_event_ok handled with ⟨rfl,_⟩ | ⟨_,_,_,_,_,_,rfl⟩
    · exact there
    · exact (List.getElem?_set_ne apart).trans there
  obtain ⟨front,back,split⟩ := List.append_of_mem (List.mem_range.mpr inside)
  have before : ∀ k ∈ front, k ≠ i := by
    have distinct := split ▸ List.nodup_range (n := io.aio_watches.length)
    rintro k member rfl
    exact (List.nodup_append.mp distinct).2.2 k member k List.mem_cons_self rfl
  rw [watch_handle_eventfd] at ran
  dsimp only at ran
  rw [split,exec_append] at ran
  obtain ⟨u,early,late⟩ := bind_eq_ok.mp ran
  have there : u.aio_watches[i]? = some w := by
    refine exec_invariant_mem (I := fun u => u.aio_watches[i]? = some w) ?_ ?_ early
    · intro u k v listed here turn
      exact exec_invariant (I := fun u => u.aio_watches[i]? = some w) (others (before k listed)) here turn
    · exact found
  obtain ⟨v,turn,_⟩ := bind_eq_ok.mp late
  obtain ⟨first,rest,events_split⟩ := List.append_of_mem answered
  rw [events] at events_split
  rw [handle_events,events_split,exec_append] at turn
  obtain ⟨x,earlier,later⟩ := bind_eq_ok.mp turn
  -- events of other descriptors leave it without a buffer
  have still : x.aio_watches[i]? = some w := by
    refine exec_invariant (I := fun u => u.aio_watches[i]? = some w) ?_ there earlier
    intro u e v here handled
    rcases handle_event_ok handled with ⟨rfl,_⟩ | ⟨other,_,same,_,pending,_,_⟩
    · exact here
    · cases here.symm.trans same
      cases idle.symm.trans pending
  obtain ⟨y,failing,_⟩ := bind_eq_ok.mp later
  exact idle_event still idle mine failing

/-- With two watches and one buffer, one watch is without. -/
theorem idle_watch (two : 2 ≤ watches_on io .ffs_outq) (one : buffers io ≤ 1) :
    ∃ (i : Nat) (w : AioWatch), io.aio_watches[i]? = some w ∧ w.queue = .ffs_outq ∧ w.pending_aio = none := by
  by_contra busy
  have all : ∀ w ∈ io.aio_watches, w.queue = .ffs_outq → reads_into w = true := by
    intro w member usb
    obtain ⟨i,inside,rfl⟩ := List.mem_iff_getElem.mp member
    cases pending : io.aio_watches[i].pending_aio with
    | some mbuf => simp [reads_into,usb,pending]
    | none => exact absurd ⟨i,_,List.getElem?_eq_getElem inside,usb,pending⟩ busy
  have enough : watches_on io .ffs_outq ≤ io.aio_watches.countP reads_into :=
    List.countP_mono_left fun w member usb => all w member (of_decide_eq_true usb)
  unfold buffers at one
  omega

/-- Enabling adds a watch, each time. -/
theorem enable_adds {s t : Loop} {fd : Int} {failed : Bool} (wired : Wired s.opened s.router)
    (enabled : ∃ w ∈ s.router.io.aio_watches, w.queue = .ffs_outq) (selected : fd ∈ s.rfds)
    (called : callback_of s.router fd = .ep0_recv) (again : step s (.callback fd (.event .FUNCTIONFS_ENABLE) failed) = .ok t) :
    2 ≤ watches_on t.router.io .ffs_outq := by
  obtain ⟨w,member,usb⟩ := enabled
  have first : 0 < watches_on s.router.io .ffs_outq := List.countP_pos_iff.mpr ⟨w,member,by simp [usb]⟩
  have here := usb ▸ wired.connected.socket w member
  obtain ⟨ffs,found,_⟩ := Option.map_eq_some_iff.mp here
  have added : watches_on (call s.router (.ep0_recv .FUNCTIONFS_ENABLE)).io .ffs_outq = watches_on s.router.io .ffs_outq + 1 := by
    rw [call,ep0_recv,found]
    exact watches_on_added s.router.io ffs.bulk_out .ffs_outq false .ffs_outq
  rw [step,if_pos selected,called] at again
  cases again
  cases failed <;> exact (Nat.succ_le_succ first).trans added.ge

end

/-- USB is enabled when it has a read watch already: in no state of the rest of
    the run is there an answer to a read of USB, whichever it is, that the router
    survives. -/
theorem enabled_again_fatal {before later : List Action} {s t : Loop} {fd : Int} {failed : Bool}
    (run : exec step Loop.start before = .ok s) (enabled : ∃ w ∈ s.router.io.aio_watches, w.queue = .ffs_outq)
    (selected : fd ∈ s.rfds) (called : callback_of s.router fd = .ep0_recv)
    (again : step s (.callback fd (.event .FUNCTIONFS_ENABLE) failed) = .ok t) (others : ∀ a ∈ before ++ later, OthersQueues a) :
    Along step (fun u => ∀ replies, (∃ event ∈ events u.router.io replies, socket_of u.router .ffs_outq = some event.obj.aio_fildes) →
      ∀ v, step u (.watch_handle_eventfd replies) ≠ .ok v) t later := by
  have one : OneBuffer s := exec_invariant_mem (I := OneBuffer)
    (fun member one stepped => one.stepped (others _ (List.mem_append_left _ member)) stepped) start_one run
  have start : OneBuffer t ∧ 2 ≤ watches_on t.router.io .ffs_outq :=
    ⟨one.stepped (a := .callback fd (.event .FUNCTIONFS_ENABLE) failed) trivial again,
      enable_adds one.wired enabled selected called again⟩
  refine along_of_invariant_mem (fun u => OneBuffer u ∧ 2 ≤ watches_on u.router.io .ffs_outq) ?_ ?_ start
  · rintro u a v member ⟨known,two⟩ stepped
    have own := others a (List.mem_append_right _ member)
    exact ⟨known.stepped own stepped,two.trans (step_goes known own stepped).watches⟩
  · rintro u ⟨known,two⟩ replies ⟨event,answered,mine⟩ v stepped
    obtain ⟨i,w,found,usb,idle⟩ := idle_watch two known.most
    have here := known.wired.connected.socket w (List.mem_of_getElem? found)
    rw [usb,mine] at here
    obtain ⟨io,ran,_⟩ := map_eq_ok.mp stepped
    exact idle_watch_fails found idle answered (Option.some.inj here) ran

/-- The host of USB connects, disconnects before it sends anything, and is there
    again. -/
def unplugged : List Action :=
  [.opens (.diag_usb_open 3 4 5),.select [3],.callback 3 (.event .FUNCTIONFS_ENABLE) false,.submit_pass (fun _ => true),
    .select [3],.callback 3 (.event .FUNCTIONFS_DISABLE) false,.select [3]]

theorem unplugged_fatal : ∃ s t, exec step Loop.start unplugged = .ok s ∧
    step s (.callback 3 (.event .FUNCTIONFS_ENABLE) false) = .ok t ∧
    Along step (fun u => ∀ replies, (∃ event ∈ events u.router.io replies, socket_of u.router .ffs_outq = some event.obj.aio_fildes) →
      ∀ v, step u (.watch_handle_eventfd replies) ≠ .ok v) t [.select []] := by
  refine ⟨_,_,rfl,rfl,@enabled_again_fatal unplugged [.select []] _ _ 3 false rfl ?_ ?_ ?_ rfl ?_⟩
  · decide +kernel
  · decide +kernel
  · decide +kernel
  · simp [unplugged,OthersQueues]

end DiagRouter.UsbEnable

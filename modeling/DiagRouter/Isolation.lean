import DiagRouter.WholeProgram

/-!
# Clients apart

What one client sends is answered to it and to no other, whatever tables,
framings and peripherals it changes: the queue of a client only gives up
messages, and what was read of it waits as it was, while others are served.
-/
namespace DiagRouter.Isolation
open DiagRouter.Lib.Memory DiagRouter.Lib.Runs
open DiagRouter.CircRead (Fd)
open DiagRouter.Watch (IoEvent Watches submit_visit submit_visit_cases queue_all)
open DiagRouter.Endpoints (QrtrPacket non_hdlc_payload dm_recv_end)
open DiagRouter.MainLoop (Loop Opening Callback callback_of relay dropped)
open DiagRouter.Handlers (Junk Request)
open DiagRouter.HdlcRecovery (System)
open DiagRouter.QueueGrowth
open DiagRouter.WholeProgram

/-- A packet of the commands or the data of a processor that is broadcast. -/
def Broadcast : Reads → Prop
  | .packet pkt _ _ => pkt.type = .QRTR_TYPE_DATA ∧ non_hdlc_payload pkt.data ≠ none
  | _ => False

/-- A step that neither reads the client nor broadcasts. Only a transfer of USB
    reads the client of USB. -/
def Elsewhere (dm : Nat) (s : Program) : Action → Prop
  | .callback fd reads =>
    match callback_of s.loop.router fd with
    | .dm_recv caller => caller ≠ dm
    | .qrtr_cmd_recv _ => ¬ Broadcast reads
    | .qrtr_data_recv _ => ¬ Broadcast reads
    | _ => True
  | .watch_handle_eventfd .. => ∀ ffs, s.loop.router.ffs = some ffs → ffs.dm ≠ dm
  | _ => True

/-- The client is there, messages of it were only taken, from the front, and what
    was read of it is as it was. -/
structure Undisturbed (dm : Nat) (s t : Program) : Prop where
  present : dm < t.loop.router.diag_clients.length
  outq : t.loop.router.io.queues (.outq dm) <:+ s.loop.router.io.queues (.outq dm)
  recv_buf : (t.readers dm).recv_buf = (s.readers dm).recv_buf

section
variable {s t : Program} {dm caller : Nat}

theorem Undisturbed.trans {u : Program} (first : Undisturbed dm s t) (second : Undisturbed dm t u) : Undisturbed dm s u :=
  ⟨second.present,second.outq.trans first.outq,second.recv_buf.trans first.recv_buf⟩

/-- The queue is as it was. -/
theorem Undisturbed.kept (present : dm < s.loop.router.diag_clients.length)
    (clients : s.loop.router.diag_clients.length ≤ t.loop.router.diag_clients.length)
    (outq : t.loop.router.io.queues (.outq dm) = s.loop.router.io.queues (.outq dm))
    (recv_buf : (t.readers dm).recv_buf = (s.readers dm).recv_buf) : Undisturbed dm s t :=
  ⟨present.trans_le clients,outq ▸ List.suffix_rfl,recv_buf⟩

/-! ## Commands -/

/-- Commands of one client leave the queues of the others as they were. -/
theorem left_outq {system : System} (grown : Grown caller (router_of s) system.router) (other : dm ≠ caller) :
    (left_by s system).loop.router.io.queues (.outq dm) = s.loop.router.io.queues (.outq dm) := by
  have same := grown.others dm other
  rw [router_of,List.getElem?_mapIdx] at same
  simp only [left_by,refill,left_in,same]
  cases s.loop.router.diag_clients[dm]? with
  | none => rfl
  | some client => simp [client_of,messages,refilled]

theorem left_clients {system : System} (grown : Grown caller (router_of s) system.router) :
    (left_by s system).loop.router.diag_clients.length = s.loop.router.diag_clients.length := by
  have length := grown.clients.length_eq
  rw [router_of,List.length_mapIdx] at length
  simp [left_by,retype,HdlcRecovery.encode_types,← length]

theorem dm_recv_readers {system after : System} {memory : Nat → Junk × Request} {input : Fd}
    (ran : HdlcRecovery.dm_recv memory caller input system = .ok after) (other : dm ≠ caller) :
    after.readers dm = system.readers dm := by
  unfold HdlcRecovery.dm_recv at ran
  split at ran
  · cases ran
    rfl
  · split_ifs at ran
    · obtain ⟨_,_,rfl⟩ := map_eq_ok.mp ran
      rfl
    · obtain ⟨_,_,ran⟩ := bind_eq_ok.mp ran
      obtain ⟨_,_,rfl⟩ := map_eq_ok.mp ran
      exact Function.update_of_ne other _ _

theorem diag_ffs_recv_readers {system after : System} {memory : Nat → Junk × Request} {mbuf : NhdlcDatagram.MbufBlock}
    (ran : HdlcRecovery.diag_ffs_recv memory caller mbuf system = .ok after) (other : dm ≠ caller) :
    after.readers dm = system.readers dm := by
  unfold HdlcRecovery.diag_ffs_recv at ran
  split at ran
  · cases ran
    rfl
  · obtain ⟨_,_,ran⟩ := bind_eq_ok.mp ran
    obtain ⟨_,_,ran⟩ := bind_eq_ok.mp ran
    obtain ⟨_,_,rfl⟩ := map_eq_ok.mp ran
    exact Function.update_of_ne other _ _

theorem dm_recv_undisturbed (present : dm < s.loop.router.diag_clients.length) (other : dm ≠ caller)
    {memory : Nat → Junk × Request} {input : Fd} {failed : Bool} (ran : dm_recv memory caller input s = .ok (failed,t)) :
    Undisturbed dm s t := by
  obtain ⟨⟨ret,ended⟩,_,ran⟩ := bind_eq_ok.mp ran
  obtain ⟨system,handled,same⟩ := map_eq_ok.mp ran
  have grown : Grown caller (router_of s) system.router := dm_recv_grown handled
  have left : Undisturbed dm s (left_by s system) :=
    .kept present (left_clients grown).ge (left_outq grown other) (congrArg _ (dm_recv_readers handled other))
  cases ended with
  | false =>
    cases same
    exact left
  | true =>
    cases same
    refine left.trans ?_
    rw [if_pos rfl]
    unfold dm_recv_end
    split
    · exact .kept left.present le_rfl rfl rfl
    · split_ifs
      · exact .kept left.present le_rfl rfl rfl
      · exact .kept left.present le_rfl rfl rfl

/-- One watch and one event: nothing happens, or an operation of the watch is completed. -/
theorem handle_event_cases {memory : Nat → Junk × Request} {bytes : List UInt8} {turn : Nat × IoEvent}
    (ran : handle_event memory bytes s turn = .ok t) :
    t = s ∨ ∃ w mbuf u, aio_complete memory bytes w mbuf turn.2.res s = .ok u ∧
      t = with_io u (done turn.1 w turn.2 u.loop.router.io) := by
  unfold handle_event at ran
  split at ran
  · exact .inl (Except.ok.inj ran).symm
  · rename_i w _
    cases pending : w.pending_aio with
    | none =>
      rw [pending] at ran
      dsimp only at ran
      split_ifs at ran
      exact .inl (Except.ok.inj ran).symm
    | some mbuf =>
      rw [pending] at ran
      dsimp only at ran
      split_ifs at ran
      · exact .inl (Except.ok.inj ran).symm
      · exact .inl (Except.ok.inj ran).symm
      · obtain ⟨u,completed,same⟩ := map_eq_ok.mp ran
        exact .inr ⟨w,mbuf,u,completed,same.symm⟩

/-- A transfer is that of another client. -/
theorem handle_event_undisturbed (present : dm < s.loop.router.diag_clients.length)
    (others : ∀ ffs, s.loop.router.ffs = some ffs → ffs.dm ≠ dm) {memory : Nat → Junk × Request} {bytes : List UInt8}
    {turn : Nat × IoEvent} (ran : handle_event memory bytes s turn = .ok t) :
    Undisturbed dm s t ∧ t.loop.router.ffs = s.loop.router.ffs := by
  rcases handle_event_cases ran with rfl | ⟨w,mbuf,u,completed,rfl⟩
  · exact ⟨.kept present le_rfl rfl rfl,rfl⟩
  · rw [aio_complete] at completed
    by_cases write : w.is_write = true
    · rw [if_pos write] at completed
      cases completed
      exact ⟨.kept present le_rfl rfl rfl,rfl⟩
    · rw [if_neg write,diag_ffs_recv] at completed
      split at completed
      · cases completed
      · rename_i ffs found
        obtain ⟨system,handled,rfl⟩ := map_eq_ok.mp completed
        have other : dm ≠ ffs.dm := (others ffs found).symm
        have grown : Grown ffs.dm (router_of s) system.router := diag_ffs_recv_grown handled
        refine ⟨.kept present (left_clients grown).ge ?_ (congrArg _ (diag_ffs_recv_readers handled other)),rfl⟩
        have usb : Watch.Queue.outq dm ≠ .ffs_outq := by simp
        dsimp only [with_io,with_router,done]
        rw [Function.update_of_ne usb,left_outq grown other]

theorem eventfd_undisturbed (present : dm < s.loop.router.diag_clients.length)
    (others : ∀ ffs, s.loop.router.ffs = some ffs → ffs.dm ≠ dm) {memory : Nat → Junk × Request} {bytes : List UInt8}
    {replies : List Completion} (ran : watch_handle_eventfd memory bytes replies s = .ok t) : Undisturbed dm s t := by
  refine (exec_invariant (I := fun u => Undisturbed dm s u ∧ u.loop.router.ffs = s.loop.router.ffs) ?_ ?_ ran).1
  · rintro u turn v ⟨before,ffs⟩ first
    obtain ⟨later,same⟩ := handle_event_undisturbed before.present (ffs ▸ others) first
    exact ⟨before.trans later,same.trans ffs⟩
  · exact ⟨.kept present le_rfl rfl rfl,rfl⟩

/-! ## Steps of the loop -/

/-- Buffers are taken from the front. -/
theorem submit_pass_suffix {accepted : Nat → Bool} {io after : Watches} (ran : Watch.submit_pass accepted io = .ok after)
    (queue : Watch.Queue) : after.queues queue <:+ io.queues queue := by
  refine exec_invariant (I := fun u => u.queues queue <:+ io.queues queue) ?_ List.suffix_rfl ran
  intro u i v before visited
  rcases submit_visit_cases accepted u i with same | ⟨w,mbuf,rest,opcode,_,_,queued,taken⟩
  · cases same.symm.trans visited
    exact before
  · cases taken.symm.trans visited
    by_cases own : queue = w.queue
    · subst own
      refine List.IsSuffix.trans ?_ before
      dsimp only
      rw [Function.update_self,queued]
      exact List.suffix_cons mbuf rest
    · dsimp only
      rw [Function.update_of_ne own]
      exact before

theorem dm_add_kept (s : Endpoints.Router) (present : dm < s.diag_clients.length) (in_fd out_fd : Int) (is_encoded : Bool) :
    (Endpoints.dm_add s in_fd out_fd is_encoded).io.queues (.outq dm) = s.io.queues (.outq dm) := by
  have other : Watch.Queue.outq dm ≠ .outq s.diag_clients.length := fun same => present.ne (Watch.Queue.outq.inj same)
  unfold Endpoints.dm_add
  dsimp only [Watch.watch_add_writeq,Watch.watch_add_aio]
  split_ifs
  · exact Function.update_of_ne other _ _
  · exact Function.update_of_ne other _ _

theorem opens_undisturbed (present : dm < s.loop.router.diag_clients.length) {opening : Opening}
    (stepped : step s (.opens opening) = .ok t) : Undisturbed dm s t := by
  obtain ⟨loop,ran,rfl⟩ := map_eq_ok.mp stepped
  have readers (loop : Loop) : (opened s loop).readers dm = s.readers dm := by
    simp only [opened]
    split_ifs
    · rfl
    · exact Function.update_of_ne present.ne _ _
  have client (fd : Int) (is_encoded : Bool) :
      s.loop.router.diag_clients.length ≤ (Endpoints.call (Endpoints.call s.loop.router (.dm_add fd fd is_encoded))
        (.dm_enable s.loop.router.diag_clients.length)).diag_clients.length := by
    simp [Endpoints.call,Endpoints.dm_enable,Endpoints.set_enabled,Endpoints.dm_add]
  rw [MainLoop.step] at ran
  split_ifs at ran with fresh
  · cases ran
    cases opening with
    | diag_sock_connect fd => exact .kept present (client fd true) (dm_add_kept _ present fd fd true) (congrArg _ (readers _))
    | diag_uart_open fd => exact .kept present (client fd true) (dm_add_kept _ present fd fd true) (congrArg _ (readers _))
    | unix_listen fd => exact .kept present (client fd false) (dm_add_kept _ present fd fd false) (congrArg _ (readers _))
    | qrtr_perif_init_subsystem cntl_fd data_fd cmd_fd => exact .kept present le_rfl rfl (congrArg _ (readers _))
    | diag_usb_open ep0 bulk_out bulk_in =>
      have usb : s.loop.router.diag_clients.length ≤ (Endpoints.diag_usb_open s.loop.router ep0 bulk_out bulk_in).diag_clients.length ∧
          (Endpoints.diag_usb_open s.loop.router ep0 bulk_out bulk_in).io.queues (.outq dm) = s.loop.router.io.queues (.outq dm) := by
        unfold Endpoints.diag_usb_open
        split
        · exact ⟨le_rfl,rfl⟩
        · generalize List.replicate 16384 (0 : UInt8) = out_buf
          have other : Watch.Queue.outq dm ≠ .ffs_outq := by simp
          refine ⟨by simp [Endpoints.dm_add],?_⟩
          dsimp only
          rw [dm_add_kept]
          · dsimp only [Watch.watch_add_readfd]
            rw [Function.update_of_ne other]
          · exact present
      exact .kept present usb.1 usb.2 (congrArg _ (readers _))
  · cases ran
    exact .kept present le_rfl rfl (congrArg _ (readers _))

/-! ## Callbacks -/

/-- A call that leaves the clients and the queue of one as they are. -/
def Passes (dm : Nat) (before after : Endpoints.Router) : Prop :=
  after.diag_clients.length = before.diag_clients.length ∧ after.io.queues (.outq dm) = before.io.queues (.outq dm)

theorem cntl_recv_passes (s : Endpoints.Router) (dm i : Nat) (pkt : QrtrPacket) (pushed : List (List UInt8)) :
    Passes dm s (Endpoints.qrtr_cntl_recv s i pkt pushed) := by
  unfold Endpoints.qrtr_cntl_recv
  split
  · exact ⟨rfl,rfl⟩
  · rename_i perif _
    split
    · obtain ⟨new,queued,none_new⟩ := WriteStream.queue_all_queues
        (if perif.cntl_open then s.io else Watch.watch_add_writeq s.io perif.cntl_fd (.cntlq i))
        (pushed.map (fun msg => (.cntlq i,msg))) (.outq dm)
      have none_here : new = [] := by
        refine none_new.mpr ?_
        intro push member
        obtain ⟨msg,_,rfl⟩ := List.mem_map.mp member
        simp
      refine ⟨rfl,?_⟩
      dsimp only
      rw [queued,none_here,List.append_nil]
      split_ifs <;> rfl
    · exact ⟨rfl,rfl⟩
    · exact ⟨rfl,rfl⟩

theorem cmd_recv_passes (s : Endpoints.Router) (dm i : Nat) {pkt : QrtrPacket}
    (silent : ¬ (pkt.type = .QRTR_TYPE_DATA ∧ non_hdlc_payload pkt.data ≠ none)) :
    Passes dm s (Endpoints.qrtr_cmd_recv s i pkt) := by
  unfold Endpoints.qrtr_cmd_recv
  split
  · exact ⟨rfl,rfl⟩
  · cases type : pkt.type with
    | QRTR_TYPE_DATA =>
      rw [not_not.mp (fun some => silent ⟨type,some⟩)]
      exact ⟨rfl,rfl⟩
    | QRTR_TYPE_NEW_SERVER =>
      dsimp only
      split_ifs <;> exact ⟨rfl,rfl⟩
    | _ => exact ⟨rfl,rfl⟩

theorem data_recv_passes (s : Endpoints.Router) (dm i : Nat) {pkt : QrtrPacket}
    (silent : ¬ (pkt.type = .QRTR_TYPE_DATA ∧ non_hdlc_payload pkt.data ≠ none)) :
    Passes dm s (Endpoints.qrtr_data_recv s i pkt) := by
  unfold Endpoints.qrtr_data_recv
  split
  · exact ⟨rfl,rfl⟩
  · cases type : pkt.type with
    | QRTR_TYPE_DATA =>
      rw [not_not.mp (fun some => silent ⟨type,some⟩)]
      dsimp only
      split_ifs <;> exact ⟨rfl,rfl⟩
    | _ => exact ⟨rfl,rfl⟩

theorem ep0_recv_passes (s : Endpoints.Router) (dm : Nat) (event : Endpoints.FunctionfsEvent) :
    Passes dm s (Endpoints.ep0_recv s event) := by
  unfold Endpoints.ep0_recv
  split
  · exact ⟨rfl,rfl⟩
  · cases event with
    | FUNCTIONFS_ENABLE => exact ⟨List.length_modify _ _ _,rfl⟩
    | FUNCTIONFS_DISABLE => exact ⟨List.length_modify _ _ _,rfl⟩
    | other => exact ⟨rfl,rfl⟩

theorem Passes.undisturbed (passes : Passes dm s.loop.router t.loop.router) (present : dm < s.loop.router.diag_clients.length)
    (readers : t.readers = s.readers) : Undisturbed dm s t :=
  .kept present passes.1.ge passes.2 (congrArg _ (congrFun readers dm))

theorem callback_undisturbed (present : dm < s.loop.router.diag_clients.length) {fd : Int} {reads : Reads} {failed : Bool}
    (elsewhere : Elsewhere dm s (.callback fd reads)) (ran : callback fd reads (turned s fd) = .ok (failed,t)) :
    Undisturbed dm s t := by
  have nothing : Undisturbed dm s (turned s fd) := .kept present le_rfl rfl rfl
  unfold callback at ran
  unfold Elsewhere at elsewhere
  dsimp only at elsewhere
  split at ran
  · rename_i caller called
    rw [show callback_of s.loop.router fd = .dm_recv caller from called] at elsewhere
    split at ran
    · exact nothing.trans (dm_recv_undisturbed present elsewhere.symm ran)
    · cases ran
      exact nothing
  · split at ran
    · obtain ⟨told,received,same⟩ := map_eq_ok.mp ran
      cases same
      obtain ⟨⟨pushed,loop⟩,readers,_,_⟩ := cntl_recv_loop received
      refine nothing.trans (Passes.undisturbed ?_ present readers)
      rw [loop]
      exact cntl_recv_passes _ dm _ _ pushed
    · cases ran
      exact nothing
    · cases ran
      exact nothing
  · rename_i i called
    rw [show callback_of s.loop.router fd = .qrtr_cmd_recv i from called] at elsewhere
    split at ran
    · cases ran
      exact Passes.undisturbed (cmd_recv_passes _ dm i elsewhere) present rfl
    · cases ran
      exact nothing
    · cases ran
      exact nothing
  · rename_i i called
    rw [show callback_of s.loop.router fd = .qrtr_data_recv i from called] at elsewhere
    split at ran
    · cases ran
      exact Passes.undisturbed (data_recv_passes _ dm i elsewhere) present rfl
    · cases ran
      exact nothing
    · cases ran
      exact nothing
  · split at ran
    · cases ran
      exact Passes.undisturbed (ep0_recv_passes _ dm _) present rfl
    · cases ran
      exact nothing

/-! ## Runs -/

theorem step_undisturbed {a : Action} (present : dm < s.loop.router.diag_clients.length) (elsewhere : Elsewhere dm s a)
    (stepped : step s a = .ok t) : Undisturbed dm s t := by
  cases a with
  | opens opening => exact opens_undisturbed present stepped
  | select ready =>
    obtain ⟨loop,ran,rfl⟩ := map_eq_ok.mp stepped
    cases ran
    exact .kept present le_rfl rfl rfl
  | submit_pass accepted =>
    obtain ⟨loop,ran,rfl⟩ := map_eq_ok.mp stepped
    obtain ⟨io,passed,rfl⟩ := map_eq_ok.mp ran
    exact ⟨present,submit_pass_suffix passed _,rfl⟩
  | diag_hdlc_reset client =>
    cases stepped
    have grown (caller : Nat) : Grown caller (router_of s) (HdlcRecovery.diag_hdlc_reset client (system_of s)).router := by
      unfold HdlcRecovery.diag_hdlc_reset
      split_ifs
      · exact set_encode_type_grown .HDLC caller (router_of s)
      · exact .refl caller _
    refine .kept present (left_clients (grown dm)).ge (left_outq (grown (dm + 1)) (Nat.ne_of_lt (Nat.lt_succ_self dm))) ?_
    simp only [left_by,HdlcRecovery.diag_hdlc_reset]
    split_ifs
    · by_cases own : dm = client
      · subst own
        simp [Function.update_self,system_of]
      · simp only [Function.update_of_ne own]
        rfl
    · rfl
  | watch_handle_eventfd memory bytes replies => exact eventfd_undisturbed present elsewhere stepped
  | callback fd reads =>
    rw [step] at stepped
    split_ifs at stepped with selected
    · obtain ⟨⟨failed,after⟩,ran,rfl⟩ := map_eq_ok.mp stepped
      have undisturbed := callback_undisturbed present elsewhere ran
      cases failed with
      | false => exact undisturbed
      | true => exact undisturbed.trans (.kept undisturbed.present le_rfl rfl rfl)
    · cases stepped
      exact .kept present le_rfl rfl rfl

end

/-- While nothing is broadcast and the client is not read itself, whatever others
    send, and whatever their commands do to tables, framings and peripherals: no
    message is put in the queue of the client, and what was read of it waits as it
    was. -/
theorem others_answered_apart {s : Program} {dm : Nat} (present : dm < s.loop.router.diag_clients.length) {actions : List Action}
    (elsewhere : Meets step (Elsewhere dm) s actions) : Along step (Undisturbed dm s) s actions := by
  refine along_of_meets (I := Undisturbed dm s) (fun _ => True) (fun _ _ => trivial) ?_ trivial (.kept present le_rfl rfl rfl) elsewhere
  intro t a u _ before guard stepped
  exact before.trans (step_undisturbed before.present guard stepped)

/-- Two clients, and the first asks for the version. -/
def asked : List Action := [.opens (.unix_listen 5),.opens (.unix_listen 6),.select [5]]

def version : Action :=
  .callback 5 (.bytes (fun _ => (⟨fun _ => 0,fun _ => 0,fun _ => 0,fun _ _ => 0⟩,fun _ => 0)) ⟨[28],[.upto 1,.error 11]⟩)

theorem version_answered_apart : ∃ s, exec step Program.start asked = .ok s ∧ Along step (Undisturbed 1 s) s [version] := by
  refine ⟨_,rfl,others_answered_apart (by decide) ⟨?_,fun _ _ => trivial⟩⟩
  show (0 : Nat) ≠ 1
  decide

end DiagRouter.Isolation

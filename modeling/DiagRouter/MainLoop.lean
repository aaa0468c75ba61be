import DiagRouter.FlowControl
import DiagRouter.WriteStream

/-!
# The main loop

The passes of `watch_run` over what the router is connected to. A descriptor is
selected while its flow is not blocked, and its callback is called once, so a
peripheral has few messages waiting; but what waits for a client that has gone
is counted for ever, and stops every peripheral.
-/
namespace DiagRouter.MainLoop
open DiagRouter.Lib.Memory DiagRouter.Lib.Runs DiagRouter.Watch DiagRouter.Endpoints DiagRouter.FlowControl
open DiagRouter.Clients (EncodeType)

/-- What `main` opens, and the client that `unix_listen` accepts. -/
inductive Opening
  | diag_sock_connect (fd : Int)
  | diag_uart_open (fd : Int)
  | diag_usb_open (ep0 bulk_out bulk_in : Int)
  | unix_listen (client : Int)
  | qrtr_perif_init_subsystem (cntl_fd data_fd cmd_fd : Int)
deriving DecidableEq, Repr

def Opening.fds : Opening → List Int
  | .diag_sock_connect fd => [fd]
  | .diag_uart_open fd => [fd]
  | .diag_usb_open ep0 bulk_out bulk_in => [ep0,bulk_out,bulk_in]
  | .unix_listen client => [client]
  | .qrtr_perif_init_subsystem cntl_fd data_fd cmd_fd => [cntl_fd,data_fd,cmd_fd]

/-- Only the client of USB is not enabled at once. -/
def Opening.calls (s : Router) : Opening → List Call
  | .diag_sock_connect fd => [.dm_add fd fd true,.dm_enable s.diag_clients.length]
  | .diag_uart_open fd => [.dm_add fd fd true,.dm_enable s.diag_clients.length]
  | .diag_usb_open ep0 bulk_out bulk_in => [.diag_usb_open ep0 bulk_out bulk_in]
  | .unix_listen client => [.dm_add client client false,.dm_enable s.diag_clients.length]
  | .qrtr_perif_init_subsystem cntl_fd data_fd cmd_fd => [.qrtr_perif_init_subsystem cntl_fd cmd_fd data_fd]

/-- The callback of a read watch. -/
inductive Callback
  | dm_recv (dm : Nat)
  | qrtr_cntl_recv (perif : Nat)
  | qrtr_cmd_recv (perif : Nat)
  | qrtr_data_recv (perif : Nat)
  | ep0_recv
deriving DecidableEq, Repr

/-- The callback that the descriptor was added with. No two watches have one
    descriptor, since none of these is closed. -/
def callback_of (s : Router) (fd : Int) : Callback :=
  match s.diag_clients.findIdx? (fun client => client.in_fd = fd) with
  | some dm => .dm_recv dm
  | none =>
    match s.peripherals.findIdx? (fun perif => perif.cntl_fd = fd) with
    | some i => .qrtr_cntl_recv i
    | none =>
      match s.peripherals.findIdx? (fun perif => perif.cmd_fd = fd) with
      | some i => .qrtr_cmd_recv i
      | none =>
        match s.peripherals.findIdx? (fun perif => perif.data_fd = fd) with
        | some i => .qrtr_data_recv i
        | none => .ep0_recv

/-- What a callback reads: commands, by what they queue, whether one of them is
    the HDLC-disable command and whether the stream ends behind them; a packet; or
    an event of USB. -/
inductive Input
  | commands (pushed : List (Queue × List UInt8)) (hdlc_disable ended : Bool)
  | packet (pkt : QrtrPacket) (pushed : List (List UInt8))
  | event (event : FunctionfsEvent)
  | nothing
deriving DecidableEq, Repr

def Callback.calls : Callback → Input → List Call
  | .dm_recv dm, .commands pushed hdlc_disable ended =>
    pushed.map (fun push => .queue_push push.1 push.2) ++ (if hdlc_disable then [.set_encode_type .NHDLC] else []) ++
      if ended then [.dm_recv_end dm] else []
  | .qrtr_cntl_recv i, .packet pkt pushed => [.qrtr_cntl_recv i pkt pushed]
  | .qrtr_cmd_recv i, .packet pkt _ => [.qrtr_cmd_recv i pkt]
  | .qrtr_data_recv i, .packet pkt _ => [.qrtr_data_recv i pkt]
  | .ep0_recv, .event event => [.ep0_recv event]
  | _, _ => []

/-- `rfds` has the descriptors that `select` found ready and whose turn has not
    come. `opened` and `relayed` are records: the descriptors opened so far, and
    how many messages of each flow were broadcast. -/
structure Loop where
  router : Router
  rfds : List Int
  opened : List Int
  relayed : Nat → Nat

def Loop.start : Loop := ⟨Endpoints.start,[],[],fun _ => 0⟩

def relay (s : Loop) (c : Call) : Loop :=
  { s with
    router := call s.router c
    relayed := match broadcasts s.router c with
      | none => s.relayed
      | some flow => Function.update s.relayed flow (s.relayed flow + 1) }

/-- The watch of a callback that failed is taken from the list. -/
def dropped (s : Loop) (fd : Int) : Loop :=
  { s with
    router := { s.router with io := { s.router.io with
      read_watches := s.router.io.read_watches.filter (fun w => w.fd ≠ fd) } } }

/-- `diag_start_hdlc_recovery` sets one client to HDLC. No RAW client gets there. -/
def recovered (s : Loop) (dm : Nat) : Loop :=
  { s with
    router := { s.router with
      diag_clients := s.router.diag_clients.modify dm (fun client =>
        if client.encode_type = .RAW then client else { client with encode_type := .HDLC }) } }

/-- A pass is a `select`, a `submit_pass`, one of the timers if there was nothing
    ready, the completions, and the callbacks. The HDLC-disable command comes also
    with the data of USB, and what the check rejects from any encoded client. The
    kernel gives out descriptors that are not in use. -/
inductive Action
  | opens (opening : Opening)
  | select (ready : List Int)
  | submit_pass (accepted : Nat → Bool)
  | diag_hdlc_reset
  | handle_hdlc_disable_cmd
  | diag_start_hdlc_recovery (dm : Nat)
  | watch_handle_eventfd (replies : List Reply)
  | callback (fd : Int) (input : Input) (failed : Bool)

def step (s : Loop) : Action → Except Fault Loop
  | .opens opening =>
    if opening.fds.Nodup ∧ ∀ fd ∈ opening.fds, 0 ≤ fd ∧ fd ∉ s.opened then
      .ok ((opening.calls s.router).foldl relay { s with opened := s.opened ++ opening.fds })
    else .ok s
  | .select ready => .ok { s with rfds := (readable s.router.io).filter (fun fd => fd ∈ ready) }
  | .submit_pass accepted =>
    (fun io => { s with router := { s.router with io := io } }) <$> submit_pass accepted s.router.io
  | .diag_hdlc_reset => .ok (relay s (.set_encode_type .HDLC))
  | .handle_hdlc_disable_cmd => .ok (relay s (.set_encode_type .NHDLC))
  | .diag_start_hdlc_recovery dm => .ok (recovered s dm)
  | .watch_handle_eventfd replies =>
    (fun io => { s with router := { s.router with io := io } }) <$> watch_handle_eventfd s.router.io replies
  | .callback fd input failed =>
    if fd ∈ s.rfds then
      let called := ((callback_of s.router fd).calls input).foldl relay { s with rfds := s.rfds.filter (fun other => other ≠ fd) }
      .ok (if failed then dropped called fd else called)
    else .ok s

/-! ## What calls do -/

def data_fds (s : Router) : List Int := s.peripherals.map Peripheral.data_fd

/-- A call that neither opens anything nor turns a client off by itself. -/
def Inner : Call → Prop
  | .dm_add .. => False
  | .dm_enable _ => False
  | .dm_disable _ => False
  | .set_encode_type type => type ≠ .RAW
  | .dm_broadcast .. => False
  | .diag_usb_open .. => False
  | .qrtr_perif_init_subsystem .. => False
  | .watch_remove_fd _ => False
  | .watch_remove_writeq _ => False
  | _ => True

/-- A client as it was, but for being enabled, which only USB's can change, and
    how it is framed. -/
structure SameClient (usb : Prop) (before after : DiagClient) : Prop where
  in_fd : after.in_fd = before.in_fd
  out_fd : after.out_fd = before.out_fd
  raw : after.encode_type = .RAW ↔ before.encode_type = .RAW
  enabled : ¬ usb → after.enabled = before.enabled

/-- What an inner call leaves as it is. -/
structure Frame (s t : Router) : Prop where
  read_watches : t.io.read_watches ⊆ s.io.read_watches
  data_fds : data_fds t = data_fds s
  ffs : t.ffs = s.ffs
  clients : t.diag_clients.length = s.diag_clients.length
  same : ∀ dm client, t.diag_clients[dm]? = some client → ∃ before, s.diag_clients[dm]? = some before ∧
    SameClient (∃ ffs, s.ffs = some ffs ∧ ffs.dm = dm) before client
  outq : ∀ dm, (∀ w ∈ s.io.aio_watches, w.queue ≠ .outq dm) → ∀ w ∈ t.io.aio_watches, w.queue ≠ .outq dm

section
variable {s t : Router}

theorem SameClient.refl (usb : Prop) (client : DiagClient) : SameClient usb client client :=
  ⟨rfl,rfl,Iff.rfl,fun _ => rfl⟩

/-- Only the watches change, and no client gets one. -/
theorem Frame.io (clients : t.diag_clients = s.diag_clients) (data : MainLoop.data_fds t = MainLoop.data_fds s)
    (ffs : t.ffs = s.ffs) (reads : t.io.read_watches ⊆ s.io.read_watches)
    (writes : ∀ w ∈ t.io.aio_watches, w ∈ s.io.aio_watches ∨ ∀ dm, w.queue ≠ .outq dm) : Frame s t := by
  refine ⟨reads,data,ffs,congrArg List.length clients,?_,?_⟩
  · intro dm client found
    rw [clients] at found
    exact ⟨client,found,.refl _ client⟩
  · intro dm none w member
    rcases writes w member with old | new
    · exact none w old
    · exact new dm

theorem Frame.refl (s : Router) : Frame s s := .io rfl rfl rfl (List.Subset.refl _) (fun _ member => .inl member)

theorem queue_all_packets (io : Watches) (pushed : List (Queue × List UInt8)) :
    (queue_all io pushed).packets = io.packets ∧ (queue_all io pushed).read_watches = io.read_watches := by
  induction pushed generalizing io with
  | nil => exact ⟨rfl,rfl⟩
  | cons push pushed ih => exact ih (queue_push io push.1 push.2)

/-- A broadcast counts no more messages than there are clients. -/
theorem broadcast_loop_packets (msg : List UInt8) (flow : Option Nat) (io : Watches) (dm : Nat) (clients : List DiagClient)
    (i : Nat) :
    (broadcast_loop msg flow io dm clients).packets i ≤ io.packets i + (if flow = some i then clients.length else 0) ∧
      (broadcast_loop msg flow io dm clients).read_watches = io.read_watches := by
  induction clients generalizing io dm with
  | nil => exact ⟨Nat.le_add_right _ _,rfl⟩
  | cons client clients ih =>
    have sent : (dm_send_flow io dm client msg flow).packets i ≤ io.packets i + (if flow = some i then 1 else 0) ∧
        (dm_send_flow io dm client msg flow).read_watches = io.read_watches := by
      unfold dm_send_flow
      split_ifs with enabled mine
      · cases client.encode_type <;> simp [queue_push_flow,hdlc_enqueue_flow,queue_push_nhdlc_flow,mine]
      · cases client.encode_type <;> simp [queue_push_flow,hdlc_enqueue_flow,queue_push_nhdlc_flow,mine]
      · exact ⟨Nat.le_add_right _ _,rfl⟩
      · exact ⟨Nat.le_add_right _ _,rfl⟩
    obtain ⟨rest,reads⟩ := ih (dm_send_flow io dm client msg flow) (dm + 1)
    refine ⟨?_,reads.trans sent.2⟩
    have first := sent.1
    rw [broadcast_loop,List.length_cons]
    split_ifs at first rest ⊢ <;> omega

theorem ep0_recv_frame (s : Router) (event : FunctionfsEvent) : Frame s (ep0_recv s event) := by
  have set (ffs : UsbHandle) (found : s.ffs = some ffs) (io : Watches) (enabled : Bool)
      (reads : io.read_watches ⊆ s.io.read_watches)
      (writes : ∀ w ∈ io.aio_watches, w ∈ s.io.aio_watches ∨ ∀ dm, w.queue ≠ .outq dm) :
      Frame s (set_enabled { s with io := io } ffs.dm enabled) := by
    refine ⟨reads,rfl,rfl,by simp [set_enabled],?_,?_⟩
    · intro dm client there
      simp only [set_enabled,List.getElem?_modify] at there
      obtain ⟨before,known,rfl⟩ := Option.map_eq_some_iff.mp there
      refine ⟨before,known,?_⟩
      by_cases usb : ffs.dm = dm
      · rw [if_pos usb]
        exact ⟨rfl,rfl,Iff.rfl,fun other => absurd ⟨ffs,found,usb⟩ other⟩
      · rw [if_neg usb]
        exact .refl _ before
    · intro dm none w member
      rcases writes w member with old | new
      · exact none w old
      · exact new dm
  unfold ep0_recv
  split
  · exact .refl s
  · rename_i ffs found
    cases event with
    | FUNCTIONFS_ENABLE =>
      refine set ffs found (watch_add_readq s.io ffs.bulk_out .ffs_outq) true (List.Subset.refl _) ?_
      intro w member
      rcases List.mem_append.mp member with old | new
      · exact .inl old
      · rw [List.mem_singleton.mp new]
        exact .inr (by simp)
    | FUNCTIONFS_DISABLE => exact set ffs found s.io false (List.Subset.refl _) (fun _ member => .inl member)
    | other => exact .refl s

theorem data_fds_set {i : Nat} {perif : Peripheral} (found : s.peripherals[i]? = some perif) (changed : Peripheral)
    (same : changed.data_fd = perif.data_fd) (io : Watches) :
    data_fds { s with io := io, peripherals := s.peripherals.set i changed } = data_fds s := by
  obtain ⟨inside,rfl⟩ := List.getElem?_eq_some_iff.mp found
  rw [data_fds,data_fds,List.map_set,same,← List.getElem_map Peripheral.data_fd (h := by simpa using inside),
    List.set_getElem_self]

theorem open_writes (io : Watches) (opened : Bool) (fd : Int) {queue : Queue} (not_client : ∀ dm, queue ≠ .outq dm)
    {w : AioWatch} (member : w ∈ (if opened then io else watch_add_writeq io fd queue).aio_watches) :
    w ∈ io.aio_watches ∨ ∀ dm, w.queue ≠ .outq dm := by
  cases opened with
  | true => exact .inl member
  | false =>
    rcases List.mem_append.mp member with old | new
    · exact .inl old
    · rw [List.mem_singleton.mp new]
      exact .inr not_client

/-- The step counts at most `more` messages of a flow. -/
def Counts (more : Nat → Nat) (s t : Router) : Prop := Frame s t ∧ ∀ i, t.io.packets i ≤ s.io.packets i + more i

theorem qrtr_cntl_recv_counts (s : Router) (i : Nat) (pkt : QrtrPacket) (pushed : List (List UInt8)) (more : Nat → Nat) :
    Counts more s (qrtr_cntl_recv s i pkt pushed) := by
  unfold qrtr_cntl_recv
  cases found : s.peripherals[i]? with
  | none => exact ⟨.refl s,fun _ => Nat.le_add_right _ _⟩
  | some perif =>
    cases pkt.type with
    | QRTR_TYPE_DATA =>
      have opened : ∀ io : Watches, io = (if perif.cntl_open then s.io else watch_add_writeq s.io perif.cntl_fd (.cntlq i)) →
          io.packets = s.io.packets ∧ io.read_watches = s.io.read_watches := by
        rintro io rfl
        cases perif.cntl_open <;> exact ⟨rfl,rfl⟩
      obtain ⟨packets,reads⟩ := opened _ rfl
      have same := queue_all_same (if perif.cntl_open then s.io else watch_add_writeq s.io perif.cntl_fd (.cntlq i))
        (pushed.map (fun msg => (.cntlq i,msg)))
      obtain ⟨packets_later,reads_later⟩ := queue_all_packets
        (if perif.cntl_open then s.io else watch_add_writeq s.io perif.cntl_fd (.cntlq i)) (pushed.map (fun msg => (.cntlq i,msg)))
      refine ⟨.io rfl (data_fds_set found { perif with cntl_open := true } rfl _) rfl ?_ ?_,
        fun j => (congrFun (packets_later.trans packets) j).le.trans (Nat.le_add_right _ _)⟩
      · exact (reads_later.trans reads).symm ▸ List.Subset.refl _
      · intro w member
        dsimp only at member
        rw [same.aio_watches] at member
        exact open_writes s.io perif.cntl_open perif.cntl_fd (by simp) member
    | QRTR_TYPE_BYE =>
      exact ⟨.io rfl (data_fds_set found { perif with cntl_open := false } rfl _) rfl (List.Subset.refl _)
        (fun w member => .inl (List.mem_of_mem_filter member)),fun _ => Nat.le_add_right _ _⟩
    | _ => exact ⟨.refl s,fun _ => Nat.le_add_right _ _⟩

theorem qrtr_cmd_recv_counts (s : Router) (i : Nat) (pkt : QrtrPacket) (more : Nat → Nat) :
    Counts more s (qrtr_cmd_recv s i pkt) := by
  unfold qrtr_cmd_recv
  cases s.peripherals[i]? with
  | none => exact ⟨.refl s,fun _ => Nat.le_add_right _ _⟩
  | some perif =>
    cases pkt.type with
    | QRTR_TYPE_DATA =>
      cases non_hdlc_payload pkt.data with
      | none => exact ⟨.refl s,fun _ => Nat.le_add_right _ _⟩
      | some payload =>
        have counted (j : Nat) := broadcast_loop_packets payload none s.io 0 s.diag_clients j
        refine ⟨.io rfl rfl rfl ?_ ?_,fun j => ?_⟩
        · exact (counted 0).2.symm ▸ List.Subset.refl _
        · intro w member
          exact .inl ((broadcast_loop_same payload none s.io 0 s.diag_clients).aio_watches ▸ member)
        · have total := (counted j).1
          simp only [reduceCtorEq,if_false,Nat.add_zero] at total
          exact Nat.le_add_right_of_le total
    | QRTR_TYPE_NEW_SERVER =>
      dsimp only
      split_ifs with none_there
      · exact ⟨.refl s,fun _ => Nat.le_add_right _ _⟩
      · exact ⟨.io rfl rfl rfl (List.Subset.refl _)
          (fun w member => open_writes s.io false perif.cmd_fd (by simp) member),fun _ => Nat.le_add_right _ _⟩
    | QRTR_TYPE_DEL_SERVER =>
      exact ⟨.io rfl rfl rfl (List.Subset.refl _) (fun w member => .inl (List.mem_of_mem_filter member)),
        fun _ => Nat.le_add_right _ _⟩
    | _ => exact ⟨.refl s,fun _ => Nat.le_add_right _ _⟩

theorem qrtr_data_recv_counts (s : Router) (i : Nat) (pkt : QrtrPacket) :
    Counts (fun j => if broadcasts s (.qrtr_data_recv i pkt) = some j then s.diag_clients.length else 0) s
      (qrtr_data_recv s i pkt) := by
  rw [qrtr_data_recv,broadcasts]
  cases found : s.peripherals[i]? with
  | none => exact ⟨.refl s,fun _ => Nat.le_add_right _ _⟩
  | some perif =>
    cases pkt.type with
    | QRTR_TYPE_DATA =>
      dsimp only
      generalize same : (if perif.data_open then s.io else watch_add_writeq s.io perif.data_fd (.dataq i)) = io
      obtain ⟨packets,reads⟩ : io.packets = s.io.packets ∧ io.read_watches = s.io.read_watches := by
        rw [← same]
        cases perif.data_open <;> exact ⟨rfl,rfl⟩
      have writes (w : AioWatch) (member : w ∈ io.aio_watches) : w ∈ s.io.aio_watches ∨ ∀ dm, w.queue ≠ .outq dm :=
        open_writes s.io perif.data_open perif.data_fd (by simp) (same ▸ member)
      have data := data_fds_set found { perif with data_open := true } rfl
      cases non_hdlc_payload pkt.data with
      | none =>
        exact ⟨.io rfl (data io) rfl (reads.symm ▸ List.Subset.refl _) writes,
          fun j => (congrFun packets j).le.trans (Nat.le_add_right _ _)⟩
      | some payload =>
        have counted (j : Nat) := broadcast_loop_packets payload (some i) io 0 s.diag_clients j
        refine ⟨.io rfl (data _) rfl ?_ ?_,fun j => ?_⟩
        · exact ((counted 0).2.trans reads).symm ▸ List.Subset.refl _
        · intro w member
          dsimp only [dm_broadcast] at member
          rw [(broadcast_loop_same payload (some i) io 0 s.diag_clients).aio_watches] at member
          exact writes w member
        · exact packets ▸ (counted j).1
    | QRTR_TYPE_BYE =>
      exact ⟨.io rfl (data_fds_set found { perif with data_open := false } rfl _) rfl (List.Subset.refl _)
        (fun w member => .inl (List.mem_of_mem_filter member)),fun _ => Nat.le_add_right _ _⟩
    | _ => exact ⟨.refl s,fun _ => Nat.le_add_right _ _⟩

/-- An inner call counts a message for each client at most, and only those of a
    data channel. -/
theorem call_counts {c : Call} (inner : Inner c) (s : Router) :
    Counts (fun i => if broadcasts s c = some i then s.diag_clients.length else 0) s (call s c) := by
  cases c with
  | dm_add in_fd out_fd is_encoded => exact absurd inner id
  | dm_enable dm => exact absurd inner id
  | dm_disable dm => exact absurd inner id
  | dm_broadcast msg flow => exact absurd inner id
  | diag_usb_open ep0 bulk_out bulk_in => exact absurd inner id
  | qrtr_perif_init_subsystem cntl_fd cmd_fd data_fd => exact absurd inner id
  | watch_remove_fd fd => exact absurd inner id
  | watch_remove_writeq fd => exact absurd inner id
  | set_encode_type type =>
    refine ⟨⟨List.Subset.refl _,rfl,rfl,by simp [call,set_encode_type],?_,fun _ none => none⟩,fun _ => Nat.le_add_right _ _⟩
    intro dm client found
    simp only [call,set_encode_type,List.getElem?_map] at found
    obtain ⟨before,known,rfl⟩ := Option.map_eq_some_iff.mp found
    refine ⟨before,known,?_⟩
    by_cases raw : before.encode_type = .RAW
    · rw [if_pos raw]
      exact .refl _ before
    · rw [if_neg raw]
      exact ⟨rfl,rfl,iff_of_false inner raw,fun _ => rfl⟩
  | dm_recv_end dm =>
    simp only [call,dm_recv_end]
    cases s.diag_clients[dm]? with
    | none => exact ⟨.refl s,fun _ => Nat.le_add_right _ _⟩
    | some client =>
      dsimp only
      split_ifs with raw
      · exact ⟨.io rfl rfl rfl (List.filter_subset_self _) (fun w member => .inl (List.mem_of_mem_filter member)),
          fun _ => Nat.le_add_right _ _⟩
      · exact ⟨.refl s,fun _ => Nat.le_add_right _ _⟩
  | ep0_recv event =>
    refine ⟨ep0_recv_frame s event,fun i => ?_⟩
    rw [call,ep0_recv]
    cases s.ffs with
    | none => exact Nat.le_add_right _ _
    | some ffs => cases event <;> exact Nat.le_add_right _ _
  | qrtr_cntl_recv i pkt pushed => exact qrtr_cntl_recv_counts s i pkt pushed _
  | qrtr_cmd_recv i pkt => exact qrtr_cmd_recv_counts s i pkt _
  | qrtr_data_recv i pkt => exact qrtr_data_recv_counts s i pkt
  | queue_push queue msg =>
    exact ⟨.io rfl rfl rfl (List.Subset.refl _) (fun w member => .inl member),fun _ => Nat.le_add_right _ _⟩

end

/-! ## Asynchronous I/O -/

/-- Messages are moved, and none is lost. -/
structure Moves (s t : Watches) : Prop where
  loses : ∀ flow, Loses flow 0 s t
  packets : ∀ flow, t.packets flow ≤ s.packets flow
  read_watches : t.read_watches = s.read_watches
  queues : t.aio_watches.map AioWatch.queue = s.aio_watches.map AioWatch.queue

/-- What is outstanding is counted. -/
def Covered (s : Watches) : Prop := ∀ flow, outstanding s.queues s.aio_watches flow ≤ s.packets flow

section
variable {s t u : Watches} {out_fds : List Int}

theorem Moves.refl (s : Watches) : Moves s s := ⟨fun _ => rfl,fun _ => le_rfl,rfl,rfl⟩

theorem Moves.trans (first : Moves s t) (second : Moves t u) : Moves s u where
  loses flow := (first.loses flow).trans (second.loses flow)
  packets flow := (second.packets flow).trans (first.packets flow)
  read_watches := second.read_watches.trans first.read_watches
  queues := second.queues.trans first.queues

theorem Loses.covered {lost : Nat → Nat} (loses : ∀ flow, Loses flow (lost flow) s t) (covered : Covered s) : Covered t := by
  intro flow
  have moved := loses flow
  have before := covered flow
  unfold Loses at moved
  omega

theorem submit_pass_moves {accepted : Nat → Bool} (placed : Placed out_fds s) (ran : submit_pass accepted s = .ok t) :
    Placed out_fds t ∧ Moves s t := by
  refine exec_invariant (I := fun u => Placed out_fds u ∧ Moves s u) ?_ ⟨placed,.refl s⟩ ran
  rintro u i v ⟨before,moved⟩ visited
  refine ⟨(@submit_visit_quiet _ 0 _ _ _ _ visited before).1,moved.trans ?_⟩
  refine ⟨fun flow => (@submit_visit_quiet _ flow _ _ _ _ visited before).2,?_,?_,?_⟩ <;>
    rcases submit_visit_cases accepted u i with same | ⟨w,mbuf,rest,opcode,found,_,_,taken⟩
  · cases same.symm.trans visited
    exact fun _ => le_rfl
  · cases taken.symm.trans visited
    exact fun _ => le_rfl
  · cases same.symm.trans visited
    rfl
  · cases taken.symm.trans visited
    rfl
  · cases same.symm.trans visited
    rfl
  · cases taken.symm.trans visited
    exact map_set_pending AioWatch.queue found (some mbuf) rfl

theorem aio_complete_frame (s : Watches) (w : AioWatch) (mbuf : Mbuf) (event : IoEvent) :
    (∀ flow, (aio_complete s w mbuf event).packets flow ≤ s.packets flow) ∧
      (aio_complete s w mbuf event).read_watches = s.read_watches := by
  have received (mbuf : Mbuf) : (∀ flow, (diag_ffs_recv s mbuf event.pushed).packets flow ≤ s.packets flow) ∧
      (diag_ffs_recv s mbuf event.pushed).read_watches = s.read_watches := by
    obtain ⟨packets,reads⟩ := queue_all_packets s event.pushed
    exact ⟨fun flow => (congrFun packets flow).le,reads⟩
  unfold aio_complete
  split_ifs with write delivered
  · refine ⟨fun flow => ?_,rfl⟩
    dsimp only [watch_free_write_aio]
    rw [watch_flow_dec_at]
    exact Nat.sub_le _ _
  · exact received _
  · exact received _

/-- A completion takes a message off both sides, or none. -/
theorem handle_event_moves {i : Nat} {event : IoEvent} (placed : Placed out_fds s) (covered : Covered s)
    (handled : handle_event i s event = .ok t) : Moves s t := by
  rcases handle_event_ok handled with ⟨rfl,_⟩ | ⟨w,mbuf,found,_,pending,_,rfl⟩
  · exact .refl t
  · have same := (aio_complete_same s w mbuf event).aio_watches
    obtain ⟨packets,reads⟩ := aio_complete_frame s w mbuf event
    refine ⟨?_,packets,reads,map_set_pending AioWatch.queue found none rfl⟩
    intro flow
    have moved := @outstanding_set flow _ _ _ found (aio_complete s w mbuf event).queues none
    have after : pending_tagged flow { w with pending_aio := none } = 0 := by simp [pending_tagged,tagged]
    have enough := covered flow
    unfold Loses
    dsimp only
    by_cases write : w.is_write = true
    · have before : pending_tagged flow w = if mbuf.flow = some flow then 1 else 0 := by
        simp [pending_tagged,write,pending,tagged,List.countP_singleton]
      rw [aio_complete_write write] at moved ⊢
      dsimp only [watch_free_write_aio] at moved ⊢
      rw [watch_flow_dec_at]
      omega
    · have read : w.is_write = false := by simpa using write
      have before : pending_tagged flow w = 0 := by simp [pending_tagged,read]
      have quiet : Loses flow 0 s (aio_complete s w mbuf event) :=
        (aio_complete_quiet placed (List.mem_of_getElem? found) read pending event placed).2
      unfold Loses at quiet
      rw [same] at quiet
      omega

theorem watch_handle_eventfd_moves {replies : List Reply} (placed : Placed out_fds s) (covered : Covered s)
    (handled : watch_handle_eventfd s replies = .ok t) : Placed out_fds t ∧ Moves s t := by
  have start : Moves s { s with in_flight := (io_getevents s.in_flight (replies.take 32)).2 } :=
    ⟨fun _ => rfl,fun _ => le_rfl,rfl,rfl⟩
  refine exec_invariant (I := fun u => Placed out_fds u ∧ Moves s u) ?_ ⟨?_,start⟩ handled
  · intro u i v before turn
    refine exec_invariant (I := fun u => Placed out_fds u ∧ Moves s u) ?_ before turn
    rintro x event y ⟨good,moved⟩ first
    exact ⟨handle_event_placed good first,moved.trans (handle_event_moves good (Loses.covered moved.loses covered) first)⟩
  · exact ⟨placed.read_watch,placed.write_watch,placed.client_fd,placed.untagged⟩

end

/-! ## A bound for what waits -/

/-- What is outstanding is counted, and the count is bounded; a peripheral whose
    turn is to come has few messages waiting. The only read watch of its data
    socket has its flow. A RAW client is enabled and has one descriptor, and USB's
    is not RAW. -/
structure Bounded (s : Loop) : Prop where
  placed : Placed (out_fds s.router) s.router.io
  covered : Covered s.router.io
  watched : ∀ w ∈ s.router.io.read_watches, w.fd ∈ s.opened
  ready : ∀ fd ∈ s.rfds, fd ∈ s.opened
  sockets : ∀ fd ∈ data_fds s.router, fd ∈ s.opened
  flows : ∀ w ∈ s.router.io.read_watches, ∀ i : Nat, (data_fds s.router)[i]? = some w.fd → w.flow = some i
  waiting : ∀ (i : Nat) fd, (data_fds s.router)[i]? = some fd → fd ∈ s.rfds → s.router.io.packets i ≤ FLOW_WATERMARK
  bound : ∀ i, s.router.io.packets i ≤ FLOW_WATERMARK + s.router.diag_clients.length
  raw : ∀ (dm : Nat) client, s.router.diag_clients[dm]? = some client → client.encode_type = .RAW →
    client.enabled = true ∧ client.out_fd = client.in_fd
  usb : ∀ ffs, s.router.ffs = some ffs → ∃ client, s.router.diag_clients[ffs.dm]? = some client ∧ client.encode_type ≠ .RAW

section
variable {s : Loop}

theorem Bounded.not_usb (bounded : Bounded s) {dm : Nat} {client : DiagClient} (found : s.router.diag_clients[dm]? = some client)
    (raw : client.encode_type = .RAW) : ¬ ∃ ffs, s.router.ffs = some ffs ∧ ffs.dm = dm := by
  rintro ⟨ffs,here,rfl⟩
  obtain ⟨other,there,not_raw⟩ := bounded.usb ffs here
  rw [found] at there
  exact not_raw (Option.some.inj there ▸ raw)

/-- A message is broadcast when it is the turn of the peripheral, and once. -/
def Turn (s : Loop) (c : Call) : Prop :=
  ∀ i, broadcasts s.router c = some i → s.router.io.packets i ≤ FLOW_WATERMARK ∧
    ∀ fd, (data_fds s.router)[i]? = some fd → fd ∉ s.rfds

theorem relay_bounded (bounded : Bounded s) {c : Call} (inner : Inner c) (turn : Turn s c) : Bounded (relay s c) := by
  obtain ⟨frame,packets⟩ := call_counts inner s.router
  dsimp only at packets
  have tells (flow : Nat) := @call_tells flow s.router bounded.placed c
  have data : data_fds (relay s c).router = data_fds s.router := frame.data_fds
  refine ⟨(tells 0).1,?_,?_,bounded.ready,?_,?_,?_,?_,?_,?_⟩
  · exact Loses.covered (fun flow => (tells flow).2.choose_spec.1) bounded.covered
  · exact fun w member => bounded.watched w (frame.read_watches member)
  · exact data ▸ bounded.sockets
  · exact data ▸ fun w member => bounded.flows w (frame.read_watches member)
  · rw [data]
    intro i fd socket selected
    have count := packets i
    by_cases mine : broadcasts s.router c = some i
    · exact absurd selected ((turn i mine).2 fd socket)
    · rw [if_neg mine,Nat.add_zero] at count
      exact count.trans (bounded.waiting i fd socket selected)
  · intro i
    have count := packets i
    have length : (relay s c).router.diag_clients.length = s.router.diag_clients.length := frame.clients
    rw [length]
    by_cases mine : broadcasts s.router c = some i
    · rw [if_pos mine] at count
      have few := (turn i mine).1
      exact count.trans (Nat.add_le_add_right few _)
    · rw [if_neg mine,Nat.add_zero] at count
      exact count.trans (bounded.bound i)
  · intro dm client found raw
    obtain ⟨before,known,same⟩ := frame.same dm client found
    have raw_before := same.raw.mp raw
    obtain ⟨enabled,one_fd⟩ := bounded.raw dm before known raw_before
    rw [same.enabled (bounded.not_usb known raw_before),same.out_fd,same.in_fd]
    exact ⟨enabled,one_fd⟩
  · intro ffs found
    have here : s.router.ffs = some ffs := frame.ffs ▸ found
    obtain ⟨before,known,not_raw⟩ := bounded.usb ffs here
    have inside : ffs.dm < (relay s c).router.diag_clients.length := by
      rw [show (relay s c).router.diag_clients.length = s.router.diag_clients.length from frame.clients]
      exact (List.getElem?_eq_some_iff.mp known).1
    obtain ⟨again,there,same⟩ := frame.same ffs.dm _ (List.getElem?_eq_getElem inside)
    rw [known] at there
    refine ⟨_,List.getElem?_eq_getElem inside,fun raw => not_raw ?_⟩
    rw [Option.some.inj there]
    exact same.raw.mp raw

/-- Calls that broadcast nothing of a peripheral's data. -/
theorem relays_bounded {calls : List Call} (bounded : Bounded s)
    (inner : ∀ c ∈ calls, Inner c ∧ ∀ s, broadcasts s c = none) : Bounded (calls.foldl relay s) := by
  induction calls generalizing s with
  | nil => exact bounded
  | cons c calls ih =>
    obtain ⟨first,none⟩ := inner c List.mem_cons_self
    refine ih (relay_bounded bounded first ?_) (fun d member => inner d (List.mem_cons_of_mem c member))
    intro i mine
    rw [none] at mine
    cases mine

/-! ## Opening -/

/-- Descriptors that nothing uses yet. -/
def Fresh (s : Loop) (fds : List Int) : Prop := fds.Nodup ∧ ∀ fd ∈ fds, 0 ≤ fd ∧ fd ∉ s.opened

theorem modify_last {α : Type} (f : α → α) (known : List α) (x : α) : (known ++ [x]).modify known.length f = known ++ [f x] := by
  induction known with
  | nil => rfl
  | cons y known ih => rw [List.cons_append,List.length_cons,List.modify_succ_cons,ih,List.cons_append]

/-- One more client, behind the others. -/
theorem found_behind {clients : List DiagClient} {new client : DiagClient} {dm : Nat}
    (found : (clients ++ [new])[dm]? = some client) : clients[dm]? = some client ∨ client = new := by
  rw [List.getElem?_append] at found
  split_ifs at found with inside
  · exact .inl found
  · exact .inr (List.mem_singleton.mp (List.mem_of_getElem? found))

/-- A client whose descriptor is read is added and enabled. -/
theorem client_bounded (bounded : Bounded s) {fd : Int} (fresh : Fresh s [fd]) (is_encoded : Bool) :
    Bounded (relay (relay { s with opened := s.opened ++ [fd] } (.dm_add fd fd is_encoded))
      (.dm_enable s.router.diag_clients.length)) := by
  obtain ⟨natural,unused⟩ := fresh.2 fd (List.mem_singleton_self fd)
  have clients : (call (call s.router (.dm_add fd fd is_encoded)) (.dm_enable s.router.diag_clients.length)).diag_clients =
      s.router.diag_clients ++ [⟨fd,fd,if is_encoded then .HDLC else .RAW,true⟩] := modify_last _ _ _
  have reads : (call (call s.router (.dm_add fd fd is_encoded)) (.dm_enable s.router.diag_clients.length)).io.read_watches =
      s.router.io.read_watches ++ [⟨fd,none⟩] := by
    simp [call,dm_enable,set_enabled,dm_add,natural,watch_add_writeq,watch_add_aio,watch_add_readfd]
  have packets : (call (call s.router (.dm_add fd fd is_encoded)) (.dm_enable s.router.diag_clients.length)).io.packets =
      s.router.io.packets := by
    simp [call,dm_enable,set_enabled,dm_add,natural,watch_add_writeq,watch_add_aio,watch_add_readfd]
  have tells (flow : Nat) := @call_tells flow s.router bounded.placed (.dm_add fd fd is_encoded)
  have again (flow : Nat) := @call_tells flow _ (tells 0).1 (.dm_enable s.router.diag_clients.length)
  have kept {other : Int} (known : other ∈ s.opened) : other ∈ s.opened ++ [fd] := List.mem_append_left _ known
  refine ⟨(again 0).1,?_,?_,fun other selected => kept (bounded.ready other selected),
    fun other socket => kept (bounded.sockets other socket),?_,?_,?_,?_,?_⟩
  · exact Loses.covered (fun flow => (again flow).2.choose_spec.1)
      (Loses.covered (fun flow => (tells flow).2.choose_spec.1) bounded.covered)
  · intro w member
    rw [relay,relay,reads] at member
    rcases List.mem_append.mp member with old | new
    · exact kept (bounded.watched w old)
    · exact List.mem_append_right _ (List.mem_singleton.mpr (congrArg ReadWatch.fd (List.mem_singleton.mp new)))
  · intro w member i socket
    rw [relay,relay,reads] at member
    rcases List.mem_append.mp member with old | new
    · exact bounded.flows w old i socket
    · rw [List.mem_singleton.mp new] at socket
      exact absurd (bounded.sockets fd (List.mem_of_getElem? socket)) unused
  · intro i other socket selected
    rw [relay,relay,packets]
    exact bounded.waiting i other socket selected
  · intro i
    rw [relay,relay,packets,clients,List.length_append]
    exact (bounded.bound i).trans (by omega)
  · intro dm client found raw
    rw [relay,relay,clients] at found
    rcases found_behind found with old | rfl
    · exact bounded.raw dm client old raw
    · exact ⟨rfl,rfl⟩
  · intro ffs found
    obtain ⟨client,there,not_raw⟩ := bounded.usb ffs found
    refine ⟨client,?_,not_raw⟩
    rw [relay,relay,clients,List.getElem?_append_left (List.getElem?_eq_some_iff.mp there).1]
    exact there

theorem usb_bounded (bounded : Bounded s) {ep0 bulk_out bulk_in : Int} (fresh : Fresh s [ep0,bulk_out,bulk_in]) :
    Bounded (relay { s with opened := s.opened ++ [ep0,bulk_out,bulk_in] } (.diag_usb_open ep0 bulk_out bulk_in)) := by
  have unused := (fresh.2 ep0 (by simp)).2
  have tells (flow : Nat) := @call_tells flow s.router bounded.placed (.diag_usb_open ep0 bulk_out bulk_in)
  have covered : Covered (call s.router (.diag_usb_open ep0 bulk_out bulk_in)).io :=
    Loses.covered (fun flow => (tells flow).2.choose_spec.1) bounded.covered
  have placed := (tells 0).1
  have kept {fd : Int} (known : fd ∈ s.opened) : fd ∈ s.opened ++ [ep0,bulk_out,bulk_in] := List.mem_append_left _ known
  simp only [relay,broadcasts]
  cases found : s.router.ffs with
  | some ffs =>
    have same : call s.router (.diag_usb_open ep0 bulk_out bulk_in) = s.router := by rw [call,diag_usb_open,found]
    rw [same] at covered placed ⊢
    exact ⟨placed,covered,fun w member => kept (bounded.watched w member),fun fd selected => kept (bounded.ready fd selected),
      fun fd socket => kept (bounded.sockets fd socket),bounded.flows,bounded.waiting,bounded.bound,bounded.raw,bounded.usb⟩
  | none =>
    have opened : (call s.router (.diag_usb_open ep0 bulk_out bulk_in)).io.read_watches =
          s.router.io.read_watches ++ [⟨ep0,none⟩] ∧
        (call s.router (.diag_usb_open ep0 bulk_out bulk_in)).io.packets = s.router.io.packets ∧
        (call s.router (.diag_usb_open ep0 bulk_out bulk_in)).peripherals = s.router.peripherals ∧
        (call s.router (.diag_usb_open ep0 bulk_out bulk_in)).diag_clients = s.router.diag_clients ++ [⟨-1,bulk_in,.HDLC,false⟩] ∧
        (call s.router (.diag_usb_open ep0 bulk_out bulk_in)).ffs = some ⟨bulk_out,s.router.diag_clients.length⟩ := by
      rw [call,diag_usb_open,found]
      exact ⟨rfl,rfl,rfl,rfl,rfl⟩
    obtain ⟨reads,packets,peripherals,clients,ffs⟩ := opened
    have data : data_fds (call s.router (.diag_usb_open ep0 bulk_out bulk_in)) = data_fds s.router := by
      rw [data_fds,peripherals,data_fds]
    refine ⟨placed,covered,?_,fun fd selected => kept (bounded.ready fd selected),?_,?_,?_,?_,?_,?_⟩
    · intro w member
      rw [reads] at member
      rcases List.mem_append.mp member with old | new
      · exact kept (bounded.watched w old)
      · rw [List.mem_singleton.mp new]
        simp
    · exact data ▸ fun fd socket => kept (bounded.sockets fd socket)
    · intro w member i socket
      rw [data] at socket
      rw [reads] at member
      rcases List.mem_append.mp member with old | new
      · exact bounded.flows w old i socket
      · rw [List.mem_singleton.mp new] at socket
        exact absurd (bounded.sockets ep0 (List.mem_of_getElem? socket)) unused
    · rw [data,packets]
      exact bounded.waiting
    · intro i
      rw [packets,clients,List.length_append]
      exact (bounded.bound i).trans (by omega)
    · intro dm client there raw
      rw [clients] at there
      rcases found_behind there with old | rfl
      · exact bounded.raw dm client old raw
      · cases raw
    · intro handle there
      rw [ffs] at there
      cases there
      exact ⟨⟨-1,bulk_in,.HDLC,false⟩,by rw [clients]; simp,by simp⟩

theorem qrtr_bounded (bounded : Bounded s) {cntl_fd data_fd cmd_fd : Int} (fresh : Fresh s [cntl_fd,data_fd,cmd_fd]) :
    Bounded (relay { s with opened := s.opened ++ [cntl_fd,data_fd,cmd_fd] }
      (.qrtr_perif_init_subsystem cntl_fd cmd_fd data_fd)) := by
  obtain ⟨apart,unused⟩ := fresh
  have tells (flow : Nat) := @call_tells flow s.router bounded.placed (.qrtr_perif_init_subsystem cntl_fd cmd_fd data_fd)
  have kept {fd : Int} (known : fd ∈ s.opened) : fd ∈ s.opened ++ [cntl_fd,data_fd,cmd_fd] := List.mem_append_left _ known
  have length : (data_fds s.router).length = s.router.peripherals.length := by simp [data_fds]
  have sockets : data_fds (call s.router (.qrtr_perif_init_subsystem cntl_fd cmd_fd data_fd)) = data_fds s.router ++ [data_fd] := by
    simp [data_fds,call,qrtr_perif_init_subsystem]
  have at_index {i : Nat} {fd : Int} (there : (data_fds s.router ++ [data_fd])[i]? = some fd) :
      (data_fds s.router)[i]? = some fd ∨ i = s.router.peripherals.length ∧ fd = data_fd := by
    rw [List.getElem?_append] at there
    split_ifs at there with inside
    · exact .inl there
    · have place := (List.getElem?_eq_some_iff.mp there).1
      rw [List.length_singleton] at place
      exact .inr ⟨by omega,List.mem_singleton.mp (List.mem_of_getElem? there)⟩
  refine ⟨(tells 0).1,Loses.covered (fun flow => (tells flow).2.choose_spec.1) bounded.covered,?_,
    fun fd selected => kept (bounded.ready fd selected),?_,?_,?_,bounded.bound,bounded.raw,bounded.usb⟩
  · intro w member
    simp only [relay,call,qrtr_perif_init_subsystem,watch_add_readfd,List.mem_append,List.mem_singleton] at member
    rcases member with ((old | rfl) | rfl) | rfl
    · exact kept (bounded.watched w old)
    all_goals exact List.mem_append_right _ (by simp)
  · intro fd socket
    rw [relay,sockets] at socket
    rcases List.mem_append.mp socket with old | new
    · exact kept (bounded.sockets fd old)
    · rw [List.mem_singleton.mp new]
      exact List.mem_append_right _ (by simp)
  · intro w member i socket
    rw [relay,sockets] at socket
    simp only [relay,call,qrtr_perif_init_subsystem,watch_add_readfd,List.mem_append,List.mem_singleton] at member
    rcases at_index socket with old | ⟨rfl,fd⟩
    · have known := bounded.sockets w.fd (List.mem_of_getElem? old)
      rcases member with ((listed | rfl) | rfl) | rfl
      · exact bounded.flows w listed i old
      · exact absurd known (unused cntl_fd (by simp)).2
      · exact absurd known (unused cmd_fd (by simp)).2
      · exact absurd known (unused data_fd (by simp)).2
    · simp only [List.nodup_cons,List.mem_cons,List.not_mem_nil,or_false,not_or] at apart
      rcases member with ((listed | rfl) | rfl) | rfl
      · exact absurd (fd ▸ bounded.watched w listed) (unused data_fd (by simp)).2
      · exact absurd fd apart.1.1
      · exact absurd fd.symm apart.2.1
      · rfl
  · intro i fd socket selected
    rw [relay,sockets] at socket
    rcases at_index socket with old | ⟨_,rfl⟩
    · exact bounded.waiting i fd old selected
    · exact absurd (bounded.ready fd selected) (unused fd (by simp)).2

/-! ## Steps -/

theorem found_index {α : Type} {p : α → Bool} {known : List α} {i : Nat} (found : known.findIdx? p = some i) :
    ∃ x, known[i]? = some x ∧ p x = true := by
  have here := List.of_findIdx?_eq_some found
  cases at_i : known[i]? with
  | none =>
    rw [at_i] at here
    cases here
  | some x =>
    rw [at_i] at here
    exact ⟨x,rfl,here⟩

theorem callback_data {r : Router} {fd : Int} {i : Nat} (called : callback_of r fd = .qrtr_data_recv i) :
    (data_fds r)[i]? = some fd := by
  unfold callback_of at called
  split at called
  · cases called
  · split at called
    · cases called
    · split at called
      · cases called
      · cases data : r.peripherals.findIdx? (fun perif => perif.data_fd = fd) with
        | none =>
          rw [data] at called
          cases called
        | some j =>
          rw [data] at called
          cases called
          obtain ⟨perif,here,same⟩ := found_index data
          rw [data_fds,List.getElem?_map,here]
          exact congrArg some (of_decide_eq_true same)

/-- Of the callbacks only that of a data socket broadcasts in a flow. -/
theorem callback_calls (callback : Callback) (input : Input) :
    (∀ c ∈ callback.calls input, Inner c ∧ ∀ s, broadcasts s c = none) ∨
      ∃ i pkt, callback = .qrtr_data_recv i ∧ callback.calls input = [.qrtr_data_recv i pkt] := by
  cases callback with
  | dm_recv dm =>
    left
    cases input with
    | commands pushed hdlc_disable ended =>
      intro c member
      simp only [Callback.calls,List.mem_append,List.mem_map] at member
      rcases member with (⟨push,_,rfl⟩ | disable) | last
      · exact ⟨trivial,fun _ => rfl⟩
      · split_ifs at disable
        · rw [List.mem_singleton.mp disable]
          exact ⟨by simp [Inner],fun _ => rfl⟩
        · cases disable
      · split_ifs at last
        · rw [List.mem_singleton.mp last]
          exact ⟨trivial,fun _ => rfl⟩
        · cases last
    | _ => exact fun c member => nomatch member
  | qrtr_cntl_recv i =>
    left
    cases input with
    | packet pkt pushed =>
      intro c member
      rw [List.mem_singleton.mp member]
      exact ⟨trivial,fun _ => rfl⟩
    | _ => exact fun c member => nomatch member
  | qrtr_cmd_recv i =>
    left
    cases input with
    | packet pkt pushed =>
      intro c member
      rw [List.mem_singleton.mp member]
      exact ⟨trivial,fun _ => rfl⟩
    | _ => exact fun c member => nomatch member
  | qrtr_data_recv i =>
    cases input with
    | packet pkt pushed => exact .inr ⟨i,pkt,rfl,rfl⟩
    | _ => exact .inl (fun c member => nomatch member)
  | ep0_recv =>
    left
    cases input with
    | event event =>
      intro c member
      rw [List.mem_singleton.mp member]
      exact ⟨trivial,fun _ => rfl⟩
    | _ => exact fun c member => nomatch member

theorem broadcasts_data {r : Router} {i j : Nat} {pkt : QrtrPacket} (told : broadcasts r (.qrtr_data_recv i pkt) = some j) :
    j = i := by
  rw [broadcasts] at told
  split at told
  · obtain ⟨_,_,same⟩ := Option.map_eq_some_iff.mp told
    exact same.symm
  · cases told

/-- The turn of a descriptor is over. -/
theorem turn_bounded (bounded : Bounded s) (fd : Int) : Bounded { s with rfds := s.rfds.filter (fun other => other ≠ fd) } :=
  { bounded with
    ready := fun other selected => bounded.ready other (List.mem_of_mem_filter selected)
    waiting := fun i other socket selected => bounded.waiting i other socket (List.mem_of_mem_filter selected) }

theorem data_turn (bounded : Bounded s) {fd : Int} (selected : fd ∈ s.rfds) {i : Nat} (pkt : QrtrPacket)
    (called : callback_of s.router fd = .qrtr_data_recv i) :
    Turn { s with rfds := s.rfds.filter (fun other => other ≠ fd) } (.qrtr_data_recv i pkt) := by
  intro j told
  cases broadcasts_data told
  have socket := callback_data called
  refine ⟨bounded.waiting i fd socket selected,?_⟩
  intro other there again
  cases socket.symm.trans there
  exact absurd rfl (of_decide_eq_true (List.mem_filter.mp again).2)

theorem called_bounded (bounded : Bounded s) {fd : Int} (selected : fd ∈ s.rfds) (input : Input) :
    Bounded (((callback_of s.router fd).calls input).foldl relay { s with rfds := s.rfds.filter (fun other => other ≠ fd) }) := by
  rcases callback_calls (callback_of s.router fd) input with others | ⟨i,pkt,data,calls⟩
  · exact relays_bounded (turn_bounded bounded fd) others
  · rw [calls]
    exact relay_bounded (turn_bounded bounded fd) (c := .qrtr_data_recv i pkt) trivial (data_turn bounded selected pkt data)

theorem dropped_bounded (bounded : Bounded s) (fd : Int) : Bounded (dropped s fd) :=
  { bounded with
    placed := ⟨bounded.placed.read_watch,bounded.placed.write_watch,bounded.placed.client_fd,bounded.placed.untagged⟩
    watched := fun w member => bounded.watched w (List.mem_of_mem_filter member)
    flows := fun w member => bounded.flows w (List.mem_of_mem_filter member) }

/-- A client that is set to HDLC is as it was otherwise, and a RAW one is not. -/
theorem recovered_at (s : Loop) (dm i : Nat) :
    (recovered s dm).router.diag_clients[i]? = s.router.diag_clients[i]?.map (fun client =>
      if dm = i ∧ client.encode_type ≠ .RAW then { client with encode_type := .HDLC } else client) := by
  simp only [recovered,List.getElem?_modify]
  cases s.router.diag_clients[i]? with
  | none => rfl
  | some client => by_cases mine : dm = i <;> by_cases raw : client.encode_type = .RAW <;> simp [mine,raw]

theorem recovered_same {dm i : Nat} {client : DiagClient} (found : (recovered s dm).router.diag_clients[i]? = some client) :
    ∃ before, s.router.diag_clients[i]? = some before ∧ SameClient False before client := by
  rw [recovered_at] at found
  obtain ⟨before,known,rfl⟩ := Option.map_eq_some_iff.mp found
  refine ⟨before,known,?_⟩
  split_ifs with set
  · exact ⟨rfl,rfl,iff_of_false (by simp) set.2,fun _ => rfl⟩
  · exact .refl _ before

theorem recovered_length (s : Loop) (dm : Nat) : (recovered s dm).router.diag_clients.length = s.router.diag_clients.length :=
  List.length_modify _ _ _

theorem recovered_out_fds (s : Loop) (dm : Nat) : out_fds (recovered s dm).router = out_fds s.router := by
  apply List.ext_getElem?
  intro i
  rw [out_fds,List.getElem?_map,recovered_at,out_fds,List.getElem?_map]
  cases s.router.diag_clients[i]? with
  | none => rfl
  | some client =>
    simp only [Option.map_some]
    split_ifs <;> rfl

theorem recovered_bounded (bounded : Bounded s) (dm : Nat) : Bounded (recovered s dm) := by
  refine { bounded with placed := ?_, bound := ?_, raw := ?_, usb := ?_ }
  · rw [recovered_out_fds]
    exact bounded.placed
  · rw [recovered_length]
    exact bounded.bound
  · intro i client found raw
    obtain ⟨before,known,same⟩ := recovered_same found
    obtain ⟨enabled,one_fd⟩ := bounded.raw i before known (same.raw.mp raw)
    rw [same.enabled id,same.out_fd,same.in_fd]
    exact ⟨enabled,one_fd⟩
  · intro ffs found
    obtain ⟨before,known,not_raw⟩ := bounded.usb ffs found
    have inside : ffs.dm < (recovered s dm).router.diag_clients.length := by
      rw [recovered_length]
      exact (List.getElem?_eq_some_iff.mp known).1
    obtain ⟨again,there,same⟩ := recovered_same (List.getElem?_eq_getElem inside)
    cases known.symm.trans there
    exact ⟨_,List.getElem?_eq_getElem inside,fun raw => not_raw (same.raw.mp raw)⟩

theorem select_bounded (bounded : Bounded s) (ready : List Int) :
    Bounded { s with rfds := (readable s.router.io).filter (fun fd => fd ∈ ready) } := by
  have watch {fd : Int} (selected : fd ∈ (readable s.router.io).filter (fun fd => fd ∈ ready)) :
      ∃ w ∈ s.router.io.read_watches, w.fd = fd ∧ watch_flow_blocked s.router.io.packets w.flow = false := by
    obtain ⟨w,member,same⟩ := List.mem_map.mp (List.mem_of_mem_filter selected)
    obtain ⟨listed,free⟩ := List.mem_filter.mp member
    exact ⟨w,listed,same,by simpa using free⟩
  refine { bounded with ready := ?_, waiting := ?_ }
  · intro fd selected
    obtain ⟨w,listed,rfl,_⟩ := watch selected
    exact bounded.watched w listed
  · intro i fd socket selected
    obtain ⟨w,listed,rfl,free⟩ := watch selected
    rw [bounded.flows w listed i socket] at free
    simpa [watch_flow_blocked] using free

theorem moves_bounded (bounded : Bounded s) {io : Watches} (placed : Placed (out_fds s.router) io) (moves : Moves s.router.io io) :
    Bounded { s with router := { s.router with io := io } } :=
  { bounded with
    placed := placed
    covered := Loses.covered moves.loses bounded.covered
    watched := fun w member => bounded.watched w (moves.read_watches ▸ member)
    flows := fun w member => bounded.flows w (moves.read_watches ▸ member)
    waiting := fun i fd socket selected => (moves.packets i).trans (bounded.waiting i fd socket selected)
    bound := fun i => (moves.packets i).trans (bounded.bound i) }

theorem opening_bounded (bounded : Bounded s) {opening : Opening} (fresh : Fresh s opening.fds) :
    Bounded ((opening.calls s.router).foldl relay { s with opened := s.opened ++ opening.fds }) := by
  cases opening with
  | diag_sock_connect fd => exact client_bounded bounded fresh true
  | diag_uart_open fd => exact client_bounded bounded fresh true
  | diag_usb_open ep0 bulk_out bulk_in => exact usb_bounded bounded fresh
  | unix_listen client => exact client_bounded bounded fresh false
  | qrtr_perif_init_subsystem cntl_fd data_fd cmd_fd => exact qrtr_bounded bounded fresh

theorem step_bounded {a : Action} {t : Loop} (bounded : Bounded s) (stepped : step s a = .ok t) : Bounded t := by
  cases a with
  | opens opening =>
    rw [step] at stepped
    split_ifs at stepped with fresh
    · cases stepped
      exact opening_bounded bounded fresh
    · cases stepped
      exact bounded
  | select ready =>
    cases stepped
    exact select_bounded bounded ready
  | submit_pass accepted =>
    obtain ⟨io,ran,rfl⟩ := map_eq_ok.mp stepped
    obtain ⟨placed,moves⟩ := submit_pass_moves bounded.placed ran
    exact moves_bounded bounded placed moves
  | diag_hdlc_reset =>
    cases stepped
    exact relay_bounded bounded (c := .set_encode_type .HDLC) (by simp [Inner]) (fun i told => nomatch told)
  | handle_hdlc_disable_cmd =>
    cases stepped
    exact relay_bounded bounded (c := .set_encode_type .NHDLC) (by simp [Inner]) (fun i told => nomatch told)
  | diag_start_hdlc_recovery dm =>
    cases stepped
    exact recovered_bounded bounded dm
  | watch_handle_eventfd replies =>
    obtain ⟨io,ran,rfl⟩ := map_eq_ok.mp stepped
    obtain ⟨placed,moves⟩ := watch_handle_eventfd_moves bounded.placed bounded.covered ran
    exact moves_bounded bounded placed moves
  | callback fd input failed =>
    rw [step] at stepped
    by_cases selected : fd ∈ s.rfds
    · have called := called_bounded bounded selected input
      rw [if_pos selected] at stepped
      cases stepped
      cases failed with
      | true => exact dropped_bounded called fd
      | false => exact called
    · rw [if_neg selected] at stepped
      cases stepped
      exact bounded

theorem start_bounded : Bounded Loop.start := by
  refine ⟨start_placed,?_,?_,?_,?_,?_,?_,?_,?_,?_⟩ <;>
    simp [Covered,Loop.start,Endpoints.start,outstanding,write_queues,data_fds]

end

/-- The client is RAW and enabled, and its queue has no watch any more. -/
def Gone (dm : Nat) (r : Router) : Prop :=
  (∃ client, r.diag_clients[dm]? = some client ∧ client.encode_type = .RAW ∧ client.enabled = true) ∧
    ∀ w ∈ r.io.aio_watches, w.queue ≠ .outq dm

/-- As many messages are lost as were broadcast since the count of `base`. -/
def Lost (base : Nat → Nat) (s : Loop) : Prop :=
  ∀ i, ∃ lost, s.router.io.packets i = outstanding s.router.io.queues s.router.io.aio_watches i + lost ∧
    s.relayed i ≤ base i + lost ∧ s.relayed i ≤ base i + (FLOW_WATERMARK + 1)

section
variable {s : Loop} {dm : Nat} {base : Nat → Nat}

theorem Gone.unheard {r : Router} (gone : Gone dm r) : ¬ Heard r := by
  obtain ⟨⟨client,found,_,enabled⟩,none⟩ := gone
  intro heard
  obtain ⟨w,member,_,queue⟩ := heard dm client found enabled
  exact none w member queue

/-- A broadcast that some client does not hear loses a message. -/
theorem relay_lost (placed : Placed (out_fds s.router) s.router.io) {c : Call}
    (turn : ∀ i, broadcasts s.router c = some i → s.router.io.packets i ≤ FLOW_WATERMARK ∧ ¬ Heard s.router)
    (lost : Lost base s) : Lost base (relay s c) := by
  intro i
  obtain ⟨before,counted,as_many,few⟩ := lost i
  obtain ⟨_,more,loses,zero_iff⟩ := @call_tells i s.router placed c
  have now : (relay s c).router.io.packets i =
      outstanding (relay s c).router.io.queues (relay s c).router.io.aio_watches i + (before + more) := by
    dsimp only [relay]
    unfold Loses at loses
    omega
  refine ⟨before + more,now,?_⟩
  cases told : broadcasts s.router c with
  | none =>
    have same : (relay s c).relayed i = s.relayed i := by rw [relay,told]
    rw [same]
    omega
  | some flow =>
    have relayed : (relay s c).relayed = Function.update s.relayed flow (s.relayed flow + 1) := by rw [relay,told]
    rw [relayed]
    by_cases mine : i = flow
    · subst mine
      obtain ⟨bound,unheard⟩ := turn i told
      have some_lost : more ≠ 0 := fun zero => unheard ((zero_iff.mp zero).2 told)
      rw [Function.update_self]
      omega
    · rw [Function.update_of_ne mine]
      omega

theorem relay_gone (bounded : Bounded s) (gone : Gone dm s.router) {c : Call} (inner : Inner c) : Gone dm (relay s c).router := by
  obtain ⟨frame,_⟩ := call_counts inner s.router
  obtain ⟨⟨client,found,raw,enabled⟩,none⟩ := gone
  refine ⟨?_,frame.outq dm none⟩
  have inside : dm < (call s.router c).diag_clients.length := by
    rw [frame.clients]
    exact (List.getElem?_eq_some_iff.mp found).1
  obtain ⟨before,known,same⟩ := frame.same dm _ (List.getElem?_eq_getElem inside)
  cases found.symm.trans known
  exact ⟨_,List.getElem?_eq_getElem inside,same.raw.mpr raw,(same.enabled (bounded.not_usb found raw)).trans enabled⟩

/-- What stands between a run and its start, once a client has gone. -/
structure Starving (dm : Nat) (base : Nat → Nat) (s : Loop) : Prop where
  bounded : Bounded s
  gone : Gone dm s.router
  lost : Lost base s

theorem relay_starving (starving : Starving dm base s) {c : Call} (inner : Inner c) (turn : Turn s c) :
    Starving dm base (relay s c) :=
  ⟨relay_bounded starving.bounded inner turn,relay_gone starving.bounded starving.gone inner,
    relay_lost starving.bounded.placed (fun i mine => ⟨(turn i mine).1,starving.gone.unheard⟩) starving.lost⟩

theorem relays_starving {calls : List Call} (starving : Starving dm base s)
    (inner : ∀ c ∈ calls, Inner c ∧ ∀ s, broadcasts s c = none) : Starving dm base (calls.foldl relay s) := by
  induction calls generalizing s with
  | nil => exact starving
  | cons c calls ih =>
    obtain ⟨first,none⟩ := inner c List.mem_cons_self
    refine ih (relay_starving starving first ?_) (fun d member => inner d (List.mem_cons_of_mem c member))
    intro i mine
    rw [none] at mine
    cases mine

/-- A new client's watch is not that of the client that has gone. -/
theorem opening_gone (gone : Gone dm s.router) (opening : Opening) :
    Gone dm ((opening.calls s.router).foldl relay { s with opened := s.opened ++ opening.fds }).router := by
  obtain ⟨⟨client,found,raw,enabled⟩,none⟩ := gone
  have inside := (List.getElem?_eq_some_iff.mp found).1
  have added (fd : Int) (is_encoded : Bool) :
      Gone dm (call (call s.router (.dm_add fd fd is_encoded)) (.dm_enable s.router.diag_clients.length)) := by
    have clients : (call (call s.router (.dm_add fd fd is_encoded)) (.dm_enable s.router.diag_clients.length)).diag_clients =
        s.router.diag_clients ++ [⟨fd,fd,if is_encoded then .HDLC else .RAW,true⟩] := modify_last _ _ _
    refine ⟨⟨client,?_,raw,enabled⟩,?_⟩
    · rw [clients,List.getElem?_append_left inside]
      exact found
    · intro w member
      simp only [call,dm_enable,set_enabled,dm_add] at member
      rcases List.mem_append.mp member with old | new
      · refine none w ?_
        split_ifs at old <;> exact old
      · rw [List.mem_singleton.mp new]
        intro same
        exact Nat.ne_of_gt inside (Queue.outq.inj same)
  cases opening with
  | diag_sock_connect fd => exact added fd true
  | diag_uart_open fd => exact added fd true
  | unix_listen fd => exact added fd false
  | diag_usb_open ep0 bulk_out bulk_in =>
    dsimp only [Opening.calls,List.foldl,relay,call]
    rw [diag_usb_open]
    cases s.router.ffs with
    | some ffs => exact ⟨⟨client,found,raw,enabled⟩,none⟩
    | none =>
      refine ⟨⟨client,(List.getElem?_append_left inside).trans found,raw,enabled⟩,?_⟩
      intro w member
      rcases List.mem_append.mp member with old | new
      · exact none w old
      · rw [List.mem_singleton.mp new]
        intro same
        exact Nat.ne_of_gt inside (Queue.outq.inj same)
  | qrtr_perif_init_subsystem cntl_fd data_fd cmd_fd => exact ⟨⟨client,found,raw,enabled⟩,none⟩

theorem opening_lost (bounded : Bounded s) (lost : Lost base s) (opening : Opening) :
    Lost base ((opening.calls s.router).foldl relay { s with opened := s.opened ++ opening.fds }) := by
  have quiet {u : Loop} (placed : Placed (out_fds u.router) u.router.io) (before : Lost base u) {c : Call}
      (none_told : broadcasts u.router c = none) :
      Placed (out_fds (relay u c).router) (relay u c).router.io ∧ Lost base (relay u c) := by
    refine ⟨(@call_tells 0 u.router placed c).1,relay_lost placed ?_ before⟩
    intro i told
    cases none_told.symm.trans told
  have placed : Placed (out_fds s.router) s.router.io := bounded.placed
  have opened : Lost base { s with opened := s.opened ++ opening.fds } := lost
  have twice (fd : Int) (is_encoded : Bool) (known : Lost base { s with opened := s.opened ++ [fd] }) :
      Lost base (relay (relay { s with opened := s.opened ++ [fd] } (.dm_add fd fd is_encoded))
        (.dm_enable s.router.diag_clients.length)) := by
    obtain ⟨placed_later,added⟩ := quiet (c := .dm_add fd fd is_encoded) placed known rfl
    exact (quiet placed_later added rfl).2
  cases opening with
  | diag_sock_connect fd => exact twice fd true opened
  | diag_uart_open fd => exact twice fd true opened
  | diag_usb_open ep0 bulk_out bulk_in => exact (quiet placed opened rfl).2
  | unix_listen client => exact twice client false opened
  | qrtr_perif_init_subsystem cntl_fd data_fd cmd_fd => exact (quiet placed opened rfl).2

/-- Moving messages neither adds a watch nor loses what was counted. -/
theorem moves_starving (starving : Starving dm base s) {io : Watches} (placed : Placed (out_fds s.router) io)
    (moves : Moves s.router.io io) : Starving dm base { s with router := { s.router with io := io } } := by
  obtain ⟨known,none_there⟩ := starving.gone
  refine ⟨moves_bounded starving.bounded placed moves,⟨known,?_⟩,?_⟩
  · intro w member queue
    have listed : Queue.outq dm ∈ s.router.io.aio_watches.map AioWatch.queue := by
      rw [← moves.queues,← queue]
      exact List.mem_map_of_mem member
    obtain ⟨before,there,same⟩ := List.mem_map.mp listed
    exact none_there before there same
  · intro i
    obtain ⟨lost,counted,as_many,few⟩ := starving.lost i
    have moved := moves.loses i
    unfold Loses at moved
    refine ⟨lost,?_,as_many,few⟩
    dsimp only at *
    omega

theorem called_starving (starving : Starving dm base s) {fd : Int} (selected : fd ∈ s.rfds) (input : Input) :
    Starving dm base
      (((callback_of s.router fd).calls input).foldl relay { s with rfds := s.rfds.filter (fun other => other ≠ fd) }) := by
  have turned : Starving dm base { s with rfds := s.rfds.filter (fun other => other ≠ fd) } :=
    ⟨turn_bounded starving.bounded fd,starving.gone,starving.lost⟩
  rcases callback_calls (callback_of s.router fd) input with others | ⟨i,pkt,data,calls⟩
  · exact relays_starving turned others
  · rw [calls]
    exact relay_starving turned (c := .qrtr_data_recv i pkt) trivial (data_turn starving.bounded selected pkt data)

theorem step_starving {a : Action} {t : Loop} (starving : Starving dm base s) (stepped : step s a = .ok t) :
    Starving dm base t := by
  cases a with
  | opens opening =>
    rw [step] at stepped
    split_ifs at stepped with fresh
    · cases stepped
      exact ⟨opening_bounded starving.bounded fresh,opening_gone starving.gone opening,
        opening_lost starving.bounded starving.lost opening⟩
    · cases stepped
      exact starving
  | select ready =>
    cases stepped
    exact ⟨select_bounded starving.bounded ready,starving.gone,starving.lost⟩
  | submit_pass accepted =>
    obtain ⟨io,ran,rfl⟩ := map_eq_ok.mp stepped
    obtain ⟨placed,moves⟩ := submit_pass_moves starving.bounded.placed ran
    exact moves_starving starving placed moves
  | diag_hdlc_reset =>
    cases stepped
    exact relay_starving starving (c := .set_encode_type .HDLC) (by simp [Inner]) (fun i told => nomatch told)
  | handle_hdlc_disable_cmd =>
    cases stepped
    exact relay_starving starving (c := .set_encode_type .NHDLC) (by simp [Inner]) (fun i told => nomatch told)
  | diag_start_hdlc_recovery caller =>
    cases stepped
    obtain ⟨⟨client,found,raw,enabled⟩,none⟩ := starving.gone
    refine ⟨recovered_bounded starving.bounded caller,⟨⟨client,?_,raw,enabled⟩,none⟩,starving.lost⟩
    rw [recovered_at,found,Option.map_some,if_neg (fun set => set.2 raw)]
  | watch_handle_eventfd replies =>
    obtain ⟨io,ran,rfl⟩ := map_eq_ok.mp stepped
    obtain ⟨placed,moves⟩ := watch_handle_eventfd_moves starving.bounded.placed starving.bounded.covered ran
    exact moves_starving starving placed moves
  | callback fd input failed =>
    rw [step] at stepped
    by_cases selected : fd ∈ s.rfds
    · obtain ⟨bounded,gone,lost⟩ := called_starving starving selected input
      rw [if_pos selected] at stepped
      cases stepped
      cases failed with
      | true => exact ⟨dropped_bounded bounded fd,gone,lost⟩
      | false => exact ⟨bounded,gone,lost⟩
    · rw [if_neg selected] at stepped
      cases stepped
      exact starving

/-- Inner calls neither turn a client of one descriptor RAW nor change where it is read. -/
theorem relays_client {calls : List Call} (inner : ∀ c ∈ calls, Inner c) {client : DiagClient}
    (found : s.router.diag_clients[dm]? = some client) :
    ∃ after, (calls.foldl relay s).router.diag_clients[dm]? = some after ∧ after.in_fd = client.in_fd ∧
      (after.encode_type = .RAW ↔ client.encode_type = .RAW) := by
  induction calls generalizing s client with
  | nil => exact ⟨client,found,rfl,Iff.rfl⟩
  | cons c calls ih =>
    obtain ⟨frame,_⟩ := call_counts (inner c List.mem_cons_self) s.router
    have inside : dm < (relay s c).router.diag_clients.length := by
      rw [show (relay s c).router.diag_clients.length = s.router.diag_clients.length from frame.clients]
      exact (List.getElem?_eq_some_iff.mp found).1
    obtain ⟨before,known,same⟩ := frame.same dm _ (List.getElem?_eq_getElem inside)
    cases found.symm.trans known
    obtain ⟨after,there,in_fd,raw⟩ :=
      ih (fun d member => inner d (List.mem_cons_of_mem c member)) (List.getElem?_eq_getElem inside)
    exact ⟨after,there,in_fd.trans same.in_fd,raw.trans same.raw⟩

/-- The end of its stream takes away the watches of a RAW client, and it stays enabled. -/
theorem end_gone (bounded : Bounded s) {client : DiagClient} (found : s.router.diag_clients[dm]? = some client)
    (raw : client.encode_type = .RAW) : Gone dm (relay s (.dm_recv_end dm)).router := by
  obtain ⟨enabled,one_fd⟩ := bounded.raw dm client found raw
  simp only [Gone,relay,call,dm_recv_end,found,raw,if_true]
  refine ⟨⟨client,rfl,raw,enabled⟩,?_⟩
  intro w member queue
  obtain ⟨listed,kept⟩ := List.mem_filter.mp member
  have fd := bounded.placed.client_fd w listed dm queue
  rw [out_fds,List.getElem?_map,found] at fd
  have same : client.in_fd = w.fd := one_fd.symm.trans (Option.some.inj fd)
  exact absurd same.symm (of_decide_eq_true kept)

theorem ended_starving (bounded : Bounded s) {fd : Int} (selected : fd ∈ s.rfds) (called : callback_of s.router fd = .dm_recv dm)
    {client : DiagClient} (found : s.router.diag_clients[dm]? = some client) (raw : client.encode_type = .RAW)
    (pushed : List (Queue × List UInt8)) (hdlc_disable failed : Bool) {t : Loop}
    (ended : step s (.callback fd (.commands pushed hdlc_disable true) failed) = .ok t) : Starving dm t.relayed t := by
  have after : Bounded t := step_bounded bounded ended
  refine ⟨after,?_,fun i => ?_⟩
  · rw [step,if_pos selected,called] at ended
    cases ended
    rcases callback_calls (.dm_recv dm) (.commands pushed hdlc_disable true) with inner | ⟨_,_,data,_⟩
    · simp only [Callback.calls,if_true] at inner ⊢
      rw [List.foldl_append]
      generalize pushed.map (fun push => Call.queue_push push.1 push.2) ++
        (if hdlc_disable then [Call.set_encode_type .NHDLC] else []) = calls at inner ⊢
      have before (c : Call) (member : c ∈ calls) := inner c (List.mem_append_left _ member)
      obtain ⟨later,there,_,still⟩ := @relays_client { s with rfds := s.rfds.filter (fun other => other ≠ fd) } dm calls
        (fun c member => (before c member).1) client found
      have gone := end_gone (relays_bounded (turn_bounded bounded fd) before) there (still.mpr raw)
      cases failed <;> exact gone
    · cases data
  · have enough := after.covered i
    exact ⟨t.router.io.packets i - outstanding t.router.io.queues t.router.io.aio_watches i,by omega,by omega,by omega⟩

end

/-- A client and a processor, and the client leaves before the processor says
    anything. -/
def client_left : List Action :=
  [.opens (.unix_listen 5),.opens (.qrtr_perif_init_subsystem 6 7 8),.select [5]]

/-- A message of the processor, as soon as its socket is selected. -/
def spoken : List Action := [.select [7],.callback 7 (.packet ⟨.QRTR_TYPE_DATA,1,1,[0x7e,1,1,0,0x79,0x7e]⟩ []) false]

/-- The eleven messages. -/
example : (exec step Loop.start (client_left ++ [.callback 5 (.commands [] false true) false] ++
      (List.replicate 12 spoken).flatten)).toOption.map (fun u => (u.relayed 0,readable u.router.io)) =
    some (11,[6,8]) := by
  decide

end DiagRouter.MainLoop

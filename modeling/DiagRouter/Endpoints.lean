import DiagRouter.Watch

/-!
# Endpoints

What the router is connected to: the clients of `dm.c`, the USB function of
`usb.c` and the processors of `peripheral-qrtr.c`. Their handlers add watches,
remove them and queue messages; the main loop submits and completes.
-/
namespace DiagRouter.Endpoints
open DiagRouter.Lib.Memory DiagRouter.Lib.Words DiagRouter.Lib.Runs DiagRouter.Watch
open DiagRouter.Clients (EncodeType dm_send hdlc_enqueue queue_push_nhdlc)

/-- The queue of the `i`-th client is `Queue.outq i`. -/
structure DiagClient where
  in_fd : Int
  out_fd : Int
  encode_type : EncodeType
  enabled : Bool
deriving DecidableEq, Repr

/-- The queues of the `i`-th peripheral are `cmdq i`, `cntlq i` and `dataq i`, and
    its flow is the `i`-th. -/
structure Peripheral where
  cntl_fd : Int
  cmd_fd : Int
  data_fd : Int
  cntl_open : Bool
  data_open : Bool
deriving DecidableEq, Repr

structure UsbHandle where
  bulk_out : Int
  dm : Nat
deriving DecidableEq, Repr

structure Router where
  io : Watches
  diag_clients : List DiagClient
  peripherals : List Peripheral
  ffs : Option UsbHandle

/-- Before `main` has opened anything. -/
def start : Router := ⟨⟨fun _ => [],fun _ => 0,[],[],0,[],[]⟩,[],[],none⟩

/-! ## Clients -/

def dm_add (s : Router) (in_fd out_fd : Int) (is_encoded : Bool) : Router :=
  let dm := s.diag_clients.length
  let listed := { s.io with queues := Function.update s.io.queues (.outq dm) [] }
  let read := if 0 ≤ in_fd then watch_add_readfd listed in_fd none else listed
  { s with
    io := watch_add_writeq read out_fd (.outq dm)
    diag_clients := s.diag_clients ++ [⟨in_fd,out_fd,if is_encoded then .HDLC else .RAW,false⟩] }

def set_enabled (s : Router) (dm : Nat) (enabled : Bool) : Router :=
  { s with diag_clients := s.diag_clients.modify dm (fun client => { client with enabled := enabled }) }

def dm_enable (s : Router) (dm : Nat) : Router := set_enabled s dm true

def dm_disable (s : Router) (dm : Nat) : Router := set_enabled s dm false

def set_encode_type (s : Router) (type : EncodeType) : Router :=
  { s with
    diag_clients := s.diag_clients.map (fun client =>
      if client.encode_type = .RAW then client else { client with encode_type := type }) }

def dm_send_flow (io : Watches) (dm : Nat) (client : DiagClient) (msg : List UInt8) (flow : Option Nat) : Watches :=
  if client.enabled then
    match client.encode_type with
    | .RAW => queue_push_flow io (.outq dm) msg flow
    | .HDLC => hdlc_enqueue_flow io (.outq dm) msg flow
    | .NHDLC => queue_push_nhdlc_flow io (.outq dm) msg flow
  else io

/-- What a client is sent is what `dm_send` sends it. -/
theorem dm_send_flow_data (io : Watches) (dm : Nat) (client : DiagClient) (msg : List UInt8) (flow : Option Nat) :
    ((dm_send_flow io dm client msg flow).queues (.outq dm)).map Mbuf.data =
      (dm_send ⟨client.encode_type,client.enabled,(io.queues (.outq dm)).map Mbuf.data⟩ msg).outq := by
  unfold dm_send_flow dm_send
  split_ifs with enabled
  · cases client.encode_type <;>
      simp [queue_push_flow,hdlc_enqueue_flow,queue_push_nhdlc_flow,Clients.queue_push,hdlc_enqueue,queue_push_nhdlc]
  · rfl

theorem dm_send_flow_same (io : Watches) (dm : Nat) (client : DiagClient) (msg : List UInt8) (flow : Option Nat) :
    SameAio io (dm_send_flow io dm client msg flow) := by
  unfold dm_send_flow
  split_ifs with enabled
  · cases client.encode_type <;> exact queue_push_flow_same io _ _ _
  · exact .refl io

def broadcast_loop (msg : List UInt8) (flow : Option Nat) : Watches → Nat → List DiagClient → Watches
  | io, _, [] => io
  | io, dm, client :: clients => broadcast_loop msg flow (dm_send_flow io dm client msg flow) (dm + 1) clients

theorem broadcast_loop_same (msg : List UInt8) (flow : Option Nat) (io : Watches) (dm : Nat) (clients : List DiagClient) :
    SameAio io (broadcast_loop msg flow io dm clients) := by
  induction clients generalizing io dm with
  | nil => exact .refl io
  | cons client clients ih => exact (dm_send_flow_same io dm client msg flow).trans (ih _ (dm + 1))

def dm_broadcast (s : Router) (msg : List UInt8) (flow : Option Nat) : Router :=
  { s with io := broadcast_loop msg flow s.io 0 s.diag_clients }

/-- `read` has returned 0. Only `dm_recv_raw` takes that for the end. -/
def dm_recv_end (s : Router) (dm : Nat) : Router :=
  match s.diag_clients[dm]? with
  | none => s
  | some client => if client.encode_type = .RAW then { s with io := watch_remove_fd s.io client.in_fd } else s

/-! ## USB -/

inductive FunctionfsEvent
  | FUNCTIONFS_ENABLE
  | FUNCTIONFS_DISABLE
  | other
deriving DecidableEq, Repr

/-- `main` calls it once. The one buffer that USB reads fill is queued. -/
def diag_usb_open (s : Router) (ep0 bulk_out bulk_in : Int) : Router :=
  match s.ffs with
  | some _ => s
  | none =>
    let out_buf : Mbuf := ⟨List.replicate 16384 0,0,none⟩
    let listed := { s.io with queues := Function.update s.io.queues .ffs_outq [out_buf] }
    let added := dm_add { s with io := watch_add_readfd listed ep0 none } (-1) bulk_in true
    { added with ffs := some ⟨bulk_out,s.diag_clients.length⟩ }

def ep0_recv (s : Router) (event : FunctionfsEvent) : Router :=
  match s.ffs with
  | none => s
  | some ffs =>
    match event with
    | .FUNCTIONFS_ENABLE => dm_enable { s with io := watch_add_readq s.io ffs.bulk_out .ffs_outq } ffs.dm
    | .FUNCTIONFS_DISABLE => dm_disable s ffs.dm
    | .other => s

/-! ## Peripherals -/

inductive QrtrType
  | QRTR_TYPE_DATA
  | QRTR_TYPE_BYE
  | QRTR_TYPE_NEW_SERVER
  | QRTR_TYPE_DEL_SERVER
  | QRTR_TYPE_DEL_CLIENT
  | other
deriving DecidableEq, Repr

/-- A packet as `qrtr_decode` hands it over. -/
structure QrtrPacket where
  type : QrtrType
  node : Nat
  port : Nat
  data : List UInt8
deriving DecidableEq, Repr

/-- What a whole `struct non_hdlc_pkt` carries. -/
def non_hdlc_payload : List UInt8 → Option (List UInt8)
  | start :: version :: low :: high :: payload =>
    let length := low.toNat + 256 * high.toNat
    if start ≠ 0x7e ∨ version ≠ 1 then none
    else if payload.length < length + 1 then none
    else if payload[length]? ≠ some 0x7e then none
    else some (payload.take length)
  | _ => none

def qrtr_perif_init_subsystem (s : Router) (cntl_fd cmd_fd data_fd : Int) : Router :=
  let perif := s.peripherals.length
  let io := watch_add_readfd s.io cntl_fd none
  let io := watch_add_readfd io cmd_fd none
  let io := watch_add_readfd io data_fd (some perif)
  { s with io := io, peripherals := s.peripherals ++ [⟨cntl_fd,cmd_fd,data_fd,false,false⟩] }

/-- What `diag_cntl_recv` makes of a control packet is `pushed` to the
    peripheral's control queue. -/
def qrtr_cntl_recv (s : Router) (i : Nat) (pkt : QrtrPacket) (pushed : List (List UInt8)) : Router :=
  match s.peripherals[i]? with
  | none => s
  | some perif =>
    match pkt.type with
    | .QRTR_TYPE_DATA =>
      let io := if perif.cntl_open then s.io else watch_add_writeq s.io perif.cntl_fd (.cntlq i)
      { s with
        io := queue_all io (pushed.map (fun msg => (.cntlq i,msg)))
        peripherals := s.peripherals.set i { perif with cntl_open := true } }
    | .QRTR_TYPE_BYE =>
      { s with
        io := watch_remove_writeq s.io perif.cntl_fd
        peripherals := s.peripherals.set i { perif with cntl_open := false } }
    | _ => s

def qrtr_cmd_recv (s : Router) (i : Nat) (pkt : QrtrPacket) : Router :=
  match s.peripherals[i]? with
  | none => s
  | some perif =>
    match pkt.type with
    | .QRTR_TYPE_DATA =>
      match non_hdlc_payload pkt.data with
      | some payload => dm_broadcast s payload none
      | none => s
    | .QRTR_TYPE_NEW_SERVER =>
      if pkt.node = 0 ∧ pkt.port = 0 then s else { s with io := watch_add_writeq s.io perif.cmd_fd (.cmdq i) }
    | .QRTR_TYPE_DEL_SERVER => { s with io := watch_remove_writeq s.io perif.cmd_fd }
    | _ => s

def qrtr_data_recv (s : Router) (i : Nat) (pkt : QrtrPacket) : Router :=
  match s.peripherals[i]? with
  | none => s
  | some perif =>
    match pkt.type with
    | .QRTR_TYPE_DATA =>
      let io := if perif.data_open then s.io else watch_add_writeq s.io perif.data_fd (.dataq i)
      let opened := { s with io := io, peripherals := s.peripherals.set i { perif with data_open := true } }
      match non_hdlc_payload pkt.data with
      | some payload => dm_broadcast opened payload (some i)
      | none => opened
    | .QRTR_TYPE_BYE =>
      { s with
        io := watch_remove_writeq s.io perif.data_fd
        peripherals := s.peripherals.set i { perif with data_open := false } }
    | _ => s

/-! ## The main loop -/

/-- What the program does between the passes of asynchronous I/O. -/
inductive Call
  | dm_add (in_fd out_fd : Int) (is_encoded : Bool)
  | dm_enable (dm : Nat)
  | dm_disable (dm : Nat)
  | set_encode_type (type : EncodeType)
  | dm_broadcast (msg : List UInt8) (flow : Option Nat)
  | dm_recv_end (dm : Nat)
  | diag_usb_open (ep0 bulk_out bulk_in : Int)
  | ep0_recv (event : FunctionfsEvent)
  | qrtr_perif_init_subsystem (cntl_fd cmd_fd data_fd : Int)
  | qrtr_cntl_recv (perif : Nat) (pkt : QrtrPacket) (pushed : List (List UInt8))
  | qrtr_cmd_recv (perif : Nat) (pkt : QrtrPacket)
  | qrtr_data_recv (perif : Nat) (pkt : QrtrPacket)
  | queue_push (queue : Queue) (msg : List UInt8)
  | watch_remove_fd (fd : Int)
  | watch_remove_writeq (fd : Int)
deriving DecidableEq, Repr

def call (s : Router) : Call → Router
  | .dm_add in_fd out_fd is_encoded => dm_add s in_fd out_fd is_encoded
  | .dm_enable dm => dm_enable s dm
  | .dm_disable dm => dm_disable s dm
  | .set_encode_type type => set_encode_type s type
  | .dm_broadcast msg flow => dm_broadcast s msg flow
  | .dm_recv_end dm => dm_recv_end s dm
  | .diag_usb_open ep0 bulk_out bulk_in => diag_usb_open s ep0 bulk_out bulk_in
  | .ep0_recv event => ep0_recv s event
  | .qrtr_perif_init_subsystem cntl_fd cmd_fd data_fd => qrtr_perif_init_subsystem s cntl_fd cmd_fd data_fd
  | .qrtr_cntl_recv perif pkt pushed => qrtr_cntl_recv s perif pkt pushed
  | .qrtr_cmd_recv perif pkt => qrtr_cmd_recv s perif pkt
  | .qrtr_data_recv perif pkt => qrtr_data_recv s perif pkt
  | .queue_push queue msg => { s with io := queue_push s.io queue msg }
  | .watch_remove_fd fd => { s with io := watch_remove_fd s.io fd }
  | .watch_remove_writeq fd => { s with io := watch_remove_writeq s.io fd }

/-- The descriptor of which a call removes the asynchronous watches. -/
def removes (s : Router) : Call → Option Int
  | .dm_recv_end dm =>
    match s.diag_clients[dm]? with
    | none => none
    | some client => if client.encode_type = .RAW then some client.in_fd else none
  | .qrtr_cntl_recv i pkt _ =>
    match s.peripherals[i]?, pkt.type with
    | some perif, .QRTR_TYPE_BYE => some perif.cntl_fd
    | _, _ => none
  | .qrtr_cmd_recv i pkt =>
    match s.peripherals[i]?, pkt.type with
    | some perif, .QRTR_TYPE_DEL_SERVER => some perif.cmd_fd
    | _, _ => none
  | .qrtr_data_recv i pkt =>
    match s.peripherals[i]?, pkt.type with
    | some perif, .QRTR_TYPE_BYE => some perif.data_fd
    | _, _ => none
  | .watch_remove_fd fd => some fd
  | .watch_remove_writeq fd => some fd
  | _ => none

/-- The flow in which a call counts a message it broadcasts. -/
def broadcasts (s : Router) : Call → Option Nat
  | .dm_broadcast _ flow => flow
  | .qrtr_data_recv i pkt =>
    match s.peripherals[i]?, pkt.type with
    | some _, .QRTR_TYPE_DATA => (non_hdlc_payload pkt.data).map (fun _ => i)
    | _, _ => none
  | _ => none

inductive Action
  | call (c : Call)
  | submit_pass (accepted : Nat → Bool)
  | watch_handle_eventfd (replies : List Reply)

def step (s : Router) : Action → Except Fault Router
  | .call c => .ok (call s c)
  | .submit_pass accepted => (fun io => { s with io := io }) <$> submit_pass accepted s.io
  | .watch_handle_eventfd replies => (fun io => { s with io := io }) <$> watch_handle_eventfd s.io replies

end DiagRouter.Endpoints

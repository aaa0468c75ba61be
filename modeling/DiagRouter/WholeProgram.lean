import DiagRouter.NhdlcFallback
import DiagRouter.QueueGrowth
import DiagRouter.UsbEnable

/-!
# The whole program

The main loop with what its callbacks really do: the decoders, the handlers of
commands, and the control packets. They find the queues as the loop has left
them, and what they leave is queued. Each run of it is a run of the loop, whose
callbacks may queue anything; and a run of the clients that are read, to whom
all else may happen at any time.
-/
namespace DiagRouter.WholeProgram
open DiagRouter.Lib.Memory DiagRouter.Lib.Runs DiagRouter.Masks DiagRouter.Dispatch DiagRouter.Cntl
open DiagRouter.CircRead hiding EAGAIN
open DiagRouter.Watch hiding diag_ffs_recv aio_complete handle_event watch_handle_eventfd
open DiagRouter.Endpoints (FunctionfsEvent QrtrPacket QrtrType UsbHandle dm_recv_end)
open DiagRouter.MainLoop hiding Action step
open DiagRouter.UsbEnable (OthersQueues OneBuffer buffers reads_into reads_into_set)
open DiagRouter.Clients (EncodeType)
open DiagRouter.Handlers (Junk Request)
open DiagRouter.HdlcRecovery (Reader System encode_types)
open DiagRouter.NhdlcFallback (recv_end)
open DiagRouter.QueueGrowth
open DiagRouter.WriteStream (events queue_push_flow_queues)

/-- The loop, and what it does not know of: the tables, the features of each
    processor, and how far each client has been read. Those that `watch_run` is to
    call `diag_hdlc_reset` for are `timers`. -/
structure Program where
  loop : Loop
  masks : MaskTables
  diag_cmds : List (DiagCmd Nat)
  ids : DiagIds
  features : Nat → UInt32
  readers : Nat → Reader
  bad_cmd_counter : UInt32
  timers : List Nat

/-- The receiving side of a client, as `calloc` leaves it. -/
def no_reader : Reader := ⟨false,⟨fun _ => 0,0,0⟩⟩

def Program.start : Program := ⟨Loop.start,diag_masks_init,[],no_diag_ids,fun _ => 0,fun _ => no_reader,0,[]⟩

/-! ## What the handlers find -/

/-- The messages of a queue, without what the loop keeps next to them. -/
def messages (io : Watches) (queue : Queue) : List (List UInt8) := (io.queues queue).map Mbuf.data

def client_of (io : Watches) (dm : Nat) (client : Endpoints.DiagClient) : Clients.DiagClient :=
  ⟨client.encode_type,client.enabled,messages io (.outq dm)⟩

/-- A processor is never freed, and its place is its address. -/
def peripheral_of (s : Program) (i : Nat) (perif : Endpoints.Peripheral) : Peripherals.Peripheral :=
  ⟨i,s.features i,perif.cntl_fd,messages s.loop.router.io (.cmdq i),messages s.loop.router.io (.cntlq i),
    messages s.loop.router.io (.dataq i),.qrtr_perif_send⟩

def router_of (s : Program) : Handlers.Router :=
  { masks := s.masks
    diag_cmds := s.diag_cmds
    diag_ids := s.ids.diag_ids
    peripherals := s.loop.router.peripherals.mapIdx (peripheral_of s)
    diag_clients := s.loop.router.diag_clients.mapIdx (client_of s.loop.router.io) }

def system_of (s : Program) : System := ⟨router_of s,s.readers,s.bad_cmd_counter,s.timers⟩

/-- Nothing sets the id of a processor. -/
def cntl_of (s : Program) (i : Nat) (perif : Endpoints.Peripheral) : Cntl :=
  ⟨s.diag_cmds,s.ids,{ toPeripheral := peripheral_of s i perif, cmd_fd := perif.cmd_fd, sockets := true, diag_id := 0 }⟩

/-! ## What they leave -/

/-- The queue, with a buffer for each message behind those that it had. -/
def refilled (queue : List Mbuf) (msgs : List (List UInt8)) : List Mbuf :=
  queue ++ (msgs.drop queue.length).map (fun msg => ⟨msg,msg.length,none⟩)

/-- Queues of which nothing is left to say are as they were. -/
def refill (io : Watches) (left : Queue → Option (List (List UInt8))) : Watches :=
  { io with queues := fun queue => (left queue).elim (io.queues queue) (refilled (io.queues queue)) }

def left_in (router : Handlers.Router) : Queue → Option (List (List UInt8))
  | .outq dm => router.diag_clients[dm]?.map Clients.DiagClient.outq
  | .cmdq i => router.peripherals[i]?.map Peripherals.Peripheral.cmdq
  | .cntlq i => router.peripherals[i]?.map Peripherals.Peripheral.cntlq
  | .dataq i => router.peripherals[i]?.map Peripherals.Peripheral.dataq
  | .ffs_outq => none

def retype (diag_clients : List Endpoints.DiagClient) (types : List EncodeType) : List Endpoints.DiagClient :=
  diag_clients.zipWith (fun client type => { client with encode_type := type }) types

def left_by (s : Program) (t : System) : Program :=
  { s with
    loop := { s.loop with
      router := { s.loop.router with
        io := refill s.loop.router.io (left_in t.router)
        diag_clients := retype s.loop.router.diag_clients (encode_types t.router) } }
    masks := t.router.masks
    diag_cmds := t.router.diag_cmds
    ids := { s.ids with diag_ids := t.router.diag_ids }
    readers := t.readers
    bad_cmd_counter := t.bad_cmd_counter
    timers := t.timers }

def told_by (s : Program) (i : Nat) (t : Cntl) : Program :=
  { s with
    loop := { s.loop with
      router := { s.loop.router with
        io := refill s.loop.router.io (fun queue => if queue = .cntlq i then some t.peripheral.cntlq else none) } }
    diag_cmds := t.diag_cmds
    ids := t.ids
    features := Function.update s.features i t.peripheral.features }

def with_router (s : Program) (router : Endpoints.Router) : Program := { s with loop := { s.loop with router := router } }

def with_io (s : Program) (io : Watches) : Program := with_router s { s.loop.router with io := io }

/-! ## Callbacks -/

/-- What a callback reads: the bytes of a client, with what allocations leave in
    memory and what is behind each command; a packet, with the same; an event of
    USB; or nothing, when `recvfrom` or `qrtr_decode` fails. -/
inductive Reads
  | bytes (memory : Nat → Junk × Request) (fd : Fd)
  | packet (pkt : QrtrPacket) (junk : Nat → Nat → UInt8) (behind : Nat → UInt8)
  | event (event : FunctionfsEvent)
  | error

/-- The answer says whether the callback fails. -/
def dm_recv (memory : Nat → Junk × Request) (dm : Nat) (fd : Fd) (s : Program) : Except Fault (Bool × Program) :=
  recv_end dm fd (system_of s) >>= fun (ret,ended) =>
    (fun t =>
      let left := left_by s t
      (decide (ret < 0),if ended then with_router left (dm_recv_end left.loop.router dm) else left)) <$>
        HdlcRecovery.dm_recv memory dm fd (system_of s)

/-- The watches first, then the packets of the data. -/
def qrtr_cntl_recv (i : Nat) (pkt : QrtrPacket) (junk : Nat → Nat → UInt8) (behind : Nat → UInt8) (s : Program) :
    Except Fault Program :=
  let opened := with_router s (Endpoints.qrtr_cntl_recv s.loop.router i pkt [])
  match opened.loop.router.peripherals[i]? with
  | none => .ok opened
  | some perif =>
    if pkt.type = .QRTR_TYPE_DATA then
      told_by opened i <$> diag_cntl_recv junk s.masks (place pkt.data behind) pkt.data.length (cntl_of opened i perif)
    else .ok opened

def callback (fd : Int) (reads : Reads) (s : Program) : Except Fault (Bool × Program) :=
  match callback_of s.loop.router fd with
  | .dm_recv dm =>
    match reads with
    | .bytes memory input => dm_recv memory dm input s
    | _ => .ok (false,s)
  | .qrtr_cntl_recv i =>
    match reads with
    | .packet pkt junk behind => (fun t => (false,t)) <$> qrtr_cntl_recv i pkt junk behind s
    | .error => .ok (true,s)
    | _ => .ok (false,s)
  | .qrtr_cmd_recv i =>
    match reads with
    | .packet pkt _ _ => .ok (false,{ s with loop := relay s.loop (.qrtr_cmd_recv i pkt) })
    | .error => .ok (true,s)
    | _ => .ok (false,s)
  | .qrtr_data_recv i =>
    match reads with
    | .packet pkt _ _ => .ok (false,{ s with loop := relay s.loop (.qrtr_data_recv i pkt) })
    | .error => .ok (true,s)
    | _ => .ok (false,s)
  | .ep0_recv =>
    match reads with
    | .event event => .ok (false,{ s with loop := relay s.loop (.ep0_recv event) })
    | _ => .ok (false,s)

/-! ## Completions -/

/-- The kernel's answer to the operation at a place among those in flight. -/
structure Completion where
  place : Nat
  res : Int
deriving DecidableEq, Repr

def Completion.reply (pushed : List (Queue × List UInt8)) (completion : Completion) : Reply := ⟨completion.place,completion.res,pushed⟩

/-- `bytes` are those of USB's buffer, as the kernel has filled it. -/
def diag_ffs_recv (memory : Nat → Junk × Request) (bytes : List UInt8) (offset : Nat) (mbuf : Mbuf) (s : Program) :
    Except Fault Program :=
  match s.loop.router.ffs with
  | none => .error .nullPointer
  | some ffs =>
    (fun t =>
      let left := left_by s t
      with_io left { left.loop.router.io with
        queues := Function.update left.loop.router.io.queues .ffs_outq
          (left.loop.router.io.queues .ffs_outq ++ [{ mbuf with offset := 0 }]) }) <$>
      HdlcRecovery.diag_ffs_recv memory ffs.dm ⟨mbuf.data.length,offset,bytes⟩ (system_of s)

def aio_complete (memory : Nat → Junk × Request) (bytes : List UInt8) (w : AioWatch) (mbuf : Mbuf) (res : Int) (s : Program) :
    Except Fault Program :=
  if w.is_write then .ok (with_io s (watch_free_write_aio s.loop.router.io mbuf))
  else diag_ffs_recv memory bytes (if 0 ≤ res then res.toNat else mbuf.offset) mbuf s

/-- The watch at a place is done with its buffer. -/
def done (i : Nat) (w : AioWatch) (event : IoEvent) (io : Watches) : Watches :=
  { io with
    aio_watches := io.aio_watches.set i { w with pending_aio := none }
    completed := io.completed ++ [(w.id,event.obj.watch)] }

/-- One watch and one event. -/
def handle_event (memory : Nat → Junk × Request) (bytes : List UInt8) (s : Program) (turn : Nat × IoEvent) :
    Except Fault Program :=
  match s.loop.router.io.aio_watches[turn.1]? with
  | none => .ok s
  | some w =>
    if turn.2.obj.watch ∉ s.loop.router.io.aio_watches.map AioWatch.id then .error .freed
    else if turn.2.obj.aio_fildes ≠ w.fd then .ok s
    else
      match w.pending_aio with
      | none => .error .assertion
      | some mbuf =>
        if turn.2.res = -EAGAIN then .ok s
        else (fun t => with_io t (done turn.1 w turn.2 t.loop.router.io)) <$> aio_complete memory bytes w mbuf turn.2.res s

def watch_handle_eventfd (memory : Nat → Junk × Request) (bytes : List UInt8) (replies : List Completion) (s : Program) :
    Except Fault Program :=
  let (ev,left) := io_getevents s.loop.router.io.in_flight ((replies.map (Completion.reply [])).take 32)
  exec (handle_event memory bytes) (with_io s { s.loop.router.io with in_flight := left })
    ((List.range s.loop.router.io.aio_watches.length).flatMap (fun i => ev.map (fun event => (i,event))))

/-! ## Runs -/

inductive Action
  | opens (opening : Opening)
  | select (ready : List Int)
  | submit_pass (accepted : Nat → Bool)
  | diag_hdlc_reset (client : Nat)
  | watch_handle_eventfd (memory : Nat → Junk × Request) (bytes : List UInt8) (replies : List Completion)
  | callback (fd : Int) (reads : Reads)

/-- The turn of a descriptor has come. -/
def turned (s : Program) (fd : Int) : Program :=
  { s with loop := { s.loop with rfds := s.loop.rfds.filter (fun other => other ≠ fd) } }

/-- What is opened may be one more client. -/
def opened (s : Program) (loop : Loop) : Program :=
  { s with
    loop := loop
    readers := if loop.router.diag_clients.length = s.loop.router.diag_clients.length then s.readers
      else Function.update s.readers s.loop.router.diag_clients.length no_reader }

def step (s : Program) : Action → Except Fault Program
  | .opens opening => opened s <$> MainLoop.step s.loop (.opens opening)
  | .select ready => (fun loop => { s with loop := loop }) <$> MainLoop.step s.loop (.select ready)
  | .submit_pass accepted => (fun loop => { s with loop := loop }) <$> MainLoop.step s.loop (.submit_pass accepted)
  | .diag_hdlc_reset client => .ok (left_by s (HdlcRecovery.diag_hdlc_reset client (system_of s)))
  | .watch_handle_eventfd memory bytes replies => watch_handle_eventfd memory bytes replies s
  | .callback fd reads =>
    if fd ∈ s.loop.rfds then
      (fun (failed,t) => if failed then { t with loop := dropped t.loop fd } else t) <$>
        callback fd reads (turned s fd)
    else .ok s

section
variable {s t : Program} {io : Watches} {system : System} {dm : Nat}

/-! ## Queues -/

theorem refilled_messages {queue : List Mbuf} {msgs : List (List UInt8)} (grown : queue.map Mbuf.data <+: msgs) :
    (refilled queue msgs).map Mbuf.data = msgs := by
  obtain ⟨new,rfl⟩ := grown
  rw [refilled,List.map_append,List.map_map,List.drop_left' (List.length_map _)]
  congr 1
  exact List.map_id _

/-- A queue that grows is read back, and one that nothing is said of is as it was. -/
theorem refill_messages {left : Queue → Option (List (List UInt8))} {queue : Queue}
    (grown : ∀ msgs, left queue = some msgs → messages io queue <+: msgs) :
    messages (refill io left) queue = (left queue).getD (messages io queue) := by
  unfold messages refill
  dsimp only
  cases there : left queue with
  | none => rfl
  | some msgs => exact refilled_messages (grown msgs there)

theorem queue_all_eq (io : Watches) (pushed : List (Queue × List UInt8)) :
    queue_all io pushed = { io with
      queues := fun queue => io.queues queue ++
        ((pushed.filter (fun push => push.1 = queue)).map (fun push => ⟨push.2,push.2.length,none⟩)) } := by
  induction pushed generalizing io with
  | nil => simp [queue_all]
  | cons push pushed ih =>
    refine (ih (queue_push io push.1 push.2)).trans ?_
    congr 1
    funext queue
    rw [queue_push,queue_push_flow_queues,List.filter_cons,List.append_assoc]
    split_ifs with here there there
    · rfl
    · simp [here] at there
    · simp [here] at there
    · rfl

theorem filter_tagged {queues : List Queue} (distinct : queues.Nodup) (added : Queue → List (List UInt8)) (queue : Queue) :
    (queues.flatMap (fun q => (added q).map (fun msg => (q,msg)))).filter (fun push => push.1 = queue) =
      if queue ∈ queues then (added queue).map (fun msg => (queue,msg)) else [] := by
  induction queues with
  | nil => rfl
  | cons q queues ih =>
    obtain ⟨new,distinct⟩ := List.nodup_cons.mp distinct
    rw [List.flatMap_cons,List.filter_append,ih distinct]
    by_cases same : q = queue
    · subst same
      rw [if_neg new,if_pos List.mem_cons_self,List.append_nil,List.filter_eq_self]
      intro push member
      obtain ⟨msg,_,rfl⟩ := List.mem_map.mp member
      simp
    · have none_here : ((added q).map (fun msg => (q,msg))).filter (fun push => push.1 = queue) = [] := by
        rw [List.filter_eq_nil_iff]
        intro push member
        obtain ⟨msg,_,rfl⟩ := List.mem_map.mp member
        simpa using same
      rw [none_here,List.nil_append]
      simp [Ne.symm same]

/-- What is left of finitely many queues can be queued message by message. -/
theorem refill_pushed (io : Watches) {left : Queue → Option (List (List UInt8))} (queues : List Queue)
    (said : ∀ queue, left queue ≠ none → queue ∈ queues) :
    ∃ pushed, refill io left = queue_all io pushed ∧ ∀ push ∈ pushed, push.1 ∈ queues := by
  have tagged (queue : Queue) := filter_tagged queues.nodup_dedup
    (fun q => (left q).elim [] (fun msgs => msgs.drop (io.queues q).length)) queue
  refine ⟨queues.dedup.flatMap (fun q => ((left q).elim [] (fun msgs => msgs.drop (io.queues q).length)).map (fun msg => (q,msg))),?_,?_⟩
  · rw [queue_all_eq,refill]
    congr 1
    funext queue
    rw [tagged]
    cases there : left queue with
    | none => simp
    | some msgs =>
      rw [if_pos (List.mem_dedup.mpr (said queue (by simp [there])))]
      simp [refilled,Function.comp_def]
  · intro push member
    obtain ⟨queue,listed,mapped⟩ := List.mem_flatMap.mp member
    obtain ⟨msg,_,rfl⟩ := List.mem_map.mp mapped
    exact List.mem_dedup.mp listed

/-- The queues of the clients and the peripherals. -/
def queues_of (router : Handlers.Router) : List Queue :=
  (List.range router.diag_clients.length).map .outq ++ (List.range router.peripherals.length).flatMap (fun i => [.cmdq i,.cntlq i,.dataq i])

theorem left_in_queues (router : Handlers.Router) (queue : Queue) (said : left_in router queue ≠ none) : queue ∈ queues_of router := by
  have inside {α β : Type} {list : List α} {i : Nat} {field : α → β} (here : list[i]?.map field ≠ none) : i < list.length := by
    by_contra outside
    exact here (by rw [List.getElem?_eq_none (by omega)]; rfl)
  cases queue with
  | ffs_outq => exact absurd rfl said
  | outq dm => simp [queues_of,inside said]
  | _ => simp [queues_of,inside said]

theorem queues_of_others (router : Handlers.Router) : ∀ queue ∈ queues_of router, queue ≠ .ffs_outq := by
  rintro _ member rfl
  simp [queues_of] at member

/-! ## What the handlers leave is what they find -/

theorem forall₂_at {α β : Type} {R : α → β → Prop} {as : List α} {bs : List β} (each : List.Forall₂ R as bs) (i : Nat) :
    (as[i]? = none ∧ bs[i]? = none) ∨ ∃ a b, as[i]? = some a ∧ bs[i]? = some b ∧ R a b := by
  induction each generalizing i with
  | nil => exact .inl ⟨rfl,rfl⟩
  | cons here _ ih =>
    cases i with
    | zero => exact .inr ⟨_,_,rfl,rfl,here⟩
    | succ i => exact ih i

theorem router_of_types (s : Program) :
    encode_types (router_of s) = s.loop.router.diag_clients.map Endpoints.DiagClient.encode_type := by
  apply List.ext_getElem?
  intro i
  simp only [encode_types,router_of,List.getElem?_map,List.getElem?_mapIdx,Option.map_map]
  rfl

theorem retype_at (diag_clients : List Endpoints.DiagClient) (types : List EncodeType) (i : Nat) :
    (retype diag_clients types)[i]? =
      diag_clients[i]?.bind (fun client => types[i]?.map (fun type => { client with encode_type := type })) := by
  rw [retype,List.getElem?_zipWith]
  cases diag_clients[i]? with
  | none => rfl
  | some client =>
    cases types[i]? with
    | none => rfl
    | some type => rfl

theorem router_of_left (grown : Grown dm (router_of s) system.router) : router_of (left_by s system) = system.router := by
  have peripherals : (router_of (left_by s system)).peripherals = system.router.peripherals := by
    apply List.ext_getElem?
    intro i
    simp only [router_of,left_by,List.getElem?_mapIdx]
    rcases forall₂_at grown.peripherals i with ⟨none_before,none_after⟩ | ⟨before,after,found,there,grew⟩
    · simp only [router_of,List.getElem?_mapIdx,Option.map_eq_none_iff] at none_before
      rw [none_before,none_after]
      rfl
    · simp only [router_of,List.getElem?_mapIdx] at found
      obtain ⟨perif,known,rfl⟩ := Option.map_eq_some_iff.mp found
      have queue (which : Queue) (msgs : List (List UInt8)) (left : left_in system.router which = some msgs)
          (more : messages s.loop.router.io which <+: msgs) :
          messages (refill s.loop.router.io (left_in system.router)) which = msgs := by
        rw [refill_messages,left]
        · rfl
        · intro other same
          cases left.symm.trans same
          exact more
      have cmdq := queue (.cmdq i) after.cmdq (by simp [left_in,there]) grew.cmdq
      have cntlq := queue (.cntlq i) after.cntlq (by simp [left_in,there]) grew.cntlq
      have dataq := queue (.dataq i) after.dataq (by simp [left_in,there]) grew.dataq
      rw [known,there,Option.map_some,grew.same]
      simp only [peripheral_of,cmdq,cntlq,dataq]
  have clients : (router_of (left_by s system)).diag_clients = system.router.diag_clients := by
    apply List.ext_getElem?
    intro i
    simp only [router_of,left_by,List.getElem?_mapIdx,retype_at,encode_types,List.getElem?_map]
    rcases forall₂_at grown.clients i with ⟨none_before,none_after⟩ | ⟨before,after,found,there,grew⟩
    · simp only [router_of,List.getElem?_mapIdx,Option.map_eq_none_iff] at none_before
      rw [none_before,none_after]
      rfl
    · simp only [router_of,List.getElem?_mapIdx] at found
      obtain ⟨client,known,rfl⟩ := Option.map_eq_some_iff.mp found
      have outq : messages (refill s.loop.router.io (left_in system.router)) (.outq i) = after.outq := by
        have left : left_in system.router (.outq i) = some after.outq := by simp [left_in,there]
        rw [refill_messages,left]
        · rfl
        · intro other same
          cases left.symm.trans same
          exact grew.outq
      have enabled : after.enabled = client.enabled := grew.enabled
      rw [known,there]
      simp only [Option.map_some,Option.bind_some,client_of,outq,← enabled]
  show (⟨system.router.masks,system.router.diag_cmds,system.router.diag_ids,(router_of (left_by s system)).peripherals,
    (router_of (left_by s system)).diag_clients⟩ : Handlers.Router) = system.router
  rw [peripherals,clients]

/-- The handlers find what they left, in every part of what they know. -/
theorem system_of_left (grown : Grown dm (router_of s) system.router) : system_of (left_by s system) = system := by
  show (⟨router_of (left_by s system),system.readers,system.bad_cmd_counter,system.timers⟩ : System) = system
  rw [router_of_left grown]

/-- Control packets find what those before them have left, too. -/
theorem cntl_of_told {i : Nat} {perif : Endpoints.Peripheral} {junk : Nat → Nat → UInt8} {memory : Nat → UInt8} {n : Nat} {t : Cntl}
    (ran : diag_cntl_recv junk s.masks memory n (cntl_of s i perif) = .ok t) : cntl_of (told_by s i t) i perif = t := by
  obtain ⟨same,cntlq⟩ := cntl_recv_grown ran
  obtain ⟨diag_cmds,ids,peripheral⟩ := t
  have kept (queue : Queue) (other : queue ≠ .cntlq i) :
      messages (told_by s i ⟨diag_cmds,ids,peripheral⟩).loop.router.io queue = messages s.loop.router.io queue := by
    simp [told_by,messages,refill,other]
  have told : messages (told_by s i ⟨diag_cmds,ids,peripheral⟩).loop.router.io (.cntlq i) = peripheral.cntlq := by
    refine (refill_messages ?_).trans ?_
    · intro msgs left
      rw [if_pos rfl] at left
      cases left
      exact cntlq
    · rw [if_pos rfl]
      rfl
  have features : (told_by s i ⟨diag_cmds,ids,peripheral⟩).features i = peripheral.features := Function.update_self ..
  simp only [cntl_of,peripheral_of,told,features,kept _ (show Queue.cmdq i ≠ .cntlq i by simp),
    kept _ (show Queue.dataq i ≠ .cntlq i by simp)]
  exact congrArg (Cntl.mk diag_cmds ids) same.symm

/-! ## The type of each client -/

/-- The clients as they were, but for their types. -/
def Reframed (diag_clients after : List Endpoints.DiagClient) : Prop :=
  ∃ type : Nat → Endpoints.DiagClient → EncodeType,
    ∀ i, after[i]? = diag_clients[i]?.map (fun client : Endpoints.DiagClient => { client with encode_type := type i client })

theorem Reframed.refl (diag_clients : List Endpoints.DiagClient) : Reframed diag_clients diag_clients :=
  ⟨fun _ client => client.encode_type,fun _ => Option.map_id.symm ▸ rfl⟩

theorem Reframed.trans {before mid after : List Endpoints.DiagClient} (first : Reframed before mid) (second : Reframed mid after) :
    Reframed before after := by
  obtain ⟨type,at_first⟩ := first
  obtain ⟨later,at_second⟩ := second
  refine ⟨fun i client => later i { client with encode_type := type i client },fun i => ?_⟩
  rw [at_second,at_first,Option.map_map]
  rfl

theorem Reframed.retyped {before after : List Endpoints.DiagClient} (same : Reframed before after) :
    retype before (after.map Endpoints.DiagClient.encode_type) = after := by
  obtain ⟨type,there⟩ := same
  apply List.ext_getElem?
  intro i
  rw [retype_at,List.getElem?_map,there]
  cases before[i]? with
  | none => rfl
  | some client => rfl

/-- What a call of a client makes of the types: a packet of its own may be
    rejected, and after that a command may set every client. -/
def framed (s : Loop) (dm : Nat) (rejected hdlc_disable : Bool) : Loop :=
  let first := if rejected then recovered s dm else s
  if hdlc_disable then relay first (.set_encode_type .NHDLC) else first

def framed_types (types : List EncodeType) (dm : Nat) (rejected hdlc_disable : Bool) : List EncodeType :=
  let first := if rejected then types.modify dm (fun type => if type = .RAW then type else .HDLC) else types
  if hdlc_disable then HdlcRecovery.retyped .NHDLC first else first

theorem set_reframed (s : Loop) (type : EncodeType) :
    Reframed s.router.diag_clients (relay s (.set_encode_type type)).router.diag_clients := by
  refine ⟨fun _ client => if client.encode_type = .RAW then client.encode_type else type,fun i => ?_⟩
  refine (List.getElem?_map ..).trans ?_
  congr 1
  funext client
  dsimp only
  split_ifs <;> rfl

theorem set_typed (s : Loop) (type : EncodeType) :
    (relay s (.set_encode_type type)).router.diag_clients.map Endpoints.DiagClient.encode_type =
      HdlcRecovery.retyped type (s.router.diag_clients.map Endpoints.DiagClient.encode_type) := by
  simp only [relay,Endpoints.call,Endpoints.set_encode_type,HdlcRecovery.retyped,List.map_map]
  refine List.map_congr_left ?_
  intro client _
  by_cases raw : client.encode_type = .RAW <;> simp [raw]

theorem framed_reframed (s : Loop) (dm : Nat) (rejected hdlc_disable : Bool) :
    Reframed s.router.diag_clients (framed s dm rejected hdlc_disable).router.diag_clients := by
  have one (s : Loop) : Reframed s.router.diag_clients (recovered s dm).router.diag_clients := by
    refine ⟨fun i client => if dm = i ∧ client.encode_type ≠ .RAW then .HDLC else client.encode_type,fun i => ?_⟩
    rw [recovered_at]
    congr 1
    funext client
    dsimp only
    split_ifs <;> rfl
  cases rejected with
  | false =>
    cases hdlc_disable with
    | false => exact .refl _
    | true => exact set_reframed s .NHDLC
  | true =>
    cases hdlc_disable with
    | false => exact one s
    | true => exact (one s).trans (set_reframed (recovered s dm) .NHDLC)

theorem framed_typed (s : Loop) (dm : Nat) (rejected hdlc_disable : Bool) :
    (framed s dm rejected hdlc_disable).router.diag_clients.map Endpoints.DiagClient.encode_type =
      framed_types (s.router.diag_clients.map Endpoints.DiagClient.encode_type) dm rejected hdlc_disable := by
  have one (s : Loop) : (recovered s dm).router.diag_clients.map Endpoints.DiagClient.encode_type =
      (s.router.diag_clients.map Endpoints.DiagClient.encode_type).modify dm (fun type => if type = .RAW then type else .HDLC) := by
    apply List.ext_getElem?
    intro i
    rw [List.getElem?_map,recovered_at,List.getElem?_modify,List.getElem?_map]
    cases s.router.diag_clients[i]? with
    | none => rfl
    | some client => by_cases own : dm = i <;> by_cases raw : client.encode_type = .RAW <;> simp [own,raw]
  cases rejected with
  | false =>
    cases hdlc_disable with
    | false => rfl
    | true => exact set_typed s .NHDLC
  | true =>
    cases hdlc_disable with
    | false => exact one s
    | true => exact (set_typed (recovered s dm) .NHDLC).trans (congrArg (HdlcRecovery.retyped .NHDLC) (one s))

theorem called_types {t : System} {rings : CircBuf → Prop} (called : HdlcRecovery.Called system dm rings t) :
    ∃ rejected hdlc_disable, encode_types t.router = framed_types (encode_types system.router) dm rejected hdlc_disable := by
  have commands {types after : List EncodeType} (commanded : HdlcRecovery.Commanded types after) (rejected : Bool)
      (first : types = framed_types (encode_types system.router) dm rejected false) :
      ∃ hdlc_disable, after = framed_types (encode_types system.router) dm rejected hdlc_disable := by
    rcases commanded with rfl | rfl
    · exact ⟨false,first⟩
    · exact ⟨true,congrArg (HdlcRecovery.retyped .NHDLC) first⟩
  cases called with
  | commands commanded timers => exact ⟨false,commands commanded false rfl⟩
  | @decoded client found after recv_buf memory msgs present mode flag ring called ran =>
    obtain ⟨commanded,_⟩ := HdlcRecovery.handled_types ran
    have left : encode_types (HdlcRecovery.left_by system dm { after with recv_buf := recv_buf }).router =
        (encode_types system.router).modify dm (fun _ => after.encode_type) := by
      apply List.ext_getElem?
      intro i
      simp only [HdlcRecovery.left_by,encode_types,List.getElem?_map,List.getElem?_modify]
      cases system.router.diag_clients[i]? with
      | none => rfl
      | some other => by_cases own : dm = i <;> simp [own]
    have was : (encode_types system.router)[dm]? = some client.encode_type := HdlcRecovery.type_of_present present
    rcases (HdlcRecovery.decode_data_mode called).1 with same | ⟨encoded,set⟩
    · refine ⟨false,commands commanded false (left.trans ?_)⟩
      apply List.ext_getElem?
      intro i
      rw [List.getElem?_modify]
      by_cases own : dm = i
      · subst own
        simp [was,same,mode,framed_types]
      · simp [own,framed_types]
    · refine ⟨true,commands commanded true (left.trans ?_)⟩
      apply List.ext_getElem?
      intro i
      simp only [framed_types,Bool.false_eq_true,if_false,if_true,List.getElem?_modify]
      by_cases own : dm = i
      · subst own
        simp [was,set,← mode,encoded]
      · simp [own]

/-! ## Runs of the loop and of its clients -/

/-- The loop goes from one state to another, and only USB queues its buffer. -/
abbrev Loops (before after : Loop) : Prop := Leads MainLoop.step OthersQueues before after

abbrev Systems (before after : System) : Prop := Leads HdlcRecovery.step (fun _ => True) before after

/-- Anything may happen elsewhere that leaves types, readers and timers alone. -/
theorem systems_elsewhere {t : System} (types : encode_types t.router = encode_types system.router)
    (readers : t.readers = system.readers) (counter : t.bad_cmd_counter = system.bad_cmd_counter)
    (timers : t.timers = system.timers) : Systems system t := by
  obtain ⟨⟨masks,diag_cmds,diag_ids,peripherals,diag_clients⟩,_,_,_⟩ := t
  cases readers
  cases counter
  cases timers
  refine .one (.elsewhere masks diag_cmds diag_ids peripherals
    (fun i => (diag_clients[i]?).elim (false,[]) (fun dm => (dm.enabled,dm.outq)))) trivial ?_
  have clients : system.router.diag_clients.mapIdx (fun i dm => { dm with
      enabled := ((diag_clients[i]?).elim (false,[]) (fun dm => (dm.enabled,dm.outq))).1
      outq := ((diag_clients[i]?).elim (false,[]) (fun dm => (dm.enabled,dm.outq))).2 }) = diag_clients := by
    apply List.ext_getElem?
    intro i
    have here : diag_clients[i]?.map Clients.DiagClient.encode_type =
        system.router.diag_clients[i]?.map Clients.DiagClient.encode_type := by
      rw [← List.getElem?_map,← List.getElem?_map]
      exact congrArg (fun types => types[i]?) types
    rw [List.getElem?_mapIdx]
    cases was : system.router.diag_clients[i]? with
    | none =>
      rw [was] at here
      exact (Option.map_eq_none_iff.mp here).symm
    | some dm =>
      rw [was] at here
      obtain ⟨after,there,same⟩ := Option.map_eq_some_iff.mp here
      rw [there]
      simp [← same]
  rw [HdlcRecovery.step,clients]

theorem relay_pushed (s : Loop) (pushed : List (Queue × List UInt8)) :
    (pushed.map (fun push => Endpoints.Call.queue_push push.1 push.2)).foldl relay s =
      { s with router := { s.router with io := queue_all s.router.io pushed } } := by
  induction pushed generalizing s with
  | nil => rfl
  | cons push pushed ih => exact ih (relay s (.queue_push push.1 push.2))

/-- What the handlers of a client's commands leave, by what they queue and what
    they make of the types. -/
theorem left_loop {t : System} {rejected hdlc_disable : Bool}
    (types : encode_types t.router = framed_types (encode_types (router_of s)) dm rejected hdlc_disable) :
    ∃ pushed, (∀ push ∈ pushed, push.1 ≠ .ffs_outq) ∧ (left_by s t).loop =
      { framed s.loop dm rejected hdlc_disable with router := { (framed s.loop dm rejected hdlc_disable).router with
        io := queue_all s.loop.router.io pushed } } := by
  obtain ⟨pushed,queued,listed⟩ := refill_pushed s.loop.router.io (queues_of t.router) (left_in_queues t.router)
  refine ⟨pushed,fun push member => queues_of_others t.router _ (listed push member),?_⟩
  have clients : retype s.loop.router.diag_clients (encode_types t.router) =
      (framed s.loop dm rejected hdlc_disable).router.diag_clients := by
    rw [types,router_of_types,← framed_typed]
    exact (framed_reframed s.loop dm rejected hdlc_disable).retyped
  unfold left_by
  rw [queued,clients]
  cases rejected <;> cases hdlc_disable <;> rfl

/-! ## Callbacks of clients -/

theorem recovered_callback (s : Loop) (dm : Nat) (fd : Int) : callback_of (recovered s dm).router fd = callback_of s.router fd := by
  have in_fds : (recovered s dm).router.diag_clients.map Endpoints.DiagClient.in_fd =
      s.router.diag_clients.map Endpoints.DiagClient.in_fd := by
    apply List.ext_getElem?
    intro i
    rw [List.getElem?_map,List.getElem?_map,recovered_at]
    cases s.router.diag_clients[i]? with
    | none => rfl
    | some client =>
      simp only [Option.map_some]
      split_ifs <;> rfl
  have first (clients : List Endpoints.DiagClient) : clients.findIdx? (fun client => client.in_fd = fd) =
      (clients.map Endpoints.DiagClient.in_fd).findIdx? (fun in_fd => in_fd = fd) := by
    rw [List.findIdx?_map]
    rfl
  unfold callback_of
  rw [first,in_fds,← first]
  rfl

theorem rejected_loops (s : Loop) (dm : Nat) (rejected : Bool) : Loops s (if rejected then recovered s dm else s) := by
  cases rejected with
  | false => exact .refl s
  | true => exact .one (.diag_start_hdlc_recovery dm) trivial rfl

/-- A call of a client as the loop does it. -/
theorem commands_loops {s : Loop} {fd : Int} (selected : fd ∈ s.rfds) (called : callback_of s.router fd = .dm_recv dm)
    {pushed : List (Queue × List UInt8)} (others : ∀ push ∈ pushed, push.1 ≠ .ffs_outq) (rejected hdlc_disable ended failed : Bool)
    {left : Loop} (loop : left = { framed s dm rejected hdlc_disable with
      router := { (framed s dm rejected hdlc_disable).router with io := queue_all s.router.io pushed }
      rfds := s.rfds.filter (fun other => other ≠ fd) }) :
    Loops s (let after := if ended then relay left (.dm_recv_end dm) else left
      if failed then dropped after fd else after) := by
  subst loop
  refine (rejected_loops s dm rejected).trans (.one (.callback fd (.commands pushed hdlc_disable ended) failed) others ?_)
  have still : fd ∈ (if rejected then recovered s dm else s).rfds ∧
      callback_of (if rejected then recovered s dm else s).router fd = .dm_recv dm := by
    cases rejected with
    | false => exact ⟨selected,called⟩
    | true => exact ⟨selected,(recovered_callback s dm fd).trans called⟩
  rw [MainLoop.step,if_pos still.1,still.2]
  simp only [Callback.calls,List.foldl_append,relay_pushed]
  cases rejected <;> cases hdlc_disable <;> cases ended <;> cases failed <;> rfl

theorem left_by_grown (system : System) (dm : Nat) (after : NhdlcStream.DiagClient) :
    Grown dm system.router (HdlcRecovery.left_by system dm after).router := by
  refine ⟨rfl,rfl,peripherals_refl _,?_,?_⟩
  · rw [List.forall₂_iff_get]
    refine ⟨by simp [HdlcRecovery.left_by],?_⟩
    intro i inside there
    simp only [HdlcRecovery.left_by,List.get_eq_getElem,List.getElem_modify]
    split_ifs
    · exact ⟨rfl,List.prefix_rfl⟩
    · exact .refl _
  · intro i other
    simp only [HdlcRecovery.left_by,List.getElem?_modify,if_neg (Ne.symm other)]
    exact congrArg _ Option.map_id'

theorem handled_grown {t : System} {memory : Nat → Junk × Request} {commands : List Hdlc.Message}
    (ran : HdlcRecovery.handled dm memory system commands = .ok t) : Grown dm system.router t.router := by
  obtain ⟨router,handled,rfl⟩ := map_eq_ok.mp ran
  exact handle_commands_grows router handled

theorem dm_recv_grown {t : System} {memory : Nat → Junk × Request} {input : Fd}
    (ran : HdlcRecovery.dm_recv memory dm input system = .ok t) : Grown dm system.router t.router := by
  unfold HdlcRecovery.dm_recv at ran
  split at ran
  · cases ran
    exact .refl dm _
  · split_ifs at ran
    · exact handled_grown ran
    · obtain ⟨⟨after,commands⟩,_,ran⟩ := bind_eq_ok.mp ran
      exact (left_by_grown system dm after).trans (handled_grown ran)

theorem diag_ffs_recv_grown {t : System} {memory : Nat → Junk × Request} {mbuf : NhdlcDatagram.MbufBlock}
    (ran : HdlcRecovery.diag_ffs_recv memory dm mbuf system = .ok t) : Grown dm system.router t.router := by
  unfold HdlcRecovery.diag_ffs_recv at ran
  split at ran
  · cases ran
    exact .refl dm _
  · obtain ⟨recv_buf,_,ran⟩ := bind_eq_ok.mp ran
    obtain ⟨⟨after,commands⟩,_,ran⟩ := bind_eq_ok.mp ran
    exact (left_by_grown system dm _).trans (handled_grown ran)

/-- The clients find the same while only USB's queue changes. -/
theorem system_of_io (s : Program) (same : ∀ queue, queue ≠ .ffs_outq → io.queues queue = s.loop.router.io.queues queue) :
    system_of (with_io s io) = system_of s := by
  have messages_same (queue : Queue) (other : queue ≠ .ffs_outq) : messages io queue = messages s.loop.router.io queue := by
    rw [messages,same queue other,messages]
  have peripherals (i : Nat) (perif : Endpoints.Peripheral) : peripheral_of (with_io s io) i perif = peripheral_of s i perif := by
    simp [peripheral_of,with_io,with_router,messages_same]
  have clients (i : Nat) (client : Endpoints.DiagClient) : client_of io i client = client_of s.loop.router.io i client := by
    simp [client_of,messages_same]
  have router : router_of (with_io s io) = router_of s := by
    unfold router_of
    congr 1
    · exact congrArg (fun f => s.loop.router.peripherals.mapIdx f) (funext₂ peripherals)
    · exact congrArg (fun f => s.loop.router.diag_clients.mapIdx f) (funext₂ clients)
  rw [system_of,router]
  rfl

/-- The end of a stream takes watches away only. -/
theorem system_of_end (s : Program) (dm : Nat) : system_of (with_router s (dm_recv_end s.loop.router dm)) = system_of s := by
  unfold dm_recv_end
  split
  · rfl
  · split_ifs
    · exact system_of_io s fun _ _ => rfl
    · rfl

theorem dm_recv_leads {s t : Program} {fd : Int} (selected : fd ∈ s.loop.rfds) (called : callback_of s.loop.router fd = .dm_recv dm)
    {memory : Nat → Junk × Request} {input : Fd} {failed : Bool}
    (ran : dm_recv memory dm input (turned s fd) = .ok (failed,t)) :
    Loops s.loop (if failed then dropped t.loop fd else t.loop) ∧ Systems (system_of s) (system_of t) := by
  obtain ⟨⟨ret,ended⟩,_,ran⟩ := bind_eq_ok.mp ran
  obtain ⟨system,handled,same⟩ := map_eq_ok.mp ran
  obtain ⟨rejected,hdlc_disable,types⟩ := called_types (HdlcRecovery.dm_recv_called handled)
  obtain ⟨pushed,others,left⟩ := left_loop types
  have loops := commands_loops selected called others rejected hdlc_disable ended failed (left.trans (by
    cases rejected <;> cases hdlc_disable <;> rfl))
  have there := system_of_left (dm_recv_grown handled)
  have systems : Systems (system_of s) system := .one (.dm_recv memory dm input) trivial handled
  cases ended with
  | false =>
    cases same
    refine ⟨loops,?_⟩
    rw [if_neg (by decide),there]
    exact systems
  | true =>
    cases same
    refine ⟨loops,?_⟩
    rw [if_pos rfl,system_of_end,there]
    exact systems

/-! ## Callbacks of packets and events -/

/-- What a packet or an event makes of the router is no matter of types. -/
theorem callback_types (s : Endpoints.Router) {callback : Callback} {input : Input} {c : Endpoints.Call}
    (member : c ∈ callback.calls input) (other : ∀ dm, callback ≠ .dm_recv dm) :
    (Endpoints.call s c).diag_clients.map Endpoints.DiagClient.encode_type =
      s.diag_clients.map Endpoints.DiagClient.encode_type := by
  cases callback with
  | dm_recv dm => exact absurd rfl (other dm)
  | qrtr_cntl_recv i =>
    cases input with
    | packet pkt pushed =>
      rw [List.mem_singleton.mp member,Endpoints.call,Endpoints.qrtr_cntl_recv]
      split
      · rfl
      · split <;> rfl
    | _ => cases member
  | qrtr_cmd_recv i =>
    cases input with
    | packet pkt pushed =>
      rw [List.mem_singleton.mp member,Endpoints.call,Endpoints.qrtr_cmd_recv]
      split
      · rfl
      · split
        · split <;> rfl
        · split_ifs <;> rfl
        · rfl
        · rfl
    | _ => cases member
  | qrtr_data_recv i =>
    cases input with
    | packet pkt pushed =>
      rw [List.mem_singleton.mp member,Endpoints.call,Endpoints.qrtr_data_recv]
      split
      · rfl
      · split
        · dsimp only
          split <;> rfl
        · rfl
        · rfl
    | _ => cases member
  | ep0_recv =>
    cases input with
    | event event =>
      have set (clients : List Endpoints.DiagClient) (dm : Nat) (enabled : Bool) :
          (clients.modify dm (fun client => { client with enabled := enabled })).map Endpoints.DiagClient.encode_type =
            clients.map Endpoints.DiagClient.encode_type := by
        apply List.ext_getElem?
        intro i
        rw [List.getElem?_map,List.getElem?_modify,List.getElem?_map]
        cases clients[i]? with
        | none => rfl
        | some client => by_cases own : dm = i <;> simp [own]
      rw [List.mem_singleton.mp member,Endpoints.call,Endpoints.ep0_recv]
      split
      · rfl
      · split
        · exact set _ _ true
        · exact set _ _ false
        · rfl
    | _ => cases member

/-- A callback that queues no commands, as the loop does it. -/
theorem relayed_leads {s t : Program} {fd : Int} {callback : Callback} (input : Input) {failed : Bool}
    (selected : fd ∈ s.loop.rfds) (called : callback_of s.loop.router fd = callback) (other : ∀ dm, callback ≠ .dm_recv dm)
    (others : OthersQueues (.callback fd input failed))
    (loop : t.loop = (callback.calls input).foldl relay (turned s fd).loop) (readers : t.readers = s.readers)
    (counter : t.bad_cmd_counter = s.bad_cmd_counter) (timers : t.timers = s.timers) :
    Loops s.loop (if failed then dropped t.loop fd else t.loop) ∧ Systems (system_of s) (system_of t) := by
  constructor
  · refine .one (.callback fd input failed) others ?_
    rw [MainLoop.step,if_pos selected,called,loop]
    cases failed <;> rfl
  · refine systems_elsewhere ?_ readers counter timers
    show encode_types (router_of t) = encode_types (router_of s)
    rw [router_of_types,router_of_types,loop]
    have all (calls : List Endpoints.Call) (listed : calls ⊆ callback.calls input) (u : Loop) :
        (calls.foldl relay u).router.diag_clients.map Endpoints.DiagClient.encode_type =
          u.router.diag_clients.map Endpoints.DiagClient.encode_type := by
      induction calls generalizing u with
      | nil => rfl
      | cons c calls ih =>
        exact (ih (fun d member => listed (List.mem_cons_of_mem c member)) (relay u c)).trans
          (callback_types u.router (listed List.mem_cons_self) other)
    exact all _ (List.Subset.refl _) _

/-- A callback that finds nothing to read, or fails to. -/
theorem nothing_leads {s : Program} {fd : Int} (selected : fd ∈ s.loop.rfds) (failed : Bool) :
    Loops s.loop (if failed then dropped (turned s fd).loop fd else (turned s fd).loop) ∧
      Systems (system_of s) (system_of (turned s fd)) := by
  have none_called : (callback_of s.loop.router fd).calls .nothing = [] := by
    cases callback_of s.loop.router fd <;> rfl
  refine ⟨.one (.callback fd .nothing failed) trivial ?_,.refl _⟩
  rw [MainLoop.step,if_pos selected,none_called]
  cases failed <;> rfl

/-- A control packet as the loop does it: it queues what its peripheral is told. -/
theorem cntl_recv_loop {s t : Program} {i : Nat} {pkt : QrtrPacket} {junk : Nat → Nat → UInt8} {behind : Nat → UInt8}
    (ran : qrtr_cntl_recv i pkt junk behind s = .ok t) :
    (∃ pushed, t.loop = relay s.loop (.qrtr_cntl_recv i pkt pushed)) ∧ t.readers = s.readers ∧
      t.bad_cmd_counter = s.bad_cmd_counter ∧ t.timers = s.timers := by
  unfold qrtr_cntl_recv at ran
  dsimp only at ran
  split at ran
  · cases ran
    exact ⟨⟨[],rfl⟩,rfl,rfl,rfl⟩
  · rename_i perif found
    split_ifs at ran with data
    · obtain ⟨told,_,rfl⟩ := map_eq_ok.mp ran
      refine ⟨?_,rfl,rfl,rfl⟩
      cases there : s.loop.router.peripherals[i]? with
      | none =>
        simp only [with_router,Endpoints.qrtr_cntl_recv,there] at found
        cases found
      | some was =>
        have only (queue : Queue) (said : (if queue = .cntlq i then some told.peripheral.cntlq else none) ≠ none) : queue ∈ [.cntlq i] := by
          simpa using said
        obtain ⟨pushed,queued,listed⟩ := refill_pushed (Endpoints.qrtr_cntl_recv s.loop.router i pkt []).io [.cntlq i] only
        have tagged : (pushed.map Prod.snd).map (fun msg => (Queue.cntlq i,msg)) = pushed := by
          rw [List.map_map]
          refine (List.map_congr_left ?_).trans (List.map_id _)
          intro push member
          exact Prod.ext (List.mem_singleton.mp (listed push member)).symm rfl
        refine ⟨pushed.map Prod.snd,?_⟩
        unfold told_by
        dsimp only [with_router]
        rw [queued]
        simp only [relay,Endpoints.call,Endpoints.qrtr_cntl_recv,there,data,tagged]
        rfl
    · cases ran
      refine ⟨⟨[],rfl⟩,rfl,rfl,rfl⟩

theorem callback_leads {s t : Program} {fd : Int} {reads : Reads} {failed : Bool} (selected : fd ∈ s.loop.rfds)
    (ran : callback fd reads (turned s fd) = .ok (failed,t)) :
    Loops s.loop (if failed then dropped t.loop fd else t.loop) ∧ Systems (system_of s) (system_of t) := by
  unfold callback at ran
  split at ran
  · rename_i dm called
    split at ran
    · exact dm_recv_leads selected called ran
    · cases ran
      exact nothing_leads selected _
  · rename_i i called
    split at ran
    · obtain ⟨told,received,same⟩ := map_eq_ok.mp ran
      cases same
      obtain ⟨⟨pushed,loop⟩,readers,counter,timers⟩ := cntl_recv_loop received
      exact relayed_leads (.packet _ pushed) selected called (by simp) trivial loop readers counter timers
    · cases ran
      exact nothing_leads selected _
    · cases ran
      exact nothing_leads selected _
  · rename_i i called
    split at ran
    · cases ran
      exact relayed_leads (.packet _ []) selected called (by simp) trivial rfl rfl rfl rfl
    · cases ran
      exact nothing_leads selected _
    · cases ran
      exact nothing_leads selected _
  · rename_i i called
    split at ran
    · cases ran
      exact relayed_leads (.packet _ []) selected called (by simp) trivial rfl rfl rfl rfl
    · cases ran
      exact nothing_leads selected _
    · cases ran
      exact nothing_leads selected _
  · rename_i called
    split at ran
    · cases ran
      exact relayed_leads (.event _) selected called (by simp) trivial rfl rfl rfl rfl
    · cases ran
      exact nothing_leads selected _

/-! ## Completions -/

/-- The event, with what the commands it brings queue. -/
def telling (pushed : List (Queue × List UInt8)) (turn : Nat × IoEvent) : Nat × IoEvent := (turn.1,{ turn.2 with pushed := pushed })

/-- A turn as the loop takes it. -/
def turn_of (io : Watches) (turn : Nat × IoEvent) : Except Fault Watches := Watch.handle_event turn.1 io turn.2

/-- The watches after a turn that calls no handler, whatever the event would
    have queued. -/
structure Quiet (s : Program) (turns : List (Nat × IoEvent)) (t : Program) : Prop where
  same : t = with_io s t.loop.router.io
  queues : t.loop.router.io.queues = s.loop.router.io.queues
  reads : t.loop.router.io.aio_watches.countP reads_into ≤ s.loop.router.io.aio_watches.countP reads_into
  turns : ∀ pushed, exec turn_of s.loop.router.io (turns.map (telling pushed)) = .ok t.loop.router.io

theorem Quiet.refl (s : Program) : Quiet s [] s := ⟨rfl,rfl,le_rfl,fun _ => rfl⟩

theorem Quiet.trans {s t u : Program} {turns later : List (Nat × IoEvent)} (first : Quiet s turns t) (second : Quiet t later u) :
    Quiet s (turns ++ later) u := by
  refine ⟨?_,second.queues.trans first.queues,second.reads.trans first.reads,fun pushed => ?_⟩
  · calc u = with_io t u.loop.router.io := second.same
      _ = with_io (with_io s t.loop.router.io) u.loop.router.io := congrArg (fun v => with_io v u.loop.router.io) first.same
  · rw [List.map_append,exec_append,first.turns pushed]
    exact second.turns pushed

/-- Turns are quiet, or one of them is that of a read of USB. -/
inductive Turned (memory : Nat → Junk × Request) (bytes : List UInt8) (s : Program) (turns : List (Nat × IoEvent)) (t : Program) : Prop
  | quiet (quiet : Quiet s turns t)
  | usb {ffs : UsbHandle} {size offset : Nat} {system : System} {pushed : List (Queue × List UInt8)}
      (handled : HdlcRecovery.diag_ffs_recv memory ffs.dm ⟨size,offset,bytes⟩ (system_of s) = .ok system)
      (same : t = with_io (left_by s system) t.loop.router.io)
      (queues : ∀ queue, queue ≠ .ffs_outq → t.loop.router.io.queues queue = (left_by s system).loop.router.io.queues queue)
      (reads : t.loop.router.io.aio_watches.countP reads_into < s.loop.router.io.aio_watches.countP reads_into)
      (others : ∀ push ∈ pushed, push.1 ≠ .ffs_outq)
      (turned : exec turn_of s.loop.router.io (turns.map (telling pushed)) = .ok t.loop.router.io)

theorem handle_event_turned {t : Program} {memory : Nat → Junk × Request} {bytes : List UInt8} {turn : Nat × IoEvent}
    {out_fds : List Int} (placed : FlowControl.Placed out_fds s.loop.router.io) (ran : handle_event memory bytes s turn = .ok t) :
    Turned memory bytes s [turn] t := by
  unfold handle_event at ran
  have still (event : ∀ pushed, turn_of s.loop.router.io (telling pushed turn) = .ok s.loop.router.io) :
      Turned memory bytes s [turn] s := by
    refine .quiet ⟨rfl,rfl,le_rfl,fun pushed => ?_⟩
    rw [List.map_singleton,exec_cons,event]
    rfl
  cases found : s.loop.router.io.aio_watches[turn.1]? with
  | none =>
    rw [found] at ran
    cases ran
    exact still fun pushed => by simp [turn_of,telling,Watch.handle_event,found]
  | some w =>
    rw [found] at ran
    dsimp only at ran
    cases pending : w.pending_aio with
    | none =>
      rw [pending] at ran
      dsimp only at ran
      split_ifs at ran with gone other
      cases ran
      exact still fun pushed => by simp [turn_of,telling,Watch.handle_event,found,gone,other]
    | some mbuf =>
      rw [pending] at ran
      dsimp only at ran
      split_ifs at ran with gone other again
      · cases ran
        exact still fun pushed => by simp [turn_of,telling,Watch.handle_event,found,gone,other]
      · cases ran
        exact still fun pushed => by simp [turn_of,telling,Watch.handle_event,found,gone,other,pending,again]
      · obtain ⟨u,completed,rfl⟩ := map_eq_ok.mp ran
        have event (pushed : List (Queue × List UInt8)) : turn_of s.loop.router.io (telling pushed turn) =
            .ok { Watch.aio_complete s.loop.router.io w mbuf { turn.2 with pushed := pushed } with
              aio_watches := s.loop.router.io.aio_watches.set turn.1 { w with pending_aio := none }
              completed := s.loop.router.io.completed ++ [(w.id,turn.2.obj.watch)] } := by
          simp [turn_of,telling,Watch.handle_event,found,gone,other,pending,again]
        have count := reads_into_set found { w with pending_aio := none }
        have idle : reads_into { w with pending_aio := none } = false := by simp [reads_into]
        rw [idle] at count
        simp only [Bool.false_eq_true,if_false,Nat.add_zero] at count
        rw [aio_complete] at completed
        by_cases write : w.is_write = true
        · rw [if_pos write] at completed
          cases completed
          refine .quiet ⟨rfl,rfl,?_,fun pushed => ?_⟩
          · dsimp only [with_io,with_router,done,watch_free_write_aio]
            omega
          · rw [List.map_singleton,exec_cons,event,Watch.aio_complete,if_pos write]
            rfl
        · rw [if_neg write,diag_ffs_recv] at completed
          split at completed
          · cases completed
          · obtain ⟨system,handled,rfl⟩ := map_eq_ok.mp completed
            -- The event of the abstract machine is told what the handler queued.
            obtain ⟨pushed,queued,listed⟩ := refill_pushed s.loop.router.io (queues_of system.router) (left_in_queues system.router)
            have same := queue_all_same s.loop.router.io pushed
            have usb := (placed.read_watch w (List.mem_of_getElem? found) (by simpa using write)).1
            have reads : reads_into w = true := by simp [reads_into,usb,pending]
            have watches : (left_by s system).loop.router.io.aio_watches = s.loop.router.io.aio_watches := rfl
            refine .usb handled rfl (fun queue other => Function.update_of_ne other _ _) ?_
              (fun push member => queues_of_others system.router _ (listed push member)) ?_
            · rw [if_pos reads] at count
              dsimp only [with_io,with_router,done]
              rw [watches]
              omega
            · rw [List.map_singleton,exec_cons,event,Watch.aio_complete,if_neg write]
              have left : (left_by s system).loop.router.io = queue_all s.loop.router.io pushed := queued
              dsimp only [with_io,with_router,done]
              rw [left,same.aio_watches,same.completed]
              split_ifs <;> rfl

theorem turns_placed {out_fds : List Int} {after : Watches} {turns : List (Nat × IoEvent)} (placed : FlowControl.Placed out_fds io)
    (ran : exec turn_of io turns = .ok after) : FlowControl.Placed out_fds after :=
  exec_invariant (I := FlowControl.Placed out_fds) (fun before turned => FlowControl.handle_event_placed before turned) placed ran

/-- There is one buffer, so no second read is completed. -/
theorem turns_turned {t : Program} {memory : Nat → Junk × Request} {bytes : List UInt8} {turns : List (Nat × IoEvent)}
    {out_fds : List Int} (placed : FlowControl.Placed out_fds s.loop.router.io)
    (one : s.loop.router.io.aio_watches.countP reads_into ≤ 1) (ran : exec (handle_event memory bytes) s turns = .ok t) :
    Turned memory bytes s turns t := by
  induction turns generalizing s with
  | nil =>
    cases ran
    exact .quiet (.refl _)
  | cons turn turns ih =>
    obtain ⟨m,first,rest⟩ := bind_eq_ok.mp ran
    have joined {pushed : List (Queue × List UInt8)} (early : exec turn_of s.loop.router.io ([turn].map (telling pushed)) = .ok m.loop.router.io)
        (late : exec turn_of m.loop.router.io (turns.map (telling pushed)) = .ok t.loop.router.io) :
        exec turn_of s.loop.router.io ((turn :: turns).map (telling pushed)) = .ok t.loop.router.io := by
      rw [show (turn :: turns).map (telling pushed) = [turn].map (telling pushed) ++ turns.map (telling pushed) from rfl,
        exec_append,early]
      exact late
    cases handle_event_turned placed first with
    | quiet quiet =>
      -- A quiet event leaves no more reads than there were, and the system as it was.
      cases ih (turns_placed placed (quiet.turns [])) (quiet.reads.trans one) rest with
      | quiet later => exact .quiet (quiet.trans later)
      | @usb ffs size offset system pushed handled same queues reads others turned =>
        have found : system_of m = system_of s := by
          rw [quiet.same]
          exact system_of_io s fun queue _ => congrFun quiet.queues queue
        refine .usb (found ▸ handled) ?_ ?_ (reads.trans_le quiet.reads) others (joined (quiet.turns pushed) turned)
        · calc t = with_io (left_by m system) t.loop.router.io := same
            _ = with_io (left_by (with_io s m.loop.router.io) system) t.loop.router.io :=
              congrArg (fun v => with_io (left_by v system) t.loop.router.io) quiet.same
        · intro queue other
          rw [queues queue other]
          simp only [left_by,refill,quiet.queues]
    | @usb ffs size offset system pushed handled same queues reads others turned =>
      -- The read was of the one buffer, so the events after it are quiet.
      have none_left : m.loop.router.io.aio_watches.countP reads_into = 0 := by omega
      cases ih (turns_placed placed turned) (none_left.le.trans (Nat.zero_le 1)) rest with
      | quiet later =>
        refine .usb handled ?_ ?_ (later.reads.trans_lt reads) others (joined turned (later.turns pushed))
        · calc t = with_io m t.loop.router.io := later.same
            _ = with_io (with_io (left_by s system) m.loop.router.io) t.loop.router.io :=
              congrArg (fun v => with_io v t.loop.router.io) same
        · intro queue other
          rw [later.queues]
          exact queues queue other
      | usb _ _ _ more _ _ => omega

/-- What events queue is no matter of which there are. -/
theorem getevents_pushed {in_flight left : List Iocb} {replies : List Completion} {ev : List IoEvent}
    (handed : io_getevents in_flight (replies.map (Completion.reply [])) = (ev,left)) (pushed : List (Queue × List UInt8)) :
    io_getevents in_flight (replies.map (Completion.reply pushed)) = (ev.map (fun event => { event with pushed := pushed }),left) := by
  induction replies generalizing in_flight ev with
  | nil =>
    cases handed
    rfl
  | cons reply replies ih =>
    simp only [List.map_cons,io_getevents] at handed ⊢
    rw [show (reply.reply []).place = (reply.reply pushed).place from rfl] at handed
    cases there : in_flight[(reply.reply pushed).place]? with
    | none =>
      rw [there] at handed
      exact ih handed
    | some iocb =>
      rw [there] at handed
      cases rest : io_getevents (in_flight.eraseIdx (reply.reply pushed).place) (replies.map (Completion.reply [])) with
      | mk more left =>
        rw [rest] at handed
        cases handed
        dsimp only
        rw [ih rest]
        rfl

theorem framed_loops (s : Loop) (dm : Nat) (rejected hdlc_disable : Bool) : Loops s (framed s dm rejected hdlc_disable) := by
  cases hdlc_disable with
  | false => exact rejected_loops s dm rejected
  | true => exact (rejected_loops s dm rejected).trans (.one .handle_hdlc_disable_cmd trivial rfl)

theorem with_io_loop {loop : Loop} (here : s.loop = loop) (io : Watches) :
    (with_io s io).loop = { loop with router := { loop.router with io := io } } := here ▸ rfl

theorem eventfd_leads {t : Program} {memory : Nat → Junk × Request} {bytes : List UInt8} {replies : List Completion}
    (one : OneBuffer s.loop) (ran : watch_handle_eventfd memory bytes replies s = .ok t) :
    Loops s.loop t.loop ∧ Systems (system_of s) (system_of t) := by
  unfold watch_handle_eventfd at ran
  rw [← List.map_take] at ran
  cases handed : io_getevents s.loop.router.io.in_flight ((replies.take 32).map (Completion.reply [])) with
  | mk ev left =>
  rw [handed] at ran
  dsimp only at ran
  have placed : FlowControl.Placed (FlowControl.out_fds s.loop.router) { s.loop.router.io with in_flight := left } :=
    ⟨one.bounded.placed.read_watch,one.bounded.placed.write_watch,one.bounded.placed.client_fd,one.bounded.placed.untagged⟩
  have few : s.loop.router.io.aio_watches.countP reads_into ≤ 1 := (Nat.le_add_left _ _).trans one.most
  have found : system_of (with_io s { s.loop.router.io with in_flight := left }) = system_of s := system_of_io s fun _ _ => rfl
  have loops {pushed : List (Queue × List UInt8)} (others : ∀ push ∈ pushed, push.1 ≠ .ffs_outq)
      (turned : exec turn_of { s.loop.router.io with in_flight := left }
        (((List.range s.loop.router.io.aio_watches.length).flatMap (fun i => ev.map (fun event => (i,event)))).map (telling pushed)) =
          .ok t.loop.router.io) :
      Loops s.loop { s.loop with router := { s.loop.router with io := t.loop.router.io } } := by
    refine .one (.watch_handle_eventfd (replies.map (Completion.reply pushed))) ?_ ?_
    · intro reply member
      obtain ⟨_,_,rfl⟩ := List.mem_map.mp member
      exact others
    · rw [MainLoop.step,Watch.watch_handle_eventfd,← List.map_take,getevents_pushed handed]
      dsimp only
      refine map_eq_ok.mpr ⟨_,?_,rfl⟩
      refine (exec_nested Watch.handle_event _ _ _).trans (Eq.trans ?_ turned)
      rw [List.map_flatMap]
      simp only [List.map_map]
      rfl
  cases turns_turned (s := with_io s { s.loop.router.io with in_flight := left }) placed few ran with
  | quiet quiet =>
    have same : t = with_io s t.loop.router.io := quiet.same
    constructor
    · rw [same]
      exact loops (List.forall_mem_nil _) (quiet.turns [])
    · rw [same,system_of_io s fun queue _ => congrFun quiet.queues queue]
      exact .refl _
  | @usb ffs size offset system pushed handled same queues reads others turned =>
    obtain ⟨rejected,hdlc_disable,types⟩ := called_types (HdlcRecovery.diag_ffs_recv_called handled)
    obtain ⟨_,_,left_by_loop⟩ := left_loop types
    constructor
    · have there : framed { s.loop with router := { s.loop.router with io := t.loop.router.io } } ffs.dm rejected hdlc_disable = t.loop := by
        refine Eq.trans ?_ (congrArg Program.loop same).symm
        rw [with_io_loop left_by_loop]
        cases rejected <;> cases hdlc_disable <;> rfl
      have framing := framed_loops { s.loop with router := { s.loop.router with io := t.loop.router.io } } ffs.dm rejected hdlc_disable
      rw [there] at framing
      exact (loops others turned).trans framing
    · rw [same,system_of_io _ queues,system_of_left (diag_ffs_recv_grown handled),← found]
      exact .one (.diag_ffs_recv memory ffs.dm ⟨size,offset,bytes⟩) trivial handled

/-! ## Steps -/

/-- One more client, which is not read yet. -/
theorem added_systems {t : Program} (is_encoded : Bool)
    (types : t.loop.router.diag_clients.map Endpoints.DiagClient.encode_type =
      s.loop.router.diag_clients.map Endpoints.DiagClient.encode_type ++ [if is_encoded then .HDLC else .RAW])
    (readers : t.readers = Function.update s.readers s.loop.router.diag_clients.length no_reader)
    (counter : t.bad_cmd_counter = s.bad_cmd_counter) (timers : t.timers = s.timers) : Systems (system_of s) (system_of t) := by
  refine Leads.trans (.one (.dm_add is_encoded) trivial rfl) (systems_elsewhere ?_ ?_ counter timers)
  · show encode_types (router_of t) = encode_types (HdlcRecovery.dm_add is_encoded (system_of s)).router
    rw [router_of_types,types,← router_of_types]
    simp [HdlcRecovery.dm_add,encode_types,system_of]
  · refine readers.trans ?_
    simp only [HdlcRecovery.dm_add,system_of,router_of,List.length_mapIdx]
    rfl

theorem opens_leads {t : Program} {opening : Opening} (stepped : step s (.opens opening) = .ok t) :
    Loops s.loop t.loop ∧ Systems (system_of s) (system_of t) := by
  obtain ⟨loop,ran,rfl⟩ := map_eq_ok.mp stepped
  refine ⟨.one (.opens opening) trivial ran,?_⟩
  have as_many {loop : Loop} (types : loop.router.diag_clients.map Endpoints.DiagClient.encode_type =
      s.loop.router.diag_clients.map Endpoints.DiagClient.encode_type) : Systems (system_of s) (system_of (opened s loop)) := by
    have length := congrArg List.length types
    rw [List.length_map,List.length_map] at length
    refine systems_elsewhere ?_ ?_ rfl rfl
    · show encode_types (router_of (opened s loop)) = encode_types (router_of s)
      rw [router_of_types,router_of_types]
      exact types
    · exact if_pos length
  have one_more {loop : Loop} (is_encoded : Bool) (types : loop.router.diag_clients.map Endpoints.DiagClient.encode_type =
      s.loop.router.diag_clients.map Endpoints.DiagClient.encode_type ++ [if is_encoded then .HDLC else .RAW]) :
      Systems (system_of s) (system_of (opened s loop)) := by
    have length := congrArg List.length types
    rw [List.length_map,List.length_append,List.length_map,List.length_singleton] at length
    exact added_systems is_encoded types (if_neg (by omega)) rfl rfl
  have client (fd : Int) (is_encoded : Bool) : (Endpoints.call (Endpoints.call s.loop.router (.dm_add fd fd is_encoded))
      (.dm_enable s.loop.router.diag_clients.length)).diag_clients.map Endpoints.DiagClient.encode_type =
        s.loop.router.diag_clients.map Endpoints.DiagClient.encode_type ++ [if is_encoded then .HDLC else .RAW] := by
    have clients : (Endpoints.call (Endpoints.call s.loop.router (.dm_add fd fd is_encoded))
        (.dm_enable s.loop.router.diag_clients.length)).diag_clients =
          s.loop.router.diag_clients ++ [⟨fd,fd,if is_encoded then .HDLC else .RAW,true⟩] := modify_last _ _ _
    rw [clients,List.map_append,List.map_singleton]
  rw [MainLoop.step] at ran
  split_ifs at ran with fresh
  · cases ran
    cases opening with
    | diag_sock_connect fd => exact one_more true (client fd true)
    | diag_uart_open fd => exact one_more true (client fd true)
    | unix_listen fd => exact one_more false (client fd false)
    | qrtr_perif_init_subsystem cntl_fd data_fd cmd_fd => exact as_many rfl
    | diag_usb_open ep0 bulk_out bulk_in =>
      cases closed : s.loop.router.ffs with
      | some ffs =>
        refine as_many ?_
        simp only [Opening.calls,List.foldl,relay,Endpoints.call,Endpoints.diag_usb_open,closed]
      | none =>
        refine one_more true ?_
        simp only [Opening.calls,List.foldl,relay,Endpoints.call,Endpoints.diag_usb_open,closed]
        exact List.map_append
  · cases ran
    exact as_many rfl

theorem refill_same {left : Queue → Option (List (List UInt8))} (same : ∀ queue msgs, left queue = some msgs → msgs = messages io queue) :
    refill io left = io := by
  unfold refill
  congr 1
  funext queue
  cases there : left queue with
  | none => rfl
  | some msgs =>
    rw [same queue msgs there]
    simp [refilled,messages]

/-- Nothing is queued, and the types are set. -/
theorem left_types {t : System} {clients : List Endpoints.DiagClient}
    (same : t.router = { router_of s with diag_clients := t.router.diag_clients })
    (outqs : t.router.diag_clients.map Clients.DiagClient.outq = (router_of s).diag_clients.map Clients.DiagClient.outq)
    (types : retype s.loop.router.diag_clients (encode_types t.router) = clients) :
    (left_by s t).loop = { s.loop with router := { s.loop.router with diag_clients := clients } } := by
  have io : refill s.loop.router.io (left_in t.router) = s.loop.router.io := by
    refine refill_same ?_
    intro queue msgs left
    rw [same] at left
    cases queue with
    | outq dm =>
      simp only [left_in] at left
      rw [← List.getElem?_map,outqs,List.getElem?_map,router_of,List.getElem?_mapIdx] at left
      cases there : s.loop.router.diag_clients[dm]? <;> rw [there] at left <;> cases left
      rfl
    | ffs_outq => cases left
    | cmdq i | cntlq i | dataq i =>
      simp only [left_in,router_of,List.getElem?_mapIdx] at left
      cases there : s.loop.router.peripherals[i]? <;> rw [there] at left <;> cases left
      rfl
  unfold left_by
  rw [io,types]

theorem reset_leads (s : Program) (client : Nat) :
    Loops s.loop (left_by s (HdlcRecovery.diag_hdlc_reset client (system_of s))).loop ∧
      Systems (system_of s) (system_of (left_by s (HdlcRecovery.diag_hdlc_reset client (system_of s)))) := by
  have grown : Grown client (router_of s) (HdlcRecovery.diag_hdlc_reset client (system_of s)).router := by
    unfold HdlcRecovery.diag_hdlc_reset
    split_ifs
    · exact set_encode_type_grown .HDLC client (router_of s)
    · exact .refl client _
  constructor
  · unfold HdlcRecovery.diag_hdlc_reset
    split_ifs
    · have types : retype s.loop.router.diag_clients
          (encode_types { router_of s with diag_clients := Clients.set_encode_type .HDLC (router_of s).diag_clients }) =
            (relay s.loop (.set_encode_type .HDLC)).router.diag_clients := by
        rw [encode_types,HdlcRecovery.set_encode_type_types,← encode_types,router_of_types,← set_typed]
        exact (set_reframed s.loop .HDLC).retyped
      have outqs : (Clients.set_encode_type .HDLC (router_of s).diag_clients).map Clients.DiagClient.outq =
          (router_of s).diag_clients.map Clients.DiagClient.outq := by
        rw [Clients.set_encode_type,List.map_map]
        refine List.map_congr_left ?_
        intro dm _
        simp only [Function.comp_apply]
        split_ifs <;> rfl
      rw [left_types rfl outqs types]
      exact .one .diag_hdlc_reset trivial rfl
    · have types : retype s.loop.router.diag_clients (encode_types (router_of s)) = s.loop.router.diag_clients := by
        rw [router_of_types]
        exact (Reframed.refl _).retyped
      rw [left_types rfl rfl types]
      exact .refl _
  · rw [system_of_left grown]
    exact .one (.diag_hdlc_reset client) trivial rfl

theorem step_leads {t : Program} {a : Action} (one : OneBuffer s.loop) (stepped : step s a = .ok t) :
    Loops s.loop t.loop ∧ Systems (system_of s) (system_of t) := by
  have loop_only {loop : Loop} (same : loop.router.diag_clients.map Endpoints.DiagClient.encode_type =
      s.loop.router.diag_clients.map Endpoints.DiagClient.encode_type) : Systems (system_of s) (system_of { s with loop := loop }) := by
    refine systems_elsewhere ?_ rfl rfl rfl
    show encode_types (router_of { s with loop := loop }) = encode_types (router_of s)
    rw [router_of_types,router_of_types]
    exact same
  cases a with
  | opens opening => exact opens_leads stepped
  | select ready =>
    obtain ⟨loop,ran,rfl⟩ := map_eq_ok.mp stepped
    refine ⟨.one (.select ready) trivial ran,loop_only ?_⟩
    cases ran
    rfl
  | submit_pass accepted =>
    obtain ⟨loop,ran,rfl⟩ := map_eq_ok.mp stepped
    refine ⟨.one (.submit_pass accepted) trivial ran,loop_only ?_⟩
    obtain ⟨io,_,rfl⟩ := map_eq_ok.mp ran
    rfl
  | diag_hdlc_reset client =>
    cases stepped
    exact reset_leads s client
  | watch_handle_eventfd memory bytes replies => exact eventfd_leads one stepped
  | callback fd reads =>
    rw [step] at stepped
    split_ifs at stepped with selected
    · obtain ⟨⟨failed,after⟩,ran,rfl⟩ := map_eq_ok.mp stepped
      obtain ⟨loops,systems⟩ := callback_leads selected ran
      cases failed with
      | false => exact ⟨loops,systems⟩
      | true => exact ⟨loops,systems⟩
    · cases stepped
      exact ⟨.refl _,.refl _⟩


end

end DiagRouter.WholeProgram

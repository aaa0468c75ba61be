import DiagRouter.Disconnects
import DiagRouter.Lib.Selection
import DiagRouter.Watch

/-!
# Processors behind rpmsg

`peripheral-rpmsg.c`: the device nodes that udev tells of, the peripherals that
are made of them a second later, and what is taken down when one of their
channels fails. Watches, timers and registrations have pointers to peripherals,
and none of them outlives the peripheral. Opening the channels is tried once.
-/
namespace DiagRouter.Rpmsg
open DiagRouter.Lib.Memory DiagRouter.Lib.Runs DiagRouter.Lib.Selection DiagRouter.Dispatch
open DiagRouter.Watch (Queue)
open DiagRouter.DispatchOnce (register_entries)
open DiagRouter.Disconnects (entries_of)
open DiagRouter.CntlLocality (deregister_eq)

structure Devnode where
  devnode : String
  name : String
  rproc : String
deriving DecidableEq, Repr

/-- `addr` is the address of the structure, which is not given out again, and
    `sockets` tells a QRTR peripheral. -/
structure Peripheral where
  addr : Nat
  name : String
  sockets : Bool
  data_fd : Int
  cntl_fd : Int
  cmd_fd : Int
  dci_cmd_fd : Int
deriving DecidableEq, Repr

/-- The callback of a read watch, with the peripheral that is its data. -/
inductive Callback
  | peripheral_udev_update
  | unix_listen
  | dm_recv
  | rpmsg_perif_cntl_recv (peripheral : Nat)
  | diag_data_recv (peripheral : Nat)
  | diag_cmd_recv (peripheral : Nat)
  | qrtr_cntl_recv (peripheral : Nat)
  | qrtr_cmd_recv (peripheral : Nat)
  | qrtr_data_recv (peripheral : Nat)
deriving DecidableEq, Repr

def Callback.data : Callback → Option Nat
  | .peripheral_udev_update => none
  | .unix_listen => none
  | .dm_recv => none
  | .rpmsg_perif_cntl_recv peripheral => some peripheral
  | .diag_data_recv peripheral => some peripheral
  | .diag_cmd_recv peripheral => some peripheral
  | .qrtr_cntl_recv peripheral => some peripheral
  | .qrtr_cmd_recv peripheral => some peripheral
  | .qrtr_data_recv peripheral => some peripheral

/-- The callbacks of `peripheral-rpmsg.c`. -/
def Callback.rpmsg : Callback → Bool
  | .rpmsg_perif_cntl_recv _ => true
  | .diag_data_recv _ => true
  | .diag_cmd_recv _ => true
  | _ => false

/-- The peripheral whose structure holds the head of the queue. -/
def owner : Queue → Option Nat
  | .cmdq peripheral => some peripheral
  | .cntlq peripheral => some peripheral
  | .dataq peripheral => some peripheral
  | _ => none

structure ReadWatch where
  fd : Int
  cb : Callback
deriving DecidableEq, Repr

structure WriteWatch where
  fd : Int
  queue : Queue
deriving DecidableEq, Repr

/-- A descriptor that is open, and, as a record, the peripheral it was opened
    for. -/
structure Descriptor where
  fd : Int
  holder : Option Nat
deriving DecidableEq, Repr

/-- `timers` has the data of the timers that wait to call `peripheral_open`, and
    `diag_clients` is the number of clients. -/
structure Router where
  devnodes : List Devnode
  peripherals : List Peripheral
  read_watches : List ReadWatch
  aio_watches : List WriteWatch
  timers : List Nat
  diag_cmds : List (DiagCmd Nat)
  diag_clients : Nat
  fds : List Descriptor
  next : Nat

/-! ## Descriptors and watches -/

/-- The kernel gives out the lowest descriptor that is free. -/
def lowest (s : Router) : Int := unused (s.fds.map Descriptor.fd)

def opened (s : Router) (holder : Option Nat) : Router := { s with fds := s.fds ++ [⟨lowest s,holder⟩] }

/-- Closing what is not open changes nothing. -/
def close (s : Router) (fd : Int) : Router := { s with fds := s.fds.filter (fun d => d.fd ≠ fd) }

def watch_add_readfd (s : Router) (fd : Int) (cb : Callback) : Router :=
  { s with read_watches := s.read_watches ++ [⟨fd,cb⟩] }

def watch_add_writeq (s : Router) (fd : Int) (queue : Queue) : Router :=
  { s with aio_watches := s.aio_watches ++ [⟨fd,queue⟩] }

def watch_remove_fd (s : Router) (fd : Int) : Router :=
  { s with
    read_watches := s.read_watches.filter (fun w => w.fd ≠ fd)
    aio_watches := s.aio_watches.filter (fun w => w.fd ≠ fd) }

/-! ## Device nodes -/

def devnode_get (devnodes : List Devnode) (devnode : String) : Option Devnode :=
  devnodes.find? (fun node => node.devnode = devnode)

/-- Whether `open` succeeds is `opens`. -/
def devnode_open (opens : String → Bool) (s : Router) (peripheral : Nat) (rproc name : String) : Int × Router :=
  match s.devnodes.find? (fun node => node.rproc = rproc ∧ node.name = name) with
  | none => (-1,s)
  | some node => if opens node.devnode then (lowest s,opened s (some peripheral)) else (-1,s)

def devnode_add (s : Router) (devnode name rproc : String) : Router :=
  match devnode_get s.devnodes devnode with
  | some _ => s
  | none => { s with devnodes := s.devnodes ++ [⟨devnode,name,rproc⟩] }

def devnode_remove (s : Router) (devnode : String) : Router :=
  { s with devnodes := s.devnodes.eraseP (fun node => node.devnode = devnode) }

/-! ## Peripherals -/

/-- The timer is set to a second. -/
def peripheral_create (s : Router) (rproc channel : String) : Router :=
  if channel ≠ "DIAG" ∧ channel ≠ "APPS_RIVA_DATA" then s
  else if s.peripherals.any (fun p => p.name = rproc) then s
  else
    { s with
      peripherals := s.peripherals ++ [⟨s.next,rproc,false,-1,-1,-1,0⟩]
      timers := s.timers ++ [s.next]
      next := s.next + 1 }

/-- Writing to the fields of a peripheral. -/
def store (s : Router) (p : Peripheral) : Router :=
  { s with peripherals := s.peripherals.map (fun q => if q.addr = p.addr then p else q) }

def open_either (opens : String → Bool) (s : Router) (p : Peripheral) (first second : String) : Int × Router :=
  let (fd,t) := devnode_open opens s p.addr p.name first
  if fd < 0 then devnode_open opens t p.addr p.name second else (fd,t)

def watch_channels (s : Router) (p : Peripheral) : Router :=
  let s := watch_add_writeq s p.cntl_fd (.cntlq p.addr)
  let s := watch_add_writeq s p.data_fd (.dataq p.addr)
  let s := watch_add_readfd s p.cntl_fd (.rpmsg_perif_cntl_recv p.addr)
  let s := watch_add_readfd s p.data_fd (.diag_data_recv p.addr)
  if 0 ≤ p.cmd_fd then
    watch_add_writeq (watch_add_readfd s p.cmd_fd (.diag_cmd_recv p.addr)) p.cmd_fd (.cmdq p.addr)
  else s

/-- The masks that are sent last stay in the peripheral's own queue. -/
def peripheral_open (opens : String → Bool) (s : Router) (p : Peripheral) : Router :=
  let (fd,s) := open_either opens s p "DIAG" "APPS_RIVA_DATA"
  if fd < 0 then s
  else
    let p := { p with data_fd := fd }
    let (fd,s) := open_either opens s p "DIAG_CNTL" "APPS_RIVA_CTRL"
    if fd < 0 then store (close s p.data_fd) { p with data_fd := -1 }
    else
      let p := { p with cntl_fd := fd }
      let (fd,s) := devnode_open opens s p.addr p.name "DIAG_CMD"
      let p := if 0 ≤ fd then { p with cmd_fd := fd } else p
      watch_channels (store s p) p

def perif_rpmsg_close (s : Router) (p : Peripheral) : Router :=
  let s := { s with diag_cmds := diag_cntl_close p.addr s.diag_cmds }
  let s := watch_remove_fd (watch_remove_fd (watch_remove_fd s p.data_fd) p.cntl_fd) p.cmd_fd
  let s := close (close (close s p.data_fd) p.cntl_fd) p.cmd_fd
  { s with peripherals := s.peripherals.filter (fun q => q.addr ≠ p.addr) }

/-- The peripherals of QRTR have four sockets, and watch three. -/
def qrtr_perif_init_subsystem (s : Router) (name : String) : Router :=
  let cntl_fd := lowest s
  let s := opened s (some s.next)
  let data_fd := lowest s
  let s := opened s (some s.next)
  let cmd_fd := lowest s
  let s := opened s (some s.next)
  let dci_cmd_fd := lowest s
  let s := opened s (some s.next)
  let s := watch_add_readfd s cntl_fd (.qrtr_cntl_recv s.next)
  let s := watch_add_readfd s cmd_fd (.qrtr_cmd_recv s.next)
  let s := watch_add_readfd s data_fd (.qrtr_data_recv s.next)
  { s with
    peripherals := s.peripherals ++ [⟨s.next,name,true,data_fd,cntl_fd,cmd_fd,dci_cmd_fd⟩]
    next := s.next + 1 }

/-! ## udev -/

inductive UdevAction
  | add
  | remove
  | other
deriving DecidableEq, Repr

/-- A device as libudev shows it. `parents` has the attribute `rpmsg_name` of its
    parent, of the parent's parent, and so on. -/
structure UdevDevice where
  action : UdevAction
  devnode : Option String
  name : Option String
  parents : List (Option String)
deriving DecidableEq, Repr

def peripheral_udev_get_remoteproc : List (Option String) → Option String
  | [] => none
  | some p :: _ => some p
  | none :: parents => peripheral_udev_get_remoteproc parents

/-- What an added device and one that was there at the start lead to. -/
def device_found (s : Router) (device : UdevDevice) : Router :=
  match device.devnode, device.name, peripheral_udev_get_remoteproc device.parents with
  | some devnode, some name, some rproc => peripheral_create (devnode_add s devnode name rproc) rproc name
  | _, _, _ => s

def peripheral_udev_update (s : Router) : Option UdevDevice → Router
  | none => s
  | some device =>
    match device.devnode with
    | none => s
    | some devnode =>
      match device.action with
      | .add => device_found s device
      | .remove => devnode_remove s devnode
      | .other => s

/-- When `main` starts, with the standard descriptors open. -/
def main_start : Router := ⟨[],[],[],[],[],[],0,[⟨0,none⟩,⟨1,none⟩,⟨2,none⟩],0⟩

def peripheral_rpmsg_init (s : Router) (devices : List UdevDevice) : Router :=
  watch_add_readfd (devices.foldl device_found (opened s none)) (lowest s) .peripheral_udev_update

/-! ## Callbacks -/

inductive CntlPacket
  | register (pkt : Nat → UInt8)
  | deregister (pkt : Nat → UInt8)
  | other

def diag_cntl_recv (peripheral : Nat) (diag_cmds : List (DiagCmd Nat)) (packets : List CntlPacket) : List (DiagCmd Nat) :=
  packets.foldl (fun diag_cmds packet =>
    match packet with
    | .register pkt => diag_cntl_register peripheral pkt diag_cmds
    | .deregister pkt => diag_cntl_deregister peripheral pkt diag_cmds
    | .other => diag_cmds) diag_cmds

/-- What a callback meets: an event of udev, a connection and whether it can be
    made non-blocking, control packets, the end of the stream, an error of `read`
    other than `EAGAIN`, or anything else. -/
inductive Input
  | device (device : Option UdevDevice)
  | connection (nonblocking : Bool)
  | packets (packets : List CntlPacket)
  | ended
  | failed
  | other

/-- A client that cannot be made non-blocking keeps its descriptor. -/
def unix_listen (s : Router) (nonblocking : Bool) : Router :=
  let client := lowest s
  let s := opened s none
  if nonblocking then
    let s := watch_add_writeq (watch_add_readfd s client .dm_recv) client (.outq s.diag_clients)
    { s with diag_clients := s.diag_clients + 1 }
  else s

/-- Reading a peripheral that was freed faults. -/
def live (s : Router) (peripheral : Nat) : Except Fault Peripheral :=
  match s.peripherals.find? (fun p => p.addr = peripheral) with
  | none => .error .freed
  | some p => .ok p

/-- The callback of the `i`-th read watch. The watch of one that fails is taken
    from the list. -/
def call (s : Router) (i : Nat) (w : ReadWatch) (input : Input) : Except Fault Router :=
  let dropped := { s with read_watches := s.read_watches.eraseIdx i }
  match w.cb.data with
  | none =>
    match w.cb, input with
    | .peripheral_udev_update, .device device => .ok (peripheral_udev_update s device)
    | .unix_listen, .connection nonblocking => .ok (unix_listen s nonblocking)
    | .dm_recv, .ended => .ok (watch_remove_fd s w.fd)
    | .dm_recv, .failed => .ok dropped
    | _, _ => .ok s
  | some peripheral =>
    live s peripheral >>= fun p =>
      match w.cb, input with
      | .rpmsg_perif_cntl_recv _, .packets packets => .ok { s with diag_cmds := diag_cntl_recv p.addr s.diag_cmds packets }
      | .rpmsg_perif_cntl_recv _, .failed => .ok (perif_rpmsg_close s p)
      | .diag_data_recv _, .failed => .ok (perif_rpmsg_close s p)
      | .diag_cmd_recv _, .failed => .ok (perif_rpmsg_close s p)
      | .qrtr_cntl_recv _, .packets packets => .ok { s with diag_cmds := diag_cntl_recv p.addr s.diag_cmds packets }
      | .qrtr_cntl_recv _, .failed => .ok dropped
      | .qrtr_cmd_recv _, .failed => .ok dropped
      | .qrtr_data_recv _, .failed => .ok dropped
      | _, _ => .ok s

/-! ## Runs -/

/-- A read watch whose descriptor is ready, a timer that is due, and what else
    reads peripherals: a command that is dispatched, and the look at the queues
    that a pass submits. -/
inductive Action
  | ready (i : Nat) (input : Input)
  | timer (peripheral : Nat) (opens : String → Bool)
  | qrtr_perif_init_subsystem (name : String)
  | diag_cmd_dispatch (msg : Nat → UInt8)
  | submit_pass

def peripheral_send (peripheral : Nat) (s : Router) : Except Fault Router := (fun _ => s) <$> live s peripheral

def submit_visit (s : Router) (w : WriteWatch) : Except Fault Router :=
  match owner w.queue with
  | none => .ok s
  | some peripheral => (fun _ => s) <$> live s peripheral

def step (s : Router) : Action → Except Fault Router
  | .ready i input =>
    match s.read_watches[i]? with
    | none => .ok s
    | some w => call s i w input
  | .timer peripheral opens =>
    if peripheral ∈ s.timers then
      (fun p => peripheral_open opens { s with timers := s.timers.erase peripheral } p) <$> live s peripheral
    else .ok s
  | .qrtr_perif_init_subsystem name => .ok (qrtr_perif_init_subsystem s name)
  | .diag_cmd_dispatch msg =>
    Prod.snd <$> Dispatch.diag_cmd_dispatch ⟨fun _ s => .ok (0,s),peripheral_send⟩ s.diag_cmds msg s
  | .submit_pass => exec submit_visit s s.aio_watches

/-! ## What is asked of a state -/

/-- The descriptors that a peripheral has. -/
def channels (p : Peripheral) : List Int :=
  if p.sockets then [p.cntl_fd,p.data_fd,p.cmd_fd,p.dci_cmd_fd]
  else [p.data_fd,p.cntl_fd,p.cmd_fd].filter (fun fd => fd ≠ -1)

def Shut (p : Peripheral) : Prop := p.data_fd = -1 ∧ p.cntl_fd = -1 ∧ p.cmd_fd = -1

/-- The command channel may be missing. -/
def Open (p : Peripheral) : Prop := 0 ≤ p.data_fd ∧ 0 ≤ p.cntl_fd ∧ -1 ≤ p.cmd_fd

/-- The read watches of a peripheral behind rpmsg. -/
def readers (p : Peripheral) : List ReadWatch :=
  if p.cntl_fd = -1 then []
  else [⟨p.cntl_fd,.rpmsg_perif_cntl_recv p.addr⟩,⟨p.data_fd,.diag_data_recv p.addr⟩] ++
    if 0 ≤ p.cmd_fd then [⟨p.cmd_fd,.diag_cmd_recv p.addr⟩] else []

/-- Its write watches. -/
def writers (p : Peripheral) : List WriteWatch :=
  if p.cntl_fd = -1 then []
  else [⟨p.cntl_fd,.cntlq p.addr⟩,⟨p.data_fd,.dataq p.addr⟩] ++
    if 0 ≤ p.cmd_fd then [⟨p.cmd_fd,.cmdq p.addr⟩] else []

/-- Device nodes are listed once, and so are the names of peripherals behind
    rpmsg. Such a peripheral has all its channels, each watched once either way,
    or none. Whoever has a pointer to a peripheral has it to one in the list, and
    the descriptors that were opened for peripherals are the ones they have. -/
structure Sound (s : Router) : Prop where
  nodes : (s.devnodes.map Devnode.devnode).Nodup
  addresses : (s.peripherals.map Peripheral.addr).Nodup
  names : ((s.peripherals.filter (fun p => !p.sockets)).map Peripheral.name).Nodup
  below : ∀ p ∈ s.peripherals, p.addr < s.next
  phase : ∀ p ∈ s.peripherals, p.sockets = false → Shut p ∨ Open p
  once : s.timers.Nodup
  pending : ∀ a ∈ s.timers, ∃ p ∈ s.peripherals, p.addr = a ∧ p.sockets = false ∧ Shut p
  registered : ∀ dc ∈ s.diag_cmds, dc.target ∈ s.peripherals.map Peripheral.addr
  distinct : (s.fds.map Descriptor.fd).Nodup
  natural : ∀ d ∈ s.fds, 0 ≤ d.fd
  held : ∀ d ∈ s.fds, ∀ a, d.holder = some a → ∃ p ∈ s.peripherals, p.addr = a ∧ d.fd ∈ channels p
  holds : ∀ p ∈ s.peripherals, ∀ fd ∈ channels p, ⟨fd,some p.addr⟩ ∈ s.fds
  reading : ∀ w ∈ s.read_watches, ⟨w.fd,w.cb.data⟩ ∈ s.fds
  writing : ∀ w ∈ s.aio_watches, ⟨w.fd,owner w.queue⟩ ∈ s.fds
  read : ∀ p ∈ s.peripherals, p.sockets = false → s.read_watches.filter (fun w => w.cb.data = some p.addr) = readers p
  written : ∀ p ∈ s.peripherals, p.sockets = false → s.aio_watches.filter (fun w => owner w.queue = some p.addr) = writers p
  sockets : ∀ p ∈ s.peripherals, p.sockets = true → ∀ w ∈ s.read_watches, w.cb.data = some p.addr → w.cb.rpmsg = false

section
variable {s : Router} {p : Peripheral}

theorem Sound.same (sound : Sound s) {q : Peripheral} (one : p ∈ s.peripherals) (other : q ∈ s.peripherals)
    (addr : p.addr = q.addr) : p = q := List.inj_on_of_nodup_map sound.addresses one other addr

theorem Sound.found (sound : Sound s) (listed : p ∈ s.peripherals) : live s p.addr = .ok p := by
  unfold live
  cases found : s.peripherals.find? (fun q => q.addr = p.addr) with
  | none => simpa using List.find?_eq_none.mp found p listed
  | some q =>
    have addr : q.addr = p.addr := by simpa using List.find?_some found
    rw [sound.same (List.mem_of_find?_eq_some found) listed addr]

theorem Sound.alive (sound : Sound s) {a : Nat} (listed : a ∈ s.peripherals.map Peripheral.addr) :
    ∃ p ∈ s.peripherals, p.addr = a ∧ live s a = .ok p := by
  obtain ⟨p,member,rfl⟩ := List.mem_map.mp listed
  exact ⟨p,member,rfl,sound.found member⟩

/-- A descriptor is a peripheral's exactly when it was opened for it. -/
theorem Sound.holder_iff (sound : Sound s) (listed : p ∈ s.peripherals) {d : Descriptor} (known : d ∈ s.fds) :
    d.fd ∈ channels p ↔ d.holder = some p.addr := by
  constructor
  · intro mine
    have entry := sound.holds p listed d.fd mine
    rw [List.inj_on_of_nodup_map sound.distinct known entry rfl]
  · intro mine
    obtain ⟨q,there,addr,channel⟩ := sound.held d known p.addr mine
    rw [← sound.same there listed addr]
    exact channel

/-- A watch that has a pointer to a peripheral has it to one in the list. -/
theorem Sound.watched (sound : Sound s) {d : Descriptor} (known : d ∈ s.fds) {a : Nat} (points : d.holder = some a) :
    a ∈ s.peripherals.map Peripheral.addr := by
  obtain ⟨p,listed,addr,_⟩ := sound.held d known a points
  exact addr ▸ List.mem_map_of_mem listed

/-! ## Closing -/

theorem channels_open (rpmsg : p.sockets = false) (isOpen : Open p) {fd : Int} (natural : 0 ≤ fd) :
    fd ∈ channels p ↔ fd = p.data_fd ∨ fd = p.cntl_fd ∨ fd = p.cmd_fd := by
  obtain ⟨data,cntl,_⟩ := isOpen
  have other : fd ≠ -1 := by omega
  simp [channels,rpmsg,other]

/-- Taking out the peripheral's descriptors one after the other. -/
theorem filter_channels {α : Type} {fd : α → Int} {holder : α → Option Nat} {known : List α}
    (mine : ∀ x ∈ known, (fd x = p.data_fd ∨ fd x = p.cntl_fd ∨ fd x = p.cmd_fd) ↔ holder x = some p.addr) :
    ((known.filter (fun x => fd x ≠ p.data_fd)).filter (fun x => fd x ≠ p.cntl_fd)).filter (fun x => fd x ≠ p.cmd_fd) =
      known.filter (fun x => holder x ≠ some p.addr) := by
  rw [List.filter_filter,List.filter_filter]
  refine List.filter_congr ?_
  intro x member
  simp only [ne_eq,← mine x member]
  grind

/-- Closing an open peripheral takes down what has a pointer to it, and nothing
    else. -/
theorem close_eq (sound : Sound s) (listed : p ∈ s.peripherals) (rpmsg : p.sockets = false) (isOpen : Open p) :
    perif_rpmsg_close s p = { s with
      diag_cmds := diag_cntl_close p.addr s.diag_cmds
      read_watches := s.read_watches.filter (fun w => w.cb.data ≠ some p.addr)
      aio_watches := s.aio_watches.filter (fun w => owner w.queue ≠ some p.addr)
      fds := s.fds.filter (fun d => d.holder ≠ some p.addr)
      peripherals := s.peripherals.filter (fun q => q.addr ≠ p.addr) } := by
  have mine (d : Descriptor) (known : d ∈ s.fds) :
      (d.fd = p.data_fd ∨ d.fd = p.cntl_fd ∨ d.fd = p.cmd_fd) ↔ d.holder = some p.addr :=
    (channels_open rpmsg isOpen (sound.natural d known)).symm.trans (sound.holder_iff listed known)
  have reads := @filter_channels p _ ReadWatch.fd (fun w => w.cb.data) s.read_watches
    (fun w member => mine _ (sound.reading w member))
  have writes := @filter_channels p _ WriteWatch.fd (fun w => owner w.queue) s.aio_watches
    (fun w member => mine _ (sound.writing w member))
  have descriptors := @filter_channels p _ Descriptor.fd Descriptor.holder s.fds mine
  simp only [perif_rpmsg_close,watch_remove_fd,close]
  rw [reads,writes,descriptors]

/-- Another peripheral's part of what is left. -/
theorem filter_others {α : Type} (holder : α → Option Nat) (known : List α) {a b : Nat} (other : a ≠ b) :
    (known.filter (fun x => holder x ≠ some b)).filter (fun x => holder x = some a) =
      known.filter (fun x => holder x = some a) := by
  rw [List.filter_filter]
  refine List.filter_congr ?_
  intro x _
  by_cases mine : holder x = some a
  · simp [mine,other]
  · simp [mine]

theorem close_sound (sound : Sound s) (listed : p ∈ s.peripherals) (rpmsg : p.sockets = false) (isOpen : Open p) :
    Sound (perif_rpmsg_close s p) := by
  rw [close_eq sound listed rpmsg isOpen]
  have left {q : Peripheral} (here : q ∈ s.peripherals.filter (fun q => q.addr ≠ p.addr)) :
      q ∈ s.peripherals ∧ q.addr ≠ p.addr := by simpa using here
  have kept {q : Peripheral} (here : q ∈ s.peripherals) (other : q.addr ≠ p.addr) :
      q ∈ s.peripherals.filter (fun q => q.addr ≠ p.addr) := by simp [here,other]
  have fewer := List.filter_sublist (p := fun q : Peripheral => decide (q.addr ≠ p.addr)) (l := s.peripherals)
  have entry {fd : Int} {holder : Option Nat} (known : ⟨fd,holder⟩ ∈ s.fds) (other : holder ≠ some p.addr) :
      (⟨fd,holder⟩ : Descriptor) ∈ s.fds.filter (fun d => d.holder ≠ some p.addr) := by simp [known,other]
  exact {
    nodes := sound.nodes
    addresses := sound.addresses.sublist (fewer.map _)
    names := sound.names.sublist ((fewer.filter _).map _)
    below := fun q here => sound.below q (left here).1
    phase := fun q here => sound.phase q (left here).1
    once := sound.once
    pending := by
      intro a waits
      obtain ⟨q,here,addr,behind,shut⟩ := sound.pending a waits
      refine ⟨q,kept here ?_,addr,behind,shut⟩
      -- what waits to be opened is not open
      intro same
      rw [sound.same here listed same] at shut
      have data := isOpen.1
      rw [shut.1] at data
      omega
    registered := by
      intro dc entry
      obtain ⟨known,other⟩ := List.mem_filter.mp entry
      obtain ⟨q,here,addr⟩ := List.mem_map.mp (sound.registered dc known)
      exact addr ▸ List.mem_map_of_mem (kept here (addr ▸ of_decide_eq_true other))
    distinct := sound.distinct.sublist (List.filter_sublist.map _)
    natural := fun d here => sound.natural d (List.mem_of_mem_filter here)
    held := by
      intro d here a points
      obtain ⟨known,other⟩ := List.mem_filter.mp here
      obtain ⟨q,there,addr,channel⟩ := sound.held d known a points
      refine ⟨q,kept there ?_,addr,channel⟩
      intro same
      exact of_decide_eq_true other (points.trans (congrArg some (addr.symm.trans same)))
    holds := fun q here fd channel =>
      entry (sound.holds q (left here).1 fd channel) (fun same => (left here).2 (Option.some.inj same))
    reading := by
      intro w here
      obtain ⟨known,other⟩ := List.mem_filter.mp here
      exact entry (sound.reading w known) (of_decide_eq_true other)
    writing := by
      intro w here
      obtain ⟨known,other⟩ := List.mem_filter.mp here
      exact entry (sound.writing w known) (of_decide_eq_true other)
    read := fun q here behind =>
      (filter_others (fun w : ReadWatch => w.cb.data) s.read_watches (left here).2).trans (sound.read q (left here).1 behind)
    written := fun q here behind =>
      (filter_others (fun w : WriteWatch => owner w.queue) s.aio_watches (left here).2).trans
        (sound.written q (left here).1 behind)
    sockets := fun q here socket w there => sound.sockets q (left here).1 socket w (List.mem_of_mem_filter there) }

/-! ## Opening -/

/-- The first node with the processor's and the channel's name can be opened. -/
def Opens (opens : String → Bool) (devnodes : List Devnode) (rproc name : String) : Prop :=
  ∃ node, devnodes.find? (fun node => node.rproc = rproc ∧ node.name = name) = some node ∧ opens node.devnode = true

/-- The two channels that a peripheral must have, under either name. -/
def Openable (opens : String → Bool) (devnodes : List Devnode) (rproc : String) : Prop :=
  (Opens opens devnodes rproc "DIAG" ∨ Opens opens devnodes rproc "APPS_RIVA_DATA") ∧
    (Opens opens devnodes rproc "DIAG_CNTL" ∨ Opens opens devnodes rproc "APPS_RIVA_CTRL")

theorem lowest_natural (s : Router) : 0 ≤ lowest s := Int.natCast_nonneg _

theorem lowest_free (s : Router) : lowest s ∉ s.fds.map Descriptor.fd := unused_free _

theorem opened_fds (s : Router) (holder : Option Nat) :
    (opened s holder).fds.map Descriptor.fd = s.fds.map Descriptor.fd ++ [lowest s] := by
  simp [opened]

theorem opened_distinct (holder : Option Nat) (distinct : (s.fds.map Descriptor.fd).Nodup) :
    ((opened s holder).fds.map Descriptor.fd).Nodup := by
  rw [opened_fds]
  exact distinct.append (List.nodup_singleton _) (by simpa using lowest_free s)

theorem close_opened (s : Router) (holder : Option Nat) : close (opened s holder) (lowest s) = s := by
  have kept : s.fds.filter (fun d => d.fd ≠ lowest s) = s.fds := by
    refine List.filter_eq_self.mpr ?_
    intro d known
    refine decide_eq_true ?_
    intro same
    exact lowest_free s (same ▸ List.mem_map_of_mem known)
  simp only [close,opened,List.filter_append,kept]
  simp

theorem devnode_open_cases (opens : String → Bool) (s : Router) (a : Nat) (rproc name : String) :
    (devnode_open opens s a rproc name = (-1,s) ∧ ¬ Opens opens s.devnodes rproc name) ∨
      (devnode_open opens s a rproc name = (lowest s,opened s (some a)) ∧ Opens opens s.devnodes rproc name) := by
  unfold devnode_open Opens
  cases found : s.devnodes.find? (fun node => node.rproc = rproc ∧ node.name = name) with
  | none => exact .inl ⟨rfl,by simp⟩
  | some node =>
    by_cases works : opens node.devnode = true
    · exact .inr ⟨if_pos works,node,rfl,works⟩
    · refine .inl ⟨if_neg works,?_⟩
      rintro ⟨other,same,succeeds⟩
      exact works (Option.some.inj same ▸ succeeds)

theorem open_either_cases (opens : String → Bool) (s : Router) (p : Peripheral) (first second : String) :
    (open_either opens s p first second = (-1,s) ∧
        ¬ (Opens opens s.devnodes p.name first ∨ Opens opens s.devnodes p.name second)) ∨
      (open_either opens s p first second = (lowest s,opened s (some p.addr)) ∧
        (Opens opens s.devnodes p.name first ∨ Opens opens s.devnodes p.name second)) := by
  unfold open_either
  rcases devnode_open_cases opens s p.addr p.name first with ⟨shut,missing⟩ | ⟨works,there⟩
  · rw [shut]
    rcases devnode_open_cases opens s p.addr p.name second with ⟨shut',missing'⟩ | ⟨works',there'⟩
    · exact .inl ⟨by simpa using shut',by simp [missing,missing']⟩
    · exact .inr ⟨by simpa using works',.inr there'⟩
  · rw [works]
    have natural : ¬ lowest s < 0 := by simpa using lowest_natural s
    exact .inr ⟨if_neg natural,.inl there⟩

theorem store_same (sound : Sound s) (listed : p ∈ s.peripherals) : store s p = s := by
  have kept : s.peripherals.map (fun q => if q.addr = p.addr then p else q) = s.peripherals := by
    refine (List.map_congr_left ?_).trans (List.map_id _)
    intro q here
    by_cases same : q.addr = p.addr
    · rw [if_pos same,sound.same here listed same,id]
    · exact if_neg same
  rw [store,kept]

theorem watch_channels_eq (s : Router) (p : Peripheral) (cntl : p.cntl_fd ≠ -1) :
    watch_channels s p = { s with
      read_watches := s.read_watches ++ readers p
      aio_watches := s.aio_watches ++ writers p } := by
  unfold watch_channels readers writers
  rw [if_neg cntl,if_neg cntl]
  by_cases cmd : 0 ≤ p.cmd_fd
  · simp [watch_add_readfd,watch_add_writeq,cmd]
  · simp [watch_add_readfd,watch_add_writeq,cmd]

/-- A peripheral's channels were opened. -/
def with_channels (s : Router) (q : Peripheral) : Router :=
  { s with
    fds := s.fds ++ (channels q).map (fun fd => ⟨fd,some q.addr⟩)
    peripherals := s.peripherals.map (fun r => if r.addr = q.addr then q else r)
    read_watches := s.read_watches ++ readers q
    aio_watches := s.aio_watches ++ writers q }

/-- All or nothing: what was opened for a peripheral that lacks a channel is
    closed again. -/
theorem peripheral_open_cases (opens : String → Bool) (sound : Sound s) (listed : p ∈ s.peripherals)
    (rpmsg : p.sockets = false) (shut : Shut p) :
    (peripheral_open opens s p = s ∧ ¬ Openable opens s.devnodes p.name) ∨
      Openable opens s.devnodes p.name ∧ ∃ q, q.addr = p.addr ∧ q.name = p.name ∧ q.sockets = false ∧ Open q ∧
        (s.fds.map Descriptor.fd ++ channels q).Nodup ∧ peripheral_open opens s p = with_channels s q := by
  obtain ⟨data_shut,cntl_shut,cmd_shut⟩ := shut
  have natural (s : Router) : ¬ lowest s < 0 := by simpa using lowest_natural s
  have there (s : Router) : 0 ≤ lowest s := lowest_natural s
  have real (s : Router) : lowest s ≠ -1 := by
    have := lowest_natural s
    omega
  rw [peripheral_open]
  rcases open_either_cases opens s p "DIAG" "APPS_RIVA_DATA" with ⟨data,missing⟩ | ⟨data,data_there⟩
  · rw [data]
    exact .inl ⟨by simp,fun both => missing both.1⟩
  · rw [data]
    dsimp only
    rw [if_neg (natural s)]
    rcases open_either_cases opens (opened s (some p.addr)) { p with data_fd := lowest s } "DIAG_CNTL" "APPS_RIVA_CTRL"
      with ⟨cntl,missing⟩ | ⟨cntl,cntl_there⟩
    · rw [cntl]
      refine .inl ⟨?_,fun both => missing both.2⟩
      have before : ({ p with data_fd := -1 } : Peripheral) = p := by rw [← data_shut]
      dsimp only
      rw [if_pos (by decide),close_opened,before,store_same sound listed]
    · rw [cntl]
      dsimp only
      rw [if_neg (natural _)]
      refine .inr ⟨⟨data_there,cntl_there⟩,?_⟩
      have two := opened_distinct (some p.addr) (opened_distinct (some p.addr) sound.distinct)
      have three := opened_distinct (some p.addr) two
      rw [opened_fds,opened_fds,opened_fds,List.append_assoc,List.append_assoc] at three
      rw [opened_fds,opened_fds,List.append_assoc] at two
      generalize second : opened (opened s (some p.addr)) (some p.addr) = t at three ⊢
      rcases devnode_open_cases opens t p.addr p.name "DIAG_CMD" with ⟨cmd,_⟩ | ⟨cmd,_⟩
      · rw [cmd]
        dsimp only
        rw [if_neg (by decide),watch_channels_eq _ _ (real _)]
        have fds : channels { p with data_fd := lowest s, cntl_fd := lowest (opened s (some p.addr)) } =
            [lowest s,lowest (opened s (some p.addr))] := by simp [channels,rpmsg,cmd_shut,real]
        refine ⟨{ p with data_fd := lowest s, cntl_fd := lowest (opened s (some p.addr)) },rfl,rfl,rpmsg,?_,fds ▸ two,?_⟩
        · exact ⟨there s,there _,by simp [cmd_shut]⟩
        · rw [with_channels,fds]
          simp [store,← second,opened]
      · rw [cmd]
        dsimp only
        rw [if_pos (there t),watch_channels_eq _ _ (real _)]
        have fds : channels { p with
            data_fd := lowest s, cntl_fd := lowest (opened s (some p.addr)), cmd_fd := lowest t } =
            [lowest s,lowest (opened s (some p.addr)),lowest t] := by simp [channels,rpmsg,real]
        refine ⟨{ p with data_fd := lowest s, cntl_fd := lowest (opened s (some p.addr)), cmd_fd := lowest t },
          rfl,rfl,rpmsg,?_,fds ▸ three,?_⟩
        · exact ⟨there s,there _,by have := there t; dsimp only; omega⟩
        · rw [with_channels,fds]
          simp [store,← second,opened]

theorem shut_channels (rpmsg : p.sockets = false) (shut : Shut p) : channels p = [] ∧ readers p = [] ∧ writers p = [] := by
  obtain ⟨data,cntl,cmd⟩ := shut
  simp [channels,readers,writers,rpmsg,data,cntl,cmd]

theorem readers_mem (rpmsg : p.sockets = false) (isOpen : Open p) {w : ReadWatch} (member : w ∈ readers p) :
    w.cb.data = some p.addr ∧ w.fd ∈ channels p := by
  obtain ⟨data,cntl,cmd⟩ := isOpen
  have natural : 0 ≤ w.fd ∧ w.cb.data = some p.addr ∧ (w.fd = p.data_fd ∨ w.fd = p.cntl_fd ∨ w.fd = p.cmd_fd) := by
    unfold readers at member
    rw [if_neg (by omega)] at member
    split_ifs at member with command
    · simp only [List.cons_append,List.nil_append,List.mem_cons,List.not_mem_nil,or_false] at member
      rcases member with rfl | rfl | rfl <;> simp [Callback.data,data,cntl,command]
    · simp only [List.append_nil,List.mem_cons,List.not_mem_nil,or_false] at member
      rcases member with rfl | rfl <;> simp [Callback.data,data,cntl]
  exact ⟨natural.2.1,(channels_open rpmsg ⟨data,cntl,cmd⟩ natural.1).mpr natural.2.2⟩

theorem writers_mem (rpmsg : p.sockets = false) (isOpen : Open p) {w : WriteWatch} (member : w ∈ writers p) :
    owner w.queue = some p.addr ∧ w.fd ∈ channels p := by
  obtain ⟨data,cntl,cmd⟩ := isOpen
  have natural : 0 ≤ w.fd ∧ owner w.queue = some p.addr ∧ (w.fd = p.data_fd ∨ w.fd = p.cntl_fd ∨ w.fd = p.cmd_fd) := by
    unfold writers at member
    rw [if_neg (by omega)] at member
    split_ifs at member with command
    · simp only [List.cons_append,List.nil_append,List.mem_cons,List.not_mem_nil,or_false] at member
      rcases member with rfl | rfl | rfl <;> simp [owner,data,cntl,command]
    · simp only [List.append_nil,List.mem_cons,List.not_mem_nil,or_false] at member
      rcases member with rfl | rfl <;> simp [owner,data,cntl]
  exact ⟨natural.2.1,(channels_open rpmsg ⟨data,cntl,cmd⟩ natural.1).mpr natural.2.2⟩

theorem filter_all {α : Type} {holder : α → Option Nat} {new : List α} {a : Nat} (mine : ∀ x ∈ new, holder x = some a) :
    new.filter (fun x => holder x = some a) = new :=
  List.filter_eq_self.mpr (fun x member => decide_eq_true (mine x member))

theorem filter_none {α : Type} {holder : α → Option Nat} {new : List α} {a : Nat} (other : ∀ x ∈ new, holder x ≠ some a) :
    new.filter (fun x => holder x = some a) = [] :=
  List.filter_eq_nil_iff.mpr (fun x member same => other x member (of_decide_eq_true same))

theorem filter_append_others {α : Type} (holder : α → Option Nat) (known : List α) {new : List α} {a : Nat}
    (other : ∀ x ∈ new, holder x ≠ some a) :
    (known ++ new).filter (fun x => holder x = some a) = known.filter (fun x => holder x = some a) := by
  rw [List.filter_append,filter_none other,List.append_nil]

/-- The fields that opening does not change. -/
theorem stored_map {β : Type} (field : Peripheral → β) (sound : Sound s) (listed : p ∈ s.peripherals) {q : Peripheral}
    (addr : q.addr = p.addr) (same : field q = field p) :
    (s.peripherals.map (fun r => if r.addr = q.addr then q else r)).map field = s.peripherals.map field := by
  rw [List.map_map]
  refine List.map_congr_left ?_
  intro r here
  by_cases mine : r.addr = q.addr
  · rw [Function.comp_apply,if_pos mine,same,sound.same here listed (mine.trans addr)]
  · rw [Function.comp_apply,if_neg mine]

theorem with_channels_sound (sound : Sound s) (listed : p ∈ s.peripherals) (rpmsg : p.sockets = false) (shut : Shut p)
    (idle : p.addr ∉ s.timers) {q : Peripheral} (addr : q.addr = p.addr) (name : q.name = p.name)
    (sockets : q.sockets = false) (isOpen : Open q) (apart : (s.fds.map Descriptor.fd ++ channels q).Nodup) :
    Sound (with_channels s q) := by
  obtain ⟨no_channel,no_reader,no_writer⟩ := shut_channels rpmsg shut
  have cases {r : Peripheral} (here : r ∈ s.peripherals.map (fun r => if r.addr = q.addr then q else r)) :
      r = q ∨ r ∈ s.peripherals ∧ r.addr ≠ q.addr := by
    obtain ⟨old,known,rfl⟩ := List.mem_map.mp here
    by_cases mine : old.addr = q.addr
    · exact .inl (if_pos mine)
    · rw [if_neg mine]
      exact .inr ⟨known,mine⟩
  have here : q ∈ s.peripherals.map (fun r => if r.addr = q.addr then q else r) :=
    List.mem_map.mpr ⟨p,listed,if_pos addr.symm⟩
  have stays {r : Peripheral} (known : r ∈ s.peripherals) (other : r.addr ≠ q.addr) :
      r ∈ s.peripherals.map (fun r => if r.addr = q.addr then q else r) := List.mem_map.mpr ⟨r,known,if_neg other⟩
  have new {fd : Int} (channel : fd ∈ channels q) :
      (⟨fd,some q.addr⟩ : Descriptor) ∈ s.fds ++ (channels q).map (fun fd => ⟨fd,some q.addr⟩) :=
    List.mem_append_right _ (List.mem_map_of_mem channel)
  exact {
    nodes := sound.nodes
    addresses := by
      rw [with_channels,stored_map Peripheral.addr sound listed addr addr]
      exact sound.addresses
    names := by
      have fields := stored_map (fun r => (r.sockets,r.name)) sound listed addr (by rw [sockets,rpmsg,name])
      have names_of (all : List Peripheral) : (all.filter (fun r => !r.sockets)).map Peripheral.name =
          ((all.map (fun r => (r.sockets,r.name))).filter (fun field => !field.1)).map Prod.snd := by
        rw [List.filter_map,List.map_map]
        rfl
      rw [with_channels,names_of,fields,← names_of]
      exact sound.names
    below := by
      intro r there
      rcases cases there with rfl | ⟨known,_⟩
      · exact addr ▸ sound.below p listed
      · exact sound.below r known
    phase := by
      intro r there behind
      rcases cases there with rfl | ⟨known,_⟩
      · exact .inr isOpen
      · exact sound.phase r known behind
    once := sound.once
    pending := by
      intro a waits
      obtain ⟨r,known,same,behind,closed⟩ := sound.pending a waits
      refine ⟨r,stays known ?_,same,behind,closed⟩
      intro mine
      exact idle (addr ▸ mine ▸ same ▸ waits)
    registered := by
      rw [with_channels,stored_map Peripheral.addr sound listed addr addr]
      exact sound.registered
    distinct := by
      rw [with_channels,List.map_append,List.map_map]
      have fds : (channels q).map (Descriptor.fd ∘ fun fd => ⟨fd,some q.addr⟩) = channels q := List.map_id _
      rw [fds]
      exact apart
    natural := by
      intro d known
      rcases List.mem_append.mp known with old | added
      · exact sound.natural d old
      · obtain ⟨fd,channel,rfl⟩ := List.mem_map.mp added
        obtain ⟨data,cntl,cmd⟩ := isOpen
        have real : fd = q.data_fd ∨ fd = q.cntl_fd ∨ fd = q.cmd_fd ∧ fd ≠ -1 := by
          simp only [channels,sockets,Bool.false_eq_true,if_false,List.mem_filter,List.mem_cons,List.not_mem_nil,or_false,
            decide_eq_true_eq] at channel
          grind
        dsimp only
        omega
    held := by
      intro d known a points
      rcases List.mem_append.mp known with old | added
      · obtain ⟨r,there,same,channel⟩ := sound.held d old a points
        refine ⟨r,stays there ?_,same,channel⟩
        intro mine
        rw [sound.same there listed (mine.trans addr),no_channel] at channel
        cases channel
      · obtain ⟨fd,channel,rfl⟩ := List.mem_map.mp added
        exact ⟨q,here,Option.some.inj points,channel⟩
    holds := by
      intro r there fd channel
      rcases cases there with rfl | ⟨known,_⟩
      · exact new channel
      · exact List.mem_append_left _ (sound.holds r known fd channel)
    reading := by
      intro w there
      rcases List.mem_append.mp there with old | added
      · exact List.mem_append_left _ (sound.reading w old)
      · obtain ⟨mine,channel⟩ := readers_mem sockets isOpen added
        rw [mine]
        exact new channel
    writing := by
      intro w there
      rcases List.mem_append.mp there with old | added
      · exact List.mem_append_left _ (sound.writing w old)
      · obtain ⟨mine,channel⟩ := writers_mem sockets isOpen added
        rw [mine]
        exact new channel
    read := by
      intro r there behind
      have mine := fun w member => (@readers_mem q sockets isOpen w member).1
      rcases cases there with rfl | ⟨known,other⟩
      · rw [with_channels,List.filter_append,filter_all mine,addr,sound.read p listed rpmsg,no_reader,List.nil_append]
      · refine (filter_append_others (fun w : ReadWatch => w.cb.data) s.read_watches ?_).trans (sound.read r known behind)
        exact fun w member same => other (Option.some.inj (same.symm.trans (mine w member)))
    written := by
      intro r there behind
      have mine := fun w member => (@writers_mem q sockets isOpen w member).1
      have all := @filter_all _ (fun w : WriteWatch => owner w.queue) (writers q) q.addr mine
      rcases cases there with rfl | ⟨known,other⟩
      · rw [with_channels,List.filter_append,all,addr,sound.written p listed rpmsg,no_writer,List.nil_append]
      · refine (filter_append_others (fun w : WriteWatch => owner w.queue) s.aio_watches ?_).trans
          (sound.written r known behind)
        exact fun w member same => other (Option.some.inj (same.symm.trans (mine w member)))
    sockets := by
      intro r there socket w member points
      rcases cases there with rfl | ⟨known,other⟩
      · rw [sockets] at socket
        cases socket
      · rcases List.mem_append.mp member with old | added
        · exact sound.sockets r known socket w old points
        · exact absurd (Option.some.inj (points.symm.trans (readers_mem sockets isOpen added).1)) other }

/-! ## The other steps -/

theorem timer_sound (sound : Sound s) (a : Nat) :
    Sound { s with timers := s.timers.erase a } ∧ a ∉ s.timers.erase a := by
  refine ⟨?_,sound.once.not_mem_erase⟩
  exact { sound with
    once := sound.once.erase a
    pending := fun b waits => sound.pending b (List.mem_of_mem_erase waits) }

theorem registered_sound (sound : Sound s) {diag_cmds : List (DiagCmd Nat)}
    (registered : ∀ dc ∈ diag_cmds, dc.target ∈ s.peripherals.map Peripheral.addr) :
    Sound { s with diag_cmds := diag_cmds } :=
  { sound with registered := registered }

theorem cntl_recv_sound (sound : Sound s) (listed : p ∈ s.peripherals) (packets : List CntlPacket) :
    Sound { s with diag_cmds := diag_cntl_recv p.addr s.diag_cmds packets } := by
  refine registered_sound sound ?_
  have here : p.addr ∈ s.peripherals.map Peripheral.addr := List.mem_map_of_mem listed
  unfold diag_cntl_recv
  have start := sound.registered
  generalize s.diag_cmds = diag_cmds at start ⊢
  induction packets generalizing diag_cmds with
  | nil => exact start
  | cons packet packets ih =>
    refine ih _ ?_
    intro dc entry
    cases packet with
    | register pkt =>
      dsimp only at entry
      rw [register_entries] at entry
      rcases List.mem_append.mp entry with old | new
      · exact start dc old
      · exact (entries_of new).symm ▸ here
    | deregister pkt =>
      dsimp only at entry
      rw [deregister_eq] at entry
      exact start dc (List.mem_of_mem_filter entry)
    | other => exact start dc entry

/-- Watches that are taken away, none of them of a peripheral behind rpmsg. -/
theorem fewer_sound (sound : Sound s) {read_watches : List ReadWatch} {aio_watches : List WriteWatch}
    (reads : read_watches ⊆ s.read_watches) (writes : aio_watches ⊆ s.aio_watches)
    (read : ∀ p ∈ s.peripherals, p.sockets = false → read_watches.filter (fun w => w.cb.data = some p.addr) =
      s.read_watches.filter (fun w => w.cb.data = some p.addr))
    (written : ∀ p ∈ s.peripherals, p.sockets = false → aio_watches.filter (fun w => owner w.queue = some p.addr) =
      s.aio_watches.filter (fun w => owner w.queue = some p.addr)) :
    Sound { s with read_watches := read_watches, aio_watches := aio_watches } :=
  { sound with
    reading := fun w member => sound.reading w (reads member)
    writing := fun w member => sound.writing w (writes member)
    read := fun p listed behind => (read p listed behind).trans (sound.read p listed behind)
    written := fun p listed behind => (written p listed behind).trans (sound.written p listed behind)
    sockets := fun p listed socket w member => sound.sockets p listed socket w (reads member) }

/-- A client's descriptor has no watch of a peripheral. -/
theorem client_ends_sound (sound : Sound s) {w : ReadWatch} (member : w ∈ s.read_watches) (client : w.cb.data = none) :
    Sound (watch_remove_fd s w.fd) := by
  have entry := sound.reading w member
  have other {fd : Int} {a : Nat} (known : ⟨fd,some a⟩ ∈ s.fds) : fd ≠ w.fd := by
    intro same
    have equal := List.inj_on_of_nodup_map sound.distinct known entry same
    rw [client] at equal
    cases equal
  refine fewer_sound sound (List.filter_subset_self _) (List.filter_subset_self _) ?_ ?_
  · intro p _ _
    rw [List.filter_filter]
    refine List.filter_congr ?_
    intro v there
    by_cases points : v.cb.data = some p.addr
    · have apart := other (points ▸ sound.reading v there)
      simp [points,apart]
    · simp [points]
  · intro p _ _
    rw [List.filter_filter]
    refine List.filter_congr ?_
    intro v there
    by_cases points : owner v.queue = some p.addr
    · have apart := other (points ▸ sound.writing v there)
      simp [points,apart]
    · simp [points]

theorem filter_eraseIdx {α : Type} {known : List α} {i : Nat} {x : α} (found : known[i]? = some x) {keep : α → Bool}
    (dropped : keep x = false) : (known.eraseIdx i).filter keep = known.filter keep := by
  obtain ⟨inside,rfl⟩ := List.getElem?_eq_some_iff.mp found
  have split : known = known.take i ++ known[i] :: known.drop (i + 1) := by simp
  rw [List.eraseIdx_eq_take_drop_succ,List.filter_append]
  conv_rhs => rw [split,List.filter_append,List.filter_cons_of_neg (by simp [dropped])]

/-- A watch of a peripheral behind rpmsg has a callback of `peripheral-rpmsg.c`,
    and the peripheral is open. -/
theorem Sound.behind (sound : Sound s) (listed : p ∈ s.peripherals) (rpmsg : p.sockets = false) {w : ReadWatch}
    (member : w ∈ s.read_watches) (points : w.cb.data = some p.addr) : w.cb.rpmsg = true ∧ Open p := by
  have among : w ∈ readers p := by
    rw [← sound.read p listed rpmsg]
    exact List.mem_filter.mpr ⟨member,decide_eq_true points⟩
  constructor
  · unfold readers at among
    split_ifs at among with none command
    · cases among
    · simp only [List.cons_append,List.nil_append,List.mem_cons,List.not_mem_nil,or_false] at among
      rcases among with rfl | rfl | rfl <;> rfl
    · simp only [List.append_nil,List.mem_cons,List.not_mem_nil,or_false] at among
      rcases among with rfl | rfl <;> rfl
  · rcases sound.phase p listed rpmsg with shut | isOpen
    · rw [(shut_channels rpmsg shut).2.1] at among
      cases among
    · exact isOpen

/-- The watch of a client or of a QRTR peripheral is taken from the list. -/
theorem dropped_sound (sound : Sound s) {i : Nat} {w : ReadWatch} (found : s.read_watches[i]? = some w)
    (other : w.cb.rpmsg = false) : Sound { s with read_watches := s.read_watches.eraseIdx i } := by
  refine fewer_sound sound (List.eraseIdx_subset ..) (List.Subset.refl _) ?_ (fun _ _ _ => rfl)
  intro p listed rpmsg
  refine filter_eraseIdx found (decide_eq_false ?_)
  intro points
  have mine := (sound.behind listed rpmsg (List.mem_of_getElem? found) points).1
  rw [other] at mine
  cases mine

/-- A descriptor that is no peripheral's. -/
theorem opened_sound (sound : Sound s) : Sound (opened s none) :=
  { sound with
    distinct := opened_distinct none sound.distinct
    natural := by
      intro d known
      rcases List.mem_append.mp known with old | new
      · exact sound.natural d old
      · rw [List.mem_singleton.mp new]
        exact lowest_natural s
    held := by
      intro d known a points
      rcases List.mem_append.mp known with old | new
      · exact sound.held d old a points
      · rw [List.mem_singleton.mp new] at points
        cases points
    holds := fun p listed fd channel => List.mem_append_left _ (sound.holds p listed fd channel)
    reading := fun w member => List.mem_append_left _ (sound.reading w member)
    writing := fun w member => List.mem_append_left _ (sound.writing w member) }

theorem reader_sound (sound : Sound s) {fd : Int} {cb : Callback} (other : cb.data = none) (entry : ⟨fd,none⟩ ∈ s.fds) :
    Sound (watch_add_readfd s fd cb) :=
  { sound with
    reading := by
      intro w member
      rcases List.mem_append.mp member with old | new
      · exact sound.reading w old
      · rw [List.mem_singleton.mp new,other]
        exact entry
    read := by
      intro p listed rpmsg
      exact (filter_append_others (fun w : ReadWatch => w.cb.data) s.read_watches (by simp [other])).trans
        (sound.read p listed rpmsg)
    sockets := by
      intro p listed socket w member points
      rcases List.mem_append.mp member with old | new
      · exact sound.sockets p listed socket w old points
      · rw [List.mem_singleton.mp new,other] at points
        cases points }

theorem writer_sound (sound : Sound s) {fd : Int} (dm : Nat) (entry : ⟨fd,none⟩ ∈ s.fds) :
    Sound (watch_add_writeq s fd (.outq dm)) :=
  { sound with
    writing := by
      intro w member
      rcases List.mem_append.mp member with old | new
      · exact sound.writing w old
      · rw [List.mem_singleton.mp new]
        exact entry
    written := by
      intro p listed rpmsg
      exact (filter_append_others (fun w : WriteWatch => owner w.queue) s.aio_watches (by simp [owner])).trans
        (sound.written p listed rpmsg) }

theorem unix_listen_sound (sound : Sound s) (nonblocking : Bool) : Sound (unix_listen s nonblocking) := by
  have entry : (⟨lowest s,none⟩ : Descriptor) ∈ (opened s none).fds := List.mem_append_right _ (List.mem_singleton_self _)
  unfold unix_listen
  cases nonblocking with
  | false => exact opened_sound sound
  | true =>
    have added := writer_sound (@reader_sound _ (opened_sound sound) _ .dm_recv rfl entry) s.diag_clients entry
    exact { added with }

theorem devnode_add_sound (sound : Sound s) (devnode name rproc : String) : Sound (devnode_add s devnode name rproc) := by
  unfold devnode_add
  cases found : devnode_get s.devnodes devnode with
  | some _ => exact sound
  | none =>
    refine { sound with nodes := ?_ }
    rw [List.map_append]
    refine sound.nodes.append (List.nodup_singleton _) ?_
    intro path old new
    obtain ⟨node,listed,rfl⟩ := List.mem_map.mp old
    simpa [List.mem_singleton.mp new] using List.find?_eq_none.mp found node listed

theorem devnode_remove_sound (sound : Sound s) (devnode : String) : Sound (devnode_remove s devnode) :=
  { sound with nodes := sound.nodes.sublist (List.eraseP_sublist.map _) }

/-- A peripheral is listed that nothing has a pointer to yet. -/
theorem listed_below (sound : Sound s) (listed : p ∈ s.peripherals) : p.addr ≠ s.next :=
  Nat.ne_of_lt (sound.below p listed)

theorem new_reader (sound : Sound s) {w : ReadWatch} (member : w ∈ s.read_watches) : w.cb.data ≠ some s.next := by
  intro points
  obtain ⟨p,listed,addr⟩ := List.mem_map.mp (sound.watched (sound.reading w member) points)
  exact listed_below sound listed addr

theorem new_writer (sound : Sound s) {w : WriteWatch} (member : w ∈ s.aio_watches) : owner w.queue ≠ some s.next := by
  intro points
  obtain ⟨p,listed,addr⟩ := List.mem_map.mp (sound.watched (sound.writing w member) points)
  exact listed_below sound listed addr

theorem addresses_add (sound : Sound s) {q : Peripheral} (addr : q.addr = s.next) :
    ((s.peripherals ++ [q]).map Peripheral.addr).Nodup := by
  rw [List.map_append]
  refine sound.addresses.append (List.nodup_singleton _) ?_
  intro a old new
  obtain ⟨r,listed,rfl⟩ := List.mem_map.mp old
  exact listed_below sound listed ((List.mem_singleton.mp new).trans addr)

theorem peripheral_create_sound (sound : Sound s) (rproc channel : String) : Sound (peripheral_create s rproc channel) := by
  unfold peripheral_create
  split_ifs with secondary known
  · exact sound
  · exact sound
  · have unknown : ∀ r ∈ s.peripherals, r.name ≠ rproc := by simpa using known
    have cases {r : Peripheral} (here : r ∈ s.peripherals ++ [⟨s.next,rproc,false,-1,-1,-1,0⟩]) :
        r ∈ s.peripherals ∨ r = ⟨s.next,rproc,false,-1,-1,-1,0⟩ := by simpa using here
    have shut : Shut ⟨s.next,rproc,false,-1,-1,-1,0⟩ := ⟨rfl,rfl,rfl⟩
    obtain ⟨no_channel,no_reader,no_writer⟩ := shut_channels rfl shut
    exact { sound with
      addresses := addresses_add sound rfl
      names := by
        rw [List.filter_append,List.map_append]
        refine sound.names.append (List.nodup_singleton _) ?_
        intro name old new
        obtain ⟨r,listed,rfl⟩ := List.mem_map.mp old
        exact unknown r (List.mem_of_mem_filter listed) (List.mem_singleton.mp new)
      below := by
        intro r here
        rcases cases here with old | rfl
        · exact Nat.lt_succ_of_lt (sound.below r old)
        · exact Nat.lt_succ_self s.next
      phase := by
        intro r here rpmsg
        rcases cases here with old | rfl
        · exact sound.phase r old rpmsg
        · exact .inl shut
      once := by
        refine sound.once.append (List.nodup_singleton _) ?_
        intro a old new
        obtain ⟨r,listed,addr,_⟩ := sound.pending a old
        exact listed_below sound listed (addr.trans (List.mem_singleton.mp new))
      pending := by
        intro a waits
        rcases List.mem_append.mp waits with old | new
        · obtain ⟨r,listed,rest⟩ := sound.pending a old
          exact ⟨r,List.mem_append_left _ listed,rest⟩
        · rw [List.mem_singleton.mp new]
          exact ⟨_,List.mem_append_right _ (List.mem_singleton_self _),rfl,rfl,shut⟩
      registered := by
        intro dc entry
        rw [List.map_append]
        exact List.mem_append_left _ (sound.registered dc entry)
      held := by
        intro d known a points
        obtain ⟨r,listed,rest⟩ := sound.held d known a points
        exact ⟨r,List.mem_append_left _ listed,rest⟩
      holds := by
        intro r here fd channel
        rcases cases here with old | rfl
        · exact sound.holds r old fd channel
        · rw [no_channel] at channel
          cases channel
      read := by
        intro r here rpmsg
        rcases cases here with old | rfl
        · exact sound.read r old rpmsg
        · rw [no_reader]
          exact filter_none (fun w member => new_reader sound member)
      written := by
        intro r here rpmsg
        rcases cases here with old | rfl
        · exact sound.written r old rpmsg
        · rw [no_writer]
          exact @filter_none _ (fun w : WriteWatch => owner w.queue) _ _ (fun w member => new_writer sound member)
      sockets := by
        intro r here socket
        rcases cases here with old | rfl
        · exact sound.sockets r old socket
        · cases socket }

theorem device_found_sound (sound : Sound s) (device : UdevDevice) : Sound (device_found s device) := by
  unfold device_found
  split
  · exact peripheral_create_sound (devnode_add_sound sound _ _ _) _ _
  · exact sound

theorem udev_update_sound (sound : Sound s) (device : Option UdevDevice) : Sound (peripheral_udev_update s device) := by
  cases device with
  | none => exact sound
  | some device =>
    unfold peripheral_udev_update
    dsimp only
    cases device.devnode with
    | none => exact sound
    | some devnode =>
      cases device.action with
      | add => exact device_found_sound sound device
      | remove => exact devnode_remove_sound sound devnode
      | other => exact sound

/-- What `qrtr_perif_init_subsystem` adds. -/
theorem qrtr_init_eq (s : Router) (distinct : (s.fds.map Descriptor.fd).Nodup) (name : String) :
    ∃ q, q.addr = s.next ∧ q.sockets = true ∧ (s.fds.map Descriptor.fd ++ channels q).Nodup ∧ (∀ fd ∈ channels q, 0 ≤ fd) ∧
      qrtr_perif_init_subsystem s name = { s with
        fds := s.fds ++ (channels q).map (fun fd => ⟨fd,some q.addr⟩)
        read_watches := s.read_watches ++
          [⟨q.cntl_fd,.qrtr_cntl_recv q.addr⟩,⟨q.cmd_fd,.qrtr_cmd_recv q.addr⟩,⟨q.data_fd,.qrtr_data_recv q.addr⟩]
        peripherals := s.peripherals ++ [q]
        next := s.next + 1 } := by
  have all := opened_distinct (some s.next) (opened_distinct (some s.next) (opened_distinct (some s.next)
    (opened_distinct (some s.next) distinct)))
  rw [opened_fds,opened_fds,opened_fds,opened_fds] at all
  refine ⟨⟨s.next,name,true,lowest (opened s (some s.next)),lowest s,lowest (opened (opened s (some s.next)) (some s.next)),
    lowest (opened (opened (opened s (some s.next)) (some s.next)) (some s.next))⟩,rfl,rfl,?_,?_,?_⟩
  · simpa [channels] using all
  · simp [channels,lowest_natural]
  · simp [qrtr_perif_init_subsystem,watch_add_readfd,channels,opened]

theorem qrtr_init_sound (sound : Sound s) (name : String) : Sound (qrtr_perif_init_subsystem s name) := by
  obtain ⟨q,addr,socket,apart,natural,same⟩ := qrtr_init_eq s sound.distinct name
  rw [same]
  have cases {r : Peripheral} (here : r ∈ s.peripherals ++ [q]) : r ∈ s.peripherals ∨ r = q := by simpa using here
  have new {fd : Int} (channel : fd ∈ channels q) :
      (⟨fd,some q.addr⟩ : Descriptor) ∈ s.fds ++ (channels q).map (fun fd => ⟨fd,some q.addr⟩) :=
    List.mem_append_right _ (List.mem_map_of_mem channel)
  exact {
    nodes := sound.nodes
    addresses := addresses_add sound addr
    names := by
      rw [List.filter_append,List.filter_cons_of_neg (by simp [socket]),List.filter_nil,List.append_nil]
      exact sound.names
    below := by
      intro r here
      rcases cases here with old | rfl
      · exact Nat.lt_succ_of_lt (sound.below r old)
      · exact addr ▸ Nat.lt_succ_self _
    phase := by
      intro r here rpmsg
      rcases cases here with old | rfl
      · exact sound.phase r old rpmsg
      · rw [socket] at rpmsg
        cases rpmsg
    once := sound.once
    pending := by
      intro a waits
      obtain ⟨r,listed,rest⟩ := sound.pending a waits
      exact ⟨r,List.mem_append_left _ listed,rest⟩
    registered := by
      intro dc entry
      rw [List.map_append]
      exact List.mem_append_left _ (sound.registered dc entry)
    distinct := by
      rw [List.map_append,List.map_map]
      have fds : (channels q).map (Descriptor.fd ∘ fun fd => ⟨fd,some q.addr⟩) = channels q := List.map_id _
      rw [fds]
      exact apart
    natural := by
      intro d known
      rcases List.mem_append.mp known with old | added
      · exact sound.natural d old
      · obtain ⟨fd,channel,rfl⟩ := List.mem_map.mp added
        exact natural fd channel
    held := by
      intro d known a points
      rcases List.mem_append.mp known with old | added
      · obtain ⟨r,listed,rest⟩ := sound.held d old a points
        exact ⟨r,List.mem_append_left _ listed,rest⟩
      · obtain ⟨fd,channel,rfl⟩ := List.mem_map.mp added
        exact ⟨q,List.mem_append_right _ (List.mem_singleton_self q),Option.some.inj points,channel⟩
    holds := by
      intro r here fd channel
      rcases cases here with old | rfl
      · exact List.mem_append_left _ (sound.holds r old fd channel)
      · exact new channel
    reading := by
      intro w there
      rcases List.mem_append.mp there with old | added
      · exact List.mem_append_left _ (sound.reading w old)
      · simp only [List.mem_cons,List.not_mem_nil,or_false] at added
        rcases added with rfl | rfl | rfl <;> exact new (by simp [channels,socket])
    writing := fun w there => List.mem_append_left _ (sound.writing w there)
    read := by
      intro r here rpmsg
      rcases cases here with old | rfl
      · have other : q.addr ≠ r.addr := fun same => listed_below sound old (same.symm.trans addr)
        exact (filter_append_others (fun w : ReadWatch => w.cb.data) s.read_watches (by simp [Callback.data,other])).trans
          (sound.read r old rpmsg)
      · rw [socket] at rpmsg
        cases rpmsg
    written := by
      intro r here rpmsg
      rcases cases here with old | rfl
      · exact sound.written r old rpmsg
      · rw [socket] at rpmsg
        cases rpmsg
    sockets := by
      intro r here sockets w member points
      rcases List.mem_append.mp member with old | added
      · rcases cases here with known | rfl
        · exact sound.sockets r known sockets w old points
        · exact absurd (points.trans (congrArg some addr)) (new_reader sound old)
      · simp only [List.mem_cons,List.not_mem_nil,or_false] at added
        rcases added with rfl | rfl | rfl <;> rfl }

/-! ## Runs -/

/-- A peripheral without channels stays, and only new ones get a timer. -/
structure Keeps (s t : Router) : Prop where
  stays : ∀ p ∈ s.peripherals, p.sockets = false → Shut p → p ∈ t.peripherals
  timers : ∀ a ∈ t.timers, a ∈ s.timers ∨ s.next ≤ a

theorem Keeps.same {t : Router} (peripherals : t.peripherals = s.peripherals) (timers : t.timers = s.timers) : Keeps s t :=
  ⟨fun _ listed _ _ => peripherals ▸ listed,fun _ waits => .inl (timers ▸ waits)⟩

theorem create_keeps (s : Router) (rproc channel : String) : Keeps s (peripheral_create s rproc channel) := by
  unfold peripheral_create
  split_ifs with secondary known
  · exact .same rfl rfl
  · exact .same rfl rfl
  · refine ⟨fun p listed _ _ => List.mem_append_left _ listed,?_⟩
    intro a waits
    rcases List.mem_append.mp waits with old | new
    · exact .inl old
    · exact .inr (List.mem_singleton.mp new).ge

theorem device_found_keeps (s : Router) (device : UdevDevice) :
    Keeps s (device_found s device) ∧ (device_found s device).fds = s.fds := by
  have added (devnode name rproc : String) : (devnode_add s devnode name rproc).peripherals = s.peripherals ∧
      (devnode_add s devnode name rproc).timers = s.timers ∧ (devnode_add s devnode name rproc).next = s.next ∧
      (devnode_add s devnode name rproc).fds = s.fds := by
    unfold devnode_add
    split <;> exact ⟨rfl,rfl,rfl,rfl⟩
  have created (s : Router) (rproc channel : String) : (peripheral_create s rproc channel).fds = s.fds := by
    unfold peripheral_create
    split_ifs <;> rfl
  unfold device_found
  cases device.devnode with
  | none => exact ⟨.same rfl rfl,rfl⟩
  | some devnode =>
    cases device.name with
    | none => exact ⟨.same rfl rfl,rfl⟩
    | some name =>
      cases peripheral_udev_get_remoteproc device.parents with
      | none => exact ⟨.same rfl rfl,rfl⟩
      | some rproc =>
        obtain ⟨peripherals,timers,next,fds⟩ := added devnode name rproc
        obtain ⟨stays,new⟩ := create_keeps (devnode_add s devnode name rproc) rproc name
        rw [peripherals] at stays
        rw [timers,next] at new
        exact ⟨⟨stays,new⟩,(created _ rproc name).trans fds⟩

theorem udev_update_keeps (s : Router) (device : Option UdevDevice) : Keeps s (peripheral_udev_update s device) := by
  cases device with
  | none => exact .same rfl rfl
  | some device =>
    unfold peripheral_udev_update
    dsimp only
    cases device.devnode with
    | none => exact .same rfl rfl
    | some devnode =>
      cases device.action with
      | add => exact (device_found_keeps s device).1
      | remove => exact .same rfl rfl
      | other => exact .same rfl rfl

theorem close_keeps (sound : Sound s) (listed : p ∈ s.peripherals) (rpmsg : p.sockets = false) (isOpen : Open p) :
    Keeps s (perif_rpmsg_close s p) := by
  rw [close_eq sound listed rpmsg isOpen]
  refine ⟨?_,fun a waits => .inl waits⟩
  intro q here _ shut
  refine List.mem_filter.mpr ⟨here,decide_eq_true ?_⟩
  intro same
  rw [sound.same here listed same] at shut
  have data := isOpen.1
  rw [shut.1] at data
  omega

/-- A callback finds its peripheral in the list. -/
theorem call_sound (sound : Sound s) {i : Nat} {w : ReadWatch} (found : s.read_watches[i]? = some w) (input : Input) :
    ∃ t, call s i w input = .ok t ∧ Sound t ∧ Keeps s t := by
  have member := List.mem_of_getElem? found
  have still : Keeps s s := .same rfl rfl
  unfold call
  cases points : w.cb.data with
  | none =>
    have dropped (other : w.cb.rpmsg = false) := dropped_sound sound found other
    have ends := client_ends_sound sound member points
    dsimp only
    cases callback : w.cb with
    | peripheral_udev_update =>
      cases input with
      | device device => exact ⟨_,rfl,udev_update_sound sound device,udev_update_keeps s device⟩
      | _ => exact ⟨_,rfl,sound,still⟩
    | unix_listen =>
      cases input with
      | connection nonblocking =>
        refine ⟨_,rfl,unix_listen_sound sound nonblocking,?_⟩
        cases nonblocking <;> exact .same rfl rfl
      | _ => exact ⟨_,rfl,sound,still⟩
    | dm_recv =>
      cases input with
      | ended => exact ⟨_,rfl,ends,.same rfl rfl⟩
      | failed => exact ⟨_,rfl,dropped (by rw [callback]; rfl),.same rfl rfl⟩
      | _ => exact ⟨_,rfl,sound,still⟩
    | _ => exact ⟨_,rfl,sound,still⟩
  | some a =>
    obtain ⟨p,listed,addr,alive⟩ := sound.alive (sound.watched (sound.reading w member) points)
    have closed (mine : w.cb.rpmsg = true) : Sound (perif_rpmsg_close s p) ∧ Keeps s (perif_rpmsg_close s p) := by
      have rpmsg : p.sockets = false := by
        cases kind : p.sockets with
        | false => rfl
        | true => exact absurd mine (by simp [sound.sockets p listed kind w member (addr ▸ points)])
      have isOpen := (sound.behind listed rpmsg member (addr ▸ points)).2
      exact ⟨close_sound sound listed rpmsg isOpen,close_keeps sound listed rpmsg isOpen⟩
    have received (packets : List CntlPacket) := cntl_recv_sound sound listed packets
    have dropped (other : w.cb.rpmsg = false) := dropped_sound sound found other
    dsimp only
    rw [alive,ok_bind]
    cases callback : w.cb with
    | peripheral_udev_update => exact ⟨_,rfl,sound,still⟩
    | unix_listen => exact ⟨_,rfl,sound,still⟩
    | dm_recv => exact ⟨_,rfl,sound,still⟩
    | rpmsg_perif_cntl_recv =>
      cases input with
      | packets packets => exact ⟨_,rfl,received packets,.same rfl rfl⟩
      | failed => exact ⟨_,rfl,closed (by rw [callback]; rfl)⟩
      | _ => exact ⟨_,rfl,sound,still⟩
    | diag_data_recv =>
      cases input with
      | failed => exact ⟨_,rfl,closed (by rw [callback]; rfl)⟩
      | _ => exact ⟨_,rfl,sound,still⟩
    | diag_cmd_recv =>
      cases input with
      | failed => exact ⟨_,rfl,closed (by rw [callback]; rfl)⟩
      | _ => exact ⟨_,rfl,sound,still⟩
    | qrtr_cntl_recv =>
      cases input with
      | packets packets => exact ⟨_,rfl,received packets,.same rfl rfl⟩
      | failed => exact ⟨_,rfl,dropped (by rw [callback]; rfl),.same rfl rfl⟩
      | _ => exact ⟨_,rfl,sound,still⟩
    | qrtr_cmd_recv =>
      cases input with
      | failed => exact ⟨_,rfl,dropped (by rw [callback]; rfl),.same rfl rfl⟩
      | _ => exact ⟨_,rfl,sound,still⟩
    | qrtr_data_recv =>
      cases input with
      | failed => exact ⟨_,rfl,dropped (by rw [callback]; rfl),.same rfl rfl⟩
      | _ => exact ⟨_,rfl,sound,still⟩

/-- A timer opens its peripheral, or leaves everything as it is but itself. -/
theorem timer_step (sound : Sound s) {a : Nat} (due : a ∈ s.timers) (opens : String → Bool) :
    ∃ p ∈ s.peripherals, p.addr = a ∧ p.sockets = false ∧
      ((step s (.timer a opens) = .ok { s with timers := s.timers.erase a } ∧ Shut p ∧
          ¬ Openable opens s.devnodes p.name) ∨
        Openable opens s.devnodes p.name ∧ ∃ q, q.name = p.name ∧ q.sockets = false ∧ Open q ∧
          Sound (with_channels { s with timers := s.timers.erase a } q) ∧ q.addr = p.addr ∧
          step s (.timer a opens) = .ok (with_channels { s with timers := s.timers.erase a } q)) := by
  obtain ⟨p,listed,addr,rpmsg,shut⟩ := sound.pending a due
  obtain ⟨before,idle⟩ := timer_sound sound a
  refine ⟨p,listed,addr,rpmsg,?_⟩
  rw [step,if_pos due,← addr,sound.found listed]
  rw [← addr] at before idle
  rcases peripheral_open_cases opens before listed rpmsg shut with ⟨same,missing⟩ | ⟨there,q,q_addr,name,sockets,isOpen,apart,same⟩
  · exact .inl ⟨congrArg Except.ok same,shut,missing⟩
  · refine .inr ⟨there,q,name,sockets,isOpen,?_,q_addr,congrArg Except.ok same⟩
    exact with_channels_sound before listed rpmsg shut idle q_addr name sockets isOpen apart

theorem send_all_ok (sound : Sound s) {targets : List Nat} (known : ∀ a ∈ targets, a ∈ s.peripherals.map Peripheral.addr) :
    targets.foldlM (fun s a => peripheral_send a s) s = .ok s := by
  induction targets with
  | nil => rfl
  | cons a targets ih =>
    obtain ⟨p,_,_,alive⟩ := sound.alive (known a List.mem_cons_self)
    have sent : peripheral_send a s = .ok s := by
      rw [peripheral_send,alive]
      rfl
    rw [List.foldlM_cons,sent]
    exact ih (fun b member => known b (List.mem_cons_of_mem a member))

theorem dispatch_ok (sound : Sound s) (msg : Nat → UInt8) : step s (.diag_cmd_dispatch msg) = .ok s := by
  have sent := @send_all_ok s sound ((s.diag_cmds.filter (covers (message_key msg))).map DiagCmd.target) (by
    intro a member
    obtain ⟨dc,entry,rfl⟩ := List.mem_map.mp member
    exact sound.registered dc (List.mem_of_mem_filter entry))
  simp only [step,Dispatch.diag_cmd_dispatch]
  cases common_cmds.find? (covers (message_key msg)) with
  | some dc => rfl
  | none =>
    dsimp only
    rw [send_loop_eq]
    dsimp only
    rw [sent]
    simp only [map_ok,ok_bind]
    split_ifs with handled
    · rfl
    · cases fallback_cmds.find? (covers (message_key msg)) with
      | some dc => rfl
      | none => rfl

theorem submit_ok (sound : Sound s) : step s .submit_pass = .ok s := by
  have visits : ∀ watches : List WriteWatch, watches ⊆ s.aio_watches → exec submit_visit s watches = .ok s := by
    intro watches among
    induction watches with
    | nil => rfl
    | cons w watches ih =>
      have visited : submit_visit s w = .ok s := by
        unfold submit_visit
        cases points : owner w.queue with
        | none => rfl
        | some a =>
          obtain ⟨p,_,_,alive⟩ := sound.alive (sound.watched (sound.writing w (among List.mem_cons_self)) points)
          dsimp only
          rw [alive]
          rfl
      simp only [exec,visited,ok_bind]
      exact ih (fun v member => among (List.mem_cons_of_mem w member))
  exact visits s.aio_watches (List.Subset.refl _)

theorem step_sound (sound : Sound s) (a : Action) : ∃ t, step s a = .ok t ∧ Sound t := by
  cases a with
  | ready i input =>
    rw [step]
    cases found : s.read_watches[i]? with
    | none => exact ⟨s,rfl,sound⟩
    | some w =>
      obtain ⟨t,called,after,_⟩ := call_sound sound found input
      exact ⟨t,called,after⟩
  | timer peripheral opens =>
    by_cases due : peripheral ∈ s.timers
    · obtain ⟨p,_,_,_,⟨same,_⟩ | ⟨_,q,_,_,_,after,_,same⟩⟩ := timer_step sound due opens
      · exact ⟨_,same,(timer_sound sound peripheral).1⟩
      · exact ⟨_,same,after⟩
    · exact ⟨s,by rw [step,if_neg due],sound⟩
  | qrtr_perif_init_subsystem name => exact ⟨_,rfl,qrtr_init_sound sound name⟩
  | diag_cmd_dispatch msg => exact ⟨s,dispatch_ok sound msg,sound⟩
  | submit_pass => exact ⟨s,submit_ok sound,sound⟩

theorem main_start_sound : Sound main_start := by
  constructor <;> simp [main_start]

theorem init_sound (devices : List UdevDevice) : Sound (peripheral_rpmsg_init main_start devices) := by
  have found : ∀ s : Router, Sound s → Sound (devices.foldl device_found s) ∧ (devices.foldl device_found s).fds = s.fds := by
    induction devices with
    | nil => exact fun s sound => ⟨sound,rfl⟩
    | cons device devices ih =>
      intro s sound
      obtain ⟨after,fds⟩ := ih (device_found s device) (device_found_sound sound device)
      exact ⟨after,fds.trans (device_found_keeps s device).2⟩
  obtain ⟨sound,fds⟩ := found (opened main_start none) (opened_sound main_start_sound)
  refine reader_sound sound rfl ?_
  rw [fds]
  exact List.mem_append_right _ (List.mem_singleton_self _)

/-- The peripheral is listed without channels, and no timer will open them. -/
def Lost (a : Nat) (name : String) (s : Router) : Prop :=
  a ∉ s.timers ∧ ∃ p ∈ s.peripherals, p.addr = a ∧ p.name = name ∧ p.sockets = false ∧ Shut p

theorem Lost.keeps {t : Router} {a : Nat} {name : String} (lost : Lost a name s) (sound : Sound s) (keeps : Keeps s t) :
    Lost a name t := by
  obtain ⟨idle,p,listed,addr,same,rpmsg,shut⟩ := lost
  refine ⟨?_,p,keeps.stays p listed rpmsg shut,addr,same,rpmsg,shut⟩
  intro waits
  have below := sound.below p listed
  rcases keeps.timers a waits with old | new
  · exact idle old
  · omega

theorem lost_step {t : Router} {a : Nat} {name : String} {action : Action} (sound : Sound s) (lost : Lost a name s)
    (stepped : step s action = .ok t) : Lost a name t := by
  cases action with
  | ready i input =>
    rw [step] at stepped
    cases found : s.read_watches[i]? with
    | none =>
      rw [found] at stepped
      cases stepped
      exact lost
    | some w =>
      rw [found] at stepped
      obtain ⟨u,called,_,keeps⟩ := call_sound sound found input
      cases called.symm.trans stepped
      exact lost.keeps sound keeps
  | timer b opens =>
    by_cases due : b ∈ s.timers
    · obtain ⟨p,listed,addr,_,⟨same,_⟩ | ⟨_,q,_,_,_,_,q_addr,same⟩⟩ := timer_step sound due opens
      · cases same.symm.trans stepped
        exact lost.keeps sound ⟨fun _ here _ _ => here,fun _ waits => .inl (List.mem_of_mem_erase waits)⟩
      · cases same.symm.trans stepped
        obtain ⟨idle,r,here,r_addr,rest⟩ := lost
        refine ⟨fun waits => idle (List.mem_of_mem_erase waits),r,List.mem_map.mpr ⟨r,here,if_neg ?_⟩,r_addr,rest⟩
        intro other
        exact idle (r_addr ▸ other ▸ q_addr ▸ addr ▸ due)
    · rw [step,if_neg due] at stepped
      cases stepped
      exact lost
  | qrtr_perif_init_subsystem other =>
    obtain ⟨q,_,_,_,_,same⟩ := qrtr_init_eq s sound.distinct other
    cases stepped
    rw [same]
    exact lost.keeps sound ⟨fun _ here _ _ => List.mem_append_left _ here,fun _ waits => .inl waits⟩
  | diag_cmd_dispatch msg =>
    cases (dispatch_ok sound msg).symm.trans stepped
    exact lost
  | submit_pass =>
    cases (submit_ok sound).symm.trans stepped
    exact lost

theorem Sound.stepped {t : Router} {action : Action} (sound : Sound s) (stepped : step s action = .ok t) : Sound t := by
  obtain ⟨u,same,after⟩ := step_sound sound action
  cases same.symm.trans stepped
  exact after

/-- Two peripherals behind rpmsg do not have one name. -/
theorem Sound.named (sound : Sound s) {q : Peripheral} (listed : p ∈ s.peripherals) (rpmsg : p.sockets = false)
    (there : q ∈ s.peripherals) (behind : q.sockets = false) (name : p.name = q.name) : p = q :=
  List.inj_on_of_nodup_map sound.names (List.mem_filter.mpr ⟨listed,by simp [rpmsg]⟩)
    (List.mem_filter.mpr ⟨there,by simp [behind]⟩) name

end

/-- When the timer of a peripheral calls, the nodes of its two channels can be
    opened, or no peripheral of that processor ever has a channel again: the
    timer does not come back, and the peripheral that is listed keeps
    `peripheral_create` from making another. -/
theorem now_or_never (devices : List UdevDevice) (actions : List Action) {s t : Router} {a : Nat} {opens : String → Bool}
    (run : exec step (peripheral_rpmsg_init main_start devices) actions = .ok s) (due : a ∈ s.timers)
    (fired : step s (.timer a opens) = .ok t) :
    ∃ p ∈ s.peripherals, p.addr = a ∧ (Openable opens s.devnodes p.name ↔
      ∃ later u, exec step t later = .ok u ∧
        ∃ q ∈ u.peripherals, q.sockets = false ∧ q.name = p.name ∧ (q.cntl_fd ≠ -1 ∨ q.data_fd ≠ -1 ∨ q.cmd_fd ≠ -1)) := by
  have sound := exec_invariant Sound.stepped (init_sound devices) run
  obtain ⟨p,listed,addr,rpmsg,⟨same,shut,missing⟩ | ⟨there,q,name,sockets,isOpen,after,q_addr,same⟩⟩ :=
    timer_step sound due opens
  · cases same.symm.trans fired
    refine ⟨p,listed,addr,fun there => absurd there missing,?_⟩
    rintro ⟨later,u,ran,q,here,behind,q_name,channel⟩
    obtain ⟨before,idle⟩ := timer_sound sound a
    have lost : Lost a p.name { s with timers := s.timers.erase a } := ⟨idle,p,listed,addr,rfl,rpmsg,shut⟩
    obtain ⟨sound_later,_,r,r_here,_,r_name,r_behind,r_shut⟩ := exec_invariant
      (I := fun u => Sound u ∧ Lost a p.name u)
      (fun both stepped => ⟨both.1.stepped stepped,lost_step both.1 both.2 stepped⟩) ⟨before,lost⟩ ran
    rw [sound_later.named here behind r_here r_behind (q_name.trans r_name.symm)] at channel
    obtain ⟨data,cntl,cmd⟩ := r_shut
    simp [data,cntl,cmd] at channel
  · cases same.symm.trans fired
    refine ⟨p,listed,addr,fun _ => ?_,fun _ => there⟩
    refine ⟨[],_,rfl,q,?_,sockets,name,.inl ?_⟩
    · exact List.mem_map.mpr ⟨p,listed,if_pos q_addr.symm⟩
    · have cntl := isOpen.2.1
      omega

/-- The nodes of a processor's two channels. -/
def data_node : UdevDevice := ⟨.add,some "/dev/rpmsg0",some "DIAG",[none,some "modem"]⟩

def control_node : UdevDevice := ⟨.add,some "/dev/rpmsg1",some "DIAG_CNTL",[none,some "modem"]⟩

/-- The timer calls before the node of the control channel is there, and after. -/
theorem modem_now_or_never :
    (∃ t, step (peripheral_rpmsg_init main_start [data_node]) (.timer 0 (fun _ => true)) = .ok t ∧
      ∃ p ∈ (peripheral_rpmsg_init main_start [data_node]).peripherals, p.addr = 0 ∧
        (Openable (fun _ => true) (peripheral_rpmsg_init main_start [data_node]).devnodes p.name ↔
          ∃ later u, exec step t later = .ok u ∧ ∃ q ∈ u.peripherals, q.sockets = false ∧ q.name = p.name ∧
            (q.cntl_fd ≠ -1 ∨ q.data_fd ≠ -1 ∨ q.cmd_fd ≠ -1))) ∧
    ∃ s t, exec step (peripheral_rpmsg_init main_start [data_node]) [.ready 0 (.device (some control_node))] = .ok s ∧
      step s (.timer 0 (fun _ => true)) = .ok t ∧ ∃ p ∈ s.peripherals, p.addr = 0 ∧
        (Openable (fun _ => true) s.devnodes p.name ↔
          ∃ later u, exec step t later = .ok u ∧ ∃ q ∈ u.peripherals, q.sockets = false ∧ q.name = p.name ∧
            (q.cntl_fd ≠ -1 ∨ q.data_fd ≠ -1 ∨ q.cmd_fd ≠ -1)) :=
  ⟨⟨_,rfl,now_or_never [data_node] [] rfl (by decide) rfl⟩,
    ⟨_,_,rfl,rfl,now_or_never [data_node] [.ready 0 (.device (some control_node))] rfl (by decide) rfl⟩⟩

/-- The peripheral that comes in time is opened on the lowest descriptors. -/
example : (exec step (peripheral_rpmsg_init main_start [data_node])
      [.ready 0 (.device (some control_node)),.timer 0 (fun _ => true)]).toOption.map (fun t => t.peripherals) =
    some [⟨0,"modem",false,4,5,-1,0⟩] := by
  decide

end DiagRouter.Rpmsg

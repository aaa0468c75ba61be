import DiagRouter.MainLoop

/-!
# Channels

Which descriptors the main loop writes and reads. Every asynchronous watch is on
the descriptor of what its queue belongs to, and a channel of a processor has
one while it is open. USB is the exception: each time it is enabled it gets one
more, with one buffer for all of them. A descriptor whose callback has failed is
not read again.
-/
namespace DiagRouter.Channels
open DiagRouter.Lib.Memory DiagRouter.Lib.Runs DiagRouter.Watch DiagRouter.FlowControl DiagRouter.MainLoop
open DiagRouter.Endpoints hiding Action step

/-- The descriptor of what a queue belongs to. -/
def socket_of (s : Router) : Queue → Option Int
  | .outq dm => s.diag_clients[dm]?.map DiagClient.out_fd
  | .cmdq i => s.peripherals[i]?.map Peripheral.cmd_fd
  | .cntlq i => s.peripherals[i]?.map Peripheral.cntl_fd
  | .dataq i => s.peripherals[i]?.map Peripheral.data_fd
  | .ffs_outq => s.ffs.map UsbHandle.bulk_out

def watches_on (io : Watches) (queue : Queue) : Nat := io.aio_watches.countP (fun w => w.queue = queue)

/-- Watches are where they belong: an encoded client has one, a RAW client at
    most one, and a channel one exactly while it is open. -/
structure Connected (s : Router) : Prop where
  socket : ∀ w ∈ s.io.aio_watches, socket_of s w.queue = some w.fd
  client : ∀ (dm : Nat) client, s.diag_clients[dm]? = some client →
    watches_on s.io (.outq dm) ≤ 1 ∧ (client.encode_type ≠ .RAW → watches_on s.io (.outq dm) = 1)
  control : ∀ (i : Nat) perif, s.peripherals[i]? = some perif → watches_on s.io (.cntlq i) = if perif.cntl_open then 1 else 0
  data : ∀ (i : Nat) perif, s.peripherals[i]? = some perif → watches_on s.io (.dataq i) = if perif.data_open then 1 else 0

/-- No two queues have one descriptor, and all descriptors are known. -/
structure Apart (opened : List Int) (socket : Queue → Option Int) : Prop where
  known : ∀ queue fd, socket queue = some fd → fd ∈ opened
  one : ∀ queue other fd, socket queue = some fd → socket other = some fd → queue = other

section
variable {opened : List Int} {socket : Queue → Option Int} {io : Watches} {s t : Router}

theorem Apart.mono (apart : Apart opened socket) {more : List Int} (known : opened ⊆ more) : Apart more socket :=
  ⟨fun queue fd here => known (apart.known queue fd here),apart.one⟩

/-- A queue with a descriptor that nothing has. -/
theorem Apart.added (apart : Apart opened socket) {fd : Int} (fresh : fd ∉ opened) (queue : Queue) :
    Apart (opened ++ [fd]) (Function.update socket queue (some fd)) := by
  constructor
  · intro q other here
    rw [Function.update_apply] at here
    split_ifs at here
    · cases here
      simp
    · exact List.mem_append_left _ (apart.known q other here)
  · intro q r other first second
    rw [Function.update_apply] at first second
    split_ifs at first second with here there there
    · rw [here,there]
    · cases first
      exact absurd (apart.known r fd second) fresh
    · cases second
      exact absurd (apart.known q fd first) fresh
    · exact apart.one q r other first second

/-! ## Counting watches -/

theorem watches_on_added (io : Watches) (fd : Int) (queue : Queue) (is_write : Bool) (other : Queue) :
    watches_on (watch_add_aio io fd queue is_write) other = watches_on io other + if queue = other then 1 else 0 := by
  simp [watches_on,watch_add_aio,List.countP_append,List.countP_singleton]

/-- The watches of a descriptor are those of one queue. -/
theorem watches_on_removed (apart : Apart opened socket) (placed : ∀ w ∈ io.aio_watches, socket w.queue = some w.fd)
    {queue : Queue} {fd : Int} (here : socket queue = some fd) (other : Queue) :
    watches_on (watch_remove_writeq io fd) other = if other = queue then 0 else watches_on io other := by
  unfold watches_on watch_remove_writeq
  dsimp only
  rw [List.countP_filter]
  split_ifs with same
  · rw [List.countP_eq_zero]
    intro w member both
    simp only [ne_eq,Bool.and_eq_true,decide_eq_true_eq] at both
    have there := placed w member
    rw [both.1,same,here] at there
    exact both.2 (Option.some.inj there).symm
  · refine List.countP_congr fun w member => ?_
    simp only [ne_eq,Bool.and_eq_true,decide_eq_true_eq]
    refine ⟨And.left,fun mine => ⟨mine,?_⟩⟩
    rintro rfl
    exact same (apart.one other queue w.fd (mine ▸ placed w member) here)

/-- What belongs to nothing is not watched. -/
theorem Connected.unwatched (connected : Connected s) {queue : Queue} (none_there : socket_of s queue = none) :
    watches_on s.io queue = 0 := by
  rw [watches_on,List.countP_eq_zero]
  intro w member mine
  have there := connected.socket w member
  rw [of_decide_eq_true mine,none_there] at there
  cases there

/-- Where each watch of the list is, whatever it has pending. -/
def places (io : Watches) : List (Int × Queue) := io.aio_watches.map (fun w => (w.fd,w.queue))

theorem watches_on_places (io : Watches) (queue : Queue) :
    watches_on io queue = (places io).countP (fun place => place.2 = queue) := by
  rw [watches_on,places,List.countP_map]
  rfl

theorem mem_places {place : Int × Queue} : place ∈ places io ↔ ∃ w ∈ io.aio_watches, (w.fd,w.queue) = place := List.mem_map

/-! ## Calls -/

/-- The same descriptors, and clients as they were. -/
structure SameEnds (s t : Router) : Prop where
  socket : socket_of t = socket_of s
  clients : ∀ (dm : Nat) client, t.diag_clients[dm]? = some client →
    ∃ before, s.diag_clients[dm]? = some before ∧ (client.encode_type = .RAW ↔ before.encode_type = .RAW)

/-- Nothing is opened, closed, added or removed. -/
theorem Connected.same (connected : Connected s) (ends : SameEnds s t) (same : places t.io = places s.io)
    (peripherals : t.peripherals = s.peripherals) : Connected t := by
  have count (queue : Queue) : watches_on t.io queue = watches_on s.io queue := by
    rw [watches_on_places,watches_on_places,same]
  refine ⟨?_,?_,?_,?_⟩
  · intro w member
    obtain ⟨before,listed,place⟩ := mem_places.mp (same ▸ mem_places.mpr ⟨w,member,rfl⟩)
    obtain ⟨fd,queue⟩ := Prod.mk.inj place
    rw [ends.socket,← fd,← queue]
    exact connected.socket before listed
  · intro dm client found
    obtain ⟨before,known,raw⟩ := ends.clients dm client found
    obtain ⟨most,encoded⟩ := connected.client dm before known
    rw [count]
    exact ⟨most,fun not_raw => encoded (fun is_raw => not_raw (raw.mpr is_raw))⟩
  · rw [peripherals]
    simpa only [count] using connected.control
  · rw [peripherals]
    simpa only [count] using connected.data

/-- A watch of a queue other than a client's is added, and the peripherals say so. -/
theorem Connected.added (connected : Connected s) (ends : SameEnds s t) {fd : Int} {queue : Queue} {is_write : Bool}
    (io : t.io = watch_add_aio s.io fd queue is_write) (here : socket_of s queue = some fd)
    (not_client : ∀ dm, queue ≠ .outq dm)
    (control : ∀ (i : Nat) perif, t.peripherals[i]? = some perif → ∃ before, s.peripherals[i]? = some before ∧
      (if perif.cntl_open then 1 else 0) = (if before.cntl_open then 1 else 0) + if queue = .cntlq i then 1 else 0)
    (data : ∀ (i : Nat) perif, t.peripherals[i]? = some perif → ∃ before, s.peripherals[i]? = some before ∧
      (if perif.data_open then 1 else 0) = (if before.data_open then 1 else 0) + if queue = .dataq i then 1 else 0) :
    Connected t := by
  have count (other : Queue) : watches_on t.io other = watches_on s.io other + if queue = other then 1 else 0 := by
    rw [io,watches_on_added]
  refine ⟨?_,?_,?_,?_⟩
  · intro w member
    rw [io] at member
    rw [ends.socket]
    rcases List.mem_append.mp member with old | new
    · exact connected.socket w old
    · rw [List.mem_singleton.mp new]
      exact here
  · intro dm client found
    obtain ⟨before,known,raw⟩ := ends.clients dm client found
    obtain ⟨most,encoded⟩ := connected.client dm before known
    rw [count,if_neg (not_client dm),Nat.add_zero]
    exact ⟨most,fun not_raw => encoded (fun is_raw => not_raw (raw.mpr is_raw))⟩
  · intro i perif found
    obtain ⟨before,known,flags⟩ := control i perif found
    rw [count,flags,connected.control i before known]
  · intro i perif found
    obtain ⟨before,known,flags⟩ := data i perif found
    rw [count,flags,connected.data i before known]

/-- The watches of one queue are removed, and the peripherals say so; of a client
    that is RAW. -/
theorem Connected.removed (connected : Connected s) (apart : Apart opened (socket_of s)) (ends : SameEnds s t) {fd : Int}
    {queue : Queue} (io : t.io.aio_watches = (watch_remove_writeq s.io fd).aio_watches) (here : socket_of s queue = some fd)
    (raw : ∀ (dm : Nat) client, queue = .outq dm → s.diag_clients[dm]? = some client → client.encode_type = .RAW)
    (control : ∀ (i : Nat) perif, t.peripherals[i]? = some perif → ∃ before, s.peripherals[i]? = some before ∧
      perif.cntl_open = (if queue = .cntlq i then false else before.cntl_open))
    (data : ∀ (i : Nat) perif, t.peripherals[i]? = some perif → ∃ before, s.peripherals[i]? = some before ∧
      perif.data_open = (if queue = .dataq i then false else before.data_open)) :
    Connected t := by
  have count (other : Queue) : watches_on t.io other = if other = queue then 0 else watches_on s.io other := by
    rw [← watches_on_removed apart connected.socket here other,watches_on,io]
    rfl
  refine ⟨?_,?_,?_,?_⟩
  · intro w member
    rw [io] at member
    rw [ends.socket]
    exact connected.socket w (List.mem_of_mem_filter member)
  · intro dm client found
    obtain ⟨before,known,same⟩ := ends.clients dm client found
    obtain ⟨most,encoded⟩ := connected.client dm before known
    rw [count]
    split_ifs with mine
    · exact ⟨Nat.zero_le 1,fun not_raw => absurd (same.mpr (raw dm before mine.symm known)) not_raw⟩
    · exact ⟨most,fun not_raw => encoded (fun is_raw => not_raw (same.mpr is_raw))⟩
  · intro i perif found
    obtain ⟨before,known,flag⟩ := control i perif found
    rw [count,flag]
    by_cases mine : queue = .cntlq i
    · simp [mine]
    · rw [if_neg (Ne.symm mine),if_neg mine]
      exact connected.control i before known
  · intro i perif found
    obtain ⟨before,known,flag⟩ := data i perif found
    rw [count,flag]
    by_cases mine : queue = .dataq i
    · simp [mine]
    · rw [if_neg (Ne.symm mine),if_neg mine]
      exact connected.data i before known

end

/-! ## What the loop calls -/

section
variable {opened : List Int} {s t : Router}

/-- The descriptors are those of the clients, the peripherals and USB. -/
theorem socket_of_congr (clients : t.diag_clients.map DiagClient.out_fd = s.diag_clients.map DiagClient.out_fd)
    (peripherals : t.peripherals.map (fun perif => (perif.cntl_fd,perif.cmd_fd,perif.data_fd)) =
      s.peripherals.map (fun perif => (perif.cntl_fd,perif.cmd_fd,perif.data_fd)))
    (ffs : t.ffs.map UsbHandle.bulk_out = s.ffs.map UsbHandle.bulk_out) : socket_of t = socket_of s := by
  have perif {β : Type} (field : Int × Int × Int → β) (i : Nat) :
      t.peripherals[i]?.map (fun perif => field (perif.cntl_fd,perif.cmd_fd,perif.data_fd)) =
        s.peripherals[i]?.map (fun perif => field (perif.cntl_fd,perif.cmd_fd,perif.data_fd)) := by
    have here := congrArg (fun fds : List (Int × Int × Int) => fds[i]?.map field) peripherals
    simpa only [List.getElem?_map,Option.map_map,Function.comp_def] using here
  funext queue
  cases queue with
  | outq dm =>
    have here := congrArg (fun fds : List Int => fds[dm]?) clients
    simpa only [socket_of,List.getElem?_map] using here
  | cmdq i => exact perif (fun fds => fds.2.1) i
  | cntlq i => exact perif (fun fds => fds.1) i
  | dataq i => exact perif (fun fds => fds.2.2) i
  | ffs_outq => exact ffs

/-- A peripheral whose flags change has its descriptors. -/
theorem socket_of_set {i : Nat} {perif : Peripheral} (found : s.peripherals[i]? = some perif) (changed : Peripheral)
    (same : (changed.cntl_fd,changed.cmd_fd,changed.data_fd) = (perif.cntl_fd,perif.cmd_fd,perif.data_fd)) (io : Watches) :
    socket_of { s with io := io, peripherals := s.peripherals.set i changed } = socket_of s := by
  refine socket_of_congr rfl ?_ rfl
  obtain ⟨inside,rfl⟩ := List.getElem?_eq_some_iff.mp found
  dsimp only
  rw [List.map_set,same,← List.getElem_map (fun perif : Peripheral => (perif.cntl_fd,perif.cmd_fd,perif.data_fd))
    (h := by simpa using inside),List.set_getElem_self]

theorem broadcast_places (msg : List UInt8) (flow : Option Nat) (io : Watches) (clients : List DiagClient) :
    places (broadcast_loop msg flow io 0 clients) = places io := by
  rw [places,(broadcast_loop_same msg flow io 0 clients).aio_watches,places]

theorem queue_all_places (io : Watches) (pushed : List (Queue × List UInt8)) : places (queue_all io pushed) = places io := by
  rw [places,(queue_all_same io pushed).aio_watches,places]

theorem ends_of_frame (frame : Frame s t) (socket : socket_of t = socket_of s) : SameEnds s t := by
  refine ⟨socket,?_⟩
  intro dm client found
  obtain ⟨before,known,same⟩ := frame.same dm client found
  exact ⟨before,known,same.raw⟩

/-- The peripheral that is set, or another. -/
theorem found_set {i j : Nat} {changed perif : Peripheral} (there : (s.peripherals.set i changed)[j]? = some perif) :
    i = j ∧ perif = changed ∨ i ≠ j ∧ s.peripherals[j]? = some perif := by
  rw [List.getElem?_set] at there
  split_ifs at there with same inside
  · exact .inl ⟨same,(Option.some.inj there).symm⟩
  · exact .inr ⟨same,there⟩

theorem socket_found {i : Nat} {perif : Peripheral} (found : s.peripherals[i]? = some perif) :
    socket_of s (.cntlq i) = some perif.cntl_fd ∧ socket_of s (.dataq i) = some perif.data_fd := by
  rw [socket_of,socket_of,found]
  exact ⟨rfl,rfl⟩

/-- A channel that is open already gets no second watch. -/
theorem opened_connected (connected : Connected s) {i : Nat} {perif : Peripheral} (found : s.peripherals[i]? = some perif) :
    Connected { s with
      io := if perif.cntl_open then s.io else watch_add_writeq s.io perif.cntl_fd (.cntlq i)
      peripherals := s.peripherals.set i { perif with cntl_open := true } } ∧
    Connected { s with
      io := if perif.data_open then s.io else watch_add_writeq s.io perif.data_fd (.dataq i)
      peripherals := s.peripherals.set i { perif with data_open := true } } := by
  have ends (changed : Peripheral)
      (same : (changed.cntl_fd,changed.cmd_fd,changed.data_fd) = (perif.cntl_fd,perif.cmd_fd,perif.data_fd)) (io : Watches) :
      SameEnds s { s with io := io, peripherals := s.peripherals.set i changed } :=
    ⟨socket_of_set found changed same io,fun dm client there => ⟨client,there,Iff.rfl⟩⟩
  have unchanged (changed : Peripheral) (same : changed = perif) : s.peripherals.set i changed = s.peripherals := by
    obtain ⟨inside,rfl⟩ := List.getElem?_eq_some_iff.mp found
    rw [same,List.set_getElem_self]
  constructor
  · cases flag : perif.cntl_open with
    | true => exact connected.same (ends { perif with cntl_open := true } rfl _) rfl (unchanged _ (by rw [← flag]))
    | false =>
      refine connected.added (ends { perif with cntl_open := true } rfl _) rfl (socket_found found).1 (by simp) ?_ ?_
      · intro j other there
        rcases found_set there with ⟨rfl,rfl⟩ | ⟨apart,known⟩
        · exact ⟨perif,found,by simp [flag]⟩
        · exact ⟨other,known,by simp [apart]⟩
      · intro j other there
        rcases found_set there with ⟨rfl,rfl⟩ | ⟨_,known⟩
        · exact ⟨perif,found,by simp⟩
        · exact ⟨other,known,by simp⟩
  · cases flag : perif.data_open with
    | true => exact connected.same (ends { perif with data_open := true } rfl _) rfl (unchanged _ (by rw [← flag]))
    | false =>
      refine connected.added (ends { perif with data_open := true } rfl _) rfl (socket_found found).2 (by simp) ?_ ?_
      · intro j other there
        rcases found_set there with ⟨rfl,rfl⟩ | ⟨_,known⟩
        · exact ⟨perif,found,by simp⟩
        · exact ⟨other,known,by simp⟩
      · intro j other there
        rcases found_set there with ⟨rfl,rfl⟩ | ⟨apart,known⟩
        · exact ⟨perif,found,by simp [flag]⟩
        · exact ⟨other,known,by simp [apart]⟩

/-- A channel that the processor closes. -/
theorem closed_connected (connected : Connected s) (apart : Apart opened (socket_of s)) {i : Nat} {perif : Peripheral}
    (found : s.peripherals[i]? = some perif) :
    Connected { s with
      io := watch_remove_writeq s.io perif.cntl_fd
      peripherals := s.peripherals.set i { perif with cntl_open := false } } ∧
    Connected { s with
      io := watch_remove_writeq s.io perif.data_fd
      peripherals := s.peripherals.set i { perif with data_open := false } } := by
  have ends (changed : Peripheral)
      (same : (changed.cntl_fd,changed.cmd_fd,changed.data_fd) = (perif.cntl_fd,perif.cmd_fd,perif.data_fd)) (io : Watches) :
      SameEnds s { s with io := io, peripherals := s.peripherals.set i changed } :=
    ⟨socket_of_set found changed same io,fun dm client there => ⟨client,there,Iff.rfl⟩⟩
  constructor
  · refine connected.removed apart (ends { perif with cntl_open := false } rfl _) rfl (socket_found found).1 (by simp) ?_ ?_
    · intro j other there
      rcases found_set there with ⟨rfl,rfl⟩ | ⟨other_one,known⟩
      · exact ⟨perif,found,by simp⟩
      · exact ⟨other,known,by simp [other_one]⟩
    · intro j other there
      rcases found_set there with ⟨rfl,rfl⟩ | ⟨_,known⟩
      · exact ⟨perif,found,by simp⟩
      · exact ⟨other,known,by simp⟩
  · refine connected.removed apart (ends { perif with data_open := false } rfl _) rfl (socket_found found).2 (by simp) ?_ ?_
    · intro j other there
      rcases found_set there with ⟨rfl,rfl⟩ | ⟨_,known⟩
      · exact ⟨perif,found,by simp⟩
      · exact ⟨other,known,by simp⟩
    · intro j other there
      rcases found_set there with ⟨rfl,rfl⟩ | ⟨other_one,known⟩
      · exact ⟨perif,found,by simp⟩
      · exact ⟨other,known,by simp [other_one]⟩

theorem qrtr_cntl_recv_connected (connected : Connected s) (apart : Apart opened (socket_of s)) (i : Nat) (pkt : QrtrPacket)
    (pushed : List (List UInt8)) :
    socket_of (qrtr_cntl_recv s i pkt pushed) = socket_of s ∧ Connected (qrtr_cntl_recv s i pkt pushed) := by
  unfold qrtr_cntl_recv
  cases found : s.peripherals[i]? with
  | none => exact ⟨rfl,connected⟩
  | some perif =>
    cases pkt.type with
    | QRTR_TYPE_DATA =>
      have ends := socket_of_set found { perif with cntl_open := true } rfl
      refine ⟨ends _,(opened_connected connected found).1.same ⟨?_,fun dm client there => ⟨client,there,Iff.rfl⟩⟩ ?_ rfl⟩
      · exact (ends _).trans (ends _).symm
      · exact queue_all_places _ _
    | QRTR_TYPE_BYE =>
      exact ⟨socket_of_set found { perif with cntl_open := false } rfl _,(closed_connected connected apart found).1⟩
    | _ => exact ⟨rfl,connected⟩

theorem qrtr_data_recv_connected (connected : Connected s) (apart : Apart opened (socket_of s)) (i : Nat) (pkt : QrtrPacket) :
    socket_of (qrtr_data_recv s i pkt) = socket_of s ∧ Connected (qrtr_data_recv s i pkt) := by
  unfold qrtr_data_recv
  cases found : s.peripherals[i]? with
  | none => exact ⟨rfl,connected⟩
  | some perif =>
    cases pkt.type with
    | QRTR_TYPE_DATA =>
      have ends := socket_of_set found { perif with data_open := true } rfl
      have opened := (opened_connected connected found).2
      dsimp only
      cases non_hdlc_payload pkt.data with
      | none => exact ⟨ends _,opened⟩
      | some payload =>
        refine ⟨ends _,opened.same ⟨?_,fun dm client there => ⟨client,there,Iff.rfl⟩⟩ ?_ rfl⟩
        · exact (ends _).trans (ends _).symm
        · exact broadcast_places _ _ _ _
    | QRTR_TYPE_BYE =>
      exact ⟨socket_of_set found { perif with data_open := false } rfl _,(closed_connected connected apart found).2⟩
    | _ => exact ⟨rfl,connected⟩

theorem qrtr_cmd_recv_connected (connected : Connected s) (apart : Apart opened (socket_of s)) (i : Nat) (pkt : QrtrPacket) :
    socket_of (qrtr_cmd_recv s i pkt) = socket_of s ∧ Connected (qrtr_cmd_recv s i pkt) := by
  have same (io : Watches) : SameEnds s { s with io := io } := ⟨rfl,fun dm client there => ⟨client,there,Iff.rfl⟩⟩
  unfold qrtr_cmd_recv
  cases found : s.peripherals[i]? with
  | none => exact ⟨rfl,connected⟩
  | some perif =>
    have here : socket_of s (.cmdq i) = some perif.cmd_fd := by
      rw [socket_of,found]
      rfl
    cases pkt.type with
    | QRTR_TYPE_DATA =>
      cases non_hdlc_payload pkt.data with
      | none => exact ⟨rfl,connected⟩
      | some payload => exact ⟨rfl,connected.same (same _) (broadcast_places _ _ _ _) rfl⟩
    | QRTR_TYPE_NEW_SERVER =>
      dsimp only
      split_ifs with none_there
      · exact ⟨rfl,connected⟩
      · exact ⟨rfl,connected.added (same _) rfl here (by simp) (fun j perif there => ⟨perif,there,by simp⟩)
          (fun j perif there => ⟨perif,there,by simp⟩)⟩
    | QRTR_TYPE_DEL_SERVER =>
      exact ⟨rfl,connected.removed apart (same _) rfl here (by simp) (fun j perif there => ⟨perif,there,by simp⟩)
        (fun j perif there => ⟨perif,there,by simp⟩)⟩
    | _ => exact ⟨rfl,connected⟩

theorem ep0_recv_connected (connected : Connected s) (event : FunctionfsEvent) :
    socket_of (ep0_recv s event) = socket_of s ∧ Connected (ep0_recv s event) := by
  have enabled (io : Watches) (dm : Nat) (on : Bool) : socket_of (set_enabled { s with io := io } dm on) = socket_of s := by
    refine socket_of_congr ?_ rfl rfl
    apply List.ext_getElem?
    intro j
    simp only [set_enabled,List.getElem?_map,List.getElem?_modify]
    cases s.diag_clients[j]? with
    | none => rfl
    | some client =>
      simp only [Option.map_some]
      split_ifs <;> rfl
  have frame := ep0_recv_frame s event
  rcases found : s.ffs with _ | ffs
  · rw [ep0_recv,found]
    exact ⟨rfl,connected⟩
  · cases event with
    | FUNCTIONFS_ENABLE =>
      have called : ep0_recv s .FUNCTIONFS_ENABLE =
          set_enabled { s with io := watch_add_readq s.io ffs.bulk_out .ffs_outq } ffs.dm true := by
        rw [ep0_recv,found]
        rfl
      have here : socket_of s .ffs_outq = some ffs.bulk_out := by
        rw [socket_of,found]
        rfl
      rw [called] at frame ⊢
      exact ⟨enabled _ _ _,connected.added (ends_of_frame frame (enabled _ _ _)) rfl here (by simp)
        (fun j perif there => ⟨perif,there,by simp⟩) (fun j perif there => ⟨perif,there,by simp⟩)⟩
    | FUNCTIONFS_DISABLE =>
      have called : ep0_recv s .FUNCTIONFS_DISABLE = set_enabled s ffs.dm false := by
        rw [ep0_recv,found]
        rfl
      rw [called] at frame ⊢
      exact ⟨enabled s.io _ _,connected.same (ends_of_frame frame (enabled s.io _ _)) rfl rfl⟩
    | other =>
      have called : ep0_recv s .other = s := by
        rw [ep0_recv,found]
      rw [called]
      exact ⟨rfl,connected⟩

/-- A call of the loop leaves the descriptors as they are, and the watches where
    they belong. -/
theorem call_connected (connected : Connected s) (apart : Apart opened (socket_of s))
    (raw : ∀ (dm : Nat) client, s.diag_clients[dm]? = some client → client.encode_type = .RAW → client.out_fd = client.in_fd)
    {c : Call} (inner : MainLoop.Inner c) : socket_of (call s c) = socket_of s ∧ Connected (call s c) := by
  cases c with
  | dm_add in_fd out_fd is_encoded => exact absurd inner id
  | dm_enable dm => exact absurd inner id
  | dm_disable dm => exact absurd inner id
  | dm_broadcast msg flow => exact absurd inner id
  | diag_usb_open ep0 bulk_out bulk_in => exact absurd inner id
  | qrtr_perif_init_subsystem cntl_fd cmd_fd data_fd => exact absurd inner id
  | watch_remove_fd fd => exact absurd inner id
  | watch_remove_writeq fd => exact absurd inner id
  | set_encode_type type =>
    have socket : socket_of (set_encode_type s type) = socket_of s := by
      refine socket_of_congr ?_ rfl rfl
      rw [set_encode_type,List.map_map]
      refine List.map_congr_left fun client _ => ?_
      rw [Function.comp_apply]
      split_ifs <;> rfl
    exact ⟨socket,connected.same (ends_of_frame (call_counts inner s).1 socket) rfl rfl⟩
  | dm_recv_end dm =>
    have frame := (call_counts inner s).1
    simp only [call] at frame ⊢
    revert frame
    unfold dm_recv_end
    cases found : s.diag_clients[dm]? with
    | none => exact fun _ => ⟨rfl,connected⟩
    | some client =>
      dsimp only
      split_ifs with is_raw
      · intro frame
        have here : socket_of s (.outq dm) = some client.in_fd := by
          rw [socket_of,found,← raw dm client found is_raw]
          rfl
        refine ⟨rfl,connected.removed apart (ends_of_frame frame rfl) rfl here ?_
          (fun j perif there => ⟨perif,there,by simp⟩) (fun j perif there => ⟨perif,there,by simp⟩)⟩
        intro other before same there
        cases same
        rw [found] at there
        exact Option.some.inj there ▸ is_raw
      · exact fun _ => ⟨rfl,connected⟩
  | ep0_recv event => exact ep0_recv_connected connected event
  | qrtr_cntl_recv i pkt pushed => exact qrtr_cntl_recv_connected connected apart i pkt pushed
  | qrtr_cmd_recv i pkt => exact qrtr_cmd_recv_connected connected apart i pkt
  | qrtr_data_recv i pkt => exact qrtr_data_recv_connected connected apart i pkt
  | queue_push queue msg => exact ⟨rfl,connected.same ⟨rfl,fun dm client there => ⟨client,there,Iff.rfl⟩⟩ rfl rfl⟩

end

/-! ## Opening -/

section
variable {opened : List Int} {s t : Router}

/-- What is opened leaves the other descriptors, and adds the watch of a client
    or none. -/
theorem Connected.extended (connected : Connected s) (new : List (Int × Queue))
    (extends_socket : ∀ queue fd, socket_of s queue = some fd → socket_of t queue = some fd)
    (added : places t.io = places s.io ++ new)
    (placed : ∀ place ∈ new, socket_of t place.2 = some place.1)
    (clients : ∀ (dm : Nat) client, t.diag_clients[dm]? = some client →
      (∃ before, s.diag_clients[dm]? = some before ∧ (client.encode_type = .RAW ↔ before.encode_type = .RAW) ∧
        new.countP (fun place => place.2 = .outq dm) = 0) ∨
      s.diag_clients[dm]? = none ∧ new.countP (fun place => place.2 = .outq dm) = 1)
    (no_channel : ∀ i, new.countP (fun place => place.2 = .cntlq i) = 0 ∧ new.countP (fun place => place.2 = .dataq i) = 0)
    (peripherals : ∀ (i : Nat) perif, t.peripherals[i]? = some perif → s.peripherals[i]? = some perif ∨
      s.peripherals[i]? = none ∧ perif.cntl_open = false ∧ perif.data_open = false) : Connected t := by
  have count (queue : Queue) : watches_on t.io queue = watches_on s.io queue + new.countP (fun place => place.2 = queue) := by
    rw [watches_on_places,added,List.countP_append,← watches_on_places]
  refine ⟨?_,?_,?_,?_⟩
  · intro w member
    have place : (w.fd,w.queue) ∈ places t.io := mem_places.mpr ⟨w,member,rfl⟩
    rw [added] at place
    rcases List.mem_append.mp place with old | fresh
    · obtain ⟨before,listed,same⟩ := mem_places.mp old
      obtain ⟨fd,queue⟩ := Prod.mk.inj same
      exact extends_socket _ _ (fd ▸ queue ▸ connected.socket before listed)
    · exact placed _ fresh
  · intro dm client found
    rw [count]
    rcases clients dm client found with ⟨before,known,raw,none_new⟩ | ⟨unknown,one_new⟩
    · obtain ⟨most,encoded⟩ := connected.client dm before known
      rw [none_new,Nat.add_zero]
      exact ⟨most,fun not_raw => encoded (fun is_raw => not_raw (raw.mpr is_raw))⟩
    · have nothing : socket_of s (.outq dm) = none := by
        rw [socket_of,unknown]
        rfl
      rw [one_new,connected.unwatched nothing]
      exact ⟨le_rfl,fun _ => rfl⟩
  · intro i perif found
    rw [count,(no_channel i).1,Nat.add_zero]
    rcases peripherals i perif found with known | ⟨unknown,closed,_⟩
    · exact connected.control i perif known
    · have nothing : socket_of s (.cntlq i) = none := by
        rw [socket_of,unknown]
        rfl
      rw [connected.unwatched nothing,closed]
      rfl
  · intro i perif found
    rw [count,(no_channel i).2,Nat.add_zero]
    rcases peripherals i perif found with known | ⟨unknown,_,closed⟩
    · exact connected.data i perif known
    · have nothing : socket_of s (.dataq i) = none := by
        rw [socket_of,unknown]
        rfl
      rw [connected.unwatched nothing,closed]
      rfl

/-- A RAW client has one descriptor. -/
def RawFds (s : Router) : Prop :=
  ∀ (dm : Nat) client, s.diag_clients[dm]? = some client → client.encode_type = .RAW → client.out_fd = client.in_fd

/-- All that the watches' places depend on. -/
structure Wired (opened : List Int) (s : Router) : Prop where
  connected : Connected s
  apart : Apart opened (socket_of s)
  raw : RawFds s

/-- A descriptor that a queue did not have before. -/
theorem update_extends {socket : Queue → Option Int} {queue : Queue} (nothing : socket queue = none) (new : Option Int) :
    ∀ other fd, socket other = some fd → Function.update socket queue new other = some fd := by
  intro other fd here
  rw [Function.update_of_ne]
  · exact here
  · rintro rfl
    cases nothing.symm.trans here

theorem client_wired (wired : Wired opened s) {client : DiagClient} (fresh : client.out_fd ∉ opened)
    (one_fd : client.encode_type = .RAW → client.out_fd = client.in_fd) (clients : t.diag_clients = s.diag_clients ++ [client])
    (peripherals : t.peripherals = s.peripherals) (ffs : t.ffs = s.ffs)
    (added : places t.io = places s.io ++ [(client.out_fd,.outq s.diag_clients.length)]) :
    Wired (opened ++ [client.out_fd]) t := by
  have nothing : socket_of s (.outq s.diag_clients.length) = none := by simp [socket_of]
  have socket : socket_of t = Function.update (socket_of s) (.outq s.diag_clients.length) (some client.out_fd) := by
    funext queue
    rw [Function.update_apply]
    cases queue with
    | outq dm =>
      simp only [socket_of,clients,List.getElem?_append,Queue.outq.injEq]
      split_ifs with inside last last
      · omega
      · rfl
      · simp [last]
      · rw [List.getElem?_eq_none (by rw [List.length_singleton]; omega),List.getElem?_eq_none (by omega)]
    | ffs_outq => simp [socket_of,ffs]
    | _ => simp [socket_of,peripherals]
  refine ⟨wired.connected.extended _ ?_ added ?_ ?_ (by simp) ?_,?_,?_⟩
  · rw [socket]
    exact update_extends nothing _
  · intro place member
    rw [List.mem_singleton.mp member,socket,Function.update_self]
  · intro dm other found
    rw [clients,List.getElem?_append] at found
    split_ifs at found with inside
    · exact .inl ⟨other,found,Iff.rfl,by simp; omega⟩
    · have last := (List.getElem?_eq_some_iff.mp found).1
      rw [List.length_singleton] at last
      have place : s.diag_clients.length = dm := by omega
      exact .inr ⟨List.getElem?_eq_none (by omega),by simp [place]⟩
  · intro i perif found
    exact .inl (peripherals ▸ found)
  · rw [socket]
    exact wired.apart.added fresh _
  · intro dm other found is_raw
    rw [clients] at found
    rcases found_behind found with old | rfl
    · exact wired.raw dm other old is_raw
    · exact one_fd is_raw

theorem usb_wired (wired : Wired opened s) (closed : s.ffs = none) {bulk_out : Int} {dm : Nat} (fresh : bulk_out ∉ opened) :
    Wired (opened ++ [bulk_out]) { s with ffs := some ⟨bulk_out,dm⟩ } := by
  have nothing : socket_of s .ffs_outq = none := by simp [socket_of,closed]
  have socket : socket_of { s with ffs := some ⟨bulk_out,dm⟩ } = Function.update (socket_of s) .ffs_outq (some bulk_out) := by
    funext queue
    cases queue <;> simp [socket_of]
  refine ⟨wired.connected.extended [] ?_ (List.append_nil _).symm (List.forall_mem_nil _) ?_ (by simp) ?_,?_,wired.raw⟩
  · rw [socket]
    exact update_extends nothing _
  · exact fun dm client found => .inl ⟨client,found,Iff.rfl,rfl⟩
  · exact fun i perif found => .inl found
  · rw [socket]
    exact wired.apart.added fresh _

theorem qrtr_wired (wired : Wired opened s) {cntl_fd data_fd cmd_fd : Int}
    (fresh : cntl_fd ∉ opened ∧ data_fd ∉ opened ∧ cmd_fd ∉ opened)
    (distinct : cntl_fd ≠ data_fd ∧ cntl_fd ≠ cmd_fd ∧ data_fd ≠ cmd_fd) :
    Wired (opened ++ [cntl_fd,data_fd,cmd_fd]) (qrtr_perif_init_subsystem s cntl_fd cmd_fd data_fd) := by
  have nothing : socket_of s (.cntlq s.peripherals.length) = none ∧ socket_of s (.dataq s.peripherals.length) = none ∧
      socket_of s (.cmdq s.peripherals.length) = none := by simp [socket_of]
  have socket : socket_of (qrtr_perif_init_subsystem s cntl_fd cmd_fd data_fd) =
      Function.update (Function.update (Function.update (socket_of s) (.cntlq s.peripherals.length) (some cntl_fd))
        (.dataq s.peripherals.length) (some data_fd)) (.cmdq s.peripherals.length) (some cmd_fd) := by
    have behind {β : Type} (field : Peripheral → β) (i : Nat) :
        ((s.peripherals ++ [(⟨cntl_fd,cmd_fd,data_fd,false,false⟩ : Peripheral)])[i]?).map field =
          if i = s.peripherals.length then some (field ⟨cntl_fd,cmd_fd,data_fd,false,false⟩) else s.peripherals[i]?.map field := by
      rw [List.getElem?_append]
      split_ifs with inside last last
      · omega
      · rfl
      · simp [last]
      · rw [List.getElem?_eq_none (by rw [List.length_singleton]; omega),List.getElem?_eq_none (by omega)]
    funext queue
    cases queue <;> simp [socket_of,qrtr_perif_init_subsystem,Function.update_apply,behind]
  refine ⟨wired.connected.extended [] ?_ (List.append_nil _).symm (List.forall_mem_nil _) ?_ (by simp) ?_,?_,wired.raw⟩
  · intro queue fd here
    rw [socket]
    refine update_extends ?_ _ queue fd (update_extends ?_ _ queue fd (update_extends nothing.1 _ queue fd here))
    · simp [nothing]
    · simp [nothing]
  · exact fun dm client found => .inl ⟨client,found,Iff.rfl,rfl⟩
  · intro i perif found
    simp only [qrtr_perif_init_subsystem,List.getElem?_append] at found
    split_ifs at found with inside
    · exact .inl found
    · rw [List.mem_singleton.mp (List.mem_of_getElem? found)]
      exact .inr ⟨List.getElem?_eq_none (by omega),rfl,rfl⟩
  · rw [socket]
    have first := wired.apart.added fresh.1 (.cntlq s.peripherals.length)
    have data_fresh : data_fd ∉ opened ++ [cntl_fd] := by simp [fresh.2.1,Ne.symm distinct.1]
    have second := first.added data_fresh (.dataq s.peripherals.length)
    have cmd_fresh : cmd_fd ∉ opened ++ [cntl_fd] ++ [data_fd] := by simp [fresh.2.2,Ne.symm distinct.2.1,Ne.symm distinct.2.2]
    exact (second.added cmd_fresh (.cmdq s.peripherals.length)).mono (by simp)

end

/-! ## Steps -/

section
variable {opened : List Int} {s t : Router}

theorem call_wired (wired : Wired opened s) {c : Call} (inner : MainLoop.Inner c) : Wired opened (call s c) := by
  obtain ⟨socket,connected⟩ := call_connected wired.connected wired.apart wired.raw inner
  refine ⟨connected,socket.symm ▸ wired.apart,?_⟩
  intro dm client found is_raw
  obtain ⟨before,known,same⟩ := (call_counts inner s).1.same dm client found
  rw [same.out_fd,same.in_fd]
  exact wired.raw dm before known (same.raw.mp is_raw)

theorem recovered_wired {s : Loop} (wired : Wired s.opened s.router) (dm : Nat) : Wired s.opened (recovered s dm).router := by
  have socket : socket_of (recovered s dm).router = socket_of s.router :=
    socket_of_congr (recovered_out_fds s dm) rfl rfl
  refine ⟨wired.connected.same ⟨socket,?_⟩ rfl rfl,socket.symm ▸ wired.apart,?_⟩
  · intro i client found
    obtain ⟨before,known,same⟩ := recovered_same found
    exact ⟨before,known,same.raw⟩
  · intro i client found is_raw
    obtain ⟨before,known,same⟩ := recovered_same found
    rw [same.out_fd,same.in_fd]
    exact wired.raw i before known (same.raw.mp is_raw)

theorem relays_wired {calls : List Call} (inner : ∀ c ∈ calls, MainLoop.Inner c) {s : Loop} (wired : Wired s.opened s.router) :
    Wired (calls.foldl relay s).opened (calls.foldl relay s).router := by
  induction calls generalizing s with
  | nil => exact wired
  | cons c calls ih =>
    refine ih (fun d member => inner d (List.mem_cons_of_mem c member)) ?_
    exact call_wired wired (inner c List.mem_cons_self)

theorem callback_inner (callback : Callback) (input : Input) : ∀ c ∈ callback.calls input, MainLoop.Inner c := by
  rcases callback_calls callback input with others | ⟨i,pkt,_,calls⟩
  · exact fun c member => (others c member).1
  · rw [calls]
    intro c member
    rw [List.mem_singleton.mp member]
    trivial

/-- Asynchronous I/O moves buffers, and no watch. -/
theorem io_wired (wired : Wired opened s) {io : Watches} (same : places io = places s.io) : Wired opened { s with io := io } :=
  ⟨wired.connected.same ⟨rfl,fun _ client there => ⟨client,there,Iff.rfl⟩⟩ same rfl,wired.apart,wired.raw⟩

theorem submit_pass_places {accepted : Nat → Bool} {before after : Watches} (ran : submit_pass accepted before = .ok after) :
    places after = places before := by
  refine exec_invariant (I := fun io => places io = places before) ?_ rfl ran
  intro io i next same visited
  rcases submit_visit_cases accepted io i with kept | ⟨w,mbuf,rest,opcode,found,_,_,taken⟩
  · cases kept.symm.trans visited
    exact same
  · cases taken.symm.trans visited
    exact (map_set_pending (fun w => (w.fd,w.queue)) found (some mbuf) rfl).trans same

theorem handle_event_places {i : Nat} {event : IoEvent} {before after : Watches} (handled : handle_event i before event = .ok after) :
    places after = places before := by
  rcases handle_event_ok handled with ⟨rfl,_⟩ | ⟨w,mbuf,found,_,_,_,rfl⟩
  · rfl
  · exact map_set_pending (fun w => (w.fd,w.queue)) found none rfl

theorem eventfd_places {replies : List Reply} {before after : Watches} (handled : watch_handle_eventfd before replies = .ok after) :
    places after = places before := by
  refine exec_invariant (I := fun io => places io = places before) ?_ ?_ handled
  swap
  · rfl
  intro io i next same turn
  exact exec_invariant (I := fun io => places io = places before)
    (fun kept first => (handle_event_places first).trans kept) same turn

theorem opening_wired {s : Loop} (wired : Wired s.opened s.router) {opening : Opening} (fresh : Fresh s opening.fds) :
    Wired (s.opened ++ opening.fds)
      ((opening.calls s.router).foldl relay { s with opened := s.opened ++ opening.fds }).router := by
  have client (fd : Int) (is_encoded : Bool) (unused : Fresh s [fd]) :
      Wired (s.opened ++ [fd]) (call (call s.router (.dm_add fd fd is_encoded)) (.dm_enable s.router.diag_clients.length)) := by
    obtain ⟨natural,new⟩ := unused.2 fd (List.mem_singleton_self fd)
    refine @client_wired _ _ _ wired ⟨fd,fd,if is_encoded then .HDLC else .RAW,true⟩ new (fun _ => rfl) (modify_last _ _ _) rfl rfl ?_
    simp [places,call,dm_enable,set_enabled,dm_add,natural,watch_add_writeq,watch_add_aio,watch_add_readfd]
  cases opening with
  | diag_sock_connect fd => exact client fd true fresh
  | diag_uart_open fd => exact client fd true fresh
  | unix_listen fd => exact client fd false fresh
  | diag_usb_open ep0 bulk_out bulk_in =>
    obtain ⟨distinct,unused⟩ := fresh
    simp only [Opening.fds,List.nodup_cons,List.mem_cons,List.not_mem_nil,or_false,not_or] at distinct
    dsimp only [Opening.calls,Opening.fds,List.foldl,relay,call]
    rw [diag_usb_open]
    cases closed : s.router.ffs with
    | some ffs => exact ⟨wired.connected,wired.apart.mono (by simp),wired.raw⟩
    | none =>
      have out_fresh := (unused bulk_out (by simp [Opening.fds])).2
      have in_fresh : bulk_in ∉ s.opened ++ [bulk_out] := by
        simp [(unused bulk_in (by simp [Opening.fds])).2,Ne.symm distinct.2.1]
      have usb := @usb_wired _ _ wired closed bulk_out s.router.diag_clients.length out_fresh
      have added := @client_wired _ _
        { dm_add { s.router with io := watch_add_readfd { s.router.io with
            queues := Function.update s.router.io.queues .ffs_outq [⟨List.replicate 16384 0,0,none⟩] } ep0 none } (-1) bulk_in true with
          ffs := some ⟨bulk_out,s.router.diag_clients.length⟩ }
        usb ⟨-1,bulk_in,.HDLC,false⟩ in_fresh (by rintro ⟨⟩) rfl rfl rfl
        (by
          generalize List.replicate 16384 (0 : UInt8) = out_buf
          simp [places,dm_add,watch_add_writeq,watch_add_aio,watch_add_readfd])
      exact ⟨added.connected,added.apart.mono (by simp),added.raw⟩
  | qrtr_perif_init_subsystem cntl_fd data_fd cmd_fd =>
    obtain ⟨distinct,unused⟩ := fresh
    simp only [Opening.fds,List.nodup_cons,List.mem_cons,List.not_mem_nil,or_false,not_or] at distinct
    exact qrtr_wired wired ⟨(unused cntl_fd (by simp [Opening.fds])).2,(unused data_fd (by simp [Opening.fds])).2,
      (unused cmd_fd (by simp [Opening.fds])).2⟩ ⟨distinct.1.1,distinct.1.2,distinct.2.1⟩

theorem step_wired {s t : Loop} {a : Action} (wired : Wired s.opened s.router) (stepped : step s a = .ok t) :
    Wired t.opened t.router := by
  cases a with
  | opens opening =>
    rw [step] at stepped
    split_ifs at stepped with fresh
    · cases stepped
      have after := opening_wired wired fresh
      cases opening <;> exact after
    · cases stepped
      exact wired
  | select ready =>
    cases stepped
    exact wired
  | submit_pass accepted =>
    obtain ⟨io,ran,rfl⟩ := map_eq_ok.mp stepped
    exact io_wired wired (submit_pass_places ran)
  | diag_hdlc_reset =>
    cases stepped
    exact call_wired (c := .set_encode_type .HDLC) wired (by simp [MainLoop.Inner])
  | handle_hdlc_disable_cmd =>
    cases stepped
    exact call_wired (c := .set_encode_type .NHDLC) wired (by simp [MainLoop.Inner])
  | diag_start_hdlc_recovery dm =>
    cases stepped
    exact recovered_wired wired dm
  | watch_handle_eventfd replies =>
    obtain ⟨io,ran,rfl⟩ := map_eq_ok.mp stepped
    exact io_wired wired (eventfd_places ran)
  | callback fd input failed =>
    rw [step] at stepped
    by_cases selected : fd ∈ s.rfds
    · rw [if_pos selected] at stepped
      cases stepped
      have called := relays_wired (callback_inner (callback_of s.router fd) input)
        (s := { s with rfds := s.rfds.filter (fun other => other ≠ fd) }) wired
      cases failed with
      | true => exact io_wired called rfl
      | false => exact called
    · rw [if_neg selected] at stepped
      cases stepped
      exact wired

theorem start_wired : Wired Loop.start.opened Loop.start.router := by
  have closed (queue : Queue) : socket_of Loop.start.router queue = none := by cases queue <;> rfl
  refine ⟨⟨?_,?_,?_,?_⟩,⟨?_,?_⟩,?_⟩
  · exact fun w member => nomatch member
  · exact fun dm client found => nomatch found
  · exact fun i perif found => nomatch found
  · exact fun i perif found => nomatch found
  · intro queue fd here
    cases (closed queue).symm.trans here
  · intro queue other fd here
    cases (closed queue).symm.trans here
  · exact fun dm client found => nomatch found

end

/-- In every state of every run of the loop, each asynchronous watch is on the
    descriptor of what its queue belongs to, which no other has; an encoded client
    has one, and a channel of a processor one exactly while it is open. -/
theorem watches_connected (actions : List Action) :
    Along step (fun s => Connected s.router ∧ Apart s.opened (socket_of s.router)) Loop.start actions :=
  along_of_invariant (fun s => Wired s.opened s.router) step_wired (fun wired => ⟨wired.connected,wired.apart⟩) actions
    start_wired

end DiagRouter.Channels

import DiagRouter.CntlLocality

/-!
# Registrations of peripherals that are gone

An rpmsg peripheral that is closed takes its entries of `diag_cmds` with it, and
a QRTR peripheral that says BYE leaves them. So the list holds registrations of
connected peripherals only exactly as long as no QRTR peripheral with an entry
says BYE.
-/
namespace DiagRouter.Disconnects
open DiagRouter.Lib.Memory DiagRouter.Lib.Runs DiagRouter.Dispatch DiagRouter.DispatchOnce
open DiagRouter.CntlLocality (deregistered deregister_eq)

inductive Transport
  | rpmsg
  | qrtr
deriving DecidableEq, Repr

/-- A peripheral of the list, by its address. `sessions` and `registered` are
    records the program does not keep: how often the peripheral at an address has
    disconnected, and `diag_cmds` with the session each entry comes from. -/
structure Registry where
  peripherals : List (Nat × Transport)
  diag_cmds : List (DiagCmd Nat)
  sessions : Nat → Nat
  registered : List (DiagCmd Nat × Nat)

def Registry.start : Registry := ⟨[],[],fun _ => 0,[]⟩

def Registry.addresses (s : Registry) : List Nat := s.peripherals.map Prod.fst

/-- `connect` is `peripheral_create` and `qrtr_perif_init_subsystem`, `close` is
    `perif_rpmsg_close`, and `bye` a `QRTR_TYPE_BYE` on the control socket. -/
inductive Event
  | connect (peripheral : Nat) (transport : Transport)
  | register (peripheral : Nat) (pkt : Nat → UInt8)
  | deregister (peripheral : Nat) (pkt : Nat → UInt8)
  | close (peripheral : Nat)
  | bye (peripheral : Nat)

/-- Packets come from peripherals in the list, and an address is in it once. -/
def event_step (s : Registry) : Event → Except Fault Registry
  | .connect peripheral transport =>
    if peripheral ∈ s.addresses then .ok s else .ok { s with peripherals := s.peripherals ++ [(peripheral,transport)] }
  | .register peripheral pkt =>
    if peripheral ∈ s.addresses then
      .ok { s with
        diag_cmds := diag_cntl_register peripheral pkt s.diag_cmds
        registered := s.registered ++ (entries peripheral pkt).map (fun dc => (dc,s.sessions peripheral)) }
    else .ok s
  | .deregister peripheral pkt =>
    if peripheral ∈ s.addresses then
      .ok { s with
        diag_cmds := diag_cntl_deregister peripheral pkt s.diag_cmds
        registered := s.registered.filter (fun entry => entry.1 ∉ deregistered peripheral pkt) }
    else .ok s
  | .close peripheral =>
    if (peripheral,Transport.rpmsg) ∈ s.peripherals then
      .ok {
        peripherals := s.peripherals.filter (fun listed => listed.1 ≠ peripheral)
        diag_cmds := diag_cntl_close peripheral s.diag_cmds
        sessions := Function.update s.sessions peripheral (s.sessions peripheral + 1)
        registered := s.registered.filter (fun entry => entry.1.target ≠ peripheral) }
    else .ok s
  | .bye peripheral =>
    if (peripheral,Transport.qrtr) ∈ s.peripherals then
      .ok { s with sessions := Function.update s.sessions peripheral (s.sessions peripheral + 1) }
    else .ok s

/-- A peripheral that is not in the list, or has not registered anything since it
    disconnected. -/
def Vanished (s : Registry) (peripheral : Nat) : Prop :=
  peripheral ∉ s.addresses ∨ ∀ entry ∈ s.registered, entry.1.target = peripheral → entry.2 ≠ s.sessions peripheral

/-- Every entry is of a peripheral in the list, of its present session. A command
    that only vanished peripherals had registered is dispatched as if nobody had. -/
structure Attached (s : Registry) : Prop where
  recorded : s.registered.map Prod.fst = s.diag_cmds
  present : ∀ entry ∈ s.registered, entry.1.target ∈ s.addresses ∧ entry.2 = s.sessions entry.1.target
  answered : ∀ msg, (∀ dc ∈ s.diag_cmds, covers (message_key msg) dc = true → Vanished s dc.target) →
    ∀ {σ : Type} (calls : Calls σ) (state : σ),
      diag_cmd_dispatch calls s.diag_cmds msg state = diag_cmd_dispatch calls [] msg state

/-- A QRTR peripheral that says BYE has no entry. -/
def LeavesNothing (s : Registry) : Event → Prop
  | .bye peripheral => (peripheral,Transport.qrtr) ∈ s.peripherals → ∀ dc ∈ s.diag_cmds, dc.target ≠ peripheral
  | _ => True

theorem dispatch_uncovered {σ : Type} (calls : Calls σ) {diag_cmds : List (DiagCmd Nat)} {msg : Nat → UInt8}
    (uncovered : ∀ dc ∈ diag_cmds, ¬ covers (message_key msg) dc = true) (state : σ) :
    diag_cmd_dispatch calls diag_cmds msg state = diag_cmd_dispatch calls [] msg state := by
  have none : diag_cmds.filter (covers (message_key msg)) = [] := List.filter_eq_nil_iff.mpr uncovered
  simp only [diag_cmd_dispatch,send_loop_eq,none,List.filter_nil]

/-- What is said of commands follows from what is said of entries. -/
theorem attached_iff {s : Registry} : Attached s ↔ s.registered.map Prod.fst = s.diag_cmds ∧
    ∀ entry ∈ s.registered, entry.1.target ∈ s.addresses ∧ entry.2 = s.sessions entry.1.target := by
  constructor
  · exact fun attached => ⟨attached.recorded,attached.present⟩
  · rintro ⟨recorded,present⟩
    refine ⟨recorded,present,?_⟩
    intro msg vanished σ calls state
    refine dispatch_uncovered calls ?_ state
    intro dc listed covered
    have member := listed
    rw [← recorded] at member
    obtain ⟨entry,known,rfl⟩ := List.mem_map.mp member
    obtain ⟨here,session⟩ := present entry known
    rcases vanished entry.1 listed covered with gone | unregistered
    · exact gone here
    · exact unregistered entry known rfl session

theorem attached_start : Attached .start := attached_iff.mpr ⟨rfl,by simp [Registry.start]⟩

theorem entries_of {peripheral : Nat} {pkt : Nat → UInt8} {dc : DiagCmd Nat} (member : dc ∈ entries peripheral pkt) :
    dc.target = peripheral := by
  obtain ⟨i,_,rfl⟩ := List.mem_map.mp member
  rfl

section
variable {s : Registry} {peripheral : Nat}

/-! ## One event -/

theorem register_attached (attached : Attached s) (here : peripheral ∈ s.addresses) (pkt : Nat → UInt8) :
    Attached { s with
      diag_cmds := diag_cntl_register peripheral pkt s.diag_cmds
      registered := s.registered ++ (entries peripheral pkt).map (fun dc => (dc,s.sessions peripheral)) } := by
  refine attached_iff.mpr ⟨?_,?_⟩
  · simp [register_entries,attached.recorded,Function.comp_def]
  · intro entry member
    rcases List.mem_append.mp member with old | new
    · exact attached.present entry old
    · obtain ⟨dc,named,rfl⟩ := List.mem_map.mp new
      have target : dc.target = peripheral := entries_of named
      exact ⟨target ▸ here,congrArg s.sessions target.symm⟩

theorem deregister_attached (attached : Attached s) (pkt : Nat → UInt8) :
    Attached { s with
      diag_cmds := diag_cntl_deregister peripheral pkt s.diag_cmds
      registered := s.registered.filter (fun entry => entry.1 ∉ deregistered peripheral pkt) } := by
  refine attached_iff.mpr ⟨?_,fun entry member => attached.present entry (List.mem_of_mem_filter member)⟩
  dsimp only
  rw [deregister_eq,← attached.recorded,List.filter_map]
  rfl

/-- A closed peripheral leaves the list with its entries. -/
theorem close_attached (attached : Attached s) :
    Attached {
      peripherals := s.peripherals.filter (fun listed => listed.1 ≠ peripheral)
      diag_cmds := diag_cntl_close peripheral s.diag_cmds
      sessions := Function.update s.sessions peripheral (s.sessions peripheral + 1)
      registered := s.registered.filter (fun entry => entry.1.target ≠ peripheral) } := by
  refine attached_iff.mpr ⟨?_,?_⟩
  · dsimp only
    rw [diag_cntl_close,← attached.recorded,List.filter_map]
    rfl
  · intro entry member
    obtain ⟨known,other⟩ := List.mem_filter.mp member
    have different : entry.1.target ≠ peripheral := of_decide_eq_true other
    obtain ⟨here,session⟩ := attached.present entry known
    obtain ⟨listed,present,same⟩ := List.mem_map.mp here
    refine ⟨List.mem_map.mpr ⟨listed,List.mem_filter.mpr ⟨present,?_⟩,same⟩,?_⟩
    · rw [same]
      exact other
    · dsimp only
      rw [Function.update_of_ne different,session]

/-- After a BYE the entries of the peripheral are of an earlier session. -/
theorem bye_attached_iff (attached : Attached s) :
    (∀ dc ∈ s.diag_cmds, dc.target ≠ peripheral) ↔
      Attached { s with sessions := Function.update s.sessions peripheral (s.sessions peripheral + 1) } := by
  constructor
  · intro none
    refine attached_iff.mpr ⟨attached.recorded,?_⟩
    intro entry known
    obtain ⟨here,session⟩ := attached.present entry known
    have different : entry.1.target ≠ peripheral := by
      apply none entry.1
      rw [← attached.recorded]
      exact List.mem_map_of_mem known
    refine ⟨here,?_⟩
    dsimp only
    rw [Function.update_of_ne different,session]
  · intro after dc listed same
    rw [← attached.recorded] at listed
    obtain ⟨entry,known,rfl⟩ := List.mem_map.mp listed
    have before := (attached.present entry known).2
    have now := (after.present entry known).2
    dsimp only at now
    rw [same,Function.update_self] at now
    rw [same] at before
    omega

theorem event_attached_iff {event : Event} (attached : Attached s) :
    LeavesNothing s event ↔ ∀ t, event_step s event = .ok t → Attached t := by
  have ends : ∀ {t : Registry}, Attached t ↔ ∀ u, (.ok t : Except Fault Registry) = .ok u → Attached u := by
    intro t
    exact ⟨fun good u same => Except.ok.inj same ▸ good,fun all => all t rfl⟩
  cases event with
  | connect peripheral transport =>
    rw [event_step]
    split_ifs with known
    · exact ⟨fun _ => ends.mp attached,fun _ => trivial⟩
    · rw [← ends]
      refine ⟨fun _ => attached_iff.mpr ⟨attached.recorded,?_⟩,fun _ => trivial⟩
      intro entry member
      obtain ⟨here,session⟩ := attached.present entry member
      refine ⟨?_,session⟩
      rw [Registry.addresses,List.map_append]
      exact List.mem_append_left _ here
  | register peripheral pkt =>
    rw [event_step]
    split_ifs with known
    · exact ⟨fun _ => ends.mp (register_attached attached known pkt),fun _ => trivial⟩
    · exact ⟨fun _ => ends.mp attached,fun _ => trivial⟩
  | deregister peripheral pkt =>
    rw [event_step]
    split_ifs with known
    · exact ⟨fun _ => ends.mp (deregister_attached attached pkt),fun _ => trivial⟩
    · exact ⟨fun _ => ends.mp attached,fun _ => trivial⟩
  | close peripheral =>
    rw [event_step]
    split_ifs with known
    · exact ⟨fun _ => ends.mp (close_attached attached),fun _ => trivial⟩
    · exact ⟨fun _ => ends.mp attached,fun _ => trivial⟩
  | bye peripheral =>
    rw [event_step,LeavesNothing]
    split_ifs with known
    · rw [← ends,← bye_attached_iff attached]
      exact ⟨fun none => none known,fun none _ => none⟩
    · exact ⟨fun _ => ends.mp attached,fun _ gone => absurd gone known⟩

end

/-! ## Histories -/

/-- In every state of a history every registration is of a connected peripheral's
    present session, exactly when no QRTR peripheral says BYE that has one. -/
theorem registrations_attached_iff (events : List Event) :
    Along event_step Attached .start events ↔ Meets event_step LeavesNothing .start events :=
  along_iff_meets (fun _ => True) (fun _ _ => trivial) (fun _ attached => event_attached_iff attached) events trivial
    attached_start

/-- A QRTR peripheral registers a command and says BYE. -/
theorem bye_leaves_registration :
    ¬ Along event_step Attached .start [.connect 7 .qrtr,.register 7 keep_alive_packet,.bye 7] := by
  intro along
  have attached := Along.start (((along.2 _ rfl).2 _ rfl).2 _ rfl)
  have kept := attached.present (register_entry 7 keep_alive_packet 0,0) (by decide +kernel)
  exact absurd kept.2 (by decide +kernel)

end DiagRouter.Disconnects

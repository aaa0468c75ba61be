import DiagRouter.MainLoop

/-!
# Listening

`watch_run` takes a watch from its list when the callback fails, and nothing
puts it back: not for the errors that `qrtr_data_recv` expects of a processor
that restarts.
-/
namespace DiagRouter.Listening
open DiagRouter.Lib.Memory DiagRouter.Lib.Runs DiagRouter.Watch DiagRouter.FlowControl DiagRouter.MainLoop
open DiagRouter.Endpoints hiding Action step

/-- Nothing reads the descriptor, and of the peripheral whose data it brings as
    many messages were broadcast as `base` says. -/
structure Deaf (fd : Int) (base : Nat → Nat) (s : Loop) : Prop where
  opened : fd ∈ s.opened
  unwatched : ∀ w ∈ s.router.io.read_watches, w.fd ≠ fd
  unselected : fd ∉ s.rfds
  relayed : ∀ i : Nat, (data_fds s.router)[i]? = some fd → s.relayed i = base i

section
variable {fd : Int} {base : Nat → Nat} {s t : Loop}

/-- A call that broadcasts nothing of this peripheral's data. -/
theorem relay_deaf (deaf : Deaf fd base s) {c : Call} (inner : MainLoop.Inner c)
    (others : ∀ i, broadcasts s.router c = some i → (data_fds s.router)[i]? ≠ some fd) : Deaf fd base (relay s c) := by
  obtain ⟨frame,_⟩ := call_counts inner s.router
  refine ⟨deaf.opened,fun w member => deaf.unwatched w (frame.read_watches member),deaf.unselected,?_⟩
  intro i mine
  have here : (data_fds s.router)[i]? = some fd := frame.data_fds ▸ mine
  unfold relay
  dsimp only
  cases told : broadcasts s.router c with
  | none => exact deaf.relayed i here
  | some j =>
    have apart : i ≠ j := by
      rintro rfl
      exact others i told here
    dsimp only
    rw [Function.update_of_ne apart]
    exact deaf.relayed i here

theorem relays_deaf {calls : List Call} (deaf : Deaf fd base s) (inner : ∀ c ∈ calls, MainLoop.Inner c ∧ ∀ s, broadcasts s c = none) :
    Deaf fd base (calls.foldl relay s) := by
  induction calls generalizing s with
  | nil => exact deaf
  | cons c calls ih =>
    obtain ⟨first,none⟩ := inner c List.mem_cons_self
    refine ih (relay_deaf deaf first ?_) (fun d member => inner d (List.mem_cons_of_mem c member))
    intro i told
    rw [none] at told
    cases told

theorem called_deaf (deaf : Deaf fd base s) {other : Int} (apart : other ≠ fd) (input : Input) :
    Deaf fd base
      (((callback_of s.router other).calls input).foldl relay { s with rfds := s.rfds.filter (fun selected => selected ≠ other) }) := by
  have turned : Deaf fd base { s with rfds := s.rfds.filter (fun selected => selected ≠ other) } :=
    ⟨deaf.opened,deaf.unwatched,fun selected => deaf.unselected (List.mem_of_mem_filter selected),deaf.relayed⟩
  rcases callback_calls (callback_of s.router other) input with quiet | ⟨i,pkt,data,calls⟩
  · exact relays_deaf turned quiet
  · rw [calls]
    refine relay_deaf turned (c := .qrtr_data_recv i pkt) trivial ?_
    intro j told here
    cases broadcasts_data told
    cases (callback_data data).symm.trans here
    exact apart rfl

/-- What is opened has descriptors that nothing had. -/
theorem opening_deaf (deaf : Deaf fd base s) {opening : Opening} (fresh : Fresh s opening.fds) :
    Deaf fd base ((opening.calls s.router).foldl relay { s with opened := s.opened ++ opening.fds }) := by
  have unused {other : Int} (new : other ∈ opening.fds) : other ≠ fd := by
    rintro rfl
    exact (fresh.2 other new).2 deaf.opened
  have kept : fd ∈ s.opened ++ opening.fds := List.mem_append_left _ deaf.opened
  have client (other : Int) (is_encoded : Bool) (new : other ∈ opening.fds) :
      Deaf fd base (relay (relay { s with opened := s.opened ++ opening.fds } (.dm_add other other is_encoded))
        (.dm_enable s.router.diag_clients.length)) := by
    have natural := (fresh.2 other new).1
    refine ⟨kept,?_,deaf.unselected,deaf.relayed⟩
    intro w member
    simp only [relay,call,dm_enable,set_enabled,dm_add,natural,if_true,watch_add_writeq,watch_add_aio,watch_add_readfd] at member
    rcases List.mem_append.mp member with old | last
    · exact deaf.unwatched w old
    · rw [List.mem_singleton.mp last]
      exact unused new
  cases opening with
  | diag_sock_connect other => exact client other true (List.mem_singleton_self other)
  | diag_uart_open other => exact client other true (List.mem_singleton_self other)
  | unix_listen other => exact client other false (List.mem_singleton_self other)
  | diag_usb_open ep0 bulk_out bulk_in =>
    refine ⟨kept,?_,deaf.unselected,?_⟩
    · intro w member
      simp only [Opening.calls,List.foldl,relay,call] at member
      unfold diag_usb_open at member
      split at member
      · exact deaf.unwatched w member
      · simp only [dm_add,watch_add_writeq,watch_add_aio,watch_add_readfd] at member
        rcases List.mem_append.mp member with old | last
        · exact deaf.unwatched w old
        · rw [List.mem_singleton.mp last]
          exact unused (by simp [Opening.fds])
    · intro i mine
      refine deaf.relayed i ?_
      rw [← mine]
      simp only [Opening.calls,List.foldl,relay,call,data_fds]
      unfold diag_usb_open
      split <;> rfl
  | qrtr_perif_init_subsystem cntl_fd data_fd cmd_fd =>
    refine ⟨kept,?_,deaf.unselected,?_⟩
    · intro w member
      simp only [Opening.calls,List.foldl,relay,call,qrtr_perif_init_subsystem,watch_add_readfd,List.mem_append,
        List.mem_singleton] at member
      rcases member with ((listed | rfl) | rfl) | rfl
      · exact deaf.unwatched w listed
      all_goals exact unused (by simp [Opening.fds])
    · intro i mine
      simp only [Opening.calls,List.foldl,relay,call,qrtr_perif_init_subsystem,data_fds,List.map_append,List.map_cons,
        List.map_nil] at mine
      rw [List.getElem?_append] at mine
      split_ifs at mine with inside
      · exact deaf.relayed i mine
      · exact absurd (List.mem_singleton.mp (List.mem_of_getElem? mine)).symm (unused (by simp [Opening.fds]))

/-- Asynchronous I/O adds no read watch. -/
theorem moves_deaf (deaf : Deaf fd base s) {io : Watches} (moves : Moves s.router.io io) :
    Deaf fd base { s with router := { s.router with io := io } } :=
  ⟨deaf.opened,fun w member => deaf.unwatched w (moves.read_watches ▸ member),deaf.unselected,deaf.relayed⟩

theorem step_deaf {a : Action} (bounded : Bounded s) (deaf : Deaf fd base s) (stepped : step s a = .ok t) : Deaf fd base t := by
  cases a with
  | opens opening =>
    rw [step] at stepped
    split_ifs at stepped with fresh
    · cases stepped
      exact opening_deaf deaf fresh
    · cases stepped
      exact deaf
  | select ready =>
    cases stepped
    refine ⟨deaf.opened,deaf.unwatched,?_,deaf.relayed⟩
    intro selected
    obtain ⟨w,member,same⟩ := List.mem_map.mp (List.mem_of_mem_filter selected)
    exact deaf.unwatched w (List.mem_of_mem_filter member) same
  | submit_pass accepted =>
    obtain ⟨io,ran,rfl⟩ := map_eq_ok.mp stepped
    exact moves_deaf deaf (submit_pass_moves bounded.placed ran).2
  | diag_hdlc_reset =>
    cases stepped
    exact relay_deaf deaf (c := .set_encode_type .HDLC) (by simp [MainLoop.Inner]) (by rintro i ⟨⟩)
  | handle_hdlc_disable_cmd =>
    cases stepped
    exact relay_deaf deaf (c := .set_encode_type .NHDLC) (by simp [MainLoop.Inner]) (by rintro i ⟨⟩)
  | diag_start_hdlc_recovery dm =>
    cases stepped
    exact ⟨deaf.opened,deaf.unwatched,deaf.unselected,deaf.relayed⟩
  | watch_handle_eventfd replies =>
    obtain ⟨io,ran,rfl⟩ := map_eq_ok.mp stepped
    exact moves_deaf deaf (watch_handle_eventfd_moves bounded.placed bounded.covered ran).2
  | callback other input failed =>
    rw [step] at stepped
    by_cases selected : other ∈ s.rfds
    · have apart : other ≠ fd := by
        rintro rfl
        exact deaf.unselected selected
      have called := called_deaf deaf apart input
      rw [if_pos selected] at stepped
      cases stepped
      cases failed with
      | true => exact ⟨called.opened,fun w member => called.unwatched w (List.mem_of_mem_filter member),called.unselected,called.relayed⟩
      | false => exact called
    · rw [if_neg selected] at stepped
      cases stepped
      exact deaf

theorem relays_selected (calls : List Call) (s : Loop) :
    (calls.foldl relay s).opened = s.opened ∧ (calls.foldl relay s).rfds = s.rfds := by
  induction calls generalizing s with
  | nil => exact ⟨rfl,rfl⟩
  | cons c calls ih => exact ih (relay s c)

/-- The watch of the callback that fails is gone. -/
theorem failed_deaf {input : Input} (bounded : Bounded s) (selected : fd ∈ s.rfds) (failed : step s (.callback fd input true) = .ok t) :
    Deaf fd t.relayed t := by
  have known := bounded.ready fd selected
  rw [step,if_pos selected] at failed
  cases failed
  obtain ⟨opened,rfds⟩ := relays_selected ((callback_of s.router fd).calls input)
    { s with rfds := s.rfds.filter (fun other => other ≠ fd) }
  refine ⟨?_,?_,?_,fun _ _ => rfl⟩
  · exact opened.symm ▸ known
  · intro w member
    exact of_decide_eq_true (List.mem_filter.mp member).2
  · intro still
    have left : fd ∈ s.rfds.filter (fun other => other ≠ fd) := by
      rw [dropped,rfds] at still
      exact still
    have apart : fd ≠ fd := of_decide_eq_true (List.mem_filter.mp left).2
    exact apart rfl

end

/-- Once the callback of a descriptor has failed, the descriptor is selected in no
    state of the rest of the run; and if it was a peripheral's data socket, no
    message of the peripheral's data is broadcast again. -/
theorem failed_callback_deafens {before later : List Action} {s t : Loop} {fd : Int} {input : Input}
    (run : exec step Loop.start before = .ok s) (selected : fd ∈ s.rfds) (failed : step s (.callback fd input true) = .ok t) :
    Along step (fun u => fd ∉ readable u.router.io ∧ fd ∉ u.rfds ∧
      ∀ i : Nat, (data_fds u.router)[i]? = some fd → u.relayed i = t.relayed i) t later := by
  have bounded := exec_invariant (I := Bounded) step_bounded start_bounded run
  refine along_of_invariant (fun u => Bounded u ∧ Deaf fd t.relayed u) ?_ ?_ later
    ⟨step_bounded bounded failed,failed_deaf bounded selected failed⟩
  · rintro u a v ⟨known,deaf⟩ stepped
    exact ⟨step_bounded known stepped,step_deaf known deaf stepped⟩
  · rintro u ⟨_,deaf⟩
    refine ⟨?_,deaf.unselected,deaf.relayed⟩
    intro ready
    obtain ⟨w,member,same⟩ := List.mem_map.mp ready
    exact deaf.unwatched w (List.mem_of_mem_filter member) same

/-- A processor restarts, and its data socket reports it. -/
theorem restart_deafens : ∃ s t, exec step Loop.start [.opens (.qrtr_perif_init_subsystem 6 7 8),.select [7]] = .ok s ∧
    step s (.callback 7 .nothing true) = .ok t ∧
    Along step (fun u => 7 ∉ readable u.router.io ∧ 7 ∉ u.rfds ∧
      ∀ i : Nat, (data_fds u.router)[i]? = some 7 → u.relayed i = t.relayed i) t spoken :=
  ⟨_,_,rfl,rfl,@failed_callback_deafens [.opens (.qrtr_perif_init_subsystem 6 7 8),.select [7]] spoken _ _ 7 .nothing rfl (by decide) rfl⟩

end DiagRouter.Listening

import DiagRouter.HdlcRecovery

/-!
# Falling back to HDLC

A packet that the check rejects starts the timer that is to bring its client
back to HDLC. But `dm_recv_nhdlc` returns what the check does, and `watch_run`
takes the watch of a callback that failed from its list: whatever the client
sends then, nothing reads it.
-/
namespace DiagRouter.NhdlcFallback
open DiagRouter.Lib.Memory DiagRouter.Lib.Runs DiagRouter.Masks DiagRouter.CircRead
open DiagRouter.Dispatch DiagRouter.Handlers
open DiagRouter.Peripherals (Peripheral)
open DiagRouter.Clients (DiagClient EncodeType)
open DiagRouter.NhdlcStream (dm_check_nhdlc_pkt dm_recv_nhdlc dm_decode_data dm_recv_encoded diag_start_hdlc_recovery)
open DiagRouter.NhdlcDatagram (MbufBlock)
open DiagRouter.HdlcRecovery hiding Action step

/-- What `dm_recv_raw` returns, and whether it has removed the watch itself. -/
def raw_end : List ReadResult → List UInt8 → Int × Bool
  | [], _ => (0,false)
  | .upto n :: rest, waiting =>
    if waiting.take (min n 4096) = [] then (0,false) else raw_end rest (waiting.drop (min n 4096))
  | .eof :: _, _ => (0,true)
  | .error errno :: _, _ => (if errno = EAGAIN then 0 else -errno,false)

/-- What `dm_decode_data` returns. -/
def decode_end (type : EncodeType) (recv_buf : CircBuf) : Except Fault Int :=
  match type with
  | .HDLC => .ok 0
  | .NHDLC => dm_check_nhdlc_pkt recv_buf
  | .RAW => .ok (-EINVAL)

/-- What `dm_recv` returns, and whether it has removed the watch itself. -/
def recv_end (client : Nat) (fd : Fd) (s : System) : Except Fault (Int × Bool) :=
  match s.router.diag_clients[client]? with
  | none => .ok (-EINVAL,false)
  | some dm =>
    if dm.encode_type = .RAW then .ok (raw_end fd.script fd.waiting)
    else
      let read := circ_read fd (s.readers client).recv_buf
      match read.errno with
      | some errno =>
        if errno ≠ EAGAIN then .ok (-errno,false) else (fun ret => (ret,false)) <$> decode_end dm.encode_type read.buf
      | none => (fun ret => (ret,false)) <$> decode_end dm.encode_type read.buf

/-- `listened` are the clients that have a read watch. `calls` is a record of how
    often each was read. -/
structure Loop where
  system : System
  listened : List Nat
  calls : Nat → Nat

def Loop.start : Loop :=
  ⟨⟨⟨diag_masks_init,[],[],[],[]⟩,fun _ => ⟨false,⟨fun _ => 0,0,0⟩⟩,0,[]⟩,[],fun _ => 0⟩

/-- What happens, with the descriptor that a client is added with. -/
inductive Action
  | dm_add (in_fd : Int) (is_encoded : Bool)
  | dm_recv (memory : Nat → Junk × Request) (client : Nat) (fd : Fd)
  | diag_ffs_recv (memory : Nat → Junk × Request) (client : Nat) (mbuf : MbufBlock)
  | diag_hdlc_reset (client : Nat)
  | elsewhere (masks : MaskTables) (diag_cmds : List (DiagCmd Nat)) (diag_ids : List DiagIdTbl)
      (peripherals : List Peripheral) (clients : Nat → Bool × List (List UInt8))

def Action.inner : Action → HdlcRecovery.Action
  | .dm_add _ is_encoded => .dm_add is_encoded
  | .dm_recv memory client fd => .dm_recv memory client fd
  | .diag_ffs_recv memory client mbuf => .diag_ffs_recv memory client mbuf
  | .diag_hdlc_reset client => .diag_hdlc_reset client
  | .elsewhere masks diag_cmds diag_ids peripherals clients => .elsewhere masks diag_cmds diag_ids peripherals clients

/-- Only a descriptor with a read watch is selected. -/
def step (s : Loop) : Action → Except Fault Loop
  | .dm_recv memory client fd =>
    if client ∈ s.listened then
      recv_end client fd s.system >>= fun (ret,ended) =>
        (fun system => { system := system
                         listened := if ret < 0 ∨ ended then s.listened.filter (fun other => other ≠ client) else s.listened
                         calls := Function.update s.calls client (s.calls client + 1) }) <$>
          HdlcRecovery.dm_recv memory client fd s.system
    else .ok s
  | .dm_add in_fd is_encoded =>
    .ok { s with
      system := HdlcRecovery.dm_add is_encoded s.system
      listened := if 0 ≤ in_fd then s.listened ++ [s.system.router.diag_clients.length] else s.listened }
  | a => (fun system => { s with system := system }) <$> HdlcRecovery.step s.system a.inner

section
variable {s t : Loop} {client : Nat}

/-- A step of the loop is one of the system, or none. -/
theorem step_system {a : Action} (stepped : step s a = .ok t) :
    t.system = s.system ∨ HdlcRecovery.step s.system a.inner = .ok t.system := by
  have inner {x : Except Fault System} (same : (fun system => { s with system := system }) <$> x = .ok t) :
      x = .ok t.system := by
    obtain ⟨system,ran,rfl⟩ := map_eq_ok.mp same
    exact ran
  cases a with
  | dm_add in_fd is_encoded =>
    cases stepped
    exact .inr rfl
  | dm_recv memory caller fd =>
    rw [step] at stepped
    split_ifs at stepped
    · obtain ⟨⟨ret,ended⟩,_,stepped⟩ := bind_eq_ok.mp stepped
      obtain ⟨system,ran,rfl⟩ := map_eq_ok.mp stepped
      exact .inr ran
    · cases stepped
      exact .inl rfl
  | diag_ffs_recv memory caller mbuf => exact .inr (inner stepped)
  | diag_hdlc_reset caller => exact .inr (inner stepped)
  | elsewhere masks diag_cmds diag_ids peripherals clients => exact .inr (inner stepped)

/-! ## Timers -/

/-- The flag is set only while the timer is waiting. -/
def Flagged (s : System) : Prop := ∀ client, (s.readers client).encode_hdlc_reset = true → client ∈ s.timers

theorem left_by_flagged {s : System} (flagged : Flagged s) (caller : Nat) (dm : NhdlcStream.DiagClient) :
    Flagged (left_by s caller dm) := by
  intro client flag
  simp only [left_by] at flag ⊢
  by_cases own : client = caller
  · subst own
    rw [Function.update_self] at flag
    dsimp only at flag
    cases old : (s.readers client).encode_hdlc_reset with
    | true => simpa [flag] using flagged client old
    | false => simp [flag]
  · rw [Function.update_of_ne own] at flag
    split_ifs
    · exact List.mem_append_left _ (flagged client flag)
    · exact flagged client flag

theorem handled_flagged {s t : System} {memory : Nat → Junk × Request} {caller : Nat} {commands : List Hdlc.Message}
    (flagged : Flagged s) (ran : handled caller memory s commands = .ok t) : Flagged t := by
  obtain ⟨router,_,rfl⟩ := map_eq_ok.mp ran
  exact flagged

theorem system_flagged {s t : System} {a : HdlcRecovery.Action} (flagged : Flagged s) (stepped : HdlcRecovery.step s a = .ok t) :
    Flagged t := by
  cases a with
  | dm_recv memory caller fd =>
    simp only [HdlcRecovery.step,HdlcRecovery.dm_recv] at stepped
    split at stepped
    · cases stepped
      exact flagged
    · split_ifs at stepped
      · exact handled_flagged flagged stepped
      · obtain ⟨⟨after,commands⟩,_,ran⟩ := bind_eq_ok.mp stepped
        exact handled_flagged (left_by_flagged flagged caller after) ran
  | diag_ffs_recv memory caller mbuf =>
    simp only [HdlcRecovery.step,HdlcRecovery.diag_ffs_recv] at stepped
    split at stepped
    · cases stepped
      exact flagged
    · obtain ⟨recv_buf,_,ran⟩ := bind_eq_ok.mp stepped
      obtain ⟨⟨after,commands⟩,_,ran⟩ := bind_eq_ok.mp ran
      exact handled_flagged (left_by_flagged flagged caller _) ran
  | diag_hdlc_reset caller =>
    cases stepped
    unfold HdlcRecovery.diag_hdlc_reset
    split_ifs with waiting
    · intro client flag
      by_cases own : client = caller
      · subst own
        simp [Function.update_self] at flag
      · simp only [Function.update_of_ne own] at flag
        exact (List.mem_erase_of_ne own).mpr (flagged client flag)
    · exact flagged
  | dm_add is_encoded =>
    cases stepped
    intro client flag
    simp only [HdlcRecovery.dm_add] at flag ⊢
    by_cases own : client = s.router.diag_clients.length
    · subst own
      simp [Function.update_self] at flag
    · rw [Function.update_of_ne own] at flag
      exact flagged client flag
  | elsewhere masks diag_cmds diag_ids peripherals clients =>
    cases stepped
    exact flagged

theorem step_flagged {a : Action} (flagged : Flagged s.system) (stepped : step s a = .ok t) : Flagged t.system := by
  rcases step_system stepped with same | ran
  · exact same ▸ flagged
  · exact system_flagged flagged ran

/-! ## A client that is not read -/

/-- The client is there, nothing reads it, and it was read `times` times. -/
structure Unread (client times : Nat) (s : Loop) : Prop where
  present : ∃ type, type_of s.system client = some type
  unlisted : client ∉ s.listened
  calls : s.calls client = times

theorem step_present {a : Action} (present : ∃ type, type_of s.system client = some type) (stepped : step s a = .ok t) :
    ∃ type, type_of t.system client = some type := by
  obtain ⟨type,was⟩ := present
  rcases step_system stepped with same | ran
  · exact ⟨type,same ▸ was⟩
  · obtain ⟨⟨next,shown,_⟩,_⟩ := step_retypes ran was
    exact ⟨next,shown⟩

theorem step_unread {times : Nat} {a : Action} (unread : Unread client times s) (stepped : step s a = .ok t) :
    Unread client times t := by
  have kept := step_present unread.present stepped
  have same {x : Except Fault System} (ran : (fun system => { s with system := system }) <$> x = .ok t) : Unread client times t := by
    obtain ⟨system,_,rfl⟩ := map_eq_ok.mp ran
    exact ⟨kept,unread.unlisted,unread.calls⟩
  cases a with
  | dm_add in_fd is_encoded =>
    cases stepped
    refine ⟨kept,?_,unread.calls⟩
    obtain ⟨type,was⟩ := unread.present
    have inside : client < s.system.router.diag_clients.length := by
      rw [type_of,encode_types] at was
      simpa using (List.getElem?_eq_some_iff.mp was).1
    dsimp only
    split_ifs
    · simp only [List.mem_append,List.mem_singleton,not_or]
      exact ⟨unread.unlisted,by omega⟩
    · exact unread.unlisted
  | dm_recv memory caller fd =>
    rw [step] at stepped
    by_cases listed : caller ∈ s.listened
    · rw [if_pos listed] at stepped
      obtain ⟨⟨ret,ended⟩,_,stepped⟩ := bind_eq_ok.mp stepped
      obtain ⟨system,_,rfl⟩ := map_eq_ok.mp stepped
      have apart : client ≠ caller := by
        rintro rfl
        exact unread.unlisted listed
      refine ⟨kept,?_,?_⟩
      · dsimp only
        split_ifs
        · exact fun member => unread.unlisted (List.mem_of_mem_filter member)
        · exact unread.unlisted
      · dsimp only
        rw [Function.update_of_ne apart]
        exact unread.calls
    · rw [if_neg listed] at stepped
      cases stepped
      exact unread
  | diag_ffs_recv memory caller mbuf => exact same stepped
  | diag_hdlc_reset caller => exact same stepped
  | elsewhere masks diag_cmds diag_ids peripherals clients => exact same stepped

/-- A call that fails takes the watch of its client away. -/
theorem failed_unread {memory : Nat → Junk × Request} {fd : Fd} {ret : Int} {ended : Bool} (listed : client ∈ s.listened)
    (present : ∃ type, type_of s.system client = some type) (failed : recv_end client fd s.system = .ok (ret,ended)) (negative : ret < 0)
    (called : step s (.dm_recv memory client fd) = .ok t) : Unread client (s.calls client + 1) t := by
  have kept := step_present present called
  rw [step,if_pos listed,failed,ok_bind] at called
  obtain ⟨system,_,rfl⟩ := map_eq_ok.mp called
  refine ⟨kept,?_,by simp⟩
  simp [negative]

theorem check_negative {buf : CircBuf} {ret : Int} (checked : dm_check_nhdlc_pkt buf = .ok ret) (bad : ret ≠ 0) : ret < 0 := by
  unfold dm_check_nhdlc_pkt at checked
  dsimp only at checked
  split_ifs at checked
  · cases checked
    decide
  · cases checked
    decide
  · cases checked
    exact absurd rfl bad

theorem recovery_flag (dm : NhdlcStream.DiagClient) : (diag_start_hdlc_recovery dm).encode_hdlc_reset = true := by
  unfold diag_start_hdlc_recovery
  cases flag : dm.encode_hdlc_reset <;> simp only [Bool.false_eq_true,if_true,if_false] <;> split_ifs <;> first | rfl | exact flag

/-- The read that brings a packet to an NHDLC client of a descriptor. -/
theorem read_decoded {fd : Fd} {s : System} {dm : DiagClient} (nhdlc : dm.encode_type = .NHDLC)
    (read : ∀ errno ∈ (circ_read fd (s.readers client).recv_buf).errno, errno = EAGAIN) :
    dm_recv_encoded fd (called_on s client dm) =
      dm_recv_nhdlc { called_on s client dm with recv_buf := (circ_read fd (s.readers client).recv_buf).buf } := by
  have decoded (buf : CircBuf) : dm_decode_data { called_on s client dm with recv_buf := buf } =
      dm_recv_nhdlc { called_on s client dm with recv_buf := buf } := by
    rw [dm_decode_data,called_on]
    dsimp only
    rw [nhdlc]
  unfold dm_recv_encoded
  dsimp only
  cases errno : (circ_read fd (s.readers client).recv_buf).errno with
  | none =>
    rw [show (circ_read fd (called_on s client dm).recv_buf).errno = none from errno]
    exact decoded _
  | some code =>
    rw [show (circ_read fd (called_on s client dm).recv_buf).errno = some code from errno]
    dsimp only
    rw [if_neg (not_not.mpr (read code errno))]
    exact decoded _

/-- What a rejected packet leaves: the flag, and a return value below 0. -/
theorem rejected_call {memory : Nat → Junk × Request} {fd : Fd} {s t : System} {dm : DiagClient}
    (present : s.router.diag_clients[client]? = some dm) (nhdlc : dm.encode_type = .NHDLC)
    (read : ∀ errno ∈ (circ_read fd (s.readers client).recv_buf).errno, errno = EAGAIN) {ret : Int}
    (rejected : dm_check_nhdlc_pkt (circ_read fd (s.readers client).recv_buf).buf = .ok ret) (bad : ret ≠ 0)
    (called : HdlcRecovery.dm_recv memory client fd s = .ok t) :
    (t.readers client).encode_hdlc_reset = true ∧ recv_end client fd s = .ok (ret,false) := by
  have encoded : ¬ dm.encode_type = .RAW := by
    rw [nhdlc]
    decide
  constructor
  · rw [HdlcRecovery.dm_recv,present] at called
    dsimp only at called
    rw [if_neg encoded,read_decoded nhdlc read,dm_recv_nhdlc,rejected,ok_bind,ok_bind] at called
    dsimp only at called
    rw [if_pos bad] at called
    obtain ⟨router,_,rfl⟩ := map_eq_ok.mp called
    simp only [left_by,Function.update_self]
    exact recovery_flag _
  · rw [recv_end,present]
    dsimp only
    rw [if_neg encoded,nhdlc]
    cases errno : (circ_read fd (s.readers client).recv_buf).errno with
    | none =>
      dsimp only
      rw [decode_end,rejected]
      rfl
    | some code =>
      dsimp only
      rw [if_neg (not_not.mpr (read code errno)),decode_end,rejected]
      rfl

end

/-- A client of a descriptor is NHDLC and sends what the check rejects: its timer
    is waiting then, and the client is read in no state of the rest of the run,
    whatever fires. -/
theorem recovery_in_vain {before later : List Action} {s t : Loop} {client : Nat} {memory : Nat → Junk × Request} {fd : Fd}
    {dm : DiagClient} {ret : Int} (run : exec step Loop.start before = .ok s) (listed : client ∈ s.listened)
    (present : s.system.router.diag_clients[client]? = some dm) (nhdlc : dm.encode_type = .NHDLC)
    (read : ∀ errno ∈ (circ_read fd (s.system.readers client).recv_buf).errno, errno = EAGAIN)
    (rejected : dm_check_nhdlc_pkt (circ_read fd (s.system.readers client).recv_buf).buf = .ok ret) (bad : ret ≠ 0)
    (called : step s (.dm_recv memory client fd) = .ok t) :
    client ∈ t.system.timers ∧ Along step (fun u => client ∉ u.listened ∧ u.calls client = t.calls client) t later := by
  have flagged : Flagged s.system := exec_invariant (I := fun u => Flagged u.system) step_flagged
    (by intro client flag; cases flag) run
  have ran : HdlcRecovery.dm_recv memory client fd s.system = .ok t.system := by
    rw [step,if_pos listed] at called
    obtain ⟨⟨_,_⟩,_,called⟩ := bind_eq_ok.mp called
    obtain ⟨system,ran,rfl⟩ := map_eq_ok.mp called
    exact ran
  obtain ⟨flag,failed⟩ := rejected_call present nhdlc read rejected bad ran
  have unread := failed_unread listed ⟨_,type_of_present present⟩ failed (check_negative rejected bad) called
  refine ⟨step_flagged flagged called client flag,?_⟩
  refine along_of_invariant (Unread client (t.calls client)) step_unread (fun unread => ⟨unread.unlisted,unread.calls⟩) later ?_
  exact ⟨unread.present,unread.unlisted,rfl⟩

/-- A client comes and asks for packets. -/
def asks_nhdlc : List Action :=
  [.dm_add 5 true,.dm_recv zeroed 0 ⟨Hdlc.hdlc_encode [0x4b,0x12,0x18,0x02],[.upto 20,.upto 20]⟩]

/-- A byte that no packet begins with. -/
def one_byte : Fd := ⟨[0],[.upto 1,.upto 1]⟩

theorem byte_in_vain : ∃ s t, exec step Loop.start asks_nhdlc = .ok s ∧ step s (.dm_recv zeroed 0 one_byte) = .ok t ∧
    0 ∈ t.system.timers ∧ Along step (fun u => 0 ∉ u.listened ∧ u.calls 0 = t.calls 0) t [.diag_hdlc_reset 0] := by
  have shown : (fun s => (decide (0 ∈ s.listened),type_of s.system 0,(circ_read one_byte (s.system.readers 0).recv_buf).errno,
      dm_check_nhdlc_pkt (circ_read one_byte (s.system.readers 0).recv_buf).buf,
      (step s (.dm_recv zeroed 0 one_byte)).toOption.isSome)) <$> exec step Loop.start asks_nhdlc =
        .ok (true,some .NHDLC,none,.ok (-EINVAL),true) := by decide +kernel
  obtain ⟨s,run,facts⟩ := map_eq_ok.mp shown
  simp only [Prod.mk.injEq,decide_eq_true_eq] at facts
  obtain ⟨listed,type,errno,rejected,steps⟩ := facts
  rw [type_of,encode_types,List.getElem?_map] at type
  obtain ⟨dm,present,nhdlc⟩ := Option.map_eq_some_iff.mp type
  cases called : step s (.dm_recv zeroed 0 one_byte) with
  | error fault =>
    rw [called] at steps
    cases steps
  | ok t =>
    exact ⟨s,t,run,called,recovery_in_vain run listed present nhdlc (by simp [errno]) rejected (by decide) called⟩

end DiagRouter.NhdlcFallback

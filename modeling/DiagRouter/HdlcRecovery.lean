import DiagRouter.NhdlcCheck
import DiagRouter.UsbTransfer

/-!
# HDLC recovery

What clients write and read is one setting for each. A packet that the check
rejects starts a timer for its client, and counts towards a limit that is one
for all clients; the timer, when it fires, sets every encoded client to HDLC.
-/
namespace DiagRouter.HdlcRecovery
open DiagRouter.Lib.Memory DiagRouter.Lib.Runs DiagRouter.Lib.Words DiagRouter.Masks DiagRouter.CircRead
open DiagRouter.Dispatch DiagRouter.Handlers DiagRouter.NhdlcCheck
open DiagRouter.Peripherals (Peripheral)
open DiagRouter.Hdlc (Message)
open DiagRouter.Clients (DiagClient EncodeType NHDLC_CONTROL_CHAR set_encode_type dm_send)
open DiagRouter.NhdlcStream (diag_start_hdlc_recovery dm_decode_data dm_recv_encoded)
open DiagRouter.NhdlcDatagram (MbufBlock)
open DiagRouter.UsbTransfer (ffs_recv_buf)

/-! ## The clients of the router -/

/-- The receiving side of a client. -/
structure Reader where
  encode_hdlc_reset : Bool
  recv_buf : CircBuf

/-- The clients by their place in `diag_clients`; `timers` are those that
    `diag_hdlc_reset` is to be called for. -/
structure System where
  router : Router
  readers : Nat → Reader
  bad_cmd_counter : UInt32
  timers : List Nat

/-- A client as its calls find it. -/
def called_on (s : System) (client : Nat) (dm : DiagClient) : NhdlcStream.DiagClient :=
  ⟨dm.encode_type,(s.readers client).encode_hdlc_reset,(s.readers client).recv_buf,s.bad_cmd_counter⟩

/-- What a call leaves of its client; the timer is added when the flag is set. -/
def left_by (s : System) (client : Nat) (dm : NhdlcStream.DiagClient) : System :=
  { router := { s.router with
      diag_clients := s.router.diag_clients.modify client (fun old => { old with encode_type := dm.encode_type }) }
    readers := Function.update s.readers client ⟨dm.encode_hdlc_reset,dm.recv_buf⟩
    bad_cmd_counter := dm.bad_cmd_counter
    timers := if dm.encode_hdlc_reset && !(s.readers client).encode_hdlc_reset then s.timers ++ [client] else s.timers }

/-- The commands of a call, one after the other, each with what allocations
    leave in memory and what follows its bytes. -/
def handle_commands (client : Nat) : (Nat → Junk × Request) → List Message → Router → Except Fault Router
  | _, [], router => .ok router
  | memory, msg :: rest, router =>
    diag_client_handle_command (memory 0).1 client (place msg.raw_buf (memory 0).2) msg.msglen router >>=
      handle_commands client (fun k => memory (k + 1)) rest

def handled (client : Nat) (memory : Nat → Junk × Request) (s : System) (commands : List Message) : Except Fault System :=
  (fun router => { s with router := router }) <$> handle_commands client memory commands s.router

/-- `dm_recv_raw`: each `read` is a command. -/
def raw_reads : List ReadResult → List UInt8 → List Message
  | .upto n :: rest, waiting =>
    let bytes := waiting.take (min n 4096)
    if bytes = [] then [] else ⟨bytes,bytes.length⟩ :: raw_reads rest (waiting.drop (min n 4096))
  | _, _ => []

def dm_recv (memory : Nat → Junk × Request) (client : Nat) (fd : Fd) (s : System) : Except Fault System :=
  match s.router.diag_clients[client]? with
  | none => .ok s
  | some dm =>
    if dm.encode_type = .RAW then handled client memory s (raw_reads fd.script fd.waiting)
    else dm_recv_encoded fd (called_on s client dm) >>= fun (dm,commands) => handled client memory (left_by s client dm) commands

/-- The ring is not that of the client. -/
def diag_ffs_recv (memory : Nat → Junk × Request) (client : Nat) (mbuf : MbufBlock) (s : System) : Except Fault System :=
  match s.router.diag_clients[client]? with
  | none => .ok s
  | some dm =>
    ffs_recv_buf mbuf >>= fun recv_buf => dm_decode_data { called_on s client dm with recv_buf := recv_buf } >>= fun (after,commands) =>
      handled client memory (left_by s client { after with recv_buf := (s.readers client).recv_buf }) commands

/-- Timers are added without repeat. -/
def diag_hdlc_reset (client : Nat) (s : System) : System :=
  if client ∈ s.timers then
    { s with
      router := { s.router with diag_clients := set_encode_type .HDLC s.router.diag_clients }
      readers := Function.update s.readers client { s.readers client with encode_hdlc_reset := false }
      timers := s.timers.erase client }
  else s

def dm_add (is_encoded : Bool) (s : System) : System :=
  { s with
    router := { s.router with
      diag_clients := s.router.diag_clients ++ [⟨if is_encoded then .HDLC else .RAW,false,[]⟩] }
    readers := Function.update s.readers s.router.diag_clients.length ⟨false,⟨fun _ => 0,0,0⟩⟩ }

/-- What happens: a client's descriptor or USB transfer is ready, its timer
    fires, or a client is added. Elsewhere tables and queues change, and clients
    are enabled. -/
inductive Action
  | dm_recv (memory : Nat → Junk × Request) (client : Nat) (fd : Fd)
  | diag_ffs_recv (memory : Nat → Junk × Request) (client : Nat) (mbuf : MbufBlock)
  | diag_hdlc_reset (client : Nat)
  | dm_add (is_encoded : Bool)
  | elsewhere (masks : MaskTables) (diag_cmds : List (DiagCmd Nat)) (diag_ids : List DiagIdTbl)
      (peripherals : List Peripheral) (clients : Nat → Bool × List (List UInt8))

def step (s : System) : Action → Except Fault System
  | .dm_recv memory client fd => dm_recv memory client fd s
  | .diag_ffs_recv memory client mbuf => diag_ffs_recv memory client mbuf s
  | .diag_hdlc_reset client => .ok (diag_hdlc_reset client s)
  | .dm_add is_encoded => .ok (dm_add is_encoded s)
  | .elsewhere masks diag_cmds diag_ids peripherals clients =>
    .ok { s with router := ⟨masks,diag_cmds,diag_ids,peripherals,
      s.router.diag_clients.mapIdx (fun i dm => { dm with enabled := (clients i).1, outq := (clients i).2 })⟩ }

def encode_types (router : Router) : List EncodeType := router.diag_clients.map DiagClient.encode_type

def type_of (s : System) (client : Nat) : Option EncodeType := (encode_types s.router)[client]?

/-- Each call of a client finds a whole packet where it looks for one. -/
def Sends (client : Nat) (s : System) : Action → Prop
  | .dm_recv _ caller fd => caller = client → (∀ errno ∈ (circ_read fd (s.readers client).recv_buf).errno, errno = EAGAIN) →
      WellFormed (circ_read fd (s.readers client).recv_buf).buf.buf HDLC_BUF_SIZE
  | .diag_ffs_recv _ caller mbuf => caller = client → ∀ recv_buf, ffs_recv_buf mbuf = .ok recv_buf →
      WellFormed recv_buf.buf HDLC_BUF_SIZE
  | _ => True

/-- No timer of another client fires. -/
def OthersQuiet (client : Nat) (s : System) : Action → Prop
  | .diag_hdlc_reset other => other ≠ client → other ∉ s.timers
  | _ => True

/-! ## Commands -/

/-- The types after encoded clients have been set to one. -/
def retyped (type : EncodeType) (types : List EncodeType) : List EncodeType :=
  types.map (fun old => if old = .RAW then .RAW else type)

theorem set_encode_type_types (type : EncodeType) (diag_clients : List DiagClient) :
    (set_encode_type type diag_clients).map DiagClient.encode_type = retyped type (diag_clients.map DiagClient.encode_type) := by
  rw [set_encode_type,retyped,List.map_map,List.map_map]
  refine List.map_congr_left ?_
  intro dm _
  simp only [Function.comp_apply]
  split_ifs with raw
  · exact raw
  · rfl

theorem retyped_again (type other : EncodeType) (types : List EncodeType) (encoded : other ≠ .RAW) :
    retyped type (retyped other types) = retyped type types := by
  rw [retyped,retyped,retyped,List.map_map]
  refine List.map_congr_left ?_
  intro old _
  by_cases raw : old = .RAW <;> simp [raw,encoded]

theorem send_types (router : Router) (client : Nat) (msg : List UInt8) :
    encode_types (send router client msg) = encode_types router := by
  have kept : ∀ dm : DiagClient, (dm_send dm msg).encode_type = dm.encode_type := by
    intro dm
    unfold dm_send
    split_ifs
    · split <;> rfl
    · rfl
  apply List.ext_getElem?
  intro i
  simp only [encode_types,send,List.getElem?_map,List.getElem?_modify]
  cases router.diag_clients[i]? with
  | none => rfl
  | some dm =>
    simp only [Option.map_some]
    split_ifs <;> simp [kept]

section
variable {junk : Junk} {client : Nat} {buf : Request} {len : Nat} {router : Router}

/-- A handler leaves the types alone. -/
def SameTypes (router : Router) (outcome : Int × Router) : Prop := encode_types outcome.2 = encode_types router

theorem answers_same {mid : Router} (same : mid.diag_clients = router.diag_clients) (msg : List UInt8) :
    Ensures (.ok (0,send mid client msg) : Outcome) (SameTypes router) := by
  refine ensures_ok ?_
  rw [SameTypes,send_types,encode_types,same,encode_types]

theorem rejects_same (ret : Int) : Ensures (.ok (ret,router) : Outcome) (SameTypes router) := ensures_ok rfl

theorem handle_logging_configuration_same :
    Ensures (handle_logging_configuration junk client buf len router) (SameTypes router) := by
  unfold handle_logging_configuration
  split
  · unfold log_disable
    split_ifs
    · exact rejects_same _
    · exact ensures_bind fun _ _ => ensures_bind fun _ _ => answers_same rfl _
  · unfold get_log_range
    split_ifs
    · exact rejects_same _
    · exact answers_same rfl _
  · unfold set_log_mask
    dsimp only
    split_ifs
    · exact rejects_same _
    · exact ensures_bind fun _ _ => ensures_bind fun _ _ => ensures_bind fun _ _ => ensures_bind fun _ _ =>
        ensures_bind fun _ _ => answers_same rfl _
  · unfold get_log_mask
    split_ifs
    · exact rejects_same _
    · exact ensures_bind fun _ _ => ensures_bind fun _ _ => answers_same rfl _
  · exact rejects_same _

theorem handle_extended_message_configuration_same :
    Ensures (handle_extended_message_configuration junk client buf len router) (SameTypes router) := by
  unfold handle_extended_message_configuration
  split
  · unfold get_ssid_range
    split_ifs
    · exact rejects_same _
    · exact answers_same rfl _
  · unfold get_build_mask
    split_ifs
    · exact rejects_same _
    · refine ensures_bind fun found _ => ?_
      cases found with
      | none => exact answers_same rfl _
      | some got => exact ensures_bind fun _ _ => answers_same rfl _
  · unfold get_msg_mask
    split_ifs
    · exact rejects_same _
    · refine ensures_bind fun found _ => ?_
      cases found with
      | none => exact answers_same rfl _
      | some got => exact ensures_bind fun _ _ => answers_same rfl _
  · unfold set_msg_mask
    dsimp only
    split_ifs
    · exact rejects_same _
    · refine ensures_bind fun set _ => ?_
      split_ifs
      · exact ensures_bind fun _ _ => ensures_bind fun _ _ => ensures_bind fun _ _ => ensures_bind fun _ _ => answers_same rfl _
      · exact answers_same rfl _
  · unfold set_all_msg_mask
    split_ifs
    · exact rejects_same _
    · exact ensures_bind fun _ _ => ensures_bind fun _ _ => answers_same rfl _
  · exact rejects_same _

theorem handle_event_get_mask_same : Ensures (handle_event_get_mask client buf len router) (SameTypes router) := by
  unfold handle_event_get_mask
  split_ifs
  · exact rejects_same _
  · refine ensures_bind fun found _ => ?_
    cases found with
    | none => exact answers_same rfl _
    | some mask => exact answers_same rfl _

theorem handle_event_set_mask_same : Ensures (handle_event_set_mask junk client buf len router) (SameTypes router) := by
  unfold handle_event_set_mask
  dsimp only
  split_ifs
  · exact rejects_same _
  · exact ensures_bind fun _ _ => ensures_bind fun _ _ => answers_same rfl _

theorem handle_event_report_control_same : Ensures (handle_event_report_control client buf len router) (SameTypes router) := by
  unfold handle_event_report_control
  split_ifs
  · exact rejects_same _
  · exact ensures_bind fun _ _ => ensures_bind fun _ _ => answers_same rfl _

theorem handle_diag_id_same : Ensures (handle_diag_id client buf len router) (SameTypes router) := by
  unfold handle_diag_id
  split_ifs
  · exact rejects_same _
  · exact ensures_bind fun _ _ => ensures_bind fun _ _ => ensures_bind fun _ _ => ensures_bind fun _ _ => answers_same rfl _

/-- What commands do to the types: nothing, or every encoded client is set to
    NHDLC. -/
def Commanded (before after : List EncodeType) : Prop := after = before ∨ after = retyped .NHDLC before

theorem Commanded.trans {first second third : List EncodeType} (early : Commanded first second) (late : Commanded second third) :
    Commanded first third := by
  rcases early with rfl | rfl
  · exact late
  · rcases late with rfl | rfl
    · exact .inr rfl
    · exact .inr (retyped_again .NHDLC .NHDLC first (by decide))

theorem run_handler_types (handler : Handler) :
    Ensures (run_handler junk client buf len handler router)
      (fun outcome => Commanded (encode_types router) (encode_types outcome.2)) := by
  have same : ∀ {x : Outcome}, Ensures x (SameTypes router) →
      Ensures x (fun outcome => Commanded (encode_types router) (encode_types outcome.2)) :=
    fun ensures outcome ran => .inl (ensures outcome ran)
  cases handler with
  | handle_logging_configuration => exact same handle_logging_configuration_same
  | handle_extended_message_configuration => exact same handle_extended_message_configuration_same
  | handle_event_get_mask => exact same handle_event_get_mask_same
  | handle_event_set_mask => exact same handle_event_set_mask_same
  | handle_event_report_control => exact same handle_event_report_control_same
  | handle_diag_version => exact same (answers_same rfl _)
  | handle_diag_version_no => exact same (answers_same rfl _)
  | handle_extended_build_id =>
    simp only [run_handler,handle_extended_build_id]
    split_ifs
    · exact same (rejects_same _)
    · exact same (answers_same rfl _)
  | handle_keep_alive => exact same (answers_same rfl _)
  | handle_diag_id => exact same handle_diag_id_same
  | handle_hdlc_disable_cmd =>
    simp only [run_handler,handle_hdlc_disable_cmd]
    split_ifs
    · exact same (rejects_same _)
    · refine ensures_ok (.inr ?_)
      rw [← send_types router client (span buf 0 4 ++ [1,0])]
      exact set_encode_type_types .NHDLC _

theorem handle_command_types :
    Ensures (diag_client_handle_command junk client buf len router)
      (fun after => Commanded (encode_types router) (encode_types after)) := by
  refine ensures_bind fun outcome dispatched => ?_
  have types : Commanded (encode_types router) (encode_types outcome.2) := by
    cases common : common_cmds.find? (covers (message_key buf)) with
    | some dc =>
      rw [dispatch_common _ _ _ common] at dispatched
      exact run_handler_types dc.target outcome dispatched
    | none =>
      rw [dispatch_other _ _ _ common] at dispatched
      obtain ⟨⟨count,sent⟩,loop,ended⟩ := bind_eq_ok.mp dispatched
      have kept : encode_types sent = encode_types router := by rw [send_loop_frame loop]; rfl
      dsimp only at ended
      split_ifs at ended
      · cases ended
        exact .inl kept
      · cases fallback : fallback_cmds.find? (covers (message_key buf)) with
        | none =>
          rw [fallback] at ended
          cases ended
          exact .inl kept
        | some dc =>
          rw [fallback] at ended
          rw [← kept]
          exact run_handler_types dc.target outcome ended
  dsimp only
  split_ifs
  · exact ensures_ok (by rwa [diag_rsp_bad_command,send_types])
  · exact ensures_ok (by rwa [diag_rsp_bad_command,send_types])
  · exact ensures_ok (by rwa [diag_rsp_bad_command,send_types])
  · exact ensures_ok types

theorem handle_commands_types {memory : Nat → Junk × Request} {commands : List Message} :
    Ensures (handle_commands client memory commands router)
      (fun after => Commanded (encode_types router) (encode_types after)) := by
  induction commands generalizing memory router with
  | nil => exact ensures_ok (.inl rfl)
  | cons msg commands ih =>
    refine ensures_bind fun mid first => ?_
    intro after rest
    exact (handle_command_types mid first).trans (ih after rest)

end

/-! ## Calls -/

theorem recovery_mode (dm : NhdlcStream.DiagClient) :
    (diag_start_hdlc_recovery dm).encode_type = dm.encode_type ∨ (diag_start_hdlc_recovery dm).encode_type = .HDLC := by
  unfold diag_start_hdlc_recovery
  dsimp only
  split_ifs <;> simp

/-- A call sets the mode of its client where the check has rejected a packet, and
    leaves the mode and the flag alone otherwise. -/
theorem decode_data_mode {dm after : NhdlcStream.DiagClient} {commands : List Message}
    (called : dm_decode_data dm = .ok (after,commands)) :
    (after.encode_type = dm.encode_type ∨ dm.encode_type = .NHDLC ∧ after.encode_type = .HDLC) ∧
      (WellFormed dm.recv_buf.buf HDLC_BUF_SIZE →
        after.encode_type = dm.encode_type ∧ after.encode_hdlc_reset = dm.encode_hdlc_reset) := by
  cases mode : dm.encode_type with
  | RAW =>
    rw [dm_decode_data,mode] at called
    cases called
    exact ⟨.inl mode,fun _ => ⟨mode,rfl⟩⟩
  | HDLC =>
    rw [dm_decode_data,mode] at called
    obtain ⟨⟨left,decoded⟩,_,same⟩ := map_eq_ok.mp called
    cases same
    exact ⟨.inl rfl,fun _ => ⟨rfl,rfl⟩⟩
  | NHDLC =>
    rw [dm_decode_data,mode] at called
    refine ⟨?_,?_⟩
    · obtain ⟨ret,_,same⟩ := bind_eq_ok.mp called
      cases same
      split_ifs
      · rcases recovery_mode dm with same | set
        · exact .inl (same.trans mode)
        · exact .inr ⟨rfl,set⟩
      · exact .inl mode
    · intro whole
      cases called.symm.trans (recv_whole (Nat.le_refl _) whole)
      exact ⟨mode,rfl⟩

/-! ## Steps -/

/-- What a step makes of the type of a client. -/
inductive Retypes (s : System) (client : Nat) (type : EncodeType) (a : Action) : EncodeType → Prop
  | same : Retypes s client type a type
  | command (encoded : type ≠ .RAW) : Retypes s client type a .NHDLC
  | rejected (encoded : type ≠ .RAW) (unsent : ¬ Sends client s a) : Retypes s client type a .HDLC
  | reset {other : Nat} (encoded : type ≠ .RAW) (fires : a = .diag_hdlc_reset other) (pending : other ∈ s.timers) :
    Retypes s client type a .HDLC

section
variable {s t : System} {client : Nat} {type : EncodeType}

theorem retyped_getElem? {types : List EncodeType} {i : Nat} (was : types[i]? = some type) (new : EncodeType) :
    (retyped new types)[i]? = some (if type = .RAW then .RAW else new) := by
  rw [retyped,List.getElem?_map,was,Option.map_some]

theorem left_by_type (s : System) (caller client : Nat) (dm : NhdlcStream.DiagClient) :
    type_of (left_by s caller dm) client = if caller = client then (type_of s client).map (fun _ => dm.encode_type) else type_of s client := by
  simp only [type_of,encode_types,left_by,List.getElem?_map,List.getElem?_modify]
  cases s.router.diag_clients[client]? with
  | none => split_ifs <;> rfl
  | some dm => split_ifs <;> rfl

theorem handled_types {memory : Nat → Junk × Request} {caller : Nat} {mid : System} {commands : List Message}
    (ran : handled caller memory mid commands = .ok t) :
    Commanded (encode_types mid.router) (encode_types t.router) ∧ t.timers = mid.timers := by
  obtain ⟨router,done,same⟩ := map_eq_ok.mp ran
  cases same
  exact ⟨handle_commands_types router done,rfl⟩

theorem Commanded.retypes {before after : List EncodeType} (commanded : Commanded before after) {a : Action} {i : Nat} {was : EncodeType}
    (kept : Retypes s client type a was) (present : before[i]? = some was) (encoded : was ≠ .RAW → type ≠ .RAW) :
    ∃ next, after[i]? = some next ∧ Retypes s client type a next := by
  rcases commanded with rfl | rfl
  · exact ⟨was,present,kept⟩
  · refine ⟨_,retyped_getElem? present .NHDLC,?_⟩
    by_cases raw : was = .RAW
    · rw [if_pos raw,← raw]
      exact kept
    · rw [if_neg raw]
      exact .command (encoded raw)

/-- How a call of a client goes: commands are all it does, or it decodes a ring
    first, and leaves its client as that does. -/
inductive Called (s : System) (caller : Nat) (rings : CircBuf → Prop) (t : System) : Prop
  | commands (commanded : Commanded (encode_types s.router) (encode_types t.router)) (timers : t.timers = s.timers)
  | decoded {dm : DiagClient} {found after : NhdlcStream.DiagClient} {recv_buf : CircBuf} {memory : Nat → Junk × Request}
      {commands : List Message} (present : s.router.diag_clients[caller]? = some dm) (mode : found.encode_type = dm.encode_type)
      (flag : found.encode_hdlc_reset = (s.readers caller).encode_hdlc_reset) (ring : rings found.recv_buf)
      (called : dm_decode_data found = .ok (after,commands))
      (ran : handled caller memory (left_by s caller { after with recv_buf := recv_buf }) commands = .ok t)

theorem type_of_present {dm : DiagClient} (present : s.router.diag_clients[client]? = some dm) :
    type_of s client = some dm.encode_type := by
  rw [type_of,encode_types,List.getElem?_map,present,Option.map_some]

/-- A client that is left as it was found keeps its type and adds no timer. -/
theorem left_by_same {caller : Nat} {dm : DiagClient} (present : s.router.diag_clients[caller]? = some dm) (recv_buf : CircBuf) :
    encode_types (left_by s caller { called_on s caller dm with recv_buf := recv_buf }).router = encode_types s.router ∧
      (left_by s caller { called_on s caller dm with recv_buf := recv_buf }).timers = s.timers := by
  refine ⟨?_,by simp [left_by,called_on]⟩
  apply List.ext_getElem?
  intro i
  have left := left_by_type s caller i { called_on s caller dm with recv_buf := recv_buf }
  by_cases own : caller = i
  · subst own
    rw [if_pos rfl,type_of_present present] at left
    exact left.trans (type_of_present present).symm
  · rw [if_neg own] at left
    exact left

theorem dm_recv_called {memory : Nat → Junk × Request} {caller : Nat} {fd : Fd} (ran : dm_recv memory caller fd s = .ok t) :
    Called s caller (fun ring => (∀ errno ∈ (circ_read fd (s.readers caller).recv_buf).errno, errno = EAGAIN) ∧
      ring = (circ_read fd (s.readers caller).recv_buf).buf) t := by
  unfold dm_recv at ran
  cases present : s.router.diag_clients[caller]? with
  | none =>
    rw [present] at ran
    cases ran
    exact .commands (.inl rfl) rfl
  | some dm =>
    rw [present] at ran
    dsimp only at ran
    split_ifs at ran
    · obtain ⟨commanded,timers⟩ := handled_types ran
      exact .commands commanded timers
    · obtain ⟨⟨after,commands⟩,called,ran⟩ := bind_eq_ok.mp ran
      unfold dm_recv_encoded at called
      dsimp only at called
      cases errno : (circ_read fd (s.readers caller).recv_buf).errno with
      | none =>
        rw [show (circ_read fd (called_on s caller dm).recv_buf).errno = none from errno] at called
        exact .decoded present rfl rfl ⟨by simp,rfl⟩ called ran
      | some code =>
        rw [show (circ_read fd (called_on s caller dm).recv_buf).errno = some code from errno] at called
        dsimp only at called
        split_ifs at called with failed
        · cases called
          obtain ⟨types,timers⟩ := left_by_same present (circ_read fd (called_on s caller dm).recv_buf).buf
          obtain ⟨commanded,kept⟩ := handled_types ran
          rw [types] at commanded
          exact .commands commanded (kept.trans timers)
        · exact .decoded present rfl rfl ⟨by simpa using failed,rfl⟩ called ran

theorem diag_ffs_recv_called {memory : Nat → Junk × Request} {caller : Nat} {mbuf : MbufBlock}
    (ran : diag_ffs_recv memory caller mbuf s = .ok t) : Called s caller (fun ring => ffs_recv_buf mbuf = .ok ring) t := by
  unfold diag_ffs_recv at ran
  cases present : s.router.diag_clients[caller]? with
  | none =>
    rw [present] at ran
    cases ran
    exact .commands (.inl rfl) rfl
  | some dm =>
    rw [present] at ran
    obtain ⟨recv_buf,filled,ran⟩ := bind_eq_ok.mp ran
    obtain ⟨⟨after,commands⟩,called,ran⟩ := bind_eq_ok.mp ran
    exact .decoded present rfl rfl filled called ran

/-- A call changes the type of its own client, if any, before commands do; and
    it adds a timer for its own client only where a packet is rejected. -/
theorem Called.retypes {a : Action} {caller : Nat} {rings : CircBuf → Prop} (call : Called s caller rings t)
    (finds : caller = client → Sends client s a → ∀ ring, rings ring → WellFormed ring.buf HDLC_BUF_SIZE)
    (was : type_of s client = some type) :
    (∃ next, type_of t client = some next ∧ Retypes s client type a next) ∧
      (Sends client s a → client ∉ s.timers → client ∉ t.timers) := by
  cases call with
  | commands commanded timers => exact ⟨commanded.retypes .same was id,fun _ quiet => by rwa [timers]⟩
  | @decoded dm found after recv_buf memory commands present mode flag ring called ran =>
    obtain ⟨commanded,timers⟩ := handled_types ran
    have left := left_by_type s caller client { after with recv_buf := recv_buf }
    obtain ⟨change,whole⟩ := decode_data_mode called
    rw [was] at left
    rw [timers]
    by_cases own : caller = client
    · subst own
      obtain rfl := Option.some.inj (was.symm.trans (type_of_present present))
      rw [if_pos rfl,Option.map_some] at left
      dsimp only at left
      constructor
      · by_cases sent : Sends caller s a
        · have kept := (whole (finds rfl sent _ ring)).1.trans mode
          exact commanded.retypes .same (left.trans (congrArg some kept)) id
        · rcases change with same | ⟨encoded,set⟩
          · exact commanded.retypes .same (left.trans (congrArg some (same.trans mode))) id
          · have encoded : dm.encode_type ≠ .RAW := by rw [← mode,encoded]; decide
            exact commanded.retypes (.rejected encoded sent) (left.trans (congrArg some set)) (fun _ => encoded)
      · intro sent quiet
        have kept := (whole (finds rfl sent _ ring)).2.trans flag
        simp only [left_by,kept,Bool.and_not_self,Bool.false_eq_true,if_false]
        exact quiet
    · rw [if_neg own] at left
      refine ⟨commanded.retypes .same left id,?_⟩
      intro _ quiet
      simp only [left_by]
      split_ifs
      · simpa [quiet] using Ne.symm own
      · exact quiet

theorem reset_type {other : Nat} (pending : other ∈ s.timers) (was : type_of s client = some type) :
    type_of (diag_hdlc_reset other s) client = some (if type = .RAW then .RAW else .HDLC) := by
  rw [diag_hdlc_reset,if_pos pending,type_of,encode_types,set_encode_type_types]
  exact retyped_getElem? was .HDLC

/-- One step: what becomes of the type of a client; and a client whose calls find
    whole packets gets no timer. -/
theorem step_retypes {a : Action} (ran : step s a = .ok t) (was : type_of s client = some type) :
    (∃ next, type_of t client = some next ∧ Retypes s client type a next) ∧
      (Sends client s a → client ∉ s.timers → client ∉ t.timers) := by
  cases a with
  | dm_recv memory caller fd =>
    refine (dm_recv_called ran).retypes ?_ was
    rintro rfl sends ring ⟨errno,rfl⟩
    exact sends rfl errno
  | diag_ffs_recv memory caller mbuf =>
    refine (diag_ffs_recv_called ran).retypes ?_ was
    rintro rfl sends ring filled
    exact sends rfl ring filled
  | diag_hdlc_reset other =>
    cases ran
    by_cases pending : other ∈ s.timers
    · refine ⟨⟨_,reset_type pending was,?_⟩,?_⟩
      · split_ifs with raw
        · rw [raw]
          exact .same
        · exact .reset raw rfl pending
      · intro _ quiet
        rw [diag_hdlc_reset,if_pos pending]
        exact fun fires => quiet (List.mem_of_mem_erase fires)
    · rw [diag_hdlc_reset,if_neg pending]
      exact ⟨⟨type,was,.same⟩,fun _ quiet => quiet⟩
  | dm_add is_encoded =>
    cases ran
    refine ⟨⟨type,?_,.same⟩,fun _ quiet => quiet⟩
    have inside := (List.getElem?_eq_some_iff.mp was).1
    rw [type_of,encode_types,dm_add,List.map_append]
    exact (List.getElem?_append_left inside).trans was
  | elsewhere masks diag_cmds diag_ids peripherals clients =>
    cases ran
    refine ⟨⟨type,?_,.same⟩,fun _ quiet => quiet⟩
    rw [← was]
    simp only [type_of,encode_types,List.getElem?_map,List.getElem?_mapIdx]
    cases s.router.diag_clients[client]? <;> rfl

end

/-! ## Packets of a client -/

theorem packet_well_formed {payload : List UInt8} (short : payload.length < 65536) :
    WellFormed (place (NhdlcStream.packet payload) (fun _ => 0)) (payload.length + 5) := by
  have spelled := le16At_place [NHDLC_CONTROL_CHAR,1] (payload ++ [NHDLC_CONTROL_CHAR]) (UInt16.ofNat payload.length) (fun _ => 0)
  rw [← List.append_assoc] at spelled
  have length : (le16At (place (NhdlcStream.packet payload) (fun _ => 0)) 2).toNat = payload.length := by
    rw [NhdlcStream.packet]
    refine (congrArg UInt16.toNat spelled).trans ?_
    rw [UInt16.toNat_ofNat']
    omega
  refine ⟨by omega,rfl,?_⟩
  have before : ([NHDLC_CONTROL_CHAR,1] ++ le16 (UInt16.ofNat payload.length) ++ payload).length = 4 + payload.length := by
    simp only [List.length_append,le16_length,List.length_cons,List.length_nil]
  rw [length,place_inside (by rw [NhdlcStream.packet_length]; omega)]
  simp only [NhdlcStream.packet]
  rw [List.getElem_append_right (by omega)]
  simp

/-- A packet that has been read into a ring from its first cell on is found
    whole, whatever has been read behind it. -/
theorem found_of_read {old buf : CircBuf} {stream payload : List UInt8} (holds : NhdlcStream.Holds old stream buf)
    (fresh : old.tail = 0) (short : payload.length < 65536) (first : NhdlcStream.packet payload <+: stream) :
    WellFormed buf.buf HDLC_BUF_SIZE := by
  obtain ⟨more,rfl⟩ := first
  have least := contents_lt holds.valid
  have length := NhdlcStream.packet_length payload
  rw [holds.holds,List.length_append] at least
  have cells : ∀ i, i < payload.length + 5 → buf.buf i = place (NhdlcStream.packet payload) (fun _ => 0) i := by
    intro i below
    rw [holds.cells i (by omega),Lib.Ring.laid,fresh,Nat.sub_zero,Nat.add_mod_right,Nat.mod_eq_of_lt (by omega),
      List.getElem?_append_left (by omega),place,List.getElem?_eq_getElem (by omega)]
    rfl
  obtain ⟨fits,start,ended⟩ := ((packet_well_formed short).congr cells).1
  exact ⟨by omega,start,ended⟩

/-! ## Runs -/

/-- RAW clients stay RAW in every run. -/
theorem raw_stays {client : Nat} {s t : System} {a : Action} (raw : type_of s client = some .RAW) (ran : step s a = .ok t) :
    type_of t client = some .RAW := by
  obtain ⟨⟨next,shown,change⟩,_⟩ := step_retypes ran raw
  cases change with
  | same => exact shown
  | command encoded => exact absurd rfl encoded
  | rejected encoded _ => exact absurd rfl encoded
  | reset encoded _ _ => exact absurd rfl encoded

/-- A client that is NHDLC, and whose calls find whole packets, stays so in a step
    exactly when no timer of another one fires. -/
theorem stays_iff {client : Nat} {s : System} {a : Action} (sends : Sends client s a) (quiet : client ∉ s.timers)
    (mode : type_of s client = some .NHDLC) :
    OthersQuiet client s a ↔ ∀ t, step s a = .ok t → type_of t client = some .NHDLC := by
  constructor
  · intro others t ran
    obtain ⟨⟨next,shown,change⟩,_⟩ := step_retypes ran mode
    cases change with
    | same => exact shown
    | command _ => exact shown
    | rejected _ unsent => exact absurd sends unsent
    | @reset other _ fires pending =>
      subst fires
      by_cases own : other = client
      · exact absurd (own ▸ pending) quiet
      · exact absurd pending (others own)
  · intro stays
    cases a with
    | diag_hdlc_reset other =>
      intro _ pending
      have shown := stays _ rfl
      rw [reset_type pending mode] at shown
      cases shown
    | _ => trivial

/-- Whatever clients send, RAW clients stay RAW; and a client that is NHDLC and
    sends whole packets stays NHDLC exactly as long as no timer of another client
    fires. -/
theorem recovery_isolated_iff {client : Nat} {s : System} (mode : type_of s client = some .NHDLC) (quiet : client ∉ s.timers)
    {actions : List Action} (sends : Meets step (Sends client) s actions) :
    Along step (fun t => ∀ other, type_of s other = some .RAW → type_of t other = some .RAW) s actions ∧
      (Along step (fun t => type_of t client = some .NHDLC) s actions ↔ Meets step (OthersQuiet client) s actions) := by
  constructor
  · refine along_of_meets (fun _ => True) (fun _ _ => trivial) ?_ trivial (fun _ raw => raw)
      (meets_any (fun _ _ => trivial : ∀ _ _, True) s actions)
    intro u a t _ kept _ ran other raw
    exact raw_stays (kept other raw) ran
  · refine along_iff_meets_where (fun u => client ∉ u.timers ∧ ∃ type, type_of u client = some type) ?_ ?_
      ⟨quiet,_,mode⟩ sends mode
    · rintro u a t ⟨quiet,type,was⟩ sends ran
      obtain ⟨⟨next,shown,_⟩,still⟩ := step_retypes ran was
      exact ⟨still sends quiet,next,shown⟩
    · rintro u a ⟨quiet,_⟩ sends mode
      exact stays_iff sends quiet mode

/-- Two clients that are NHDLC, with nothing read yet. -/
def two_clients : System :=
  ⟨⟨diag_masks_init,[],[],[],[⟨.NHDLC,true,[]⟩,⟨.NHDLC,true,[]⟩]⟩,fun _ => ⟨false,⟨fun _ => 0,0,0⟩⟩,0,[]⟩

/-- All memory is zero. -/
def zeroed (_ : Nat) : Junk × Request := (⟨fun _ => 0,fun _ => 0,fun _ => 0,fun _ _ => 0⟩,fun _ => 0)

/-- A client sends the packet of one byte. -/
def sends_packet (client : Nat) : Action :=
  .dm_recv zeroed client ⟨NhdlcStream.packet [0x4b],[.upto 6,.upto 6]⟩

/-- A client sends one byte that no packet begins with. -/
def sends_garbage (client : Nat) : Action := .dm_recv zeroed client ⟨[0],[.upto 1,.upto 1]⟩

theorem packet_found : Sends 0 two_clients (sends_packet 0) := by
  rintro - -
  have holds := @NhdlcStream.holds_start ⟨fun _ => 0,0,0⟩ rfl (by decide)
  have read := @NhdlcStream.Holds.read _ _ _ holds (NhdlcStream.packet [0x4b]) [.upto 6,.upto 6] (by decide +kernel)
  exact found_of_read read rfl (by decide) List.prefix_rfl

theorem recovery_isolated_iff_packet :
    Along step (fun t => ∀ other, type_of two_clients other = some .RAW → type_of t other = some .RAW) two_clients [sends_packet 0] ∧
      (Along step (fun t => type_of t 0 = some .NHDLC) two_clients [sends_packet 0] ↔
        Meets step (OthersQuiet 0) two_clients [sends_packet 0]) :=
  recovery_isolated_iff rfl (List.not_mem_nil) ⟨packet_found,fun _ _ => trivial⟩

/-- The client has sent a packet, another one a byte, and the timer of the other
    one fires. -/
theorem timer_of_other :
    type_of two_clients 0 = some .NHDLC ∧ 0 ∉ two_clients.timers ∧
    Meets step (Sends 0) two_clients [sends_packet 0,sends_garbage 1,.diag_hdlc_reset 1] ∧
    ¬ Along step (fun t => type_of t 0 = some .NHDLC) two_clients [sends_packet 0,sends_garbage 1,.diag_hdlc_reset 1] := by
  refine ⟨rfl,List.not_mem_nil,⟨packet_found,fun _ _ => ⟨fun other => absurd other (by decide),fun _ _ => ⟨trivial,fun _ _ => trivial⟩⟩⟩,?_⟩
  have ran : (fun t => (t.timers,type_of t 0)) <$> exec step two_clients [sends_packet 0,sends_garbage 1] = .ok ([1],some .NHDLC) := by
    decide +kernel
  obtain ⟨t,run,shown⟩ := map_eq_ok.mp ran
  obtain ⟨timers,mode⟩ := Prod.mk.inj shown
  have last : exec step two_clients [sends_packet 0,sends_garbage 1,.diag_hdlc_reset 1] = .ok (diag_hdlc_reset 1 t) := by
    rw [show [sends_packet 0,sends_garbage 1,.diag_hdlc_reset 1] = [sends_packet 0,sends_garbage 1] ++ [.diag_hdlc_reset 1] from rfl,
      exec_append,run]
    rfl
  intro along
  have kept := along.ends last
  rw [reset_type (by rw [timers]; exact List.mem_singleton_self 1) mode] at kept
  cases kept

end DiagRouter.HdlcRecovery

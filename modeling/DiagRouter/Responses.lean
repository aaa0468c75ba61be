import DiagRouter.MaskRuns

/-!
# Responses

What a client command puts on the queues of the clients: nothing when it is
sent on to peripherals, and otherwise one message for the client that asked.
Each handler is summed up once, with the tables it leaves and what its response
says about them.
-/
namespace DiagRouter.Responses
open DiagRouter.Lib.Memory DiagRouter.Lib.Words DiagRouter.Masks DiagRouter.Dispatch DiagRouter.Handlers
open DiagRouter.MaskRuns DiagRouter.Hdlc
open DiagRouter.Clients (DiagClient EncodeType NHDLC_CONTROL_CHAR set_encode_type dm_send)

/-! ## Queues -/

/-- What a message is on the queue of a client. -/
def encoded (type : EncodeType) (msg : List UInt8) : List UInt8 :=
  match type with
  | .RAW => msg
  | .HDLC => hdlc_encode msg
  | .NHDLC => [NHDLC_CONTROL_CHAR,1] ++ le16 (UInt16.ofNat msg.length) ++ msg ++ [NHDLC_CONTROL_CHAR]

/-- The queues of all clients. -/
def outqs (router : Router) : List (List (List UInt8)) := router.diag_clients.map DiagClient.outq

/-- One more message for one client, and nothing for the others. -/
def Answered (router : Router) (client : Nat) (msg : List UInt8) (after : Router) : Prop :=
  outqs after = outqs (send router client msg)

theorem dm_send_outq {dm : DiagClient} (enabled : dm.enabled) (msg : List UInt8) :
    (dm_send dm msg).outq = dm.outq ++ [encoded dm.encode_type msg] := by
  rw [dm_send,if_pos enabled]
  cases dm.encode_type <;> rfl

theorem outqs_send {router : Router} {client : Nat} {dm : DiagClient} (present : router.diag_clients[client]? = some dm)
    (enabled : dm.enabled) (msg : List UInt8) :
    outqs (send router client msg) = (outqs router).set client (dm.outq ++ [encoded dm.encode_type msg]) := by
  rw [outqs,send,List.modify_eq_set_getElem?,present,← dm_send_outq enabled]
  simp [outqs,List.map_set]

/-- Changing what clients read and write leaves their queues alone. -/
theorem set_encode_type_outqs (type : EncodeType) (diag_clients : List DiagClient) :
    (set_encode_type type diag_clients).map DiagClient.outq = diag_clients.map DiagClient.outq := by
  rw [set_encode_type,List.map_map]
  apply List.map_congr_left
  intro dm _
  rw [Function.comp_apply]
  split <;> rfl

/-! ## What a response says -/

/-- The status of a response, where it is one of failure. -/
def Failure (buf : Request) (msg : List UInt8) : Prop :=
  match (buf 0).toNat with
  | 0x73 => le32At (place msg (fun _ => 0)) 8 = DIAG_CMD_STATUS_INVALID_EQUIPMENT_ID
  | 0x7d => msg[if (buf 1).toNat = 2 ∨ (buf 1).toNat = 4 then 6 else 2]? = some DIAG_CMD_MSG_STATUS_UNSUCCESSFUL
  | 0x81 => msg[1]? = some DIAG_CMD_EVENT_ERROR_CODE_FAIL
  | 0x82 => msg[1]? = some DIAG_CMD_EVENT_ERROR_CODE_FAIL
  | _ => False

/-- How a response goes with the tables: they are as before, or it is one of
    success, or it tells whether a SET of message masks was stored. -/
inductive Tells (junk : Junk) (len : Nat) (buf : Request) (masks : MaskTables) (msg : List UInt8) : MaskTables → Prop
  | same : Tells junk len buf masks msg masks
  | success {after : MaskTables} (done : ¬ Failure buf msg) : Tells junk len buf masks msg after
  | set_msg {after : MaskTables} {ret : Nat} (asked : IsSetMsgMask len buf)
      (ran : diag_cmd_set_msg_mask junk.words masks (range_at buf 2) (request_words buf) = .ok (ret,after))
      (tells : Failure buf msg ↔ ret ≠ 0) : Tells junk len buf masks msg after

/-- How a handler ends: it rejects the command and leaves everything alone, or
    it answers the client. -/
inductive Handled (junk : Junk) (client len : Nat) (buf : Request) (router : Router) : Int → Router → Prop
  | rejected {ret : Int} (code : ret = -EMSGSIZE ∨ ret = -EINVAL) : Handled junk client len buf router ret router
  | answered {after : Router} (msg : List UInt8) (sent : Answered router client msg after)
      (tells : Tells junk len buf router.masks msg after.masks) : Handled junk client len buf router 0 after

section
variable {junk : Junk} {client : Nat} {buf : Request} {len : Nat} {router after : Router} {ret : Int}

theorem Handled.wrong_length : Handled junk client len buf router (-EMSGSIZE) router := .rejected (.inl rfl)

theorem Handled.send_only (msg : List UInt8) : Handled junk client len buf router 0 (send router client msg) :=
  .answered msg rfl .same

/-! ## Each handler -/

theorem log_failure {msg : List UInt8} (command : buf 0 = 0x73) :
    Failure buf msg ↔ le32At (place msg (fun _ => 0)) 8 = DIAG_CMD_STATUS_INVALID_EQUIPMENT_ID := by
  rw [Failure,command]
  rfl

theorem msg_failure {msg : List UInt8} (command : buf 0 = 0x7d) :
    Failure buf msg ↔ msg[if (buf 1).toNat = 2 ∨ (buf 1).toNat = 4 then 6 else 2]? = some DIAG_CMD_MSG_STATUS_UNSUCCESSFUL := by
  rw [Failure,command]
  rfl

/-- The status of a response to a logging command. -/
theorem log_status {msg : List UInt8} {status : UInt32} (shown : ∀ i < 4, msg[8 + i]? = (le32 status)[i]?) :
    le32At (place msg (fun _ => 0)) 8 = status := by
  apply le32At_bytes
  apply List.ext_getElem?
  intro i
  by_cases below : i < 4
  · have byte := shown i below
    rw [span_getElem? below,place,byte,List.getElem?_eq_getElem (by simpa using below)]
    rfl
  · rw [List.getElem?_eq_none (by simp; omega),List.getElem?_eq_none (by simp; omega)]

theorem log_success {msg : List UInt8} (command : buf 0 = 0x73)
    (status : ∀ i < 4, msg[8 + i]? = (le32 DIAG_CMD_STATUS_SUCCESS)[i]?) : ¬ Failure buf msg := by
  rw [log_failure command,log_status status]
  decide

theorem handle_logging_configuration_handled (command : buf 0 = 0x73)
    (ran : handle_logging_configuration junk client buf len router = .ok (ret,after)) :
    Handled junk client len buf router ret after ∧ MaskChange junk len buf router.masks after.masks := by
  unfold handle_logging_configuration at ran
  split at ran
  · unfold log_disable at ran
    split_ifs at ran
    · cases ran
      exact ⟨.wrong_length,.same⟩
    · obtain ⟨masks,disabled,ran⟩ := bind_eq_ok.mp ran
      obtain ⟨peripherals,_,ran⟩ := bind_eq_ok.mp ran
      cases ran
      refine ⟨.answered (span buf 0 8 ++ le32 DIAG_CMD_STATUS_SUCCESS) rfl (.success (log_success command ?_)),.disable_log disabled⟩
      intro i below
      rw [List.getElem?_append_right (by simp),span_length,Nat.add_sub_cancel_left]
  · unfold get_log_range at ran
    split_ifs at ran
    · cases ran
      exact ⟨.wrong_length,.same⟩
    · cases ran
      exact ⟨.send_only _,.same⟩
  · unfold set_log_mask at ran
    dsimp only at ran
    split_ifs at ran
    · cases ran
      exact ⟨.wrong_length,.same⟩
    · obtain ⟨⟨found,masks⟩,set,ran⟩ := bind_eq_ok.mp ran
      obtain ⟨_,_,ran⟩ := bind_eq_ok.mp ran
      obtain ⟨_,_,ran⟩ := bind_eq_ok.mp ran
      obtain ⟨resp,stored,ran⟩ := bind_eq_ok.mp ran
      obtain ⟨peripherals,_,ran⟩ := bind_eq_ok.mp ran
      cases ran
      refine ⟨.answered resp rfl (.success (log_success command ?_)),.set_log set⟩
      intro i below
      rw [store_getElem? stored,if_pos ⟨Nat.le_add_right 8 i,by rw [le32_length]; omega⟩,Nat.add_sub_cancel_left]
  · unfold get_log_mask at ran
    split_ifs at ran
    · cases ran
      exact ⟨.wrong_length,.same⟩
    · obtain ⟨_,_,ran⟩ := bind_eq_ok.mp ran
      obtain ⟨_,_,ran⟩ := bind_eq_ok.mp ran
      cases ran
      exact ⟨.answered _ rfl .same,.same⟩
  · cases ran
    exact ⟨.rejected (.inr rfl),.same⟩

/-- A SET of message masks of the right length is answered, and the status says
    whether the words were stored. -/
theorem set_msg_mask_answers (asked : IsSetMsgMask len buf) (ran : set_msg_mask junk client buf len router = .ok (ret,after)) :
    ∃ code msg, diag_cmd_set_msg_mask junk.words router.masks (range_at buf 2) (request_words buf) = .ok (code,after.masks) ∧
      ret = 0 ∧ Answered router client msg after ∧ (Failure buf msg ↔ code ≠ 0) := by
  obtain ⟨command,operation,whole⟩ := asked
  have status : ∀ {msg : List UInt8}, Failure buf msg ↔ msg[6]? = some DIAG_CMD_MSG_STATUS_UNSUCCESSFUL := by
    intro msg
    rw [msg_failure command,operation]
    rfl
  unfold set_msg_mask at ran
  dsimp only at ran
  rw [if_neg (not_not.mpr whole)] at ran
  obtain ⟨⟨code,masks⟩,set,ran⟩ := bind_eq_ok.mp ran
  dsimp only at ran
  split_ifs at ran with done
  · obtain ⟨first,header,ran⟩ := bind_eq_ok.mp ran
    obtain ⟨second,words,ran⟩ := bind_eq_ok.mp ran
    obtain ⟨⟨range,peripherals⟩,_,ran⟩ := bind_eq_ok.mp ran
    obtain ⟨resp,bounds,ran⟩ := bind_eq_ok.mp ran
    cases ran
    refine ⟨code,resp,set,rfl,rfl,?_⟩
    -- The status is written with the header and overwritten by nothing.
    have shown : resp[6]? = some DIAG_CMD_MSG_STATUS_SUCCESSFUL := by
      rw [store_getElem? bounds,if_neg (by simp [range_bytes]),store_getElem? words,if_neg (by omega),
        store_getElem? header,if_pos (by simp [range_bytes])]
      rfl
    rw [status,shown]
    exact ⟨fun same => absurd same (by decide),fun other => absurd done other⟩
  · cases ran
    refine ⟨code,_,set,rfl,rfl,?_⟩
    rw [status]
    exact ⟨fun _ => done,fun _ => rfl⟩

theorem set_msg_mask_handled (command : buf 0 = 0x7d) (operation : buf 1 = 4)
    (ran : set_msg_mask junk client buf len router = .ok (ret,after)) :
    Handled junk client len buf router ret after ∧ MaskChange junk len buf router.masks after.masks := by
  by_cases whole : len = 8 + MSG_RANGE_TO_SIZE (range_at buf 2)
  · have asked : IsSetMsgMask len buf := ⟨command,operation,whole⟩
    obtain ⟨code,msg,set,rfl,answered,tells⟩ := set_msg_mask_answers asked ran
    exact ⟨.answered msg answered (.set_msg asked set tells),.set_msg asked set⟩
  · simp only [set_msg_mask,ne_eq,whole,not_false_eq_true,if_true] at ran
    cases ran
    exact ⟨.wrong_length,.same⟩

theorem handle_extended_message_configuration_handled (command : buf 0 = 0x7d)
    (ran : handle_extended_message_configuration junk client buf len router = .ok (ret,after)) :
    Handled junk client len buf router ret after ∧ MaskChange junk len buf router.masks after.masks := by
  unfold handle_extended_message_configuration at ran
  split at ran
  · unfold get_ssid_range at ran
    split_ifs at ran
    · cases ran
      exact ⟨.wrong_length,.same⟩
    · cases ran
      exact ⟨.send_only _,.same⟩
  · unfold get_build_mask at ran
    split_ifs at ran
    · cases ran
      exact ⟨.wrong_length,.same⟩
    · obtain ⟨found,_,ran⟩ := bind_eq_ok.mp ran
      cases found with
      | none =>
        cases ran
        exact ⟨.send_only _,.same⟩
      | some got =>
        obtain ⟨_,_,ran⟩ := bind_eq_ok.mp ran
        cases ran
        exact ⟨.send_only _,.same⟩
  · unfold get_msg_mask at ran
    split_ifs at ran
    · cases ran
      exact ⟨.wrong_length,.same⟩
    · obtain ⟨found,_,ran⟩ := bind_eq_ok.mp ran
      cases found with
      | none =>
        cases ran
        exact ⟨.send_only _,.same⟩
      | some got =>
        obtain ⟨_,_,ran⟩ := bind_eq_ok.mp ran
        cases ran
        exact ⟨.send_only _,.same⟩
  · next operation => exact set_msg_mask_handled command (UInt8.toNat_inj.mp operation) ran
  · next operation =>
    unfold set_all_msg_mask at ran
    split_ifs at ran
    · cases ran
      exact ⟨.wrong_length,.same⟩
    · obtain ⟨masks,set,ran⟩ := bind_eq_ok.mp ran
      obtain ⟨_,_,ran⟩ := bind_eq_ok.mp ran
      cases ran
      refine ⟨.answered _ rfl (.success ?_),.set_all set⟩
      rw [msg_failure command,operation]
      intro failed
      exact absurd (Option.some.inj failed) (by decide)
  · cases ran
    exact ⟨.rejected (.inr rfl),.same⟩

theorem handle_event_get_mask_handled (ran : handle_event_get_mask client buf len router = .ok (ret,after)) :
    Handled junk client len buf router ret after ∧ MaskChange junk len buf router.masks after.masks := by
  unfold handle_event_get_mask at ran
  split_ifs at ran
  · cases ran
    exact ⟨.wrong_length,.same⟩
  · obtain ⟨found,_,ran⟩ := bind_eq_ok.mp ran
    cases found with
    | none =>
      cases ran
      exact ⟨.send_only _,.same⟩
    | some mask =>
      cases ran
      exact ⟨.send_only _,.same⟩

theorem handle_event_set_mask_handled (command : buf 0 = 0x82)
    (ran : handle_event_set_mask junk client buf len router = .ok (ret,after)) :
    Handled junk client len buf router ret after ∧ MaskChange junk len buf router.masks after.masks := by
  unfold handle_event_set_mask at ran
  dsimp only at ran
  split_ifs at ran
  · cases ran
    exact ⟨.wrong_length,.same⟩
  · obtain ⟨masks,updated,ran⟩ := bind_eq_ok.mp ran
    obtain ⟨_,_,ran⟩ := bind_eq_ok.mp ran
    cases ran
    refine ⟨.answered _ rfl (.success ?_),.update_event updated⟩
    rw [Failure,command]
    intro failed
    exact absurd (Option.some.inj failed) (by decide)

theorem handle_event_report_control_handled (command : buf 0 = 0x60)
    (ran : handle_event_report_control client buf len router = .ok (ret,after)) :
    Handled junk client len buf router ret after ∧ MaskChange junk len buf router.masks after.masks := by
  unfold handle_event_report_control at ran
  split_ifs at ran
  · cases ran
    exact ⟨.wrong_length,.same⟩
  · obtain ⟨masks,toggled,ran⟩ := bind_eq_ok.mp ran
    obtain ⟨_,_,ran⟩ := bind_eq_ok.mp ran
    cases ran
    refine ⟨.answered _ rfl (.success ?_),.toggle_events toggled⟩
    rw [Failure,command]
    exact not_false

theorem handle_diag_id_handled (ran : handle_diag_id client buf len router = .ok (ret,after)) :
    Handled junk client len buf router ret after ∧ MaskChange junk len buf router.masks after.masks := by
  unfold handle_diag_id at ran
  split_ifs at ran
  · cases ran
    exact ⟨.wrong_length,.same⟩
  · obtain ⟨_,_,ran⟩ := bind_eq_ok.mp ran
    obtain ⟨_,_,ran⟩ := bind_eq_ok.mp ran
    obtain ⟨_,_,ran⟩ := bind_eq_ok.mp ran
    obtain ⟨_,_,ran⟩ := bind_eq_ok.mp ran
    cases ran
    exact ⟨.send_only _,.same⟩

theorem handle_hdlc_disable_cmd_handled (ran : handle_hdlc_disable_cmd client buf len router = .ok (ret,after)) :
    Handled junk client len buf router ret after ∧ MaskChange junk len buf router.masks after.masks := by
  unfold handle_hdlc_disable_cmd at ran
  split_ifs at ran
  · cases ran
    exact ⟨.wrong_length,.same⟩
  · cases ran
    exact ⟨.answered (span buf 0 4 ++ [1,0]) (set_encode_type_outqs .NHDLC _) .same,.same⟩

/-- The first byte of a request, for the common handlers whose response has a
    status. -/
def CommandOf (buf : Request) : Handler → Prop
  | .handle_logging_configuration => buf 0 = 0x73
  | .handle_extended_message_configuration => buf 0 = 0x7d
  | .handle_event_set_mask => buf 0 = 0x82
  | .handle_event_report_control => buf 0 = 0x60
  | _ => True

theorem run_handler_handled {handler : Handler} (command : CommandOf buf handler)
    (ran : run_handler junk client buf len handler router = .ok (ret,after)) :
    Handled junk client len buf router ret after ∧ MaskChange junk len buf router.masks after.masks := by
  cases handler with
  | handle_logging_configuration => exact handle_logging_configuration_handled command ran
  | handle_extended_message_configuration => exact handle_extended_message_configuration_handled command ran
  | handle_event_get_mask => exact handle_event_get_mask_handled ran
  | handle_event_set_mask => exact handle_event_set_mask_handled command ran
  | handle_event_report_control => exact handle_event_report_control_handled command ran
  | handle_diag_version =>
    cases ran
    exact ⟨.send_only _,.same⟩
  | handle_diag_version_no =>
    cases ran
    exact ⟨.send_only _,.same⟩
  | handle_extended_build_id =>
    simp only [run_handler,handle_extended_build_id] at ran
    split_ifs at ran
    · cases ran
      exact ⟨.wrong_length,.same⟩
    · cases ran
      exact ⟨.send_only _,.same⟩
  | handle_keep_alive =>
    cases ran
    exact ⟨.send_only _,.same⟩
  | handle_diag_id => exact handle_diag_id_handled ran
  | handle_hdlc_disable_cmd => exact handle_hdlc_disable_cmd_handled ran

/-! ## One response -/

/-- The common commands are found by their first byte. -/
theorem command_of_common {dc : DiagCmd Handler} (common : common_cmds.find? (covers (message_key buf)) = some dc) :
    CommandOf buf dc.target := by
  have rows : ∀ dc ∈ common_cmds, (dc.target = .handle_logging_configuration → dc.first.toNat = 0xffff0073) ∧
      (dc.target = .handle_extended_message_configuration → dc.first.toNat = 0xffff007d) ∧
      (dc.target = .handle_event_set_mask → dc.first.toNat = 0xffff0082) ∧
      (dc.target = .handle_event_report_control → dc.first.toNat = 0xffff0060) := by decide
  obtain ⟨logging,message,set,report⟩ := rows dc (List.mem_of_find?_eq_some common)
  have first := common_first common
  cases target : dc.target with
  | handle_logging_configuration =>
    have row := logging target
    exact UInt8.toNat_inj.mp (show (buf 0).toNat = 0x73 by omega)
  | handle_extended_message_configuration =>
    have row := message target
    exact UInt8.toNat_inj.mp (show (buf 0).toNat = 0x7d by omega)
  | handle_event_set_mask =>
    have row := set target
    exact UInt8.toNat_inj.mp (show (buf 0).toNat = 0x82 by omega)
  | handle_event_report_control =>
    have row := report target
    exact UInt8.toNat_inj.mp (show (buf 0).toNat = 0x60 by omega)
  | _ => trivial

/-- None of the fallback commands is one of those. -/
theorem command_of_fallback {dc : DiagCmd Handler} (fallback : fallback_cmds.find? (covers (message_key buf)) = some dc) :
    CommandOf buf dc.target := by
  obtain ⟨notLogging,notMessage,notSet,notReport⟩ := fallback_command dc (List.mem_of_find?_eq_some fallback)
  cases target : dc.target with
  | handle_logging_configuration => exact absurd target notLogging
  | handle_extended_message_configuration => exact absurd target notMessage
  | handle_event_set_mask => exact absurd target notSet
  | handle_event_report_control => exact absurd target notReport
  | _ => trivial

theorem common_handled {dc : DiagCmd Handler} (common : common_cmds.find? (covers (message_key buf)) = some dc)
    (ran : run_handler junk client buf len dc.target router = .ok (ret,after)) :
    Handled junk client len buf router ret after ∧ MaskChange junk len buf router.masks after.masks :=
  run_handler_handled (command_of_common common) ran

/-- A message is for the peripherals: no common command has its key, and a
    registration does. -/
def ForPeripherals (router : Router) (buf : Request) : Prop :=
  (∀ dc ∈ common_cmds, covers (message_key buf) dc = false) ∧ ∃ dc ∈ router.diag_cmds, covers (message_key buf) dc = true

theorem send_loop_count {σ : Type} {calls : Calls σ} {k : UInt32} {diag_cmds : List (DiagCmd Nat)} {handled count : Nat}
    {s t : σ} (ran : send_loop calls k diag_cmds handled s = .ok (count,t)) :
    count = handled + (diag_cmds.filter (covers k)).length := by
  rw [send_loop_eq] at ran
  obtain ⟨_,_,same⟩ := map_eq_ok.mp ran
  cases same
  rfl

theorem send_loop_none {σ : Type} {calls : Calls σ} {k : UInt32} {diag_cmds : List (DiagCmd Nat)}
    (missing : ∀ dc ∈ diag_cmds, ¬ covers k dc = true) (handled : Nat) (s : σ) :
    send_loop calls k diag_cmds handled s = .ok (handled,s) := by
  rw [send_loop_eq,List.filter_eq_nil_iff.mpr missing]
  rfl

/-- What dispatching does: a message for the peripherals leaves the clients and
    the tables alone; any other is handled, or unknown. -/
theorem dispatch_handled (ran : diag_cmd_dispatch (router_calls junk client buf len) router.diag_cmds buf router = .ok (ret,after)) :
    (ForPeripherals router buf ∧ ret = 0 ∧ after.diag_clients = router.diag_clients ∧ after.masks = router.masks) ∨
      (¬ ForPeripherals router buf ∧
        (Handled junk client len buf router ret after ∧ MaskChange junk len buf router.masks after.masks ∨
          (ret = -ENOENT ∧ after = router))) := by
  cases common : common_cmds.find? (covers (message_key buf)) with
  | some dc =>
    rw [dispatch_common _ _ _ common] at ran
    refine .inr ⟨?_,.inl (common_handled common ran)⟩
    rintro ⟨none,_⟩
    exact absurd (List.find?_some common) (by rw [none dc (List.mem_of_find?_eq_some common)]; decide)
  | none =>
    have uncommon : ∀ dc ∈ common_cmds, covers (message_key buf) dc = false := by simpa using common
    rw [dispatch_other _ _ _ common] at ran
    obtain ⟨⟨handled,sent⟩,loop,ended⟩ := bind_eq_ok.mp ran
    have frame := send_loop_frame loop
    have count := send_loop_count loop
    rw [Nat.zero_add] at count
    dsimp only at ended
    split_ifs at ended with some
    · cases ended
      refine .inl ⟨⟨uncommon,?_⟩,rfl,by rw [frame],by rw [frame]⟩
      obtain ⟨dc,member⟩ := List.exists_mem_of_length_pos (show 0 < (router.diag_cmds.filter (covers (message_key buf))).length by omega)
      exact ⟨dc,(List.mem_filter.mp member).1,(List.mem_filter.mp member).2⟩
    · have missing : ∀ dc ∈ router.diag_cmds, ¬ covers (message_key buf) dc = true := by
        have empty := List.eq_nil_of_length_eq_zero (show (router.diag_cmds.filter (covers (message_key buf))).length = 0 by omega)
        exact List.filter_eq_nil_iff.mp empty
      have others : ¬ ForPeripherals router buf := by
        rintro ⟨_,dc,member,covered⟩
        exact missing dc member covered
      have nothing : sent = router := by
        rw [send_loop_none missing] at loop
        cases loop
        rfl
      subst nothing
      refine .inr ⟨others,?_⟩
      cases fallback : fallback_cmds.find? (covers (message_key buf)) with
      | none =>
        rw [fallback] at ended
        cases ended
        exact .inr ⟨rfl,rfl⟩
      | some dc =>
        rw [fallback] at ended
        exact .inl (run_handler_handled (command_of_fallback fallback) ended)

/-- A client command changes the tables by one command on them at most. -/
theorem handle_command_changes (ran : diag_client_handle_command junk client buf len router = .ok after) :
    MaskChange junk len buf router.masks after.masks := by
  obtain ⟨ret,mid,dispatched,frame⟩ := handle_command_dispatched ran
  have masks : after.masks = mid.masks := by rw [frame]
  rw [masks]
  rcases dispatch_handled dispatched with ⟨_,_,_,same⟩ | ⟨_,⟨_,change⟩ | ⟨_,same⟩⟩
  · rw [same]
    exact .same
  · exact change
  · rw [same]
    exact .same

/-- The error code a rejected command is answered with. -/
def rejection (ret : Int) : Option UInt8 :=
  if ret = -ENOENT then some DIAG_CMD_RSP_BAD_COMMAND
  else if ret = -EINVAL then some DIAG_CMD_RSP_BAD_PARAMS
  else if ret = -EMSGSIZE then some DIAG_CMD_RSP_BAD_LENGTH
  else none

theorem handle_command_eq {mid : Router}
    (dispatched : diag_cmd_dispatch (router_calls junk client buf len) router.diag_cmds buf router = .ok (ret,mid)) :
    diag_client_handle_command junk client buf len router =
      .ok ((rejection ret).elim mid (diag_rsp_bad_command mid client buf len)) := by
  rw [diag_client_handle_command,dispatched,ok_bind,rejection]
  dsimp only
  split_ifs <;> rfl

/-- What a command that is not for the peripherals does: a rejected one is
    answered with its error code and its own bytes, and nothing else is done. -/
theorem handle_command_answers (ran : diag_client_handle_command junk client buf len router = .ok after)
    (others : ¬ ForPeripherals router buf) :
    ∃ ret mid msg, diag_cmd_dispatch (router_calls junk client buf len) router.diag_cmds buf router = .ok (ret,mid) ∧
      Answered router client msg after ∧ Tells junk len buf router.masks msg after.masks ∧
      ∀ code ∈ rejection ret, msg = code :: span buf 0 len ∧ after.masks = router.masks := by
  obtain ⟨ret,mid,dispatched,_⟩ := handle_command_dispatched ran
  rw [handle_command_eq dispatched] at ran
  have final := Except.ok.inj ran
  have bad : ∀ {code : UInt8}, rejection ret = some code → mid = router →
      ∃ ret mid msg, diag_cmd_dispatch (router_calls junk client buf len) router.diag_cmds buf router = .ok (ret,mid) ∧
        Answered router client msg after ∧ Tells junk len buf router.masks msg after.masks ∧
        ∀ code ∈ rejection ret, msg = code :: span buf 0 len ∧ after.masks = router.masks := by
    intro code rejected same
    subst same
    rw [rejected] at final
    subst final
    refine ⟨ret,_,_,dispatched,rfl,.same,?_⟩
    intro other found
    rw [rejected] at found
    cases found
    exact ⟨rfl,rfl⟩
  rcases dispatch_handled dispatched with ⟨sent,_⟩ | ⟨_,⟨handled,_⟩ | ⟨rfl,same⟩⟩
  · exact absurd sent others
  · cases handled with
    | rejected code =>
      rcases code with rfl | rfl
      · exact bad rfl rfl
      · exact bad rfl rfl
    | answered msg sent tells =>
      subst final
      exact ⟨0,mid,msg,dispatched,sent,tells,fun code found => absurd (show none = some code from found) (by simp)⟩
  · exact bad rfl same

/-- A command for the peripherals puts nothing on any client's queue. Any other
    puts one message on the queue of the client that asked, and a rejected one
    is answered with its error code and its own bytes. -/
theorem one_response {dm : DiagClient} (present : router.diag_clients[client]? = some dm) (enabled : dm.enabled = true)
    (ran : diag_client_handle_command junk client buf len router = .ok after) :
    (ForPeripherals router buf → outqs after = outqs router) ∧
      (¬ ForPeripherals router buf → ∃ msg,
        outqs after = (outqs router).set client (dm.outq ++ [encoded dm.encode_type msg]) ∧
        ∀ ret mid, diag_cmd_dispatch (router_calls junk client buf len) router.diag_cmds buf router = .ok (ret,mid) →
          ∀ code ∈ rejection ret, msg = code :: span buf 0 len) := by
  constructor
  · intro sent
    obtain ⟨ret,mid,dispatched,_⟩ := handle_command_dispatched ran
    rcases dispatch_handled dispatched with ⟨_,rfl,clients,_⟩ | ⟨others,_⟩
    · rw [handle_command_eq dispatched] at ran
      cases ran
      exact congrArg (List.map DiagClient.outq) clients
    · exact absurd sent others
  · intro others
    obtain ⟨ret,mid,msg,dispatched,answered,_,rejected⟩ := handle_command_answers ran others
    refine ⟨msg,answered.trans (outqs_send present enabled msg),?_⟩
    intro ret' mid' again code found
    cases dispatched.symm.trans again
    exact (rejected code found).1

end

/-- A keep-alive of the only client. -/
theorem one_response_keep_alive :
    let router : Router := ⟨diag_masks_init,[],[],[],[⟨.RAW,true,[]⟩]⟩
    let buf : Request := place [75,50,3,0] (fun _ => 0)
    (ForPeripherals router buf → [[[75,50,3] ++ List.replicate 13 0]] = outqs router) ∧
      (¬ ForPeripherals router buf → ∃ msg, [[[75,50,3] ++ List.replicate 13 0]] = (outqs router).set 0 ([] ++ [encoded .RAW msg]) ∧
        ∀ ret mid, diag_cmd_dispatch (router_calls ⟨fun _ => 0,fun _ => 0,fun _ => 0,fun _ _ => 0⟩ 0 buf 4) router.diag_cmds
          buf router = .ok (ret,mid) → ∀ code ∈ rejection ret, msg = code :: span buf 0 4) :=
  @one_response ⟨fun _ => 0,fun _ => 0,fun _ => 0,fun _ _ => 0⟩ 0 (place [75,50,3,0] (fun _ => 0)) 4
    ⟨diag_masks_init,[],[],[],[⟨.RAW,true,[]⟩]⟩
    ⟨diag_masks_init,[],[],[],[⟨.RAW,true,[[75,50,3] ++ List.replicate 13 0]⟩]⟩ ⟨.RAW,true,[]⟩ rfl rfl rfl

end DiagRouter.Responses

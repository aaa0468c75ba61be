import DiagRouter.HdlcRecovery
import DiagRouter.QueryFrames
import DiagRouter.Cntl

/-!
# What handlers do to the queues

The handlers of client commands and of control packets write to queues in one
way only: they append, and what they answer goes to the client that asked.
Nothing they do takes a message from a queue, and of what else a client or a
peripheral is they change no more than the framing and the features.
-/
namespace DiagRouter.QueueGrowth
open DiagRouter.Lib.Memory DiagRouter.Lib.Words DiagRouter.Masks DiagRouter.Hdlc
open DiagRouter.Dispatch DiagRouter.Handlers DiagRouter.Peripherals DiagRouter.Cntl
open DiagRouter.Clients (DiagClient dm_send queue_push)
open DiagRouter.QueryFrames (dm_send_grows)
open DiagRouter.HdlcRecovery (handle_commands)

/-! ## Peripherals and clients -/

/-- The peripheral as it was, but for messages at the ends of its queues. -/
structure PeripheralGrown (p after : Peripheral) : Prop where
  same : after = { p with cmdq := after.cmdq, cntlq := after.cntlq, dataq := after.dataq }
  cmdq : p.cmdq <+: after.cmdq
  cntlq : p.cntlq <+: after.cntlq
  dataq : p.dataq <+: after.dataq

/-- The client as it was, but for its framing and messages at the end of its
    queue. -/
structure ClientGrown (dm after : DiagClient) : Prop where
  enabled : after.enabled = dm.enabled
  outq : dm.outq <+: after.outq

/-- Registrations and ids are the same, every queue begins with what it was, and
    those of the other clients are as they were. -/
structure Grown (client : Nat) (before after : Router) : Prop where
  diag_cmds : after.diag_cmds = before.diag_cmds
  diag_ids : after.diag_ids = before.diag_ids
  peripherals : List.Forall₂ PeripheralGrown before.peripherals after.peripherals
  clients : List.Forall₂ ClientGrown before.diag_clients after.diag_clients
  others : ∀ i, i ≠ client → after.diag_clients[i]?.map DiagClient.outq = before.diag_clients[i]?.map DiagClient.outq

theorem PeripheralGrown.refl (p : Peripheral) : PeripheralGrown p p :=
  ⟨rfl,List.prefix_rfl,List.prefix_rfl,List.prefix_rfl⟩

theorem PeripheralGrown.trans {p q r : Peripheral} (first : PeripheralGrown p q) (second : PeripheralGrown q r) :
    PeripheralGrown p r := by
  refine ⟨?_,first.cmdq.trans second.cmdq,first.cntlq.trans second.cntlq,first.dataq.trans second.dataq⟩
  rw [second.same,first.same]

theorem ClientGrown.refl (dm : DiagClient) : ClientGrown dm dm := ⟨rfl,List.prefix_rfl⟩

theorem ClientGrown.trans {dm mid after : DiagClient} (first : ClientGrown dm mid) (second : ClientGrown mid after) :
    ClientGrown dm after := ⟨second.enabled.trans first.enabled,first.outq.trans second.outq⟩

theorem forall₂_trans {α : Type} {R : α → α → Prop} (trans : ∀ {a b c}, R a b → R b c → R a c) {as bs cs : List α}
    (first : List.Forall₂ R as bs) (second : List.Forall₂ R bs cs) : List.Forall₂ R as cs := by
  induction first generalizing cs with
  | nil =>
    cases second
    exact .nil
  | cons here _ ih =>
    cases second with
    | cons there rest => exact .cons (trans here there) (ih rest)

theorem forall₂_map {α : Type} {R : α → α → Prop} {f : α → α} (each : ∀ a, R a (f a)) (as : List α) :
    List.Forall₂ R as (as.map f) := by
  induction as with
  | nil => exact .nil
  | cons a as ih => exact .cons (each a) ih

theorem peripherals_refl (peripherals : List Peripheral) : List.Forall₂ PeripheralGrown peripherals peripherals :=
  List.forall₂_same.mpr fun p _ => .refl p

theorem clients_refl (diag_clients : List DiagClient) : List.Forall₂ ClientGrown diag_clients diag_clients :=
  List.forall₂_same.mpr fun dm _ => .refl dm

theorem Grown.refl (client : Nat) (router : Router) : Grown client router router :=
  ⟨rfl,rfl,peripherals_refl _,clients_refl _,fun _ _ => rfl⟩

theorem Grown.trans {client : Nat} {first second third : Router} (early : Grown client first second)
    (late : Grown client second third) : Grown client first third :=
  ⟨late.diag_cmds.trans early.diag_cmds,late.diag_ids.trans early.diag_ids,
    forall₂_trans (R := PeripheralGrown) .trans early.peripherals late.peripherals,
    forall₂_trans (R := ClientGrown) .trans early.clients late.clients,
    fun i other => (late.others i other).trans (early.others i other)⟩

/-! ## Messages to peripherals -/

theorem push_cmdq (p : Peripheral) (msg : List UInt8) : PeripheralGrown p { p with cmdq := queue_push p.cmdq msg } :=
  ⟨rfl,List.prefix_append _ _,List.prefix_rfl,List.prefix_rfl⟩

theorem push_cntlq (p : Peripheral) (msg : List UInt8) : PeripheralGrown p { p with cntlq := queue_push p.cntlq msg } :=
  ⟨rfl,List.prefix_rfl,List.prefix_append _ _,List.prefix_rfl⟩

theorem push_dataq (p : Peripheral) (msg : List UInt8) : PeripheralGrown p { p with dataq := queue_push p.dataq msg } :=
  ⟨rfl,List.prefix_rfl,List.prefix_rfl,List.prefix_append _ _⟩

/-- What `push_encoded` queues, in one framing or the other. -/
theorem push_encoded_push (p : Peripheral) (queue : List (List UInt8)) (msg : List UInt8) :
    ∃ sent, push_encoded p queue msg = queue_push queue sent := by
  unfold push_encoded
  split_ifs
  · exact ⟨msg,rfl⟩
  · exact ⟨_,rfl⟩

theorem peripheral_send_grown (p : Peripheral) (msg : List UInt8) : PeripheralGrown p (peripheral_send p msg) := by
  obtain ⟨command,cmdq⟩ := push_encoded_push p p.cmdq msg
  obtain ⟨data,dataq⟩ := push_encoded_push p p.dataq msg
  unfold peripheral_send perif_rpmsg_send qrtr_perif_send
  rw [cmdq,dataq]
  split
  · split_ifs
    · exact push_cmdq p command
    · exact push_dataq p data
  · exact push_cmdq p command

section
variable {masks : MaskTables} {p after : Peripheral} {peripherals told : List Peripheral}

theorem send_log_mask_grown {equip_id : UInt32} (sent : diag_cntl_send_log_mask masks p equip_id = .ok after) :
    PeripheralGrown p after := by
  by_cases silent : p.cntl_fd = -1
  · rw [diag_cntl_send_log_mask,if_pos silent] at sent
    cases sent
    exact .refl p
  · obtain ⟨_,_,_,rfl⟩ := send_log_mask_packet silent sent
    exact push_cntlq p _

theorem send_event_mask_grown (sent : diag_cntl_send_event_mask masks p = .ok after) : PeripheralGrown p after := by
  by_cases silent : p.cntl_fd = -1
  · simp only [diag_cntl_send_event_mask,if_pos silent] at sent
    cases sent
    exact .refl p
  · obtain ⟨_,_,rfl,_⟩ := send_event_mask_packet silent sent
    exact push_cntlq p _

theorem send_msg_mask_grown {junk : Nat → UInt8} {range left : Option DiagSsidRange}
    (sent : diag_cntl_send_msg_mask junk masks p range = .ok (left,after)) : PeripheralGrown p after := by
  by_cases silent : p.cntl_fd = -1
  · rw [diag_cntl_send_msg_mask,if_pos silent] at sent
    cases sent
    exact .refl p
  · obtain ⟨_,_,_,_,_,_,_,rfl⟩ := send_msg_mask_packet silent sent
    exact push_cntlq p _

theorem broadcast_log_grown {equip_id : UInt32} (sent : peripheral_broadcast_log_mask masks equip_id peripherals = .ok told) :
    List.Forall₂ PeripheralGrown peripherals told := by
  induction peripherals generalizing told with
  | nil =>
    cases sent
    exact .nil
  | cons p peripherals ih =>
    obtain ⟨first,one,rest⟩ := bind_eq_ok.mp sent
    obtain ⟨others,more,same⟩ := bind_eq_ok.mp rest
    cases same
    exact .cons (send_log_mask_grown one) (ih more)

theorem broadcast_event_grown (sent : peripheral_broadcast_event_mask masks peripherals = .ok told) :
    List.Forall₂ PeripheralGrown peripherals told := by
  induction peripherals generalizing told with
  | nil =>
    cases sent
    exact .nil
  | cons p peripherals ih =>
    obtain ⟨first,one,rest⟩ := bind_eq_ok.mp sent
    obtain ⟨others,more,same⟩ := bind_eq_ok.mp rest
    cases same
    exact .cons (send_event_mask_grown one) (ih more)

theorem broadcast_msg_grown {junk : Nat → Nat → UInt8} {range left : Option DiagSsidRange}
    (sent : peripheral_broadcast_msg_mask junk masks range peripherals = .ok (left,told)) :
    List.Forall₂ PeripheralGrown peripherals told := by
  induction peripherals generalizing junk range left told with
  | nil =>
    cases sent
    exact .nil
  | cons p peripherals ih =>
    obtain ⟨⟨asked,first⟩,one,rest⟩ := bind_eq_ok.mp sent
    obtain ⟨⟨passed,others⟩,more,same⟩ := bind_eq_ok.mp rest
    cases same
    exact .cons (send_msg_mask_grown one) (ih more)

end

/-! ## Client commands -/

section
variable {junk : Junk} {client : Nat} {buf : Request} {len : Nat} {router : Router}

theorem send_grown (router : Router) (client : Nat) (msg : List UInt8) : Grown client router (send router client msg) := by
  refine ⟨rfl,rfl,peripherals_refl _,?_,?_⟩
  · rw [List.forall₂_iff_get]
    refine ⟨by simp [send],?_⟩
    intro i inside there
    simp only [send,List.get_eq_getElem,List.getElem_modify]
    split_ifs
    · obtain ⟨msgs,grown⟩ := dm_send_grows router.diag_clients[i] msg
      rw [grown]
      exact ⟨rfl,List.prefix_append _ _⟩
    · exact .refl _
  · intro i other
    simp only [send,List.getElem?_modify,if_neg (Ne.symm other)]
    exact congrArg _ Option.map_id'

theorem set_encode_type_grown (type : Clients.EncodeType) (client : Nat) (router : Router) :
    Grown client router { router with diag_clients := Clients.set_encode_type type router.diag_clients } := by
  refine ⟨rfl,rfl,peripherals_refl _,forall₂_map ?_ _,?_⟩
  · intro dm
    split_ifs
    · exact .refl dm
    · exact ⟨rfl,List.prefix_rfl⟩
  · intro i _
    simp only [Clients.set_encode_type,List.getElem?_map,Option.map_map]
    congr 1
    funext dm
    simp only [Function.comp_apply]
    split_ifs <;> rfl

/-- Where a handler ends well, its queues have grown. -/
abbrev Grows (client : Nat) (router : Router) (outcome : Outcome) : Prop :=
  Ensures outcome (fun result => Grown client router result.2)

theorem rejects (ret : Int) : Grows client router (.ok (ret,router)) := ensures_ok (.refl client router)

/-- Masks may change before the answer, and peripherals be told. -/
theorem answers {masks : MaskTables} {peripherals : List Peripheral}
    (told : List.Forall₂ PeripheralGrown router.peripherals peripherals) (msg : List UInt8) :
    Grows client router (.ok (0,send { router with masks := masks, peripherals := peripherals } client msg)) := by
  have before : Grown client router { router with masks := masks, peripherals := peripherals } :=
    ⟨rfl,rfl,told,clients_refl _,fun _ _ => rfl⟩
  exact ensures_ok (before.trans (send_grown _ client msg))

theorem answers_only (msg : List UInt8) : Grows client router (.ok (0,send router client msg)) := ensures_ok (send_grown router client msg)

theorem handle_logging_configuration_grows : Grows client router (handle_logging_configuration junk client buf len router) := by
  unfold handle_logging_configuration
  split
  · unfold log_disable
    split_ifs
    · exact rejects _
    · exact ensures_bind fun _ _ => ensures_bind fun _ told => answers (broadcast_log_grown told) _
  · unfold get_log_range
    split_ifs
    · exact rejects _
    · exact answers_only _
  · unfold set_log_mask
    dsimp only
    split_ifs
    · exact rejects _
    · exact ensures_bind fun _ _ => ensures_bind fun _ _ => ensures_bind fun _ _ => ensures_bind fun _ _ =>
        ensures_bind fun _ told => answers (broadcast_log_grown told) _
  · unfold get_log_mask
    split_ifs
    · exact rejects _
    · exact ensures_bind fun _ _ => ensures_bind fun _ told => answers (broadcast_log_grown told) _
  · exact rejects _

theorem handle_extended_message_configuration_grows :
    Grows client router (handle_extended_message_configuration junk client buf len router) := by
  unfold handle_extended_message_configuration
  split
  · unfold get_ssid_range
    split_ifs
    · exact rejects _
    · exact answers_only _
  · unfold get_build_mask
    split_ifs
    · exact rejects _
    · refine ensures_bind fun found _ => ?_
      cases found with
      | none => exact answers_only _
      | some got => exact ensures_bind fun _ _ => answers_only _
  · unfold get_msg_mask
    split_ifs
    · exact rejects _
    · refine ensures_bind fun found _ => ?_
      cases found with
      | none => exact answers_only _
      | some got => exact ensures_bind fun _ _ => answers_only _
  · unfold set_msg_mask
    dsimp only
    split_ifs
    · exact rejects _
    · refine ensures_bind fun set _ => ?_
      split_ifs
      · exact ensures_bind fun _ _ => ensures_bind fun _ _ => ensures_bind fun _ told => ensures_bind fun _ _ =>
          answers (broadcast_msg_grown told) _
      · exact answers (peripherals_refl _) _
  · unfold set_all_msg_mask
    split_ifs
    · exact rejects _
    · exact ensures_bind fun _ _ => ensures_bind fun _ told => answers (broadcast_msg_grown told) _
  · exact rejects _

theorem handle_event_get_mask_grows : Grows client router (handle_event_get_mask client buf len router) := by
  unfold handle_event_get_mask
  split_ifs
  · exact rejects _
  · refine ensures_bind fun found _ => ?_
    cases found with
    | none => exact answers_only _
    | some mask => exact answers_only _

theorem handle_event_set_mask_grows : Grows client router (handle_event_set_mask junk client buf len router) := by
  unfold handle_event_set_mask
  dsimp only
  split_ifs
  · exact rejects _
  · exact ensures_bind fun _ _ => ensures_bind fun _ told => answers (broadcast_event_grown told) _

theorem handle_event_report_control_grows : Grows client router (handle_event_report_control client buf len router) := by
  unfold handle_event_report_control
  split_ifs
  · exact rejects _
  · exact ensures_bind fun _ _ => ensures_bind fun _ told => answers (broadcast_event_grown told) _

theorem handle_diag_id_grows : Grows client router (handle_diag_id client buf len router) := by
  unfold handle_diag_id
  split_ifs
  · exact rejects _
  · exact ensures_bind fun _ _ => ensures_bind fun _ _ => ensures_bind fun _ _ => ensures_bind fun _ _ => answers_only _

theorem run_handler_grows (handler : Handler) : Grows client router (run_handler junk client buf len handler router) := by
  cases handler with
  | handle_logging_configuration => exact handle_logging_configuration_grows
  | handle_extended_message_configuration => exact handle_extended_message_configuration_grows
  | handle_event_get_mask => exact handle_event_get_mask_grows
  | handle_event_set_mask => exact handle_event_set_mask_grows
  | handle_event_report_control => exact handle_event_report_control_grows
  | handle_diag_version => exact answers_only _
  | handle_diag_version_no => exact answers_only _
  | handle_extended_build_id =>
    simp only [run_handler,handle_extended_build_id]
    split_ifs
    · exact rejects _
    · exact answers_only _
  | handle_keep_alive => exact answers_only _
  | handle_diag_id => exact handle_diag_id_grows
  | handle_hdlc_disable_cmd =>
    simp only [run_handler,handle_hdlc_disable_cmd]
    split_ifs
    · exact rejects _
    · refine ensures_ok ((send_grown router client (span buf 0 4 ++ [1,0])).trans ?_)
      exact set_encode_type_grown .NHDLC client (send router client (span buf 0 4 ++ [1,0]))

theorem send_loop_grown {k : UInt32} {diag_cmds : List (DiagCmd Nat)} {handled count : Nat} {after : Router}
    (ran : send_loop (router_calls junk client buf len) k diag_cmds handled router = .ok (count,after)) :
    Grown client router after := by
  induction diag_cmds generalizing handled router with
  | nil =>
    cases ran
    exact .refl client _
  | cons dc rest ih =>
    rw [send_loop] at ran
    split_ifs at ran
    · obtain ⟨sent,one,more⟩ := bind_eq_ok.mp ran
      refine Grown.trans ?_ (ih more)
      simp only [router_calls,send_to_peripheral] at one
      split_ifs at one
      cases one
      refine ⟨rfl,rfl,forall₂_map ?_ _,clients_refl _,fun _ _ => rfl⟩
      intro p
      split_ifs
      · exact peripheral_send_grown p _
      · exact .refl p
    · exact ih ran

theorem dispatch_grows : Grows client router (diag_cmd_dispatch (router_calls junk client buf len) router.diag_cmds buf router) := by
  intro outcome dispatched
  cases common : common_cmds.find? (covers (message_key buf)) with
  | some dc =>
    rw [dispatch_common _ _ _ common] at dispatched
    exact run_handler_grows dc.target outcome dispatched
  | none =>
    rw [dispatch_other _ _ _ common] at dispatched
    obtain ⟨⟨count,sent⟩,loop,ended⟩ := bind_eq_ok.mp dispatched
    have first := send_loop_grown loop
    dsimp only at ended
    split_ifs at ended
    · cases ended
      exact first
    · cases fallback : fallback_cmds.find? (covers (message_key buf)) with
      | none =>
        rw [fallback] at ended
        cases ended
        exact first
      | some dc =>
        rw [fallback] at ended
        exact first.trans (run_handler_grows dc.target outcome ended)

theorem handle_command_grows : Ensures (diag_client_handle_command junk client buf len router) (Grown client router) := by
  refine ensures_bind fun outcome dispatched => ?_
  have first := dispatch_grows outcome dispatched
  dsimp only
  split_ifs
  · exact ensures_ok (first.trans (send_grown _ _ _))
  · exact ensures_ok (first.trans (send_grown _ _ _))
  · exact ensures_ok (first.trans (send_grown _ _ _))
  · exact ensures_ok first

theorem handle_commands_grows {memory : Nat → Junk × Request} {commands : List Message} :
    Ensures (handle_commands client memory commands router) (Grown client router) := by
  induction commands generalizing memory router with
  | nil => exact ensures_ok (.refl client router)
  | cons msg commands ih =>
    refine ensures_bind fun mid first => ?_
    intro after rest
    exact (handle_command_grows mid first).trans (ih after rest)

end

/-! ## Control packets -/

/-- The peripheral as it was, but for its features and messages at the end of its
    control queue. -/
structure CntlGrown (p after : CntlPeripheral) : Prop where
  same : after = { p with features := after.features, cntlq := after.cntlq }
  cntlq : p.cntlq <+: after.cntlq

theorem CntlGrown.refl (p : CntlPeripheral) : CntlGrown p p := ⟨rfl,List.prefix_rfl⟩

theorem CntlGrown.trans {p q r : CntlPeripheral} (first : CntlGrown p q) (second : CntlGrown q r) : CntlGrown p r := by
  refine ⟨?_,first.cntlq.trans second.cntlq⟩
  rw [second.same,first.same]

theorem cntl_push_grown (p : CntlPeripheral) (msg : List UInt8) : CntlGrown p (cntl_push p msg) :=
  ⟨rfl,List.prefix_append _ _⟩

theorem send_masks_loop_grown {junk : Nat → Nat → UInt8} {masks : MaskTables} {bounds : List (Nat × Nat)} {p after : Peripheral}
    (sent : send_masks_loop junk masks bounds p = .ok after) : ∃ msgs, after = { p with cntlq := p.cntlq ++ msgs } := by
  induction bounds generalizing junk p with
  | nil =>
    cases sent
    exact ⟨[],by rw [List.append_nil]⟩
  | cons pair bounds ih =>
    obtain ⟨⟨left,first⟩,one,rest⟩ := bind_eq_ok.mp sent
    obtain ⟨msgs,rfl⟩ := ih rest
    by_cases silent : p.cntl_fd = -1
    · rw [diag_cntl_send_msg_mask,if_pos silent] at one
      cases one
      exact ⟨msgs,rfl⟩
    · obtain ⟨_,_,_,_,_,_,_,rfl⟩ := send_msg_mask_packet silent one
      exact ⟨_,congrArg (fun queue => { p with cntlq := queue }) (List.append_assoc _ _ _)⟩

theorem set_diag_mode_grown (p : CntlPeripheral) (real_time : Bool) : CntlGrown p (diag_cntl_set_diag_mode p real_time) := by
  unfold diag_cntl_set_diag_mode
  dsimp only
  split_ifs <;> exact cntl_push_grown p _

theorem set_buffering_mode_grown (p : CntlPeripheral) (mode : Int) : CntlGrown p (diag_cntl_set_buffering_mode p mode) := by
  unfold diag_cntl_set_buffering_mode
  split_ifs <;> exact cntl_push_grown p _

theorem send_feature_mask_grown {junk : Nat → Nat → UInt8} {masks : MaskTables} {p after : CntlPeripheral} {mask : UInt32}
    (sent : diag_cntl_send_feature_mask junk masks p mask = .ok after) : CntlGrown p after := by
  unfold diag_cntl_send_feature_mask at sent
  split_ifs at sent
  · cases sent
    exact .refl p
  · obtain ⟨told,loop,same⟩ := bind_eq_ok.mp sent
    cases same
    obtain ⟨msgs,rfl⟩ := send_masks_loop_grown loop
    have pushed := cntl_push_grown p (packet DIAG_CNTL_CMD_FEATURE_MASK (le32 4 ++ le32 mask ++ span (junk 0) 0 2))
    have masks_sent : CntlGrown (cntl_push p (packet DIAG_CNTL_CMD_FEATURE_MASK (le32 4 ++ le32 mask ++ span (junk 0) 0 2)))
        { cntl_push p (packet DIAG_CNTL_CMD_FEATURE_MASK (le32 4 ++ le32 mask ++ span (junk 0) 0 2)) with
          cntlq := (cntl_push p (packet DIAG_CNTL_CMD_FEATURE_MASK (le32 4 ++ le32 mask ++ span (junk 0) 0 2))).cntlq ++ msgs } :=
      ⟨rfl,List.prefix_append _ _⟩
    exact (pushed.trans masks_sent).trans ((set_diag_mode_grown _ true).trans (set_buffering_mode_grown _ 0))

theorem process_diag_id_grown {memory : Nat → UInt8} {len : Nat} {ids known : DiagIds} {p after : CntlPeripheral} {ret : Int}
    (ran : diag_cntl_process_diag_id memory len ids p = .ok (ret,known,after)) : CntlGrown p after := by
  unfold diag_cntl_process_diag_id at ran
  split_ifs at ran
  · cases ran
    exact .refl p
  · obtain ⟨name,_,ran⟩ := bind_eq_ok.mp ran
    split at ran
    · cases ran
      exact .refl p
    · cases ran
      exact cntl_push_grown p _

theorem process_packet_grown {junk : Nat → Nat → UInt8} {masks : MaskTables} {memory : Nat → UInt8} {n : Nat} {state after : Cntl}
    (ran : process_packet junk masks memory n state = .ok after) : CntlGrown state.peripheral after.peripheral := by
  unfold process_packet at ran
  dsimp only at ran
  split_ifs at ran
  · cases ran
    exact .refl _
  · obtain ⟨peripheral,sent,same⟩ := bind_eq_ok.mp ran
    cases same
    have features : CntlGrown state.peripheral
        { state.peripheral with features := le32At memory 12 &&& local_mask state.peripheral } := ⟨rfl,List.prefix_rfl⟩
    exact features.trans (send_feature_mask_grown sent)
  · obtain ⟨⟨ret,ids,peripheral⟩,done,same⟩ := bind_eq_ok.mp ran
    cases same
    exact process_diag_id_grown done
  · cases ran
    exact .refl _
  · cases ran
    exact .refl _
  · cases ran
    exact .refl _

theorem cntl_recv_grown {junk : Nat → Nat → UInt8} {masks : MaskTables} {memory : Nat → UInt8} {n : Nat} {state after : Cntl}
    (ran : diag_cntl_recv junk masks memory n state = .ok after) : CntlGrown state.peripheral after.peripheral := by
  have loop (fuel offset : Nat) : ∀ {state : Cntl}, recv_loop junk masks memory n fuel offset state = .ok after →
      CntlGrown state.peripheral after.peripheral := by
    induction fuel generalizing offset with
    | zero => exact fun ran => nomatch ran
    | succ fuel ih =>
      intro state ran
      rw [recv_loop] at ran
      split_ifs at ran
      · obtain ⟨mid,first,rest⟩ := bind_eq_ok.mp ran
        exact (process_packet_grown first).trans (ih _ rest)
      · cases ran
        exact .refl _
  exact loop _ _ ran

end DiagRouter.QueueGrowth

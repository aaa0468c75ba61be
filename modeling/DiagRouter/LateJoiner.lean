import DiagRouter.MaskViews
import DiagRouter.QueryFrames

/-!
# Late joiners

A peripheral that has been there from the start is told of every mask when it is
set, by a broadcast. One that comes later is told in the handshake, which sends
message masks only, for the ranges the table was built with. Both know the same
as long as no mask has been set.
-/
namespace DiagRouter.LateJoiner
open DiagRouter.Lib.Memory DiagRouter.Lib.Words DiagRouter.Lib.Runs DiagRouter.Lib.Replay DiagRouter.Masks
open DiagRouter.MsgMaskTable DiagRouter.LogMaskTable DiagRouter.MaskRuns DiagRouter.Dispatch DiagRouter.Handlers
open DiagRouter.Peripherals DiagRouter.Cntl DiagRouter.MaskViews
open DiagRouter.Responses (CommandOf command_of_common)
open DiagRouter.QueryFrames (message_query_answers event_query_answers get_log_range_answers)
open DiagRouter.MaskBroadcast (msg_packet modem)
open DiagRouter.MsgMaskReadBack (Refused refused_iff Contains)

/-! ## What a command does to the masks and the peripherals -/

def IsDisableLog (len : Nat) (buf : Request) : Prop := buf 0 = 0x73 ∧ le32At buf 4 = 0 ∧ len = 8

def IsReportControl (len : Nat) (buf : Request) : Prop := buf 0 = 0x60 ∧ len = 2

/-- The control channels, and what is queued to them. -/
def channels (peripherals : List Peripheral) : List (Int × List (List UInt8)) :=
  peripherals.map (fun p => (p.cntl_fd,p.cntlq))

inductive Effect (junk : Junk) (len : Nat) (buf : Request) (router : Router) (masks : MaskTables)
    (peripherals : List Peripheral) : Prop
  | silent (same : masks = router.masks) (kept : channels peripherals = channels router.peripherals)
  | disable_log (asked : IsDisableLog len buf) (set : diag_cmd_disable_log router.masks = .ok masks)
      (told : peripheral_broadcast_log_mask masks 0 router.peripherals = .ok peripherals)
  | set_log {found : Option (Nat × Nat)} {equip_id : UInt32} (asked : IsSetLogMask len buf)
      (set : diag_cmd_set_log_mask junk.bytes router.masks (le32At buf 8).toUInt8 (le32At buf 12).toNat
        (fun i => buf (16 + i)) = .ok (found,masks))
      (told : peripheral_broadcast_log_mask masks equip_id router.peripherals = .ok peripherals)
  | get_log {equip_id : UInt32} (same : masks = router.masks)
      (told : peripheral_broadcast_log_mask masks equip_id router.peripherals = .ok peripherals)
  | set_msg {left : Option DiagSsidRange} (asked : IsSetMsgMask len buf)
      (set : diag_cmd_set_msg_mask junk.words router.masks (range_at buf 2) (request_words buf) = .ok (0,masks))
      (told : peripheral_broadcast_msg_mask junk.pkt masks (some (range_at buf 2)) router.peripherals = .ok (left,peripherals))
  | refuse_msg {code : Nat} (asked : IsSetMsgMask len buf) (refused : code ≠ 0)
      (set : diag_cmd_set_msg_mask junk.words router.masks (range_at buf 2) (request_words buf) = .ok (code,masks))
      (kept : peripherals = router.peripherals)
  | set_all {mask : UInt32} {left : Option DiagSsidRange} (set : diag_cmd_set_all_msg_mask router.masks mask = .ok masks)
      (told : peripheral_broadcast_msg_mask junk.pkt masks none router.peripherals = .ok (left,peripherals))
  | set_event (asked : IsEventSetMask len buf)
      (set : diag_cmd_update_event_mask junk.bytes router.masks (le16At buf 4) (fun i => buf (6 + i)) = .ok masks)
      (told : peripheral_broadcast_event_mask masks router.peripherals = .ok peripherals)
  | report_control (asked : IsReportControl len buf)
      (set : diag_cmd_toggle_events router.masks (buf 1 ≠ 0) = .ok masks)
      (told : peripheral_broadcast_event_mask masks router.peripherals = .ok peripherals)

section
variable {junk : Junk} {client : Nat} {buf : Request} {len : Nat} {router after : Router} {ret : Int}

theorem Effect.none : Effect junk len buf router router.masks router.peripherals := .silent rfl rfl

/-- Only the clients have changed. -/
theorem Effect.of_clients (frame : after = { router with diag_clients := after.diag_clients }) :
    Effect junk len buf router after.masks after.peripherals := by
  rw [frame]
  exact .none

theorem log_disable_ran (whole : len = 8) (ran : log_disable client buf len router = .ok (ret,after)) :
    diag_cmd_disable_log router.masks = .ok after.masks ∧
      peripheral_broadcast_log_mask after.masks 0 router.peripherals = .ok after.peripherals := by
  rw [log_disable,if_neg (not_not.mpr whole)] at ran
  obtain ⟨masks,set,ran⟩ := bind_eq_ok.mp ran
  obtain ⟨peripherals,told,ran⟩ := bind_eq_ok.mp ran
  cases ran
  exact ⟨set,told⟩

theorem set_log_mask_ran (whole : len = 8 + (8 + BITS_TO_BYTES32 (le32At buf 12).toNat))
    (ran : set_log_mask junk client buf len router = .ok (ret,after)) :
    ∃ found equip_id, diag_cmd_set_log_mask junk.bytes router.masks (le32At buf 8).toUInt8 (le32At buf 12).toNat
        (fun i => buf (16 + i)) = .ok (found,after.masks) ∧
      peripheral_broadcast_log_mask after.masks equip_id router.peripherals = .ok after.peripherals := by
  unfold set_log_mask at ran
  dsimp only at ran
  rw [if_neg (not_not.mpr whole)] at ran
  obtain ⟨⟨found,masks⟩,set,ran⟩ := bind_eq_ok.mp ran
  obtain ⟨_,_,ran⟩ := bind_eq_ok.mp ran
  obtain ⟨_,_,ran⟩ := bind_eq_ok.mp ran
  obtain ⟨resp,_,ran⟩ := bind_eq_ok.mp ran
  obtain ⟨peripherals,told,ran⟩ := bind_eq_ok.mp ran
  cases ran
  exact ⟨found,_,set,told⟩

theorem set_msg_mask_ran (whole : len = 8 + MSG_RANGE_TO_SIZE (range_at buf 2))
    (ran : set_msg_mask junk client buf len router = .ok (ret,after)) :
    ∃ code, diag_cmd_set_msg_mask junk.words router.masks (range_at buf 2) (request_words buf) = .ok (code,after.masks) ∧
      (code = 0 → ∃ left, peripheral_broadcast_msg_mask junk.pkt after.masks (some (range_at buf 2)) router.peripherals =
        .ok (left,after.peripherals)) ∧
      (code ≠ 0 → after.peripherals = router.peripherals) := by
  unfold set_msg_mask at ran
  dsimp only at ran
  rw [if_neg (not_not.mpr whole)] at ran
  obtain ⟨⟨code,masks⟩,set,ran⟩ := bind_eq_ok.mp ran
  dsimp only at ran
  split_ifs at ran with done
  · obtain ⟨_,_,ran⟩ := bind_eq_ok.mp ran
    obtain ⟨_,_,ran⟩ := bind_eq_ok.mp ran
    obtain ⟨⟨left,peripherals⟩,told,ran⟩ := bind_eq_ok.mp ran
    obtain ⟨_,_,ran⟩ := bind_eq_ok.mp ran
    cases ran
    exact ⟨code,set,fun _ => ⟨left,told⟩,fun other => absurd done other⟩
  · cases ran
    exact ⟨code,set,fun same => absurd same done,fun _ => rfl⟩

theorem event_set_ran (whole : len = 6 + BITS_TO_BYTES (le16At buf 4).toNat)
    (ran : handle_event_set_mask junk client buf len router = .ok (ret,after)) :
    diag_cmd_update_event_mask junk.bytes router.masks (le16At buf 4) (fun i => buf (6 + i)) = .ok after.masks ∧
      peripheral_broadcast_event_mask after.masks router.peripherals = .ok after.peripherals := by
  unfold handle_event_set_mask at ran
  dsimp only at ran
  rw [if_neg (not_not.mpr whole)] at ran
  obtain ⟨masks,set,ran⟩ := bind_eq_ok.mp ran
  obtain ⟨peripherals,told,ran⟩ := bind_eq_ok.mp ran
  cases ran
  exact ⟨set,told⟩

theorem report_control_ran (whole : len = 2) (ran : handle_event_report_control client buf len router = .ok (ret,after)) :
    diag_cmd_toggle_events router.masks (buf 1 ≠ 0) = .ok after.masks ∧
      peripheral_broadcast_event_mask after.masks router.peripherals = .ok after.peripherals := by
  rw [handle_event_report_control,if_neg (not_not.mpr whole)] at ran
  obtain ⟨masks,set,ran⟩ := bind_eq_ok.mp ran
  obtain ⟨peripherals,told,ran⟩ := bind_eq_ok.mp ran
  cases ran
  exact ⟨set,told⟩

/-! ## Each handler -/

theorem logging_effect (command : buf 0 = 0x73)
    (ran : handle_logging_configuration junk client buf len router = .ok (ret,after)) :
    Effect junk len buf router after.masks after.peripherals := by
  unfold handle_logging_configuration at ran
  split at ran
  · next operation =>
    by_cases whole : len = 8
    · obtain ⟨set,told⟩ := log_disable_ran whole ran
      exact .disable_log ⟨command,UInt32.toNat_inj.mp operation,whole⟩ set told
    · simp only [log_disable,ne_eq,whole,not_false_eq_true,if_true] at ran
      cases ran
      exact .none
  · exact .of_clients (get_log_range_answers ran).frame
  · next operation =>
    by_cases whole : len = 8 + (8 + BITS_TO_BYTES32 (le32At buf 12).toNat)
    · obtain ⟨found,equip_id,set,told⟩ := set_log_mask_ran whole ran
      exact .set_log ⟨command,UInt32.toNat_inj.mp operation,whole⟩ set told
    · simp only [set_log_mask,ne_eq,whole,not_false_eq_true,if_true] at ran
      cases ran
      exact .none
  · unfold get_log_mask at ran
    split_ifs at ran
    · cases ran
      exact .none
    · obtain ⟨_,_,ran⟩ := bind_eq_ok.mp ran
      obtain ⟨peripherals,told,ran⟩ := bind_eq_ok.mp ran
      cases ran
      exact .get_log rfl told
  · cases ran
    exact .none

theorem message_effect (command : buf 0 = 0x7d)
    (ran : handle_extended_message_configuration junk client buf len router = .ok (ret,after)) :
    Effect junk len buf router after.masks after.peripherals := by
  have dispatched := ran
  unfold handle_extended_message_configuration at ran
  split at ran
  · next operation =>
    exact .of_clients (message_query_answers (.inl (UInt8.toNat_inj.mp operation)) dispatched).frame
  · next operation =>
    exact .of_clients (message_query_answers (.inr (.inl (UInt8.toNat_inj.mp operation))) dispatched).frame
  · next operation =>
    exact .of_clients (message_query_answers (.inr (.inr (UInt8.toNat_inj.mp operation))) dispatched).frame
  · next operation =>
    by_cases whole : len = 8 + MSG_RANGE_TO_SIZE (range_at buf 2)
    · have asked : IsSetMsgMask len buf := ⟨command,UInt8.toNat_inj.mp operation,whole⟩
      obtain ⟨code,set,accepted,refused⟩ := set_msg_mask_ran whole ran
      by_cases done : code = 0
      · subst done
        obtain ⟨left,told⟩ := accepted rfl
        exact .set_msg asked set told
      · exact .refuse_msg asked done set (refused done)
    · simp only [set_msg_mask,ne_eq,whole,not_false_eq_true,if_true] at ran
      cases ran
      exact .none
  · unfold set_all_msg_mask at ran
    split_ifs at ran
    · cases ran
      exact .none
    · obtain ⟨masks,set,ran⟩ := bind_eq_ok.mp ran
      obtain ⟨⟨left,peripherals⟩,told,ran⟩ := bind_eq_ok.mp ran
      cases ran
      exact .set_all set told
  · cases ran
    exact .none

theorem common_effect {dc : DiagCmd Handler} (common : common_cmds.find? (covers (message_key buf)) = some dc)
    (ran : run_handler junk client buf len dc.target router = .ok (ret,after)) :
    Effect junk len buf router after.masks after.peripherals := by
  have rows : ∀ dc ∈ common_cmds, dc.target = .handle_logging_configuration ∨
      dc.target = .handle_extended_message_configuration ∨ dc.target = .handle_event_get_mask ∨
      dc.target = .handle_event_set_mask ∨ dc.target = .handle_event_report_control := by decide
  have command := command_of_common common
  rcases rows dc (List.mem_of_find?_eq_some common) with target | target | target | target | target
  · rw [target] at ran command
    exact logging_effect command ran
  · rw [target] at ran command
    exact message_effect command ran
  · rw [target] at ran
    exact .of_clients (event_query_answers ran).frame
  · rw [target] at ran command
    by_cases whole : len = 6 + BITS_TO_BYTES (le16At buf 4).toNat
    · obtain ⟨set,told⟩ := event_set_ran whole ran
      exact .set_event ⟨command,whole⟩ set told
    · simp only [run_handler,handle_event_set_mask,ne_eq,whole,not_false_eq_true,if_true] at ran
      cases ran
      exact .none
  · rw [target] at ran command
    by_cases whole : len = 2
    · obtain ⟨set,told⟩ := report_control_ran whole ran
      exact .report_control ⟨command,whole⟩ set told
    · simp only [run_handler,handle_event_report_control,ne_eq,whole,not_false_eq_true,if_true] at ran
      cases ran
      exact .none

/-! ## Any command -/

theorem peripheral_send_channel (p : Peripheral) (msg : List UInt8) :
    ((peripheral_send p msg).cntl_fd,(peripheral_send p msg).cntlq) = (p.cntl_fd,p.cntlq) := by
  unfold peripheral_send perif_rpmsg_send qrtr_perif_send
  split
  · split_ifs
    · rfl
    · rfl
  · rfl

/-- Messages that are sent on go to the other queues. -/
theorem send_loop_channels {k : UInt32} {diag_cmds : List (DiagCmd Nat)} {handled count : Nat}
    (ran : send_loop (router_calls junk client buf len) k diag_cmds handled router = .ok (count,after)) :
    channels after.peripherals = channels router.peripherals := by
  induction diag_cmds generalizing handled router with
  | nil =>
    cases ran
    rfl
  | cons dc rest ih =>
    rw [send_loop] at ran
    split_ifs at ran
    · obtain ⟨sent,one,more⟩ := bind_eq_ok.mp ran
      rw [ih more]
      simp only [router_calls,send_to_peripheral] at one
      split_ifs at one
      cases one
      simp only [channels,List.map_map]
      refine List.map_congr_left ?_
      intro p _
      simp only [Function.comp_apply]
      split_ifs
      · exact peripheral_send_channel p _
      · rfl
    · exact ih ran

theorem handle_command_effect (ran : diag_client_handle_command junk client buf len router = .ok after) :
    Effect junk len buf router after.masks after.peripherals := by
  obtain ⟨ret,mid,dispatched,frame⟩ := handle_command_dispatched ran
  rw [frame]
  change Effect junk len buf router mid.masks mid.peripherals
  cases common : common_cmds.find? (covers (message_key buf)) with
  | some dc =>
    rw [dispatch_common _ _ _ common] at dispatched
    exact common_effect common dispatched
  | none =>
    rw [dispatch_other _ _ _ common] at dispatched
    obtain ⟨⟨handled,sent⟩,loop,ended⟩ := bind_eq_ok.mp dispatched
    have kept := send_loop_channels loop
    have masks : sent.masks = router.masks := by rw [send_loop_frame loop]
    dsimp only at ended
    split_ifs at ended
    · cases ended
      exact .silent masks kept
    · cases fallback : fallback_cmds.find? (covers (message_key buf)) with
      | none =>
        rw [fallback] at ended
        cases ended
        exact .silent masks kept
      | some dc =>
        rw [fallback] at ended
        rw [fallback_frame (List.mem_of_find?_eq_some fallback) ended]
        exact .silent masks kept

end

/-! ## A broadcast to one peripheral -/

section
variable {masks : MaskTables} {peripherals told : List Peripheral} {i : Nat} {A : Peripheral}

theorem broadcast_event_mapM (masks : MaskTables) (peripherals : List Peripheral) :
    peripheral_broadcast_event_mask masks peripherals = peripherals.mapM (diag_cntl_send_event_mask masks) := by
  induction peripherals with
  | nil => rfl
  | cons p rest ih => rw [peripheral_broadcast_event_mask,List.mapM_cons,ih]

theorem broadcast_log_mapM (masks : MaskTables) (equip_id : UInt32) (peripherals : List Peripheral) :
    peripheral_broadcast_log_mask masks equip_id peripherals =
      peripherals.mapM (fun p => diag_cntl_send_log_mask masks p equip_id) := by
  induction peripherals with
  | nil => rfl
  | cons p rest ih => rw [peripheral_broadcast_log_mask,List.mapM_cons,ih]

theorem broadcast_event_at (sent : peripheral_broadcast_event_mask masks peripherals = .ok told)
    (present : peripherals[i]? = some A) : ∃ after, told[i]? = some after ∧ diag_cntl_send_event_mask masks A = .ok after := by
  rw [broadcast_event_mapM] at sent
  exact mapM_getElem? sent present

theorem broadcast_log_at {equip_id : UInt32} (sent : peripheral_broadcast_log_mask masks equip_id peripherals = .ok told)
    (present : peripherals[i]? = some A) :
    ∃ after, told[i]? = some after ∧ diag_cntl_send_log_mask masks A equip_id = .ok after := by
  rw [broadcast_log_mapM] at sent
  exact mapM_getElem? sent present

/-- A packet that is asked for with a range leaves one behind. -/
theorem send_msg_mask_range {junk : Nat → UInt8} {asked : DiagSsidRange} {left : Option DiagSsidRange} {after : Peripheral}
    (sent : diag_cntl_send_msg_mask junk masks A (some asked) = .ok (left,after)) : left ≠ none := by
  by_cases silent : A.cntl_fd = -1
  · rw [diag_cntl_send_msg_mask,if_pos silent] at sent
    cases sent
    simp
  · obtain ⟨_,_,_,_,items,_⟩ := send_msg_mask_packet silent sent
    unfold msg_mask_items at items
    dsimp only at items
    by_cases looked : masks.msg_mask.status = DIAG_CTRL_MASK_VALID ∨ masks.msg_mask.status = DIAG_CTRL_MASK_ALL_ENABLED
    · rw [if_pos looked] at items
      obtain ⟨found,_,same⟩ := bind_eq_ok.mp items
      cases same
      simp
    · rw [if_neg looked] at items
      cases items
      simp

/-- Whatever range the peripherals before it have left. -/
theorem broadcast_msg_at {junk : Nat → Nat → UInt8} {range left : Option DiagSsidRange}
    (sent : peripheral_broadcast_msg_mask junk masks range peripherals = .ok (left,told)) (present : peripherals[i]? = some A) :
    ∃ bytes asked after passed, told[i]? = some after ∧
      diag_cntl_send_msg_mask bytes masks A asked = .ok (passed,after) ∧ (range ≠ none → asked ≠ none) := by
  induction peripherals generalizing junk range told i with
  | nil => simp at present
  | cons p rest ih =>
    obtain ⟨⟨passed,first⟩,one,more⟩ := bind_eq_ok.mp sent
    obtain ⟨⟨last,others⟩,later,same⟩ := bind_eq_ok.mp more
    cases same
    cases i with
    | zero =>
      cases present
      exact ⟨junk 0,range,first,passed,rfl,one,id⟩
    | succ i =>
      obtain ⟨bytes,asked,after,left,found,served,some⟩ := ih later present
      refine ⟨bytes,asked,after,left,found,served,?_⟩
      intro given
      obtain ⟨range,rfl⟩ := Option.ne_none_iff_exists'.mp given
      exact some (send_msg_mask_range one)

end

/-! ## SETs of message masks -/

/-- No entry reports far past its start. -/
def Near (table : List DiagMsgMask) : Prop := ∀ msg_item ∈ table, msg_item.ssid_last_tools < msg_item.ssid_first + 400

theorem resized_near {table : List DiagMsgMask} {msg_item : DiagMsgMask} {range : DiagSsidRange} (built : Built table)
    (member : msg_item ∈ table) (near : Near table) (junk : Nat → UInt32)
    (close : range.ssid_first.toNat ≤ msg_item.ssid_first + MAX_SSID_PER_RANGE) :
    (resized junk range msg_item).ssid_last_tools < msg_item.ssid_first + 400 := by
  have ordered := built.ordered member
  have high := built.high msg_item member
  have here := near msg_item member
  have capacity : MAX_SSID_PER_RANGE = 200 := rfl
  by_cases many : MAX_SSID_PER_RANGE < num_ssids range
  · by_cases past : msg_item.ssid_first + MAX_SSID_PER_RANGE < range.ssid_last.toNat
    · rw [resized_cut_past many past]
      dsimp only
      omega
    · rw [resized_cut_within many (by omega)]
      dsimp only
      omega
  · by_cases past : msg_item.ssid_last_tools < range.ssid_last.toNat
    · have count : num_ssids range = range.ssid_last.toNat + 1 - range.ssid_first.toNat := by
        apply num_ssids_of_le
        by_contra wrapped
        have huge := num_ssids_of_gt (Nat.lt_of_not_le wrapped)
        have bound := range.ssid_first.toNat_lt
        omega
      rw [resized_past (by omega) past ordered high]
      simp only [extendedLast]
      split_ifs
      · omega
      · omega
    · rw [resized_within (by omega) (by omega)]
      exact here

section
variable {junk mask : Nat → UInt32} {masks after : MaskTables} {range : DiagSsidRange} {ret : Nat}

theorem set_msg_mask_near (built : Built masks.msg_mask.ptr) (near : Near masks.msg_mask.ptr)
    (set : diag_cmd_set_msg_mask junk masks range mask = .ok (ret,after)) : Near after.msg_mask.ptr := by
  obtain ⟨items,loop,rfl⟩ := set_msg_mask_ok_iff.mp set
  cases found : selected range masks.msg_mask.ptr with
  | none =>
    rw [set_msg_loop_none junk mask found] at loop
    cases loop
    exact near
  | some msg_item =>
    obtain ⟨before,later,table,hit,ran⟩ := set_msg_loop_some junk mask found
    have adjusted := resized_near built (selected_mem found) near junk (not_skips hit).2.1
    rw [ran] at loop
    obtain ⟨⟨code,item⟩,stored,same⟩ := bind_eq_ok.mp loop
    cases same
    obtain ⟨ptr,_,rfl⟩ := set_msg_item_frame stored
    rw [Near,table] at near
    exact forall_replaced near (by simpa using adjusted)

/-- A SET is accepted by the entry that does not refuse it. -/
theorem set_msg_mask_accepted (built : Built masks.msg_mask.ptr)
    (set : diag_cmd_set_msg_mask junk masks range mask = .ok (ret,after)) :
    ret = 0 ↔ ∃ msg_item ∈ selected range masks.msg_mask.ptr, ¬ Refused range msg_item := by
  obtain ⟨items,loop,_⟩ := set_msg_mask_ok_iff.mp set
  cases found : selected range masks.msg_mask.ptr with
  | none =>
    rw [set_msg_loop_none junk mask found] at loop
    cases loop
    simp
  | some msg_item =>
    obtain ⟨before,later,_,hit,ran⟩ := set_msg_loop_some junk mask found
    obtain ⟨first,_,_⟩ := not_skips hit
    have refused := refused_iff junk built (selected_mem found) first
    rw [ran] at loop
    obtain ⟨⟨code,item⟩,stored,same⟩ := bind_eq_ok.mp loop
    cases same
    rw [set_msg_item_eq] at stored
    dsimp only at stored
    rw [resized_offset junk first] at stored
    split_ifs at stored with outside
    · cases stored
      simp [refused.mpr outside]
    · obtain ⟨ptr,_,same⟩ := bind_eq_ok.mp stored
      cases same
      simp [refused,outside]

end

/-! ## Joining late -/

/-- A client message and the memory it is handled in. -/
structure ClientMessage where
  junk : Junk
  client : Nat
  buf : Request
  len : Nat

def step (router : Router) (message : ClientMessage) : Except Fault Router :=
  diag_client_handle_command message.junk message.client message.buf message.len router

/-- A peripheral that has just been opened: nothing has been queued to its control
    channel but, for some, the masks as `peripheral_open` sends them. -/
def Opened (masks : MaskTables) (B : CntlPeripheral) : Prop :=
  B.cntlq = [] ∨ ∃ junk p, p.cntlq = [] ∧ p.cntl_fd ≠ -1 ∧ diag_cntl_send_masks junk masks p = .ok B.toPeripheral

/-- A peripheral that completes the handshake now knows what the `i`-th one knows. -/
def CatchesUp (i : Nat) (router : Router) : Prop :=
  ∀ A ∈ router.peripherals[i]?, ∀ B, Opened router.masks B → B.cntl_fd ≠ -1 → ∀ junk memory,
    ∃ after, diag_cntl_feature_mask junk router.masks memory B = .ok after ∧ view after.cntlq = view A.cntlq

/-- The commands that set a mask: they disable log masks, set the one of an
    equipment id, set or switch events, or set message masks and are accepted. -/
def SetsMask (masks : MaskTables) (len : Nat) (buf : Request) : Prop :=
  IsDisableLog len buf ∨ (IsSetLogMask len buf ∧ (le32At buf 8).toUInt8.toNat < MAX_EQUIP_ID) ∨ IsEventSetMask len buf ∨
    IsReportControl len buf ∨
    (IsSetMsgMask len buf ∧ ∃ msg_item ∈ selected (range_at buf 2) masks.msg_mask.ptr, ¬ Refused (range_at buf 2) msg_item)

def Quiet (router : Router) (message : ClientMessage) : Prop := ¬ SetsMask router.masks message.len message.buf

/-- No log mask, event or message mask is in force, and the `i`-th peripheral
    knows nothing but whether message masks have been disabled. -/
structure Calm (i : Nat) (router : Router) : Prop where
  built : Built router.masks.msg_mask.ptr
  near : Near router.masks.msg_mask.ptr
  log : LogBuilt router.masks.log_mask.ptr
  log_status : router.masks.log_mask.status = DIAG_CTRL_MASK_INVALID
  event_bits : router.masks.event_max_num_bits ≠ 0
  msg_status : router.masks.msg_mask.status = DIAG_CTRL_MASK_INVALID ∨
    router.masks.msg_mask.status = DIAG_CTRL_MASK_ALL_DISABLED
  told : ∃ A, router.peripherals[i]? = some A ∧ A.cntl_fd ≠ -1 ∧
    view A.cntlq = { unset with msg := known_by router.masks.msg_mask.status }

theorem Opened.view {masks : MaskTables} {B : CntlPeripheral} (opened : Opened masks B)
    (calm : masks.msg_mask.status = DIAG_CTRL_MASK_INVALID ∨ masks.msg_mask.status = DIAG_CTRL_MASK_ALL_DISABLED) :
    view B.cntlq = unset ∨ view B.cntlq = { unset with msg := known_by masks.msg_mask.status } := by
  rcases opened with nothing | ⟨junk,p,empty,channel,sent⟩
  · left
    rw [nothing]
    rfl
  · right
    obtain ⟨after,again,told⟩ := send_masks_calm junk channel calm (.inl (by rw [empty]; rfl))
    cases again.symm.trans sent
    rw [told,empty]
    rfl

/-- While nothing is in force the handshake tells what is known. -/
theorem Calm.catches_up {i : Nat} {router : Router} (calm : Calm i router) : CatchesUp i router := by
  obtain ⟨A,present,_,known⟩ := calm.told
  intro A' found B opened channel junk memory
  cases present.symm.trans found
  rw [feature_mask_sends channel]
  have start := opened.view calm.msg_status
  rw [← greeted_view junk memory B] at start
  obtain ⟨sent,ran,told⟩ := @send_masks_calm _ (greeted junk memory B) (fun i => junk (i + 1)) channel calm.msg_status
    (start.imp (congrArg View.msg) (congrArg View.msg))
  refine ⟨sent,ran,?_⟩
  rw [told,known]
  rcases start with nothing | same
  · rw [nothing]
  · rw [same]

/-! ## Quiet steps -/

/-- No peripheral with a control channel gets a packet from NULL. -/
theorem broadcast_null {junk : Nat → Nat → UInt8} {masks : MaskTables} {peripherals told : List Peripheral}
    {left : Option DiagSsidRange} (enabled : masks.msg_mask.status = DIAG_CTRL_MASK_ALL_ENABLED)
    (sent : peripheral_broadcast_msg_mask junk masks none peripherals = .ok (left,told)) :
    ∀ p ∈ peripherals, p.cntl_fd = -1 := by
  induction peripherals generalizing junk told left with
  | nil => simp
  | cons p rest ih =>
    rw [List.forall_mem_cons]
    obtain ⟨⟨passed,first⟩,one,more⟩ := bind_eq_ok.mp sent
    by_cases silent : p.cntl_fd = -1
    · rw [diag_cntl_send_msg_mask,if_pos silent] at one
      cases one
      obtain ⟨⟨last,others⟩,later,_⟩ := bind_eq_ok.mp more
      exact ⟨silent,ih later⟩
    · simp only [diag_cntl_send_msg_mask,if_neg silent,msg_mask_items,enabled,or_true,if_true,error_bind] at one
      cases one

/-- What the `i`-th peripheral knows depends on its control queue only. -/
theorem channels_told {old new : List Peripheral} {i : Nat} {A : Peripheral} (same : channels new = channels old)
    (present : old[i]? = some A) : ∃ after, new[i]? = some after ∧ after.cntl_fd = A.cntl_fd ∧ after.cntlq = A.cntlq := by
  have here := congrArg (fun list => list[i]?) same
  simp only [channels,List.getElem?_map,present,Option.map_some,Option.map_eq_some_iff,Prod.mk.injEq] at here
  obtain ⟨after,found,fd,queue⟩ := here
  exact ⟨after,found,fd,queue⟩

/-- A SET of an unknown id changes nothing. -/
theorem set_log_mask_unknown {junk : Nat → UInt8} {masks after : MaskTables} {equip_id : UInt8} {num_items : Nat}
    {mask : Nat → UInt8} {found : Option (Nat × Nat)} (log : LogBuilt masks.log_mask.ptr)
    (unknown : ¬ equip_id.toNat < MAX_EQUIP_ID)
    (set : diag_cmd_set_log_mask junk masks equip_id num_items mask = .ok (found,after)) : after = masks := by
  rcases set_log_mask_cases junk equip_id num_items mask (fun log_item member => (log.sized log_item member).room) with
    ⟨_,missed⟩ | ⟨before,log_item,later,_,table,_,same,_⟩
  · cases missed.symm.trans set
    rfl
  · have member : equip_id ∈ masks.log_mask.ptr.map DiagLogMask.equip_id :=
      List.mem_map.mpr ⟨log_item,by rw [table]; simp,same⟩
    rw [log.ids] at member
    obtain ⟨id,below,rfl⟩ := List.mem_map.mp member
    have small := List.mem_range.mp below
    unfold MAX_EQUIP_ID at small unknown
    rw [UInt8.toNat_ofNat'] at unknown
    omega

section
variable {junk : Junk} {client i : Nat} {buf : Request} {len : Nat} {router after : Router} {message : ClientMessage}

/-- A broadcast of log masks while they are invalid. -/
theorem Calm.broadcast_log (calm : Calm i router) {equip_id : UInt32} (same : after.masks = router.masks)
    (told : peripheral_broadcast_log_mask after.masks equip_id router.peripherals = .ok after.peripherals) : Calm i after := by
  obtain ⟨built,near,log,log_status,event_bits,msg_status,A,present,channel,known⟩ := calm
  rw [same] at told
  obtain ⟨A',found,sent⟩ := broadcast_log_at told present
  have view := send_log_mask_invalid channel log_status sent
  obtain ⟨_,_,rfl⟩ := send_log_mask_sent channel sent
  rw [← same] at built near log log_status event_bits msg_status known
  exact ⟨built,near,log,log_status,event_bits,msg_status,_,found,channel,view.trans known⟩

theorem set_all_items_near {mask : UInt32} {table after : List DiagMsgMask} (near : Near table)
    (set : set_all_items mask table = .ok after) : Near after := by
  have frame := set_all_items_frame set
  clear set
  unfold Near at *
  induction frame with
  | nil => simp
  | cons same _ ih =>
    rw [List.forall_mem_cons] at near ⊢
    refine ⟨?_,ih near.2⟩
    rw [same.2]
    exact near.1

theorem Calm.set_all (calm : Calm i router) {mask : UInt32} {left : Option DiagSsidRange}
    (set : diag_cmd_set_all_msg_mask router.masks mask = .ok after.masks)
    (told : peripheral_broadcast_msg_mask junk.pkt after.masks none router.peripherals = .ok (left,after.peripherals)) :
    Calm i after := by
  obtain ⟨built,near,log,log_status,event_bits,msg_status,A,present,channel,known⟩ := calm
  obtain ⟨items,all,same⟩ := bind_eq_ok.mp set
  have masks : after.masks = { router.masks with msg_mask := { router.masks.msg_mask with
      ptr := items, status := if mask ≠ 0 then DIAG_CTRL_MASK_ALL_ENABLED else DIAG_CTRL_MASK_ALL_DISABLED } } :=
    (Except.ok.inj same).symm
  have zero : mask = 0 := by
    by_contra other
    have enabled : after.masks.msg_mask.status = DIAG_CTRL_MASK_ALL_ENABLED := by rw [masks]; exact if_pos other
    exact channel (broadcast_null enabled told A (List.mem_of_getElem? present))
  have disabled : after.masks.msg_mask.status = DIAG_CTRL_MASK_ALL_DISABLED := by
    rw [masks]
    exact if_neg (not_not.mpr zero)
  obtain ⟨bytes,asked,A',passed,found,sent,_⟩ := broadcast_msg_at told present
  obtain ⟨again,ran,fd,view⟩ := send_msg_mask_calm bytes asked channel (.inr disabled) (by
    rw [known]
    rcases msg_status with invalid | before
    · left
      rw [invalid]
      rfl
    · right
      rw [before,disabled])
  cases ran.symm.trans sent
  refine ⟨?_,?_,?_,?_,?_,.inr disabled,_,found,by rw [fd]; exact channel,by rw [view,known]⟩
  · rw [masks]
    exact set_all_items_built built all
  · rw [masks]
    exact set_all_items_near near all
  · rw [masks]
    exact log
  · rw [masks]
    exact log_status
  · rw [masks]
    exact event_bits

/-- A quiet step keeps everything calm. -/
theorem Calm.quiet_step (calm : Calm i router) (quiet : Quiet router message) (ran : step router message = .ok after) :
    Calm i after := by
  cases handle_command_effect ran with
  | silent same kept =>
    obtain ⟨built,near,log,log_status,event_bits,msg_status,A,present,channel,known⟩ := calm
    obtain ⟨A',found,fd,queue⟩ := channels_told kept present
    rw [← same] at built near log log_status event_bits msg_status known
    exact ⟨built,near,log,log_status,event_bits,msg_status,A',found,by rw [fd]; exact channel,by rw [queue]; exact known⟩
  | disable_log asked => exact absurd (.inl asked) quiet
  | set_log asked set told =>
    have unknown : ¬ (le32At message.buf 8).toUInt8.toNat < MAX_EQUIP_ID := fun known => quiet (.inr (.inl ⟨asked,known⟩))
    exact calm.broadcast_log (set_log_mask_unknown calm.log unknown set) told
  | get_log same told => exact calm.broadcast_log same told
  | set_msg asked set =>
    exact absurd (.inr (.inr (.inr (.inr ⟨asked,(set_msg_mask_accepted calm.built set).mp rfl⟩)))) quiet
  | @refuse_msg code asked refused set kept =>
    obtain ⟨built,near,log,log_status,event_bits,msg_status,A,present,channel,known⟩ := calm
    have near' := set_msg_mask_near built near set
    obtain ⟨items,loop,masks⟩ := set_msg_mask_ok_iff.mp set
    rw [if_neg refused] at masks
    have status : after.masks.msg_mask.status = router.masks.msg_mask.status := by rw [masks]
    refine ⟨?_,near',by rw [masks]; exact log,by rw [masks]; exact log_status,by rw [masks]; exact event_bits,
      by rw [status]; exact msg_status,A,by rw [kept]; exact present,channel,by rw [status]; exact known⟩
    rw [masks]
    exact set_msg_loop_built built loop
  | set_all set told => exact calm.set_all set told
  | set_event asked => exact absurd (.inr (.inr (.inl asked))) quiet
  | report_control asked => exact absurd (.inr (.inr (.inr (.inl asked)))) quiet

/-! ## Steps that set a mask -/

/-- The masks and the peripherals are those its handler leaves. -/
theorem ran_of_dispatch {outcome : Outcome}
    (dispatch : diag_cmd_dispatch (router_calls junk client buf len) router.diag_cmds buf router = outcome)
    (ran : diag_client_handle_command junk client buf len router = .ok after) :
    ∃ ret mid, outcome = .ok (ret,mid) ∧ after.masks = mid.masks ∧ after.peripherals = mid.peripherals := by
  obtain ⟨ret,mid,dispatched,frame⟩ := handle_command_dispatched ran
  exact ⟨ret,mid,dispatch.symm.trans dispatched,by rw [frame],by rw [frame]⟩

theorem report_dispatch (junk : Junk) (client len : Nat) (router : Router) (command : buf 0 = 0x60) :
    diag_cmd_dispatch (router_calls junk client buf len) router.diag_cmds buf router =
      handle_event_report_control client buf len router :=
  dispatch_common _ _ _
    (@common_found buf ⟨0xffff0060,0xffff0060,.handle_event_report_control⟩ (by decide) (by rw [command]; rfl))

/-- A peripheral with a control channel that nothing has been queued to. -/
def newcomer : CntlPeripheral := ⟨⟨2,0,6,[],[],[],.qrtr_perif_send⟩,-1,false,0⟩

/-- The handshake tells no log mask and no event. -/
theorem not_caught_up {A : Peripheral} (present : router.peripherals[i]? = some A)
    (status : router.masks.msg_mask.status = DIAG_CTRL_MASK_INVALID ∨
      router.masks.msg_mask.status = DIAG_CTRL_MASK_ALL_DISABLED)
    (known : (∃ id, ((view A.cntlq).log id).isSome) ∨ ((view A.cntlq).event 0).isSome) : ¬ CatchesUp i router := by
  intro late
  have shaken := late A present newcomer (.inl rfl) (by decide) (fun _ _ => 0) (fun _ => 0)
  rw [feature_mask_sends (by decide)] at shaken
  obtain ⟨sent,ran,same⟩ := shaken
  have start := greeted_view (fun _ _ => 0) (fun _ => 0) newcomer
  have nothing : view newcomer.cntlq = unset := rfl
  rw [nothing] at start
  obtain ⟨again,told,shown⟩ := @send_masks_calm _ (greeted (fun _ _ => 0) (fun _ => 0) newcomer) (fun _ _ => 0)
    (show (6 : Int) ≠ -1 by decide) status (.inl (by rw [start]))
  cases told.symm.trans ran
  rw [← same,shown,start] at known
  rcases known with ⟨id,log⟩ | event
  · cases log
  · cases event

theorem update_event_mask_valid {junk : Nat → UInt8} {masks after : MaskTables} {num_bits : UInt16} {mask : Nat → UInt8}
    (bits : masks.event_max_num_bits ≠ 0) (set : diag_cmd_update_event_mask junk masks num_bits mask = .ok after) :
    after.event_mask.status = DIAG_CTRL_MASK_VALID ∧ after.msg_mask = masks.msg_mask ∧ after.event_max_num_bits ≠ 0 := by
  unfold diag_cmd_update_event_mask at set
  dsimp only at set
  split_ifs at set with grows
  · obtain ⟨ptr,_,same⟩ := bind_eq_ok.mp set
    cases same
    refine ⟨rfl,rfl,?_⟩
    rintro rfl
    exact absurd grows (UInt16.not_lt.mpr (UInt16.le_iff_toNat_le.mpr (Nat.zero_le _)))
  · obtain ⟨ptr,_,same⟩ := bind_eq_ok.mp set
    cases same
    exact ⟨rfl,rfl,bits⟩

/-- A broadcast of log masks that tells something. -/
theorem Calm.log_told (calm : Calm i router) {equip_id : UInt32}
    (msg : after.masks.msg_mask.status = router.masks.msg_mask.status)
    (status : after.masks.log_mask.status = DIAG_CTRL_MASK_ALL_DISABLED ∨ after.masks.log_mask.status = DIAG_CTRL_MASK_VALID)
    (told : peripheral_broadcast_log_mask after.masks equip_id router.peripherals = .ok after.peripherals) :
    ¬ CatchesUp i after := by
  obtain ⟨A,present,channel,_⟩ := calm.told
  obtain ⟨A',found,sent⟩ := broadcast_log_at told present
  exact not_caught_up found (by rw [msg]; exact calm.msg_status) (.inl (send_log_mask_known channel status sent))

theorem Calm.event_told (calm : Calm i router) (msg : after.masks.msg_mask.status = router.masks.msg_mask.status)
    (bits : after.masks.event_max_num_bits ≠ 0)
    (status : after.masks.event_mask.status = DIAG_CTRL_MASK_ALL_DISABLED ∨
      after.masks.event_mask.status = DIAG_CTRL_MASK_ALL_ENABLED ∨ after.masks.event_mask.status = DIAG_CTRL_MASK_VALID)
    (told : peripheral_broadcast_event_mask after.masks router.peripherals = .ok after.peripherals) : ¬ CatchesUp i after := by
  obtain ⟨A,present,channel,_⟩ := calm.told
  obtain ⟨A',found,sent⟩ := broadcast_event_at told present
  exact not_caught_up found (by rw [msg]; exact calm.msg_status) (.inr (send_event_mask_known channel bits status sent))

theorem set_log_mask_known {junk : Nat → UInt8} {masks after : MaskTables} {equip_id : UInt8} {num_items : Nat}
    {mask : Nat → UInt8} {found : Option (Nat × Nat)} (log : LogBuilt masks.log_mask.ptr)
    (known : equip_id.toNat < MAX_EQUIP_ID)
    (set : diag_cmd_set_log_mask junk masks equip_id num_items mask = .ok (found,after)) :
    after.log_mask.status = DIAG_CTRL_MASK_VALID ∧ after.msg_mask = masks.msg_mask := by
  rcases set_log_mask_cases junk equip_id num_items mask (fun log_item member => (log.sized log_item member).room) with
    ⟨missing,_⟩ | ⟨_,_,_,_,_,_,_,_,stored⟩
  · have member : equip_id ∈ masks.log_mask.ptr.map DiagLogMask.equip_id := by
      rw [log.ids]
      exact List.mem_map.mpr ⟨equip_id.toNat,List.mem_range.mpr known,UInt8.ofNat_toNat⟩
    obtain ⟨log_item,present,same⟩ := List.mem_map.mp member
    exact absurd same (missing log_item present)
  · cases stored.symm.trans set
    exact ⟨rfl,rfl⟩

end

/-! ## Which ranges the packets show -/

section
variable {table : List DiagMsgMask}

/-- A packet shows the bounds of the entry that reports the SSID it is asked
    for, or what it is asked for when there is none. -/
theorem shown_cases (table : List DiagMsgMask) (asked : DiagSsidRange) :
    (∃ msg_item ∈ table, reports asked.ssid_first.toNat msg_item ∧ shown table asked = bounds msg_item) ∨
      (table.find? (reports asked.ssid_first.toNat) = none ∧ shown table asked = asked) := by
  cases found : table.find? (reports asked.ssid_first.toNat) with
  | none => exact .inr ⟨rfl,by simp only [shown,found]; rfl⟩
  | some msg_item =>
    exact .inl ⟨msg_item,List.mem_of_find?_eq_some found,List.find?_some found,by simp only [shown,found]; rfl⟩

theorem contains_bounds (built : Built table) {msg_item : DiagMsgMask} (member : msg_item ∈ table) (ssid : UInt16) :
    Contains (bounds msg_item) ssid ↔ msg_item.ssid_first ≤ ssid.toNat ∧ ssid.toNat ≤ msg_item.ssid_last := by
  rw [Contains,bounds_first built member,bounds_last built member]

theorem layout_row (built : Built table) {msg_item : DiagMsgMask} (member : msg_item ∈ table) :
    (msg_item.ssid_first,msg_item.ssid_last,msg_item.range) ∈ layout diag_create_msg_mask_table := by
  rw [← built.same]
  exact List.mem_map.mpr ⟨msg_item,member,rfl⟩

/-- The first entry reports SSID 0. -/
theorem zero_reported (built : Built table) : table.find? (reports 0) ≠ none := by
  intro missing
  have row : (0,120,MAX_SSID_PER_RANGE) ∈ layout table := by
    rw [built.same]
    decide
  obtain ⟨msg_item,member,same⟩ := List.mem_map.mp row
  have first := congrArg Prod.fst same
  have reported := List.find?_eq_none.mp missing msg_item member
  simp only [reports,decide_eq_true_eq] at reported first
  omega

/-- In the handshake one packet shows SSID 0, … -/
theorem shown_zero (built : Built table) : Contains (shown table (range_of (0,120))) 0 := by
  rcases shown_cases table (range_of (0,120)) with ⟨msg_item,member,reported,same⟩ | ⟨missing,_⟩
  · have low := (decide_eq_true_eq.mp reported).1
    rw [same,contains_bounds built member]
    exact ⟨low,Nat.zero_le _⟩
  · exact absurd missing (zero_reported built)

/-- … another the first of the last range, whose entry no other reaches, … -/
theorem shown_last (built : Built table) (near : Near table) : Contains (shown table (range_of (0xC000,0xC063))) 0xC000 := by
  rcases shown_cases table (range_of (0xC000,0xC063)) with ⟨msg_item,member,reported,same⟩ | ⟨_,same⟩
  · obtain ⟨low,high⟩ := decide_eq_true_eq.mp reported
    have rows : ∀ row ∈ layout diag_create_msg_mask_table, 0xC000 < row.1 + 400 → 0xC000 ≤ row.2.1 := by decide
    have close := near msg_item member
    have start : (range_of (0xC000,0xC063)).ssid_first.toNat = 0xC000 := rfl
    rw [same,contains_bounds built member]
    exact ⟨low,rows _ (layout_row built member) (show 0xC000 < msg_item.ssid_first + 400 by omega)⟩
  · rw [same]
    decide

/-- … and none the highest SSID. -/
theorem shown_top (built : Built table) {pair : Nat × Nat} (member : pair ∈ ssid_first_arr.zip ssid_last_arr) :
    ¬ Contains (shown table (range_of pair)) 65535 := by
  have below : ∀ pair ∈ ssid_first_arr.zip ssid_last_arr, ¬ Contains (range_of pair) 65535 := by decide
  rcases shown_cases table (range_of pair) with ⟨msg_item,present,_,same⟩ | ⟨_,same⟩
  · obtain ⟨_,near,_,cap⟩ := layout_mem built present
    simp only [MAX_SSID_PER_RANGE] at cap
    rw [same,contains_bounds built present]
    rintro ⟨_,high⟩
    have top : (65535 : UInt16).toNat = 65535 := rfl
    omega
  · rw [same]
    exact below pair member

/-- One packet shows SSID 0 or the first of the last range, not both. -/
theorem shown_apart (built : Built table) (asked : DiagSsidRange) (zero : Contains (shown table asked) 0) :
    ¬ Contains (shown table asked) 0xC000 := by
  rcases shown_cases table asked with ⟨msg_item,member,_,same⟩ | ⟨missing,same⟩
  · obtain ⟨_,near,_,_⟩ := layout_mem built member
    rw [same,contains_bounds built member] at zero ⊢
    have start : (0 : UInt16).toNat = 0 := rfl
    have last : (0xC000 : UInt16).toNat = 0xC000 := rfl
    omega
  · rw [same] at zero
    have first : asked.ssid_first.toNat = 0 := Nat.le_zero.mp zero.1
    rw [first] at missing
    exact absurd missing (zero_reported built)

end

/-! ## Steps that set message masks -/

/-- Once a SET is in force, one packet and the handshake make different SSIDs
    known. -/
theorem not_caught_up_valid {i : Nat} {router : Router} {A : Peripheral} {asked : DiagSsidRange} {words : List UInt8}
    {cntlq : List (List UInt8)} {status : UInt8} (built : Built router.masks.msg_mask.ptr)
    (near : Near router.masks.msg_mask.ptr) (valid : router.masks.msg_mask.status = DIAG_CTRL_MASK_VALID)
    (present : router.peripherals[i]? = some A) (before : view cntlq = { unset with msg := known_by status })
    (queue : A.cntlq = cntlq ++ [msg_packet (shown router.masks.msg_mask.ptr asked)
      (UInt32.ofNat (num_ssids (shown router.masks.msg_mask.ptr asked))) words]) : ¬ CatchesUp i router := by
  intro late
  have shaken := late A present newcomer (.inl rfl) (by decide) (fun _ _ => 0) (fun _ => 0)
  rw [feature_mask_sends (by decide)] at shaken
  obtain ⟨sent,ran,same⟩ := shaken
  have start : view (greeted (fun _ _ => 0) (fun _ => 0) newcomer).cntlq = unset := greeted_view _ _ _
  obtain ⟨_,_,told⟩ := send_masks_loop_valid (show (6 : Int) ≠ -1 by decide) valid ran
  rw [same,start] at told
  have known : ∀ ssid, ((view A.cntlq).msg ssid).isSome ↔
      (known_by status ssid).isSome ∨ Contains (shown router.masks.msg_mask.ptr asked) ssid := by
    intro ssid
    rw [queue,view_msg_packets _ (List.forall_mem_singleton.mpr (msg_packet_kind _ _ _)),replay_isSome,before]
    simp only [List.map_cons,List.map_nil,List.mem_singleton,exists_eq_left,shown_packet_brings]
  by_cases disabled : status = DIAG_CTRL_MASK_ALL_DISABLED
  · have top := (told 65535).mp ((known 65535).mpr (.inl (by rw [known_by,if_pos disabled]; rfl)))
    rcases top with nothing | ⟨pair,member,inside⟩
    · cases nothing
    · exact shown_top built member inside
  · have zero := (known 0).mp ((told 0).mpr (.inr ⟨(0,120),by decide,shown_zero built⟩))
    have last := (known 0xC000).mp ((told 0xC000).mpr (.inr ⟨(0xC000,0xC063),by decide,shown_last built near⟩))
    simp only [known_by,if_neg disabled,Option.isSome_none,Bool.false_eq_true,false_or] at zero last
    exact shown_apart built asked zero last

section
variable {junk : Junk} {client i : Nat} {buf : Request} {len : Nat} {router after : Router} {message : ClientMessage}

theorem Calm.msg_told (calm : Calm i router) {range : DiagSsidRange} {mask : Nat → UInt32} {left : Option DiagSsidRange}
    (set : diag_cmd_set_msg_mask junk.words router.masks range mask = .ok (0,after.masks))
    (told : peripheral_broadcast_msg_mask junk.pkt after.masks (some range) router.peripherals = .ok (left,after.peripherals)) :
    ¬ CatchesUp i after := by
  obtain ⟨A,present,channel,known⟩ := calm.told
  have near := set_msg_mask_near calm.built calm.near set
  obtain ⟨items,loop,masks⟩ := set_msg_mask_ok_iff.mp set
  rw [if_pos rfl] at masks
  have valid : after.masks.msg_mask.status = DIAG_CTRL_MASK_VALID := by rw [masks]
  have built : Built after.masks.msg_mask.ptr := by
    rw [masks]
    exact set_msg_loop_built calm.built loop
  obtain ⟨bytes,asked,A',passed,found,sent,some⟩ := broadcast_msg_at told present
  obtain ⟨asked,rfl⟩ := Option.ne_none_iff_exists'.mp (some (by simp))
  obtain ⟨words,rfl⟩ := send_msg_mask_valid channel valid sent
  exact not_caught_up_valid built near valid found known rfl

/-- A step that sets a mask. -/
theorem Calm.set_mask (calm : Calm i router) (sets : ¬ Quiet router message) (ran : step router message = .ok after) :
    ¬ CatchesUp i after := by
  rcases not_not.mp sets with asked | ⟨asked,known⟩ | asked | asked | ⟨asked,taken⟩
  · obtain ⟨command,operation,whole⟩ := asked
    obtain ⟨ret,mid,handled,masks,peripherals⟩ := ran_of_dispatch (logging_dispatch message.junk message.client message.len
      router command) ran
    rw [handle_logging_configuration,operation] at handled
    obtain ⟨set,told⟩ := log_disable_ran whole handled
    rw [← masks] at set told
    rw [← peripherals] at told
    obtain ⟨items,_,same⟩ := bind_eq_ok.mp set
    have disabled := (Except.ok.inj same).symm
    exact calm.log_told (by rw [disabled]) (.inl (by rw [disabled])) told
  · obtain ⟨command,operation,whole⟩ := asked
    obtain ⟨ret,mid,handled,masks,peripherals⟩ := ran_of_dispatch (logging_dispatch message.junk message.client message.len
      router command) ran
    rw [handle_logging_configuration,operation] at handled
    obtain ⟨found,equip_id,set,told⟩ := set_log_mask_ran whole handled
    rw [← masks] at set told
    rw [← peripherals] at told
    obtain ⟨valid,same⟩ := set_log_mask_known calm.log known set
    exact calm.log_told (by rw [same]) (.inr valid) told
  · obtain ⟨command,whole⟩ := asked
    obtain ⟨ret,mid,handled,masks,peripherals⟩ := ran_of_dispatch (event_dispatch message.junk message.client message.len
      router command) ran
    obtain ⟨set,told⟩ := event_set_ran whole handled
    rw [← masks] at set told
    rw [← peripherals] at told
    obtain ⟨valid,same,bits⟩ := update_event_mask_valid calm.event_bits set
    exact calm.event_told (by rw [same]) bits (.inr (.inr valid)) told
  · obtain ⟨command,whole⟩ := asked
    obtain ⟨ret,mid,handled,masks,peripherals⟩ := ran_of_dispatch (report_dispatch message.junk message.client message.len
      router command) ran
    obtain ⟨set,told⟩ := report_control_ran whole handled
    rw [← masks] at set told
    rw [← peripherals] at told
    obtain ⟨ptr,_,same⟩ := bind_eq_ok.mp set
    have toggled := (Except.ok.inj same).symm
    refine calm.event_told (by rw [toggled]) (by rw [toggled]; exact calm.event_bits) ?_ told
    rw [toggled]
    dsimp only
    split_ifs
    · exact .inr (.inl rfl)
    · exact .inl rfl
  · obtain ⟨command,operation,whole⟩ := asked
    obtain ⟨ret,mid,handled,masks,peripherals⟩ := ran_of_dispatch (message_dispatch message.junk message.client message.len
      router command) ran
    rw [handle_extended_message_configuration,operation] at handled
    obtain ⟨code,set,accepted,_⟩ := set_msg_mask_ran whole handled
    obtain rfl := (set_msg_mask_accepted calm.built set).mpr taken
    obtain ⟨left,told⟩ := accepted rfl
    rw [← masks] at set told
    rw [← peripherals] at told
    exact calm.msg_told set told

end

/-! ## Runs -/

theorem near_init : Near diag_create_msg_mask_table := by
  unfold Near
  decide

theorem calm_start {i : Nat} {router : Router} {A : Peripheral} (start : router.masks = diag_masks_init)
    (present : router.peripherals[i]? = some A) (channel : A.cntl_fd ≠ -1) (untold : view A.cntlq = unset) :
    Calm i router := by
  refine ⟨?_,?_,?_,?_,?_,?_,A,present,channel,?_⟩
  · rw [start]
    exact built_init
  · rw [start]
    exact near_init
  · rw [start]
    exact logBuilt_init
  · rw [start]
    rfl
  · rw [start]
    decide
  · rw [start]
    exact .inl rfl
  · rw [start,untold]
    rfl

/-- Along every run of client messages from the tables as built, with a
    peripheral connected from the start, one that joins at any time knows what it
    knows exactly when no message has set a mask. -/
theorem catches_up_iff {i : Nat} {router after : Router} {messages : List ClientMessage} {A : Peripheral}
    (start : router.masks = diag_masks_init) (present : router.peripherals[i]? = some A) (channel : A.cntl_fd ≠ -1)
    (untold : view A.cntlq = unset) (ran : exec step router messages = .ok after) :
    Along step (CatchesUp i) router messages ↔ Meets step Quiet router messages :=
  along_iff_meets_of_invariant (Calm i) Calm.catches_up Calm.quiet_step Calm.set_mask ran
    (calm_start start present channel untold)

/-- A router with one peripheral. -/
def one_modem : Router := ⟨diag_masks_init,[],[],[modem],[]⟩

def message (bytes : List UInt8) : ClientMessage where
  junk := ⟨fun _ => 0,fun _ => 0,fun _ => 0,fun _ _ => 0⟩
  client := 0
  buf := place bytes (fun _ => 0)
  len := bytes.length

/-- A GET of a log mask is broadcast, and tells nothing. -/
theorem catches_up_get_log : Along step (CatchesUp 0) one_modem [message [0x73,0,0,0,4,0,0,0,1,0,0,0]] := by
  have ran : (fun _ => ()) <$> exec step one_modem [message [0x73,0,0,0,4,0,0,0,1,0,0,0]] = .ok () := by decide +kernel
  obtain ⟨after,run,_⟩ := map_eq_ok.mp ran
  refine (@catches_up_iff 0 one_modem after _ modem rfl rfl (by decide) rfl run).mpr ⟨?_,fun _ _ => trivial⟩
  rintro (asked | ⟨asked,_⟩ | asked | asked | ⟨asked,_⟩)
  · exact absurd asked.2.1 (by decide)
  · exact absurd asked.2.1 (by decide)
  · exact absurd asked.1 (by decide)
  · exact absurd asked.1 (by decide)
  · exact absurd asked.1 (by decide)

/-- Events that are switched on are not told to a peripheral that joins later, and
    a SET of SSID 7 lets it know SSIDs that the first has not been told of. -/
theorem set_mask_not_caught_up :
    (∃ after, exec step one_modem [message [0x60,1]] = .ok after ∧ ¬ CatchesUp 0 after) ∧
      ∃ after, exec step one_modem [message [0x7d,4,7,0,7,0,0,0,9,0,0,0]] = .ok after ∧ ¬ CatchesUp 0 after := by
  have calm : Calm 0 one_modem := calm_start rfl rfl (show (5 : Int) ≠ -1 by decide) rfl
  have events : (fun _ => ()) <$> step one_modem (message [0x60,1]) = .ok () := by decide +kernel
  have words : (fun _ => ()) <$> step one_modem (message [0x7d,4,7,0,7,0,0,0,9,0,0,0]) = .ok () := by decide +kernel
  constructor
  · obtain ⟨after,ran,_⟩ := map_eq_ok.mp events
    refine ⟨after,by rw [exec_cons,ran]; rfl,calm.set_mask ?_ ran⟩
    exact not_not.mpr (.inr (.inr (.inr (.inl ⟨rfl,rfl⟩))))
  · obtain ⟨after,ran,_⟩ := map_eq_ok.mp words
    refine ⟨after,by rw [exec_cons,ran]; rfl,calm.set_mask ?_ ran⟩
    have entry : selected (range_at (message [0x7d,4,7,0,7,0,0,0,9,0,0,0]).buf 2) diag_masks_init.msg_mask.ptr =
        some (diag_create_msg_mask_table_entry 0 120) := by decide +kernel
    have taken : ¬ Refused (range_at (message [0x7d,4,7,0,7,0,0,0,9,0,0,0]).buf 2) (diag_create_msg_mask_table_entry 0 120) := by
      rw [Refused,if_neg (by decide),if_neg (by decide)]
      decide
    exact not_not.mpr (.inr (.inr (.inr (.inr ⟨⟨rfl,rfl,by decide⟩,_,entry,taken⟩))))

end DiagRouter.LateJoiner

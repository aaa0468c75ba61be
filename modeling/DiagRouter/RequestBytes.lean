import DiagRouter.Handlers
import DiagRouter.LogMaskTable
import DiagRouter.MsgMaskTable

/-!
# What a request is judged by

A handler is given the whole memory from the first byte of a request on. The
requests that are judged by their own bytes are those for which no byte after
the end makes a difference: the key is inside, the operation is inside or
already excluded, and no size computed from the request wraps.
-/
namespace DiagRouter.RequestBytes
open DiagRouter.Lib.Memory DiagRouter.Lib.Words DiagRouter.Masks DiagRouter.MsgMaskTable DiagRouter.LogMaskTable
open DiagRouter.Dispatch DiagRouter.Handlers DiagRouter.Peripherals
open DiagRouter.Clients (DiagClient EncodeType)

/-- The equipment ids of the log table. -/
def log_ids (router : Router) : List UInt8 := router.masks.log_mask.ptr.map DiagLogMask.equip_id

/-- The memories hold the same request. -/
def Agree (len : Nat) (buf other : Request) : Prop := ∀ i, i < len → other i = buf i

/-- Whatever follows the request in memory, every router with these equipment
    ids treats it the same way; and there is one that it does not take out of
    its buffers. -/
def Judged (ids : List UInt8) (len : Nat) (buf : Request) : Prop :=
  (∀ other, Agree len buf other → ∀ (junk : Junk) (client : Nat) (router : Router), log_ids router = ids →
    diag_client_handle_command junk client other len router = diag_client_handle_command junk client buf len router) ∧
  ∃ (junk : Junk) (client : Nat) (router : Router), log_ids router = ids ∧
    ∃ after, diag_client_handle_command junk client buf len router = .ok after

/-- The bytes of the request, and zeros after its end. -/
def zeroed (len : Nat) (buf : Request) : Request := fun i => if i < len then buf i else 0

/-- The operations of a logging configuration request. -/
def LogOperation (operation : UInt32) : Prop := operation = 0 ∨ operation = 1 ∨ operation = 3 ∨ operation = 4

instance (operation : UInt32) : Decidable (LogOperation operation) := inferInstanceAs (Decidable (_ ∨ _ ∨ _ ∨ _))

/-- `subsys`: a subsystem message has all the bytes of its key. `operation`: the
    operation of a logging request is whole, or what there is of it is not the
    beginning of a known one. `items`: the item count of a SET of log masks does
    not wrap, or its equipment id is unknown. `message`: the operation of a
    message mask request is there. -/
structure OwnBytes (ids : List UInt8) (len : Nat) (buf : Request) : Prop where
  subsys : (buf 0).toNat = 75 ∨ (buf 0).toNat = 128 → 4 ≤ len
  operation : buf 0 = 0x73 → len < 8 → ¬ LogOperation (le32At (zeroed len buf) 4)
  items : buf 0 = 0x73 → le32At buf 4 = 3 → len = 16 → 4294967296 ≤ (le32At buf 12).toNat + 7 →
    (le32At buf 8).toUInt8 ∉ ids
  message : buf 0 = 0x7d → 2 ≤ len

/-! ## Reads inside the request -/

section
variable {len : Nat} {buf other : Request}

theorem Agree.span (agree : Agree len buf other) {offset count : Nat} (inside : offset + count ≤ len) :
    span other offset count = span buf offset count :=
  span_congr (fun i _ below => agree i (by omega))

theorem Agree.le16At (agree : Agree len buf other) {i : Nat} (inside : i + 2 ≤ len) : le16At other i = le16At buf i :=
  le16At_congr (agree i (by omega)) (agree (i + 1) (by omega))

theorem Agree.le32At (agree : Agree len buf other) {i : Nat} (inside : i + 4 ≤ len) : le32At other i = le32At buf i :=
  le32At_congr (fun k _ => agree (i + k) (by omega))

theorem Agree.range_at (agree : Agree len buf other) {i : Nat} (inside : i + 4 ≤ len) : range_at other i = range_at buf i := by
  rw [Handlers.range_at,Handlers.range_at,agree.le16At (by omega),agree.le16At (by omega)]

/-! ## Logging configuration -/

theorem log_disable_congr (agree : Agree len buf other) (client : Nat) (router : Router) :
    log_disable client other len router = log_disable client buf len router := by
  by_cases whole : len = 8
  · simp only [log_disable,agree.span (show 0 + 8 ≤ len by omega)]
  · simp only [log_disable,ne_eq,whole,not_false_eq_true,if_true]

theorem get_log_range_congr (agree : Agree len buf other) (client : Nat) (router : Router) :
    get_log_range client other len router = get_log_range client buf len router := by
  by_cases whole : len = 8
  · simp only [get_log_range,agree.span (show 0 + 8 ≤ len by omega)]
  · simp only [get_log_range,ne_eq,whole,not_false_eq_true,if_true]

theorem get_log_mask_congr (agree : Agree len buf other) (client : Nat) (router : Router) :
    get_log_mask client other len router = get_log_mask client buf len router := by
  by_cases whole : len = 12
  · simp only [get_log_mask,agree.span (show 0 + 8 ≤ len by omega),agree.le32At (show 8 + 4 ≤ len by omega)]
  · simp only [get_log_mask,ne_eq,whole,not_false_eq_true,if_true]

/-- The part of the request that goes into the response. -/
theorem mask_to_set_congr (agree : Agree len buf other) (num_items : Nat) {count : Nat} (header : 16 ≤ len)
    (inside : 8 + count ≤ len) : span (mask_to_set other num_items) 0 count = span (mask_to_set buf num_items) 0 count := by
  apply span_congr
  intro i _ below
  simp only [mask_to_set,place,agree.span (show 8 + 4 ≤ len by omega),agree (8 + i) (by omega)]

/-- A known id whose item count wraps is excluded: the sizes agree with a
    request that is too short for the bytes SET stores. -/
theorem set_log_mask_congr (agree : Agree len buf other) (junk : Junk) (client : Nat) (router : Router)
    (items : len = 16 → 4294967296 ≤ (le32At buf 12).toNat + 7 → (le32At buf 8).toUInt8 ∉ log_ids router) :
    set_log_mask junk client other len router = set_log_mask junk client buf len router := by
  by_cases header : 16 ≤ len
  · have num_items := agree.le32At (show 12 + 4 ≤ len from header)
    have equip_id := agree.le32At (show 8 + 4 ≤ len by omega)
    by_cases whole : len = 8 + (8 + BITS_TO_BYTES32 (le32At buf 12).toNat)
    · have known : (∃ log_item ∈ router.masks.log_mask.ptr, log_item.equip_id = (le32At buf 8).toUInt8) →
          kept_bytes (le32At buf 12).toNat ≤ len - 16 := by
        rintro ⟨log_item,member,same⟩
        by_cases wraps : 4294967296 ≤ (le32At buf 12).toNat + 7
        · have bound := (le32At buf 12).toNat_lt
          have short : len = 16 := by
            unfold BITS_TO_BYTES32 at whole
            omega
          exact absurd (List.mem_map.mpr ⟨log_item,member,same⟩) (items short wraps)
        · have kept := kept_bytes_le_of_lt (Nat.lt_of_not_le wraps)
          omega
      have set : diag_cmd_set_log_mask junk.bytes router.masks (le32At buf 8).toUInt8 (le32At buf 12).toNat
            (fun i => other (16 + i)) =
          diag_cmd_set_log_mask junk.bytes router.masks (le32At buf 8).toUInt8 (le32At buf 12).toNat
            (fun i => buf (16 + i)) := by
        rw [diag_cmd_set_log_mask,diag_cmd_set_log_mask,set_log_loop_congr junk.bytes _ router.masks.log_mask.ptr]
        intro found i below
        exact agree (16 + i) (by have enough := known found; omega)
      simp only [set_log_mask,num_items,equip_id,set,agree.span (show 0 + 8 ≤ len by omega)]
      cases result : diag_cmd_set_log_mask junk.bytes router.masks (le32At buf 8).toUInt8 (le32At buf 12).toNat
          (fun i => buf (16 + i)) with
      | error fault => rfl
      | ok set =>
        obtain ⟨found,masks⟩ := set
        rcases set_log_mask_returns result with ⟨rfl,_⟩ | ⟨rfl,member⟩
        · simp only [ok_bind,Option.getD_none,
            mask_to_set_congr agree (le32At buf 12).toNat header
              (show 8 + (8 + BITS_TO_BYTES32 (le32At buf 12).toNat) ≤ len by omega)]
        · have enough := known member
          simp only [ok_bind,Option.getD_some,
            mask_to_set_congr agree (kept_items (le32At buf 12).toNat) header
              (show 8 + kept_bytes (le32At buf 12).toNat ≤ len by omega)]
    · simp only [set_log_mask,num_items,ne_eq,whole,not_false_eq_true,if_true]
  · have short : ∀ size, len ≠ 8 + (8 + size) := by omega
    simp only [set_log_mask,ne_eq,short,not_false_eq_true,if_true]

theorem zeroed_congr (agree : Agree len buf other) : zeroed len other = zeroed len buf := by
  funext i
  unfold zeroed
  split_ifs with inside
  · exact agree i inside
  · rfl

theorem logOperation_iff (operation : UInt32) :
    LogOperation operation ↔
      operation.toNat = 0 ∨ operation.toNat = 1 ∨ operation.toNat = 3 ∨ operation.toNat = 4 := by
  simp only [LogOperation,← UInt32.toNat_inj]
  rfl

/-- The beginning of a known operation, with zeros after it, is a known operation. -/
theorem logOperation_zeroed {i : Nat} (operation : LogOperation (le32At buf i)) :
    LogOperation (le32At (zeroed len buf) i) := by
  rw [logOperation_iff,le32At_toNat] at operation ⊢
  have first := (buf i).toNat_lt
  have zero : (0 : UInt8).toNat = 0 := rfl
  unfold zeroed
  split_ifs <;> omega

theorem unknown_operation (junk : Junk) (client : Nat) (router : Router) (unknown : ¬ LogOperation (le32At buf 4)) :
    handle_logging_configuration junk client buf len router = .ok (-EINVAL,router) := by
  rw [logOperation_iff] at unknown
  rw [handle_logging_configuration]
  split
  all_goals first | omega | rfl

theorem handle_logging_configuration_congr (agree : Agree len buf other) (junk : Junk) (client : Nat) (router : Router)
    (operation : len < 8 → ¬ LogOperation (le32At (zeroed len buf) 4))
    (items : le32At buf 4 = 3 → len = 16 → 4294967296 ≤ (le32At buf 12).toNat + 7 →
      (le32At buf 8).toUInt8 ∉ log_ids router) :
    handle_logging_configuration junk client other len router = handle_logging_configuration junk client buf len router := by
  by_cases whole : len < 8
  · have unknown := operation whole
    rw [unknown_operation junk client router (fun known => unknown (logOperation_zeroed known)),
      unknown_operation junk client router
        (fun known => unknown (zeroed_congr agree ▸ logOperation_zeroed known))]
  · rw [handle_logging_configuration,handle_logging_configuration,agree.le32At (show 4 + 4 ≤ len by omega)]
    split
    · exact log_disable_congr agree client router
    · exact get_log_range_congr agree client router
    · next set => exact set_log_mask_congr agree junk client router (items (UInt32.toNat_inj.mp set))
    · exact get_log_mask_congr agree client router
    · rfl

/-! ## Extended message configuration -/

theorem get_ssid_range_congr (agree : Agree len buf other) (junk : Junk) (client : Nat) (router : Router) :
    get_ssid_range junk client other len router = get_ssid_range junk client buf len router := by
  by_cases whole : len = 2
  · simp only [get_ssid_range,agree.span (show 0 + 2 ≤ len by omega)]
  · simp only [get_ssid_range,ne_eq,whole,not_false_eq_true,if_true]

theorem get_build_mask_congr (agree : Agree len buf other) (client : Nat) (router : Router) :
    get_build_mask client other len router = get_build_mask client buf len router := by
  by_cases whole : len = 6
  · simp only [get_build_mask,agree.range_at (show 2 + 4 ≤ len by omega)]
  · simp only [get_build_mask,ne_eq,whole,not_false_eq_true,if_true]

theorem get_msg_mask_congr (agree : Agree len buf other) (client : Nat) (router : Router) :
    get_msg_mask client other len router = get_msg_mask client buf len router := by
  by_cases whole : len = 6
  · simp only [get_msg_mask,agree.range_at (show 2 + 4 ≤ len by omega),agree.span (show 0 + 2 ≤ len by omega)]
  · simp only [get_msg_mask,ne_eq,whole,not_false_eq_true,if_true]

theorem set_all_msg_mask_congr (agree : Agree len buf other) (junk : Junk) (client : Nat) (router : Router) :
    set_all_msg_mask junk client other len router = set_all_msg_mask junk client buf len router := by
  by_cases whole : len = 7
  · simp only [set_all_msg_mask,agree.le32At (show 3 + 4 ≤ len by omega),agree.span (show 0 + 2 ≤ len by omega),
      agree 2 (by omega)]
  · simp only [set_all_msg_mask,ne_eq,whole,not_false_eq_true,if_true]

/-- SET stores no more words than the size of the range counts, even when the
    range ends before it begins and the size wraps. -/
theorem stored_le_size (range : DiagSsidRange) : 4 * stored range ≤ MSG_RANGE_TO_SIZE range := by
  have first := range.ssid_first.toNat_lt
  have last := range.ssid_last.toNat_lt
  by_cases ordered : range.ssid_first.toNat ≤ range.ssid_last.toNat + 1
  · have count := num_ssids_of_le ordered
    unfold stored MSG_RANGE_TO_SIZE u32
    omega
  · have capacity : MAX_SSID_PER_RANGE = 200 := rfl
    unfold stored MSG_RANGE_TO_SIZE u32
    omega

theorem set_msg_item_congr (junk : Nat → UInt32) {range : DiagSsidRange} {mask mask' : Nat → UInt32}
    (same : ∀ i, i < stored range → mask i = mask' i) (msg_item : DiagMsgMask) :
    set_msg_item junk range mask msg_item = set_msg_item junk range mask' msg_item := by
  have words : span mask 0 (stored range) = span mask' 0 (stored range) :=
    span_congr (fun i _ inside => same i (by omega))
  rw [set_msg_item_eq,set_msg_item_eq,words]

theorem diag_cmd_set_msg_mask_congr (junk : Nat → UInt32) (masks : MaskTables) {range : DiagSsidRange}
    {mask mask' : Nat → UInt32} (same : ∀ i, i < stored range → mask i = mask' i) :
    diag_cmd_set_msg_mask junk masks range mask = diag_cmd_set_msg_mask junk masks range mask' := by
  have loop : set_msg_loop junk range mask masks.msg_mask.ptr = set_msg_loop junk range mask' masks.msg_mask.ptr := by
    induction masks.msg_mask.ptr with
    | nil => rfl
    | cons msg_item rest ih => rw [set_msg_loop,set_msg_loop,ih,set_msg_item_congr junk same]
  rw [diag_cmd_set_msg_mask,diag_cmd_set_msg_mask,loop]

theorem set_msg_mask_congr (agree : Agree len buf other) (junk : Junk) (client : Nat) (router : Router) :
    set_msg_mask junk client other len router = set_msg_mask junk client buf len router := by
  by_cases header : 8 ≤ len
  · have range := agree.range_at (show 2 + 4 ≤ len by omega)
    by_cases whole : len = 8 + MSG_RANGE_TO_SIZE (range_at buf 2)
    · have words := stored_le_size (range_at buf 2)
      have set := @diag_cmd_set_msg_mask_congr junk.words router.masks (range_at buf 2)
        (fun i => le32At other (8 + 4 * i)) (fun i => le32At buf (8 + 4 * i)) (fun i below => agree.le32At (by omega))
      simp only [set_msg_mask,range,set,agree.span (show 0 + 2 ≤ len by omega),agree 6 (by omega),
        agree.span (show 8 + MSG_RANGE_TO_SIZE (range_at buf 2) ≤ len by omega)]
    · simp only [set_msg_mask,range,ne_eq,whole,not_false_eq_true,if_true]
  · have short : ∀ size, len ≠ 8 + size := by omega
    simp only [set_msg_mask,ne_eq,short,not_false_eq_true,if_true]

theorem handle_extended_message_configuration_congr (agree : Agree len buf other) (junk : Junk) (client : Nat)
    (router : Router) (message : 2 ≤ len) :
    handle_extended_message_configuration junk client other len router =
      handle_extended_message_configuration junk client buf len router := by
  simp only [handle_extended_message_configuration,agree 1 (by omega),get_ssid_range_congr agree,
    get_build_mask_congr agree,get_msg_mask_congr agree,set_msg_mask_congr agree,set_all_msg_mask_congr agree]

/-! ## Events and fallback commands -/

theorem handle_event_get_mask_congr (agree : Agree len buf other) (client : Nat) (router : Router) :
    handle_event_get_mask client other len router = handle_event_get_mask client buf len router := by
  by_cases whole : len = 4
  · simp only [handle_event_get_mask,agree 0 (by omega),agree.span (show 2 + 2 ≤ len by omega)]
  · simp only [handle_event_get_mask,ne_eq,whole,not_false_eq_true,if_true]

theorem handle_event_set_mask_congr (agree : Agree len buf other) (junk : Junk) (client : Nat) (router : Router) :
    handle_event_set_mask junk client other len router = handle_event_set_mask junk client buf len router := by
  by_cases header : 6 ≤ len
  · have num_bits := agree.le16At (show 4 + 2 ≤ len by omega)
    by_cases whole : len = 6 + BITS_TO_BYTES (le16At buf 4).toNat
    · have bytes : span (fun i => other (6 + i)) 0 (BITS_TO_BYTES (le16At buf 4).toNat) =
          span (fun i => buf (6 + i)) 0 (BITS_TO_BYTES (le16At buf 4).toNat) :=
        span_congr (fun i _ below => agree (6 + i) (by omega))
      simp only [handle_event_set_mask,num_bits,diag_cmd_update_event_mask,bytes,agree 0 (by omega),
        agree.span (show 2 + 2 ≤ len by omega),
        agree.span (show 6 + BITS_TO_BYTES (le16At buf 4).toNat ≤ len by omega)]
    · simp only [handle_event_set_mask,num_bits,ne_eq,whole,not_false_eq_true,if_true]
  · have short : ∀ size, len ≠ 6 + size := by omega
    simp only [handle_event_set_mask,ne_eq,short,not_false_eq_true,if_true]

theorem handle_event_report_control_congr (agree : Agree len buf other) (client : Nat) (router : Router) :
    handle_event_report_control client other len router = handle_event_report_control client buf len router := by
  by_cases whole : len = 2
  · simp only [handle_event_report_control,agree 1 (by omega)]
  · simp only [handle_event_report_control,ne_eq,whole,not_false_eq_true,if_true]

theorem handle_diag_id_congr (agree : Agree len buf other) (client : Nat) (router : Router) :
    handle_diag_id client other len router = handle_diag_id client buf len router := by
  by_cases short : len < 5
  · simp only [handle_diag_id,short,if_true]
  · simp only [handle_diag_id,agree.span (show 0 + 5 ≤ len by omega)]

theorem handle_hdlc_disable_cmd_congr (agree : Agree len buf other) (client : Nat) (router : Router) :
    handle_hdlc_disable_cmd client other len router = handle_hdlc_disable_cmd client buf len router := by
  by_cases short : len < 4
  · simp only [handle_hdlc_disable_cmd,short,if_true]
  · simp only [handle_hdlc_disable_cmd,agree.span (show 0 + 4 ≤ len by omega)]

/-! ## Dispatch -/

theorem run_handler_congr (agree : Agree len buf other) (junk : Junk) (client : Nat) (router : Router) (handler : Handler)
    (logging : handler = .handle_logging_configuration →
      (len < 8 → ¬ LogOperation (le32At (zeroed len buf) 4)) ∧
      (le32At buf 4 = 3 → len = 16 → 4294967296 ≤ (le32At buf 12).toNat + 7 → (le32At buf 8).toUInt8 ∉ log_ids router))
    (message : handler = .handle_extended_message_configuration → 2 ≤ len) :
    run_handler junk client other len handler router = run_handler junk client buf len handler router := by
  cases handler with
  | handle_logging_configuration =>
    exact handle_logging_configuration_congr agree junk client router (logging rfl).1 (logging rfl).2
  | handle_extended_message_configuration =>
    exact handle_extended_message_configuration_congr agree junk client router (message rfl)
  | handle_event_get_mask => exact handle_event_get_mask_congr agree client router
  | handle_event_set_mask => exact handle_event_set_mask_congr agree junk client router
  | handle_event_report_control => exact handle_event_report_control_congr agree client router
  | handle_diag_version => rfl
  | handle_diag_version_no => rfl
  | handle_extended_build_id => rfl
  | handle_keep_alive => rfl
  | handle_diag_id => exact handle_diag_id_congr agree client router
  | handle_hdlc_disable_cmd => exact handle_hdlc_disable_cmd_congr agree client router

theorem message_key_congr (agree : Agree len buf other) (start : 1 ≤ len)
    (subsys : (buf 0).toNat = 75 ∨ (buf 0).toNat = 128 → 4 ≤ len) : message_key other = message_key buf := by
  rw [message_key,message_key,agree 0 (by omega)]
  split_ifs with dispatched
  · have whole := subsys dispatched
    rw [agree 1 (by omega),agree 2 (by omega),agree 3 (by omega)]
  · rfl

theorem send_loop_congr {σ : Type} {calls calls' : Calls σ} (same : calls.peripheral_send = calls'.peripheral_send)
    (k : UInt32) (diag_cmds : List (DiagCmd Nat)) (handled : Nat) (s : σ) :
    send_loop calls k diag_cmds handled s = send_loop calls' k diag_cmds handled s := by
  rw [send_loop_eq,send_loop_eq,same]

theorem handle_command_congr (agree : Agree len buf other) (start : 1 ≤ len) (junk : Junk) (client : Nat)
    {router : Router} (own : OwnBytes (log_ids router) len buf) :
    diag_client_handle_command junk client other len router = diag_client_handle_command junk client buf len router := by
  have sent : (router_calls junk client other len).peripheral_send = (router_calls junk client buf len).peripheral_send := by
    simp only [router_calls,agree.span (show 0 + len ≤ len by omega)]
  have dispatched : diag_cmd_dispatch (router_calls junk client other len) router.diag_cmds other router =
      diag_cmd_dispatch (router_calls junk client buf len) router.diag_cmds buf router := by
    have key := message_key_congr agree start own.subsys
    cases common : common_cmds.find? (covers (message_key buf)) with
    | some dc =>
      obtain ⟨logging,message⟩ := common_command common
      rw [dispatch_common _ _ _ common,dispatch_common _ _ _ (key ▸ common)]
      exact run_handler_congr agree junk client router dc.target
        (fun target => ⟨own.operation (logging target),own.items (logging target)⟩)
        (fun target => own.message (message target))
    | none =>
      rw [dispatch_other _ _ _ common,dispatch_other _ _ _ (key ▸ common),key,send_loop_congr sent]
      cases send_loop (router_calls junk client buf len) (message_key buf) router.diag_cmds 0 router with
      | error fault => rfl
      | ok result =>
        obtain ⟨handled,after⟩ := result
        simp only [ok_bind]
        cases fallback : fallback_cmds.find? (covers (message_key buf)) with
        | none => rfl
        | some dc =>
          obtain ⟨logging,message,_⟩ := fallback_command dc (List.mem_of_find?_eq_some fallback)
          have ran := run_handler_congr agree junk client after dc.target (fun target => absurd target logging)
            (fun target => absurd target message)
          simp only [router_calls,ran]
  simp only [diag_client_handle_command,dispatched,diag_rsp_bad_command,agree.span (show 0 + len ≤ len by omega)]

end

/-! ## A router that serves every request -/

/-- Tables without words, one enabled client and nobody to send to. -/
def plain (ids : List UInt8) : Router :=
  { masks :=
      { msg_mask := ⟨[],0,DIAG_CTRL_MASK_INVALID⟩
        msg_bt_mask := ⟨[],0,DIAG_CTRL_MASK_INVALID⟩
        log_mask := ⟨ids.map (fun equip_id => ⟨equip_id,0,0,0,0,[]⟩),0,DIAG_CTRL_MASK_INVALID⟩
        event_mask := ⟨[],0,DIAG_CTRL_MASK_INVALID⟩
        event_max_num_bits := 0 }
    diag_cmds := []
    diag_ids := []
    peripherals := []
    diag_clients := [⟨.RAW,true,[]⟩] }

def noJunk : Junk := ⟨fun _ => 0,fun _ => 0,fun _ => 0,fun _ _ => 0⟩

@[simp] theorem plain_peripherals (ids : List UInt8) : (plain ids).peripherals = [] := rfl

theorem log_ids_plain (ids : List UInt8) : log_ids (plain ids) = ids := by
  rw [log_ids,plain,List.map_map]
  exact List.map_id ids

/-- A computation that stays inside its buffers. -/
def Ends {α : Type} (x : Except Fault α) : Prop := ∃ a, x = .ok a

theorem Ends.bind {α β : Type} {x : Except Fault α} {f : α → Except Fault β} (first : Ends x)
    (rest : ∀ a, x = .ok a → Ends (f a)) : Ends (x >>= f) := by
  obtain ⟨a,rfl⟩ := first
  exact rest a rfl

theorem Ends.store {α : Type} {block cells : List α} {offset : Nat} (inside : offset + cells.length ≤ block.length) :
    Ends (store block offset cells) :=
  ⟨_,store_ok_iff.mpr ⟨inside,rfl⟩⟩

theorem Ends.ok {α : Type} (a : α) : Ends (.ok a : Except Fault α) := ⟨a,rfl⟩

theorem log_disable_ends (ids : List UInt8) (buf : Request) (len : Nat) : Ends (log_disable 0 buf len (plain ids)) := by
  have cleared : disable_log_items (plain ids).masks.log_mask.ptr = .ok (plain ids).masks.log_mask.ptr := by
    simp only [plain]
    induction ids with
    | nil => rfl
    | cons equip_id ids ih =>
      simp only [List.map_cons,disable_log_items,fill,store,ih]
      rfl
  unfold log_disable
  split_ifs
  · exact .ok _
  · simp only [diag_cmd_disable_log,cleared,plain_peripherals,peripheral_broadcast_log_mask,ok_bind,pure_ok]
    exact .ok _

theorem get_log_mask_ends (ids : List UInt8) (buf : Request) (len : Nat) : Ends (get_log_mask 0 buf len (plain ids)) := by
  have got : Ends (diag_cmd_get_log_mask (plain ids).masks (le32At buf 8)) := by
    unfold diag_cmd_get_log_mask
    cases found : (plain ids).masks.log_mask.ptr.find? (fun log_item => log_item.equip_id.toUInt32 = le32At buf 8) with
    | none => exact .ok _
    | some log_item =>
      obtain ⟨equip_id,_,rfl⟩ := List.mem_map.mp (List.mem_of_find?_eq_some found)
      exact ⟨some (0,[]),by simp [load,BITS_TO_BYTES32]⟩
  obtain ⟨found,got⟩ := got
  unfold get_log_mask
  split_ifs
  · exact .ok _
  · simp only [got,plain_peripherals,peripheral_broadcast_log_mask,ok_bind,pure_ok]
    exact .ok _

theorem set_log_mask_ends {ids : List UInt8} {buf : Request} {len : Nat}
    (items : len = 16 → 4294967296 ≤ (le32At buf 12).toNat + 7 → (le32At buf 8).toUInt8 ∉ ids) :
    Ends (set_log_mask noJunk 0 buf len (plain ids)) := by
  by_cases whole : len = 8 + (8 + BITS_TO_BYTES32 (le32At buf 12).toNat)
  · have set : Ends (diag_cmd_set_log_mask noJunk.bytes (plain ids).masks (le32At buf 8).toUInt8 (le32At buf 12).toNat
        (fun i => buf (16 + i))) := by
      have room : ∀ log_item ∈ (plain ids).masks.log_mask.ptr, log_item.range_tools ≤ log_item.ptr.length := by
        intro log_item member
        obtain ⟨equip_id,_,rfl⟩ := List.mem_map.mp member
        exact Nat.le_refl _
      rcases set_log_mask_cases noJunk.bytes (le32At buf 8).toUInt8 (le32At buf 12).toNat (fun i => buf (16 + i)) room with
        ⟨_,missed⟩ | ⟨_,_,_,_,_,_,_,_,stored⟩
      · exact ⟨_,missed⟩
      · exact ⟨_,stored⟩
    obtain ⟨⟨found,masks⟩,set⟩ := set
    -- what is copied into the response is no more than the request brought
    have copied : (found.getD ((le32At buf 12).toNat,8 + BITS_TO_BYTES32 (le32At buf 12).toNat)).2 ≤
        8 + BITS_TO_BYTES32 (le32At buf 12).toNat := by
      rcases set_log_mask_returns set with ⟨rfl,_⟩ | ⟨rfl,log_item,member,same⟩
      · exact Nat.le_refl _
      · by_cases wraps : 4294967296 ≤ (le32At buf 12).toNat + 7
        · have bound := (le32At buf 12).toNat_lt
          have short : len = 16 := by
            unfold BITS_TO_BYTES32 at whole
            omega
          have known : (le32At buf 8).toUInt8 ∈ log_ids (plain ids) := List.mem_map.mpr ⟨log_item,member,same⟩
          rw [log_ids_plain] at known
          exact absurd known (items short wraps)
        · have kept := kept_bytes_le_of_lt (Nat.lt_of_not_le wraps)
          simp only [Option.getD_some]
          omega
    simp only [set_log_mask,ne_eq,whole.symm,not_true_eq_false,if_false,set,ok_bind,plain_peripherals,
      peripheral_broadcast_log_mask]
    refine .bind (.store (by simp only [span_length]; omega)) (fun header stored => .bind (.store ?_) (fun answer copied => .bind (.store ?_) ?_))
    · have length := store_length stored
      simp only [span_length] at length ⊢
      omega
    · have length := (store_length copied).trans (store_length stored)
      simp only [span_length,le32_length] at length ⊢
      omega
    · exact fun resp _ => .ok _
  · simp only [set_log_mask,ne_eq,whole,not_false_eq_true,if_true]
    exact .ok _

theorem handle_logging_configuration_ends {ids : List UInt8} {buf : Request} {len : Nat}
    (items : le32At buf 4 = 3 → len = 16 → 4294967296 ≤ (le32At buf 12).toNat + 7 → (le32At buf 8).toUInt8 ∉ ids) :
    Ends (handle_logging_configuration noJunk 0 buf len (plain ids)) := by
  unfold handle_logging_configuration
  split
  · exact log_disable_ends ids buf len
  · unfold get_log_range
    split_ifs
    · exact .ok _
    · exact .ok _
  · next set => exact set_log_mask_ends (items (UInt32.toNat_inj.mp set))
  · exact get_log_mask_ends ids buf len
  · exact .ok _

theorem set_msg_mask_ends (ids : List UInt8) (buf : Request) (len : Nat) :
    Ends (set_msg_mask noJunk 0 buf len (plain ids)) := by
  unfold set_msg_mask
  dsimp only
  split_ifs
  · exact .ok _
  · exact ⟨_,rfl⟩

theorem handle_extended_message_configuration_ends (ids : List UInt8) (buf : Request) (len : Nat) :
    Ends (handle_extended_message_configuration noJunk 0 buf len (plain ids)) := by
  unfold handle_extended_message_configuration
  split
  · unfold get_ssid_range
    split_ifs
    · exact .ok _
    · exact .ok _
  · unfold get_build_mask
    split_ifs
    · exact .ok _
    · exact ⟨_,rfl⟩
  · unfold get_msg_mask
    split_ifs
    · exact .ok _
    · exact ⟨_,rfl⟩
  · exact set_msg_mask_ends ids buf len
  · unfold set_all_msg_mask
    split_ifs
    · exact .ok _
    · exact ⟨_,rfl⟩
  · exact .ok _

theorem handle_event_set_mask_ends (ids : List UInt8) (buf : Request) (len : Nat) :
    Ends (handle_event_set_mask noJunk 0 buf len (plain ids)) := by
  unfold handle_event_set_mask
  dsimp only
  split_ifs
  · exact .ok _
  · have update : Ends (diag_cmd_update_event_mask noJunk.bytes (plain ids).masks (le16At buf 4) (fun i => buf (6 + i))) := by
      unfold diag_cmd_update_event_mask
      refine .bind (.store ?_) (fun ptr _ => .ok _)
      split_ifs with grows
      · simp
      · have none : (le16At buf 4).toNat = 0 := by
          rw [gt_iff_lt,UInt16.lt_iff_toNat_lt] at grows
          exact Nat.le_zero.mp (Nat.le_of_not_lt grows)
        simp [none,BITS_TO_BYTES]
    refine update.bind (fun masks _ => ?_)
    exact .ok _

theorem handle_diag_id_ends (ids : List UInt8) (buf : Request) (len : Nat) :
    Ends (handle_diag_id 0 buf len (plain ids)) := by
  unfold handle_diag_id
  split_ifs
  · exact .ok _
  · have size : (List.replicate DIAG_MAX_RSP_SIZE (0 : UInt8)).length = 16384 := List.length_replicate
    refine .bind (.store (by rw [size,span_length]; decide)) (fun header stored => ?_)
    have length := store_length stored
    change Ends (diag_id_loop [] header 6 0 >>= _)
    simp only [diag_id_loop,ok_bind]
    refine .bind (.store (by rw [length,size]; decide)) (fun resp counted => ?_)
    have length' := (store_length counted).trans length
    exact .bind ⟨_,load_ok_iff.mpr ⟨by rw [length',size]; decide,rfl⟩⟩ (fun _ _ => .ok _)

theorem run_handler_ends {ids : List UInt8} {buf : Request} {len : Nat} (handler : Handler)
    (logging : handler = .handle_logging_configuration → le32At buf 4 = 3 → len = 16 →
      4294967296 ≤ (le32At buf 12).toNat + 7 → (le32At buf 8).toUInt8 ∉ ids) :
    Ends (run_handler noJunk 0 buf len handler (plain ids)) := by
  cases handler with
  | handle_logging_configuration => exact handle_logging_configuration_ends (logging rfl)
  | handle_extended_message_configuration => exact handle_extended_message_configuration_ends ids buf len
  | handle_event_get_mask =>
    have got : diag_cmd_get_event_mask (plain ids).masks (plain ids).masks.event_max_num_bits = .ok (some []) := by
      simp [diag_cmd_get_event_mask,plain,load,BITS_TO_BYTES]
    simp only [run_handler,handle_event_get_mask]
    split_ifs
    · exact .ok _
    · rw [got]
      exact .ok _
  | handle_event_set_mask => exact handle_event_set_mask_ends ids buf len
  | handle_event_report_control =>
    simp only [run_handler,handle_event_report_control]
    split_ifs
    · exact .ok _
    · exact ⟨_,rfl⟩
  | handle_diag_version => exact .ok _
  | handle_diag_version_no => exact .ok _
  | handle_extended_build_id =>
    simp only [run_handler,handle_extended_build_id]
    split_ifs
    · exact .ok _
    · exact .ok _
  | handle_keep_alive => exact .ok _
  | handle_diag_id => exact handle_diag_id_ends ids buf len
  | handle_hdlc_disable_cmd =>
    simp only [run_handler,handle_hdlc_disable_cmd]
    split_ifs
    · exact .ok _
    · exact .ok _

theorem handle_command_ends {ids : List UInt8} {buf : Request} {len : Nat} (own : OwnBytes ids len buf) :
    Ends (diag_client_handle_command noJunk 0 buf len (plain ids)) := by
  have dispatched : Ends (diag_cmd_dispatch (router_calls noJunk 0 buf len) (plain ids).diag_cmds buf (plain ids)) := by
    cases common : common_cmds.find? (covers (message_key buf)) with
    | some dc =>
      rw [dispatch_common _ _ _ common]
      exact run_handler_ends dc.target (fun target => own.items ((common_command common).1 target))
    | none =>
      rw [dispatch_other _ _ _ common]
      change Ends (send_loop _ _ [] 0 _ >>= _)
      simp only [send_loop,ok_bind,ne_eq,not_true_eq_false,if_false]
      cases fallback : fallback_cmds.find? (covers (message_key buf)) with
      | none => exact .ok _
      | some dc =>
        exact run_handler_ends dc.target
          (fun target => absurd target (fallback_command dc (List.mem_of_find?_eq_some fallback)).1)
  refine dispatched.bind ?_
  rintro ⟨ret,router⟩ _
  dsimp only
  split_ifs
  · exact .ok _
  · exact .ok _
  · exact .ok _
  · exact .ok _

/-! ## Requests that are judged by more -/

/-- The bytes of the request, and the highest byte value after its end. -/
def spoiled (len : Nat) (buf : Request) : Request := fun i => if i < len then buf i else 0xff

theorem agree_zeroed (len : Nat) (buf : Request) : Agree len buf (zeroed len buf) := fun _ inside => if_pos inside
theorem agree_spoiled (len : Nat) (buf : Request) : Agree len buf (spoiled len buf) := fun _ inside => if_pos inside

/-- The error codes of two answers to the same client. -/
theorem bad_command_inj {ids : List UInt8} {buf other : Request} {len : Nat} {error_code error_code' : UInt8}
    (same : diag_rsp_bad_command (plain ids) 0 buf len error_code = diag_rsp_bad_command (plain ids) 0 other len error_code') :
    error_code = error_code' := by
  have queued : [(⟨.RAW,true,[[error_code] ++ span buf 0 len]⟩ : DiagClient)] =
      [⟨.RAW,true,[[error_code'] ++ span other 0 len]⟩] := congrArg Router.diag_clients same
  simp only [List.cons.injEq,DiagClient.mk.injEq,List.singleton_append] at queued
  exact queued.1.2.2.1.1

/-- A request that is refused for its length with one continuation and for its
    parameters with another. -/
theorem two_answers {ids : List UInt8} {buf other other' : Request} {len : Nat} (judged : Judged ids len buf)
    (agree : Agree len buf other) (agree' : Agree len buf other')
    (length : diag_cmd_dispatch (router_calls noJunk 0 other len) (plain ids).diag_cmds other (plain ids) =
      .ok (-EMSGSIZE,plain ids))
    (params : diag_cmd_dispatch (router_calls noJunk 0 other' len) (plain ids).diag_cmds other' (plain ids) =
      .ok (-EINVAL,plain ids)) : False := by
  have first := judged.1 other agree noJunk 0 (plain ids) (log_ids_plain ids)
  have second := judged.1 other' agree' noJunk 0 (plain ids) (log_ids_plain ids)
  have same := first.trans second.symm
  rw [diag_client_handle_command,diag_client_handle_command,length,params] at same
  exact absurd (bad_command_inj (Except.ok.inj same)) (by decide)

theorem judged_operation {ids : List UInt8} {buf : Request} {len : Nat} (judged : Judged ids len buf) (start : 1 ≤ len)
    (command : buf 0 = 0x73) (short : len < 8) : ¬ LogOperation (le32At (zeroed len buf) 4) := by
  intro known
  refine two_answers judged (agree_zeroed len buf) (agree_spoiled len buf) ?_ ?_
  · rw [logging_dispatch _ _ _ _ ((agree_zeroed len buf 0 start).trans command)]
    have unequal : ∀ size, 8 ≤ size → len ≠ size := by omega
    rcases (logOperation_iff _).mp known with op | op | op | op
    · simp only [handle_logging_configuration,op,log_disable,ne_eq,unequal 8 (by omega),not_false_eq_true,if_true]
    · simp only [handle_logging_configuration,op,get_log_range,ne_eq,unequal 8 (by omega),not_false_eq_true,if_true]
    · have larger : ∀ size, len ≠ 8 + (8 + size) := fun size => unequal _ (by omega)
      simp only [handle_logging_configuration,op,set_log_mask,ne_eq,larger,not_false_eq_true,if_true]
    · simp only [handle_logging_configuration,op,get_log_mask,ne_eq,unequal 12 (by omega),not_false_eq_true,if_true]
  · rw [logging_dispatch _ _ _ _ ((agree_spoiled len buf 0 start).trans command)]
    apply unknown_operation
    rw [logOperation_iff,le32At_toNat]
    have last : (spoiled len buf (4 + 3)).toNat = 255 := by
      rw [spoiled,if_neg (by omega)]
      rfl
    omega

theorem judged_message {ids : List UInt8} {buf : Request} {len : Nat} (judged : Judged ids len buf) (start : 1 ≤ len)
    (command : buf 0 = 0x7d) : 2 ≤ len := by
  by_contra short
  let asking : Request := fun i => if i < len then buf i else 1
  have agree : Agree len buf asking := fun i inside => if_pos inside
  refine two_answers judged agree (agree_zeroed len buf) ?_ ?_
  · rw [message_dispatch _ _ _ _ ((agree 0 start).trans command)]
    have op : asking 1 = 1 := if_neg (by omega)
    have unequal : len ≠ 2 := by omega
    rw [handle_extended_message_configuration,op]
    simp only [UInt8.reduceToNat,get_ssid_range,ne_eq,unequal,not_false_eq_true,if_true]
  · rw [message_dispatch _ _ _ _ ((agree_zeroed len buf 0 start).trans command)]
    have op : zeroed len buf 1 = 0 := if_neg (by omega)
    rw [handle_extended_message_configuration,op]
    rfl

/-- A wrapped item count makes SET keep 512 bytes of a request that has none, and
    copy them into a response of 28. -/
theorem judged_items {ids : List UInt8} {buf : Request} {len : Nat} (judged : Judged ids len buf) (command : buf 0 = 0x73)
    (set : le32At buf 4 = 3) (short : len = 16) (wraps : 4294967296 ≤ (le32At buf 12).toNat + 7) :
    (le32At buf 8).toUInt8 ∉ ids := by
  intro known
  obtain ⟨junk,client,router,rfl,after,ran⟩ := judged.2
  obtain ⟨⟨ret,done⟩,dispatched,_⟩ := bind_eq_ok.mp ran
  rw [logging_dispatch junk client len router command,handle_logging_configuration,set] at dispatched
  have bound := (le32At buf 12).toNat_lt
  have empty : BITS_TO_BYTES32 (le32At buf 12).toNat = 0 := by
    unfold BITS_TO_BYTES32
    omega
  have many : kept_bytes (le32At buf 12).toNat = 512 := by
    have cap : MAX_ITEMS_ALLOWED = 4095 := rfl
    unfold kept_bytes kept_items BITS_TO_BYTES32
    omega
  have reduce : (3 : UInt32).toNat = 3 := rfl
  simp only [reduce,set_log_mask,empty,short,ne_eq,not_true_eq_false,if_false] at dispatched
  obtain ⟨⟨found,masks⟩,stored,rest⟩ := bind_eq_ok.mp dispatched
  rcases set_log_mask_returns stored with ⟨rfl,missing⟩ | ⟨rfl,_⟩
  · obtain ⟨log_item,member,same⟩ := List.mem_map.mp known
    exact missing log_item member same
  · obtain ⟨header,begun,rest⟩ := bind_eq_ok.mp rest
    obtain ⟨answer,copied,_⟩ := bind_eq_ok.mp rest
    have inside := (store_ok_iff.mp copied).1
    have length := store_length begun
    simp only [Option.getD_some,span_length,many] at inside length
    omega

/-- A router with one peripheral, registered for one key. -/
def registered (ids : List UInt8) (k : UInt32) : Router :=
  { plain ids with
    diag_cmds := [⟨k,k,0⟩]
    peripherals := [⟨0,0,-1,[],[],[],.perif_rpmsg_send⟩] }

/-- A message with the registered key goes to the peripheral. -/
theorem registered_sends (ids : List UInt8) {buf : Request} (len : Nat)
    (subsys : (buf 0).toNat = 75 ∨ (buf 0).toNat = 128) :
    diag_client_handle_command noJunk 0 buf len (registered ids (message_key buf)) =
      .ok { registered ids (message_key buf) with
        peripherals := (registered ids (message_key buf)).peripherals.map (fun p => peripheral_send p (span buf 0 len)) } := by
  have covered : covers (message_key buf) (⟨message_key buf,message_key buf,0⟩ : DiagCmd Nat) = true :=
    covers_iff.mpr ⟨Nat.le_refl _,Nat.le_refl _⟩
  rw [diag_client_handle_command,dispatch_other _ _ _ (common_missing subsys)]
  change ((send_loop _ _ [⟨message_key buf,message_key buf,0⟩] 0 _ >>= _) >>= _) = _
  simp only [send_loop,covered,if_true]
  rfl

/-- What the peripheral is sent tells which key a request has. -/
theorem registered_peripherals {ids : List UInt8} {k : UInt32} {buf : Request} {len : Nat} {after : Router}
    (subsys : (buf 0).toNat = 75 ∨ (buf 0).toNat = 128)
    (ran : diag_client_handle_command noJunk 0 buf len (registered ids k) = .ok after) :
    after.peripherals = (registered ids k).peripherals ↔ message_key buf ≠ k := by
  by_cases same : message_key buf = k
  · subst same
    rw [registered_sends ids len subsys] at ran
    cases ran
    refine ⟨fun unchanged => ?_,fun differ => absurd rfl differ⟩
    have queued := congrArg (List.map Peripheral.dataq) unchanged
    simp [registered,peripheral_send,perif_rpmsg_send,push_encoded,DiagRouter.Clients.hdlc_enqueue,
      DiagRouter.Clients.queue_push] at queued
  · refine ⟨fun _ => same,fun _ => ?_⟩
    obtain ⟨ret,router,dispatched,frame⟩ := handle_command_dispatched ran
    have kept : after.peripherals = router.peripherals := by rw [frame]
    have missed : covers (message_key buf) (⟨k,k,0⟩ : DiagCmd Nat) = false := by
      rw [Bool.eq_false_iff]
      intro covered
      obtain ⟨low,high⟩ := covers_iff.mp covered
      exact same (UInt32.toNat_inj.mp (Nat.le_antisymm high low))
    rw [kept]
    rw [dispatch_other _ _ _ (common_missing subsys)] at dispatched
    change (send_loop _ _ [⟨k,k,0⟩] 0 _ >>= _) = _ at dispatched
    simp only [send_loop,missed,Bool.false_eq_true,if_false,ok_bind,ne_eq,not_true_eq_false] at dispatched
    cases fallback : fallback_cmds.find? (covers (message_key buf)) with
    | none =>
      rw [fallback] at dispatched
      cases dispatched
      rfl
    | some dc =>
      rw [fallback] at dispatched
      rw [fallback_frame (List.mem_of_find?_eq_some fallback) dispatched]

theorem judged_subsys {ids : List UInt8} {buf : Request} {len : Nat} (judged : Judged ids len buf) (start : 1 ≤ len)
    (subsys : (buf 0).toNat = 75 ∨ (buf 0).toNat = 128) : 4 ≤ len := by
  by_contra short
  let other : Request := fun i => if i = 3 then buf 3 + 1 else buf i
  have agree : Agree len buf other := fun i inside => if_neg (by omega)
  have same := judged.1 other agree noJunk 0 (registered ids (message_key buf)) (log_ids_plain ids)
  have ran := registered_sends ids len subsys
  have moved := (registered_peripherals subsys ran).not.mpr (fun differ => differ rfl)
  have otherSubsys : (other 0).toNat = 75 ∨ (other 0).toNat = 128 := subsys
  apply moved
  apply (registered_peripherals otherSubsys (same.trans ran)).mpr
  intro key
  have code := congrArg UInt32.toNat key
  rw [message_key_subsys subsys,message_key_subsys otherSubsys,le16At_toNat,le16At_toNat] at code
  have low : other 2 = buf 2 := rfl
  have start : other 0 = buf 0 := rfl
  have subsystem : other 1 = buf 1 := rfl
  have high : other (2 + 1) = buf 3 + 1 := rfl
  have byte := (buf 3).toNat_lt
  rw [low,high,start,subsystem,UInt8.toNat_add] at code
  simp only [Nat.reduceAdd] at code
  have one : (1 : UInt8).toNat = 1 := rfl
  omega

/-- A request is judged by its own bytes, on every router, exactly when its key
    and its operation lie inside it and no size read from it wraps. -/
theorem request_bytes_iff (ids : List UInt8) (len : Nat) (start : 1 ≤ len) (buf : Request) :
    Judged ids len buf ↔ OwnBytes ids len buf := by
  constructor
  · intro judged
    exact ⟨judged_subsys judged start,judged_operation judged start,judged_items judged,judged_message judged start⟩
  · intro own
    refine ⟨?_,noJunk,0,plain ids,log_ids_plain ids,handle_command_ends own⟩
    rintro other agree junk client router rfl
    exact handle_command_congr agree start junk client own

/-- A version request is a single byte. -/
theorem version_judged : Judged [] 1 (fun _ => 28) :=
  (request_bytes_iff [] 1 (by decide) _).mpr
    ⟨fun subsys => absurd subsys (by decide),fun command => absurd command (by decide),
      fun command => absurd command (by decide),fun command => absurd command (by decide)⟩

/-- The two bytes of a truncated message are a keep-alive request when 03 follows
    them in memory, and a bad command otherwise. -/
theorem truncated_keep_alive :
    Agree 2 (place [75,50,3] (fun _ => 0)) (place [75,50] (fun _ => 0)) ∧
      diag_client_handle_command noJunk 0 (place [75,50] (fun _ => 0)) 2 { plain [] with masks := diag_masks_init } ≠
        diag_client_handle_command noJunk 0 (place [75,50,3] (fun _ => 0)) 2 { plain [] with masks := diag_masks_init } := by
  constructor
  · unfold Agree
    decide
  · intro same
    have answers := congrArg (Except.map Router.diag_clients) same
    exact absurd answers (by decide +kernel)

end DiagRouter.RequestBytes

import DiagRouter.Dispatch
import DiagRouter.Peripherals

/-!
# The handlers

The router state a client command works on, the common and fallback handlers, and
`diag_client_handle_command`. A request is what memory holds from the first
byte of the buffer on, with the length that is passed along.
-/
namespace DiagRouter.Handlers
open DiagRouter.Lib.Memory DiagRouter.Lib.Words DiagRouter.Masks DiagRouter.Dispatch
open DiagRouter.Clients (DiagClient EncodeType set_encode_type)
open DiagRouter.Peripherals

def EINVAL : Int := 22
def EMSGSIZE : Int := 90
def DIAG_MAX_RSP_SIZE : Nat := 16384

def DIAG_CMD_RSP_BAD_COMMAND : UInt8 := 0x13
def DIAG_CMD_RSP_BAD_PARAMS : UInt8 := 0x14
def DIAG_CMD_RSP_BAD_LENGTH : UInt8 := 0x15

def DIAG_CMD_STATUS_SUCCESS : UInt32 := 0
def DIAG_CMD_STATUS_INVALID_EQUIPMENT_ID : UInt32 := 1
def DIAG_CMD_MSG_STATUS_UNSUCCESSFUL : UInt8 := 0
def DIAG_CMD_MSG_STATUS_SUCCESSFUL : UInt8 := 1
def DIAG_CMD_EVENT_ERROR_CODE_OK : UInt8 := 0
def DIAG_CMD_EVENT_ERROR_CODE_FAIL : UInt8 := 1
def DIAG_CMD_EVENT_REPORT_CONTROL : UInt8 := 0x60

/-- An entry of the diag-id table: the bytes of `diagid_info`, and how many of
    them `diag_id_info_len` says there are. -/
structure DiagIdTbl where
  diag_id_info_len : UInt8
  diagid_info : List UInt8
deriving DecidableEq, Repr

/-- A client is named by its place in `diag_clients`. -/
structure Router where
  masks : MaskTables
  diag_cmds : List (DiagCmd Nat)
  diag_ids : List DiagIdTbl
  peripherals : List Peripheral
  diag_clients : List DiagClient
deriving DecidableEq, Repr

/-- What allocations leave in memory that nobody wrote: in masks that grow, in
    responses, and in the packet of each peripheral. -/
structure Junk where
  words : Nat → UInt32
  bytes : Nat → UInt8
  resp : Nat → UInt8
  pkt : Nat → Nat → UInt8

def send (router : Router) (client : Nat) (msg : List UInt8) : Router :=
  { router with diag_clients := router.diag_clients.modify client (fun dm => Clients.dm_send dm msg) }

/-- A handler returns 0 or a negative `errno`. -/
abbrev Outcome := Except Fault (Int × Router)

/-- The bytes of a request, and what follows them in memory. -/
abbrev Request := Nat → UInt8

/-! ## DIAG_CMD_LOGGING_CONFIGURATION -/

def log_disable (client : Nat) (buf : Request) (len : Nat) (router : Router) : Outcome :=
  if len ≠ 8 then .ok (-EMSGSIZE,router)
  else do
    let masks ← diag_cmd_disable_log router.masks
    let peripherals ← peripheral_broadcast_log_mask masks 0 router.peripherals
    let resp := span buf 0 8 ++ le32 DIAG_CMD_STATUS_SUCCESS
    return (0,send { router with masks := masks, peripherals := peripherals } client resp)

def get_log_range (client : Nat) (buf : Request) (len : Nat) (router : Router) : Outcome :=
  if len ≠ 8 then .ok (-EMSGSIZE,router)
  else
    let ranges := (diag_cmd_get_log_range router.masks MAX_EQUIP_ID).map UInt32.ofNat
    .ok (0,send router client (span buf 0 8 ++ le32 DIAG_CMD_STATUS_SUCCESS ++ le32s ranges))

/-- `struct diag_log_cmd_mask` in the request, its item count overwritten. -/
def mask_to_set (buf : Request) (num_items : Nat) : Request :=
  place (span buf 8 4 ++ le32 (UInt32.ofNat num_items)) (fun i => buf (8 + i))

/-- The sizes are `uint32_t`. The response is allocated for the size of the
    request and gets the item count and the size that the tables hand back. -/
def set_log_mask (junk : Junk) (client : Nat) (buf : Request) (len : Nat) (router : Router) : Outcome :=
  let equip_id := le32At buf 8
  let num_items := (le32At buf 12).toNat
  let mask_size := 8 + BITS_TO_BYTES32 num_items
  if len ≠ 8 + mask_size then .ok (-EMSGSIZE,router)
  else do
    let (found,masks) ← diag_cmd_set_log_mask junk.bytes router.masks equip_id.toUInt8 num_items (fun i => buf (16 + i))
    let (num_items,copied) := found.getD (num_items,mask_size)
    let resp := span junk.resp 0 (20 + mask_size)
    let resp ← store resp 0 (span buf 0 8)
    let resp ← store resp 12 (span (mask_to_set buf num_items) 0 copied)
    let resp ← store resp 8 (le32 DIAG_CMD_STATUS_SUCCESS)
    let peripherals ← peripheral_broadcast_log_mask masks (le32At (place resp (fun _ => 0)) 12) router.peripherals
    return (0,send { router with masks := masks, peripherals := peripherals } client resp)

def get_log_mask (client : Nat) (buf : Request) (len : Nat) (router : Router) : Outcome :=
  if len ≠ 12 then .ok (-EMSGSIZE,router)
  else do
    let equip_id := le32At buf 8
    let found ← diag_cmd_get_log_mask router.masks equip_id
    let status := if found = none then DIAG_CMD_STATUS_INVALID_EQUIPMENT_ID else DIAG_CMD_STATUS_SUCCESS
    let (num_items,mask) := found.getD (0,[])
    let resp := span buf 0 8 ++ le32 status ++ le32 equip_id ++ le32 (UInt32.ofNat num_items) ++ mask
    let peripherals ← peripheral_broadcast_log_mask router.masks equip_id router.peripherals
    return (0,send { router with peripherals := peripherals } client resp)

def handle_logging_configuration (junk : Junk) (client : Nat) (buf : Request) (len : Nat) (router : Router) : Outcome :=
  match (le32At buf 4).toNat with
  | 0 => log_disable client buf len router
  | 1 => get_log_range client buf len router
  | 3 => set_log_mask junk client buf len router
  | 4 => get_log_mask client buf len router
  | _ => .ok (-EINVAL,router)

/-! ## DIAG_CMD_EXTENDED_MESSAGE_CONFIGURATION -/

def range_at (buf : Request) (i : Nat) : DiagSsidRange := ⟨le16At buf i,le16At buf (i + 2)⟩

def range_bytes (range : DiagSsidRange) : List UInt8 := le16 range.ssid_first ++ le16 range.ssid_last

/-- `MSG_RANGE_TO_SIZE` in a `uint32_t`. -/
def MSG_RANGE_TO_SIZE (range : DiagSsidRange) : Nat :=
  u32 (((range.ssid_last.toNat : Int) - range.ssid_first.toNat + 1) * 4)

/-- Byte 3 of the response is not written. -/
def get_ssid_range (junk : Junk) (client : Nat) (buf : Request) (len : Nat) (router : Router) : Outcome :=
  if len ≠ 2 then .ok (-EMSGSIZE,router)
  else
    let ranges := diag_cmd_get_ssid_range router.masks
    let resp := span buf 0 2 ++ [DIAG_CMD_MSG_STATUS_SUCCESSFUL,junk.resp 3] ++ le32 (UInt32.ofNat ranges.length) ++
      ranges.flatMap range_bytes
    .ok (0,send router client resp)

def get_build_mask (client : Nat) (buf : Request) (len : Nat) (router : Router) : Outcome :=
  if len ≠ 6 then .ok (-EMSGSIZE,router)
  else do
    let found ← diag_cmd_get_build_mask router.masks (range_at buf 2)
    match found with
    | some (range,masks) =>
      let words ← load (le32s masks) (MSG_RANGE_TO_SIZE range)
      return (0,send router client ([0x7d,2] ++ range_bytes range ++ [DIAG_CMD_MSG_STATUS_SUCCESSFUL,0] ++ words))
    | none =>
      return (0,send router client ([0x7d,2] ++ range_bytes ⟨0,0⟩ ++ [DIAG_CMD_MSG_STATUS_UNSUCCESSFUL,0]))

def get_msg_mask (client : Nat) (buf : Request) (len : Nat) (router : Router) : Outcome :=
  if len ≠ 6 then .ok (-EMSGSIZE,router)
  else do
    let found ← diag_cmd_get_msg_mask router.masks (range_at buf 2)
    match found with
    | some (range,masks) =>
      let words ← load (le32s masks) (MSG_RANGE_TO_SIZE range)
      return (0,send router client (span buf 0 2 ++ [DIAG_CMD_MSG_STATUS_SUCCESSFUL,0] ++ words))
    | none =>
      return (0,send router client (span buf 0 2 ++ [DIAG_CMD_MSG_STATUS_UNSUCCESSFUL,0]))

/-- The range in the response is the one the broadcasts are served from. -/
def set_msg_mask (junk : Junk) (client : Nat) (buf : Request) (len : Nat) (router : Router) : Outcome :=
  let range := range_at buf 2
  let masks_size := MSG_RANGE_TO_SIZE range
  if len ≠ 8 + masks_size then .ok (-EMSGSIZE,router)
  else do
    let (ret,masks) ← diag_cmd_set_msg_mask junk.words router.masks range (fun i => le32At buf (8 + 4 * i))
    if ret = 0 then
      let resp := span junk.resp 0 (u32 (8 + masks_size))
      let resp ← store resp 0 (span buf 0 2 ++ range_bytes range ++ [DIAG_CMD_MSG_STATUS_SUCCESSFUL,buf 6])
      let resp ← store resp 8 (span buf 8 masks_size)
      let (range,peripherals) ← peripheral_broadcast_msg_mask junk.pkt masks (some range) router.peripherals
      let resp ← store resp 2 (range_bytes (range.getD ⟨0,0⟩))
      return (0,send { router with masks := masks, peripherals := peripherals } client resp)
    else
      return (0,send { router with masks := masks } client
        (span buf 0 2 ++ range_bytes range ++ [DIAG_CMD_MSG_STATUS_UNSUCCESSFUL,buf 6]))

/-- The broadcast gets no range. -/
def set_all_msg_mask (junk : Junk) (client : Nat) (buf : Request) (len : Nat) (router : Router) : Outcome :=
  if len ≠ 7 then .ok (-EMSGSIZE,router)
  else do
    let masks ← diag_cmd_set_all_msg_mask router.masks (le32At buf 3)
    let (_,peripherals) ← peripheral_broadcast_msg_mask junk.pkt masks none router.peripherals
    let resp := span buf 0 2 ++ [DIAG_CMD_MSG_STATUS_SUCCESSFUL,buf 2] ++ le32 (le32At buf 3)
    return (0,send { router with masks := masks, peripherals := peripherals } client resp)

def handle_extended_message_configuration (junk : Junk) (client : Nat) (buf : Request) (len : Nat) (router : Router) :
    Outcome :=
  match (buf 1).toNat with
  | 1 => get_ssid_range junk client buf len router
  | 2 => get_build_mask client buf len router
  | 3 => get_msg_mask client buf len router
  | 4 => set_msg_mask junk client buf len router
  | 5 => set_all_msg_mask junk client buf len router
  | _ => .ok (-EINVAL,router)

/-! ## Events -/

def handle_event_get_mask (client : Nat) (buf : Request) (len : Nat) (router : Router) : Outcome :=
  if len ≠ 4 then .ok (-EMSGSIZE,router)
  else do
    let num_bits := router.masks.event_max_num_bits
    let found ← diag_cmd_get_event_mask router.masks num_bits
    match found with
    | some mask =>
      return (0,send router client ([buf 0,DIAG_CMD_EVENT_ERROR_CODE_OK] ++ span buf 2 2 ++ le16 num_bits ++ mask))
    | none => return (0,send router client ([buf 0,DIAG_CMD_EVENT_ERROR_CODE_FAIL] ++ span buf 2 2 ++ le16 0))

def handle_event_set_mask (junk : Junk) (client : Nat) (buf : Request) (len : Nat) (router : Router) : Outcome :=
  let num_bits := le16At buf 4
  let mask_size := BITS_TO_BYTES num_bits.toNat
  if len ≠ 6 + mask_size then .ok (-EMSGSIZE,router)
  else do
    let masks ← diag_cmd_update_event_mask junk.bytes router.masks num_bits (fun i => buf (6 + i))
    let peripherals ← peripheral_broadcast_event_mask masks router.peripherals
    let resp := [buf 0,DIAG_CMD_EVENT_ERROR_CODE_OK] ++ span buf 2 2 ++ le16 num_bits ++ span buf 6 mask_size
    return (0,send { router with masks := masks, peripherals := peripherals } client resp)

def handle_event_report_control (client : Nat) (buf : Request) (len : Nat) (router : Router) : Outcome :=
  if len ≠ 2 then .ok (-EMSGSIZE,router)
  else do
    let masks ← diag_cmd_toggle_events router.masks (buf 1 ≠ 0)
    let peripherals ← peripheral_broadcast_event_mask masks router.peripherals
    return (0,send { router with masks := masks, peripherals := peripherals } client
      ([DIAG_CMD_EVENT_REPORT_CONTROL] ++ le16 0))

/-! ## Fallback commands -/

def handle_diag_version (client : Nat) (router : Router) : Outcome := .ok (0,send router client [28,2])

def handle_diag_version_no (client : Nat) (router : Router) : Outcome :=
  .ok (0,send router client (List.replicate 55 0))

/-- The strings are "OE" and "DB410C". -/
def handle_extended_build_id (client : Nat) (len : Nat) (router : Router) : Outcome :=
  if len ≠ 1 then .ok (-EMSGSIZE,router)
  else .ok (0,send router client ([124,2] ++ le16 0 ++ le32 2 ++ le32 0 ++ [0x4f,0x45,0] ++
    [0x44,0x42,0x34,0x31,0x30,0x43,0]))

def handle_keep_alive (client : Nat) (router : Router) : Outcome :=
  .ok (0,send router client ([75,50,3] ++ List.replicate 13 0))

/-- Entries are copied while the response is not full. -/
def diag_id_loop : List DiagIdTbl → List UInt8 → Nat → Nat → Except Fault (List UInt8 × Nat × Nat)
  | [], resp, resp_len, num_entries => .ok (resp,resp_len,num_entries)
  | diag_id_item :: rest, resp, resp_len, num_entries =>
    if resp_len ≥ DIAG_MAX_RSP_SIZE then .ok (resp,resp_len,num_entries)
    else do
      let info ← load diag_id_item.diagid_info diag_id_item.diag_id_info_len.toNat
      let resp ← store resp resp_len info
      diag_id_loop rest resp (resp_len + diag_id_item.diag_id_info_len.toNat) (num_entries + 1)

def handle_diag_id (client : Nat) (buf : Request) (len : Nat) (router : Router) : Outcome :=
  if len < 5 then .ok (-EMSGSIZE,router)
  else do
    let resp ← store (List.replicate DIAG_MAX_RSP_SIZE 0) 0 (span buf 0 5)
    let (resp,resp_len,num_entries) ← diag_id_loop router.diag_ids resp 6 0
    let resp ← store resp 5 [UInt8.ofNat num_entries]
    let resp ← load resp resp_len
    return (0,send router client resp)

def handle_hdlc_disable_cmd (client : Nat) (buf : Request) (len : Nat) (router : Router) : Outcome :=
  if len < 4 then .ok (-EMSGSIZE,router)
  else
    let router := send router client (span buf 0 4 ++ [1,0])
    .ok (0,{ router with diag_clients := set_encode_type .NHDLC router.diag_clients })

/-! ## Commands -/

def run_handler (junk : Junk) (client : Nat) (buf : Request) (len : Nat) (handler : Handler) (router : Router) : Outcome :=
  match handler with
  | .handle_logging_configuration => handle_logging_configuration junk client buf len router
  | .handle_extended_message_configuration => handle_extended_message_configuration junk client buf len router
  | .handle_event_get_mask => handle_event_get_mask client buf len router
  | .handle_event_set_mask => handle_event_set_mask junk client buf len router
  | .handle_event_report_control => handle_event_report_control client buf len router
  | .handle_diag_version => handle_diag_version client router
  | .handle_diag_version_no => handle_diag_version_no client router
  | .handle_extended_build_id => handle_extended_build_id client len router
  | .handle_keep_alive => handle_keep_alive client router
  | .handle_diag_id => handle_diag_id client buf len router
  | .handle_hdlc_disable_cmd => handle_hdlc_disable_cmd client buf len router

/-- A registration of a peripheral that is gone is a dangling pointer. -/
def send_to_peripheral (msg : List UInt8) (addr : Nat) (router : Router) : Except Fault Router :=
  if router.peripherals.any (fun p => p.addr = addr) then
    .ok { router with
      peripherals := router.peripherals.map (fun p => if p.addr = addr then peripheral_send p msg else p) }
  else .error .freed

/-- What dispatching a command of a client can call. -/
def router_calls (junk : Junk) (client : Nat) (buf : Request) (len : Nat) : Calls Router :=
  { cb := run_handler junk client buf len
    peripheral_send := send_to_peripheral (span buf 0 len) }

def diag_rsp_bad_command (router : Router) (client : Nat) (buf : Request) (len : Nat) (error_code : UInt8) : Router :=
  send router client ([error_code] ++ span buf 0 len)

def diag_client_handle_command (junk : Junk) (client : Nat) (buf : Request) (len : Nat) (router : Router) :
    Except Fault Router := do
  let (ret,router) ← diag_cmd_dispatch (router_calls junk client buf len) router.diag_cmds buf router
  if ret = -ENOENT then return diag_rsp_bad_command router client buf len DIAG_CMD_RSP_BAD_COMMAND
  else if ret = -EINVAL then return diag_rsp_bad_command router client buf len DIAG_CMD_RSP_BAD_PARAMS
  else if ret = -EMSGSIZE then return diag_rsp_bad_command router client buf len DIAG_CMD_RSP_BAD_LENGTH
  else return router

/-! ## Common commands -/

theorem logging_dispatch (junk : Junk) (client : Nat) {buf : Request} (len : Nat) (router : Router)
    (command : buf 0 = 0x73) :
    diag_cmd_dispatch (router_calls junk client buf len) router.diag_cmds buf router =
      handle_logging_configuration junk client buf len router :=
  dispatch_common _ _ _
    (@common_found buf ⟨0xffff0073,0xffff0073,.handle_logging_configuration⟩ (by decide) (by rw [command]; rfl))

theorem message_dispatch (junk : Junk) (client : Nat) {buf : Request} (len : Nat) (router : Router)
    (command : buf 0 = 0x7d) :
    diag_cmd_dispatch (router_calls junk client buf len) router.diag_cmds buf router =
      handle_extended_message_configuration junk client buf len router :=
  dispatch_common _ _ _
    (@common_found buf ⟨0xffff007d,0xffff007d,.handle_extended_message_configuration⟩ (by decide) (by rw [command]; rfl))

theorem event_dispatch (junk : Junk) (client : Nat) {buf : Request} (len : Nat) (router : Router) (command : buf 0 = 0x82) :
    diag_cmd_dispatch (router_calls junk client buf len) router.diag_cmds buf router =
      handle_event_set_mask junk client buf len router :=
  dispatch_common _ _ _ (@common_found buf ⟨0xffff0082,0xffff0082,.handle_event_set_mask⟩ (by decide) (by rw [command]; rfl))

/-! ## What a command leaves alone -/

section
variable {junk : Junk} {client : Nat} {buf : Request} {len : Nat} {router after : Router}


/-- The fallback handlers only answer clients. -/
theorem fallback_frame {ret : Int} {dc : DiagCmd Handler} (member : dc ∈ fallback_cmds)
    (ran : run_handler junk client buf len dc.target router = .ok (ret,after)) :
    after = { router with diag_clients := after.diag_clients } := by
  have targets : ∀ dc ∈ fallback_cmds, dc.target = .handle_diag_version ∨ dc.target = .handle_diag_version_no ∨
      dc.target = .handle_extended_build_id ∨ dc.target = .handle_keep_alive ∨ dc.target = .handle_diag_id ∨
      dc.target = .handle_hdlc_disable_cmd := by decide
  rcases targets dc member with target | target | target | target | target | target
  · rw [target] at ran
    cases ran
    rfl
  · rw [target] at ran
    cases ran
    rfl
  · simp only [target,run_handler,handle_extended_build_id] at ran
    split_ifs at ran
    · cases ran
      rfl
    · cases ran
      rfl
  · rw [target] at ran
    cases ran
    rfl
  · simp only [target,run_handler,handle_diag_id] at ran
    split_ifs at ran
    · cases ran
      rfl
    · obtain ⟨_,_,ran⟩ := bind_eq_ok.mp ran
      obtain ⟨_,_,ran⟩ := bind_eq_ok.mp ran
      obtain ⟨_,_,ran⟩ := bind_eq_ok.mp ran
      obtain ⟨_,_,ran⟩ := bind_eq_ok.mp ran
      cases ran
      rfl
  · simp only [target,run_handler,handle_hdlc_disable_cmd] at ran
    split_ifs at ran
    · cases ran
      rfl
    · cases ran
      rfl

/-- Sending a message on changes peripherals only. -/
theorem send_loop_frame {k : UInt32} {diag_cmds : List (DiagCmd Nat)} {handled count : Nat}
    (ran : send_loop (router_calls junk client buf len) k diag_cmds handled router = .ok (count,after)) :
    after = { router with peripherals := after.peripherals } := by
  induction diag_cmds generalizing handled router with
  | nil =>
    cases ran
    rfl
  | cons dc rest ih =>
    rw [send_loop] at ran
    split_ifs at ran
    · obtain ⟨sent,one,more⟩ := bind_eq_ok.mp ran
      have first : sent = { router with peripherals := sent.peripherals } := by
        simp only [router_calls,send_to_peripheral] at one
        split_ifs at one
        cases one
        rfl
      rw [ih more,first]
    · exact ih ran

/-- An error is answered to the client, and nothing else is done. -/
theorem handle_command_dispatched (ran : diag_client_handle_command junk client buf len router = .ok after) :
    ∃ ret mid, diag_cmd_dispatch (router_calls junk client buf len) router.diag_cmds buf router = .ok (ret,mid) ∧
      after = { mid with diag_clients := after.diag_clients } := by
  obtain ⟨⟨ret,mid⟩,dispatched,answered⟩ := bind_eq_ok.mp ran
  refine ⟨ret,mid,dispatched,?_⟩
  dsimp only at answered
  split_ifs at answered
  all_goals
    cases answered
    rfl

theorem handle_command_success
    (dispatched : diag_cmd_dispatch (router_calls junk client buf len) router.diag_cmds buf router = .ok (0,after)) :
    diag_client_handle_command junk client buf len router = .ok after := by
  rw [diag_client_handle_command,dispatched]
  rfl

end

end DiagRouter.Handlers

import DiagRouter.Lib.Memory

/-!
# The mask tables

The message, build-time, log and event masks and the commands that read and
write them. Allocations succeed; what `malloc` and `realloc` leave in cells
nobody wrote is `junk`. Table fields are `uint32_t`, written as naturals with
the conversions that can wrap (`u32`) in place.
-/
namespace DiagRouter.Masks
open DiagRouter.Lib.Memory

def MSG_MASK_TBL_CNT : Nat := 25
def APPS_EVENT_LAST_ID : UInt16 := 0x0B3F
def MAX_SSID_PER_RANGE : Nat := 200
def MAX_EQUIP_ID : Nat := 16
def EVENT_MASK_SIZE : Nat := 513
def MAX_ITEMS_PER_EQUIP_ID : Nat := 512
def MAX_ITEMS_ALLOWED : Nat := 0xFFF
def MSG_MASK_SIZE : Nat := 700
def LOG_MASK_SIZE : Nat := 400

def DIAG_CTRL_MASK_INVALID : UInt8 := 0
def DIAG_CTRL_MASK_ALL_DISABLED : UInt8 := 1
def DIAG_CTRL_MASK_ALL_ENABLED : UInt8 := 2
def DIAG_CTRL_MASK_VALID : UInt8 := 3

def log_code_last_tbl : List Nat :=
  [0x0,0x1A02,0x0,0x0,0x4910,0x5420,0x0,0x74FF,0x0,0x0,0xA38A,0xB201,0x0,0xD1FF,0x0,0x0]

def ssid_first_arr : List Nat :=
  [0,500,1000,2000,3000,4000,4500,4600,5000,5500,6000,6500,7000,7100,7200,8000,8500,9000,9500,10200,10251,10300,
   10350,10400,0xC000]

def ssid_last_arr : List Nat :=
  [120,506,1007,2008,3014,4010,4573,4615,5033,5516,6081,6521,7003,7111,7201,8000,8529,9008,9510,10210,10255,10300,
   10377,10416,0xC063]

def LOG_GET_ITEM_NUM (xx_code : Nat) : Nat := xx_code &&& 0x0FFF

/-- Conversion to `uint32_t`. -/
def u32 (x : Int) : Nat := (x % 4294967296).toNat

theorem u32_of_lt {x : Int} (low : 0 ≤ x) (high : x < 4294967296) : u32 x = x.toNat := by
  rw [u32,Int.emod_eq_of_lt low high]

/-- `BITS_TO_BYTES` of an `int`. -/
def BITS_TO_BYTES (n : Nat) : Nat := (n + 7) / 8
/-- `BITS_TO_BYTES` of a `uint32_t`, whose sum wraps. -/
def BITS_TO_BYTES32 (n : Nat) : Nat := (n + 7) % 4294967296 / 8

structure DiagSsidRange where
  ssid_first : UInt16
  ssid_last : UInt16
deriving DecidableEq, Repr

structure DiagMsgMask where
  ssid_first : Nat
  ssid_last : Nat
  ssid_last_tools : Nat
  range : Nat
  range_tools : Nat
  ptr : List UInt32
deriving DecidableEq, Repr

structure DiagLogMask where
  equip_id : UInt8
  num_items : Nat
  num_items_tools : Nat
  range : Nat
  range_tools : Nat
  ptr : List UInt8
deriving DecidableEq, Repr

structure DiagMaskInfo (α : Type) where
  ptr : α
  mask_len : Nat
  status : UInt8
deriving DecidableEq, Repr

/-- The static mask tables and `event_max_num_bits`. -/
structure MaskTables where
  msg_mask : DiagMaskInfo (List DiagMsgMask)
  msg_bt_mask : DiagMaskInfo (List DiagMsgMask)
  log_mask : DiagMaskInfo (List DiagLogMask)
  event_mask : DiagMaskInfo (List UInt8)
  event_max_num_bits : UInt16
deriving DecidableEq, Repr

/-! ## Initial tables -/

def diag_create_msg_mask_table_entry (first last : Nat) : DiagMsgMask :=
  let range := last - first + 1
  let range := if range < MAX_SSID_PER_RANGE then MAX_SSID_PER_RANGE else range
  { ssid_first := first, ssid_last := last, ssid_last_tools := last, range := range, range_tools := range,
    ptr := List.replicate range 0xFFFFFFFF }

def diag_create_msg_mask_table : List DiagMsgMask :=
  (ssid_first_arr.zip ssid_last_arr).map (fun bounds => diag_create_msg_mask_table_entry bounds.1 bounds.2)

def diag_create_log_mask_entry (equip_id log_code_last : Nat) : DiagLogMask :=
  let num_items := LOG_GET_ITEM_NUM log_code_last
  let range := if BITS_TO_BYTES num_items > MAX_ITEMS_PER_EQUIP_ID then BITS_TO_BYTES num_items
    else MAX_ITEMS_PER_EQUIP_ID
  { equip_id := UInt8.ofNat equip_id, num_items := num_items, num_items_tools := num_items, range := range,
    range_tools := range, ptr := List.replicate range 0 }

def diag_create_log_mask_table : List DiagLogMask :=
  ((List.range MAX_EQUIP_ID).zip log_code_last_tbl).map (fun row => diag_create_log_mask_entry row.1 row.2)

def diag_masks_init : MaskTables :=
  { msg_mask := ⟨diag_create_msg_mask_table,MSG_MASK_SIZE,DIAG_CTRL_MASK_INVALID⟩
    msg_bt_mask := ⟨diag_create_msg_mask_table,MSG_MASK_SIZE,DIAG_CTRL_MASK_INVALID⟩
    log_mask := ⟨diag_create_log_mask_table,LOG_MASK_SIZE,DIAG_CTRL_MASK_INVALID⟩
    event_mask := ⟨List.replicate EVENT_MASK_SIZE 0,EVENT_MASK_SIZE,DIAG_CTRL_MASK_INVALID⟩
    event_max_num_bits := APPS_EVENT_LAST_ID }

/-! ## Log masks -/

/-- Clearing every entry up to its build-time `range`. -/
def disable_log_items : List DiagLogMask → Except Fault (List DiagLogMask)
  | [] => .ok []
  | log_item :: rest => do
    let ptr ← fill log_item.ptr log_item.range 0
    let rest ← disable_log_items rest
    return { log_item with ptr := ptr } :: rest

def diag_cmd_disable_log (masks : MaskTables) : Except Fault MaskTables := do
  let items ← disable_log_items masks.log_mask.ptr
  return { masks with log_mask :=
    { masks.log_mask with ptr := items, status := DIAG_CTRL_MASK_ALL_DISABLED } }

def diag_cmd_get_log_range (masks : MaskTables) (count : Nat) : List Nat :=
  (masks.log_mask.ptr.take (min MAX_EQUIP_ID count)).map DiagLogMask.num_items_tools

/-- The entry a SET has found: capped, cleared, grown when too small, filled
    from the request. -/
def set_log_item (junk : Nat → UInt8) (num_items : Nat) (mask : Nat → UInt8) (log_item : DiagLogMask) :
    Except Fault DiagLogMask := do
  let num_items_tools := min num_items MAX_ITEMS_ALLOWED
  let mask_size := BITS_TO_BYTES32 num_items_tools
  let ptr ← fill log_item.ptr log_item.range_tools 0
  if mask_size > log_item.range_tools then
    let ptr ← fill (resize ptr mask_size junk) mask_size 0
    let ptr ← store ptr 0 (span mask 0 mask_size)
    return { log_item with num_items_tools := num_items_tools, range_tools := mask_size, ptr := ptr }
  else
    let ptr ← store ptr 0 (span mask 0 mask_size)
    return { log_item with num_items_tools := num_items_tools, ptr := ptr }

/-- The loop of SET over the log entries: the entry it stored to, if any. -/
def set_log_loop (junk : Nat → UInt8) (equip_id : UInt8) (num_items : Nat) (mask : Nat → UInt8) :
    List DiagLogMask → Except Fault (Option DiagLogMask × List DiagLogMask)
  | [] => .ok (none, [])
  | log_item :: rest =>
    if log_item.equip_id ≠ equip_id then do
      let (found, rest) ← set_log_loop junk equip_id num_items mask rest
      return (found, log_item :: rest)
    else do
      let log_item ← set_log_item junk num_items mask log_item
      return (some log_item, log_item :: rest)

/-- Returns what the call leaves in `*num_items` and `*mask_size`; `none` for
    an unknown id, where it leaves both alone. -/
def diag_cmd_set_log_mask (junk : Nat → UInt8) (masks : MaskTables) (equip_id : UInt8) (num_items : Nat)
    (mask : Nat → UInt8) : Except Fault (Option (Nat × Nat) × MaskTables) := do
  let (found, items) ← set_log_loop junk equip_id num_items mask masks.log_mask.ptr
  match found with
  | none => return (none, masks)
  | some log_item =>
    return (some (log_item.num_items_tools, BITS_TO_BYTES32 log_item.num_items_tools),
      { masks with log_mask := { masks.log_mask with ptr := items, status := DIAG_CTRL_MASK_VALID } })

/-- The item count and the mask bytes of an equipment id. -/
def diag_cmd_get_log_mask (masks : MaskTables) (equip_id : UInt32) : Except Fault (Option (Nat × List UInt8)) :=
  match masks.log_mask.ptr.find? (fun log_item => log_item.equip_id.toUInt32 = equip_id) with
  | none => .ok none
  | some log_item => do
    let mask ← load log_item.ptr (BITS_TO_BYTES32 log_item.num_items_tools)
    return some (log_item.num_items_tools, mask)

/-! ## Message masks -/

def diag_cmd_get_ssid_range (masks : MaskTables) : List DiagSsidRange :=
  masks.msg_mask.ptr.map (fun msg_item =>
    ⟨UInt16.ofNat msg_item.ssid_first,UInt16.ofNat msg_item.ssid_last_tools⟩)

/-- Number of SSIDs from first to last, `int` arithmetic stored in a `uint32_t`. -/
def num_ssids (range : DiagSsidRange) : Nat :=
  u32 ((range.ssid_last.toNat : Int) - range.ssid_first.toNat + 1)

def diag_cmd_get_build_mask (masks : MaskTables) (range : DiagSsidRange) :
    Except Fault (Option (DiagSsidRange × List UInt32)) :=
  match masks.msg_bt_mask.ptr.find? (fun msg_item => msg_item.ssid_first = range.ssid_first.toNat) with
  | none => .ok none
  | some msg_item =>
    if num_ssids range > msg_item.range then do
      let mask ← load msg_item.ptr msg_item.range
      return some ({ range with ssid_last := UInt16.ofNat (range.ssid_first.toNat + msg_item.range) }, mask)
    else do
      let mask ← load msg_item.ptr (num_ssids range)
      return some (range, mask)

/-- The entry GET reads: the first whose reported range holds the SSID. -/
def reports (ssid : Nat) (msg_item : DiagMsgMask) : Bool :=
  msg_item.ssid_first ≤ ssid ∧ ssid ≤ msg_item.ssid_last_tools

/-- Copies `range` words and hands back the build-time bounds of the entry. -/
def diag_cmd_get_msg_mask (masks : MaskTables) (range : DiagSsidRange) :
    Except Fault (Option (DiagSsidRange × List UInt32)) :=
  match masks.msg_mask.ptr.find? (reports range.ssid_first.toNat) with
  | none => .ok none
  | some msg_item => do
    let mask ← load msg_item.ptr msg_item.range
    return some (⟨UInt16.ofNat msg_item.ssid_first,UInt16.ofNat msg_item.ssid_last⟩,mask)

/-- The entries the loop of SET passes over. -/
def skips (range : DiagSsidRange) (msg_item : DiagMsgMask) (mask_next : Option DiagMsgMask) : Bool :=
  range.ssid_first.toNat < msg_item.ssid_first ∨
    range.ssid_first.toNat > msg_item.ssid_first + MAX_SSID_PER_RANGE ∨
    ∃ next ∈ mask_next, range.ssid_first.toNat ≥ next.ssid_first

/-- A request of too many SSIDs is cut to the maximum, and so is the entry. -/
def truncate_range (num_msgs : Nat) (msg_item : DiagMsgMask) : Nat × DiagMsgMask :=
  if num_msgs > MAX_SSID_PER_RANGE then
    (MAX_SSID_PER_RANGE,
      { msg_item with range_tools := MAX_SSID_PER_RANGE, ssid_last_tools := msg_item.ssid_first + MAX_SSID_PER_RANGE })
  else (num_msgs, msg_item)

/-- A request past the reported range extends the entry and reallocates it,
    unless it asks for exactly the maximum: then the bound stays. -/
def extend_range (junk : Nat → UInt32) (ssid_last num_msgs : Nat) (msg_item : DiagMsgMask) : DiagMsgMask :=
  if ssid_last > msg_item.ssid_last_tools then
    let tools := if num_msgs ≠ MAX_SSID_PER_RANGE then ssid_last else msg_item.ssid_last_tools
    let range_tools := u32 ((tools : Int) - msg_item.ssid_first + 1)
    { msg_item with ssid_last_tools := tools, range_tools := range_tools, ptr := resize msg_item.ptr range_tools junk }
  else msg_item

/-- The entry SET has selected. -/
def set_msg_item (junk : Nat → UInt32) (range : DiagSsidRange) (mask : Nat → UInt32) (msg_item : DiagMsgMask) :
    Except Fault (Nat × DiagMsgMask) :=
  let (num_msgs, cut) := truncate_range (num_ssids range) msg_item
  let item := extend_range junk range.ssid_last.toNat num_msgs cut
  let offset := u32 ((range.ssid_first.toNat : Int) - item.ssid_first)
  if offset + num_msgs > item.range_tools then .ok (1, item)
  else do
    let ptr ← store item.ptr offset (span mask 0 num_msgs)
    return (0, { item with ptr := ptr })

def set_msg_loop (junk : Nat → UInt32) (range : DiagSsidRange) (mask : Nat → UInt32) :
    List DiagMsgMask → Except Fault (Nat × List DiagMsgMask)
  | [] => .ok (1, [])
  | msg_item :: rest =>
    if skips range msg_item rest.head? then do
      let (ret, rest) ← set_msg_loop junk range mask rest
      return (ret, msg_item :: rest)
    else do
      let (ret, msg_item) ← set_msg_item junk range mask msg_item
      return (ret, msg_item :: rest)

/-- Returns 0 and marks the masks valid when the words were stored, 1 otherwise. -/
def diag_cmd_set_msg_mask (junk : Nat → UInt32) (masks : MaskTables) (range : DiagSsidRange) (mask : Nat → UInt32) :
    Except Fault (Nat × MaskTables) := do
  let (ret, items) ← set_msg_loop junk range mask masks.msg_mask.ptr
  let status := if ret = 0 then DIAG_CTRL_MASK_VALID else masks.msg_mask.status
  return (ret, { masks with msg_mask := { masks.msg_mask with ptr := items, status := status } })

/-- The word `memset` leaves: four copies of the low byte. -/
def memset_word (mask : UInt32) : UInt32 := UInt32.ofNat (mask.toNat % 256 * 0x01010101)

def set_all_items (mask : UInt32) : List DiagMsgMask → Except Fault (List DiagMsgMask)
  | [] => .ok []
  | msg_item :: rest => do
    let ptr ← fill msg_item.ptr msg_item.range_tools (memset_word mask)
    let rest ← set_all_items mask rest
    return { msg_item with ptr := ptr } :: rest

def diag_cmd_set_all_msg_mask (masks : MaskTables) (mask : UInt32) : Except Fault MaskTables := do
  let items ← set_all_items mask masks.msg_mask.ptr
  return { masks with msg_mask := { masks.msg_mask with
    ptr := items, status := if mask ≠ 0 then DIAG_CTRL_MASK_ALL_ENABLED else DIAG_CTRL_MASK_ALL_DISABLED } }

/-! ## Event masks -/

def diag_cmd_get_event_mask (masks : MaskTables) (num_bits : UInt16) : Except Fault (Option (List UInt8)) :=
  if num_bits > masks.event_max_num_bits then .ok none
  else do
    let mask ← load masks.event_mask.ptr (BITS_TO_BYTES num_bits.toNat)
    return some mask

def diag_cmd_update_event_mask (junk : Nat → UInt8) (masks : MaskTables) (num_bits : UInt16) (mask : Nat → UInt8) :
    Except Fault MaskTables :=
  let mask_size := BITS_TO_BYTES num_bits.toNat
  let grown :=
    if num_bits > masks.event_max_num_bits then
      { masks with
        event_mask := { masks.event_mask with ptr := resize masks.event_mask.ptr mask_size junk, mask_len := mask_size }
        event_max_num_bits := num_bits }
    else masks
  do
    let ptr ← store grown.event_mask.ptr 0 (span mask 0 mask_size)
    return { grown with event_mask := { grown.event_mask with ptr := ptr, status := DIAG_CTRL_MASK_VALID } }

def diag_cmd_toggle_events (masks : MaskTables) (enabled : Bool) : Except Fault MaskTables := do
  let ptr ← fill masks.event_mask.ptr masks.event_mask.mask_len (if enabled then 0xff else 0x00)
  return { masks with event_mask := { masks.event_mask with
    ptr := ptr, status := if enabled then DIAG_CTRL_MASK_ALL_ENABLED else DIAG_CTRL_MASK_ALL_DISABLED } }

end DiagRouter.Masks

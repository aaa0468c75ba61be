import DiagRouter.Lib.CString
import DiagRouter.Lib.Runs
import DiagRouter.Handlers

/-!
# Control packets

What a peripheral's control channel does to the router: registrations of
commands, the features, and the ids of processes. A handler is given the packet
with the memory that follows it, and the length of the whole buffer.
-/
namespace DiagRouter.Cntl
open DiagRouter.Lib.Memory DiagRouter.Lib.Words DiagRouter.Lib.CString DiagRouter.Lib.Runs DiagRouter.Masks
open DiagRouter.Dispatch DiagRouter.Clients DiagRouter.Peripherals DiagRouter.Handlers

def DIAG_FEATURE_FEATURE_MASK_SUPPORT : UInt32 := 0x1
def DIAG_FEATURE_DIAG_MASTER_SETS_COMMON_MASK : UInt32 := 0x2
def DIAG_FEATURE_SOCKETS_ENABLED : UInt32 := 0x2000
def DIAG_FEATURE_DIAG_ID : UInt32 := 0x8000
def DIAG_FEATURE_DIAG_ID_FEATURE_MASK : UInt32 := 0x80000

def DIAG_CNTL_CMD_REGISTER : UInt32 := 1
def DIAG_CNTL_CMD_DIAG_MODE : UInt32 := 3
def DIAG_CNTL_CMD_FEATURE_MASK : UInt32 := 8
def DIAG_CNTL_CMD_NUM_PRESETS : UInt32 := 12
def DIAG_CNTL_CMD_BUFFERING_TX_MODE : UInt32 := 17
def DIAG_CNTL_CMD_DEREGISTER : UInt32 := 27
def DIAG_CNTL_CMD_DIAG_ID : UInt32 := 33

def DIAG_ID_VERSION_1 : UInt32 := 1
def DIAG_ID_VERSION_2 : UInt32 := 2
def DIAG_ID_VERSION_3 : UInt32 := 3
def DIAG_ID_APPS : UInt32 := 1

/-- What the control channel also knows of a peripheral. -/
structure CntlPeripheral extends Peripheral where
  cmd_fd : Int
  sockets : Bool
  diag_id : Int
deriving DecidableEq, Repr

def cntl_push (peripheral : CntlPeripheral) (msg : List UInt8) : CntlPeripheral :=
  { peripheral with cntlq := queue_push peripheral.cntlq msg }

/-! ## Features -/

def diag_cntl_set_diag_mode (perif : CntlPeripheral) (real_time : Bool) : CntlPeripheral :=
  let vote := le32 (if real_time then 1 else 0)
  if perif.diag_id ≠ 0 then
    cntl_push perif (le32 DIAG_CNTL_CMD_DIAG_MODE ++ le32 37 ++ le32 2 ++ vote ++ vote ++ List.replicate 24 0 ++
      [UInt8.ofInt perif.diag_id])
  else cntl_push perif (le32 DIAG_CNTL_CMD_DIAG_MODE ++ le32 36 ++ le32 1 ++ vote ++ vote ++ List.replicate 24 0)

def diag_cntl_set_buffering_mode (perif : CntlPeripheral) (mode : Int) : CntlPeripheral :=
  if perif.diag_id ≠ 0 then
    cntl_push perif (le32 DIAG_CNTL_CMD_BUFFERING_TX_MODE ++ le32 7 ++ le32 2 ++
      [UInt8.ofInt perif.diag_id,0,UInt8.ofInt mode])
  else cntl_push perif (le32 DIAG_CNTL_CMD_BUFFERING_TX_MODE ++ le32 6 ++ le32 1 ++ [0,UInt8.ofInt mode])

/-- The packet ends in two bytes that nobody writes. -/
def diag_cntl_send_feature_mask (junk : Nat → Nat → UInt8) (masks : MaskTables) (peripheral : CntlPeripheral)
    (mask : UInt32) : Except Fault CntlPeripheral :=
  if peripheral.cntl_fd = -1 then .ok peripheral
  else do
    let peripheral := cntl_push peripheral (packet DIAG_CNTL_CMD_FEATURE_MASK (le32 4 ++ le32 mask ++ span (junk 0) 0 2))
    let sent ← diag_cntl_send_masks (fun i => junk (i + 1)) masks peripheral.toPeripheral
    let peripheral := { peripheral with toPeripheral := sent }
    return diag_cntl_set_buffering_mode (diag_cntl_set_diag_mode peripheral true) 0

/-- The features the router takes part in. -/
def local_mask (peripheral : CntlPeripheral) : UInt32 :=
  DIAG_FEATURE_FEATURE_MASK_SUPPORT ||| DIAG_FEATURE_DIAG_MASTER_SETS_COMMON_MASK |||
    (if peripheral.cmd_fd ≥ 0 then DIAG_FEATURE_REQ_RSP_SUPPORT else 0) ||| DIAG_FEATURE_APPS_HDLC_ENCODE |||
    (if peripheral.sockets then DIAG_FEATURE_SOCKETS_ENABLED else 0) ||| DIAG_FEATURE_DIAG_ID |||
    DIAG_FEATURE_DIAG_ID_FEATURE_MASK

def diag_cntl_feature_mask (junk : Nat → Nat → UInt8) (masks : MaskTables) (memory : Nat → UInt8)
    (peripheral : CntlPeripheral) : Except Fault CntlPeripheral :=
  let features := le32At memory 12 &&& local_mask peripheral
  diag_cntl_send_feature_mask junk masks { peripheral with features := features } features

/-! ## Ids -/

/-- The table, and the `static` counter of `diag_cntl_process_diag_id`. -/
structure DiagIds where
  diag_ids : List DiagIdTbl
  diag_id : UInt32
deriving DecidableEq, Repr

def no_diag_ids : DiagIds := ⟨[],DIAG_ID_APPS⟩

/-- The first byte of `diagid_info`. -/
def item_diag_id (diag_id_item : DiagIdTbl) : UInt8 := diag_id_item.diagid_info.headD 0

/-- The string after the id and the length. -/
def item_process_name (diag_id_item : DiagIdTbl) : List UInt8 := c_string_of (diag_id_item.diagid_info.drop 2)

/-- Returns 0, or a negative `errno` and leaves the table alone. -/
def register_diag_id (diag_id : UInt8) (process_name : List UInt8) (len : UInt8) (diag_ids : List DiagIdTbl) :
    Int × List DiagIdTbl :=
  if len = 0 ∨ diag_id = 0 then (-EINVAL,diag_ids)
  else (0,diag_ids ++ [⟨2 + len,[diag_id,len] ++ strncpy process_name (len.toNat - 1) ++ [0]⟩])

def find_diag_id (name : List UInt8) (diag_ids : List DiagIdTbl) : Option UInt8 :=
  (diag_ids.find? (fun diag_id_item => item_process_name diag_id_item = name)).map item_diag_id

def diag_id_exists (diag_id : UInt32) (diag_ids : List DiagIdTbl) : Bool :=
  diag_ids.any (fun diag_id_item => diag_id = (item_diag_id diag_id_item).toUInt32)

/-- Whether the packet is read as `struct diag_cntl_cmd_diag_id_v2`. -/
def is_v2 (features : UInt32) (memory : Nat → UInt8) : Bool :=
  features &&& DIAG_FEATURE_DIAG_ID_FEATURE_MASK ≠ 0 ∧ le32At memory 8 ≥ DIAG_ID_VERSION_2

/-- The size of the structure the packet is read as. -/
def diag_id_size (features : UInt32) (memory : Nat → UInt8) : Nat := if is_v2 features memory then 28 else 16

/-- Where the name begins: after the feature mask, of which the structure has
    the address only. -/
def process_name_at (features : UInt32) (memory : Nat → UInt8) : Nat :=
  if is_v2 features memory then 20 + (le32At memory 16).toNat else 16

def process_name (features : UInt32) (memory : Nat → UInt8) : Except Fault (List UInt8) :=
  c_string memory (process_name_at features memory)

/-- `process_name_len`: the length with its NUL, in 8 bits. -/
def process_name_len (name : List UInt8) : UInt8 := UInt8.ofNat (name.length + 1)

/-- The id asked for, or the next one of the counter. -/
def next_diag_id (memory : Nat → UInt8) (ids : DiagIds) : UInt32 :=
  if le32At memory 8 ≥ DIAG_ID_VERSION_3 then le32At memory 12 else ids.diag_id + 1

/-- The id of a name, which is registered if it is not known yet. The counter
    stays incremented when that fails. -/
def local_diag_id (memory : Nat → UInt8) (name : List UInt8) (ids : DiagIds) : Option UInt32 × DiagIds :=
  match find_diag_id name ids.diag_ids with
  | some found => (some found.toUInt32,ids)
  | none =>
    let next := next_diag_id memory ids
    let ids := if le32At memory 8 ≥ DIAG_ID_VERSION_3 then ids else { ids with diag_id := next }
    if diag_id_exists next ids.diag_ids then (none,ids)
    else
      let (ret,diag_ids) := register_diag_id next.toUInt8 name (process_name_len name) ids.diag_ids
      if ret ≠ 0 then (none,ids) else (some next,{ ids with diag_ids := diag_ids })

/-- `process_name_len` is not 0 here: no name that wraps to 0 is found or
    registered. -/
def diag_id_resp (diag_id : UInt32) (name : List UInt8) : List UInt8 :=
  let len := process_name_len name
  le32 DIAG_CNTL_CMD_DIAG_ID ++ le32 (UInt32.ofNat (8 + len.toNat)) ++ le32 DIAG_ID_VERSION_1 ++ le32 diag_id ++
    strncpy name (len.toNat - 1) ++ [0]

def diag_cntl_process_diag_id (memory : Nat → UInt8) (len : Nat) (ids : DiagIds) (peripheral : CntlPeripheral) :
    Except Fault (Int × DiagIds × CntlPeripheral) :=
  if len < diag_id_size peripheral.features memory then .ok (-EINVAL,ids,peripheral)
  else do
    let name ← process_name peripheral.features memory
    match local_diag_id memory name ids with
    | (none,ids) => return (-EINVAL,ids,peripheral)
    | (some diag_id,ids) => return (0,{ ids with diag_id := diag_id },cntl_push peripheral (diag_id_resp diag_id name))

/-! ## Packets -/

/-- The router as one peripheral's control channel finds it. -/
structure Cntl where
  diag_cmds : List (DiagCmd Nat)
  ids : DiagIds
  peripheral : CntlPeripheral
deriving DecidableEq, Repr

/-- One packet; `n` is the length of the buffer it is in. -/
def process_packet (junk : Nat → Nat → UInt8) (masks : MaskTables) (memory : Nat → UInt8) (n : Nat) (state : Cntl) :
    Except Fault Cntl :=
  let cmd := le32At memory 0
  if cmd = DIAG_CNTL_CMD_REGISTER then
    .ok { state with diag_cmds := diag_cntl_register state.peripheral.addr memory state.diag_cmds }
  else if cmd = DIAG_CNTL_CMD_FEATURE_MASK then do
    let peripheral ← diag_cntl_feature_mask junk masks memory state.peripheral
    return { state with peripheral := peripheral }
  else if cmd = DIAG_CNTL_CMD_DIAG_ID then do
    let (_,ids,peripheral) ← diag_cntl_process_diag_id memory n state.ids state.peripheral
    return { state with ids := ids, peripheral := peripheral }
  else if cmd = DIAG_CNTL_CMD_NUM_PRESETS then .ok state
  else if cmd = DIAG_CNTL_CMD_DEREGISTER then
    .ok { state with diag_cmds := diag_cntl_deregister state.peripheral.addr memory state.diag_cmds }
  else .ok state

/-- The memory from an address on. -/
def starting (memory : Nat → UInt8) (offset : Nat) : Nat → UInt8 := fun i => memory (offset + i)

/-- The header at the offset, and the rest of its packet, are in the buffer. -/
def is_complete (memory : Nat → UInt8) (n offset : Nat) : Bool :=
  offset + 8 ≤ n ∧ offset + 8 + (le32At (starting memory offset) 4).toNat ≤ n

/-- The loop of `diag_cntl_recv` from an offset on. Every pass moves by a header
    at least, so `n` passes are enough. -/
def recv_loop (junk : Nat → Nat → UInt8) (masks : MaskTables) (memory : Nat → UInt8) (n : Nat) :
    (fuel : Nat) → (offset : Nat) → Cntl → Except Fault Cntl
  | 0, _, _ => .error .hang
  | fuel + 1, offset, state =>
    if is_complete memory n offset then do
      let state ← process_packet junk masks (starting memory offset) n state
      recv_loop junk masks memory n fuel (offset + 8 + (le32At (starting memory offset) 4).toNat) state
    else .ok state

def diag_cntl_recv (junk : Nat → Nat → UInt8) (masks : MaskTables) (memory : Nat → UInt8) (n : Nat) (state : Cntl) :
    Except Fault Cntl := recv_loop junk masks memory n (n + 1) 0 state

end DiagRouter.Cntl

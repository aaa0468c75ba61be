import DiagRouter.Clients
import DiagRouter.Masks

/-!
# Peripherals

What the router queues to the processors it serves: client messages, and the
mask packets of `diag_cntl.c`, built from the mask tables for each peripheral
in turn.
-/
namespace DiagRouter.Peripherals
open DiagRouter.Lib.Memory DiagRouter.Lib.Words DiagRouter.Masks DiagRouter.Clients

def DIAG_FEATURE_REQ_RSP_SUPPORT : UInt32 := 0x10
def DIAG_FEATURE_APPS_HDLC_ENCODE : UInt32 := 0x40
def DIAG_CNTL_CMD_LOG_MASK : UInt32 := 9
def DIAG_CNTL_CMD_EVENT_MASK : UInt32 := 10
def DIAG_CNTL_CMD_MSG_MASK : UInt32 := 11

/-- The `send` function of a peripheral. -/
inductive SendFunction
  | perif_rpmsg_send
  | qrtr_perif_send
deriving DecidableEq, Repr

/-- `addr` is the address of the structure, by which registrations refer to it. -/
structure Peripheral where
  addr : Nat
  features : UInt32
  cntl_fd : Int
  cmdq : List (List UInt8)
  cntlq : List (List UInt8)
  dataq : List (List UInt8)
  send : SendFunction
deriving DecidableEq, Repr

/-! ## Client messages -/

/-- A message as the peripheral wants it. -/
def push_encoded (peripheral : Peripheral) (queue : List (List UInt8)) (msg : List UInt8) : List (List UInt8) :=
  if peripheral.features &&& DIAG_FEATURE_APPS_HDLC_ENCODE ≠ 0 then queue_push queue msg else hdlc_enqueue queue msg

def perif_rpmsg_send (peripheral : Peripheral) (msg : List UInt8) : Peripheral :=
  if peripheral.features &&& DIAG_FEATURE_REQ_RSP_SUPPORT ≠ 0 then
    { peripheral with cmdq := push_encoded peripheral peripheral.cmdq msg }
  else { peripheral with dataq := push_encoded peripheral peripheral.dataq msg }

def qrtr_perif_send (peripheral : Peripheral) (msg : List UInt8) : Peripheral :=
  { peripheral with cmdq := push_encoded peripheral peripheral.cmdq msg }

def peripheral_send (peripheral : Peripheral) (msg : List UInt8) : Peripheral :=
  match peripheral.send with
  | .perif_rpmsg_send => perif_rpmsg_send peripheral msg
  | .qrtr_perif_send => qrtr_perif_send peripheral msg

/-! ## Mask packets -/

/-- `struct diag_cntl_hdr`: the command, and the length of the rest. -/
def diag_cntl_hdr (cmd : UInt32) (rest : List UInt8) : List UInt8 := le32 cmd ++ le32 (UInt32.ofNat rest.length)

/-- A whole packet. -/
def packet (cmd : UInt32) (rest : List UInt8) : List UInt8 := diag_cntl_hdr cmd rest ++ rest

def diag_cntl_send_log_mask (masks : MaskTables) (peripheral : Peripheral) (equip_id : UInt32) : Except Fault Peripheral :=
  let status := masks.log_mask.status
  if peripheral.cntl_fd = -1 then .ok peripheral
  else do
    let found ← if status = DIAG_CTRL_MASK_VALID then diag_cmd_get_log_mask masks equip_id else pure none
    let equip_id := if status = DIAG_CTRL_MASK_VALID then equip_id else 0
    let (num_items,mask) := found.getD (0,[])
    let rest := [1,status,equip_id.toUInt8] ++ le32 (UInt32.ofNat num_items) ++ le32 (UInt32.ofNat mask.length) ++ mask
    return { peripheral with cntlq := queue_push peripheral.cntlq (packet DIAG_CNTL_CMD_LOG_MASK rest) }

/-- What a message mask packet is built from: the range and the words, if any
    were found, and how many of them the packet has. NULL ranges are `none`. -/
def msg_mask_items (masks : MaskTables) (range : Option DiagSsidRange) :
    Except Fault (Option DiagSsidRange × Option (List UInt32) × Nat) :=
  let status := masks.msg_mask.status
  if status = DIAG_CTRL_MASK_VALID ∨ status = DIAG_CTRL_MASK_ALL_ENABLED then
    match range with
    | none => .error .nullPointer
    | some asked => do
      let found ← diag_cmd_get_msg_mask masks asked
      let range := (found.map Prod.fst).getD asked
      let num_items := if status = DIAG_CTRL_MASK_VALID then num_ssids range else 1
      return (some range,found.map Prod.snd,num_items)
  else .ok (range,none,0)

/-- The range is handed back as the packet's lookup leaves it. What a packet
    holds for words that were not found is `junk`. -/
def diag_cntl_send_msg_mask (junk : Nat → UInt8) (masks : MaskTables) (peripheral : Peripheral)
    (range : Option DiagSsidRange) : Except Fault (Option DiagSsidRange × Peripheral) :=
  let status := masks.msg_mask.status
  if peripheral.cntl_fd = -1 then .ok (range,peripheral)
  else do
    let (range,mask,num_items) ← msg_mask_items masks range
    let shown := if status = DIAG_CTRL_MASK_ALL_DISABLED then some ⟨0,0⟩ else range
    let mask_size := u32 (num_items * 4)
    match shown with
    | none => .error .nullPointer
    | some shown =>
      let words ← match mask with
        | some mask => load (le32s mask) mask_size
        | none => pure (span junk 0 mask_size)
      let rest := [1,status,0] ++ le16 shown.ssid_first ++ le16 shown.ssid_last ++ le32 (UInt32.ofNat num_items) ++ words
      return (range,{ peripheral with cntlq := queue_push peripheral.cntlq (packet DIAG_CNTL_CMD_MSG_MASK rest) })

/-- The loop of `diag_cntl_send_masks` over the build-time bounds. -/
def send_masks_loop (junk : Nat → Nat → UInt8) (masks : MaskTables) : List (Nat × Nat) → Peripheral → Except Fault Peripheral
  | [], peripheral => .ok peripheral
  | bounds :: rest, peripheral => do
    let range : DiagSsidRange := ⟨UInt16.ofNat bounds.1,UInt16.ofNat bounds.2⟩
    let (_,peripheral) ← diag_cntl_send_msg_mask (junk 0) masks peripheral (some range)
    send_masks_loop (fun i => junk (i + 1)) masks rest peripheral

def diag_cntl_send_masks (junk : Nat → Nat → UInt8) (masks : MaskTables) (peripheral : Peripheral) : Except Fault Peripheral :=
  send_masks_loop junk masks (ssid_first_arr.zip ssid_last_arr) peripheral

def diag_cntl_send_event_mask (masks : MaskTables) (peripheral : Peripheral) : Except Fault Peripheral :=
  let status := masks.event_mask.status
  let event_config : UInt8 := if status = DIAG_CTRL_MASK_ALL_ENABLED ∨ status = DIAG_CTRL_MASK_VALID then 1 else 0
  if peripheral.cntl_fd = -1 then .ok peripheral
  else do
    let found ← if status = DIAG_CTRL_MASK_VALID then diag_cmd_get_event_mask masks masks.event_max_num_bits
      else pure none
    let mask := found.getD []
    let rest := [1,status,event_config] ++ le32 (UInt32.ofNat mask.length) ++ mask
    return { peripheral with cntlq := queue_push peripheral.cntlq (packet DIAG_CNTL_CMD_EVENT_MASK rest) }

/-! ## Broadcasts -/

def peripheral_broadcast_event_mask (masks : MaskTables) : List Peripheral → Except Fault (List Peripheral)
  | [] => .ok []
  | peripheral :: rest => do
    let peripheral ← diag_cntl_send_event_mask masks peripheral
    let rest ← peripheral_broadcast_event_mask masks rest
    return peripheral :: rest

def peripheral_broadcast_log_mask (masks : MaskTables) (equip_id : UInt32) :
    List Peripheral → Except Fault (List Peripheral)
  | [] => .ok []
  | peripheral :: rest => do
    let peripheral ← diag_cntl_send_log_mask masks peripheral equip_id
    let rest ← peripheral_broadcast_log_mask masks equip_id rest
    return peripheral :: rest

/-- Every peripheral is served from the range the one before it left. -/
def peripheral_broadcast_msg_mask (junk : Nat → Nat → UInt8) (masks : MaskTables) (range : Option DiagSsidRange) :
    List Peripheral → Except Fault (Option DiagSsidRange × List Peripheral)
  | [] => .ok (range,[])
  | peripheral :: rest => do
    let (range,peripheral) ← diag_cntl_send_msg_mask (junk 0) masks peripheral range
    let (range,rest) ← peripheral_broadcast_msg_mask (fun i => junk (i + 1)) masks range rest
    return (range,peripheral :: rest)

/-! ## What is queued -/

section
variable {masks : MaskTables} {p after : Peripheral}

/-- The items and the mask of an id are those that the tables have, or none. -/
theorem send_log_mask_packet {equip_id : UInt32} (channel : p.cntl_fd ≠ -1)
    (sent : diag_cntl_send_log_mask masks p equip_id = .ok after) :
    ∃ byte found, (found = none ∨ diag_cmd_get_log_mask masks equip_id = .ok found) ∧
      after = { p with cntlq := p.cntlq ++ [packet DIAG_CNTL_CMD_LOG_MASK ([1,masks.log_mask.status,byte] ++
        le32 (UInt32.ofNat (found.getD (0,[])).1) ++ le32 (UInt32.ofNat (found.getD (0,[])).2.length) ++
        (found.getD (0,[])).2)] } := by
  unfold diag_cntl_send_log_mask at sent
  dsimp only at sent
  rw [if_neg channel] at sent
  split_ifs at sent
  · obtain ⟨found,got,same⟩ := bind_eq_ok.mp sent
    cases same
    exact ⟨_,found,.inr got,rfl⟩
  · cases sent
    exact ⟨_,none,.inl rfl,rfl⟩

/-- The whole event mask while it is valid, and no byte otherwise. -/
theorem send_event_mask_packet (channel : p.cntl_fd ≠ -1) (sent : diag_cntl_send_event_mask masks p = .ok after) :
    ∃ byte mask, after = { p with cntlq := p.cntlq ++ [packet DIAG_CNTL_CMD_EVENT_MASK
        ([1,masks.event_mask.status,byte] ++ le32 (UInt32.ofNat mask.length) ++ mask)] } ∧
      mask.length = if masks.event_mask.status = DIAG_CTRL_MASK_VALID then BITS_TO_BYTES masks.event_max_num_bits.toNat
        else 0 := by
  unfold diag_cntl_send_event_mask at sent
  dsimp only at sent
  rw [if_neg channel] at sent
  by_cases valid : masks.event_mask.status = DIAG_CTRL_MASK_VALID
  · rw [if_pos valid] at sent
    obtain ⟨found,got,same⟩ := bind_eq_ok.mp sent
    cases same
    refine ⟨_,found.getD [],rfl,?_⟩
    rw [diag_cmd_get_event_mask,if_neg (UInt16.lt_irrefl _)] at got
    obtain ⟨mask,loaded,same⟩ := bind_eq_ok.mp got
    cases same
    rw [if_pos valid]
    exact load_length loaded
  · rw [if_neg valid] at sent
    cases sent
    exact ⟨_,[],rfl,(if_neg valid).symm⟩

/-- As many words as the packet has items, for the range that is left behind but
    for masks that are disabled as a whole. -/
theorem send_msg_mask_packet {junk : Nat → UInt8} {range left : Option DiagSsidRange} (channel : p.cntl_fd ≠ -1)
    (sent : diag_cntl_send_msg_mask junk masks p range = .ok (left,after)) :
    ∃ shown mask num_items words, msg_mask_items masks range = .ok (left,mask,num_items) ∧
      words.length = u32 (num_items * 4) ∧
      (masks.msg_mask.status ≠ DIAG_CTRL_MASK_ALL_DISABLED → left = some shown) ∧
      after = { p with cntlq := p.cntlq ++ [packet DIAG_CNTL_CMD_MSG_MASK ([1,masks.msg_mask.status,0] ++
        le16 shown.ssid_first ++ le16 shown.ssid_last ++ le32 (UInt32.ofNat num_items) ++ words)] } := by
  unfold diag_cntl_send_msg_mask at sent
  dsimp only at sent
  rw [if_neg channel] at sent
  obtain ⟨⟨range',mask,num_items⟩,items,more⟩ := bind_eq_ok.mp sent
  dsimp only at more
  generalize same : (if masks.msg_mask.status = DIAG_CTRL_MASK_ALL_DISABLED then some ⟨0,0⟩ else range') = shown at more
  cases shown with
  | none => cases more
  | some shown =>
    have left_shown : masks.msg_mask.status ≠ DIAG_CTRL_MASK_ALL_DISABLED → range' = some shown := by
      intro other
      rw [← same,if_neg other]
    cases mask with
    | none =>
      cases more
      exact ⟨shown,none,num_items,_,items,span_length _ _ _,left_shown,rfl⟩
    | some mask =>
      obtain ⟨words,copied,last⟩ := bind_eq_ok.mp more
      cases last
      exact ⟨shown,some mask,num_items,words,items,load_length copied,left_shown,rfl⟩

end

end DiagRouter.Peripherals

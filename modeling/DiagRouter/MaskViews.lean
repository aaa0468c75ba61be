import DiagRouter.CntlPackets
import DiagRouter.Lib.Replay

/-!
# What a peripheral makes of its mask packets

A peripheral knows the masks from the control packets it was sent: `view` folds
them in order. The senders are summed up by the packets they queue, and so is
the handshake that a new peripheral gets its masks from.
-/
namespace DiagRouter.MaskViews
open DiagRouter.Lib.Memory DiagRouter.Lib.Words DiagRouter.Lib.Replay DiagRouter.Masks DiagRouter.MsgMaskTable
open DiagRouter.Peripherals DiagRouter.Cntl DiagRouter.Clients
open DiagRouter.Handlers (range_at)
open DiagRouter.MsgMaskReadBack (Contains)
open DiagRouter.CntlPackets (field packet_cmd packet_field)
open DiagRouter.MaskBroadcast (msg_packet)

/-! ## Views -/

/-- Of a kind that is enabled or disabled as a whole no item count is told. -/
structure LogSetting where
  num_items : Option UInt32
  bits : Nat → Bool

/-- What a peripheral was told of each SSID, equipment id and event. -/
structure View where
  msg : UInt16 → Option UInt32
  log : UInt8 → Option LogSetting
  event : Nat → Option Bool

def unset : View := ⟨fun _ => none,fun _ => none,fun _ => none⟩

/-- The bit in the bytes from an address on. -/
def bit_at (memory : Nat → UInt8) (offset i : Nat) : Bool := (memory (offset + i / 8)).toNat.testBit (i % 8)

/-- What a packet says by its status byte. -/
def status_update {κ ω : Type} (disabled enabled : ω) (values : κ → Option ω) (status : UInt8) : Update κ ω :=
  if status = DIAG_CTRL_MASK_ALL_DISABLED then .all disabled
  else if status = DIAG_CTRL_MASK_ALL_ENABLED then .all enabled
  else if status = DIAG_CTRL_MASK_VALID then .carry values
  else .keep

/-- What a packet says of the masks of a kind. -/
def mask_update {κ ω : Type} (cmd : UInt32) (disabled enabled : ω) (values : (Nat → UInt8) → κ → Option ω)
    (pkt : List UInt8) : Update κ ω :=
  let memory := place pkt (fun _ => 0)
  if le32At memory 0 = cmd then status_update disabled enabled (values memory) (memory 9) else .keep

/-- The words from offset 19 on, of as many SSIDs of the range as there are words. -/
def carried_words (memory : Nat → UInt8) (ssid : UInt16) : Option UInt32 :=
  let i := ssid.toNat - (range_at memory 11).ssid_first.toNat
  if Contains (range_at memory 11) ssid ∧ i < (le32At memory 15).toNat then some (le32At memory (19 + 4 * i)) else none

/-- The mask from offset 19 on, of one equipment id. -/
def carried_items (memory : Nat → UInt8) (equip_id : UInt8) : Option LogSetting :=
  if equip_id = memory 10 then
    some ⟨some (le32At memory 11),fun i => i < 8 * (le32At memory 15).toNat && bit_at memory 19 i⟩
  else none

/-- The bits of the bytes from offset 15 on. -/
def carried_bits (memory : Nat → UInt8) (i : Nat) : Option Bool :=
  if i < 8 * (le32At memory 11).toNat then some (bit_at memory 15 i) else none

def msg_update : List UInt8 → Update UInt16 UInt32 := mask_update DIAG_CNTL_CMD_MSG_MASK 0 0xFFFFFFFF carried_words

def log_update : List UInt8 → Update UInt8 LogSetting :=
  mask_update DIAG_CNTL_CMD_LOG_MASK ⟨none,fun _ => false⟩ ⟨none,fun _ => true⟩ carried_items

def event_update : List UInt8 → Update Nat Bool := mask_update DIAG_CNTL_CMD_EVENT_MASK false true carried_bits

def view_step (known : View) (pkt : List UInt8) : View :=
  ⟨(msg_update pkt).apply known.msg,(log_update pkt).apply known.log,(event_update pkt).apply known.event⟩

/-- What a peripheral knows after the packets of its control queue. -/
def view (cntlq : List (List UInt8)) : View := cntlq.foldl view_step unset

theorem foldl_view_step (pkts : List (List UInt8)) (known : View) :
    pkts.foldl view_step known = ⟨replay (pkts.map msg_update) known.msg,replay (pkts.map log_update) known.log,
      replay (pkts.map event_update) known.event⟩ := by
  induction pkts generalizing known with
  | nil => rfl
  | cons pkt rest ih => exact ih (view_step known pkt)

/-- More packets are replayed on what is known. -/
theorem view_append (cntlq pkts : List (List UInt8)) :
    view (cntlq ++ pkts) = ⟨replay (pkts.map msg_update) (view cntlq).msg,replay (pkts.map log_update) (view cntlq).log,
      replay (pkts.map event_update) (view cntlq).event⟩ := by
  rw [view,List.foldl_append,foldl_view_step]
  rfl

/-! ## Packets of a kind -/

/-- A packet of a kind of masks. -/
def mask_packet (cmd : UInt32) (status byte : UInt8) (body : List UInt8) : List UInt8 := packet cmd ([1,status,byte] ++ body)

theorem msg_packet_kind (shown : DiagSsidRange) (num_items : UInt32) (words : List UInt8) :
    field (msg_packet shown num_items words) 0 = DIAG_CNTL_CMD_MSG_MASK := packet_cmd _ _

theorem mask_packet_kind (cmd : UInt32) (status byte : UInt8) (body : List UInt8) :
    field (mask_packet cmd status byte body) 0 = cmd := packet_cmd _ _

section
variable {κ ω : Type} {disabled enabled : ω} {values : (Nat → UInt8) → κ → Option ω} {cmd : UInt32}

theorem update_other {pkt : List UInt8} (other : field pkt 0 ≠ cmd) : mask_update cmd disabled enabled values pkt = .keep := by
  rw [field] at other
  rw [mask_update,if_neg other]

theorem update_packet (status byte : UInt8) (body : List UInt8) :
    mask_update cmd disabled enabled values (mask_packet cmd status byte body) =
      status_update disabled enabled (values (place (mask_packet cmd status byte body) (fun _ => 0))) status := by
  have kind : le32At (place (mask_packet cmd status byte body) (fun _ => 0)) 0 = cmd := packet_cmd _ _
  rw [mask_update,if_pos kind]
  rfl

theorem update_invalid (body : List UInt8) (byte : UInt8) :
    mask_update cmd disabled enabled values (mask_packet cmd DIAG_CTRL_MASK_INVALID byte body) = .keep := by
  rw [update_packet]
  rfl

theorem update_disabled (body : List UInt8) (byte : UInt8) :
    mask_update cmd disabled enabled values (mask_packet cmd DIAG_CTRL_MASK_ALL_DISABLED byte body) = .all disabled := by
  rw [update_packet]
  rfl

theorem update_valid (body : List UInt8) (byte : UInt8) :
    mask_update cmd disabled enabled values (mask_packet cmd DIAG_CTRL_MASK_VALID byte body) =
      .carry (values (place (mask_packet cmd DIAG_CTRL_MASK_VALID byte body) (fun _ => 0))) := by
  rw [update_packet]
  rfl

/-- Whatever a packet carries, one that sets the whole kind brings every key. -/
theorem update_brings {status : UInt8} (byte : UInt8) (body : List UInt8) (k : κ)
    (whole : status = DIAG_CTRL_MASK_ALL_DISABLED ∨ status = DIAG_CTRL_MASK_ALL_ENABLED) :
    (mask_update cmd disabled enabled values (mask_packet cmd status byte body)).Brings k := by
  rw [update_packet]
  rcases whole with rfl | rfl
  · trivial
  · trivial

end

/-- The other kinds keep what is known. -/
theorem view_log_packet (cntlq : List (List UInt8)) (status byte : UInt8) (body : List UInt8) :
    view (cntlq ++ [mask_packet DIAG_CNTL_CMD_LOG_MASK status byte body]) =
      { view cntlq with
        log := (log_update (mask_packet DIAG_CNTL_CMD_LOG_MASK status byte body)).apply (view cntlq).log } := by
  have msg : msg_update (mask_packet DIAG_CNTL_CMD_LOG_MASK status byte body) = .keep :=
    update_other (by rw [mask_packet_kind]; decide)
  have event : event_update (mask_packet DIAG_CNTL_CMD_LOG_MASK status byte body) = .keep :=
    update_other (by rw [mask_packet_kind]; decide)
  rw [view_append]
  simp only [List.map_cons,List.map_nil,msg,event]
  rfl

theorem view_event_packet (cntlq : List (List UInt8)) (status byte : UInt8) (body : List UInt8) :
    view (cntlq ++ [mask_packet DIAG_CNTL_CMD_EVENT_MASK status byte body]) =
      { view cntlq with
        event := (event_update (mask_packet DIAG_CNTL_CMD_EVENT_MASK status byte body)).apply (view cntlq).event } := by
  have msg : msg_update (mask_packet DIAG_CNTL_CMD_EVENT_MASK status byte body) = .keep :=
    update_other (by rw [mask_packet_kind]; decide)
  have log : log_update (mask_packet DIAG_CNTL_CMD_EVENT_MASK status byte body) = .keep :=
    update_other (by rw [mask_packet_kind]; decide)
  rw [view_append]
  simp only [List.map_cons,List.map_nil,msg,log]
  rfl

theorem view_msg_packets {pkts : List (List UInt8)} (cntlq : List (List UInt8))
    (kind : ∀ pkt ∈ pkts, field pkt 0 = DIAG_CNTL_CMD_MSG_MASK) :
    view (cntlq ++ pkts) = { view cntlq with msg := replay (pkts.map msg_update) (view cntlq).msg } := by
  have log : ∀ update ∈ pkts.map log_update, update.apply (view cntlq).log = (view cntlq).log := by
    intro update member
    obtain ⟨pkt,among,rfl⟩ := List.mem_map.mp member
    rw [log_update,update_other (by rw [kind pkt among]; decide)]
    rfl
  have event : ∀ update ∈ pkts.map event_update, update.apply (view cntlq).event = (view cntlq).event := by
    intro update member
    obtain ⟨pkt,among,rfl⟩ := List.mem_map.mp member
    rw [event_update,update_other (by rw [kind pkt among]; decide)]
    rfl
  rw [view_append,replay_fixed log,replay_fixed event]

/-- A packet that is no mask packet tells nothing. -/
theorem view_plain {cmd : UInt32} {rest : List UInt8} (cntlq : List (List UInt8)) (log : cmd ≠ DIAG_CNTL_CMD_LOG_MASK)
    (event : cmd ≠ DIAG_CNTL_CMD_EVENT_MASK) (msg : cmd ≠ DIAG_CNTL_CMD_MSG_MASK) :
    view (cntlq ++ [packet cmd rest]) = view cntlq := by
  have plain : msg_update (packet cmd rest) = .keep ∧ log_update (packet cmd rest) = .keep ∧
      event_update (packet cmd rest) = .keep :=
    ⟨update_other (by rw [packet_cmd]; exact msg),update_other (by rw [packet_cmd]; exact log),
      update_other (by rw [packet_cmd]; exact event)⟩
  rw [view_append]
  simp only [List.map_cons,List.map_nil,plain]
  rfl

/-- A valid packet of words brings the SSIDs that its range names and that it has
    words for. -/
theorem msg_packet_brings (shown : DiagSsidRange) (num_items : UInt32) (words : List UInt8) (ssid : UInt16) :
    (msg_update (msg_packet shown num_items words)).Brings ssid ↔
      Contains shown ssid ∧ ssid.toNat - shown.ssid_first.toNat < num_items.toNat := by
  let body := le16 shown.ssid_first ++ le16 shown.ssid_last ++ le32 num_items ++ words
  have same : msg_packet shown num_items words = mask_packet DIAG_CNTL_CMD_MSG_MASK DIAG_CTRL_MASK_VALID 0 body := rfl
  let memory := place (msg_packet shown num_items words) (fun _ => 0)
  have first : le16At memory 11 = shown.ssid_first :=
    le16At_place (diag_cntl_hdr DIAG_CNTL_CMD_MSG_MASK ([1,DIAG_CTRL_MASK_VALID,0] ++ body) ++ [1,DIAG_CTRL_MASK_VALID,0])
      (le16 shown.ssid_last ++ le32 num_items ++ words) _ _
  have last : le16At memory 13 = shown.ssid_last := DiagRouter.MaskBroadcast.msg_packet_last shown num_items words
  have range : range_at memory 11 = shown := by rw [range_at,first,last]
  have count : le32At memory 15 = num_items :=
    packet_field ([1,DIAG_CTRL_MASK_VALID,0] ++ le16 shown.ssid_first ++ le16 shown.ssid_last) words _ rfl
  have update : msg_update (msg_packet shown num_items words) = .carry (carried_words memory) := by
    simp only [memory,same]
    exact update_valid body 0
  rw [update,Update.Brings,carried_words,range,count]
  split_ifs with inside
  · exact ⟨fun _ => inside,fun _ => rfl⟩
  · exact ⟨fun none => absurd none (by simp),fun some => absurd some inside⟩

/-! ## What is known then -/

section
variable {masks : MaskTables} {p after : Peripheral}

theorem send_log_mask_sent {equip_id : UInt32} (channel : p.cntl_fd ≠ -1)
    (sent : diag_cntl_send_log_mask masks p equip_id = .ok after) :
    ∃ byte body, after =
      { p with cntlq := p.cntlq ++ [mask_packet DIAG_CNTL_CMD_LOG_MASK masks.log_mask.status byte body] } := by
  obtain ⟨byte,found,_,same⟩ := send_log_mask_packet channel sent
  exact ⟨byte,_,same⟩

theorem send_event_mask_sent (channel : p.cntl_fd ≠ -1) (sent : diag_cntl_send_event_mask masks p = .ok after) :
    ∃ byte mask, after = { p with cntlq := p.cntlq ++ [mask_packet DIAG_CNTL_CMD_EVENT_MASK masks.event_mask.status byte
        (le32 (UInt32.ofNat mask.length) ++ mask)] } ∧
      mask.length = if masks.event_mask.status = DIAG_CTRL_MASK_VALID then BITS_TO_BYTES masks.event_max_num_bits.toNat
        else 0 := by
  obtain ⟨byte,mask,same,length⟩ := send_event_mask_packet channel sent
  exact ⟨byte,mask,same,length⟩

/-- A packet of invalid log masks tells nothing. -/
theorem send_log_mask_invalid {equip_id : UInt32} (channel : p.cntl_fd ≠ -1)
    (invalid : masks.log_mask.status = DIAG_CTRL_MASK_INVALID)
    (sent : diag_cntl_send_log_mask masks p equip_id = .ok after) : view after.cntlq = view p.cntlq := by
  obtain ⟨byte,body,rfl⟩ := send_log_mask_sent channel sent
  rw [view_log_packet,invalid,log_update,update_invalid]
  rfl

/-- Any other makes a log mask known. -/
theorem send_log_mask_known {equip_id : UInt32} (channel : p.cntl_fd ≠ -1)
    (told : masks.log_mask.status = DIAG_CTRL_MASK_ALL_DISABLED ∨ masks.log_mask.status = DIAG_CTRL_MASK_VALID)
    (sent : diag_cntl_send_log_mask masks p equip_id = .ok after) : ∃ id, ((view after.cntlq).log id).isSome := by
  obtain ⟨byte,body,rfl⟩ := send_log_mask_sent channel sent
  refine ⟨byte,?_⟩
  rw [view_log_packet,apply_isSome]
  right
  rcases told with whole | valid
  · exact update_brings byte body byte (.inl whole)
  · have carries : byte = place (mask_packet DIAG_CNTL_CMD_LOG_MASK DIAG_CTRL_MASK_VALID byte body) (fun _ => 0) 10 := rfl
    rw [valid,log_update,update_valid,Update.Brings,carried_items,if_pos carries]
    rfl

theorem send_event_mask_known (channel : p.cntl_fd ≠ -1) (bits : masks.event_max_num_bits ≠ 0)
    (told : masks.event_mask.status = DIAG_CTRL_MASK_ALL_DISABLED ∨ masks.event_mask.status = DIAG_CTRL_MASK_ALL_ENABLED ∨
      masks.event_mask.status = DIAG_CTRL_MASK_VALID)
    (sent : diag_cntl_send_event_mask masks p = .ok after) : ((view after.cntlq).event 0).isSome := by
  obtain ⟨byte,mask,rfl,length⟩ := send_event_mask_sent channel sent
  rw [view_event_packet,apply_isSome]
  right
  rcases or_assoc.mpr told with whole | valid
  · exact update_brings byte _ 0 whole
  · have small := masks.event_max_num_bits.toNat_lt
    have positive : masks.event_max_num_bits.toNat ≠ 0 := fun zero => bits (UInt16.toNat_inj.mp zero)
    rw [if_pos valid,BITS_TO_BYTES] at length
    have count : le32At (place (mask_packet DIAG_CNTL_CMD_EVENT_MASK DIAG_CTRL_MASK_VALID byte
        (le32 (UInt32.ofNat mask.length) ++ mask)) (fun _ => 0)) 11 = UInt32.ofNat mask.length :=
      packet_field [1,DIAG_CTRL_MASK_VALID,byte] mask _ rfl
    have some_bits : 0 < 8 * (UInt32.ofNat mask.length).toNat := by
      rw [UInt32.toNat_ofNat_of_lt' (show mask.length < 4294967296 by omega)]
      omega
    rw [valid,event_update,update_valid,Update.Brings,carried_bits,count,if_pos some_bits]
    rfl

/-! ## Valid message masks -/

/-- The range a packet is given for the one it is asked for. -/
def shown (table : List DiagMsgMask) (asked : DiagSsidRange) : DiagSsidRange :=
  ((table.find? (reports asked.ssid_first.toNat)).map bounds).getD asked

theorem send_msg_mask_valid {junk : Nat → UInt8} {asked : DiagSsidRange} {left : Option DiagSsidRange}
    (channel : p.cntl_fd ≠ -1) (valid : masks.msg_mask.status = DIAG_CTRL_MASK_VALID)
    (sent : diag_cntl_send_msg_mask junk masks p (some asked) = .ok (left,after)) :
    ∃ words, after = { p with cntlq := p.cntlq ++
      [msg_packet (shown masks.msg_mask.ptr asked) (UInt32.ofNat (num_ssids (shown masks.msg_mask.ptr asked))) words] } := by
  obtain ⟨told,mask,num_items,words,items,_,left_told,same⟩ := send_msg_mask_packet channel sent
  obtain rfl := left_told (by rw [valid]; decide)
  rw [valid] at same
  refine ⟨words,?_⟩
  simp only [msg_mask_items,valid,true_or,if_true] at items
  obtain ⟨found,got,items⟩ := bind_eq_ok.mp items
  cases items
  unfold diag_cmd_get_msg_mask at got
  cases hit : masks.msg_mask.ptr.find? (reports asked.ssid_first.toNat) with
  | none =>
    rw [hit] at got
    cases got
    simp only [shown,hit]
    exact same
  | some msg_item =>
    rw [hit] at got
    obtain ⟨_,_,entry⟩ := bind_eq_ok.mp got
    cases entry
    simp only [shown,hit]
    exact same

end

/-- A packet brings the SSIDs of the range it shows. -/
theorem shown_packet_brings (shown : DiagSsidRange) (words : List UInt8) (ssid : UInt16) :
    (msg_update (msg_packet shown (UInt32.ofNat (num_ssids shown)) words)).Brings ssid ↔ Contains shown ssid := by
  rw [msg_packet_brings]
  constructor
  · exact fun ⟨inside,_⟩ => inside
  · intro inside
    obtain ⟨low,high⟩ := inside
    have bound := shown.ssid_last.toNat_lt
    have count := @num_ssids_of_le shown (by omega)
    refine ⟨⟨low,high⟩,?_⟩
    rw [UInt32.toNat_ofNat_of_lt' (show num_ssids shown < 4294967296 by omega)]
    omega

/-! ## The masks as a new peripheral gets them -/

/-- The range of a pair of build-time bounds. -/
def range_of (bounds : Nat × Nat) : DiagSsidRange := ⟨UInt16.ofNat bounds.1,UInt16.ofNat bounds.2⟩

/-- What one packet tells of the words while no SET of words is in force. -/
def known_by (status : UInt8) : UInt16 → Option UInt32 :=
  if status = DIAG_CTRL_MASK_ALL_DISABLED then fun _ => some 0 else fun _ => none

section
variable {masks : MaskTables} {p after : Peripheral}

/-- Without a SET in force a packet tells the status only. -/
theorem send_msg_mask_calm (junk : Nat → UInt8) (range : Option DiagSsidRange) (channel : p.cntl_fd ≠ -1)
    (calm : masks.msg_mask.status = DIAG_CTRL_MASK_INVALID ∧ range ≠ none ∨
      masks.msg_mask.status = DIAG_CTRL_MASK_ALL_DISABLED)
    (start : (view p.cntlq).msg = unset.msg ∨ (view p.cntlq).msg = known_by masks.msg_mask.status) :
    ∃ after, diag_cntl_send_msg_mask junk masks p range = .ok (range,after) ∧ after.cntl_fd = p.cntl_fd ∧
      view after.cntlq = { view p.cntlq with msg := known_by masks.msg_mask.status } := by
  obtain ⟨body,ran⟩ : ∃ body, diag_cntl_send_msg_mask junk masks p range = .ok (range,
      { p with cntlq := p.cntlq ++ [mask_packet DIAG_CNTL_CMD_MSG_MASK masks.msg_mask.status 0 body] }) := by
    rcases calm with ⟨invalid,some⟩ | disabled
    · obtain ⟨asked,rfl⟩ := Option.ne_none_iff_exists'.mp some
      simp only [diag_cntl_send_msg_mask,if_neg channel,msg_mask_items,invalid]
      exact ⟨_,rfl⟩
    · simp only [diag_cntl_send_msg_mask,if_neg channel,msg_mask_items,disabled]
      exact ⟨_,rfl⟩
  refine ⟨_,ran,rfl,?_⟩
  dsimp only
  rw [view_msg_packets _ (List.forall_mem_singleton.mpr (mask_packet_kind _ _ _ _))]
  rcases calm with ⟨invalid,_⟩ | disabled
  · rw [invalid] at start ⊢
    have nothing : (view p.cntlq).msg = known_by DIAG_CTRL_MASK_INVALID := by
      rcases start with unset | known
      · exact unset
      · exact known
    rw [List.map_singleton,replay_cons,msg_update,update_invalid]
    exact congrArg (fun msg => { view p.cntlq with msg := msg }) nothing
  · rw [disabled,List.map_singleton,replay_cons,msg_update,update_disabled]
    rfl

theorem send_masks_loop_calm (junk : Nat → Nat → UInt8) (arr : List (Nat × Nat)) (channel : p.cntl_fd ≠ -1)
    (calm : masks.msg_mask.status = DIAG_CTRL_MASK_INVALID ∨ masks.msg_mask.status = DIAG_CTRL_MASK_ALL_DISABLED)
    (known : (view p.cntlq).msg = known_by masks.msg_mask.status) :
    ∃ after, send_masks_loop junk masks arr p = .ok after ∧ view after.cntlq = view p.cntlq := by
  induction arr generalizing junk p with
  | nil => exact ⟨p,rfl,rfl⟩
  | cons bounds rest ih =>
    obtain ⟨mid,one,fd,told⟩ := send_msg_mask_calm (junk 0) (some (range_of bounds)) channel
      (calm.imp_left (fun invalid => ⟨invalid,by simp⟩)) (.inr known)
    obtain ⟨after,more,same⟩ := ih (fun i => junk (i + 1)) (by rw [fd]; exact channel) (by rw [told])
    refine ⟨after,?_,?_⟩
    · rw [range_of] at one
      simp only [send_masks_loop,one,ok_bind]
      exact more
    · rw [same,told,← known]

theorem send_masks_calm (junk : Nat → Nat → UInt8) (channel : p.cntl_fd ≠ -1)
    (calm : masks.msg_mask.status = DIAG_CTRL_MASK_INVALID ∨ masks.msg_mask.status = DIAG_CTRL_MASK_ALL_DISABLED)
    (start : (view p.cntlq).msg = unset.msg ∨ (view p.cntlq).msg = known_by masks.msg_mask.status) :
    ∃ after, diag_cntl_send_masks junk masks p = .ok after ∧
      view after.cntlq = { view p.cntlq with msg := known_by masks.msg_mask.status } := by
  obtain ⟨mid,one,fd,told⟩ := send_msg_mask_calm (junk 0) (some (range_of (0,120))) channel
    (calm.imp_left (fun invalid => ⟨invalid,by simp⟩)) start
  obtain ⟨after,more,same⟩ := send_masks_loop_calm (fun i => junk (i + 1)) (ssid_first_arr.zip ssid_last_arr).tail
    (p := mid) (by rw [fd]; exact channel) calm (by rw [told])
  refine ⟨after,?_,same.trans told⟩
  have first : ssid_first_arr.zip ssid_last_arr = (0,120) :: (ssid_first_arr.zip ssid_last_arr).tail := rfl
  rw [range_of] at one
  rw [diag_cntl_send_masks,first,send_masks_loop,one,ok_bind]
  exact more

/-- With a SET in force the packets bring the SSIDs of the ranges they show. -/
theorem send_masks_loop_valid {junk : Nat → Nat → UInt8} {arr : List (Nat × Nat)} (channel : p.cntl_fd ≠ -1)
    (valid : masks.msg_mask.status = DIAG_CTRL_MASK_VALID) (sent : send_masks_loop junk masks arr p = .ok after) :
    (view after.cntlq).log = (view p.cntlq).log ∧ (view after.cntlq).event = (view p.cntlq).event ∧
      ∀ ssid, ((view after.cntlq).msg ssid).isSome ↔ ((view p.cntlq).msg ssid).isSome ∨
        ∃ bounds ∈ arr, Contains (shown masks.msg_mask.ptr (range_of bounds)) ssid := by
  induction arr generalizing junk p with
  | nil =>
    cases sent
    exact ⟨rfl,rfl,fun ssid => by simp⟩
  | cons bounds rest ih =>
    obtain ⟨⟨left,mid⟩,one,more⟩ := bind_eq_ok.mp sent
    obtain ⟨words,queued⟩ := send_msg_mask_valid channel valid one
    have open_still : mid.cntl_fd ≠ -1 := by rw [queued]; exact channel
    obtain ⟨log,event,msg⟩ := ih open_still more
    simp only [queued] at log event msg
    rw [view_msg_packets _ (List.forall_mem_singleton.mpr (msg_packet_kind _ _ _))] at log event msg
    refine ⟨log,event,?_⟩
    intro ssid
    rw [msg,replay_isSome,List.exists_mem_cons_iff,or_assoc]
    simp only [List.map_cons,List.map_nil,List.mem_singleton,exists_eq_left,shown_packet_brings]
    rfl

end

/-! ## The handshake -/

/-- The peripheral as `diag_cntl_send_masks` finds it in the handshake. -/
def greeted (junk : Nat → Nat → UInt8) (memory : Nat → UInt8) (peripheral : CntlPeripheral) : Peripheral :=
  let features := le32At memory 12 &&& local_mask peripheral
  { peripheral.toPeripheral with
    features := features
    cntlq := queue_push peripheral.cntlq
      (packet DIAG_CNTL_CMD_FEATURE_MASK (le32 4 ++ le32 features ++ span (junk 0) 0 2)) }

theorem greeted_view (junk : Nat → Nat → UInt8) (memory : Nat → UInt8) (peripheral : CntlPeripheral) :
    view (greeted junk memory peripheral).cntlq = view peripheral.cntlq :=
  view_plain _ (by decide) (by decide) (by decide)

theorem cntl_push_view {cmd len : UInt32} {rest : List UInt8} (peripheral : CntlPeripheral)
    (size : len = UInt32.ofNat rest.length) (log : cmd ≠ DIAG_CNTL_CMD_LOG_MASK) (event : cmd ≠ DIAG_CNTL_CMD_EVENT_MASK)
    (msg_mask : cmd ≠ DIAG_CNTL_CMD_MSG_MASK) :
    view (cntl_push peripheral (le32 cmd ++ (le32 len ++ rest))).cntlq = view peripheral.cntlq := by
  have text : le32 cmd ++ (le32 len ++ rest) = packet cmd rest := by
    rw [packet,diag_cntl_hdr,size,List.append_assoc]
  rw [text]
  exact view_plain _ log event msg_mask

theorem set_diag_mode_view (peripheral : CntlPeripheral) (real_time : Bool) :
    view (diag_cntl_set_diag_mode peripheral real_time).cntlq = view peripheral.cntlq := by
  unfold diag_cntl_set_diag_mode
  split_ifs
  all_goals
    simp only [List.append_assoc]
    exact cntl_push_view peripheral (by simp) (by decide) (by decide) (by decide)

theorem set_buffering_mode_view (peripheral : CntlPeripheral) (mode : Int) :
    view (diag_cntl_set_buffering_mode peripheral mode).cntlq = view peripheral.cntlq := by
  unfold diag_cntl_set_buffering_mode
  split_ifs
  all_goals
    simp only [List.append_assoc]
    exact cntl_push_view peripheral (by simp) (by decide) (by decide) (by decide)

/-- The handshake tells the masks as `diag_cntl_send_masks` sends them. -/
theorem feature_mask_sends {junk : Nat → Nat → UInt8} {masks : MaskTables} {memory : Nat → UInt8}
    {peripheral : CntlPeripheral} (channel : peripheral.cntl_fd ≠ -1) (known : View) :
    (∃ after, diag_cntl_feature_mask junk masks memory peripheral = .ok after ∧ view after.cntlq = known) ↔
      ∃ sent, diag_cntl_send_masks (fun i => junk (i + 1)) masks (greeted junk memory peripheral) = .ok sent ∧
        view sent.cntlq = known := by
  have sends : diag_cntl_feature_mask junk masks memory peripheral =
      (diag_cntl_send_masks (fun i => junk (i + 1)) masks (greeted junk memory peripheral) >>= fun sent =>
        .ok (diag_cntl_set_buffering_mode (diag_cntl_set_diag_mode ⟨sent,peripheral.cmd_fd,peripheral.sockets,
          peripheral.diag_id⟩ true) 0)) := by
    simp only [diag_cntl_feature_mask,diag_cntl_send_feature_mask,if_neg channel]
    rfl
  rw [sends]
  constructor
  · rintro ⟨after,ran,same⟩
    obtain ⟨sent,told,last⟩ := bind_eq_ok.mp ran
    cases last
    rw [set_buffering_mode_view,set_diag_mode_view] at same
    exact ⟨sent,told,same⟩
  · rintro ⟨sent,told,same⟩
    rw [told,ok_bind]
    refine ⟨_,rfl,?_⟩
    rw [set_buffering_mode_view,set_diag_mode_view]
    exact same

end DiagRouter.MaskViews

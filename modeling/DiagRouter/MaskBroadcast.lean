import DiagRouter.Responses
import DiagRouter.MsgMaskReadBack

/-!
# Mask broadcasts

What the peripherals are told after a mask has been set. The packets are not
built from the request: the tables are searched again, by an equipment id read
from the response or by a range that each packet leaves to the next one.
-/
namespace DiagRouter.MaskBroadcast
open DiagRouter.Lib.Memory DiagRouter.Lib.Runs DiagRouter.Lib.Words DiagRouter.Masks DiagRouter.MsgMaskTable
open DiagRouter.MsgMaskBuffers DiagRouter.LogMaskTable DiagRouter.MaskRuns DiagRouter.Dispatch DiagRouter.Handlers
open DiagRouter.Peripherals
open DiagRouter.MsgMaskReadBack (Contains Refused layout_apart)
open DiagRouter.Responses (handle_command_changes)

/-! ## What a peripheral is told -/

/-- A peripheral with a control channel has one more packet in its control queue,
    a good one; the others are as they were. -/
def Told (Good : List UInt8 → Prop) (old new : Peripheral) : Prop :=
  if old.cntl_fd = -1 then new = old else ∃ pkt, new = { old with cntlq := old.cntlq ++ [pkt] } ∧ Good pkt

/-- Every peripheral is told by a good packet. -/
def AllTold (Good : List UInt8 → Prop) (router after : Router) : Prop :=
  List.Forall₂ (Told Good) router.peripherals after.peripherals

/-- The number of peripherals with a control channel. -/
def controlled (peripherals : List Peripheral) : Nat := (peripherals.filter (fun p => p.cntl_fd ≠ -1)).length

/-- A peripheral after one packet. -/
def tell (pkt : List UInt8) (p : Peripheral) : Peripheral :=
  if p.cntl_fd = -1 then p else { p with cntlq := p.cntlq ++ [pkt] }

theorem told_tell {Good : List UInt8 → Prop} {pkt : List UInt8} (good : Good pkt) (p : Peripheral) :
    Told Good p (tell pkt p) := by
  unfold Told tell
  split_ifs
  · rfl
  · exact ⟨pkt,rfl,good⟩

theorem told_all {Good : List UInt8 → Prop} {pkt : List UInt8} (good : Good pkt) (peripherals : List Peripheral) :
    List.Forall₂ (Told Good) peripherals (peripherals.map (tell pkt)) := by
  induction peripherals with
  | nil => exact .nil
  | cons p rest ih => exact .cons (told_tell good p) ih

theorem told_none {peripherals : List Peripheral} (none : controlled peripherals = 0) (Good : List UInt8 → Prop) :
    List.Forall₂ (Told Good) peripherals peripherals := by
  rw [controlled,List.length_eq_zero_iff,List.filter_eq_nil_iff] at none
  apply List.forall₂_same.mpr
  intro p member
  have silent := none p member
  simp only [decide_eq_true_eq,ne_eq,not_not] at silent
  rw [Told,if_pos silent]

/-! ## Event masks -/

/-- A packet of an event mask that begins with the bytes of the request. -/
def EventPacket (buf : Request) (pkt : List UInt8) : Prop :=
  ∃ mask, pkt = packet DIAG_CNTL_CMD_EVENT_MASK
      ([1,DIAG_CTRL_MASK_VALID,1] ++ le32 (UInt32.ofNat mask.length) ++ mask) ∧
    mask.take (BITS_TO_BYTES (le16At buf 4).toNat) = span buf 6 (BITS_TO_BYTES (le16At buf 4).toNat)

theorem send_event_mask_eq {masks : MaskTables} {mask : List UInt8}
    (valid : masks.event_mask.status = DIAG_CTRL_MASK_VALID)
    (got : diag_cmd_get_event_mask masks masks.event_max_num_bits = .ok (some mask)) (p : Peripheral) :
    diag_cntl_send_event_mask masks p = .ok (tell (packet DIAG_CNTL_CMD_EVENT_MASK
      ([1,DIAG_CTRL_MASK_VALID,1] ++ le32 (UInt32.ofNat mask.length) ++ mask)) p) := by
  by_cases silent : p.cntl_fd = -1
  · simp only [diag_cntl_send_event_mask,tell,silent,if_true]
  · simp only [diag_cntl_send_event_mask,tell,silent,if_false,if_true,valid,got,or_true]
    rfl

theorem broadcast_event_mask_eq {masks : MaskTables} {pkt : List UInt8} (peripherals : List Peripheral)
    (each : ∀ p, diag_cntl_send_event_mask masks p = .ok (tell pkt p)) :
    peripheral_broadcast_event_mask masks peripherals = .ok (peripherals.map (tell pkt)) := by
  induction peripherals with
  | nil => rfl
  | cons p rest ih =>
    rw [peripheral_broadcast_event_mask,each,ih]
    rfl

theorem event_set_told (junk : Junk) (client : Nat) {len : Nat} {buf : Request} {router : Router}
    (sound : Sound router.masks) (asked : IsEventSetMask len buf) :
    ∃ after, diag_client_handle_command junk client buf len router = .ok after ∧
      AllTold (EventPacket buf) router after := by
  obtain ⟨command,whole⟩ := asked
  obtain ⟨ptr,mask_len,event_max,updated,fewer,room,_,start⟩ :=
    update_event_mask_ok junk.bytes (le16At buf 4) (fun i => buf (6 + i)) sound.event
  have bytes : BITS_TO_BYTES (le16At buf 4).toNat ≤ BITS_TO_BYTES event_max.toNat := by
    unfold BITS_TO_BYTES
    omega
  let masks : MaskTables :=
    { router.masks with event_mask := ⟨ptr,mask_len,DIAG_CTRL_MASK_VALID⟩, event_max_num_bits := event_max }
  have got : diag_cmd_get_event_mask masks event_max = .ok (some (ptr.take (BITS_TO_BYTES event_max.toNat))) := by
    have reported : ¬ event_max > event_max := by rw [gt_iff_lt,UInt16.lt_iff_toNat_lt]; omega
    simp only [masks,diag_cmd_get_event_mask,reported,if_false,load_ok_iff.mpr ⟨room,rfl⟩]
    rfl
  have sent := broadcast_event_mask_eq router.peripherals (@send_event_mask_eq masks _ rfl got)
  have ran : ∃ after, handle_event_set_mask junk client buf len router = .ok (0,after) ∧
      after.peripherals = router.peripherals.map (tell (packet DIAG_CNTL_CMD_EVENT_MASK ([1,DIAG_CTRL_MASK_VALID,1] ++
        le32 (UInt32.ofNat (ptr.take (BITS_TO_BYTES event_max.toNat)).length) ++
        ptr.take (BITS_TO_BYTES event_max.toNat)))) := by
    simp only [masks] at sent
    simp only [handle_event_set_mask,whole,ne_eq,not_true_eq_false,if_false,updated,ok_bind,sent]
    exact ⟨_,rfl,rfl⟩
  obtain ⟨after,handled,told⟩ := ran
  refine ⟨after,handle_command_success ((event_dispatch junk client len router command).trans handled),?_⟩
  rw [AllTold,told]
  refine told_all ⟨_,rfl,?_⟩ router.peripherals
  rw [List.take_take,Nat.min_eq_left bytes,start]
  exact List.map_congr_left (fun i _ => by rw [Nat.zero_add])

/-! ## Log masks -/

/-- The packet of a log mask that says what the request said. -/
def log_packet (buf : Request) : List UInt8 :=
  packet DIAG_CNTL_CMD_LOG_MASK ([1,DIAG_CTRL_MASK_VALID,(le32At buf 8).toUInt8] ++
    le32 (UInt32.ofNat (min (le32At buf 12).toNat 0xFFF)) ++
    le32 (UInt32.ofNat (BITS_TO_BYTES (min (le32At buf 12).toNat 0xFFF))) ++
    span buf 16 (BITS_TO_BYTES (min (le32At buf 12).toNat 0xFFF)))

def LogPacket (buf : Request) (pkt : List UInt8) : Prop := pkt = log_packet buf

theorem send_log_mask_eq {masks : MaskTables} {buf : Request} (valid : masks.log_mask.status = DIAG_CTRL_MASK_VALID)
    (got : diag_cmd_get_log_mask masks (le32At buf 8) = .ok (some (kept_items (le32At buf 12).toNat,
      span (fun i => buf (16 + i)) 0 (kept_bytes (le32At buf 12).toNat)))) (p : Peripheral) :
    diag_cntl_send_log_mask masks p (le32At buf 8) = .ok (tell (log_packet buf) p) := by
  have mask : span (fun i => buf (16 + i)) 0 (kept_bytes (le32At buf 12).toNat) =
      span buf 16 (kept_bytes (le32At buf 12).toNat) := List.map_congr_left (fun i _ => by rw [Nat.zero_add])
  have told : log_packet buf = packet DIAG_CNTL_CMD_LOG_MASK ([1,DIAG_CTRL_MASK_VALID,(le32At buf 8).toUInt8] ++
      le32 (UInt32.ofNat (kept_items (le32At buf 12).toNat)) ++ le32 (UInt32.ofNat (kept_bytes (le32At buf 12).toNat)) ++
      span buf 16 (kept_bytes (le32At buf 12).toNat)) := by
    rw [kept_bytes_eq]
    rfl
  rw [mask] at got
  by_cases silent : p.cntl_fd = -1
  · simp only [diag_cntl_send_log_mask,tell,silent,if_true]
  · simp only [diag_cntl_send_log_mask,tell,silent,if_false,valid,if_true,got,told,ok_bind,Option.getD_some,span_length,
      DiagRouter.Clients.queue_push,pure_ok]

theorem broadcast_log_mask_eq {masks : MaskTables} {equip_id : UInt32} {pkt : List UInt8} (peripherals : List Peripheral)
    (each : ∀ p, diag_cntl_send_log_mask masks p equip_id = .ok (tell pkt p)) :
    peripheral_broadcast_log_mask masks equip_id peripherals = .ok (peripherals.map (tell pkt)) := by
  induction peripherals with
  | nil => rfl
  | cons p rest ih =>
    rw [peripheral_broadcast_log_mask,each,ih]
    rfl

theorem broadcast_log_mask_none {masks : MaskTables} {equip_id : UInt32} {peripherals : List Peripheral}
    (none : controlled peripherals = 0) : peripheral_broadcast_log_mask masks equip_id peripherals = .ok peripherals := by
  induction peripherals with
  | nil => rfl
  | cons p rest ih =>
    by_cases silent : p.cntl_fd = -1
    · have others : controlled rest = 0 := by simpa [controlled,silent] using none
      simp [peripheral_broadcast_log_mask,diag_cntl_send_log_mask,silent,ih others]
    · simp [controlled,silent] at none

theorem equip_id_word {equip_id : UInt32} (known : equip_id.toNat < 16) : equip_id.toUInt8.toUInt32 = equip_id := by
  apply UInt32.toNat_inj.mp
  rw [UInt8.toNat_toUInt32,UInt32.toNat_toUInt8]
  omega

/-- What the table holds for an id after a SET. -/
theorem set_log_mask_get (junk : Nat → UInt8) {masks : MaskTables} {equip_id : UInt32} (num_items : Nat)
    (mask : Nat → UInt8) (log : LogBuilt masks.log_mask.ptr) (known : equip_id.toNat < 16) :
    ∃ after, diag_cmd_set_log_mask junk masks equip_id.toUInt8 num_items mask =
        .ok (some (kept_items num_items,kept_bytes num_items),after) ∧ after.log_mask.status = DIAG_CTRL_MASK_VALID ∧
      diag_cmd_get_log_mask after equip_id = .ok (some (kept_items num_items,span mask 0 (kept_bytes num_items))) := by
  have room : ∀ log_item ∈ masks.log_mask.ptr, log_item.range_tools ≤ log_item.ptr.length :=
    fun log_item member => (log.sized log_item member).room
  have present : equip_id.toUInt8 ∈ masks.log_mask.ptr.map DiagLogMask.equip_id := by
    rw [log.ids]
    exact List.mem_map.mpr ⟨equip_id.toNat,List.mem_range.mpr known,rfl⟩
  rcases set_log_mask_cases junk equip_id.toUInt8 num_items mask room with
    ⟨missing,_⟩ | ⟨before,log_item,later,new,table,first,same,item,stored⟩
  · obtain ⟨log_item,member,same⟩ := List.mem_map.mp present
    exact absurd same (missing log_item member)
  · refine ⟨_,stored,rfl,?_⟩
    obtain ⟨ptr,exact_item,sized,start⟩ := set_log_item_sized junk num_items mask
      (log.sized log_item (by rw [table]; exact List.mem_append_right _ List.mem_cons_self))
    cases exact_item.symm.trans item
    have skipped : before.find? (fun other => other.equip_id.toUInt32 = equip_id) = none := by
      rw [List.find?_eq_none]
      intro other member hit
      have narrow := congrArg UInt32.toUInt8 (of_decide_eq_true hit)
      rw [UInt8.toUInt8_toUInt32] at narrow
      exact first other member narrow
    have hit : log_item.equip_id.toUInt32 = equip_id := by rw [same,equip_id_word known]
    have bytes : kept_bytes num_items ≤ ptr.length := by
      have length := sized.ptr
      have cap := kept_bytes_le num_items
      simp only [MAX_ITEMS_PER_EQUIP_ID] at length
      omega
    have loaded : load ptr (BITS_TO_BYTES32 (kept_items num_items)) = .ok (span mask 0 (kept_bytes num_items)) :=
      load_ok_iff.mpr ⟨bytes,start.symm⟩
    simp only [diag_cmd_get_log_mask,List.find?_append,skipped,List.find?_cons,hit,decide_true,Option.none_or,loaded]
    rfl

/-- The equipment id in the response is the one of the request when at least its
    four bytes are copied. -/
theorem resp_equip_id {buf : Request} {num_items : Nat} {header answer whole : List UInt8} {copied : Nat}
    (filled : store header 12 (span (mask_to_set buf num_items) 0 copied) = .ok answer)
    (status : store answer 8 (le32 DIAG_CMD_STATUS_SUCCESS) = .ok whole) (enough : 4 ≤ copied) :
    le32At (place whole (fun _ => 0)) 12 = le32At buf 8 := by
  rw [le32At,le32At]
  have byte : ∀ k, k < 4 → place whole (fun _ => 0) (12 + k) = buf (8 + k) := by
    intro k below
    have kept : mask_to_set buf num_items (0 + k) = buf (8 + k) := by
      have four : (span buf 8 4 ++ le32 (UInt32.ofNat num_items))[0 + k]? = some (buf (8 + k)) := by
        rw [List.getElem?_append_left (by rw [span_length]; omega),span_getElem? (by omega),Nat.zero_add]
      rw [mask_to_set,place,four]
      rfl
    have outside : ¬ (8 ≤ 12 + k ∧ 12 + k < 8 + (le32 DIAG_CMD_STATUS_SUCCESS).length) := by
      rw [le32_length]
      omega
    have inside : 12 ≤ 12 + k ∧ 12 + k < 12 + (span (mask_to_set buf num_items) 0 copied).length := by
      rw [span_length]
      omega
    have offset : 12 + k - 12 = k := by omega
    rw [place,store_getElem? status,if_neg outside,store_getElem? filled,if_pos inside,offset,span_getElem? (by omega),kept]
    rfl
  rw [show place whole (fun _ => 0) 12 = buf 8 from byte 0 (by omega),byte 1 (by omega),byte 2 (by omega),
    byte 3 (by omega)]

theorem log_set_told (junk : Junk) (client : Nat) {len : Nat} {buf : Request} {router : Router}
    (sound : Sound router.masks) (asked : IsSetLogMask len buf) (known : (le32At buf 8).toNat < 16)
    (small : (le32At buf 12).toNat + 7 < 4294967296)
    (copied : 0 < controlled router.peripherals → 25 ≤ (le32At buf 12).toNat) :
    ∃ after, diag_client_handle_command junk client buf len router = .ok after ∧ AllTold (LogPacket buf) router after := by
  obtain ⟨command,operation,whole⟩ := asked
  obtain ⟨masks,set,valid,got⟩ :=
    set_log_mask_get junk.bytes (le32At buf 12).toNat (fun i => buf (16 + i)) sound.log known
  have room := kept_bytes_le_of_lt small
  let size := 8 + BITS_TO_BYTES32 (le32At buf 12).toNat
  obtain ⟨header,begun⟩ : ∃ header, store (span junk.resp 0 (20 + size)) 0 (span buf 0 8) = .ok header :=
    ⟨_,store_ok_iff.mpr ⟨by simp only [span_length]; omega,rfl⟩⟩
  have headerLength := store_length begun
  obtain ⟨answer,filled⟩ : ∃ answer, store header 12
      (span (mask_to_set buf (kept_items (le32At buf 12).toNat)) 0 (kept_bytes (le32At buf 12).toNat)) = .ok answer :=
    ⟨_,store_ok_iff.mpr ⟨by simp only [span_length] at headerLength ⊢; omega,rfl⟩⟩
  have answerLength := store_length filled
  obtain ⟨resp,status⟩ : ∃ resp, store answer 8 (le32 DIAG_CMD_STATUS_SUCCESS) = .ok resp :=
    ⟨_,store_ok_iff.mpr ⟨by simp only [span_length,le32_length] at headerLength ⊢; omega,rfl⟩⟩
  obtain ⟨peripherals,sent,told⟩ : ∃ peripherals,
      peripheral_broadcast_log_mask masks (le32At (place resp (fun _ => 0)) 12) router.peripherals = .ok peripherals ∧
        List.Forall₂ (Told (LogPacket buf)) router.peripherals peripherals := by
    by_cases silent : controlled router.peripherals = 0
    · exact ⟨_,broadcast_log_mask_none silent,told_none silent _⟩
    · have four : 4 ≤ kept_bytes (le32At buf 12).toNat := by
        have many := copied (by omega)
        rw [kept_bytes_eq]
        unfold BITS_TO_BYTES kept_items MAX_ITEMS_ALLOWED
        omega
      rw [resp_equip_id filled status four]
      exact ⟨_,broadcast_log_mask_eq router.peripherals (send_log_mask_eq valid got),
        told_all (show LogPacket buf (log_packet buf) from rfl) router.peripherals⟩
  have ran : set_log_mask junk client buf len router =
      .ok (0,send { router with masks := masks, peripherals := peripherals } client resp) := by
    simp only [size] at begun
    simp only [set_log_mask,whole,ne_eq,not_true_eq_false,if_false,set,ok_bind,Option.getD_some,begun,filled,status,sent]
    rfl
  refine ⟨send { router with masks := masks, peripherals := peripherals } client resp,handle_command_success ?_,told⟩
  rw [logging_dispatch junk client len router command,handle_logging_configuration,operation]
  exact ran

/-! ## Message masks -/

def msg_packet (shown : DiagSsidRange) (num_items : UInt32) (words : List UInt8) : List UInt8 :=
  packet DIAG_CNTL_CMD_MSG_MASK ([1,DIAG_CTRL_MASK_VALID,0] ++ le16 shown.ssid_first ++ le16 shown.ssid_last ++
    le32 num_items ++ words)

/-- The packet of an entry. -/
def item_packet (msg_item : DiagMsgMask) : List UInt8 :=
  msg_packet (bounds msg_item) (UInt32.ofNat (bounded msg_item)) (le32s (msg_item.ptr.take (bounded msg_item)))

/-- A packet whose range holds every SSID of the request, and whose words at
    their places are those of the request. -/
def MsgPacket (buf : Request) (pkt : List UInt8) : Prop :=
  ∃ shown num_items words, pkt = msg_packet shown num_items words ∧
    ∀ ssid, Contains (range_at buf 2) ssid → Contains shown ssid ∧ words.length = 4 * num_items.toNat ∧
      ssid.toNat - shown.ssid_first.toNat < num_items.toNat ∧
      le32At (place words (fun _ => 0)) (4 * (ssid.toNat - shown.ssid_first.toNat)) =
        request_words buf (ssid.toNat - (range_at buf 2).ssid_first.toNat)

section
variable {masks : MaskTables} {msg_item : DiagMsgMask}

/-- A packet that finds an entry leaves the bounds of the entry behind. -/
theorem send_msg_mask_found (junk : Nat → UInt8) (range : DiagSsidRange) (p : Peripheral)
    (built : Built masks.msg_mask.ptr) (valid : masks.msg_mask.status = DIAG_CTRL_MASK_VALID)
    (found : masks.msg_mask.ptr.find? (reports range.ssid_first.toNat) = some msg_item)
    (room : msg_item.range ≤ msg_item.ptr.length) :
    diag_cntl_send_msg_mask junk masks p (some range) =
      .ok (some (if p.cntl_fd = -1 then range else bounds msg_item),tell (item_packet msg_item) p) := by
  have member := List.mem_of_find?_eq_some found
  have few := bounded_le built member
  have items : msg_mask_items masks (some range) =
      .ok (some (bounds msg_item),some (msg_item.ptr.take MAX_SSID_PER_RANGE),bounded msg_item) := by
    simp only [msg_mask_items,valid,true_or,if_true,get_msg_mask_found range built found room,ok_bind,pure_ok,
      Option.map_some,Option.getD_some,num_ssids_bounds built member]
  have bytes : u32 ((bounded msg_item : Int) * 4) = 4 * bounded msg_item := by
    rw [u32_of_lt (by omega) (by omega)]
    omega
  have other : DIAG_CTRL_MASK_VALID ≠ DIAG_CTRL_MASK_ALL_DISABLED := by decide
  by_cases silent : p.cntl_fd = -1
  · simp only [diag_cntl_send_msg_mask,tell,silent,if_true]
  · simp only [diag_cntl_send_msg_mask,tell,silent,if_false,items,ok_bind,valid,other,bytes,
      load_bounded built member room]
    rfl

/-- Without an entry a packet still goes out, with the range it was asked for. -/
theorem send_msg_mask_missing (junk : Nat → UInt8) (range : DiagSsidRange) (p : Peripheral)
    (valid : masks.msg_mask.status = DIAG_CTRL_MASK_VALID)
    (missing : masks.msg_mask.ptr.find? (reports range.ssid_first.toNat) = none) :
    diag_cntl_send_msg_mask junk masks p (some range) = .ok (some range,tell (msg_packet range
      (UInt32.ofNat (num_ssids range)) (span junk 0 (u32 ((num_ssids range : Int) * 4)))) p) := by
  have items : msg_mask_items masks (some range) = .ok (some range,none,num_ssids range) := by
    simp only [msg_mask_items,valid,true_or,if_true,diag_cmd_get_msg_mask,missing,ok_bind,pure_ok,Option.map_none,
      Option.getD_none]
  have other : DIAG_CTRL_MASK_VALID ≠ DIAG_CTRL_MASK_ALL_DISABLED := by decide
  by_cases silent : p.cntl_fd = -1
  · simp only [diag_cntl_send_msg_mask,tell,silent,if_true]
  · simp only [diag_cntl_send_msg_mask,tell,silent,if_false,items,ok_bind,valid,other]
    rfl

/-- The first packet is looked up by the range of the request, the others by the
    bounds the first has left behind. -/
theorem broadcast_msg_mask_found {Good : List UInt8 → Prop} (junk : Nat → Nat → UInt8) {range : DiagSsidRange}
    {peripherals : List Peripheral} (built : Built masks.msg_mask.ptr)
    (valid : masks.msg_mask.status = DIAG_CTRL_MASK_VALID) (room : msg_item.range ≤ msg_item.ptr.length)
    (good : Good (item_packet msg_item)) (member : msg_item ∈ masks.msg_mask.ptr)
    (first : 1 ≤ controlled peripherals → masks.msg_mask.ptr.find? (reports range.ssid_first.toNat) = some msg_item)
    (again : 2 ≤ controlled peripherals → masks.msg_mask.ptr.find? (reports msg_item.ssid_first) = some msg_item) :
    ∃ left after, peripheral_broadcast_msg_mask junk masks (some range) peripherals = .ok (some left,after) ∧
      List.Forall₂ (Told Good) peripherals after := by
  induction peripherals generalizing junk range with
  | nil => exact ⟨range,[],rfl,.nil⟩
  | cons p rest ih =>
    by_cases silent : p.cntl_fd = -1
    · have same : controlled (p :: rest) = controlled rest := by simp [controlled,silent]
      rw [same] at first again
      obtain ⟨left,after,sent,told⟩ := ih (fun i => junk (i + 1)) first again
      refine ⟨left,p :: after,?_,.cons (by rw [Told,if_pos silent]) told⟩
      simp only [peripheral_broadcast_msg_mask,diag_cntl_send_msg_mask,silent,if_true,ok_bind,sent,pure_ok]
    · have more : controlled (p :: rest) = controlled rest + 1 := by simp [controlled,silent]
      have one := send_msg_mask_found (junk 0) range p built valid (first (by omega)) room
      rw [if_neg silent] at one
      obtain ⟨left,after,sent,told⟩ := @ih (fun i => junk (i + 1)) (bounds msg_item)
        (fun later => by rw [bounds_first built member]; exact again (by omega)) (fun later => again (by omega))
      refine ⟨left,tell (item_packet msg_item) p :: after,?_,.cons (told_tell good p) told⟩
      simp only [peripheral_broadcast_msg_mask,one,ok_bind,sent,pure_ok]

/-- Sound tables serve every range. -/
theorem broadcast_msg_mask_ok {Good : List UInt8 → Prop} (junk : Nat → Nat → UInt8) (range : DiagSsidRange)
    (peripherals : List Peripheral) (built : Built masks.msg_mask.ptr) (buffers : Buffers masks)
    (valid : masks.msg_mask.status = DIAG_CTRL_MASK_VALID)
    (good : ∀ shown num_items words, Good (msg_packet shown num_items words)) :
    ∃ left after, peripheral_broadcast_msg_mask junk masks (some range) peripherals = .ok (some left,after) ∧
      List.Forall₂ (Told Good) peripherals after := by
  induction peripherals generalizing junk range with
  | nil => exact ⟨range,[],rfl,.nil⟩
  | cons p rest ih =>
    obtain ⟨passed,pkt,one,shape⟩ : ∃ passed pkt, diag_cntl_send_msg_mask (junk 0) masks p (some range) =
        .ok (some passed,tell pkt p) ∧ Good pkt := by
      cases found : masks.msg_mask.ptr.find? (reports range.ssid_first.toNat) with
      | none =>
        exact ⟨_,_,send_msg_mask_missing (junk 0) range p valid found,good _ _ _⟩
      | some msg_item =>
        have fits := buffers msg_item (List.mem_of_find?_eq_some found)
        exact ⟨_,_,send_msg_mask_found (junk 0) range p built valid found fits.range,good _ _ _⟩
    obtain ⟨left,after,sent,told⟩ := ih (fun i => junk (i + 1)) passed
    refine ⟨left,tell pkt p :: after,?_,.cons (told_tell shape p) told⟩
    simp only [peripheral_broadcast_msg_mask,one,ok_bind,sent,pure_ok]

theorem broadcast_msg_mask_none (junk : Nat → Nat → UInt8) (range : Option DiagSsidRange) {peripherals : List Peripheral}
    (none : controlled peripherals = 0) :
    peripheral_broadcast_msg_mask junk masks range peripherals = .ok (range,peripherals) := by
  induction peripherals generalizing junk with
  | nil => rfl
  | cons p rest ih =>
    by_cases silent : p.cntl_fd = -1
    · have others : controlled rest = 0 := by simpa [controlled,silent] using none
      simp only [peripheral_broadcast_msg_mask,diag_cntl_send_msg_mask,silent,if_true,ok_bind,ih _ others,pure_ok]
    · simp [controlled,silent] at none

end

/-! ## A SET that is accepted -/

/-- What a SET must meet at the entry it selects to be told. `keeps`: the entry
    stays large enough. `answer`: the size of the response does not wrap. `told`:
    the request ends inside the build-time bounds, and no entry before reports
    its first SSID, nor, for the second packet on, the first SSID of the entry. -/
structure MsgTold (controls len : Nat) (table : List DiagMsgMask) (range : DiagSsidRange) (msg_item : DiagMsgMask) :
    Prop where
  keeps : KeepsFit range msg_item
  answer : range.ssid_first.toNat = msg_item.ssid_first → len < 4294967296
  told : range.ssid_first.toNat ≤ range.ssid_last.toNat → ¬ Refused range msg_item → 1 ≤ controls →
    range.ssid_last.toNat ≤ msg_item.ssid_last ∧
      (∀ other ∈ table, other.ssid_first < msg_item.ssid_first → other.ssid_last_tools < range.ssid_first.toNat) ∧
      (2 ≤ controls → ∀ other ∈ table, other.ssid_first < msg_item.ssid_first → other.ssid_last_tools < msg_item.ssid_first)

section
variable {junk : Nat → UInt32} {masks after : MaskTables} {range : DiagSsidRange} {mask : Nat → UInt32}

/-- The entry an accepted SET has stored to. -/
theorem accepted_item (built : Built masks.msg_mask.ptr) (buffers : Buffers masks)
    (keeps : ∀ msg_item ∈ selected range masks.msg_mask.ptr, KeepsFit range msg_item)
    (accepted : diag_cmd_set_msg_mask junk masks range mask = .ok (0,after)) :
    ∃ before msg_item later ptr, selected range masks.msg_mask.ptr = some msg_item ∧
      masks.msg_mask.ptr = before ++ msg_item :: later ∧
      after.msg_mask.ptr = before ++ { resized junk range msg_item with ptr := ptr } :: later ∧
      after.msg_mask.status = DIAG_CTRL_MASK_VALID ∧ msg_item.ssid_first ≤ range.ssid_first.toNat ∧
      range.ssid_first.toNat ≤ msg_item.ssid_first + MAX_SSID_PER_RANGE ∧
      range.ssid_first.toNat - msg_item.ssid_first + stored range ≤ (resized junk range msg_item).range_tools ∧
      ∀ k, k < stored range → ptr[range.ssid_first.toNat - msg_item.ssid_first + k]? = some (mask k) := by
  obtain ⟨items,loop,rfl⟩ := set_msg_mask_ok_iff.mp accepted
  cases found : selected range masks.msg_mask.ptr with
  | none =>
    rw [set_msg_loop_none junk mask found] at loop
    cases loop
  | some msg_item =>
    have member := selected_mem found
    have fits := (resized_fits_iff built member (buffers msg_item member) junk range).mpr (keeps msg_item found)
    obtain ⟨before,later,table,hit,run⟩ := set_msg_loop_some junk mask found
    obtain ⟨first,near,_⟩ := not_skips hit
    obtain ⟨ret,new,set,success,ptr,_,same,words⟩ := DiagRouter.MsgMaskReadBack.set_msg_item_cases mask first fits.tools
    rw [run,set] at loop
    cases loop
    subst same
    refine ⟨before,msg_item,later,ptr,rfl,table,rfl,rfl,first,near,success.mp rfl,?_⟩
    intro k below
    rw [words,if_pos ⟨rfl,by omega,by omega⟩]
    congr 2
    omega

theorem find_item {before later : List DiagMsgMask} {msg_item : DiagMsgMask} {ssid : Nat}
    (missed : ∀ other ∈ before, other.ssid_last_tools < ssid) (hit : reports ssid msg_item) :
    (before ++ msg_item :: later).find? (reports ssid) = some msg_item := by
  have none : before.find? (reports ssid) = none := by
    rw [List.find?_eq_none]
    intro other member reported
    simp only [reports,decide_eq_true_eq] at reported
    have early := missed other member
    omega
  rw [List.find?_append,none,List.find?_cons,hit]
  rfl

/-- The words of an entry that took a request inside its bounds. -/
theorem item_packet_told {buf : Request} {table : List DiagMsgMask} {msg_item : DiagMsgMask} (built : Built table)
    (member : msg_item ∈ table) (room : msg_item.range ≤ msg_item.ptr.length)
    (first : msg_item.ssid_first ≤ (range_at buf 2).ssid_first.toNat)
    (last : (range_at buf 2).ssid_last.toNat ≤ msg_item.ssid_last)
    (words : ∀ ssid, Contains (range_at buf 2) ssid → msg_item.ptr[ssid.toNat - msg_item.ssid_first]? =
      some (request_words buf (ssid.toNat - (range_at buf 2).ssid_first.toNat))) :
    MsgPacket buf (item_packet msg_item) := by
  have few := bounded_le built member
  have size := (layout_mem built member).2.2.1
  have capacity : MAX_SSID_PER_RANGE = 200 := rfl
  have items : (UInt32.ofNat (bounded msg_item)).toNat = bounded msg_item := by
    rw [UInt32.toNat_ofNat']
    omega
  refine ⟨_,_,_,rfl,?_⟩
  intro ssid inside
  have shown := words ssid inside
  obtain ⟨low,high⟩ := inside
  have near : ssid.toNat - msg_item.ssid_first < bounded msg_item := by
    unfold bounded
    omega
  rw [bounds_first built member,items]
  refine ⟨⟨?_,?_⟩,?_,near,?_⟩
  · rw [bounds_first built member]
    omega
  · rw [bounds_last built member]
    omega
  · rw [le32s_length,List.length_take]
    omega
  · have length : ssid.toNat - msg_item.ssid_first < (msg_item.ptr.take (bounded msg_item)).length := by
      rw [List.length_take]
      omega
    have reads := le32At_le32s [] (msg_item.ptr.take (bounded msg_item)) (fun _ => 0) length
    rw [List.nil_append,List.length_nil,Nat.zero_add] at reads
    rw [reads]
    apply Option.some.inj
    rw [← List.getElem?_eq_getElem,List.getElem?_take,if_pos near,shown]

/-- Where the packets of an accepted SET find its words. -/
theorem accepted_told {buf : Request} {junk : Nat → UInt32} {masks after : MaskTables} {controls len : Nat}
    (built : Built masks.msg_mask.ptr) (buffers : Buffers masks)
    (told : ∀ msg_item ∈ selected (range_at buf 2) masks.msg_mask.ptr,
      MsgTold controls len masks.msg_mask.ptr (range_at buf 2) msg_item)
    (accepted : diag_cmd_set_msg_mask junk masks (range_at buf 2) (request_words buf) = .ok (0,after))
    (stays : Built after.msg_mask.ptr) (fits : Buffers after) (some_control : 1 ≤ controls)
    (ordered : (range_at buf 2).ssid_first.toNat ≤ (range_at buf 2).ssid_last.toNat) :
    ∃ new ∈ after.msg_mask.ptr, after.msg_mask.ptr.find? (reports (range_at buf 2).ssid_first.toNat) = some new ∧
      (2 ≤ controls → after.msg_mask.ptr.find? (reports new.ssid_first) = some new) ∧ MsgPacket buf (item_packet new) := by
  obtain ⟨before,msg_item,later,ptr,found,table,next,_,first,_,success,words⟩ :=
    accepted_item built buffers (fun msg_item found => (told msg_item found).keeps) accepted
  have member := selected_mem found
  obtain ⟨_,near,_,_⟩ := layout_mem built member
  have low := built.low msg_item member
  have taken : ¬ Refused (range_at buf 2) msg_item := by
    intro refused
    have outside := (DiagRouter.MsgMaskReadBack.refused_iff junk built member first).mp refused
    omega
  obtain ⟨inside,alone,again⟩ := (told msg_item found).told ordered taken some_control
  have count := @num_ssids_of_le (range_at buf 2) (by omega)
  have capacity : MAX_SSID_PER_RANGE = 200 := rfl
  rw [resized_within (by omega) (by omega)] at next
  have early : ∀ other ∈ before, other.ssid_first < msg_item.ssid_first := by
    intro other present
    rw [table] at built
    have apart := (List.pairwise_append.mp (layout_apart built)).2.2 other present msg_item List.mem_cons_self
    have bounded := (layout_mem built (List.mem_append_left _ present)).1
    omega
  have newMember : { msg_item with ptr := ptr } ∈ after.msg_mask.ptr := by
    rw [next]
    simp
  refine ⟨{ msg_item with ptr := ptr },newMember,?_,?_,?_⟩
  · rw [next]
    apply find_item
    · exact fun other present => alone other (by rw [table]; exact List.mem_append_left _ present) (early other present)
    · simp only [reports,decide_eq_true_eq]
      omega
  · intro several
    rw [next]
    apply find_item
    · exact fun other present =>
        again several other (by rw [table]; exact List.mem_append_left _ present) (early other present)
    · simp only [reports,decide_eq_true_eq]
      omega
  · refine item_packet_told stays newMember (fits _ newMember).range first inside ?_
    rintro ssid ⟨above,below⟩
    have word := words (ssid.toNat - (range_at buf 2).ssid_first.toNat) (by unfold stored; omega)
    have place : (range_at buf 2).ssid_first.toNat - msg_item.ssid_first +
        (ssid.toNat - (range_at buf 2).ssid_first.toNat) = ssid.toNat - msg_item.ssid_first := by omega
    rw [place] at word
    exact word

end

/-- The SET succeeds, which is what the request is answered. -/
def Accepted (junk : Junk) (masks : MaskTables) (buf : Request) : Prop :=
  ∃ after, diag_cmd_set_msg_mask junk.words masks (range_at buf 2) (request_words buf) = .ok (0,after)

/-- The response of an accepted SET has room for what is written to it. -/
theorem accepted_length {junk : Nat → UInt32} {masks after : MaskTables} {controls len : Nat} {buf : Request}
    (built : Built masks.msg_mask.ptr) (buffers : Buffers masks)
    (told : ∀ msg_item ∈ selected (range_at buf 2) masks.msg_mask.ptr,
      MsgTold controls len masks.msg_mask.ptr (range_at buf 2) msg_item)
    (whole : len = 8 + MSG_RANGE_TO_SIZE (range_at buf 2))
    (accepted : diag_cmd_set_msg_mask junk masks (range_at buf 2) (request_words buf) = .ok (0,after)) :
    len < 4294967296 := by
  obtain ⟨_,msg_item,_,_,found,_,_,_,first,near,success,_⟩ :=
    accepted_item built buffers (fun msg_item found => (told msg_item found).keeps) accepted
  have low := (range_at buf 2).ssid_first.toNat_lt
  have high := (range_at buf 2).ssid_last.toNat_lt
  by_cases ordered : (range_at buf 2).ssid_first.toNat ≤ (range_at buf 2).ssid_last.toNat + 1
  · rw [MSG_RANGE_TO_SIZE,u32_of_lt (by omega) (by omega)] at whole
    omega
  · apply (told msg_item found).answer
    -- a range that ends before it begins is cut to the size of the entry, and fits only at its start
    have count := num_ssids_of_gt (Nat.lt_of_not_le ordered)
    have capacity : MAX_SSID_PER_RANGE = 200 := rfl
    rw [resized_cut_within (by omega) (by omega),stored] at success
    dsimp only at success
    omega

/-- A SET whose tables and packets are done is answered. -/
theorem set_msg_mask_answers (junk : Junk) (client : Nat) {len : Nat} {buf : Request} {router : Router} {masks : MaskTables}
    {left : DiagSsidRange} {peripherals : List Peripheral} {Good : List UInt8 → Prop}
    (whole : len = 8 + MSG_RANGE_TO_SIZE (range_at buf 2)) (short : len < 4294967296)
    (set : diag_cmd_set_msg_mask junk.words router.masks (range_at buf 2) (request_words buf) = .ok (0,masks))
    (sent : peripheral_broadcast_msg_mask junk.pkt masks (some (range_at buf 2)) router.peripherals =
      .ok (some left,peripherals))
    (all : List.Forall₂ (Told Good) router.peripherals peripherals) :
    ∃ after, set_msg_mask junk client buf len router = .ok (0,after) ∧ (0 = 0 → AllTold Good router after) := by
  have size : u32 (8 + (MSG_RANGE_TO_SIZE (range_at buf 2) : Int)) = len := by
    rw [u32_of_lt (by omega) (by omega)]
    omega
  obtain ⟨header,begun⟩ : ∃ header, store (span junk.resp 0 len) 0
      (span buf 0 2 ++ range_bytes (range_at buf 2) ++ [DIAG_CMD_MSG_STATUS_SUCCESSFUL,buf 6]) = .ok header :=
    ⟨_,store_ok_iff.mpr ⟨by simp [range_bytes]; omega,rfl⟩⟩
  have headerLength := store_length begun
  obtain ⟨answer,filled⟩ : ∃ answer, store header 8 (span buf 8 (MSG_RANGE_TO_SIZE (range_at buf 2))) = .ok answer :=
    ⟨_,store_ok_iff.mpr ⟨by simp only [span_length] at headerLength ⊢; omega,rfl⟩⟩
  have answerLength := store_length filled
  obtain ⟨resp,bounded⟩ : ∃ resp, store answer 2 (range_bytes left) = .ok resp :=
    ⟨_,store_ok_iff.mpr ⟨by simp only [span_length] at headerLength; simp [range_bytes]; omega,rfl⟩⟩
  have set' : diag_cmd_set_msg_mask junk.words router.masks (range_at buf 2) (fun i => le32At buf (8 + 4 * i)) =
      .ok (0,masks) := set
  refine ⟨send { router with masks := masks, peripherals := peripherals } client resp,?_,fun _ => all⟩
  simp only [set_msg_mask]
  rw [if_neg (by omega)]
  simp only [set',ok_bind,if_true,size,begun,filled,sent,Option.getD_some,bounded]
  rfl

theorem msg_set_told (junk : Junk) (client : Nat) {len : Nat} {buf : Request} {router : Router}
    (sound : Sound router.masks) (asked : IsSetMsgMask len buf)
    (told : ∀ msg_item ∈ selected (range_at buf 2) router.masks.msg_mask.ptr,
      MsgTold (controlled router.peripherals) len router.masks.msg_mask.ptr (range_at buf 2) msg_item) :
    ∃ after, diag_client_handle_command junk client buf len router = .ok after ∧
      (Accepted junk router.masks buf → AllTold (MsgPacket buf) router after) := by
  obtain ⟨command,operation,whole⟩ := asked
  obtain ⟨built,buffers,_,_⟩ := sound
  let op : MsgMaskOp := .set junk.words (range_at buf 2) (request_words buf)
  obtain ⟨masks,step,fits⟩ := (@msg_mask_step_iff router.masks op built buffers).mp
    (fun msg_item found => (told msg_item found).keeps)
  have stays := @msg_mask_step_built router.masks masks op built step
  obtain ⟨⟨ret,masks⟩,set,rfl⟩ := map_eq_ok.mp step
  have set' : diag_cmd_set_msg_mask junk.words router.masks (range_at buf 2) (fun i => le32At buf (8 + 4 * i)) =
      .ok (ret,masks) := set
  suffices handled : ∃ after, set_msg_mask junk client buf len router = .ok (0,after) ∧
      (ret = 0 → AllTold (MsgPacket buf) router after) by
    obtain ⟨after,ran,good⟩ := handled
    refine ⟨after,handle_command_success ?_,?_⟩
    · rw [message_dispatch junk client len router command,handle_extended_message_configuration,operation]
      exact ran
    · rintro ⟨next,accepted⟩
      cases accepted.symm.trans set
      exact good rfl
  by_cases done : ret = 0
  · subst done
    have short := accepted_length built buffers told whole set
    obtain ⟨left,peripherals,sent,all⟩ : ∃ left peripherals,
        peripheral_broadcast_msg_mask junk.pkt masks (some (range_at buf 2)) router.peripherals = .ok (some left,peripherals) ∧
          List.Forall₂ (Told (MsgPacket buf)) router.peripherals peripherals := by
      obtain ⟨_,_,_,_,_,_,_,valid,_⟩ := accepted_item built buffers (fun msg_item found => (told msg_item found).keeps) set
      by_cases silent : controlled router.peripherals = 0
      · exact ⟨_,_,broadcast_msg_mask_none _ _ silent,told_none silent _⟩
      · by_cases ordered : (range_at buf 2).ssid_first.toNat ≤ (range_at buf 2).ssid_last.toNat
        · obtain ⟨new,member,first,again,good⟩ := accepted_told built buffers told set stays fits (by omega) ordered
          exact broadcast_msg_mask_found junk.pkt stays valid (fits new member).range good member (fun _ => first) again
        · refine broadcast_msg_mask_ok junk.pkt (range_at buf 2) router.peripherals stays fits valid ?_
          intro shown num_items words
          refine ⟨shown,num_items,words,rfl,?_⟩
          rintro ssid ⟨low,high⟩
          omega
    exact set_msg_mask_answers junk client whole short set sent all
  · refine ⟨_,by
      simp only [set_msg_mask,whole,ne_eq,not_true_eq_false,if_false,set',ok_bind,done]
      rfl,fun zero => absurd zero done⟩

/-! ## Runs -/

/-- Client messages, between which everything but the mask tables may change. -/
inductive RouterOp
  | request (junk : Junk) (client : Nat) (buf : Request) (len : Nat)
  | elsewhere (diag_cmds : List (DiagCmd Nat)) (diag_ids : List DiagIdTbl) (peripherals : List Peripheral)
      (diag_clients : List DiagRouter.Clients.DiagClient)

def router_step (router : Router) : RouterOp → Except Fault Router
  | .request junk client buf len => diag_client_handle_command junk client buf len router
  | .elsewhere diag_cmds diag_ids peripherals diag_clients =>
    .ok { masks := router.masks, diag_cmds := diag_cmds, diag_ids := diag_ids, peripherals := peripherals,
          diag_clients := diag_clients }

def start : Router := ⟨diag_masks_init,[],[],[],[]⟩

/-- A SET of a mask is handled, and where it succeeds it reaches every
    peripheral. -/
def Reaches (router : Router) : RouterOp → Prop
  | .request junk client buf len =>
    (IsEventSetMask len buf → ∃ after, diag_client_handle_command junk client buf len router = .ok after ∧
      AllTold (EventPacket buf) router after) ∧
    (IsSetLogMask len buf → (le32At buf 8).toNat < 16 →
      ∃ after, diag_client_handle_command junk client buf len router = .ok after ∧ AllTold (LogPacket buf) router after) ∧
    (IsSetMsgMask len buf → ∃ after, diag_client_handle_command junk client buf len router = .ok after ∧
      (Accepted junk router.masks buf → AllTold (MsgPacket buf) router after))
  | .elsewhere .. => True

/-- The SETs that reach every peripheral: of a log mask, with a count that does
    not wrap, and large enough for the equipment id to be copied into the
    response when a packet is to be sent; of message masks, as in `MsgTold`. -/
def CanReach (router : Router) : RouterOp → Prop
  | .request _ _ buf len =>
    (IsSetLogMask len buf → (le32At buf 8).toNat < 16 → (le32At buf 12).toNat + 7 < 4294967296 ∧
      (1 ≤ controlled router.peripherals → 25 ≤ (le32At buf 12).toNat)) ∧
    (IsSetMsgMask len buf → ∀ msg_item ∈ selected (range_at buf 2) router.masks.msg_mask.ptr,
      MsgTold (controlled router.peripherals) len router.masks.msg_mask.ptr (range_at buf 2) msg_item)
  | .elsewhere .. => True

theorem router_step_sound {router after : Router} {op : RouterOp} (sound : Sound router.masks) (can : CanReach router op)
    (step : router_step router op = .ok after) : Sound after.masks := by
  cases op with
  | elsewhere diag_cmds diag_ids peripherals diag_clients =>
    cases step
    exact sound
  | request junk client buf len =>
    exact (handle_command_changes step).sound sound (fun asked msg_item found => (can.2 asked msg_item found).keeps)

theorem router_step_reaches {router : Router} {op : RouterOp} (sound : Sound router.masks) (can : CanReach router op) :
    Reaches router op := by
  cases op with
  | elsewhere => trivial
  | request junk client buf len =>
    refine ⟨?_,?_,?_⟩
    · intro asked
      exact event_set_told junk client sound asked
    · intro asked known
      obtain ⟨small,copied⟩ := can.1 asked known
      exact log_set_told junk client sound asked known small copied
    · intro asked
      exact msg_set_told junk client sound asked (can.2 asked)

/-- Along every run of client messages from the tables as built, with any
    peripherals at any time, every SET of a mask reaches every peripheral, when
    all of them can. -/
theorem mask_set_reaches (ops : List RouterOp) (can : Meets router_step CanReach start ops) :
    Meets router_step Reaches start ops :=
  meets_of_meets (fun sound can step => router_step_sound sound can step)
    (fun sound can => router_step_reaches sound can) sound_init can

/-- A peripheral with a control channel, and a SET of one word for the SSID. -/
def modem : Peripheral := ⟨1,0,5,[],[],[],.perif_rpmsg_send⟩

def set_one (ssid : UInt8) : RouterOp :=
  .request ⟨fun _ => 0,fun _ => 0,fun _ => 0,fun _ _ => 0⟩ 0
    (place [0x7d,4,ssid,0,ssid,0,0,0,9,0,0,0] (fun _ => 0)) 12

theorem mask_set_reaches_modem : Meets router_step Reaches start [.elsewhere [] [] [modem] [],set_one 7] := by
  refine mask_set_reaches _ ⟨trivial,?_⟩
  intro router step
  cases step
  refine ⟨⟨fun asked => absurd asked.1 (by decide),?_⟩,fun _ _ => trivial⟩
  intro _ msg_item found
  have entry : selected (range_at (place [0x7d,4,7,0,7,0,0,0,9,0,0,0] (fun _ => 0)) 2) diag_masks_init.msg_mask.ptr =
      some (diag_create_msg_mask_table_entry 0 120) := by decide +kernel
  obtain rfl : msg_item = diag_create_msg_mask_table_entry 0 120 := Option.some.inj (found.symm.trans entry)
  refine ⟨?_,fun _ => by decide,fun _ _ _ => ⟨by decide,?_,?_⟩⟩
  · rw [KeepsFit,if_neg (by decide)]
    intro past
    exact absurd past (by decide)
  · exact fun other _ below => absurd below (Nat.not_lt_zero _)
  · exact fun _ other _ below => absurd below (Nat.not_lt_zero _)

/-- Where a message mask packet has the last SSID of its range. -/
theorem msg_packet_last (shown : DiagSsidRange) (num_items : UInt32) (words : List UInt8) :
    le16At (place (msg_packet shown num_items words) (fun _ => 0)) 13 = shown.ssid_last := by
  let rest := [1,DIAG_CTRL_MASK_VALID,0] ++ le16 shown.ssid_first ++ le16 shown.ssid_last ++ le32 num_items ++ words
  have reads := le16At_place (diag_cntl_hdr DIAG_CNTL_CMD_MSG_MASK rest ++ [1,DIAG_CTRL_MASK_VALID,0] ++ le16 shown.ssid_first)
    (le32 num_items ++ words) shown.ssid_last (fun _ => 0)
  have text : diag_cntl_hdr DIAG_CNTL_CMD_MSG_MASK rest ++ [1,DIAG_CTRL_MASK_VALID,0] ++ le16 shown.ssid_first ++
      le16 shown.ssid_last ++ (le32 num_items ++ words) = msg_packet shown num_items words := by
    simp only [msg_packet,packet,rest,List.append_assoc]
  rw [text] at reads
  exact reads

/-- A SET of SSID 199 succeeds, and the peripheral is told the words of SSIDs 0
    to 120. -/
theorem ssid_199_not_told : ¬ Meets router_step Reaches start [.elsewhere [] [] [modem] [],set_one 199] := by
  rintro ⟨_,rest⟩
  obtain ⟨⟨_,_,reaches⟩,_⟩ := rest ⟨diag_masks_init,[],[],[modem],[]⟩ rfl
  obtain ⟨after,ran,told⟩ := reaches ⟨rfl,rfl,by decide⟩
  have accepted : Prod.fst <$> diag_cmd_set_msg_mask (fun _ => 0) diag_masks_init ⟨199,199⟩
      (request_words (place [0x7d,4,199,0,199,0,0,0,9,0,0,0] (fun _ => 0))) = .ok 0 := by decide +kernel
  obtain ⟨⟨ret,masks⟩,set,rfl⟩ := map_eq_ok.mp accepted
  have all := told ⟨masks,set⟩
  have shown : (fun router => router.peripherals.map (fun p => p.cntlq.map (fun pkt => le16At (place pkt (fun _ => 0)) 13))) <$>
      router_step ⟨diag_masks_init,[],[],[modem],[]⟩ (set_one 199) = .ok [[120]] := by decide +kernel
  obtain ⟨_,again,last⟩ := map_eq_ok.mp shown
  cases again.symm.trans ran
  rw [AllTold] at all
  generalize after.peripherals = peripherals at all last
  cases all with
  | cons one none =>
    cases none
    rw [Told,if_neg (by decide)] at one
    obtain ⟨pkt,rfl,bounds,num_items,words,rfl,good⟩ := one
    obtain ⟨⟨_,inside⟩,_⟩ := good 199 ⟨by decide,by decide⟩
    simp only [modem,List.nil_append,List.map_cons,List.map_nil,List.cons.injEq,and_true,msg_packet_last] at last
    rw [last] at inside
    exact absurd inside (by decide)

end DiagRouter.MaskBroadcast

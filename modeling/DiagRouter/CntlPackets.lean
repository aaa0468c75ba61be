import DiagRouter.CntlParse
import DiagRouter.MaskBroadcast

/-!
# The control packets the router sends

Eight functions queue packets to a control channel, each with a length field of
its own making. Whatever they are called with from reachable tables, the loop of
`diag_cntl_recv` would cut what they queue into just these packets; all but
message masks of an inverted range that no entry reports.
-/
namespace DiagRouter.CntlPackets
open DiagRouter.Lib.Memory DiagRouter.Lib.Words DiagRouter.Lib.Runs DiagRouter.Lib.Packets DiagRouter.Masks
open DiagRouter.Clients DiagRouter.Peripherals DiagRouter.Cntl DiagRouter.CntlParse DiagRouter.MsgMaskTable
open DiagRouter.LogMaskTable DiagRouter.MaskRuns DiagRouter.Handlers DiagRouter.DiagIdTable DiagRouter.Lib.CString
open DiagRouter.CntlLocality (packet_offsets)
open DiagRouter.MaskBroadcast (router_step start set_one modem msg_packet send_msg_mask_missing)
open DiagRouter.Responses (handle_command_changes)

/-! ## Well framed packets -/

/-- The size of the packet a memory begins with. -/
def control_size (memory : Nat → UInt8) : Nat := 8 + (le32At memory 4).toNat

/-- A word of a packet. -/
def field (pkt : List UInt8) (offset : Nat) : UInt32 := le32At (place pkt (fun _ => 0)) offset

/-- In a mask packet the length field accounts for the rest of the packet:
    `log_mask_size` is at 15 and `last_item` before it, `event_mask_len` at 11
    and `msg_mask_len` at 15. -/
structure MaskLengths (pkt : List UInt8) : Prop where
  log : field pkt 0 = DIAG_CNTL_CMD_LOG_MASK →
    (field pkt 4).toNat = 11 + (field pkt 15).toNat ∧ (field pkt 15).toNat = BITS_TO_BYTES (field pkt 11).toNat
  event : field pkt 0 = DIAG_CNTL_CMD_EVENT_MASK → (field pkt 4).toNat = 7 + (field pkt 11).toNat
  msg : field pkt 0 = DIAG_CNTL_CMD_MSG_MASK → (field pkt 4).toNat = 11 + 4 * (field pkt 15).toNat

structure WellFramed (pkt : List UInt8) : Prop where
  framed : Framed control_size pkt
  lengths : MaskLengths pkt

/-- The packet at an offset. -/
def packet_at (memory : Nat → UInt8) (offset : Nat) : List UInt8 := span memory offset (packet_size memory offset)

/-- The packets are what the buffer they fill is cut into, whatever follows it,
    and nothing of the buffer is left. -/
structure ParsedAs (packets : List (List UInt8)) (rest : Nat → UInt8) : Prop where
  cut : (packet_offsets (place packets.flatten rest) packets.flatten.length).map (packet_at (place packets.flatten rest)) =
    packets
  whole : finish (packet_size (place packets.flatten rest)) 0
    (packet_offsets (place packets.flatten rest) packets.flatten.length) = packets.flatten.length
  loop : ∀ size_t fuel, packets.flatten.length + 8 < SizeT.modulus size_t → packets.flatten.length < fuel →
    cntl_loop size_t (note (packet_at (place packets.flatten rest))) (place packets.flatten rest) packets.flatten.length
      fuel 0 [] = .ok packets

/-- Framed packets are parsed when they stand one behind the other. -/
theorem parsed_of_framed {packets : List (List UInt8)} (framed : ∀ pkt ∈ packets, Framed control_size pkt)
    (rest : Nat → UInt8) : ParsedAs packets rest := by
  have positive : ∀ memory, 0 < control_size memory := by
    intro memory
    unfold control_size
    omega
  obtain ⟨offsets,maximal,cut,whole⟩ := concatenation_parsed framed [] rest positive
  rw [List.nil_append] at maximal cut whole
  have same : size_at control_size (place packets.flatten rest) = packet_size (place packets.flatten rest) := rfl
  rw [same] at maximal whole
  obtain rfl := maximal_unique (packet_offsets_maximal _ _) maximal
  have cut' : (packet_offsets (place packets.flatten rest) packets.flatten.length).map
      (packet_at (place packets.flatten rest)) = packets := cut
  refine ⟨cut',whole,?_⟩
  intro size_t fuel sized enough
  have fits : SumsFit size_t (place packets.flatten rest) packets.flatten.length
      (finish (packet_size (place packets.flatten rest)) 0
        (packet_offsets (place packets.flatten rest) packets.flatten.length)) := by
    have none_left : finish (packet_size (place packets.flatten rest)) 0
      (packet_offsets (place packets.flatten rest) packets.flatten.length) = packets.flatten.length := whole
    rw [none_left,SumsFit,if_neg (by omega)]
    exact sized
  rw [(parses_of_fit (by omega) maximal fits).dispatched _ _ _ _ enough,exec_note,cut']
  rfl

/-! ## Fields -/

section
variable {cmd : UInt32} {rest : List UInt8}

theorem field_at (before after : List UInt8) (word : UInt32) : field (before ++ le32 word ++ after) before.length = word :=
  le32At_place before after word _

theorem packet_cmd (cmd : UInt32) (rest : List UInt8) : field (packet cmd rest) 0 = cmd := by
  have text : packet cmd rest = [] ++ le32 cmd ++ (le32 (UInt32.ofNat rest.length) ++ rest) := by
    simp [packet,diag_cntl_hdr]
  rw [text]
  exact field_at [] _ cmd

theorem packet_len (small : rest.length < 4294967296) : (field (packet cmd rest) 4).toNat = rest.length := by
  have reads : field (packet cmd rest) 4 = UInt32.ofNat rest.length := field_at (le32 cmd) rest _
  rw [reads,UInt32.toNat_ofNat_of_lt' small]

/-- A word behind the header. -/
theorem packet_field (before after : List UInt8) (word : UInt32) (text : rest = before ++ le32 word ++ after) :
    field (packet cmd rest) (8 + before.length) = word := by
  have whole : packet cmd rest = diag_cntl_hdr cmd rest ++ before ++ le32 word ++ after := by
    rw [packet]
    conv_lhs => arg 2; rw [text]
    simp only [List.append_assoc]
  have header : (diag_cntl_hdr cmd rest ++ before).length = 8 + before.length := by
    rw [List.length_append]
    rfl
  rw [whole,← header]
  exact field_at _ after word

theorem packet_framed (cmd : UInt32) (small : rest.length < 4294967296) : Framed control_size (packet cmd rest) := by
  intro after
  have reads : le32At (place (packet cmd rest) after) 4 = UInt32.ofNat rest.length :=
    le32At_place (le32 cmd) rest _ after
  rw [control_size,reads,UInt32.toNat_ofNat_of_lt' small,packet,List.length_append]
  rfl

/-- A packet that is no mask packet has no other length in it. -/
theorem plain_well_framed (small : rest.length < 4294967296) (log : cmd ≠ DIAG_CNTL_CMD_LOG_MASK)
    (event : cmd ≠ DIAG_CNTL_CMD_EVENT_MASK) (msg : cmd ≠ DIAG_CNTL_CMD_MSG_MASK) : WellFramed (packet cmd rest) := by
  refine ⟨packet_framed cmd small,?_,?_,?_⟩
  · exact fun same => absurd ((packet_cmd cmd rest).symm.trans same) log
  · exact fun same => absurd ((packet_cmd cmd rest).symm.trans same) event
  · exact fun same => absurd ((packet_cmd cmd rest).symm.trans same) msg

theorem log_well_framed (status equip_id : UInt8) {num_items : Nat} {mask : List UInt8} (items : num_items ≤ MAX_ITEMS_ALLOWED)
    (bytes : mask.length = BITS_TO_BYTES num_items) :
    WellFramed (packet DIAG_CNTL_CMD_LOG_MASK ([1,status,equip_id] ++ le32 (UInt32.ofNat num_items) ++
      le32 (UInt32.ofNat mask.length) ++ mask)) := by
  have few : mask.length ≤ 512 := by
    unfold BITS_TO_BYTES at bytes
    unfold MAX_ITEMS_ALLOWED at items
    omega
  unfold MAX_ITEMS_ALLOWED at items
  let rest := [1,status,equip_id] ++ le32 (UInt32.ofNat num_items) ++ le32 (UInt32.ofNat mask.length) ++ mask
  have size : rest.length = 11 + mask.length := by simp [rest]; omega
  have small : rest.length < 4294967296 := by omega
  have last_item : field (packet DIAG_CNTL_CMD_LOG_MASK rest) 11 = UInt32.ofNat num_items :=
    packet_field [1,status,equip_id] (le32 (UInt32.ofNat mask.length) ++ mask) _ (by simp only [rest,List.append_assoc])
  have log_mask_size : field (packet DIAG_CNTL_CMD_LOG_MASK rest) 15 = UInt32.ofNat mask.length :=
    packet_field ([1,status,equip_id] ++ le32 (UInt32.ofNat num_items)) mask _ rfl
  refine ⟨packet_framed _ small,?_,?_,?_⟩
  · intro _
    rw [packet_len small,last_item,log_mask_size,size,UInt32.toNat_ofNat_of_lt' (by change _ < 4294967296; omega),
      UInt32.toNat_ofNat_of_lt' (by change _ < 4294967296; omega)]
    exact ⟨rfl,bytes⟩
  · exact fun same => absurd ((packet_cmd _ _).symm.trans same) (by decide)
  · exact fun same => absurd ((packet_cmd _ _).symm.trans same) (by decide)

theorem event_well_framed (status event_config : UInt8) {mask : List UInt8} (few : mask.length < 65536) :
    WellFramed (packet DIAG_CNTL_CMD_EVENT_MASK ([1,status,event_config] ++ le32 (UInt32.ofNat mask.length) ++ mask)) := by
  let rest := [1,status,event_config] ++ le32 (UInt32.ofNat mask.length) ++ mask
  have size : rest.length = 7 + mask.length := by simp [rest]; omega
  have small : rest.length < 4294967296 := by omega
  have event_mask_len : field (packet DIAG_CNTL_CMD_EVENT_MASK rest) 11 = UInt32.ofNat mask.length :=
    packet_field [1,status,event_config] mask _ rfl
  refine ⟨packet_framed _ small,?_,?_,?_⟩
  · exact fun same => absurd ((packet_cmd _ _).symm.trans same) (by decide)
  · intro _
    rw [packet_len small,event_mask_len,size,UInt32.toNat_ofNat_of_lt' (by change _ < 4294967296; omega)]
  · exact fun same => absurd ((packet_cmd _ _).symm.trans same) (by decide)

theorem msg_well_framed (status : UInt8) (range : DiagSsidRange) {num_items : Nat} {words : List UInt8}
    (few : num_items ≤ 65536) (bytes : words.length = 4 * num_items) :
    WellFramed (packet DIAG_CNTL_CMD_MSG_MASK ([1,status,0] ++ le16 range.ssid_first ++ le16 range.ssid_last ++
      le32 (UInt32.ofNat num_items) ++ words)) := by
  let rest := [1,status,0] ++ le16 range.ssid_first ++ le16 range.ssid_last ++ le32 (UInt32.ofNat num_items) ++ words
  have size : rest.length = 11 + words.length := by simp [rest]; omega
  have small : rest.length < 4294967296 := by omega
  have msg_mask_len : field (packet DIAG_CNTL_CMD_MSG_MASK rest) 15 = UInt32.ofNat num_items :=
    packet_field ([1,status,0] ++ le16 range.ssid_first ++ le16 range.ssid_last) words _ rfl
  refine ⟨packet_framed _ small,?_,?_,?_⟩
  · exact fun same => absurd ((packet_cmd _ _).symm.trans same) (by decide)
  · exact fun same => absurd ((packet_cmd _ _).symm.trans same) (by decide)
  · intro _
    rw [packet_len small,msg_mask_len,size,UInt32.toNat_ofNat_of_lt' (by change _ < 4294967296; omega),bytes]

end

/-! ## The calls -/

/-- The tables, and the peripheral the packets are for. -/
structure Sender where
  masks : MaskTables
  ids : DiagIds
  peripheral : CntlPeripheral
deriving DecidableEq, Repr

inductive Call
  | send_log_mask (equip_id : UInt32)
  | send_msg_mask (junk : Nat → UInt8) (range : DiagSsidRange)
  | send_masks (junk : Nat → Nat → UInt8)
  | send_event_mask
  | set_diag_mode (real_time : Bool)
  | set_buffering_mode (mode : Int)
  | feature_mask (junk : Nat → Nat → UInt8) (memory : Nat → UInt8)
  | process_diag_id (memory : Nat → UInt8) (len : Nat)

def Sender.with_peripheral (state : Sender) (peripheral : Peripheral) : Sender :=
  { state with peripheral := { state.peripheral with toPeripheral := peripheral } }

def call_step (state : Sender) : Call → Except Fault Sender
  | .send_log_mask equip_id =>
    state.with_peripheral <$> diag_cntl_send_log_mask state.masks state.peripheral.toPeripheral equip_id
  | .send_msg_mask junk range => do
    let (_,peripheral) ← diag_cntl_send_msg_mask junk state.masks state.peripheral.toPeripheral (some range)
    return state.with_peripheral peripheral
  | .send_masks junk => state.with_peripheral <$> diag_cntl_send_masks junk state.masks state.peripheral.toPeripheral
  | .send_event_mask => state.with_peripheral <$> diag_cntl_send_event_mask state.masks state.peripheral.toPeripheral
  | .set_diag_mode real_time => .ok { state with peripheral := diag_cntl_set_diag_mode state.peripheral real_time }
  | .set_buffering_mode mode => .ok { state with peripheral := diag_cntl_set_buffering_mode state.peripheral mode }
  | .feature_mask junk memory => do
    let peripheral ← diag_cntl_feature_mask junk state.masks memory state.peripheral
    return { state with peripheral := peripheral }
  | .process_diag_id memory len => do
    let (_,ids,peripheral) ← diag_cntl_process_diag_id memory len state.ids state.peripheral
    return { state with ids := ids, peripheral := peripheral }

/-! ## What the tables keep -/

/-- The bounds of the message masks are those of the build, and the item counts
    of the log masks fit their buffers. -/
structure Laid (masks : MaskTables) : Prop where
  built : Built masks.msg_mask.ptr
  log : LogBuilt masks.log_mask.ptr

theorem laid_init : Laid diag_masks_init := ⟨built_init,logBuilt_init⟩

/-- Every command on the tables keeps them laid out, also one that leaves a
    message mask too small. -/
theorem changed_laid {junk : Junk} {len : Nat} {buf : Request} {masks after : MaskTables} (laid : Laid masks)
    (change : MaskChange junk len buf masks after) : Laid after := by
  obtain ⟨built,log⟩ := laid
  cases change with
  | same => exact ⟨built,log⟩
  | disable_log ran =>
    obtain ⟨items,disabled,same⟩ := bind_eq_ok.mp ran
    cases same
    exact ⟨built,disable_log_items_built log disabled⟩
  | set_log ran =>
    have set := set_log_mask_built log ran
    rw [set_log_mask_frame ran]
    exact ⟨built,set⟩
  | set_msg asked ran =>
    obtain ⟨items,loop,same⟩ := set_msg_mask_ok_iff.mp ran
    cases same
    exact ⟨set_msg_loop_built built loop,log⟩
  | set_all ran =>
    obtain ⟨items,set,same⟩ := bind_eq_ok.mp ran
    cases same
    exact ⟨set_all_items_built built set,log⟩
  | update_event ran =>
    obtain ⟨ptr,_,same⟩ := bind_eq_ok.mp ran
    cases same
    split_ifs
    · exact ⟨built,log⟩
    · exact ⟨built,log⟩
  | toggle_events ran =>
    obtain ⟨ptr,_,same⟩ := bind_eq_ok.mp ran
    cases same
    exact ⟨built,log⟩

/-- No id is stored for a name longer than its 8 bit length. -/
def ShortNames (ids : DiagIds) : Prop := ∀ item ∈ ids.diag_ids, (item_process_name item).length ≤ 254

/-! ## What a call queues -/

/-- The control queue has grown by well framed packets, and the channel is the
    same. -/
structure Queued (old new : Peripheral) : Prop where
  channel : new.cntl_fd = old.cntl_fd
  grown : ∃ packets, new.cntlq = old.cntlq ++ packets ∧ ∀ pkt ∈ packets, WellFramed pkt

theorem Queued.refl (p : Peripheral) : Queued p p := ⟨rfl,[],(List.append_nil _).symm,by simp⟩

theorem Queued.trans {old mid new : Peripheral} (first : Queued old mid) (second : Queued mid new) : Queued old new := by
  obtain ⟨packets,queue,framed⟩ := first.grown
  obtain ⟨others,queue',framed'⟩ := second.grown
  refine ⟨second.channel.trans first.channel,packets ++ others,?_,List.forall_mem_append.mpr ⟨framed,framed'⟩⟩
  rw [queue',queue,List.append_assoc]

theorem queued_one (p : Peripheral) {pkt : List UInt8} (framed : WellFramed pkt) :
    Queued p { p with cntlq := queue_push p.cntlq pkt } :=
  ⟨rfl,[pkt],rfl,by simpa using framed⟩

section
variable {masks : MaskTables} {p after : Peripheral}

/-- Of an unknown id there are no items, and of a known one as many as its mask
    has bits for. -/
theorem get_log_mask_sized (log : LogBuilt masks.log_mask.ptr) {equip_id : UInt32} {found : Option (Nat × List UInt8)}
    (got : diag_cmd_get_log_mask masks equip_id = .ok found) :
    (found.getD (0,[])).1 ≤ MAX_ITEMS_ALLOWED ∧ (found.getD (0,[])).2.length = BITS_TO_BYTES (found.getD (0,[])).1 := by
  rw [diag_cmd_get_log_mask] at got
  cases hit : masks.log_mask.ptr.find? (fun log_item => log_item.equip_id.toUInt32 = equip_id) with
  | none =>
    rw [hit] at got
    cases got
    exact ⟨Nat.zero_le _,rfl⟩
  | some log_item =>
    rw [hit] at got
    obtain ⟨mask,loaded,same⟩ := bind_eq_ok.mp got
    cases same
    have items := (log.sized log_item (List.mem_of_find?_eq_some hit)).items
    refine ⟨items,?_⟩
    have wraps : BITS_TO_BYTES32 log_item.num_items_tools = BITS_TO_BYTES log_item.num_items_tools := by
      unfold MAX_ITEMS_ALLOWED at items
      unfold BITS_TO_BYTES32 BITS_TO_BYTES
      omega
    exact (load_length loaded).trans wraps

theorem send_log_mask_queued (laid : Laid masks) {equip_id : UInt32}
    (sent : diag_cntl_send_log_mask masks p equip_id = .ok after) : Queued p after := by
  by_cases silent : p.cntl_fd = -1
  · rw [diag_cntl_send_log_mask,if_pos silent] at sent
    cases sent
    exact .refl p
  · obtain ⟨byte,found,source,rfl⟩ := send_log_mask_packet silent sent
    rcases source with rfl | got
    · exact queued_one p (log_well_framed _ _ (Nat.zero_le _) rfl)
    · obtain ⟨items,bytes⟩ := get_log_mask_sized laid.log got
      exact queued_one p (log_well_framed _ _ items bytes)

theorem send_event_mask_queued (sent : diag_cntl_send_event_mask masks p = .ok after) : Queued p after := by
  by_cases silent : p.cntl_fd = -1
  · simp only [diag_cntl_send_event_mask,if_pos silent] at sent
    cases sent
    exact .refl p
  · obtain ⟨byte,mask,rfl,length⟩ := send_event_mask_packet silent sent
    have bound := masks.event_max_num_bits.toNat_lt
    have few : mask.length < 65536 := by
      rw [length]
      unfold BITS_TO_BYTES
      split_ifs
      · omega
      · omega
    exact queued_one p (event_well_framed _ _ few)

/-- A range that can be asked for: where the masks are valid an entry reports
    it, or it is not inverted. -/
def CanAsk (masks : MaskTables) (range : DiagSsidRange) : Prop :=
  masks.msg_mask.status = DIAG_CTRL_MASK_VALID →
    (∃ msg_item ∈ masks.msg_mask.ptr, reports range.ssid_first.toNat msg_item = true) ∨
      range.ssid_first.toNat ≤ range.ssid_last.toNat + 1

/-- A SET that stores leaves a range behind that can be asked for: an inverted
    one has extended the entry it went to. -/
theorem set_can_ask {junk mask : Nat → UInt32} {masks after : MaskTables} {range : DiagSsidRange}
    (set : diag_cmd_set_msg_mask junk masks range mask = .ok (0,after)) : CanAsk after range := by
  intro _
  by_cases ordered : range.ssid_first.toNat ≤ range.ssid_last.toNat + 1
  · exact .inr ordered
  · refine .inl ?_
    obtain ⟨items,loop,rfl⟩ := set_msg_mask_ok_iff.mp set
    cases found : selected range masks.msg_mask.ptr with
    | none =>
      rw [set_msg_loop_none junk mask found] at loop
      cases loop
    | some msg_item =>
      obtain ⟨before,later,table,taken,stored⟩ := set_msg_loop_some junk mask found
      rw [stored] at loop
      obtain ⟨⟨ret,item⟩,ran,same⟩ := bind_eq_ok.mp loop
      cases same
      obtain ⟨ptr,_,rfl⟩ := set_msg_item_frame ran
      obtain ⟨low,near,_⟩ := not_skips taken
      have many : MAX_SSID_PER_RANGE < num_ssids range := by
        have first := range.ssid_first.toNat_lt
        rw [num_ssids_of_gt (by omega),MAX_SSID_PER_RANGE]
        omega
      refine ⟨_,List.mem_append_right _ List.mem_cons_self,?_⟩
      rw [resized_cut_within many (by omega)]
      simp only [reports,decide_eq_true_eq]
      exact ⟨low,near⟩

theorem num_ssids_few {range : DiagSsidRange} (ordered : range.ssid_first.toNat ≤ range.ssid_last.toNat + 1) :
    num_ssids range ≤ 65536 := by
  have bound := range.ssid_last.toNat_lt
  rw [num_ssids_of_le ordered]
  omega

theorem msg_mask_items_few (laid : Laid masks) {range : DiagSsidRange} (can : CanAsk masks range)
    {shown : Option DiagSsidRange} {mask : Option (List UInt32)} {num_items : Nat}
    (items : msg_mask_items masks (some range) = .ok (shown,mask,num_items)) : num_items ≤ 65536 := by
  unfold msg_mask_items at items
  dsimp only at items
  split_ifs at items with reads valid
  · obtain ⟨found,got,same⟩ := bind_eq_ok.mp items
    cases same
    cases hit : masks.msg_mask.ptr.find? (reports range.ssid_first.toNat) with
    | none =>
      rw [diag_cmd_get_msg_mask,hit] at got
      cases got
      rw [List.find?_eq_none] at hit
      obtain ⟨msg_item,member,reported⟩ | ordered := can valid
      · exact absurd reported (hit msg_item member)
      · exact num_ssids_few ordered
    | some msg_item =>
      rw [diag_cmd_get_msg_mask,hit] at got
      obtain ⟨words,_,same⟩ := bind_eq_ok.mp got
      cases same
      have member := List.mem_of_find?_eq_some hit
      have few := bounded_le laid.built member
      have size : num_ssids (bounds msg_item) = bounded msg_item := num_ssids_bounds laid.built member
      simp only [Option.map_some,Option.getD_some]
      rw [bounds] at size
      omega
  · obtain ⟨found,got,same⟩ := bind_eq_ok.mp items
    cases same
    omega
  · cases items
    omega

theorem send_msg_mask_queued (laid : Laid masks) {junk : Nat → UInt8} {range : DiagSsidRange} (can : CanAsk masks range)
    {left : Option DiagSsidRange} (sent : diag_cntl_send_msg_mask junk masks p (some range) = .ok (left,after)) :
    Queued p after := by
  by_cases silent : p.cntl_fd = -1
  · rw [diag_cntl_send_msg_mask,if_pos silent] at sent
    cases sent
    exact .refl p
  · obtain ⟨shown,mask,num_items,words,items,length,_,rfl⟩ := send_msg_mask_packet silent sent
    have few := msg_mask_items_few laid can items
    have mask_size : u32 ((num_items : Int) * 4) = 4 * num_items := by
      rw [u32_of_lt (by omega) (by omega)]
      omega
    exact queued_one p (msg_well_framed _ _ few (length.trans mask_size))

theorem build_bounds_ordered : ∀ bounds ∈ ssid_first_arr.zip ssid_last_arr, bounds.1 ≤ bounds.2 ∧ bounds.2 < 65536 := by
  decide

theorem send_masks_loop_queued (laid : Laid masks) {junk : Nat → Nat → UInt8} {arr : List (Nat × Nat)}
    (ordered : ∀ bounds ∈ arr, bounds.1 ≤ bounds.2 ∧ bounds.2 < 65536)
    (sent : send_masks_loop junk masks arr p = .ok after) : Queued p after := by
  induction arr generalizing junk p with
  | nil =>
    cases sent
    exact .refl _
  | cons bounds arr ih =>
    obtain ⟨⟨first,last⟩,others⟩ := List.forall_mem_cons.mp ordered
    obtain ⟨⟨left,mid⟩,one,more⟩ := bind_eq_ok.mp sent
    have can : CanAsk masks ⟨UInt16.ofNat bounds.1,UInt16.ofNat bounds.2⟩ := by
      refine fun _ => .inr ?_
      rw [UInt16.toNat_ofNat',UInt16.toNat_ofNat']
      omega
    exact (send_msg_mask_queued laid can one).trans (ih others more)

theorem send_masks_queued (laid : Laid masks) {junk : Nat → Nat → UInt8} (sent : diag_cntl_send_masks junk masks p = .ok after) :
    Queued p after :=
  send_masks_loop_queued laid build_bounds_ordered sent

end

/-! ## The other encoders -/

section
variable {masks : MaskTables} {p after : CntlPeripheral}

/-- Their lengths are constants, which the packets keep to. -/
theorem set_diag_mode_queued (p : CntlPeripheral) (real_time : Bool) :
    Queued p.toPeripheral (diag_cntl_set_diag_mode p real_time).toPeripheral := by
  unfold diag_cntl_set_diag_mode
  dsimp only
  generalize (if real_time = true then (1 : UInt32) else 0) = vote
  split_ifs
  · have framed : WellFramed (packet DIAG_CNTL_CMD_DIAG_MODE (le32 2 ++ le32 vote ++ le32 vote ++ List.replicate 24 0 ++
        [UInt8.ofInt p.diag_id])) := plain_well_framed (by simp) (by decide) (by decide) (by decide)
    exact queued_one p.toPeripheral framed
  · have framed : WellFramed (packet DIAG_CNTL_CMD_DIAG_MODE (le32 1 ++ le32 vote ++ le32 vote ++ List.replicate 24 0)) :=
      plain_well_framed (by simp) (by decide) (by decide) (by decide)
    exact queued_one p.toPeripheral framed

theorem set_buffering_mode_queued (p : CntlPeripheral) (mode : Int) :
    Queued p.toPeripheral (diag_cntl_set_buffering_mode p mode).toPeripheral := by
  unfold diag_cntl_set_buffering_mode
  split_ifs
  · have framed : WellFramed (packet DIAG_CNTL_CMD_BUFFERING_TX_MODE (le32 2 ++ [UInt8.ofInt p.diag_id,0,UInt8.ofInt mode])) :=
      plain_well_framed (by simp) (by decide) (by decide) (by decide)
    exact queued_one p.toPeripheral framed
  · have framed : WellFramed (packet DIAG_CNTL_CMD_BUFFERING_TX_MODE (le32 1 ++ [0,UInt8.ofInt mode])) :=
      plain_well_framed (by simp) (by decide) (by decide) (by decide)
    exact queued_one p.toPeripheral framed

theorem feature_mask_queued (laid : Laid masks) {junk : Nat → Nat → UInt8} {memory : Nat → UInt8}
    (sent : diag_cntl_feature_mask junk masks memory p = .ok after) : Queued p.toPeripheral after.toPeripheral := by
  unfold diag_cntl_feature_mask at sent
  dsimp only at sent
  have renamed : Queued p.toPeripheral { p.toPeripheral with features := le32At memory 12 &&& local_mask p } :=
    ⟨rfl,[],(List.append_nil _).symm,by simp⟩
  refine renamed.trans ?_
  generalize le32At memory 12 &&& local_mask p = features at sent
  unfold diag_cntl_send_feature_mask at sent
  split_ifs at sent with silent
  · cases sent
    exact .refl _
  · obtain ⟨mid,masks_sent,same⟩ := bind_eq_ok.mp sent
    cases same
    have framed : WellFramed (packet DIAG_CNTL_CMD_FEATURE_MASK (le32 4 ++ le32 features ++ span (junk 0) 0 2)) :=
      plain_well_framed (by simp) (by decide) (by decide) (by decide)
    refine (queued_one _ framed).trans ((send_masks_queued laid masks_sent).trans ?_)
    exact (set_diag_mode_queued ⟨mid,_,_,_⟩ true).trans (set_buffering_mode_queued _ 0)

theorem diag_id_resp_framed (diag_id : UInt32) {name : List UInt8} (fits : process_name_len name ≠ 0) :
    WellFramed (diag_id_resp diag_id name) := by
  have some_byte : 1 ≤ (process_name_len name).toNat := by
    by_contra none
    exact fits (UInt8.toNat_inj.mp (by simp at none ⊢; omega))
  have bound := (process_name_len name).toNat_lt
  let rest := le32 DIAG_ID_VERSION_1 ++ le32 diag_id ++ strncpy name ((process_name_len name).toNat - 1) ++ [0]
  have size : rest.length = 8 + (process_name_len name).toNat := by
    simp [rest]
    omega
  have text : diag_id_resp diag_id name = packet DIAG_CNTL_CMD_DIAG_ID rest := by
    rw [packet,diag_cntl_hdr,size]
    simp only [diag_id_resp,rest,List.append_assoc]
  rw [text]
  exact plain_well_framed (by omega) (by decide) (by decide) (by decide)

/-- A response is for a name that was found or registered, which names that fit
    their length are. -/
theorem local_diag_id_short {memory : Nat → UInt8} {name : List UInt8} {ids left : DiagIds} {found : Option UInt32}
    (short : ShortNames ids) (text : 0 ∉ name) (got : local_diag_id memory name ids = (found,left)) :
    ShortNames left ∧ (found.isSome → process_name_len name ≠ 0) := by
  cases known : find_diag_id name ids.diag_ids with
  | some diag_id =>
    rw [local_known known] at got
    cases got
    obtain ⟨item,member,rfl,_⟩ := find_some known
    have few := short item member
    refine ⟨short,fun _ => ?_⟩
    rw [ne_eq,process_name_len_eq_zero]
    omega
  | none =>
    by_cases down : TurnedDown memory name ids
    · rw [local_turned_down known down] at got
      cases got
      exact ⟨short,fun some_id => absurd some_id (by simp)⟩
    · rw [local_added known down] at got
      cases got
      simp only [TurnedDown,not_or,← process_name_len_eq_zero] at down
      refine ⟨?_,fun _ => down.2.2⟩
      intro item member
      obtain old | new := List.mem_append.mp member
      · exact short item old
      · obtain rfl := List.mem_singleton.mp new
        rw [entry_process_name _ text,List.length_take]
        omega

theorem process_diag_id_queued {memory : Nat → UInt8} {len : Nat} {ids left : DiagIds} {ret : Int} (short : ShortNames ids)
    (ran : diag_cntl_process_diag_id memory len ids p = .ok (ret,left,after)) :
    Queued p.toPeripheral after.toPeripheral ∧ ShortNames left := by
  unfold diag_cntl_process_diag_id at ran
  split_ifs at ran with cut
  · cases ran
    exact ⟨.refl _,short⟩
  · obtain ⟨name,asked,more⟩ := bind_eq_ok.mp ran
    have text : 0 ∉ name := (DiagRouter.Lib.CString.c_string_ok_iff.mp asked).2.1
    cases got : local_diag_id memory name ids with
    | mk found counted =>
      obtain ⟨short',fits⟩ := local_diag_id_short short text got
      rw [got] at more
      cases found with
      | none =>
        cases more
        exact ⟨.refl _,short'⟩
      | some diag_id =>
        cases more
        exact ⟨queued_one p.toPeripheral (diag_id_resp_framed diag_id (fits rfl)),short'⟩

end

/-! ## Sequences of calls -/

/-- Only the range of a message mask has to be one that can be asked for. -/
def Good (masks : MaskTables) : Call → Prop
  | .send_msg_mask _ range => CanAsk masks range
  | _ => True

/-- A call leaves the masks alone and queues well framed packets. -/
theorem call_queued {state after : Sender} {call : Call} (laid : Laid state.masks) (short : ShortNames state.ids)
    (good : Good state.masks call) (step : call_step state call = .ok after) :
    after.masks = state.masks ∧ ShortNames after.ids ∧ Queued state.peripheral.toPeripheral after.peripheral.toPeripheral := by
  cases call with
  | send_log_mask equip_id =>
    obtain ⟨peripheral,sent,rfl⟩ := map_eq_ok.mp step
    exact ⟨rfl,short,send_log_mask_queued laid sent⟩
  | send_msg_mask junk range =>
    obtain ⟨⟨left,peripheral⟩,sent,same⟩ := bind_eq_ok.mp step
    cases same
    exact ⟨rfl,short,send_msg_mask_queued laid good sent⟩
  | send_masks junk =>
    obtain ⟨peripheral,sent,rfl⟩ := map_eq_ok.mp step
    exact ⟨rfl,short,send_masks_queued laid sent⟩
  | send_event_mask =>
    obtain ⟨peripheral,sent,rfl⟩ := map_eq_ok.mp step
    exact ⟨rfl,short,send_event_mask_queued sent⟩
  | set_diag_mode real_time =>
    cases step
    exact ⟨rfl,short,set_diag_mode_queued _ real_time⟩
  | set_buffering_mode mode =>
    cases step
    exact ⟨rfl,short,set_buffering_mode_queued _ mode⟩
  | feature_mask junk memory =>
    obtain ⟨peripheral,sent,same⟩ := bind_eq_ok.mp step
    cases same
    exact ⟨rfl,short,feature_mask_queued laid sent⟩
  | process_diag_id memory len =>
    obtain ⟨⟨ret,ids,peripheral⟩,ran,same⟩ := bind_eq_ok.mp step
    cases same
    obtain ⟨queued,short'⟩ := process_diag_id_queued short ran
    exact ⟨rfl,short',queued⟩

theorem calls_queued {state after : Sender} {calls : List Call} (laid : Laid state.masks) (short : ShortNames state.ids)
    (good : ∀ call ∈ calls, Good state.masks call) (run : exec call_step state calls = .ok after) :
    Queued state.peripheral.toPeripheral after.peripheral.toPeripheral := by
  induction calls generalizing state with
  | nil =>
    cases run
    exact .refl _
  | cons call calls ih =>
    obtain ⟨mid,first,more⟩ := bind_eq_ok.mp run
    obtain ⟨now,later⟩ := List.forall_mem_cons.mp good
    obtain ⟨masks,short',queued⟩ := call_queued laid short now first
    exact queued.trans (ih (masks ▸ laid) short' (masks ▸ later) more)

/-- The tables as client commands and the id requests of any peripherals can
    leave them, and a peripheral with a control channel. -/
structure Reachable (state : Sender) : Prop where
  masks : ∃ ops router, exec router_step start ops = .ok router ∧ router.masks = state.masks
  ids : ∃ packets answers, exec answer_step no_answers packets = .ok answers ∧ answers.ids = state.ids
  channel : state.peripheral.cntl_fd ≠ -1

theorem Reachable.laid {state : Sender} (reachable : Reachable state) : Laid state.masks := by
  obtain ⟨ops,router,run,same⟩ := reachable.masks
  rw [← same]
  refine exec_invariant (I := fun router => Laid router.masks) ?_ laid_init run
  intro before op after laid step
  cases op with
  | request junk client buf len => exact changed_laid laid (handle_command_changes step)
  | elsewhere =>
    cases step
    exact laid

theorem Reachable.short {state : Sender} (reachable : Reachable state) : ShortNames state.ids := by
  obtain ⟨packets,answers,run,same⟩ := reachable.ids
  rw [← same]
  refine exec_invariant (I := fun answers => ShortNames answers.ids) ?_ (by simp [ShortNames,no_answers,no_diag_ids]) run
  intro before packet after short step
  obtain ⟨⟨ret,ids,peripheral⟩,ran,more⟩ := bind_eq_ok.mp step
  have short' := (process_diag_id_queued short ran).2
  dsimp only at more
  split_ifs at more
  · cases more
    exact short'
  · obtain ⟨name,_,same⟩ := bind_eq_ok.mp more
    cases same
    exact short'

/-- What a sequence of calls queues is parsed as the packets it queued, and the
    mask packets among them account for their length. -/
theorem packets_parsed {state after : Sender} {calls : List Call} (reachable : Reachable state)
    (good : ∀ call ∈ calls, Good state.masks call) (run : exec call_step state calls = .ok after) :
    ∃ packets, after.peripheral.cntlq = state.peripheral.cntlq ++ packets ∧ (∀ rest, ParsedAs packets rest) ∧
      ∀ pkt ∈ packets, MaskLengths pkt := by
  obtain ⟨_,packets,queue,framed⟩ := calls_queued reachable.laid reachable.short good run
  refine ⟨packets,queue,?_,fun pkt member => (framed pkt member).lengths⟩
  exact fun rest => parsed_of_framed (fun pkt member => (framed pkt member).framed) rest

/-- The tables as built, and a peripheral that has sent nothing yet. -/
def at_start : Sender := ⟨diag_masks_init,no_diag_ids,⟨modem,-1,false,0⟩⟩

theorem at_start_reachable : Reachable at_start := ⟨⟨[],start,rfl,rfl⟩,⟨[],no_answers,rfl,rfl⟩,by decide⟩

theorem two_packets_parsed : ∃ packets, [le32 DIAG_CNTL_CMD_EVENT_MASK ++ le32 7 ++ [1,0,0] ++ le32 0,
      le32 DIAG_CNTL_CMD_BUFFERING_TX_MODE ++ le32 6 ++ le32 1 ++ [0,2]] = ([] : List (List UInt8)) ++ packets ∧
    (∀ rest, ParsedAs packets rest) ∧ ∀ pkt ∈ packets, MaskLengths pkt :=
  @packets_parsed at_start _ [.send_event_mask,.set_buffering_mode 2] at_start_reachable
    (List.forall_mem_cons.mpr ⟨trivial,List.forall_mem_cons.mpr ⟨trivial,by simp⟩⟩) rfl

/-- A range that ends before it begins, by more than one, and is in no entry: the
    count of its SSIDs wraps. -/
def inverted : DiagSsidRange := ⟨121,119⟩

theorem inverted_range_packet : ¬ ∀ (state after : Sender) (calls : List Call), Reachable state →
    exec call_step state calls = .ok after → ∃ packets, after.peripheral.cntlq = state.peripheral.cntlq ++ packets ∧
      (∀ rest, ParsedAs packets rest) ∧ ∀ pkt ∈ packets, MaskLengths pkt := by
  intro claim
  have ran : (fun router => (router.masks.msg_mask.status,(router.masks.msg_mask.ptr.find? (reports 121)).isNone)) <$>
      exec router_step start [set_one 0] = .ok (DIAG_CTRL_MASK_VALID,true) := by decide +kernel
  obtain ⟨router,run,found⟩ := map_eq_ok.mp ran
  rw [Prod.mk.injEq,Option.isNone_iff_eq_none] at found
  obtain ⟨valid,missing⟩ := found
  let state : Sender := { at_start with masks := router.masks }
  have reachable : Reachable state := ⟨⟨_,router,run,rfl⟩,at_start_reachable.ids,at_start_reachable.channel⟩
  let nothing : Nat → UInt8 := fun _ => 0
  have sent := send_msg_mask_missing nothing inverted modem valid missing
  have count : num_ssids inverted = 4294967295 := by decide
  rw [count,DiagRouter.MaskBroadcast.tell,if_neg (by decide)] at sent
  generalize span nothing 0 (u32 (((4294967295 : Nat) : Int) * 4)) = words at sent
  have step : exec call_step state [.send_msg_mask nothing inverted] = .ok (state.with_peripheral
      { modem with cntlq := modem.cntlq ++ [msg_packet inverted (UInt32.ofNat 4294967295) words] }) := by
    have peripheral : state.peripheral.toPeripheral = modem := rfl
    rw [exec_cons,call_step,peripheral,sent]
    rfl
  obtain ⟨packets,queue,_,lengths⟩ := claim _ _ _ reachable step
  have only : packets = [msg_packet inverted (UInt32.ofNat 4294967295) words] := queue.symm
  have is_msg : field (msg_packet inverted (UInt32.ofNat 4294967295) words) 0 = DIAG_CNTL_CMD_MSG_MASK := packet_cmd _ _
  have account := (lengths _ (by rw [only]; exact List.mem_singleton.mpr rfl)).msg is_msg
  have msg_mask_len : field (msg_packet inverted (UInt32.ofNat 4294967295) words) 15 = UInt32.ofNat 4294967295 :=
    packet_field ([1,DIAG_CTRL_MASK_VALID,0] ++ le16 inverted.ssid_first ++ le16 inverted.ssid_last) words _ rfl
  have bound := (field (msg_packet inverted (UInt32.ofNat 4294967295) words) 4).toNat_lt
  have many : (UInt32.ofNat 4294967295).toNat = 4294967295 := rfl
  rw [msg_mask_len,many] at account
  omega

end DiagRouter.CntlPackets

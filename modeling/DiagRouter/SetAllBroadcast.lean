import DiagRouter.ErrorAnswers
import DiagRouter.MaskViews
import DiagRouter.MsgMaskFill

/-!
# The broadcast of SET-ALL

SET-ALL gives its broadcast no range. While all masks are disabled a packet is
built from a range of its own, but while all are enabled it is looked up by the
range that is not there: a word other than 0 cannot be told to anyone.
-/
namespace DiagRouter.SetAllBroadcast
open DiagRouter.Lib.Memory DiagRouter.Lib.Words DiagRouter.Lib.Runs DiagRouter.Masks DiagRouter.MsgMaskTable
open DiagRouter.Dispatch DiagRouter.Handlers DiagRouter.Peripherals DiagRouter.MaskRuns
open DiagRouter.Responses (Answered handle_command_changes)
open DiagRouter.MaskBroadcast (RouterOp router_step start controlled broadcast_msg_mask_none modem)
open DiagRouter.MaskViews (mask_packet)
open DiagRouter.MsgMaskFill (set_all_ok_iff filled)
open DiagRouter.ErrorAnswers (Settled settled_init)

/-! ## What SET-ALL is to do -/

def IsSetAll (len : Nat) (buf : Request) : Prop := buf 0 = 0x7d ∧ buf 1 = 5 ∧ len = 7

/-- The status the masks get. -/
def all_status (mask : UInt32) : UInt8 := if mask ≠ 0 then DIAG_CTRL_MASK_ALL_ENABLED else DIAG_CTRL_MASK_ALL_DISABLED

/-- A peripheral with a control channel gets packets, one of them a message mask
    packet with the status. -/
def Hears (status : UInt8) (old new : Peripheral) : Prop :=
  old.cntl_fd ≠ -1 → ∃ pkts, new.cntlq = old.cntlq ++ pkts ∧ ∃ body, mask_packet DIAG_CNTL_CMD_MSG_MASK status 0 body ∈ pkts

def set_all_response (buf : Request) : List UInt8 :=
  span buf 0 2 ++ [DIAG_CMD_MSG_STATUS_SUCCESSFUL,buf 2] ++ le32 (le32At buf 3)

/-- The command is handled without a fault, every peripheral hears of it, and
    the client is answered. -/
def Broadcasts (router : Router) : RouterOp → Prop
  | .request junk client buf len =>
    IsSetAll len buf → ∃ after, diag_client_handle_command junk client buf len router = .ok after ∧
      List.Forall₂ (Hears (all_status (le32At buf 3))) router.peripherals after.peripherals ∧
      Answered router client (set_all_response buf) after
  | .elsewhere .. => True

/-- Entries own the words they promise. -/
def Roomy (table : List DiagMsgMask) : Prop := ∀ msg_item ∈ table, msg_item.range_tools ≤ msg_item.ptr.length

/-- The fill stays inside the entries, and no packet is looked up. -/
structure CanTell (router : Router) (mask : UInt32) : Prop where
  fill : Roomy router.masks.msg_mask.ptr
  range : mask = 0 ∨ controlled router.peripherals = 0

def CanBroadcast (router : Router) : RouterOp → Prop
  | .request _ _ buf len => IsSetAll len buf → CanTell router (le32At buf 3)
  | .elsewhere .. => True

/-! ## Packets without a range -/

section
variable {masks : MaskTables}

/-- The packet of masks that are all disabled. -/
theorem send_msg_mask_disabled (junk : Nat → UInt8) (p : Peripheral) (channel : p.cntl_fd ≠ -1)
    (disabled : masks.msg_mask.status = DIAG_CTRL_MASK_ALL_DISABLED) :
    ∃ body, diag_cntl_send_msg_mask junk masks p none = .ok (none,{ p with
      cntlq := p.cntlq ++ [mask_packet DIAG_CNTL_CMD_MSG_MASK DIAG_CTRL_MASK_ALL_DISABLED 0 body] }) := by
  simp only [diag_cntl_send_msg_mask,if_neg channel,msg_mask_items,disabled]
  exact ⟨_,rfl⟩

theorem broadcast_disabled (junk : Nat → Nat → UInt8) (peripherals : List Peripheral)
    (disabled : masks.msg_mask.status = DIAG_CTRL_MASK_ALL_DISABLED) :
    ∃ after, peripheral_broadcast_msg_mask junk masks none peripherals = .ok (none,after) ∧
      List.Forall₂ (Hears DIAG_CTRL_MASK_ALL_DISABLED) peripherals after := by
  induction peripherals generalizing junk with
  | nil => exact ⟨[],rfl,.nil⟩
  | cons p rest ih =>
    obtain ⟨after,sent,heard⟩ := ih (fun i => junk (i + 1))
    by_cases silent : p.cntl_fd = -1
    · refine ⟨p :: after,?_,.cons (fun channel => absurd silent channel) heard⟩
      simp only [peripheral_broadcast_msg_mask,diag_cntl_send_msg_mask,silent,if_true,ok_bind,sent,pure_ok]
    · obtain ⟨body,one⟩ := send_msg_mask_disabled (junk 0) p silent disabled
      have hears : Hears DIAG_CTRL_MASK_ALL_DISABLED p { p with
          cntlq := p.cntlq ++ [mask_packet DIAG_CNTL_CMD_MSG_MASK DIAG_CTRL_MASK_ALL_DISABLED 0 body] } :=
        fun _ => ⟨_,rfl,body,List.mem_singleton_self _⟩
      refine ⟨_,?_,.cons hears heard⟩
      simp only [peripheral_broadcast_msg_mask,one,ok_bind,sent,pure_ok]

/-- Masks that are all enabled are told to nobody: the first packet faults. -/
theorem broadcast_enabled (junk : Nat → Nat → UInt8) {peripherals : List Peripheral}
    (enabled : masks.msg_mask.status = DIAG_CTRL_MASK_ALL_ENABLED) (some_channel : controlled peripherals ≠ 0) :
    peripheral_broadcast_msg_mask junk masks none peripherals = .error .nullPointer := by
  induction peripherals generalizing junk with
  | nil => exact absurd rfl some_channel
  | cons p rest ih =>
    by_cases silent : p.cntl_fd = -1
    · have others : controlled rest ≠ 0 := by simpa [controlled,silent] using some_channel
      simp only [peripheral_broadcast_msg_mask,diag_cntl_send_msg_mask,silent,if_true,ok_bind,ih _ others,error_bind]
    · simp only [peripheral_broadcast_msg_mask,diag_cntl_send_msg_mask,silent,if_false,msg_mask_items,enabled,or_true,
        if_true,error_bind]

end

/-! ## One command -/

section
variable {junk : Junk} {client : Nat} {buf : Request} {len : Nat} {router : Router}

theorem set_all_dispatch (asked : IsSetAll len buf) :
    diag_cmd_dispatch (router_calls junk client buf len) router.diag_cmds buf router =
      set_all_msg_mask junk client buf 7 router := by
  obtain ⟨command,operation,rfl⟩ := asked
  rw [message_dispatch junk client 7 router command,handle_extended_message_configuration,operation]
  rfl

/-- The tables after the fill. -/
def all_set (mask : UInt32) (masks : MaskTables) : MaskTables :=
  { masks with msg_mask := { masks.msg_mask with ptr := masks.msg_mask.ptr.map (filled mask), status := all_status mask } }

theorem set_all_msg_mask_eq (fill : Roomy router.masks.msg_mask.ptr) :
    set_all_msg_mask junk client buf 7 router =
      (peripheral_broadcast_msg_mask junk.pkt (all_set (le32At buf 3) router.masks) none router.peripherals >>= fun told =>
        .ok (0,send { router with masks := all_set (le32At buf 3) router.masks, peripherals := told.2 } client
          (set_all_response buf))) := by
  have set := (@set_all_ok_iff router.masks _ (le32At buf 3)).mpr ⟨fill,rfl⟩
  rw [set_all_msg_mask,if_neg (by decide),set]
  rfl

theorem silent_hears {peripherals : List Peripheral} (silent : controlled peripherals = 0) (status : UInt8) :
    List.Forall₂ (Hears status) peripherals peripherals := by
  rw [controlled,List.length_eq_zero_iff,List.filter_eq_nil_iff] at silent
  refine List.forall₂_same.mpr ?_
  intro p member channel
  exact absurd (by simpa using channel) (silent p member)

/-- A SET-ALL is broadcast exactly when it can be told. -/
theorem broadcasts_iff (op : RouterOp) : Broadcasts router op ↔ CanBroadcast router op := by
  cases op with
  | elsewhere => exact Iff.rfl
  | request junk client buf len =>
    constructor
    · intro broadcasts asked
      obtain ⟨after,ran,_⟩ := broadcasts asked
      obtain ⟨ret,mid,dispatched,_⟩ := handle_command_dispatched ran
      rw [set_all_dispatch asked] at dispatched
      have fill : Roomy router.masks.msg_mask.ptr := by
        rw [set_all_msg_mask,if_neg (by decide)] at dispatched
        obtain ⟨masks,set,_⟩ := bind_eq_ok.mp dispatched
        exact (set_all_ok_iff.mp set).1
      refine ⟨fill,?_⟩
      by_contra neither
      obtain ⟨some_bit,some_channel⟩ := not_or.mp neither
      have enabled : (all_set (le32At buf 3) router.masks).msg_mask.status = DIAG_CTRL_MASK_ALL_ENABLED := if_pos some_bit
      rw [set_all_msg_mask_eq fill,broadcast_enabled junk.pkt enabled some_channel] at dispatched
      cases dispatched
    · intro can asked
      obtain ⟨fill,range⟩ := can asked
      obtain ⟨left,peripherals,told,heard⟩ : ∃ left peripherals,
          peripheral_broadcast_msg_mask junk.pkt (all_set (le32At buf 3) router.masks) none router.peripherals =
            .ok (left,peripherals) ∧
          List.Forall₂ (Hears (all_status (le32At buf 3))) router.peripherals peripherals := by
        rcases range with zero | silent
        · have disabled : all_status (le32At buf 3) = DIAG_CTRL_MASK_ALL_DISABLED := if_neg (not_not.mpr zero)
          rw [disabled]
          obtain ⟨after,sent,heard⟩ := broadcast_disabled junk.pkt router.peripherals
            (show (all_set (le32At buf 3) router.masks).msg_mask.status = _ from disabled)
          exact ⟨none,after,sent,heard⟩
        · exact ⟨none,_,broadcast_msg_mask_none junk.pkt none silent,silent_hears silent _⟩
      have dispatched := @set_all_dispatch junk client buf len router asked
      rw [set_all_msg_mask_eq fill,told,ok_bind] at dispatched
      exact ⟨_,handle_command_success dispatched,heard,rfl⟩

end

/-! ## Entries along a run -/

theorem resized_roomy {table : List DiagMsgMask} (built : Built table) {msg_item : DiagMsgMask} (member : msg_item ∈ table)
    (room : msg_item.range_tools ≤ msg_item.ptr.length) (junk : Nat → UInt32) {range : DiagSsidRange}
    (uncut : MAX_SSID_PER_RANGE < num_ssids range → msg_item.ssid_first + MAX_SSID_PER_RANGE < range.ssid_last.toNat) :
    (resized junk range msg_item).range_tools ≤ (resized junk range msg_item).ptr.length := by
  by_cases many : MAX_SSID_PER_RANGE < num_ssids range
  · rw [resized_cut_past many (uncut many)]
    simp
  · by_cases past : msg_item.ssid_last_tools < range.ssid_last.toNat
    · rw [resized_past (by omega) past (built.ordered member) (built.high msg_item member)]
      simp
    · rw [resized_within (by omega) (by omega)]
      exact room

/-- A SET of a range that does not end before it begins keeps the entries roomy:
    where it is cut without a reallocation, it has stored as many words. -/
theorem set_msg_loop_roomy {junk mask : Nat → UInt32} {range : DiagSsidRange} {table after : List DiagMsgMask} {ret : Nat}
    (built : Built table) (roomy : Roomy table) (ordered : range.ssid_first.toNat ≤ range.ssid_last.toNat + 1)
    (set : set_msg_loop junk range mask table = .ok (ret,after)) : Roomy after := by
  cases found : selected range table with
  | none =>
    rw [set_msg_loop_none junk mask found] at set
    cases set
    exact roomy
  | some msg_item =>
    have member := selected_mem found
    have room := roomy msg_item member
    obtain ⟨before,later,rfl,hit,loop⟩ := set_msg_loop_some junk mask found
    obtain ⟨first,_,_⟩ := not_skips hit
    rw [loop] at set
    obtain ⟨⟨code,item⟩,stored,same⟩ := bind_eq_ok.mp set
    cases same
    refine forall_replaced roomy ?_
    by_cases uncut : MAX_SSID_PER_RANGE < num_ssids range → msg_item.ssid_first + MAX_SSID_PER_RANGE < range.ssid_last.toNat
    · obtain ⟨ptr,length,rfl⟩ := set_msg_item_frame stored
      have kept := resized_roomy built member room junk uncut
      exact length ▸ kept
    · obtain ⟨many,within⟩ := Classical.not_imp.mp uncut
      have count := num_ssids_of_le ordered
      have capacity : MAX_SSID_PER_RANGE = 200 := rfl
      rw [set_msg_item_eq] at stored
      dsimp only at stored
      rw [resized_offset junk first,resized_cut_within many (by omega),if_neg (by dsimp only; unfold MsgMaskTable.stored; omega)] at stored
      obtain ⟨ptr,copied,same⟩ := bind_eq_ok.mp stored
      cases same
      have length := store_length copied
      obtain ⟨inside,_⟩ := store_ok_iff.mp copied
      rw [span_length,MsgMaskTable.stored] at inside
      dsimp only at inside length ⊢
      omega

theorem set_all_items_roomy {mask : UInt32} {table after : List DiagMsgMask} (roomy : Roomy table)
    (set : set_all_items mask table = .ok after) : Roomy after := by
  have frame := set_all_items_frame set
  clear set
  induction frame with
  | nil => exact roomy
  | cons same _ ih =>
    rw [Roomy,List.forall_mem_cons] at roomy ⊢
    refine ⟨?_,ih roomy.2⟩
    rw [same.2,same.1]
    exact roomy.1

/-- A message below 2 GiB. -/
def Short (_ : Router) : RouterOp → Prop
  | .request _ _ _ len => len < 2147483648
  | .elsewhere .. => True

theorem router_step_roomy {router after : Router} {op : RouterOp}
    (kept : Settled router.masks ∧ Roomy router.masks.msg_mask.ptr) (short : Short router op)
    (step : router_step router op = .ok after) : Settled after.masks ∧ Roomy after.masks.msg_mask.ptr := by
  obtain ⟨settled,roomy⟩ := kept
  refine ⟨DiagRouter.ErrorAnswers.router_step_settled settled step,?_⟩
  cases op with
  | elsewhere diag_cmds diag_ids peripherals diag_clients =>
    cases step
    exact roomy
  | request junk client buf len =>
    rcases (handle_command_changes step).msg_cases.2 with same | ⟨asked,ret,loop⟩ | ⟨mask,filled⟩
    · exact same ▸ roomy
    · refine set_msg_loop_roomy settled.built roomy ?_ loop
      have whole := asked.2.2
      rw [Short] at short
      have low := (range_at buf 2).ssid_first.toNat_lt
      by_contra wrapped
      unfold MSG_RANGE_TO_SIZE u32 at whole
      omega
    · exact set_all_items_roomy roomy filled

/-- In a run of messages below 2 GiB every SET-ALL fills what the entries own. -/
theorem short_run_roomy {ops : List RouterOp} (short : Meets router_step Short start ops) {router : Router}
    (reached : exec router_step start ops = .ok router) : Roomy router.masks.msg_mask.ptr := by
  have init : Roomy diag_masks_init.msg_mask.ptr := by
    intro msg_item member
    obtain ⟨bounds,_,rfl⟩ := List.mem_map.mp member
    simp [diag_create_msg_mask_table_entry]
  have along := along_of_meets (I := fun router => Settled router.masks ∧ Roomy router.masks.msg_mask.ptr)
    (fun _ => True) (fun _ _ => trivial) (fun _ kept short step => router_step_roomy kept short step) trivial
    (show Settled start.masks ∧ Roomy start.masks.msg_mask.ptr from ⟨settled_init,init⟩) short
  exact (along.ends reached).2

/-! ## Runs -/

/-- In every state of every run, from the tables as built and with any
    peripherals at any time, a SET-ALL is broadcast and answered exactly when its
    word is 0 or no peripheral has a control channel, and the entries own the
    words they promise. -/
theorem set_all_broadcasts_iff (ops : List RouterOp) :
    Meets router_step Broadcasts start ops ↔ Meets router_step CanBroadcast start ops :=
  meets_iff (J := fun _ => True) (fun _ _ => trivial) (fun _ => broadcasts_iff _) trivial ops

/-- SET-ALL of a word. -/
def set_all (mask : UInt32) : RouterOp :=
  .request ⟨fun _ => 0,fun _ => 0,fun _ => 0,fun _ _ => 0⟩ 0 (place ([0x7d,5,0] ++ le32 mask) (fun _ => 0)) 7

/-- With a peripheral that has a control channel, SET-ALL of 1 reads the range
    that is not there. -/
theorem set_all_one_faults :
    exec router_step start [.elsewhere [] [] [modem] [],set_all 1] = .error .nullPointer ∧
      ¬ Meets router_step Broadcasts start [.elsewhere [] [] [modem] [],set_all 1] := by
  refine ⟨by decide +kernel,?_⟩
  rintro ⟨_,rest⟩
  obtain ⟨broadcasts,_⟩ := rest ⟨diag_masks_init,[],[],[modem],[]⟩ rfl
  have can := (broadcasts_iff (set_all 1)).mp broadcasts ⟨rfl,rfl,rfl⟩
  exact absurd can.range (by decide)

end DiagRouter.SetAllBroadcast

import DiagRouter.Handlers
import DiagRouter.LogMaskTable
import DiagRouter.MsgMaskBuffers

/-!
# The mask tables along a run of client commands

What a client command can do to the tables, and that every command leaves them
sound that does not resize a message mask below its build-time size.
-/
namespace DiagRouter.MaskRuns
open DiagRouter.Lib.Memory DiagRouter.Lib.Words DiagRouter.Masks DiagRouter.MsgMaskTable DiagRouter.MsgMaskBuffers
open DiagRouter.LogMaskTable DiagRouter.Dispatch DiagRouter.Handlers

/-! ## Sound tables -/

/-- The event mask has room for the bits it reports. -/
structure EventBuilt (masks : MaskTables) : Prop where
  bits : BITS_TO_BYTES masks.event_max_num_bits.toNat ≤ masks.event_mask.ptr.length
  bytes : masks.event_mask.mask_len ≤ masks.event_mask.ptr.length

structure Sound (masks : MaskTables) : Prop where
  built : Built masks.msg_mask.ptr
  buffers : Buffers masks
  log : LogBuilt masks.log_mask.ptr
  event : EventBuilt masks

theorem sound_init : Sound diag_masks_init := by
  refine ⟨built_init,buffers_init,logBuilt_init,?_,?_⟩
  · simp only [diag_masks_init,List.length_replicate]
    decide
  · simp [diag_masks_init]

/-- The bytes the event mask holds after a SET begin with those of the request. -/
theorem update_event_mask_ok (junk : Nat → UInt8) {masks : MaskTables} (num_bits : UInt16) (mask : Nat → UInt8)
    (event : EventBuilt masks) :
    ∃ ptr mask_len event_max, diag_cmd_update_event_mask junk masks num_bits mask = .ok
        { masks with event_mask := ⟨ptr,mask_len,DIAG_CTRL_MASK_VALID⟩, event_max_num_bits := event_max } ∧
      num_bits.toNat ≤ event_max.toNat ∧ BITS_TO_BYTES event_max.toNat ≤ ptr.length ∧ mask_len ≤ ptr.length ∧
      ptr.take (BITS_TO_BYTES num_bits.toNat) = span mask 0 (BITS_TO_BYTES num_bits.toNat) := by
  obtain ⟨bits,bytes⟩ := event
  have taken : ∀ rest, (span mask 0 (BITS_TO_BYTES num_bits.toNat) ++ rest).take (BITS_TO_BYTES num_bits.toNat) =
      span mask 0 (BITS_TO_BYTES num_bits.toNat) := by
    intro rest
    rw [List.take_append_of_le_length (by simp),List.take_of_length_le (by simp)]
  unfold diag_cmd_update_event_mask
  dsimp only
  split_ifs with grows
  · have copied : store (resize masks.event_mask.ptr (BITS_TO_BYTES num_bits.toNat) junk) 0
        (span mask 0 (BITS_TO_BYTES num_bits.toNat)) = .ok _ := store_ok_iff.mpr ⟨by simp,rfl⟩
    have length := store_length copied
    rw [resize_length] at length
    refine ⟨_,_,num_bits,by rw [copied]; rfl,Nat.le_refl _,Nat.le_of_eq length.symm,Nat.le_of_eq length.symm,?_⟩
    exact taken _
  · have small : num_bits.toNat ≤ masks.event_max_num_bits.toNat := by
      rw [gt_iff_lt,UInt16.lt_iff_toNat_lt] at grows
      omega
    have fewer : BITS_TO_BYTES num_bits.toNat ≤ BITS_TO_BYTES masks.event_max_num_bits.toNat := by
      unfold BITS_TO_BYTES
      omega
    have copied : store masks.event_mask.ptr 0 (span mask 0 (BITS_TO_BYTES num_bits.toNat)) = .ok _ :=
      store_ok_iff.mpr ⟨by rw [span_length]; omega,rfl⟩
    have length := store_length copied
    refine ⟨_,_,masks.event_max_num_bits,by rw [copied]; rfl,small,?_,?_,?_⟩
    · rw [length]
      exact bits
    · rw [length]
      exact bytes
    · exact taken _

theorem toggle_events_event {masks after : MaskTables} {enabled : Bool} (event : EventBuilt masks)
    (toggled : diag_cmd_toggle_events masks enabled = .ok after) : EventBuilt after := by
  obtain ⟨ptr,filled,same⟩ := bind_eq_ok.mp toggled
  cases same
  have length := fill_length filled
  exact ⟨length ▸ event.bits,length ▸ event.bytes⟩

/-! ## What a command changes -/

/-- The words a message mask request brings. -/
def request_words (buf : Request) (i : Nat) : UInt32 := le32At buf (8 + 4 * i)

def IsSetMsgMask (len : Nat) (buf : Request) : Prop :=
  buf 0 = 0x7d ∧ buf 1 = 4 ∧ len = 8 + MSG_RANGE_TO_SIZE (range_at buf 2)

def IsSetLogMask (len : Nat) (buf : Request) : Prop :=
  buf 0 = 0x73 ∧ le32At buf 4 = 3 ∧ len = 8 + (8 + BITS_TO_BYTES32 (le32At buf 12).toNat)

def IsEventSetMask (len : Nat) (buf : Request) : Prop :=
  buf 0 = 0x82 ∧ len = 6 + BITS_TO_BYTES (le16At buf 4).toNat

/-- The commands on the tables that a request can amount to. -/
inductive MaskChange (junk : Junk) (len : Nat) (buf : Request) (masks : MaskTables) : MaskTables → Prop
  | same : MaskChange junk len buf masks masks
  | disable_log {after : MaskTables} (ran : diag_cmd_disable_log masks = .ok after) : MaskChange junk len buf masks after
  | set_log {after : MaskTables} {equip_id : UInt8} {num_items : Nat} {mask : Nat → UInt8} {found : Option (Nat × Nat)}
      (ran : diag_cmd_set_log_mask junk.bytes masks equip_id num_items mask = .ok (found,after)) :
      MaskChange junk len buf masks after
  | set_msg {after : MaskTables} {ret : Nat} (asked : IsSetMsgMask len buf)
      (ran : diag_cmd_set_msg_mask junk.words masks (range_at buf 2) (request_words buf) = .ok (ret,after)) :
      MaskChange junk len buf masks after
  | set_all {after : MaskTables} {mask : UInt32} (ran : diag_cmd_set_all_msg_mask masks mask = .ok after) :
      MaskChange junk len buf masks after
  | update_event {after : MaskTables} {num_bits : UInt16} {mask : Nat → UInt8}
      (ran : diag_cmd_update_event_mask junk.bytes masks num_bits mask = .ok after) : MaskChange junk len buf masks after
  | toggle_events {after : MaskTables} {enabled : Bool} (ran : diag_cmd_toggle_events masks enabled = .ok after) :
      MaskChange junk len buf masks after

theorem update_event_mask_frame {junk : Nat → UInt8} {masks after : MaskTables} {num_bits : UInt16} {mask : Nat → UInt8}
    (updated : diag_cmd_update_event_mask junk masks num_bits mask = .ok after) :
    after = { masks with event_mask := after.event_mask, event_max_num_bits := after.event_max_num_bits } := by
  unfold diag_cmd_update_event_mask at updated
  dsimp only at updated
  split_ifs at updated
  · obtain ⟨ptr,_,same⟩ := bind_eq_ok.mp updated
    cases same
    rfl
  · obtain ⟨ptr,_,same⟩ := bind_eq_ok.mp updated
    cases same
    rfl

/-- No command changes the build-time masks, and two change the message masks. -/
theorem MaskChange.msg_cases {junk : Junk} {len : Nat} {buf : Request} {masks after : MaskTables}
    (change : MaskChange junk len buf masks after) :
    after.msg_bt_mask = masks.msg_bt_mask ∧
    (after.msg_mask = masks.msg_mask ∨
    (IsSetMsgMask len buf ∧ ∃ ret,
      set_msg_loop junk.words (range_at buf 2) (request_words buf) masks.msg_mask.ptr = .ok (ret,after.msg_mask.ptr)) ∨
    ∃ mask, set_all_items mask masks.msg_mask.ptr = .ok after.msg_mask.ptr) := by
  cases change with
  | same => exact ⟨rfl,.inl rfl⟩
  | disable_log ran =>
    obtain ⟨items,_,same⟩ := bind_eq_ok.mp ran
    cases same
    exact ⟨rfl,.inl rfl⟩
  | set_log ran =>
    rw [set_log_mask_frame ran]
    exact ⟨rfl,.inl rfl⟩
  | set_msg asked ran =>
    obtain ⟨items,loop,rfl⟩ := set_msg_mask_ok_iff.mp ran
    exact ⟨rfl,.inr (.inl ⟨asked,_,loop⟩)⟩
  | set_all ran =>
    obtain ⟨items,filled,same⟩ := bind_eq_ok.mp ran
    cases same
    exact ⟨rfl,.inr (.inr ⟨_,filled⟩)⟩
  | update_event ran =>
    rw [update_event_mask_frame ran]
    exact ⟨rfl,.inl rfl⟩
  | toggle_events ran =>
    obtain ⟨ptr,_,same⟩ := bind_eq_ok.mp ran
    cases same
    exact ⟨rfl,.inl rfl⟩

/-! ## Soundness is kept -/

theorem MaskChange.log_built {junk : Junk} {len : Nat} {buf : Request} {masks after : MaskTables}
    (built : LogBuilt masks.log_mask.ptr) (change : MaskChange junk len buf masks after) : LogBuilt after.log_mask.ptr := by
  cases change with
  | same => exact built
  | disable_log ran =>
    obtain ⟨items,disabled,same⟩ := bind_eq_ok.mp ran
    cases same
    exact disable_log_items_built built disabled
  | set_log ran => exact set_log_mask_built built ran
  | set_msg asked ran =>
    obtain ⟨items,_,rfl⟩ := set_msg_mask_ok_iff.mp ran
    exact built
  | set_all ran =>
    obtain ⟨items,_,same⟩ := bind_eq_ok.mp ran
    cases same
    exact built
  | update_event ran =>
    unfold diag_cmd_update_event_mask at ran
    dsimp only at ran
    split_ifs at ran
    · obtain ⟨ptr,_,same⟩ := bind_eq_ok.mp ran
      cases same
      exact built
    · obtain ⟨ptr,_,same⟩ := bind_eq_ok.mp ran
      cases same
      exact built
  | toggle_events ran =>
    obtain ⟨ptr,_,same⟩ := bind_eq_ok.mp ran
    cases same
    exact built

/-- A SET of message masks keeps the entry it selects large enough. -/
def KeepsSound (masks : MaskTables) (len : Nat) (buf : Request) : Prop :=
  IsSetMsgMask len buf → ∀ msg_item ∈ selected (range_at buf 2) masks.msg_mask.ptr, KeepsFit (range_at buf 2) msg_item

theorem MaskChange.sound {junk : Junk} {len : Nat} {buf : Request} {masks after : MaskTables} (sound : Sound masks)
    (keeps : KeepsSound masks len buf) (change : MaskChange junk len buf masks after) : Sound after := by
  obtain ⟨built,buffers,log,event⟩ := sound
  cases change with
  | same => exact ⟨built,buffers,log,event⟩
  | disable_log ran =>
    obtain ⟨items,disabled,same⟩ := bind_eq_ok.mp ran
    cases same
    exact ⟨built,buffers,disable_log_items_built log disabled,⟨event.bits,event.bytes⟩⟩
  | set_log ran =>
    have set := set_log_mask_built log ran
    rw [set_log_mask_frame ran]
    exact ⟨built,buffers,set,⟨event.bits,event.bytes⟩⟩
  | set_msg asked ran =>
    have step : msg_mask_step masks (.set junk.words (range_at buf 2) (request_words buf)) = .ok after :=
      map_eq_ok.mpr ⟨_,ran,rfl⟩
    obtain ⟨next,again,good⟩ :=
      (@msg_mask_step_iff masks (.set junk.words (range_at buf 2) (request_words buf)) built buffers).mp (keeps asked)
    cases again.symm.trans step
    obtain ⟨items,_,same⟩ := set_msg_mask_ok_iff.mp ran
    have stays := msg_mask_step_built built step
    subst same
    exact ⟨stays,good,log,⟨event.bits,event.bytes⟩⟩
  | @set_all _ mask ran =>
    have stays := @msg_mask_step_built masks after (.setAll mask) built ran
    obtain ⟨next,again,good⟩ := (@msg_mask_step_iff masks (.setAll mask) built buffers).mp trivial
    cases again.symm.trans ran
    obtain ⟨items,_,same⟩ := bind_eq_ok.mp ran
    cases same
    exact ⟨stays,good,log,⟨event.bits,event.bytes⟩⟩
  | update_event ran =>
    obtain ⟨ptr,mask_len,event_max,updated,_,bits,bytes,_⟩ := update_event_mask_ok junk.bytes _ _ event
    cases updated.symm.trans ran
    exact ⟨built,buffers,log,bits,bytes⟩
  | toggle_events ran =>
    have toggled := toggle_events_event event ran
    obtain ⟨ptr,_,same⟩ := bind_eq_ok.mp ran
    cases same
    exact ⟨built,buffers,log,toggled⟩

end DiagRouter.MaskRuns

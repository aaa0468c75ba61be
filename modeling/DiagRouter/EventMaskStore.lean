import DiagRouter.Lib.Runs
import DiagRouter.MaskBroadcast

/-!
# What the event mask stores

The buffer of the event mask begins larger than its bit count asks for, and a
growing SET may shrink it. Seen from outside it is a bit count and a byte for
every place, of which a SET replaces the beginning and a toggle all.
-/
namespace DiagRouter.EventMaskStore
open DiagRouter.Lib.Memory DiagRouter.Lib.Words DiagRouter.Lib.Runs DiagRouter.Masks DiagRouter.Peripherals
open DiagRouter.Handlers
open DiagRouter.MaskBroadcast (send_event_mask_eq)

/-! ## The store -/

/-- What the event mask is for: how many events there are, and their bits. -/
structure EventStore where
  num_bits : Nat
  bytes : Nat → UInt8

def EventStore.initial : EventStore := ⟨APPS_EVENT_LAST_ID.toNat,fun _ => 0⟩

/-- The commands on the event mask. What `realloc` leaves in new cells is `junk`. -/
inductive EventOp
  | update (junk : Nat → UInt8) (num_bits : UInt16) (mask : Nat → UInt8)
  | toggle (enabled : Bool)

def EventStore.step (events : EventStore) : EventOp → EventStore
  | .update _ num_bits mask =>
    { num_bits := max events.num_bits num_bits.toNat
      bytes := fun i => if i < BITS_TO_BYTES num_bits.toNat then mask i else events.bytes i }
  | .toggle enabled => { events with bytes := fun _ => if enabled then 0xff else 0x00 }

/-- The bytes that the bit count stands for. -/
def EventStore.mask (events : EventStore) : List UInt8 := span events.bytes 0 (BITS_TO_BYTES events.num_bits)

def event_step (masks : MaskTables) : EventOp → Except Fault MaskTables
  | .update junk num_bits mask => diag_cmd_update_event_mask junk masks num_bits mask
  | .toggle enabled => diag_cmd_toggle_events masks enabled

/-- The tables hold the store: `mask_len` is the size of the buffer, the bytes the
    count stands for are in it and are the store's. -/
structure HoldsEvents (events : EventStore) (masks : MaskTables) : Prop where
  num_bits : masks.event_max_num_bits.toNat = events.num_bits
  room : BITS_TO_BYTES events.num_bits ≤ masks.event_mask.mask_len
  allocated : masks.event_mask.ptr.length = masks.event_mask.mask_len
  bytes : ∀ i, i < BITS_TO_BYTES events.num_bits → masks.event_mask.ptr[i]? = some (events.bytes i)

theorem holds_initial : HoldsEvents .initial diag_masks_init := by
  refine ⟨rfl,by decide,List.length_replicate,?_⟩
  intro i inside
  have small : BITS_TO_BYTES EventStore.initial.num_bits ≤ EVENT_MASK_SIZE := by decide
  rw [diag_masks_init,List.getElem?_replicate,if_pos (by omega)]
  rfl

theorem BITS_TO_BYTES_mono {m n : Nat} (le : m ≤ n) : BITS_TO_BYTES m ≤ BITS_TO_BYTES n := by
  unfold BITS_TO_BYTES
  omega

section
variable {events : EventStore} {masks : MaskTables}

/-! ## One command -/

/-- A SET that brings more bits than there are replaces the buffer by one of
    their size, and every byte of it. -/
theorem update_grows (holds : HoldsEvents events masks) (junk : Nat → UInt8) {num_bits : UInt16} (mask : Nat → UInt8)
    (grows : num_bits > masks.event_max_num_bits) :
    ∃ after, diag_cmd_update_event_mask junk masks num_bits mask = .ok after ∧
      HoldsEvents (events.step (.update junk num_bits mask)) after := by
  have more : events.num_bits ≤ num_bits.toNat := by
    rw [← holds.num_bits]
    exact Nat.le_of_lt (UInt16.lt_iff_toNat_lt.mp grows)
  obtain ⟨ptr,stored⟩ : ∃ ptr, store (resize masks.event_mask.ptr (BITS_TO_BYTES num_bits.toNat) junk) 0
      (span mask 0 (BITS_TO_BYTES num_bits.toNat)) = .ok ptr := ⟨_,store_ok_iff.mpr ⟨by simp,rfl⟩⟩
  refine ⟨_,by simp only [diag_cmd_update_event_mask,if_pos grows,stored]; rfl,?_,?_,?_,?_⟩
  · exact (Nat.max_eq_right more).symm
  · exact BITS_TO_BYTES_mono (Nat.max_le.mpr ⟨more,Nat.le_refl _⟩)
  · exact (store_length stored).trans (resize_length _ _ _)
  · intro i inside
    have below : i < BITS_TO_BYTES num_bits.toNat :=
      Nat.lt_of_lt_of_le inside (BITS_TO_BYTES_mono (Nat.max_le.mpr ⟨more,Nat.le_refl _⟩))
    have within : 0 ≤ i ∧ i < 0 + (span mask 0 (BITS_TO_BYTES num_bits.toNat)).length := by
      rw [span_length]
      omega
    rw [store_getElem? stored,if_pos within,span_getElem? (by omega)]
    simp [EventStore.step,below]

/-- Any other SET replaces the beginning. -/
theorem update_within (holds : HoldsEvents events masks) (junk : Nat → UInt8) {num_bits : UInt16} (mask : Nat → UInt8)
    (fits : ¬ num_bits > masks.event_max_num_bits) :
    ∃ after, diag_cmd_update_event_mask junk masks num_bits mask = .ok after ∧
      HoldsEvents (events.step (.update junk num_bits mask)) after := by
  have fewer : num_bits.toNat ≤ events.num_bits := by
    rw [gt_iff_lt,UInt16.lt_iff_toNat_lt] at fits
    have bits := holds.num_bits
    omega
  have room := holds.room
  have allocated := holds.allocated
  have bytes := BITS_TO_BYTES_mono fewer
  obtain ⟨ptr,stored⟩ : ∃ ptr, store masks.event_mask.ptr 0 (span mask 0 (BITS_TO_BYTES num_bits.toNat)) = .ok ptr :=
    ⟨_,store_ok_iff.mpr ⟨by rw [span_length]; omega,rfl⟩⟩
  have bits : (events.step (.update junk num_bits mask)).num_bits = events.num_bits := Nat.max_eq_left fewer
  refine ⟨_,by simp only [diag_cmd_update_event_mask,if_neg fits,stored]; rfl,?_,?_,?_,?_⟩
  · rw [bits]
    exact holds.num_bits
  · rw [bits]
    exact room
  · exact (store_length stored).trans allocated
  · rw [bits]
    intro i inside
    rw [store_getElem? stored,span_length]
    by_cases below : i < BITS_TO_BYTES num_bits.toNat
    · rw [if_pos (by omega),span_getElem? (by omega)]
      simp [EventStore.step,below]
    · rw [if_neg (by omega),holds.bytes i inside]
      simp [EventStore.step,below]

/-- A toggle fills the whole buffer. -/
theorem toggle_holds (holds : HoldsEvents events masks) (enabled : Bool) :
    ∃ after, diag_cmd_toggle_events masks enabled = .ok after ∧ HoldsEvents (events.step (.toggle enabled)) after := by
  have allocated := holds.allocated
  obtain ⟨ptr,filled⟩ : ∃ ptr, fill masks.event_mask.ptr masks.event_mask.mask_len (if enabled then 0xff else 0x00) = .ok ptr :=
    ⟨_,fill_ok_iff.mpr ⟨Nat.le_of_eq allocated.symm,rfl⟩⟩
  refine ⟨_,bind_eq_ok.mpr ⟨ptr,filled,rfl⟩,holds.num_bits,holds.room,(fill_length filled).trans allocated,?_⟩
  intro i inside
  obtain ⟨_,rfl⟩ := fill_ok_iff.mp filled
  have below : i < masks.event_mask.mask_len := Nat.lt_of_lt_of_le inside holds.room
  rw [List.getElem?_append_left (by rw [List.length_replicate]; exact below),List.getElem?_replicate,if_pos below]
  rfl

theorem event_step_holds (holds : HoldsEvents events masks) (op : EventOp) :
    ∃ after, event_step masks op = .ok after ∧ HoldsEvents (events.step op) after := by
  cases op with
  | update junk num_bits mask =>
    by_cases grows : num_bits > masks.event_max_num_bits
    · exact update_grows holds junk mask grows
    · exact update_within holds junk mask grows
  | toggle enabled => exact toggle_holds holds enabled

/-! ## What is read -/

theorem get_event_mask_holds (holds : HoldsEvents events masks) :
    diag_cmd_get_event_mask masks masks.event_max_num_bits = .ok (some events.mask) := by
  have room := holds.room
  have allocated := holds.allocated
  have reported : ¬ masks.event_max_num_bits > masks.event_max_num_bits := by
    rw [gt_iff_lt,UInt16.lt_iff_toNat_lt]
    omega
  have loaded : load masks.event_mask.ptr (BITS_TO_BYTES events.num_bits) = .ok events.mask :=
    load_ok_iff.mpr ⟨by omega,(take_eq_span holds.bytes).symm⟩
  rw [diag_cmd_get_event_mask,if_neg reported,holds.num_bits,loaded]
  rfl

/-- The GET_MASK response carries the store's bytes. -/
def AnswersGet (events : EventStore) (masks : MaskTables) : Prop :=
  ∀ client buf (router : Router), router.masks = masks → handle_event_get_mask client buf 4 router =
    .ok (0,send router client ([buf 0,DIAG_CMD_EVENT_ERROR_CODE_OK] ++ span buf 2 2 ++ le16 (UInt16.ofNat events.num_bits) ++
      events.mask))

/-- A control packet of a valid mask carries the store's bytes. -/
def SendsMask (events : EventStore) (masks : MaskTables) : Prop :=
  masks.event_mask.status = DIAG_CTRL_MASK_VALID → ∀ p : Peripheral, p.cntl_fd ≠ -1 → diag_cntl_send_event_mask masks p =
    .ok { p with cntlq := p.cntlq ++ [packet DIAG_CNTL_CMD_EVENT_MASK ([1,DIAG_CTRL_MASK_VALID,1] ++
      le32 (UInt32.ofNat (BITS_TO_BYTES events.num_bits)) ++ events.mask)] }

theorem HoldsEvents.answers (holds : HoldsEvents events masks) : AnswersGet events masks := by
  intro client buf router same
  have bits : UInt16.ofNat events.num_bits = masks.event_max_num_bits := by
    rw [← holds.num_bits,UInt16.ofNat_toNat]
  rw [handle_event_get_mask,if_neg (by decide),same,bits]
  dsimp only
  rw [get_event_mask_holds holds]
  rfl

theorem HoldsEvents.sends (holds : HoldsEvents events masks) : SendsMask events masks := by
  intro valid p channel
  rw [send_event_mask_eq valid (get_event_mask_holds holds),DiagRouter.MaskBroadcast.tell,if_neg channel]
  simp only [EventStore.mask,span_length]

end

/-- Every run of SETs and toggles stays inside the buffer and leaves the bit count
    and the bytes that the reference store has, in the tables, in the GET_MASK
    response and in the control packet. -/
theorem event_store_refined (ops : List EventOp) :
    ∃ masks, exec event_step diag_masks_init ops = .ok masks ∧
      masks.event_max_num_bits.toNat = (ops.foldl EventStore.step .initial).num_bits ∧
      BITS_TO_BYTES (ops.foldl EventStore.step .initial).num_bits ≤ masks.event_mask.mask_len ∧
      masks.event_mask.mask_len = masks.event_mask.ptr.length ∧
      AnswersGet (ops.foldl EventStore.step .initial) masks ∧ SendsMask (ops.foldl EventStore.step .initial) masks := by
  obtain ⟨masks,run,holds⟩ := exec_refines HoldsEvents (fun op holds => event_step_holds holds op) holds_initial ops
  exact ⟨masks,run,holds.num_bits,holds.room,holds.allocated.symm,holds.answers,holds.sends⟩

end DiagRouter.EventMaskStore

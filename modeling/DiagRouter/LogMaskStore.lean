import DiagRouter.Lib.Runs
import DiagRouter.LogMaskTable

/-!
# What the log masks store

For each equipment id the table is an item count and the bits of that many
items: those of the last SET, or nothing once the logs were disabled.
-/
namespace DiagRouter.LogMaskStore
open DiagRouter.Lib.Memory DiagRouter.Lib.Runs DiagRouter.Masks DiagRouter.LogMaskTable

/-! ## The store -/

/-- What is kept for one equipment id. -/
structure LogEntry where
  num_items : Nat
  bytes : Nat → UInt8

/-- The build-time item count, and no item on. -/
def LogEntry.initial (equip_id : UInt32) : LogEntry :=
  ⟨LOG_GET_ITEM_NUM (log_code_last_tbl.getD equip_id.toNat 0),fun _ => 0⟩

inductive LogOp
  | set (junk : Nat → UInt8) (equip_id : UInt8) (num_items : UInt32) (mask : Nat → UInt8)
  | disable

/-- What a command makes of what is kept for `equip_id`: a SET of that id
    replaces it, and every other SET leaves it. -/
def LogEntry.step (equip_id : UInt32) (entry : LogEntry) : LogOp → LogEntry
  | .set _ other num_items mask =>
    if other.toUInt32 = equip_id then ⟨min num_items.toNat MAX_ITEMS_ALLOWED,mask⟩ else entry
  | .disable => { entry with bytes := fun _ => 0 }

/-- What is kept for `equip_id` after the commands. -/
def kept (equip_id : UInt32) (ops : List LogOp) : LogEntry := ops.foldl (LogEntry.step equip_id) (.initial equip_id)

/-- The bytes that the item count stands for. -/
def LogEntry.mask (entry : LogEntry) : List UInt8 := span entry.bytes 0 (BITS_TO_BYTES entry.num_items)

def log_step (masks : MaskTables) : LogOp → Except Fault MaskTables
  | .set junk equip_id num_items mask => Prod.snd <$> diag_cmd_set_log_mask junk masks equip_id num_items.toNat mask
  | .disable => diag_cmd_disable_log masks

/-- A table entry has the item count and begins with the bytes. -/
def Stores (log_item : DiagLogMask) (entry : LogEntry) : Prop :=
  log_item.num_items_tools = entry.num_items ∧
    ∀ i, i < BITS_TO_BYTES entry.num_items → log_item.ptr[i]? = some (entry.bytes i)

/-- The table is built, and holds what is kept for the id. -/
structure HoldsLog (equip_id : UInt32) (entry : LogEntry) (masks : MaskTables) : Prop where
  built : LogBuilt masks.log_mask.ptr
  stores : ∀ log_item ∈ masks.log_mask.ptr, log_item.equip_id.toUInt32 = equip_id → Stores log_item entry

theorem holds_initial (equip_id : UInt32) : HoldsLog equip_id (.initial equip_id) diag_masks_init := by
  refine ⟨logBuilt_init,?_⟩
  intro log_item member same
  have sized := logBuilt_init.sized log_item member
  obtain ⟨row,listed,rfl⟩ := List.mem_map.mp member
  have rows : ∀ row ∈ (List.range MAX_EQUIP_ID).zip log_code_last_tbl,
      row.2 = log_code_last_tbl.getD (UInt8.ofNat row.1).toUInt32.toNat 0 := by decide
  have item_count : (diag_create_log_mask_entry row.1 row.2).num_items_tools = (LogEntry.initial equip_id).num_items := by
    rw [LogEntry.initial,← same]
    exact congrArg LOG_GET_ITEM_NUM (rows row listed)
  refine ⟨item_count,?_⟩
  intro i inside
  have cap : (LogEntry.initial equip_id).num_items ≤ MAX_ITEMS_ALLOWED := Nat.and_le_right
  have room : i < (diag_create_log_mask_entry row.1 row.2).range := by
    rw [sized.range]
    unfold BITS_TO_BYTES at inside
    unfold MAX_ITEMS_ALLOWED at cap
    unfold MAX_ITEMS_PER_EQUIP_ID
    omega
  exact (List.getElem?_replicate).trans (if_pos room)

section
variable {equip_id : UInt32} {entry : LogEntry} {masks : MaskTables}

/-! ## One command -/

theorem room_of_built {table : List DiagLogMask} (built : LogBuilt table) :
    ∀ log_item ∈ table, log_item.range_tools ≤ log_item.ptr.length :=
  fun log_item member => (built.sized log_item member).room

theorem ids_nodup {table : List DiagLogMask} (built : LogBuilt table) : (table.map DiagLogMask.equip_id).Nodup := by
  rw [built.ids]
  decide

/-- A SET of the id stores the item count and the bytes, any other leaves them. -/
theorem set_holds (holds : HoldsLog equip_id entry masks) (junk : Nat → UInt8) (other : UInt8) (num_items : UInt32)
    (mask : Nat → UInt8) :
    ∃ after, log_step masks (.set junk other num_items mask) = .ok after ∧
      HoldsLog equip_id (entry.step equip_id (.set junk other num_items mask)) after := by
  have built := holds.built
  rcases set_log_mask_cases junk other num_items.toNat mask (room_of_built built) with
    ⟨missing,missed⟩ | ⟨before,log_item,later,new,table,_,same,item,stored⟩
  · refine ⟨masks,map_eq_ok.mpr ⟨_,missed,rfl⟩,built,?_⟩
    intro log_item member own
    have differ : other.toUInt32 ≠ equip_id := by
      intro hit
      exact missing log_item member (UInt8.toUInt32_inj.mp (own.trans hit.symm))
    rw [LogEntry.step,if_neg differ]
    exact holds.stores log_item member own
  · refine ⟨_,map_eq_ok.mpr ⟨_,stored,rfl⟩,set_log_mask_built built stored,?_⟩
    have apart := ids_nodup built
    have stores := holds.stores
    rw [table] at apart stores
    rw [List.map_append,List.map_cons,List.nodup_append,List.nodup_cons] at apart
    obtain ⟨ptr,sized_item,_,start⟩ := set_log_item_sized junk num_items.toNat mask
      (built.sized log_item (by rw [table]; exact List.mem_append_right _ List.mem_cons_self))
    cases sized_item.symm.trans item
    -- entries of the same id: there is one, and it is the one SET has replaced
    have elsewhere : ∀ old ∈ before ++ later, old.equip_id ≠ other := by
      rw [← same]
      intro old member hit
      rcases List.mem_append.mp member with early | late
      · exact apart.2.2 _ (List.mem_map_of_mem early) _ List.mem_cons_self hit
      · exact apart.2.1.1 (hit ▸ List.mem_map_of_mem late)
    intro old member own
    by_cases hit : other.toUInt32 = equip_id
    · rw [LogEntry.step,if_pos hit]
      rcases List.mem_append.mp member with early | late
      · exact absurd (UInt8.toUInt32_inj.mp (own.trans hit.symm)) (elsewhere old (List.mem_append_left _ early))
      · rcases List.mem_cons.mp late with rfl | more
        · refine ⟨rfl,?_⟩
          intro i inside
          have below : i < kept_bytes num_items.toNat := by
            rw [kept_bytes_eq]
            exact inside
          have first := congrArg (fun bytes => bytes[i]?) start
          simp only [List.getElem?_take,if_pos below,span_getElem? below,Nat.zero_add] at first
          exact first
        · exact absurd (UInt8.toUInt32_inj.mp (own.trans hit.symm)) (elsewhere old (List.mem_append_right _ more))
    · rw [LogEntry.step,if_neg hit]
      rcases List.mem_append.mp member with early | late
      · exact stores old (List.mem_append_left _ early) own
      · rcases List.mem_cons.mp late with rfl | more
        · exact absurd (by rw [← own]; exact congrArg UInt8.toUInt32 same.symm) hit
        · exact stores old (List.mem_append_right _ (List.mem_cons_of_mem _ more)) own

/-- An entry after its buffer was cleared up to `range`. -/
def cleared (log_item : DiagLogMask) : DiagLogMask :=
  { log_item with ptr := List.replicate log_item.range 0 ++ log_item.ptr.drop log_item.range }

theorem disable_log_items_eq {table : List DiagLogMask} (room : ∀ log_item ∈ table, log_item.range ≤ log_item.ptr.length) :
    disable_log_items table = .ok (table.map cleared) := by
  induction table with
  | nil => rfl
  | cons log_item rest ih =>
    obtain ⟨head,others⟩ := List.forall_mem_cons.mp room
    have filled : fill log_item.ptr log_item.range 0 = .ok (cleared log_item).ptr := fill_ok_iff.mpr ⟨head,rfl⟩
    rw [disable_log_items,filled,ih others]
    rfl

theorem disable_holds (holds : HoldsLog equip_id entry masks) :
    ∃ after, log_step masks .disable = .ok after ∧ HoldsLog equip_id (entry.step equip_id .disable) after := by
  have sized := holds.built.sized
  have disabled := disable_log_items_eq (fun log_item member =>
    Nat.le_of_eq ((sized log_item member).range.trans (sized log_item member).ptr.symm))
  refine ⟨_,bind_eq_ok.mpr ⟨_,disabled,rfl⟩,disable_log_items_built holds.built disabled,?_⟩
  intro new member own
  obtain ⟨log_item,listed,rfl⟩ := List.mem_map.mp member
  obtain ⟨items,_⟩ := holds.stores log_item listed own
  refine ⟨items,?_⟩
  intro i inside
  change i < BITS_TO_BYTES entry.num_items at inside
  have few := (sized log_item listed).items
  have below : i < log_item.range := by
    rw [(sized log_item listed).range]
    rw [items] at few
    unfold MAX_ITEMS_ALLOWED at few
    unfold BITS_TO_BYTES at inside
    unfold MAX_ITEMS_PER_EQUIP_ID
    omega
  rw [cleared,List.getElem?_append_left (by rw [List.length_replicate]; exact below),List.getElem?_replicate,if_pos below]
  rfl

theorem log_step_holds (holds : HoldsLog equip_id entry masks) (op : LogOp) :
    ∃ after, log_step masks op = .ok after ∧ HoldsLog equip_id (entry.step equip_id op) after := by
  cases op with
  | set junk other num_items mask => exact set_holds holds junk other num_items mask
  | disable => exact disable_holds holds

/-! ## What is read -/

/-- GET finds an entry for every known id. -/
theorem log_item_found {table : List DiagLogMask} (built : LogBuilt table) {equip_id : UInt32}
    (known : equip_id.toNat < MAX_EQUIP_ID) :
    ∃ log_item, table.find? (fun log_item => log_item.equip_id.toUInt32 = equip_id) = some log_item := by
  have listed : UInt8.ofNat equip_id.toNat ∈ table.map DiagLogMask.equip_id := by
    rw [built.ids]
    exact List.mem_map.mpr ⟨_,List.mem_range.mpr known,rfl⟩
  obtain ⟨log_item,member,same⟩ := List.mem_map.mp listed
  rw [← Option.isSome_iff_exists,List.find?_isSome]
  refine ⟨log_item,member,decide_eq_true ?_⟩
  apply UInt32.toNat_inj.mp
  rw [same,UInt8.toNat_toUInt32,UInt8.toNat_ofNat']
  unfold MAX_EQUIP_ID at known
  omega

theorem get_log_mask_holds (holds : HoldsLog equip_id entry masks) (known : equip_id.toNat < MAX_EQUIP_ID) :
    diag_cmd_get_log_mask masks equip_id = .ok (some (entry.num_items,entry.mask)) := by
  obtain ⟨log_item,found⟩ := log_item_found holds.built known
  have member := List.mem_of_find?_eq_some found
  have own : log_item.equip_id.toUInt32 = equip_id := by simpa using List.find?_some found
  obtain ⟨items,bytes⟩ := holds.stores log_item member own
  have sized := holds.built.sized log_item member
  have few := sized.items
  have size : BITS_TO_BYTES32 log_item.num_items_tools = BITS_TO_BYTES entry.num_items := by
    rw [← items]
    unfold MAX_ITEMS_ALLOWED at few
    unfold BITS_TO_BYTES32 BITS_TO_BYTES
    omega
  have room : BITS_TO_BYTES entry.num_items ≤ log_item.ptr.length := by
    rw [sized.ptr,← items]
    unfold MAX_ITEMS_ALLOWED at few
    unfold BITS_TO_BYTES MAX_ITEMS_PER_EQUIP_ID
    omega
  have loaded : load log_item.ptr (BITS_TO_BYTES entry.num_items) = .ok entry.mask :=
    load_ok_iff.mpr ⟨room,(take_eq_span bytes).symm⟩
  rw [diag_cmd_get_log_mask,found]
  dsimp only
  rw [size,loaded,items]
  rfl

end

/-- The buffers are as large as the fields say, and have room for the items. -/
def Sized (log_item : DiagLogMask) : Prop :=
  BITS_TO_BYTES log_item.num_items_tools ≤ log_item.range_tools ∧ log_item.range_tools ≤ log_item.ptr.length ∧
    log_item.range ≤ log_item.ptr.length

theorem sized_of_built {table : List DiagLogMask} (built : LogBuilt table) : ∀ log_item ∈ table, Sized log_item := by
  intro log_item member
  obtain ⟨range,tools,ptr,few⟩ := built.sized log_item member
  unfold MAX_ITEMS_ALLOWED at few
  unfold MAX_ITEMS_PER_EQUIP_ID at range tools ptr
  refine ⟨?_,?_,?_⟩
  · unfold BITS_TO_BYTES
    omega
  · omega
  · omega

theorem run_holds (equip_id : UInt32) (ops : List LogOp) :
    ∃ masks, exec log_step diag_masks_init ops = .ok masks ∧ HoldsLog equip_id (kept equip_id ops) masks :=
  exec_refines (HoldsLog equip_id) (fun op holds => log_step_holds holds op) (holds_initial equip_id) ops

/-- After every run of SETs and disables, GET answers for each id with the last SET
    of that id, cleared if the logs were disabled since; a further SET of another
    id changes nothing of it; and no buffer is smaller than its fields say. -/
theorem log_store_refined (ops : List LogOp) :
    ∃ masks, exec log_step diag_masks_init ops = .ok masks ∧
      (∀ equip_id : UInt32, equip_id.toNat < MAX_EQUIP_ID → diag_cmd_get_log_mask masks equip_id =
        .ok (some ((kept equip_id ops).num_items,(kept equip_id ops).mask))) ∧
      (∀ junk other num_items mask after, log_step masks (.set junk other num_items mask) = .ok after →
        ∀ equip_id : UInt32, equip_id.toNat < MAX_EQUIP_ID → other.toUInt32 ≠ equip_id →
          diag_cmd_get_log_mask after equip_id = diag_cmd_get_log_mask masks equip_id) ∧
      ∀ log_item ∈ masks.log_mask.ptr, Sized log_item := by
  obtain ⟨masks,run,first⟩ := run_holds 0 ops
  have holds : ∀ equip_id, HoldsLog equip_id (kept equip_id ops) masks := by
    intro equip_id
    obtain ⟨same,again,good⟩ := run_holds equip_id ops
    cases run.symm.trans again
    exact good
  refine ⟨masks,run,fun equip_id known => get_log_mask_holds (holds equip_id) known,?_,sized_of_built first.built⟩
  intro junk other num_items mask after set equip_id known differ
  obtain ⟨same,again,good⟩ := set_holds (holds equip_id) junk other num_items mask
  cases set.symm.trans again
  rw [LogEntry.step,if_neg differ] at good
  rw [get_log_mask_holds good known,get_log_mask_holds (holds equip_id) known]

end DiagRouter.LogMaskStore

import DiagRouter.Masks

/-!
# The log-mask table

What one SET does to the table of log masks: it stores to the first entry with
the equipment id, and looks at as many bytes of the request as it stores.
-/
namespace DiagRouter.LogMaskTable
open DiagRouter.Lib.Memory DiagRouter.Masks

/-! ## Sizes -/

/-- The number of items SET keeps. -/
def kept_items (num_items : Nat) : Nat := min num_items MAX_ITEMS_ALLOWED

/-- The number of bytes SET stores. -/
def kept_bytes (num_items : Nat) : Nat := BITS_TO_BYTES32 (kept_items num_items)

theorem kept_items_le (num_items : Nat) : kept_items num_items ≤ 4095 := Nat.min_le_right _ _

theorem kept_bytes_eq (num_items : Nat) : kept_bytes num_items = BITS_TO_BYTES (kept_items num_items) := by
  have cap := kept_items_le num_items
  unfold kept_bytes BITS_TO_BYTES32 BITS_TO_BYTES
  omega

theorem kept_bytes_le (num_items : Nat) : kept_bytes num_items ≤ 512 := by
  have cap := kept_items_le num_items
  rw [kept_bytes_eq,BITS_TO_BYTES]
  omega

/-- Unless the sum of the item count wraps, SET stores no more bytes than the
    count stands for. -/
theorem kept_bytes_le_of_lt {num_items : Nat} (small : num_items + 7 < 4294967296) :
    kept_bytes num_items ≤ BITS_TO_BYTES32 num_items := by
  unfold kept_bytes kept_items BITS_TO_BYTES32
  omega

/-! ## One entry -/

theorem set_log_item_eq (junk : Nat → UInt8) (num_items : Nat) (mask : Nat → UInt8) (log_item : DiagLogMask) :
    set_log_item junk num_items mask log_item =
      (fill log_item.ptr log_item.range_tools 0 >>= fun ptr =>
        if kept_bytes num_items > log_item.range_tools then
          fill (resize ptr (kept_bytes num_items) junk) (kept_bytes num_items) 0 >>= fun ptr =>
            store ptr 0 (span mask 0 (kept_bytes num_items)) >>= fun ptr =>
              .ok { log_item with num_items_tools := kept_items num_items, range_tools := kept_bytes num_items, ptr := ptr }
        else
          store ptr 0 (span mask 0 (kept_bytes num_items)) >>= fun ptr =>
            .ok { log_item with num_items_tools := kept_items num_items, ptr := ptr }) := rfl

theorem set_log_item_congr (junk : Nat → UInt8) {num_items : Nat} {mask other : Nat → UInt8} (log_item : DiagLogMask)
    (same : ∀ i, i < kept_bytes num_items → mask i = other i) :
    set_log_item junk num_items mask log_item = set_log_item junk num_items other log_item := by
  have bytes : span mask 0 (kept_bytes num_items) = span other 0 (kept_bytes num_items) :=
    span_congr (fun i _ inside => same i (by omega))
  rw [set_log_item_eq,set_log_item_eq,bytes]

theorem set_log_item_items {junk : Nat → UInt8} {num_items : Nat} {mask : Nat → UInt8} {log_item new : DiagLogMask}
    (item : set_log_item junk num_items mask log_item = .ok new) : new.num_items_tools = kept_items num_items := by
  rw [set_log_item_eq] at item
  obtain ⟨_,_,branch⟩ := bind_eq_ok.mp item
  split_ifs at branch
  · obtain ⟨_,_,branch⟩ := bind_eq_ok.mp branch
    obtain ⟨_,_,stored⟩ := bind_eq_ok.mp branch
    cases stored
    rfl
  · obtain ⟨_,_,stored⟩ := bind_eq_ok.mp branch
    cases stored
    rfl

/-- Storing from the start of a block. -/
theorem store_start {block cells : List UInt8} (enough : cells.length ≤ block.length) :
    ∃ after, store block 0 cells = .ok after ∧ after.length = block.length ∧ after.take cells.length = cells := by
  have copied : store block 0 cells = .ok _ := store_ok_iff.mpr ⟨by omega,rfl⟩
  refine ⟨_,copied,store_length copied,?_⟩
  rw [List.take_zero,List.nil_append,List.take_left]

/-- SET stays inside a buffer of the size the entry reports. -/
theorem set_log_item_ok (junk : Nat → UInt8) (num_items : Nat) (mask : Nat → UInt8) {log_item : DiagLogMask}
    (room : log_item.range_tools ≤ log_item.ptr.length) : ∃ new, set_log_item junk num_items mask log_item = .ok new := by
  obtain ⟨cleared,clear⟩ : ∃ cleared, fill log_item.ptr log_item.range_tools 0 = .ok cleared :=
    ⟨_,fill_ok_iff.mpr ⟨room,rfl⟩⟩
  have length := fill_length clear
  rw [set_log_item_eq,clear,ok_bind]
  split_ifs with grows
  · obtain ⟨zeroed,zero⟩ : ∃ zeroed, fill (resize cleared (kept_bytes num_items) junk) (kept_bytes num_items) 0 = .ok zeroed :=
      ⟨_,fill_ok_iff.mpr ⟨by simp,rfl⟩⟩
    have zeroedLength := (fill_length zero).trans (resize_length _ _ _)
    obtain ⟨ptr,copied,_⟩ := @store_start zeroed (span mask 0 (kept_bytes num_items)) (by rw [span_length]; omega)
    exact ⟨_,by rw [zero,ok_bind,copied,ok_bind]⟩
  · obtain ⟨ptr,copied,_⟩ := @store_start cleared (span mask 0 (kept_bytes num_items)) (by rw [span_length]; omega)
    exact ⟨_,by rw [copied,ok_bind]⟩

/-- An entry as the table is built with: a buffer for any item count. -/
structure LogSized (log_item : DiagLogMask) : Prop where
  range : log_item.range = MAX_ITEMS_PER_EQUIP_ID
  tools : log_item.range_tools = MAX_ITEMS_PER_EQUIP_ID
  ptr : log_item.ptr.length = MAX_ITEMS_PER_EQUIP_ID
  items : log_item.num_items_tools ≤ MAX_ITEMS_ALLOWED

theorem LogSized.room {log_item : DiagLogMask} (sized : LogSized log_item) : log_item.range_tools ≤ log_item.ptr.length :=
  Nat.le_of_eq (sized.tools.trans sized.ptr.symm)

/-- SET of a sized entry never grows it: it replaces the item count and the
    beginning of the buffer. -/
theorem set_log_item_sized (junk : Nat → UInt8) (num_items : Nat) (mask : Nat → UInt8) {log_item : DiagLogMask}
    (sized : LogSized log_item) :
    ∃ ptr, set_log_item junk num_items mask log_item = .ok { log_item with num_items_tools := kept_items num_items, ptr := ptr } ∧
      LogSized { log_item with num_items_tools := kept_items num_items, ptr := ptr } ∧
      ptr.take (kept_bytes num_items) = span mask 0 (kept_bytes num_items) := by
  obtain ⟨range,tools,length,_⟩ := sized
  have enough := kept_bytes_le num_items
  have capacity : MAX_ITEMS_PER_EQUIP_ID = 512 := rfl
  obtain ⟨cleared,clear⟩ : ∃ cleared, fill log_item.ptr log_item.range_tools 0 = .ok cleared :=
    ⟨_,fill_ok_iff.mpr ⟨by omega,rfl⟩⟩
  have clearedLength := fill_length clear
  obtain ⟨ptr,copied,kept,start⟩ := @store_start cleared (span mask 0 (kept_bytes num_items)) (by rw [span_length]; omega)
  refine ⟨ptr,?_,⟨range,tools,by dsimp only; omega,kept_items_le num_items⟩,?_⟩
  · have fits : ¬ kept_bytes num_items > log_item.range_tools := by omega
    rw [set_log_item_eq,clear,ok_bind,if_neg fits,copied,ok_bind]
  · rw [span_length] at start
    exact start

/-! ## The loop -/

theorem set_log_loop_missing (junk : Nat → UInt8) {equip_id : UInt8} (num_items : Nat) (mask : Nat → UInt8)
    {table : List DiagLogMask} (missing : ∀ log_item ∈ table, log_item.equip_id ≠ equip_id) :
    set_log_loop junk equip_id num_items mask table = .ok (none,table) := by
  induction table with
  | nil => rfl
  | cons log_item rest ih =>
    obtain ⟨head,others⟩ := List.forall_mem_cons.mp missing
    rw [set_log_loop,if_pos head,ih others]
    rfl

theorem set_log_loop_found (junk : Nat → UInt8) {equip_id : UInt8} (num_items : Nat) (mask : Nat → UInt8)
    {before after : List DiagLogMask} {log_item : DiagLogMask} (first : ∀ other ∈ before, other.equip_id ≠ equip_id)
    (same : log_item.equip_id = equip_id) :
    set_log_loop junk equip_id num_items mask (before ++ log_item :: after) =
      (set_log_item junk num_items mask log_item >>= fun new => .ok (some new,before ++ new :: after)) := by
  induction before with
  | nil => rw [List.nil_append,set_log_loop,if_neg (fun differ => differ same)]; rfl
  | cons other before ih =>
    obtain ⟨head,others⟩ := List.forall_mem_cons.mp first
    rw [List.cons_append,set_log_loop,if_pos head,ih others]
    cases set_log_item junk num_items mask log_item with
    | error fault => rfl
    | ok new => rfl

/-- Some entry has the id, and one is the first, or none has. -/
theorem equip_cases (equip_id : UInt8) (table : List DiagLogMask) :
    (∀ log_item ∈ table, log_item.equip_id ≠ equip_id) ∨
      ∃ before log_item after, table = before ++ log_item :: after ∧
        (∀ other ∈ before, other.equip_id ≠ equip_id) ∧ log_item.equip_id = equip_id := by
  induction table with
  | nil => exact .inl (by simp)
  | cons head rest ih =>
    by_cases same : head.equip_id = equip_id
    · exact .inr ⟨[],head,rest,rfl,by simp,same⟩
    · rcases ih with none | ⟨before,log_item,after,rfl,first,found⟩
      · exact .inl (List.forall_mem_cons.mpr ⟨same,none⟩)
      · exact .inr ⟨head :: before,log_item,after,rfl,List.forall_mem_cons.mpr ⟨same,first⟩,found⟩

theorem set_log_loop_congr (junk : Nat → UInt8) (equip_id : UInt8) {num_items : Nat} {mask other : Nat → UInt8}
    (table : List DiagLogMask)
    (same : (∃ log_item ∈ table, log_item.equip_id = equip_id) → ∀ i, i < kept_bytes num_items → mask i = other i) :
    set_log_loop junk equip_id num_items mask table = set_log_loop junk equip_id num_items other table := by
  rcases equip_cases equip_id table with none | ⟨before,log_item,after,rfl,first,found⟩
  · rw [set_log_loop_missing junk num_items mask none,set_log_loop_missing junk num_items other none]
  · rw [set_log_loop_found junk num_items mask first found,set_log_loop_found junk num_items other first found,
      set_log_item_congr junk log_item (same ⟨log_item,by simp,found⟩)]

/-- What SET hands back is what it kept, unless no entry has the id. -/
theorem set_log_mask_returns {junk : Nat → UInt8} {masks after : MaskTables} {equip_id : UInt8} {num_items : Nat}
    {mask : Nat → UInt8} {found : Option (Nat × Nat)}
    (set : diag_cmd_set_log_mask junk masks equip_id num_items mask = .ok (found,after)) :
    found = none ∧ (∀ log_item ∈ masks.log_mask.ptr, log_item.equip_id ≠ equip_id) ∨
      found = some (kept_items num_items,kept_bytes num_items) ∧
        ∃ log_item ∈ masks.log_mask.ptr, log_item.equip_id = equip_id := by
  rcases equip_cases equip_id masks.log_mask.ptr with none | ⟨before,log_item,later,table,first,same⟩
  · rw [diag_cmd_set_log_mask,set_log_loop_missing junk num_items mask none,ok_bind] at set
    cases set
    exact .inl ⟨rfl,none⟩
  · rw [diag_cmd_set_log_mask,table,set_log_loop_found junk num_items mask first same] at set
    obtain ⟨⟨stored,items⟩,loop,rest⟩ := bind_eq_ok.mp set
    obtain ⟨new,item,same'⟩ := bind_eq_ok.mp loop
    cases same'
    cases rest
    have kept := set_log_item_items item
    exact .inr ⟨by rw [kept]; rfl,log_item,by rw [table]; simp,same⟩

theorem set_log_mask_frame {junk : Nat → UInt8} {masks after : MaskTables} {equip_id : UInt8} {num_items : Nat}
    {mask : Nat → UInt8} {found : Option (Nat × Nat)}
    (set : diag_cmd_set_log_mask junk masks equip_id num_items mask = .ok (found,after)) :
    after = { masks with log_mask := after.log_mask } := by
  obtain ⟨⟨stored,items⟩,_,rest⟩ := bind_eq_ok.mp set
  cases stored with
  | none =>
    cases rest
    rfl
  | some log_item =>
    cases rest
    rfl

/-- SET changes the first entry with the id, or nothing. -/
theorem set_log_mask_cases (junk : Nat → UInt8) {masks : MaskTables} (equip_id : UInt8) (num_items : Nat)
    (mask : Nat → UInt8) (room : ∀ log_item ∈ masks.log_mask.ptr, log_item.range_tools ≤ log_item.ptr.length) :
    (∀ log_item ∈ masks.log_mask.ptr, log_item.equip_id ≠ equip_id) ∧
        diag_cmd_set_log_mask junk masks equip_id num_items mask = .ok (none,masks) ∨
      ∃ before log_item after new, masks.log_mask.ptr = before ++ log_item :: after ∧
        (∀ other ∈ before, other.equip_id ≠ equip_id) ∧ log_item.equip_id = equip_id ∧
        set_log_item junk num_items mask log_item = .ok new ∧
        diag_cmd_set_log_mask junk masks equip_id num_items mask = .ok (some (kept_items num_items,kept_bytes num_items),
          { masks with log_mask := { masks.log_mask with ptr := before ++ new :: after, status := DIAG_CTRL_MASK_VALID } }) := by
  rcases equip_cases equip_id masks.log_mask.ptr with none | ⟨before,log_item,after,table,first,same⟩
  · exact .inl ⟨none,by rw [diag_cmd_set_log_mask,set_log_loop_missing junk num_items mask none]; rfl⟩
  · obtain ⟨new,item⟩ := set_log_item_ok junk num_items mask (room log_item (by rw [table]; simp))
    refine .inr ⟨before,log_item,after,new,table,first,same,item,?_⟩
    have kept := set_log_item_items item
    rw [diag_cmd_set_log_mask,table,set_log_loop_found junk num_items mask first same,item]
    simp only [ok_bind,pure_ok,kept]
    rfl

/-! ## What every command keeps -/

structure LogBuilt (table : List DiagLogMask) : Prop where
  ids : table.map DiagLogMask.equip_id = (List.range MAX_EQUIP_ID).map UInt8.ofNat
  sized : ∀ log_item ∈ table, LogSized log_item

theorem logBuilt_init : LogBuilt diag_create_log_mask_table := by
  refine ⟨by decide,?_⟩
  intro log_item member
  obtain ⟨row,_,rfl⟩ := List.mem_map.mp member
  have small : LOG_GET_ITEM_NUM row.2 ≤ MAX_ITEMS_ALLOWED := Nat.and_le_right
  have capacity : ¬ BITS_TO_BYTES (LOG_GET_ITEM_NUM row.2) > MAX_ITEMS_PER_EQUIP_ID := by
    unfold BITS_TO_BYTES MAX_ITEMS_PER_EQUIP_ID
    unfold MAX_ITEMS_ALLOWED at small
    omega
  simp only [diag_create_log_mask_entry,if_neg capacity]
  exact ⟨rfl,rfl,List.length_replicate,small⟩

theorem LogBuilt.replace {before after : List DiagLogMask} {old new : DiagLogMask}
    (built : LogBuilt (before ++ old :: after)) (same : new.equip_id = old.equip_id) (sized : LogSized new) :
    LogBuilt (before ++ new :: after) := by
  refine ⟨?_,forall_replaced built.sized sized⟩
  rw [← built.ids]
  simp [same]

theorem disable_log_items_built {table after : List DiagLogMask} (built : LogBuilt table)
    (disabled : disable_log_items table = .ok after) : LogBuilt after := by
  obtain ⟨ids,sized⟩ := built
  have kept : after.map DiagLogMask.equip_id = table.map DiagLogMask.equip_id ∧ ∀ log_item ∈ after, LogSized log_item := by
    clear ids
    induction table generalizing after with
    | nil =>
      cases disabled
      exact ⟨rfl,sized⟩
    | cons log_item rest ih =>
      obtain ⟨ptr,filled,more⟩ := bind_eq_ok.mp disabled
      obtain ⟨tail,others,same⟩ := bind_eq_ok.mp more
      cases same
      obtain ⟨first,later⟩ := List.forall_mem_cons.mp sized
      obtain ⟨sameIds,sizedTail⟩ := ih others later
      refine ⟨by simp [sameIds],List.forall_mem_cons.mpr ⟨?_,sizedTail⟩⟩
      exact ⟨first.range,first.tools,(fill_length filled).trans first.ptr,first.items⟩
  exact ⟨kept.1.trans ids,kept.2⟩

theorem set_log_mask_built {junk : Nat → UInt8} {masks after : MaskTables} {equip_id : UInt8} {num_items : Nat}
    {mask : Nat → UInt8} {found : Option (Nat × Nat)} (built : LogBuilt masks.log_mask.ptr)
    (set : diag_cmd_set_log_mask junk masks equip_id num_items mask = .ok (found,after)) : LogBuilt after.log_mask.ptr := by
  have room : ∀ log_item ∈ masks.log_mask.ptr, log_item.range_tools ≤ log_item.ptr.length := by
    intro log_item member
    exact (built.sized log_item member).room
  rcases set_log_mask_cases junk equip_id num_items mask room with
    ⟨_,missed⟩ | ⟨before,log_item,later,new,table,_,_,item,stored⟩
  · cases missed.symm.trans set
    exact built
  · cases stored.symm.trans set
    obtain ⟨ptr,same,sized,_⟩ := set_log_item_sized junk num_items mask
      (built.sized log_item (by rw [table]; exact List.mem_append_right _ List.mem_cons_self))
    cases same.symm.trans item
    rw [table] at built
    exact built.replace rfl sized

end DiagRouter.LogMaskTable

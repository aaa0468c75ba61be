import DiagRouter.Lib.Runs
import DiagRouter.Lib.Words
import DiagRouter.Masks

/-!
# The message-mask table

What one SET does to the table: which entry it selects, how it resizes that
entry and what it stores there. The bounds and sizes the table was built with
(`Built`) survive every command, whatever happens to the buffers.
-/
namespace DiagRouter.MsgMaskTable
open DiagRouter.Lib.Memory DiagRouter.Lib.Words DiagRouter.Masks

/-! ## Sizes of a request -/

theorem num_ssids_of_le {range : DiagSsidRange} (ordered : range.ssid_first.toNat ≤ range.ssid_last.toNat + 1) :
    num_ssids range = range.ssid_last.toNat + 1 - range.ssid_first.toNat := by
  have last := range.ssid_last.toNat_lt
  unfold num_ssids u32
  omega

/-- A range that ends before it begins wraps to a huge count. -/
theorem num_ssids_of_gt {range : DiagSsidRange} (wrapped : range.ssid_last.toNat + 1 < range.ssid_first.toNat) :
    num_ssids range = 4294967297 + range.ssid_last.toNat - range.ssid_first.toNat := by
  have first := range.ssid_first.toNat_lt
  unfold num_ssids u32
  omega

/-- The number of words SET stores. -/
def stored (range : DiagSsidRange) : Nat := min (num_ssids range) MAX_SSID_PER_RANGE

/-- The entry once SET has adjusted its reported range. -/
def resized (junk : Nat → UInt32) (range : DiagSsidRange) (msg_item : DiagMsgMask) : DiagMsgMask :=
  extend_range junk range.ssid_last.toNat (truncate_range (num_ssids range) msg_item).1
    (truncate_range (num_ssids range) msg_item).2

theorem truncate_range_fst (num_msgs : Nat) (msg_item : DiagMsgMask) :
    (truncate_range num_msgs msg_item).1 = min num_msgs MAX_SSID_PER_RANGE := by
  unfold truncate_range
  split
  · dsimp only; omega
  · dsimp only; omega

theorem set_msg_item_eq (junk : Nat → UInt32) (range : DiagSsidRange) (mask : Nat → UInt32) (msg_item : DiagMsgMask) :
    set_msg_item junk range mask msg_item =
      let item := resized junk range msg_item
      let offset := u32 ((range.ssid_first.toNat : Int) - item.ssid_first)
      if offset + stored range > item.range_tools then .ok (1, item)
      else store item.ptr offset (span mask 0 (stored range)) >>= fun ptr => .ok (0, { item with ptr := ptr }) := by
  simp only [set_msg_item,resized,stored,truncate_range_fst]
  rfl

@[simp] theorem resized_ssid_first (junk : Nat → UInt32) (range : DiagSsidRange) (msg_item : DiagMsgMask) :
    (resized junk range msg_item).ssid_first = msg_item.ssid_first := by
  unfold resized truncate_range extend_range
  split_ifs <;> rfl

@[simp] theorem resized_ssid_last (junk : Nat → UInt32) (range : DiagSsidRange) (msg_item : DiagMsgMask) :
    (resized junk range msg_item).ssid_last = msg_item.ssid_last := by
  unfold resized truncate_range extend_range
  split_ifs <;> rfl

@[simp] theorem resized_range (junk : Nat → UInt32) (range : DiagSsidRange) (msg_item : DiagMsgMask) :
    (resized junk range msg_item).range = msg_item.range := by
  unfold resized truncate_range extend_range
  split_ifs <;> rfl

/-- Where SET begins to store, behind the start of the entry. -/
theorem resized_offset (junk : Nat → UInt32) {range : DiagSsidRange} {msg_item : DiagMsgMask}
    (first : msg_item.ssid_first ≤ range.ssid_first.toNat) :
    u32 ((range.ssid_first.toNat : Int) - (resized junk range msg_item).ssid_first) =
      range.ssid_first.toNat - msg_item.ssid_first := by
  have bound := range.ssid_first.toNat_lt
  rw [resized_ssid_first,u32_of_lt (by omega) (by omega)]
  omega

/-- Too many SSIDs, past the cut range: the entry is reallocated one word larger
    than the cut. -/
theorem resized_cut_past {junk : Nat → UInt32} {range : DiagSsidRange} {msg_item : DiagMsgMask}
    (many : MAX_SSID_PER_RANGE < num_ssids range)
    (past : msg_item.ssid_first + MAX_SSID_PER_RANGE < range.ssid_last.toNat) :
    resized junk range msg_item =
      { msg_item with ssid_last_tools := msg_item.ssid_first + MAX_SSID_PER_RANGE
                      range_tools := MAX_SSID_PER_RANGE + 1
                      ptr := resize msg_item.ptr (MAX_SSID_PER_RANGE + 1) junk } := by
  have size : u32 (((msg_item.ssid_first + MAX_SSID_PER_RANGE : Nat) : Int) - msg_item.ssid_first + 1) =
      MAX_SSID_PER_RANGE + 1 := by
    unfold u32 MAX_SSID_PER_RANGE
    omega
  simp only [resized,truncate_range,many,if_true,extend_range,past,ne_eq,not_true_eq_false,if_false,size]

/-- Too many SSIDs, within the cut range: only the bounds are written. -/
theorem resized_cut_within {junk : Nat → UInt32} {range : DiagSsidRange} {msg_item : DiagMsgMask}
    (many : MAX_SSID_PER_RANGE < num_ssids range)
    (within : range.ssid_last.toNat ≤ msg_item.ssid_first + MAX_SSID_PER_RANGE) :
    resized junk range msg_item =
      { msg_item with ssid_last_tools := msg_item.ssid_first + MAX_SSID_PER_RANGE
                      range_tools := MAX_SSID_PER_RANGE } := by
  have notPast : ¬ msg_item.ssid_first + MAX_SSID_PER_RANGE < range.ssid_last.toNat := by omega
  simp only [resized,truncate_range,many,if_true,extend_range,gt_iff_lt,notPast,if_false]

/-- Inside the reported range nothing is resized. -/
theorem resized_within {junk : Nat → UInt32} {range : DiagSsidRange} {msg_item : DiagMsgMask}
    (few : num_ssids range ≤ MAX_SSID_PER_RANGE) (within : range.ssid_last.toNat ≤ msg_item.ssid_last_tools) :
    resized junk range msg_item = msg_item := by
  have notMany : ¬ MAX_SSID_PER_RANGE < num_ssids range := by omega
  have notPast : ¬ msg_item.ssid_last_tools < range.ssid_last.toNat := by omega
  simp only [resized,truncate_range,gt_iff_lt,notMany,if_false,extend_range,notPast]

/-- The reported bound after a SET of at most the maximum past the old bound. -/
def extendedLast (range : DiagSsidRange) (msg_item : DiagMsgMask) : Nat :=
  if num_ssids range = MAX_SSID_PER_RANGE then msg_item.ssid_last_tools else range.ssid_last.toNat

theorem resized_past {junk : Nat → UInt32} {range : DiagSsidRange} {msg_item : DiagMsgMask}
    (few : num_ssids range ≤ MAX_SSID_PER_RANGE) (past : msg_item.ssid_last_tools < range.ssid_last.toNat)
    (low : msg_item.ssid_first ≤ msg_item.ssid_last_tools) (high : msg_item.ssid_last_tools < 65536) :
    resized junk range msg_item =
      { msg_item with ssid_last_tools := extendedLast range msg_item
                      range_tools := extendedLast range msg_item - msg_item.ssid_first + 1
                      ptr := resize msg_item.ptr (extendedLast range msg_item - msg_item.ssid_first + 1) junk } := by
  have notMany : ¬ MAX_SSID_PER_RANGE < num_ssids range := by omega
  have last := range.ssid_last.toNat_lt
  by_cases full : num_ssids range = MAX_SSID_PER_RANGE
  · have size : u32 ((msg_item.ssid_last_tools : Int) - msg_item.ssid_first + 1) =
        msg_item.ssid_last_tools - msg_item.ssid_first + 1 := by
      unfold u32
      omega
    simp only [resized,truncate_range,gt_iff_lt,extend_range,past,if_true,extendedLast,ne_eq,full,not_true_eq_false,
      if_false,size,Nat.lt_irrefl]
  · have size : u32 ((range.ssid_last.toNat : Int) - msg_item.ssid_first + 1) =
        range.ssid_last.toNat - msg_item.ssid_first + 1 := by
      unfold u32
      omega
    simp only [resized,truncate_range,gt_iff_lt,notMany,if_false,extend_range,past,if_true,extendedLast,ne_eq,full,
      not_false_eq_true,size]

/-! ## The loop -/

/-- The entry the loop of SET stops at. -/
def selected (range : DiagSsidRange) : List DiagMsgMask → Option DiagMsgMask
  | [] => none
  | msg_item :: rest => if skips range msg_item rest.head? then selected range rest else some msg_item

theorem set_msg_loop_none {range : DiagSsidRange} {table : List DiagMsgMask} (junk mask : Nat → UInt32)
    (missed : selected range table = none) : set_msg_loop junk range mask table = .ok (1, table) := by
  induction table with
  | nil => rfl
  | cons msg_item rest ih =>
    by_cases skip : skips range msg_item rest.head?
    · simp only [selected,skip,if_true] at missed
      simp [set_msg_loop,skip,ih missed]
    · simp [selected,skip] at missed

theorem set_msg_loop_some {range : DiagSsidRange} {table : List DiagMsgMask} {msg_item : DiagMsgMask}
    (junk mask : Nat → UInt32) (found : selected range table = some msg_item) :
    ∃ before after, table = before ++ msg_item :: after ∧ skips range msg_item after.head? = false ∧
      set_msg_loop junk range mask table =
        (set_msg_item junk range mask msg_item >>= fun result => .ok (result.1, before ++ result.2 :: after)) := by
  induction table with
  | nil => simp [selected] at found
  | cons head rest ih =>
    by_cases skip : skips range head rest.head?
    · simp only [selected,skip,if_true] at found
      obtain ⟨before,after,rfl,hit,loop⟩ := ih found
      refine ⟨head :: before,after,rfl,hit,?_⟩
      simp only [set_msg_loop,skip,if_true,loop]
      cases set_msg_item junk range mask msg_item with
      | error fault => rfl
      | ok result => rfl
    · simp only [selected,skip] at found
      cases found
      exact ⟨[],rest,rfl,by simpa using skip,by simp only [set_msg_loop,skip]; rfl⟩

theorem selected_mem {range : DiagSsidRange} {table : List DiagMsgMask} {msg_item : DiagMsgMask}
    (found : selected range table = some msg_item) : msg_item ∈ table := by
  obtain ⟨before,after,rfl,_⟩ := set_msg_loop_some (fun _ => 0) (fun _ => 0) found
  simp

/-- The entry holds the first SSID of the request, at most the maximum past its
    start, and the next entry does not. -/
theorem not_skips {range : DiagSsidRange} {msg_item : DiagMsgMask} {mask_next : Option DiagMsgMask}
    (hit : skips range msg_item mask_next = false) :
    msg_item.ssid_first ≤ range.ssid_first.toNat ∧
      range.ssid_first.toNat ≤ msg_item.ssid_first + MAX_SSID_PER_RANGE ∧
      ∀ next ∈ mask_next, range.ssid_first.toNat < next.ssid_first := by
  simp only [skips,decide_eq_false_iff_not,not_or,not_exists,not_and,Nat.not_lt,ge_iff_le,Nat.not_le,gt_iff_lt] at hit
  exact hit

/-! ## What every command keeps -/

/-- The bounds and the size an entry was built with. -/
def layout (table : List DiagMsgMask) : List (Nat × Nat × Nat) :=
  table.map (fun msg_item => (msg_item.ssid_first,msg_item.ssid_last,msg_item.range))

structure Built (table : List DiagMsgMask) : Prop where
  same : layout table = layout diag_create_msg_mask_table
  low : ∀ msg_item ∈ table, msg_item.ssid_last ≤ msg_item.ssid_last_tools
  high : ∀ msg_item ∈ table, msg_item.ssid_last_tools < 65536

theorem built_init : Built diag_create_msg_mask_table := by
  refine ⟨rfl,?_,?_⟩ <;> decide

theorem layout_mem {table : List DiagMsgMask} (built : Built table) {msg_item : DiagMsgMask} (member : msg_item ∈ table) :
    msg_item.ssid_first ≤ msg_item.ssid_last ∧ msg_item.ssid_last < msg_item.ssid_first + 121 ∧
      msg_item.range = MAX_SSID_PER_RANGE ∧ msg_item.ssid_first + MAX_SSID_PER_RANGE < 65536 := by
  have facts : ∀ row ∈ layout diag_create_msg_mask_table,
      row.1 ≤ row.2.1 ∧ row.2.1 < row.1 + 121 ∧ row.2.2 = MAX_SSID_PER_RANGE ∧ row.1 + MAX_SSID_PER_RANGE < 65536 := by
    decide
  apply facts (msg_item.ssid_first,msg_item.ssid_last,msg_item.range)
  rw [← built.same]
  exact List.mem_map.mpr ⟨msg_item,member,rfl⟩

theorem Built.ordered {table : List DiagMsgMask} (built : Built table) {msg_item : DiagMsgMask}
    (member : msg_item ∈ table) : msg_item.ssid_first ≤ msg_item.ssid_last_tools :=
  Nat.le_trans (layout_mem built member).1 (built.low msg_item member)

/-- Replacing an entry by one with its bounds keeps the layout. -/
theorem Built.replace {before after : List DiagMsgMask} {old new : DiagMsgMask}
    (built : Built (before ++ old :: after)) (first : new.ssid_first = old.ssid_first)
    (last : new.ssid_last = old.ssid_last) (range : new.range = old.range)
    (low : new.ssid_last ≤ new.ssid_last_tools) (high : new.ssid_last_tools < 65536) :
    Built (before ++ new :: after) := by
  refine ⟨?_,forall_replaced built.low low,forall_replaced built.high high⟩
  rw [← built.same]
  simp [layout,first,last,range]

theorem resized_tools {table : List DiagMsgMask} (built : Built table) {msg_item : DiagMsgMask}
    (member : msg_item ∈ table) (junk : Nat → UInt32) (range : DiagSsidRange) :
    msg_item.ssid_last ≤ (resized junk range msg_item).ssid_last_tools ∧
      (resized junk range msg_item).ssid_last_tools < 65536 := by
  obtain ⟨_,near,_,cap⟩ := layout_mem built member
  have low := built.low msg_item member
  have high := built.high msg_item member
  have last := range.ssid_last.toNat_lt
  have ordered := built.ordered member
  simp only [MAX_SSID_PER_RANGE] at cap
  by_cases many : MAX_SSID_PER_RANGE < num_ssids range
  · by_cases past : msg_item.ssid_first + MAX_SSID_PER_RANGE < range.ssid_last.toNat
    · rw [resized_cut_past many past]
      simp only [MAX_SSID_PER_RANGE]
      omega
    · rw [resized_cut_within many (by omega)]
      simp only [MAX_SSID_PER_RANGE]
      omega
  · by_cases past : msg_item.ssid_last_tools < range.ssid_last.toNat
    · rw [resized_past (by omega) past ordered high]
      simp only [extendedLast]
      split_ifs <;> omega
    · rw [resized_within (by omega) (by omega)]
      exact ⟨low,high⟩

/-- SET changes the words of the entry it has resized and nothing else of it. -/
theorem set_msg_item_frame {junk : Nat → UInt32} {range : DiagSsidRange} {mask : Nat → UInt32}
    {msg_item after : DiagMsgMask} {ret : Nat} (set : set_msg_item junk range mask msg_item = .ok (ret, after)) :
    ∃ ptr, ptr.length = (resized junk range msg_item).ptr.length ∧
      after = { resized junk range msg_item with ptr := ptr } := by
  rw [set_msg_item_eq] at set
  dsimp only at set
  split_ifs at set
  · cases set
    exact ⟨_,rfl,rfl⟩
  · obtain ⟨ptr,copied,same⟩ := bind_eq_ok.mp set
    cases same
    exact ⟨ptr,store_length copied,rfl⟩

theorem set_msg_loop_built {junk : Nat → UInt32} {range : DiagSsidRange} {mask : Nat → UInt32}
    {table after : List DiagMsgMask} {ret : Nat} (built : Built table)
    (set : set_msg_loop junk range mask table = .ok (ret, after)) : Built after := by
  cases found : selected range table with
  | none =>
    rw [set_msg_loop_none junk mask found] at set
    cases set
    exact built
  | some msg_item =>
    have member := selected_mem found
    obtain ⟨before,later,rfl,_,loop⟩ := set_msg_loop_some junk mask found
    rw [loop] at set
    obtain ⟨⟨code,item⟩,stored,same⟩ := bind_eq_ok.mp set
    cases same
    obtain ⟨ptr,_,rfl⟩ := set_msg_item_frame stored
    obtain ⟨low,high⟩ := resized_tools built member junk range
    exact built.replace (by simp) (by simp) (by simp) (by simpa using low) (by simpa using high)

/-- SET is its loop, and the status it sets on success. -/
theorem set_msg_mask_ok_iff {junk : Nat → UInt32} {masks after : MaskTables} {range : DiagSsidRange}
    {mask : Nat → UInt32} {ret : Nat} :
    diag_cmd_set_msg_mask junk masks range mask = .ok (ret, after) ↔
      ∃ items, set_msg_loop junk range mask masks.msg_mask.ptr = .ok (ret, items) ∧
        after = { masks with msg_mask := { masks.msg_mask with
          ptr := items, status := if ret = 0 then DIAG_CTRL_MASK_VALID else masks.msg_mask.status } } := by
  rw [diag_cmd_set_msg_mask,bind_eq_ok]
  constructor
  · rintro ⟨⟨code,items⟩,loop,same⟩
    cases same
    exact ⟨items,loop,rfl⟩
  · rintro ⟨items,loop,rfl⟩
    exact ⟨(ret, items),loop,rfl⟩

/-- SET-ALL only rewrites words. -/
theorem set_all_items_frame {mask : UInt32} {table after : List DiagMsgMask} (set : set_all_items mask table = .ok after) :
    List.Forall₂ (fun old new => new.ptr.length = old.ptr.length ∧ new = { old with ptr := new.ptr }) table after := by
  induction table generalizing after with
  | nil =>
    cases set
    exact .nil
  | cons msg_item rest ih =>
    obtain ⟨ptr,filled,more⟩ := bind_eq_ok.mp set
    obtain ⟨tail,others,same⟩ := bind_eq_ok.mp more
    cases same
    exact .cons ⟨fill_length filled,rfl⟩ (ih others)

theorem set_all_items_built {mask : UInt32} {table after : List DiagMsgMask} (built : Built table)
    (set : set_all_items mask table = .ok after) : Built after := by
  have frame := set_all_items_frame set
  refine ⟨?_,?_,?_⟩
  · rw [← built.same]
    clear built set
    induction frame with
    | nil => rfl
    | cons same _ ih =>
      simp only [layout,List.map_cons] at ih ⊢
      rw [ih,same.2]
  · have low := built.low
    clear built set
    induction frame with
    | nil => simp
    | cons same _ ih =>
      rw [List.forall_mem_cons] at low ⊢
      refine ⟨?_,ih low.2⟩
      rw [same.2]
      exact low.1
  · have high := built.high
    clear built set
    induction frame with
    | nil => simp
    | cons same _ ih =>
      rw [List.forall_mem_cons] at high ⊢
      refine ⟨?_,ih high.2⟩
      rw [same.2]
      exact high.1

/-! ## What GET finds -/

/-- The build-time bounds, as GET hands them back. -/
def bounds (msg_item : DiagMsgMask) : DiagSsidRange := ⟨UInt16.ofNat msg_item.ssid_first,UInt16.ofNat msg_item.ssid_last⟩

/-- The number of SSIDs between the build-time bounds. -/
def bounded (msg_item : DiagMsgMask) : Nat := msg_item.ssid_last + 1 - msg_item.ssid_first

section
variable {table : List DiagMsgMask} {msg_item : DiagMsgMask}

theorem bounds_first (built : Built table) (member : msg_item ∈ table) :
    (bounds msg_item).ssid_first.toNat = msg_item.ssid_first := by
  obtain ⟨_,_,_,cap⟩ := layout_mem built member
  rw [bounds,UInt16.toNat_ofNat']
  omega

theorem bounds_last (built : Built table) (member : msg_item ∈ table) :
    (bounds msg_item).ssid_last.toNat = msg_item.ssid_last := by
  obtain ⟨_,near,_,cap⟩ := layout_mem built member
  simp only [MAX_SSID_PER_RANGE] at cap
  rw [bounds,UInt16.toNat_ofNat']
  omega

theorem num_ssids_bounds (built : Built table) (member : msg_item ∈ table) :
    num_ssids (bounds msg_item) = bounded msg_item := by
  have ordered := (layout_mem built member).1
  rw [num_ssids_of_le (by rw [bounds_first built member,bounds_last built member]; omega),bounds_first built member,
    bounds_last built member]
  rfl

theorem bounded_le (built : Built table) (member : msg_item ∈ table) : bounded msg_item ≤ 121 := by
  obtain ⟨_,near,_,_⟩ := layout_mem built member
  unfold bounded
  omega

theorem get_msg_mask_found {masks : MaskTables} (range : DiagSsidRange) (built : Built masks.msg_mask.ptr)
    (found : masks.msg_mask.ptr.find? (reports range.ssid_first.toNat) = some msg_item)
    (room : msg_item.range ≤ msg_item.ptr.length) :
    diag_cmd_get_msg_mask masks range = .ok (some (bounds msg_item,msg_item.ptr.take MAX_SSID_PER_RANGE)) := by
  have size := (layout_mem built (List.mem_of_find?_eq_some found)).2.2.1
  rw [size] at room
  rw [diag_cmd_get_msg_mask,found]
  simp only [size,load_ok_iff.mpr ⟨room,rfl⟩]
  rfl

/-- The words of the SSIDs between the bounds, out of those GET has copied. -/
theorem load_bounded (built : Built table) (member : msg_item ∈ table) (room : msg_item.range ≤ msg_item.ptr.length) :
    load (le32s (msg_item.ptr.take MAX_SSID_PER_RANGE)) (4 * bounded msg_item) =
      .ok (le32s (msg_item.ptr.take (bounded msg_item))) := by
  have few := bounded_le built member
  have size := (layout_mem built member).2.2.1
  have capacity : MAX_SSID_PER_RANGE = 200 := rfl
  refine load_ok_iff.mpr ⟨?_,?_⟩
  · rw [le32s_length,List.length_take]
    omega
  · rw [le32s_take,List.take_take,Nat.min_eq_left (by omega)]

end

end DiagRouter.MsgMaskTable

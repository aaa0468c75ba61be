import DiagRouter.MsgMaskTable

/-!
# The message-mask buffers

Whether the words an entry owns cover the bounds it reports. SET reallocates an
entry to exactly the range it reports, which may be less than the build-time
`range` that GET copies, and cuts a long request to a bound one past the words
it promises. Exactly the SETs that do neither keep every buffer large enough.
-/
namespace DiagRouter.MsgMaskBuffers
open DiagRouter.Lib.Memory DiagRouter.Lib.Runs DiagRouter.Masks DiagRouter.MsgMaskTable

/-- The bounds an entry reports and the sizes its readers and writers use lie
    inside the words it owns. -/
structure Fits (msg_item : DiagMsgMask) : Prop where
  reported : (msg_item.ssid_last_tools : Int) - msg_item.ssid_first + 1 ≤ msg_item.range_tools
  tools : msg_item.range_tools ≤ msg_item.ptr.length
  range : msg_item.range ≤ msg_item.ptr.length

def Buffers (masks : MaskTables) : Prop := ∀ msg_item ∈ masks.msg_mask.ptr, Fits msg_item

inductive MsgMaskOp
  | set (junk : Nat → UInt32) (range : DiagSsidRange) (mask : Nat → UInt32)
  | setAll (mask : UInt32)
  | get (range : DiagSsidRange)

def msg_mask_step (masks : MaskTables) : MsgMaskOp → Except Fault MaskTables
  | .set junk range mask => Prod.snd <$> diag_cmd_set_msg_mask junk masks range mask
  | .setAll mask => diag_cmd_set_all_msg_mask masks mask
  | .get range => (fun _ => masks) <$> diag_cmd_get_msg_mask masks range

/-- A SET that leaves the selected entry fitting: a cut request is reallocated
    past the cut, and no reallocation falls below `range`. -/
def KeepsFit (range : DiagSsidRange) (msg_item : DiagMsgMask) : Prop :=
  if MAX_SSID_PER_RANGE < num_ssids range then msg_item.ssid_first + MAX_SSID_PER_RANGE < range.ssid_last.toNat
  else msg_item.ssid_last_tools < range.ssid_last.toNat →
    msg_item.range ≤ extendedLast range msg_item - msg_item.ssid_first + 1

/-- The SETs that keep the buffers; the other commands always do. -/
def KeepsBuffers (masks : MaskTables) : MsgMaskOp → Prop
  | .set _ range _ => ∀ msg_item ∈ selected range masks.msg_mask.ptr, KeepsFit range msg_item
  | _ => True

/-! ## One entry -/

theorem resized_fits_iff {table : List DiagMsgMask} (built : Built table) {msg_item : DiagMsgMask}
    (member : msg_item ∈ table) (fits : Fits msg_item) (junk : Nat → UInt32) (range : DiagSsidRange) :
    Fits (resized junk range msg_item) ↔ KeepsFit range msg_item := by
  obtain ⟨_,_,size,_⟩ := layout_mem built member
  have ordered := built.ordered member
  have high := built.high msg_item member
  by_cases many : MAX_SSID_PER_RANGE < num_ssids range
  · by_cases past : msg_item.ssid_first + MAX_SSID_PER_RANGE < range.ssid_last.toNat
    · rw [resized_cut_past many past,KeepsFit,if_pos many]
      refine ⟨fun _ => past,fun _ => ⟨?_,?_,?_⟩⟩
      · dsimp only; omega
      · simp
      · simp [size]
    · rw [resized_cut_within many (by omega),KeepsFit,if_pos many]
      constructor
      · intro after
        have short := after.reported
        dsimp only at short
        omega
      · intro reallocated
        exact absurd reallocated past
  · by_cases past : msg_item.ssid_last_tools < range.ssid_last.toNat
    · rw [resized_past (by omega) past ordered high,KeepsFit,if_neg many]
      constructor
      · intro after _
        simpa using after.range
      · intro enough
        refine ⟨?_,?_,?_⟩
        · dsimp only
          omega
        · simp
        · simpa using enough past
    · rw [resized_within (by omega) (by omega),KeepsFit,if_neg many]
      exact ⟨fun _ reached => absurd reached past,fun _ => fits⟩

/-- A fitting entry has room for what SET copies into it. -/
theorem set_msg_item_ok {junk : Nat → UInt32} {range : DiagSsidRange} (mask : Nat → UInt32) {msg_item : DiagMsgMask}
    (fits : Fits (resized junk range msg_item)) : ∃ ret after, set_msg_item junk range mask msg_item = .ok (ret, after) := by
  rw [set_msg_item_eq]
  dsimp only
  split_ifs with outside
  · exact ⟨_,_,rfl⟩
  · have room : u32 ((range.ssid_first.toNat : Int) - (resized junk range msg_item).ssid_first) +
        (span mask 0 (stored range)).length ≤ (resized junk range msg_item).ptr.length := by
      have tools := fits.tools
      rw [span_length]
      omega
    exact ⟨0,_,by rw [store,if_pos room]; rfl⟩

theorem fits_words {msg_item : DiagMsgMask} {ptr : List UInt32} (same : ptr.length = msg_item.ptr.length) :
    Fits { msg_item with ptr := ptr } ↔ Fits msg_item := by
  constructor
  · rintro ⟨reported,tools,range⟩
    exact ⟨reported,same ▸ tools,same ▸ range⟩
  · rintro ⟨reported,tools,range⟩
    exact ⟨reported,same ▸ tools,same ▸ range⟩

/-! ## One command -/

theorem get_msg_mask_ok {masks : MaskTables} (buffers : Buffers masks) (range : DiagSsidRange) :
    ∃ answer, diag_cmd_get_msg_mask masks range = .ok answer := by
  unfold diag_cmd_get_msg_mask
  cases found : masks.msg_mask.ptr.find? (reports range.ssid_first.toNat) with
  | none => exact ⟨none,rfl⟩
  | some msg_item =>
    have fits := buffers msg_item (List.mem_of_find?_eq_some found)
    exact ⟨_,by simp [load,fits.range]; rfl⟩

theorem set_all_items_ok (mask : UInt32) {table : List DiagMsgMask} (fits : ∀ msg_item ∈ table, Fits msg_item) :
    ∃ after, set_all_items mask table = .ok after ∧ ∀ msg_item ∈ after, Fits msg_item := by
  induction table with
  | nil => exact ⟨[],rfl,by simp⟩
  | cons msg_item rest ih =>
    obtain ⟨first,others⟩ := List.forall_mem_cons.mp fits
    obtain ⟨tail,run,good⟩ := ih others
    have filled : fill msg_item.ptr msg_item.range_tools (memset_word mask) =
        .ok (List.replicate msg_item.range_tools (memset_word mask) ++ msg_item.ptr.drop msg_item.range_tools) :=
      fill_ok_iff.mpr ⟨first.tools,rfl⟩
    refine ⟨_,by simp [set_all_items,filled,run]; rfl,List.forall_mem_cons.mpr ⟨?_,good⟩⟩
    exact (fits_words (fill_length filled)).mpr first

theorem set_msg_loop_fits_iff (junk : Nat → UInt32) {range : DiagSsidRange} (mask : Nat → UInt32)
    {table : List DiagMsgMask} (built : Built table) (fits : ∀ msg_item ∈ table, Fits msg_item) :
    (∃ ret after, set_msg_loop junk range mask table = .ok (ret, after) ∧ ∀ msg_item ∈ after, Fits msg_item) ↔
      ∀ msg_item ∈ selected range table, KeepsFit range msg_item := by
  cases found : selected range table with
  | none =>
    have loop := set_msg_loop_none junk mask found
    exact ⟨fun _ _ none => absurd none (by simp),fun _ => ⟨1,table,loop,fits⟩⟩
  | some msg_item =>
    have member := selected_mem found
    have keeps := resized_fits_iff built member (fits msg_item member) junk range
    obtain ⟨before,later,rfl,_,loop⟩ := set_msg_loop_some junk mask found
    simp only [Option.mem_def,Option.some.injEq,forall_eq']
    rw [← keeps,loop]
    constructor
    · rintro ⟨ret,after,ran,good⟩
      obtain ⟨⟨code,item⟩,set,same⟩ := bind_eq_ok.mp ran
      cases same
      obtain ⟨ptr,length,rfl⟩ := set_msg_item_frame set
      exact (fits_words length).mp (good _ (by simp))
    · intro good
      obtain ⟨ret,item,set⟩ := set_msg_item_ok mask good
      refine ⟨ret,before ++ item :: later,by rw [set]; rfl,?_⟩
      obtain ⟨ptr,length,rfl⟩ := set_msg_item_frame set
      exact forall_replaced fits ((fits_words length).mpr good)

theorem msg_mask_step_built {masks after : MaskTables} {op : MsgMaskOp} (built : Built masks.msg_mask.ptr)
    (step : msg_mask_step masks op = .ok after) : Built after.msg_mask.ptr := by
  cases op with
  | set junk range mask =>
    obtain ⟨⟨ret,final⟩,set,rfl⟩ := map_eq_ok.mp step
    obtain ⟨items,loop,rfl⟩ := set_msg_mask_ok_iff.mp set
    exact set_msg_loop_built built loop
  | setAll mask =>
    obtain ⟨items,filled,same⟩ := bind_eq_ok.mp step
    cases same
    exact set_all_items_built built filled
  | get range =>
    obtain ⟨answer,_,rfl⟩ := map_eq_ok.mp step
    exact built

theorem msg_mask_step_iff {masks : MaskTables} {op : MsgMaskOp} (built : Built masks.msg_mask.ptr)
    (buffers : Buffers masks) :
    KeepsBuffers masks op ↔ ∃ after, msg_mask_step masks op = .ok after ∧ Buffers after := by
  cases op with
  | set junk range mask =>
    rw [KeepsBuffers,← set_msg_loop_fits_iff junk mask built buffers]
    constructor
    · rintro ⟨ret,items,loop,good⟩
      exact ⟨_,map_eq_ok.mpr ⟨_,set_msg_mask_ok_iff.mpr ⟨items,loop,rfl⟩,rfl⟩,good⟩
    · rintro ⟨after,step,good⟩
      obtain ⟨⟨ret,final⟩,set,rfl⟩ := map_eq_ok.mp step
      obtain ⟨items,loop,rfl⟩ := set_msg_mask_ok_iff.mp set
      exact ⟨ret,items,loop,good⟩
  | setAll mask =>
    obtain ⟨items,run,good⟩ := set_all_items_ok mask buffers
    have step : msg_mask_step masks (.setAll mask) = .ok { masks with msg_mask := { masks.msg_mask with
        ptr := items
        status := if mask ≠ 0 then DIAG_CTRL_MASK_ALL_ENABLED else DIAG_CTRL_MASK_ALL_DISABLED } } :=
      bind_eq_ok.mpr ⟨items,run,rfl⟩
    exact ⟨fun _ => ⟨_,step,good⟩,fun _ => trivial⟩
  | get range =>
    obtain ⟨answer,got⟩ := get_msg_mask_ok buffers range
    exact ⟨fun _ => ⟨masks,map_eq_ok.mpr ⟨answer,got,rfl⟩,buffers⟩,fun _ => trivial⟩

/-! ## Runs -/

theorem buffers_init : Buffers diag_masks_init := by
  intro msg_item member
  obtain ⟨bounds,_,rfl⟩ := List.mem_map.mp member
  refine ⟨?_,?_,?_⟩
  · simp only [diag_create_msg_mask_table_entry]
    split_ifs <;> omega
  · simp [diag_create_msg_mask_table_entry]
  · simp [diag_create_msg_mask_table_entry]

/-- From the tables as built, the commands of a run stay inside every buffer and
    leave every entry fitting after each of them exactly when every SET of the
    run keeps the entry it selects fitting. -/
theorem msg_mask_buffers_iff (ops : List MsgMaskOp) :
    Safe msg_mask_step Buffers diag_masks_init ops ↔ Meets msg_mask_step KeepsBuffers diag_masks_init ops :=
  safe_iff_meets (fun masks => Built masks.msg_mask.ptr) (fun built _ step _ => msg_mask_step_built built step)
    (fun built buffers => msg_mask_step_iff built buffers) ops built_init buffers_init

/-- SET of SSIDs 0 to 121 shrinks the first entry to 122 words, and the next GET
    of it copies 200. -/
theorem set_to_121_unsafe :
    ¬ Safe msg_mask_step Buffers diag_masks_init [.set (fun _ => 0) ⟨0,121⟩ (fun _ => 0)] ∧
      exec msg_mask_step diag_masks_init [.set (fun _ => 0) ⟨0,121⟩ (fun _ => 0),.get ⟨0,0⟩] = .error .outOfBounds := by
  constructor
  · rintro ⟨_,after,step,good⟩
    have keeps := (msg_mask_step_iff built_init buffers_init).mpr ⟨after,step,good.start⟩
    exact absurd (keeps (diag_create_msg_mask_table_entry 0 120) rfl) (by simp [KeepsFit]; decide)
  · decide +kernel

end DiagRouter.MsgMaskBuffers

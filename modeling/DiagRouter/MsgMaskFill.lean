import DiagRouter.MsgMaskBuffers
import DiagRouter.MsgMaskReadBack

/-!
# Filling the message masks

SET-ALL fills every entry with `memset`, which stores the low byte of the word
four times. It sets every word, and every GET then reads it, exactly when the
four bytes of the word are equal and no earlier SET has shrunk a buffer that the
fill or a GET goes over.
-/
namespace DiagRouter.MsgMaskFill
open DiagRouter.Lib.Memory DiagRouter.Lib.Words DiagRouter.Lib.Runs DiagRouter.Masks DiagRouter.Handlers
open DiagRouter.MsgMaskTable DiagRouter.MsgMaskBuffers
open DiagRouter.MsgMaskReadBack (answer answer_length answer_word get_msg_mask_eq)

/-! ## What every command keeps -/

/-- The table is built, and a fill goes over all words between the build-time
    bounds. -/
structure Filled (table : List DiagMsgMask) : Prop where
  built : Built table
  wide : ∀ msg_item ∈ table, bounded msg_item ≤ msg_item.range_tools

theorem filled_init : Filled diag_masks_init.msg_mask.ptr := by
  refine ⟨built_init,?_⟩
  decide

theorem resized_wide {table : List DiagMsgMask} (built : Built table) {msg_item : DiagMsgMask} (member : msg_item ∈ table)
    (wide : bounded msg_item ≤ msg_item.range_tools) (junk : Nat → UInt32) (range : DiagSsidRange) :
    bounded (resized junk range msg_item) ≤ (resized junk range msg_item).range_tools := by
  have few := bounded_le built member
  have low := built.low msg_item member
  have high := built.high msg_item member
  have ordered := built.ordered member
  have capacity : MAX_SSID_PER_RANGE = 200 := rfl
  have same : bounded (resized junk range msg_item) = bounded msg_item := by
    simp [bounded]
  rw [same]
  by_cases many : MAX_SSID_PER_RANGE < num_ssids range
  · by_cases past : msg_item.ssid_first + MAX_SSID_PER_RANGE < range.ssid_last.toNat
    · rw [resized_cut_past many past]
      dsimp only
      omega
    · rw [resized_cut_within many (by omega)]
      dsimp only
      omega
  · by_cases past : msg_item.ssid_last_tools < range.ssid_last.toNat
    · rw [resized_past (by omega) past ordered high]
      dsimp only
      unfold bounded extendedLast
      split_ifs <;> omega
    · rw [resized_within (by omega) (by omega)]
      exact wide

/-! ## The fill -/

/-- An entry after the fill. -/
def filled (mask : UInt32) (msg_item : DiagMsgMask) : DiagMsgMask :=
  { msg_item with ptr := List.replicate msg_item.range_tools (memset_word mask) ++ msg_item.ptr.drop msg_item.range_tools }

/-- SET-ALL ends exactly when no entry promises more words than it owns. -/
theorem set_all_items_ok_iff {mask : UInt32} {table after : List DiagMsgMask} :
    set_all_items mask table = .ok after ↔
      (∀ msg_item ∈ table, msg_item.range_tools ≤ msg_item.ptr.length) ∧ after = table.map (filled mask) := by
  induction table generalizing after with
  | nil =>
    rw [set_all_items]
    simp [eq_comm]
  | cons msg_item rest ih =>
    rw [set_all_items,List.forall_mem_cons,List.map_cons,bind_eq_ok]
    constructor
    · rintro ⟨ptr,fills,more⟩
      obtain ⟨tail,others,same⟩ := bind_eq_ok.mp more
      cases same
      obtain ⟨room,rfl⟩ := fill_ok_iff.mp fills
      obtain ⟨rooms,rfl⟩ := ih.mp others
      exact ⟨⟨room,rooms⟩,rfl⟩
    · rintro ⟨⟨room,rooms⟩,rfl⟩
      refine ⟨_,fill_ok_iff.mpr ⟨room,rfl⟩,bind_eq_ok.mpr ⟨_,ih.mpr ⟨rooms,rfl⟩,rfl⟩⟩

theorem set_all_wide {mask : UInt32} {table after : List DiagMsgMask} (settled : Filled table)
    (set : set_all_items mask table = .ok after) : Filled after := by
  refine ⟨set_all_items_built settled.built set,?_⟩
  obtain ⟨_,rfl⟩ := set_all_items_ok_iff.mp set
  intro msg_item member
  obtain ⟨old,listed,rfl⟩ := List.mem_map.mp member
  exact settled.wide old listed

theorem msg_mask_step_filled {masks after : MaskTables} {op : MsgMaskOp} (settled : Filled masks.msg_mask.ptr)
    (step : msg_mask_step masks op = .ok after) : Filled after.msg_mask.ptr := by
  have built := msg_mask_step_built settled.built step
  cases op with
  | set junk range mask =>
    refine ⟨built,?_⟩
    obtain ⟨⟨ret,final⟩,set,rfl⟩ := map_eq_ok.mp step
    obtain ⟨items,loop,rfl⟩ := set_msg_mask_ok_iff.mp set
    cases found : selected range masks.msg_mask.ptr with
    | none =>
      rw [set_msg_loop_none junk mask found] at loop
      cases loop
      exact settled.wide
    | some msg_item =>
      have member := selected_mem found
      have wide := resized_wide settled.built member (settled.wide msg_item member) junk range
      obtain ⟨before,later,table,_,ran⟩ := set_msg_loop_some junk mask found
      rw [ran] at loop
      obtain ⟨⟨code,item⟩,stored,same⟩ := bind_eq_ok.mp loop
      cases same
      obtain ⟨ptr,_,rfl⟩ := set_msg_item_frame stored
      have wides := settled.wide
      rw [table] at wides
      exact forall_replaced wides wide
  | setAll mask =>
    obtain ⟨items,fills,same⟩ := bind_eq_ok.mp step
    cases same
    exact set_all_wide settled fills
  | get range =>
    obtain ⟨answer,_,rfl⟩ := map_eq_ok.mp step
    exact settled

/-! ## The word -/

/-- Four digits to the base 256, and a number that repeats the lowest of them. -/
theorem digits_eq_iff {n : Nat} (small : n < 4294967296) :
    n % 256 * 0x01010101 = n ↔ n / 256 % 256 = n % 256 ∧ n / 65536 % 256 = n % 256 ∧ n / 16777216 % 256 = n % 256 := by
  obtain ⟨a,b,c,d,low,next,high,top,rfl⟩ : ∃ a b c d, a < 256 ∧ b < 256 ∧ c < 256 ∧ d < 256 ∧
      n = a + 256 * b + 65536 * c + 16777216 * d :=
    ⟨n % 256,n / 256 % 256,n / 65536 % 256,n / 16777216,by omega,by omega,by omega,by omega,by omega⟩
  have first : (a + 256 * b + 65536 * c + 16777216 * d) % 256 = a := by omega
  have second : (a + 256 * b + 65536 * c + 16777216 * d) / 256 % 256 = b := by omega
  have third : (a + 256 * b + 65536 * c + 16777216 * d) / 65536 % 256 = c := by omega
  have fourth : (a + 256 * b + 65536 * c + 16777216 * d) / 16777216 % 256 = d := by omega
  rw [first,second,third,fourth]
  clear first second third fourth
  constructor
  · intro repeated
    have upper : c + 256 * d = 257 * a := by omega
    exact ⟨by omega,by omega,by omega⟩
  · omega

/-- `memset` leaves the word it is given exactly when its four bytes are equal. -/
theorem memset_word_eq_iff (mask : UInt32) : memset_word mask = mask ↔ ∃ byte, le32 mask = [byte,byte,byte,byte] := by
  have bound := mask.toNat_lt
  have word : (memset_word mask).toNat = mask.toNat % 256 * 0x01010101 := by
    rw [memset_word,UInt32.toNat_ofNat']
    omega
  have byte_eq : ∀ k, UInt8.ofNat k = UInt8.ofNat mask.toNat ↔ k % 256 = mask.toNat % 256 := by
    intro k
    rw [← UInt8.toNat_inj,UInt8.toNat_ofNat',UInt8.toNat_ofNat']
  rw [← UInt32.toNat_inj,word,digits_eq_iff (by omega),← byte_eq,← byte_eq,← byte_eq]
  constructor
  · rintro ⟨second,third,fourth⟩
    exact ⟨UInt8.ofNat mask.toNat,by rw [le32,second,third,fourth]⟩
  · rintro ⟨byte,spelled⟩
    simp only [le32,List.cons.injEq,and_true] at spelled
    obtain ⟨first,second,third,fourth⟩ := spelled
    exact ⟨second.trans first.symm,third.trans first.symm,fourth.trans first.symm⟩

/-! ## SET-ALL and GET -/

/-- After SET-ALL every word of every entry is `mask`, and a GET of an SSID that
    some entry reports is answered with nothing else. -/
def SetsAll (masks : MaskTables) (mask : UInt32) : Prop :=
  ∃ after, diag_cmd_set_all_msg_mask masks mask = .ok after ∧
    (∀ msg_item ∈ after.msg_mask.ptr, ∀ k, k < msg_item.range_tools → msg_item.ptr[k]? = some mask) ∧
    ∀ junk client buf router, router.masks = after → buf 1 = 3 →
      ∀ msg_item ∈ after.msg_mask.ptr.find? (reports (le16At buf 2).toNat),
        handle_extended_message_configuration junk client buf 6 router =
          .ok (0,send router client (answer buf (List.replicate (bounded msg_item) mask)))

/-- The bytes of the word are equal, the entries own the words they promise, and
    those a GET finds the words it copies. -/
structure Fillable (masks : MaskTables) (mask : UInt32) : Prop where
  bytes : ∃ byte, le32 mask = [byte,byte,byte,byte]
  tools : ∀ msg_item ∈ masks.msg_mask.ptr, msg_item.range_tools ≤ msg_item.ptr.length
  range : ∀ ssid : UInt16, ∀ msg_item ∈ masks.msg_mask.ptr.find? (reports ssid.toNat), msg_item.range ≤ msg_item.ptr.length

theorem find_filled (mask : UInt32) (table : List DiagMsgMask) (ssid : Nat) :
    (table.map (filled mask)).find? (reports ssid) = (table.find? (reports ssid)).map (filled mask) := by
  rw [List.find?_map]
  rfl

theorem set_all_ok_iff {masks after : MaskTables} {mask : UInt32} :
    diag_cmd_set_all_msg_mask masks mask = .ok after ↔
      (∀ msg_item ∈ masks.msg_mask.ptr, msg_item.range_tools ≤ msg_item.ptr.length) ∧
        after = { masks with msg_mask := { masks.msg_mask with
          ptr := masks.msg_mask.ptr.map (filled mask)
          status := if mask ≠ 0 then DIAG_CTRL_MASK_ALL_ENABLED else DIAG_CTRL_MASK_ALL_DISABLED } } := by
  rw [diag_cmd_set_all_msg_mask,bind_eq_ok]
  constructor
  · rintro ⟨items,fills,same⟩
    cases same
    obtain ⟨rooms,rfl⟩ := set_all_items_ok_iff.mp fills
    exact ⟨rooms,rfl⟩
  · rintro ⟨rooms,rfl⟩
    exact ⟨_,set_all_items_ok_iff.mpr ⟨rooms,rfl⟩,rfl⟩

theorem filled_length {mask : UInt32} {msg_item : DiagMsgMask} (room : msg_item.range_tools ≤ msg_item.ptr.length) :
    (filled mask msg_item).ptr.length = msg_item.ptr.length := by
  simp only [filled,List.length_append,List.length_replicate,List.length_drop]
  omega

theorem filled_word (mask : UInt32) (msg_item : DiagMsgMask) {k : Nat} (inside : k < msg_item.range_tools) :
    (filled mask msg_item).ptr[k]? = some (memset_word mask) := by
  rw [filled,List.getElem?_append_left (by rw [List.length_replicate]; exact inside),List.getElem?_replicate,if_pos inside]

/-- The words between the bounds of an entry after the fill. -/
theorem filled_bounded (mask : UInt32) {msg_item : DiagMsgMask} (wide : bounded msg_item ≤ msg_item.range_tools) :
    (filled mask msg_item).ptr.take (bounded msg_item) = List.replicate (bounded msg_item) (memset_word mask) := by
  rw [filled,List.take_append_of_le_length (by rw [List.length_replicate]; exact wide),List.take_replicate,
    Nat.min_eq_left wide]

/-- A GET that ends has found a buffer it may copy from. -/
theorem get_msg_mask_room {junk : Junk} {client : Nat} {buf : Request} {router after : Router} {ret : Int}
    (operation : buf 1 = 3) {msg_item : DiagMsgMask}
    (found : router.masks.msg_mask.ptr.find? (reports (le16At buf 2).toNat) = some msg_item)
    (ran : handle_extended_message_configuration junk client buf 6 router = .ok (ret,after)) :
    msg_item.range ≤ msg_item.ptr.length := by
  rw [handle_extended_message_configuration,operation] at ran
  change get_msg_mask client buf 6 router = _ at ran
  rw [get_msg_mask,if_neg (by decide)] at ran
  obtain ⟨got,copied,_⟩ := bind_eq_ok.mp ran
  have entry : router.masks.msg_mask.ptr.find? (reports (range_at buf 2).ssid_first.toNat) = some msg_item := found
  rw [diag_cmd_get_msg_mask,entry] at copied
  obtain ⟨mask,loaded,_⟩ := bind_eq_ok.mp copied
  exact (load_ok_iff.mp loaded).1

/-- A GET of the SSID. -/
def get_request (ssid : UInt16) : Request := place ([0x7d,3] ++ le16 ssid ++ le16 ssid) (fun _ => 0)

theorem get_request_ssid (ssid : UInt16) : le16At (get_request ssid) 2 = ssid :=
  le16At_place [0x7d,3] (le16 ssid) ssid (fun _ => 0)

theorem setsAll_of_fillable {masks : MaskTables} {mask : UInt32} (settled : Filled masks.msg_mask.ptr)
    (fillable : Fillable masks mask) : SetsAll masks mask := by
  have word := (memset_word_eq_iff mask).mpr fillable.bytes
  have set := (@set_all_ok_iff masks _ mask).mpr ⟨fillable.tools,rfl⟩
  refine ⟨_,set,?_,?_⟩
  · intro msg_item member k inside
    obtain ⟨old,listed,rfl⟩ := List.mem_map.mp member
    rw [filled_word mask old inside,word]
  · intro junk client buf router same operation msg_item found
    have after_settled := @msg_mask_step_filled masks _ (.setAll mask) settled set
    rw [← same] at found after_settled
    have old_found : ∃ old, masks.msg_mask.ptr.find? (reports (le16At buf 2).toNat) = some old ∧ filled mask old = msg_item := by
      rw [same] at found
      exact Option.map_eq_some_iff.mp ((find_filled mask masks.msg_mask.ptr (le16At buf 2).toNat).symm.trans found)
    obtain ⟨old,listed,rfl⟩ := old_found
    have member := List.mem_of_find?_eq_some listed
    have length := @filled_length mask old (fillable.tools old member)
    have room := fillable.range _ old listed
    rw [handle_extended_message_configuration,operation]
    change get_msg_mask client buf 6 router = _
    rw [get_msg_mask_eq client buf after_settled.built found (by rw [length]; exact room)]
    have words := filled_bounded mask (settled.wide old member)
    change Except.ok (0,send router client (answer buf ((filled mask old).ptr.take (bounded old)))) = _
    rw [words,word]
    rfl

theorem fillable_of_setsAll {masks : MaskTables} {mask : UInt32} (settled : Filled masks.msg_mask.ptr)
    (sets : SetsAll masks mask) : Fillable masks mask := by
  obtain ⟨after,set,words,gets⟩ := sets
  obtain ⟨tools,rfl⟩ := set_all_ok_iff.mp set
  refine ⟨?_,tools,?_⟩
  · -- the first entry promises at least one word
    obtain ⟨msg_item,member⟩ : ∃ msg_item, msg_item ∈ masks.msg_mask.ptr := by
      apply List.exists_mem_of_length_pos
      have length := congrArg List.length settled.built.same
      rw [layout,List.length_map] at length
      rw [length]
      decide
    have wide := settled.wide msg_item member
    have ordered := (layout_mem settled.built member).1
    have some_word : 0 < msg_item.range_tools := by
      unfold bounded at wide
      omega
    have shown := words _ (List.mem_map_of_mem member) 0 some_word
    rw [filled_word mask msg_item some_word] at shown
    exact (memset_word_eq_iff mask).mp (Option.some.inj shown)
  · intro ssid msg_item found
    have hit : (masks.msg_mask.ptr.map (filled mask)).find? (reports (le16At (get_request ssid) 2).toNat) =
        some (filled mask msg_item) := by
      rw [find_filled,get_request_ssid,Option.mem_def.mp found]
      rfl
    have ran := gets ⟨fun _ => 0,fun _ => 0,fun _ => 0,fun _ _ => 0⟩ 0 (get_request ssid) ⟨_,[],[],[],[]⟩ rfl rfl _ hit
    have room := get_msg_mask_room rfl hit ran
    rw [filled_length (tools msg_item (List.mem_of_find?_eq_some found))] at room
    exact room

/-- In every state that message mask commands reach, SET-ALL sets every word, and
    every GET then reads it, exactly when the bytes of the word are equal and the
    entries own what the fill and the GETs go over. -/
theorem set_all_iff {ops : List MsgMaskOp} {masks : MaskTables} (reached : exec msg_mask_step diag_masks_init ops = .ok masks)
    (mask : UInt32) : SetsAll masks mask ↔ Fillable masks mask := by
  have settled := exec_invariant (I := fun masks => Filled masks.msg_mask.ptr)
    (fun settled step => msg_mask_step_filled settled step) filled_init reached
  exact ⟨fillable_of_setsAll settled,setsAll_of_fillable settled⟩

theorem set_all_iff_init : SetsAll diag_masks_init 0x05050505 ↔ Fillable diag_masks_init 0x05050505 :=
  @set_all_iff [] diag_masks_init rfl 0x05050505

/-- SET-ALL of 1 in the tables as built sets 0x01010101. -/
theorem set_all_one :
    exec msg_mask_step diag_masks_init [] = .ok diag_masks_init ∧ memset_word 1 = 0x01010101 ∧
      ¬ SetsAll diag_masks_init 1 := by
  refine ⟨rfl,rfl,fun sets => ?_⟩
  obtain ⟨byte,spelled⟩ := (fillable_of_setsAll filled_init sets).bytes
  simp only [le32,List.cons.injEq] at spelled
  obtain ⟨first,second,_⟩ := spelled
  exact absurd (first.trans second.symm) (by decide)

end DiagRouter.MsgMaskFill

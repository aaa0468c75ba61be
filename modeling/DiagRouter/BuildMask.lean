import DiagRouter.MaskBroadcast

/-!
# The build-time masks that are read

A GET of the build-time masks cuts a request that is too long to the words of
its entry, but hands back one SSID more than that. The response copies as many
words as the range says, so past a cut it reads behind the words it was given.
-/
namespace DiagRouter.BuildMask
open DiagRouter.Lib.Memory DiagRouter.Lib.Words DiagRouter.Lib.Runs DiagRouter.Masks DiagRouter.MsgMaskTable
open DiagRouter.Handlers
open DiagRouter.Responses (handle_command_changes)
open DiagRouter.MaskBroadcast (RouterOp router_step start)

/-- The entry a GET of the build-time masks reads. -/
def begins (ssid : Nat) (msg_item : DiagMsgMask) : Bool := msg_item.ssid_first = ssid

/-- The response to a GET that was answered with the words. -/
def build_response (range : DiagSsidRange) (words : List UInt32) : List UInt8 :=
  [0x7d,2] ++ range_bytes range ++ [DIAG_CMD_MSG_STATUS_SUCCESSFUL,0] ++ le32s words

/-- A GET that finds an entry hands back as many words as there are SSIDs in the
    range that it hands back, no more than the entry has, and the response holds
    that range and those words. -/
def SizesAgree (junk : Junk) (client : Nat) (buf : Request) (router : Router) : Prop :=
  ∀ range words, diag_cmd_get_build_mask router.masks (range_at buf 2) = .ok (some (range,words)) →
    (words.length : Int) = (range.ssid_last.toNat : Int) - range.ssid_first.toNat + 1 ∧
    (∀ msg_item ∈ router.masks.msg_bt_mask.ptr.find? (begins (range_at buf 2).ssid_first.toNat), words.length ≤ msg_item.range) ∧
    handle_extended_message_configuration junk client buf 6 router =
      .ok (0,send router client (build_response range words))

/-- The range names at most as many SSIDs as the entry has words: it ends no more
    than one before its beginning, and inside the entry. -/
def InsideEntry (masks : MaskTables) (range : DiagSsidRange) : Prop :=
  ∀ msg_item ∈ masks.msg_bt_mask.ptr.find? (begins range.ssid_first.toNat),
    range.ssid_first.toNat ≤ range.ssid_last.toNat + 1 ∧ range.ssid_last.toNat + 1 ≤ range.ssid_first.toNat + msg_item.range

/-! ## The table -/

theorem build_entries : ∀ msg_item ∈ diag_create_msg_mask_table, msg_item.range = MAX_SSID_PER_RANGE ∧
    msg_item.ptr.length = MAX_SSID_PER_RANGE ∧ msg_item.ssid_first + MAX_SSID_PER_RANGE < 65536 := by
  intro msg_item member
  obtain ⟨bounds,listed,rfl⟩ := List.mem_map.mp member
  have small : ∀ bounds ∈ ssid_first_arr.zip ssid_last_arr, bounds.2 - bounds.1 + 1 < MAX_SSID_PER_RANGE ∧
      bounds.1 + MAX_SSID_PER_RANGE < 65536 := by decide
  obtain ⟨few,low⟩ := small bounds listed
  simp only [diag_create_msg_mask_table_entry,if_pos few,List.length_replicate]
  exact ⟨trivial,trivial,low⟩

section
variable {masks : MaskTables} {range : DiagSsidRange} {msg_item : DiagMsgMask}

theorem get_build_mask_eq (table : masks.msg_bt_mask.ptr = diag_create_msg_mask_table)
    (found : masks.msg_bt_mask.ptr.find? (begins range.ssid_first.toNat) = some msg_item) :
    diag_cmd_get_build_mask masks range =
      if MAX_SSID_PER_RANGE < num_ssids range then
        .ok (some ({ range with ssid_last := UInt16.ofNat (range.ssid_first.toNat + MAX_SSID_PER_RANGE) },msg_item.ptr))
      else .ok (some (range,msg_item.ptr.take (num_ssids range))) := by
  have member := List.mem_of_find?_eq_some found
  rw [table] at member
  obtain ⟨size,length,_⟩ := build_entries msg_item member
  have entry : masks.msg_bt_mask.ptr.find? (fun msg_item => msg_item.ssid_first = range.ssid_first.toNat) = some msg_item :=
    found
  rw [diag_cmd_get_build_mask,entry]
  simp only [size,gt_iff_lt]
  split_ifs with many
  · have whole : load msg_item.ptr MAX_SSID_PER_RANGE = .ok msg_item.ptr :=
      load_ok_iff.mpr ⟨Nat.le_of_eq length.symm,(List.take_of_length_le (Nat.le_of_eq length)).symm⟩
    rw [whole]
    rfl
  · rw [load_ok_iff.mpr ⟨by omega,rfl⟩]
    rfl

theorem get_build_mask_missing (missing : masks.msg_bt_mask.ptr.find? (begins range.ssid_first.toNat) = none) :
    diag_cmd_get_build_mask masks range = .ok none := by
  have entry : masks.msg_bt_mask.ptr.find? (fun msg_item => msg_item.ssid_first = range.ssid_first.toNat) = none := missing
  rw [diag_cmd_get_build_mask,entry]

/-- The SSIDs that are counted are those of a range that does not wrap. -/
theorem num_ssids_le_iff : num_ssids range ≤ MAX_SSID_PER_RANGE ↔
    range.ssid_first.toNat ≤ range.ssid_last.toNat + 1 ∧
      range.ssid_last.toNat + 1 ≤ range.ssid_first.toNat + MAX_SSID_PER_RANGE := by
  have capacity : MAX_SSID_PER_RANGE = 200 := rfl
  have bound := range.ssid_first.toNat_lt
  by_cases ordered : range.ssid_first.toNat ≤ range.ssid_last.toNat + 1
  · rw [num_ssids_of_le ordered]
    omega
  · rw [num_ssids_of_gt (Nat.lt_of_not_le ordered)]
    omega

/-- A range that counts the words it comes with is answered with all of them. -/
theorem get_build_mask_answers {router : Router} {buf : Request} {words : List UInt32} (client : Nat)
    (got : diag_cmd_get_build_mask router.masks (range_at buf 2) = .ok (some (range,words)))
    (counted : (words.length : Int) = (range.ssid_last.toNat : Int) - range.ssid_first.toNat + 1) :
    get_build_mask client buf 6 router = .ok (0,send router client (build_response range words)) := by
  have bytes : MSG_RANGE_TO_SIZE range = 4 * words.length := by
    have bound := range.ssid_last.toNat_lt
    rw [MSG_RANGE_TO_SIZE,u32_of_lt (by omega) (by omega)]
    omega
  have copied : load (le32s words) (MSG_RANGE_TO_SIZE range) = .ok (le32s words) := by
    rw [load_ok_iff,bytes,← le32s_length,List.take_length]
    exact ⟨Nat.le_refl _,rfl⟩
  rw [get_build_mask,if_neg (by decide),got,ok_bind]
  dsimp only
  rw [copied]
  rfl

end

/-! ## Reached states -/

theorem router_step_bt {router after : Router} {op : RouterOp}
    (table : router.masks.msg_bt_mask.ptr = diag_create_msg_mask_table) (step : router_step router op = .ok after) :
    after.masks.msg_bt_mask.ptr = diag_create_msg_mask_table := by
  cases op with
  | elsewhere diag_cmds diag_ids peripherals diag_clients =>
    cases step
    exact table
  | request junk client buf len =>
    rw [(handle_command_changes step).msg_cases.1]
    exact table

theorem sizes_agree_iff {router : Router} (table : router.masks.msg_bt_mask.ptr = diag_create_msg_mask_table) (junk : Junk)
    (client : Nat) {buf : Request} (operation : buf 1 = 2) :
    SizesAgree junk client buf router ↔ InsideEntry router.masks (range_at buf 2) := by
  have handler : handle_extended_message_configuration junk client buf 6 router = get_build_mask client buf 6 router := by
    rw [handle_extended_message_configuration,operation]
    rfl
  rw [SizesAgree,InsideEntry,handler]
  cases found : router.masks.msg_bt_mask.ptr.find? (begins (range_at buf 2).ssid_first.toNat) with
  | none =>
    rw [get_build_mask_missing found]
    simp
  | some msg_item =>
    have member := List.mem_of_find?_eq_some found
    rw [table] at member
    obtain ⟨size,length,low⟩ := build_entries msg_item member
    have first : msg_item.ssid_first = (range_at buf 2).ssid_first.toNat := by
      simpa [begins] using List.find?_some found
    have got := get_build_mask_eq table found
    simp only [Option.mem_def,Option.some.injEq,forall_eq',size,← num_ssids_le_iff]
    by_cases many : MAX_SSID_PER_RANGE < num_ssids (range_at buf 2)
    · rw [if_pos many] at got
      rw [got]
      refine ⟨fun agree => ?_,fun few => absurd many (Nat.not_lt.mpr few)⟩
      obtain ⟨count,_⟩ := agree _ _ rfl
      rw [length] at count
      dsimp only at count
      rw [UInt16.toNat_ofNat'] at count
      omega
    · rw [if_neg many] at got
      refine ⟨fun _ => Nat.le_of_not_lt many,fun _ => ?_⟩
      intro range words same
      cases got.symm.trans same
      obtain ⟨ordered,_⟩ := num_ssids_le_iff.mp (Nat.le_of_not_lt many)
      have count := num_ssids_of_le ordered
      have taken : (msg_item.ptr.take (num_ssids (range_at buf 2))).length = num_ssids (range_at buf 2) := by
        rw [List.length_take]
        omega
      have counted : ((msg_item.ptr.take (num_ssids (range_at buf 2))).length : Int) =
          ((range_at buf 2).ssid_last.toNat : Int) - (range_at buf 2).ssid_first.toNat + 1 := by omega
      exact ⟨counted,by omega,get_build_mask_answers client got counted⟩

/-- In every state that a run of client messages reaches, the sizes agree exactly
    for the ranges that are not cut. -/
theorem build_mask_sizes_iff {ops : List RouterOp} {router : Router} (reached : exec router_step start ops = .ok router)
    (junk : Junk) (client : Nat) {buf : Request} (operation : buf 1 = 2) :
    SizesAgree junk client buf router ↔ InsideEntry router.masks (range_at buf 2) :=
  sizes_agree_iff (exec_invariant (I := fun router : Router => router.masks.msg_bt_mask.ptr = diag_create_msg_mask_table)
    (fun table step => router_step_bt table step) rfl reached) junk client operation

theorem build_mask_sizes_200 :
    SizesAgree ⟨fun _ => 0,fun _ => 0,fun _ => 0,fun _ _ => 0⟩ 0 (place [0x7d,2,0,0,199,0] (fun _ => 0)) start := by
  refine (@build_mask_sizes_iff [] start rfl ⟨fun _ => 0,fun _ => 0,fun _ => 0,fun _ _ => 0⟩ 0
    (place [0x7d,2,0,0,199,0] (fun _ => 0)) rfl).mpr ?_
  intro msg_item found
  have entry : start.masks.msg_bt_mask.ptr.find? (begins 0) = some (diag_create_msg_mask_table_entry 0 120) := by decide +kernel
  obtain rfl : diag_create_msg_mask_table_entry 0 120 = msg_item := Option.some.inj (entry.symm.trans found)
  decide

/-- A GET of the build-time masks of SSIDs 0 to 200. -/
def get_201 : Request := place [0x7d,2,0,0,200,0] (fun _ => 0)

/-- It is handed 200 words for 201 SSIDs, and the response reads the word behind
    them. -/
theorem build_mask_201 :
    handle_extended_message_configuration ⟨fun _ => 0,fun _ => 0,fun _ => 0,fun _ _ => 0⟩ 0 get_201 6 start =
        .error .outOfBounds ∧
      ¬ SizesAgree ⟨fun _ => 0,fun _ => 0,fun _ => 0,fun _ _ => 0⟩ 0 get_201 start := by
  have faults : handle_extended_message_configuration ⟨fun _ => 0,fun _ => 0,fun _ => 0,fun _ _ => 0⟩ 0 get_201 6 start =
      .error .outOfBounds := by decide +kernel
  refine ⟨faults,fun agree => ?_⟩
  have given : (fun found : Option (DiagSsidRange × List UInt32) => found.isSome) <$>
      diag_cmd_get_build_mask start.masks (range_at get_201 2) = .ok true := by decide +kernel
  obtain ⟨found,got,present⟩ := map_eq_ok.mp given
  obtain ⟨⟨range,words⟩,rfl⟩ := Option.isSome_iff_exists.mp present
  obtain ⟨_,_,answered⟩ := agree range words got
  rw [faults] at answered
  cases answered

end DiagRouter.BuildMask

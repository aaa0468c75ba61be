import DiagRouter.ErrorAnswers
import DiagRouter.LogMaskStore

/-!
# Answers to a SET of a log mask

The sizes of the request, of the response, of what is stored and of what is
copied into the response all come from a 32-bit item count. They fit together
unless the count wraps, but the response is as long as the request asks for and
not as long as what is stored, and it always says SUCCESS.
-/
namespace DiagRouter.LogMaskAnswers
open DiagRouter.Lib.Memory DiagRouter.Lib.Words DiagRouter.Lib.Runs DiagRouter.Masks DiagRouter.LogMaskTable
open DiagRouter.Peripherals DiagRouter.Dispatch DiagRouter.Handlers DiagRouter.MaskRuns DiagRouter.Responses
open DiagRouter.ErrorAnswers (answered_message one_client no_junk)
open DiagRouter.MaskBroadcast (RouterOp router_step start set_log_mask_get)
open DiagRouter.LogMaskStore (room_of_built log_item_found)
open DiagRouter.Clients (DiagClient dm_send)

/-! ## Log masks along a run -/

theorem log_built_reached {ops : List RouterOp} {router : Router} (reached : exec router_step start ops = .ok router) :
    LogBuilt router.masks.log_mask.ptr := by
  refine exec_invariant (I := fun router => LogBuilt router.masks.log_mask.ptr) ?_ logBuilt_init reached
  intro router op after built step
  cases op with
  | elsewhere diag_cmds diag_ids peripherals diag_clients =>
    cases step
    exact built
  | request junk client buf len => exact (handle_command_changes step).log_built built

theorem get_log_mask_ends {masks : MaskTables} (built : LogBuilt masks.log_mask.ptr) (equip_id : UInt32) :
    ∃ found, diag_cmd_get_log_mask masks equip_id = .ok found := by
  unfold diag_cmd_get_log_mask
  cases hit : masks.log_mask.ptr.find? (fun log_item => log_item.equip_id.toUInt32 = equip_id) with
  | none => exact ⟨_,rfl⟩
  | some log_item =>
    have sized := built.sized log_item (List.mem_of_find?_eq_some hit)
    have few := sized.items
    have room : BITS_TO_BYTES32 log_item.num_items_tools ≤ log_item.ptr.length := by
      rw [sized.ptr]
      unfold MAX_ITEMS_ALLOWED at few
      unfold BITS_TO_BYTES32 MAX_ITEMS_PER_EQUIP_ID
      omega
    have loaded : load log_item.ptr (BITS_TO_BYTES32 log_item.num_items_tools) = .ok _ := load_ok_iff.mpr ⟨room,rfl⟩
    dsimp only
    rw [loaded]
    exact ⟨_,rfl⟩

/-- A broadcast of a built table ends well, whatever the id. -/
theorem broadcast_log_mask_ends {masks : MaskTables} (built : LogBuilt masks.log_mask.ptr) (equip_id : UInt32)
    (peripherals : List Peripheral) : ∃ told, peripheral_broadcast_log_mask masks equip_id peripherals = .ok told := by
  induction peripherals with
  | nil => exact ⟨_,rfl⟩
  | cons p rest ih =>
    obtain ⟨later,told⟩ := ih
    obtain ⟨found,got⟩ := get_log_mask_ends built equip_id
    obtain ⟨first,sent⟩ : ∃ first, diag_cntl_send_log_mask masks p equip_id = .ok first := by
      unfold diag_cntl_send_log_mask
      dsimp only
      split_ifs
      · exact ⟨_,rfl⟩
      · rw [got]
        exact ⟨_,rfl⟩
      · exact ⟨_,rfl⟩
    rw [peripheral_broadcast_log_mask,sent,ok_bind,told]
    exact ⟨_,rfl⟩

/-! ## The response -/

/-- Three parts are stored into the response, the middle one last. -/
theorem stores_response {block header status body : List UInt8} (first : header.length = 8) (second : status.length = 4)
    (room : 12 + body.length ≤ block.length) :
    (store block 0 header >>= fun resp => store resp 12 body >>= fun resp => store resp 8 status) =
      .ok (header ++ status ++ body ++ block.drop (12 + body.length)) := by
  obtain ⟨a,b,c,rest,rfl,eight,four,same⟩ : ∃ a b c rest, block = a ++ b ++ c ++ rest ∧ a.length = 8 ∧ b.length = 4 ∧
      c.length = body.length := by
    refine ⟨block.take 8,(block.drop 8).take 4,(block.drop 12).take body.length,block.drop (12 + body.length),?_,?_,?_,?_⟩
    · rw [List.append_assoc,List.append_assoc,← List.drop_drop,List.take_append_drop]
      rw [show block.drop 12 = (block.drop 8).drop 4 by rw [List.drop_drop],List.take_append_drop,List.take_append_drop]
    all_goals simp only [List.length_take,List.length_drop]; omega
  have begun : store (a ++ b ++ c ++ rest) 0 header = .ok (header ++ b ++ c ++ rest) := by
    have written := @store_over _ [] a header (b ++ (c ++ rest)) (by omega)
    simpa only [List.length_nil,List.nil_append,List.append_assoc] using written
  have filled : store (header ++ b ++ c ++ rest) 12 body = .ok (header ++ b ++ body ++ rest) := by
    have written := @store_over _ (header ++ b) c body rest same.symm
    rwa [List.length_append,first,four] at written
  have status_stored : store (header ++ b ++ body ++ rest) 8 status = .ok (header ++ status ++ body ++ rest) := by
    have written := @store_over _ header b status (body ++ rest) (by omega)
    rw [first] at written
    simpa only [List.append_assoc] using written
  have left : (a ++ b ++ c ++ rest).drop (12 + body.length) = rest :=
    List.drop_left' (by simp only [List.length_append]; omega)
  rw [begun,ok_bind,filled,ok_bind,status_stored,left]

/-- What a SET of a log mask is answered with: of the header with its mask only
    as many bytes as the mask has, and then what the allocation held. -/
def set_answer (junk : Junk) (buf : Request) (num_items copied : Nat) : List UInt8 :=
  span buf 0 8 ++ le32 DIAG_CMD_STATUS_SUCCESS ++ span (mask_to_set buf num_items) 0 copied ++
    (span junk.resp 0 (20 + (8 + BITS_TO_BYTES32 (le32At buf 12).toNat))).drop (12 + copied)

theorem set_answer_length (junk : Junk) (buf : Request) (num_items : Nat) {copied : Nat}
    (room : copied ≤ 16 + BITS_TO_BYTES32 (le32At buf 12).toNat) :
    (set_answer junk buf num_items copied).length = 28 + BITS_TO_BYTES32 (le32At buf 12).toNat := by
  simp only [set_answer,List.length_append,span_length,le32_length,List.length_drop]
  omega

section
variable {junk : Junk} {client : Nat} {buf : Request} {len : Nat} {router after : Router}

/-- What the tables hand back for the item count and the size. -/
def handed (buf : Request) (found : Option (Nat × Nat)) : Nat × Nat :=
  found.getD ((le32At buf 12).toNat,8 + BITS_TO_BYTES32 (le32At buf 12).toNat)

/-- A SET whose copy fits the response is answered. -/
theorem set_log_mask_ran (built : LogBuilt router.masks.log_mask.ptr)
    (whole : len = 8 + (8 + BITS_TO_BYTES32 (le32At buf 12).toNat)) {found : Option (Nat × Nat)} {masks : MaskTables}
    (set : diag_cmd_set_log_mask junk.bytes router.masks (le32At buf 8).toUInt8 (le32At buf 12).toNat (fun i => buf (16 + i)) =
      .ok (found,masks)) (room : (handed buf found).2 ≤ 16 + BITS_TO_BYTES32 (le32At buf 12).toNat) :
    ∃ peripherals, set_log_mask junk client buf len router =
      .ok (0,send { router with masks := masks, peripherals := peripherals } client
        (set_answer junk buf (handed buf found).1 (handed buf found).2)) := by
  have answer := @stores_response (span junk.resp 0 (20 + (8 + BITS_TO_BYTES32 (le32At buf 12).toNat))) (span buf 0 8)
    (le32 DIAG_CMD_STATUS_SUCCESS) (span (mask_to_set buf (handed buf found).1) 0 (handed buf found).2) (by simp) rfl
    (by rw [span_length,span_length]; omega)
  rw [span_length _ 0 (handed buf found).2] at answer
  obtain ⟨header,begun,more⟩ := bind_eq_ok.mp answer
  obtain ⟨filled,copied,status⟩ := bind_eq_ok.mp more
  obtain ⟨peripherals,sent⟩ := broadcast_log_mask_ends (set_log_mask_built built set)
    (le32At (place (set_answer junk buf (handed buf found).1 (handed buf found).2) (fun _ => 0)) 12) router.peripherals
  refine ⟨peripherals,?_⟩
  change store filled 8 _ = .ok (set_answer junk buf (handed buf found).1 (handed buf found).2) at status
  simp only [handed] at copied
  simp only [set_log_mask,ne_eq,whole.symm,not_true_eq_false,if_false,set,ok_bind,begun,copied,status,sent]
  rfl

/-- What SET makes of a built table: an id that no entry has changes nothing, and
    any other gets the capped count and the bytes it stands for. -/
theorem set_log_mask_handed (built : LogBuilt router.masks.log_mask.ptr) (junk : Nat → UInt8) (buf : Request) (mask : Nat → UInt8) :
    ∃ found masks, diag_cmd_set_log_mask junk router.masks (le32At buf 8).toUInt8 (le32At buf 12).toNat mask = .ok (found,masks) ∧
      (found = none ∧ masks = router.masks ∨
        found = some (kept_items (le32At buf 12).toNat,kept_bytes (le32At buf 12).toNat)) := by
  rcases set_log_mask_cases junk (le32At buf 8).toUInt8 (le32At buf 12).toNat mask (room_of_built built) with
    ⟨_,missed⟩ | ⟨_,_,_,_,_,_,_,_,stored⟩
  · exact ⟨none,router.masks,missed,.inl ⟨rfl,rfl⟩⟩
  · exact ⟨_,_,stored,.inr rfl⟩

/-- Unless the item count wraps, what is copied fits. -/
theorem handed_fits (small : (le32At buf 12).toNat + 7 < 4294967296) {found : Option (Nat × Nat)}
    (back : found = none ∨ found = some (kept_items (le32At buf 12).toNat,kept_bytes (le32At buf 12).toNat)) :
    (handed buf found).2 ≤ 8 + BITS_TO_BYTES32 (le32At buf 12).toNat := by
  rcases back with rfl | rfl
  · exact Nat.le_refl _
  · have kept := kept_bytes_le_of_lt small
    rw [handed,Option.getD_some]
    omega

/-! ## Sizes -/

/-- The request has passed the check of its length. -/
def Accepted (junk : Junk) (client len : Nat) (buf : Request) (router : Router) : Prop :=
  handle_logging_configuration junk client buf len router ≠ .ok (-EMSGSIZE,router)

/-- The mask field of the request is what its item count stands for, nothing
    behind it is looked at, and the response has room for what is copied. -/
structure SizesFit (junk : Junk) (client len : Nat) (buf : Request) (router : Router) : Prop where
  length : len = 16 + BITS_TO_BYTES (le32At buf 12).toNat
  reads : ∀ mask : Nat → UInt8, (∀ i, i < len - 16 → mask i = buf (16 + i)) →
    diag_cmd_set_log_mask junk.bytes router.masks (le32At buf 8).toUInt8 (le32At buf 12).toNat mask =
      diag_cmd_set_log_mask junk.bytes router.masks (le32At buf 8).toUInt8 (le32At buf 12).toNat (fun i => buf (16 + i))
  copies : ∃ found masks, diag_cmd_set_log_mask junk.bytes router.masks (le32At buf 8).toUInt8 (le32At buf 12).toNat
      (fun i => buf (16 + i)) = .ok (found,masks) ∧
    12 + (handed buf found).2 ≤ 20 + (8 + BITS_TO_BYTES32 (le32At buf 12).toNat)
  ends : ∃ after, handle_logging_configuration junk client buf len router = .ok (0,after)

theorem accepted_iff (operation : le32At buf 4 = 3) :
    Accepted junk client len buf router ↔ len = 8 + (8 + BITS_TO_BYTES32 (le32At buf 12).toNat) := by
  rw [Accepted,handle_logging_configuration,operation]
  change set_log_mask junk client buf len router ≠ _ ↔ _
  by_cases whole : len = 8 + (8 + BITS_TO_BYTES32 (le32At buf 12).toNat)
  · refine ⟨fun _ => whole,fun _ ran => ?_⟩
    simp only [set_log_mask,ne_eq,whole.symm,not_true_eq_false,if_false] at ran
    obtain ⟨_,_,ran⟩ := bind_eq_ok.mp ran
    obtain ⟨_,_,ran⟩ := bind_eq_ok.mp ran
    obtain ⟨_,_,ran⟩ := bind_eq_ok.mp ran
    obtain ⟨_,_,ran⟩ := bind_eq_ok.mp ran
    obtain ⟨_,_,ran⟩ := bind_eq_ok.mp ran
    have code : (0 : Int) = -EMSGSIZE := congrArg Prod.fst (Except.ok.inj ran)
    exact absurd code (by decide)
  · refine ⟨fun accepted => absurd ?_ accepted,fun same => absurd same whole⟩
    simp only [set_log_mask,ne_eq,whole,not_false_eq_true,if_true]

theorem sizes_fit (built : LogBuilt router.masks.log_mask.ptr) (operation : le32At buf 4 = 3)
    (whole : len = 8 + (8 + BITS_TO_BYTES32 (le32At buf 12).toNat)) (small : (le32At buf 12).toNat + 7 < 4294967296) :
    SizesFit junk client len buf router := by
  have unbounded : BITS_TO_BYTES32 (le32At buf 12).toNat = BITS_TO_BYTES (le32At buf 12).toNat := by
    unfold BITS_TO_BYTES32 BITS_TO_BYTES
    omega
  obtain ⟨found,masks,set,back⟩ := set_log_mask_handed built junk.bytes buf (fun i => buf (16 + i))
  have fits := handed_fits small (back.imp_left And.left)
  refine ⟨by omega,?_,⟨found,masks,set,by omega⟩,?_⟩
  · intro mask same
    have loop := set_log_loop_congr junk.bytes (le32At buf 8).toUInt8 router.masks.log_mask.ptr
      (fun _ i (below : i < kept_bytes (le32At buf 12).toNat) => same i (by have := kept_bytes_le_of_lt small; omega))
    rw [diag_cmd_set_log_mask,diag_cmd_set_log_mask,loop]
  · obtain ⟨peripherals,ran⟩ := @set_log_mask_ran junk client buf len router built whole found masks set (by omega)
    rw [handle_logging_configuration,operation]
    exact ⟨_,ran⟩

end

/-- In every state that client messages reach, the sizes of an accepted SET of a
    log mask fit together exactly when its item count does not wrap, or its
    length is not the one of an empty mask. -/
theorem set_log_mask_sizes_iff {ops : List RouterOp} {router : Router} (reached : exec router_step start ops = .ok router)
    (junk : Junk) (client : Nat) {buf : Request} (len : Nat) (operation : le32At buf 4 = 3) :
    (Accepted junk client len buf router → SizesFit junk client len buf router) ↔
      ((le32At buf 12).toNat + 7 < 4294967296 ∨ len ≠ 16) := by
  rw [accepted_iff operation]
  constructor
  · intro fit
    by_contra wraps
    rw [not_or,not_not] at wraps
    obtain ⟨large,sixteen⟩ := wraps
    have bound := (le32At buf 12).toNat_lt
    have none : BITS_TO_BYTES32 (le32At buf 12).toNat = 0 := by
      unfold BITS_TO_BYTES32
      omega
    have length := (fit (by omega)).length
    unfold BITS_TO_BYTES at length
    omega
  · intro small whole
    refine sizes_fit (log_built_reached reached) operation whole ?_
    by_contra large
    have bound := (le32At buf 12).toNat_lt
    have none : BITS_TO_BYTES32 (le32At buf 12).toNat = 0 := by
      unfold BITS_TO_BYTES32
      omega
    omega

/-- A SET of eight items of equipment id 1. -/
def set_eight : Request := place [0x73,0,0,0,3,0,0,0,1,0,0,0,8,0,0,0,0xff] (fun _ => 0)

theorem set_log_mask_sizes_iff_eight :
    (Accepted no_junk 0 17 set_eight one_client → SizesFit no_junk 0 17 set_eight one_client) ↔
      ((le32At set_eight 12).toNat + 7 < 4294967296 ∨ 17 ≠ 16) :=
  @set_log_mask_sizes_iff [.elsewhere [] [] [] [⟨.RAW,true,[]⟩]] one_client rfl no_junk 0 set_eight 17 rfl

/-- A SET of 0xffffffff items of equipment id 1, and no mask. -/
def set_wrapping : Request := place [0x73,0,0,0,3,0,0,0,1,0,0,0,0xff,0xff,0xff,0xff] (fun _ => 0)

/-- It is accepted, and 512 bytes are copied into a response of 28. -/
theorem set_wrapping_overflows :
    exec router_step start [.elsewhere [] [] [] [⟨.RAW,true,[]⟩]] = .ok one_client ∧ le32At set_wrapping 4 = 3 ∧
      handle_logging_configuration no_junk 0 set_wrapping 16 one_client = .error .outOfBounds ∧
      ¬ (Accepted no_junk 0 16 set_wrapping one_client → SizesFit no_junk 0 16 set_wrapping one_client) := by
  have accepted : Accepted no_junk 0 16 set_wrapping one_client := (accepted_iff rfl).mpr (by decide)
  refine ⟨rfl,rfl,?_,?_⟩
  · decide +kernel
  · intro fit
    exact absurd (fit accepted).length (by decide)

/-! ## What the client is told -/

/-- The message a client has been answered with is new on its queue. -/
def Gets (router : Router) (client : Nat) (msg : List UInt8) (after : Router) : Prop :=
  ∃ dm, router.diag_clients[client]? = some dm ∧
    outqs after = (outqs router).set client (dm.outq ++ [encoded dm.encode_type msg])

section
variable {junk : Junk} {client : Nat} {buf : Request} {len : Nat} {router after : Router}

/-- A client gets the one message that was sent to it. -/
theorem Gets.answered {msg other : List UInt8} (gets : Gets router client msg after)
    (answered : Answered router client other after) : msg = other := by
  obtain ⟨dm,present,queued⟩ := gets
  by_cases enabled : dm.enabled = true
  · exact (answered_message present enabled answered queued).symm
  · have inside : client < (outqs router).length := by
      rw [outqs,List.length_map]
      exact (List.getElem?_eq_some_iff.mp present).1
    have idle : (send router client other).diag_clients = router.diag_clients := by
      apply List.ext_getElem?
      intro k
      rw [send,List.getElem?_modify]
      by_cases own : client = k
      · subst own
        simp [present,dm_send,enabled]
      · simp [own]
    have queues : outqs (send router client other) = outqs router := congrArg (List.map DiagClient.outq) idle
    have cells := congrArg (fun queues => queues[client]?) ((answered.trans queues).symm.trans queued)
    simp only [List.getElem?_set_self inside] at cells
    rw [outqs,List.getElem?_map,present] at cells
    simp at cells

/-- A SET whose copy fits the response is answered, and leaves the tables that
    SET has made. -/
theorem set_log_mask_answered (built : LogBuilt router.masks.log_mask.ptr) (asked : IsSetLogMask len buf)
    {found : Option (Nat × Nat)} {masks : MaskTables}
    (set : diag_cmd_set_log_mask junk.bytes router.masks (le32At buf 8).toUInt8 (le32At buf 12).toNat (fun i => buf (16 + i)) =
      .ok (found,masks)) (room : (handed buf found).2 ≤ 16 + BITS_TO_BYTES32 (le32At buf 12).toNat) :
    ∃ after, diag_client_handle_command junk client buf len router = .ok after ∧ after.masks = masks ∧
      Answered router client (set_answer junk buf (handed buf found).1 (handed buf found).2) after := by
  obtain ⟨command,operation,whole⟩ := asked
  obtain ⟨peripherals,ran⟩ := @set_log_mask_ran junk client buf len router built whole found masks set room
  refine ⟨send { router with masks := masks, peripherals := peripherals } client _,handle_command_success ?_,rfl,rfl⟩
  rw [logging_dispatch junk client len router command,handle_logging_configuration,operation]
  exact ran

/-! ## What was stored -/

/-- The response describes what was stored: the id, the count and the bytes that
    the table has for it, as a GET of the id that follows would. -/
def Describes (junk : Junk) (client len : Nat) (buf : Request) (router : Router) : Prop :=
  ∃ after mask resp, diag_client_handle_command junk client buf len router = .ok after ∧
    diag_cmd_get_log_mask after.masks (le32At buf 8) = .ok (some (min (le32At buf 12).toNat 0xFFF,mask)) ∧
    Gets router client resp after ∧
    resp.drop 12 = le32 (le32At buf 8) ++ le32 (UInt32.ofNat (min (le32At buf 12).toNat 0xFFF)) ++ mask ∧
    resp.length = 20 + BITS_TO_BYTES (min (le32At buf 12).toNat 0xFFF) ∧
    ∀ get later body, get 0 = 0x73 → le32At get 4 = 4 → le32At get 8 = le32At buf 8 →
      diag_client_handle_command junk client get 12 after = .ok later → Gets after client body later →
      body.drop 12 = resp.drop 12

/-- A SET of a known id copies as many bytes as it stores. -/
theorem set_log_mask_response (built : LogBuilt router.masks.log_mask.ptr) (asked : IsSetLogMask len buf)
    (known : (le32At buf 8).toNat < 16) (small : (le32At buf 12).toNat + 7 < 4294967296) :
    ∃ after, diag_client_handle_command junk client buf len router = .ok after ∧
      Answered router client
        (set_answer junk buf (min (le32At buf 12).toNat 0xFFF) (BITS_TO_BYTES (min (le32At buf 12).toNat 0xFFF))) after := by
  obtain ⟨masks,set,_,_⟩ := set_log_mask_get junk.bytes (le32At buf 12).toNat (fun i => buf (16 + i)) built known
  have copied := handed_fits small (.inr rfl)
  obtain ⟨after,ran,_,answered⟩ := @set_log_mask_answered junk client buf len router built asked _ masks set (by omega)
  have stored : BITS_TO_BYTES (min (le32At buf 12).toNat 0xFFF) = kept_bytes (le32At buf 12).toNat :=
    (kept_bytes_eq _).symm
  rw [stored]
  exact ⟨after,ran,answered⟩

/-- The response is longer than what was stored by the header at least. -/
theorem response_not_describes (small : (le32At buf 12).toNat + 7 < 4294967296)
    (ran : diag_client_handle_command junk client buf len router = .ok after)
    (answered : Answered router client
      (set_answer junk buf (min (le32At buf 12).toNat 0xFFF) (BITS_TO_BYTES (min (le32At buf 12).toNat 0xFFF))) after) :
    ¬ Describes junk client len buf router := by
  rintro ⟨after',mask,resp,again,_,gets,_,length,_⟩
  cases ran.symm.trans again
  obtain rfl := gets.answered answered
  have fewer : BITS_TO_BYTES (min (le32At buf 12).toNat 0xFFF) ≤ BITS_TO_BYTES32 (le32At buf 12).toNat := by
    unfold BITS_TO_BYTES BITS_TO_BYTES32
    omega
  rw [set_answer_length junk buf _ (by omega)] at length
  omega

end

/-- In every state that client messages reach, the response to a SET of a known
    id has of the header and the stored bytes together only as many as were
    stored, and then uninitialised memory, and never describes what was stored. -/
theorem set_log_mask_never_describes {ops : List RouterOp} {router : Router}
    (reached : exec router_step start ops = .ok router) (junk : Junk) (client : Nat) {buf : Request} {len : Nat}
    (asked : IsSetLogMask len buf) (known : (le32At buf 8).toNat < 16) (small : (le32At buf 12).toNat ≤ 0xFFFFFFF8) :
    ∃ after, diag_client_handle_command junk client buf len router = .ok after ∧
      Answered router client
        (set_answer junk buf (min (le32At buf 12).toNat 0xFFF) (BITS_TO_BYTES (min (le32At buf 12).toNat 0xFFF))) after ∧
      ¬ Describes junk client len buf router := by
  have fits : (le32At buf 12).toNat + 7 < 4294967296 := by omega
  obtain ⟨after,ran,answered⟩ := set_log_mask_response (log_built_reached reached) asked known fits
  exact ⟨after,ran,answered,response_not_describes fits ran answered⟩

theorem set_log_mask_never_describes_eight :
    ∃ after, diag_client_handle_command no_junk 0 set_eight 17 one_client = .ok after ∧
      Answered one_client 0
        (set_answer no_junk set_eight (min (le32At set_eight 12).toNat 0xFFF)
          (BITS_TO_BYTES (min (le32At set_eight 12).toNat 0xFFF))) after ∧
      ¬ Describes no_junk 0 17 set_eight one_client :=
  @set_log_mask_never_describes [.elsewhere [] [] [] [⟨.RAW,true,[]⟩]] one_client rfl no_junk 0 set_eight 17
    ⟨rfl,rfl,by decide⟩ (by decide) (by decide)

/-- One byte was stored, and 21 would describe it: the client gets 29, of which 13
    were written. -/
theorem set_eight_undescribed :
    exec router_step start [.elsewhere [] [] [] [⟨.RAW,true,[]⟩]] = .ok one_client ∧
      outqs <$> diag_client_handle_command no_junk 0 set_eight 17 one_client =
        .ok [[[0x73,0,0,0,3,0,0,0,0,0,0,0,1] ++ List.replicate 16 0]] ∧
      ¬ Describes no_junk 0 17 set_eight one_client := by
  obtain ⟨after,ran,answered⟩ := @set_log_mask_response no_junk 0 set_eight 17 one_client logBuilt_init
    ⟨rfl,rfl,by decide⟩ (by decide) (by decide)
  refine ⟨rfl,?_,response_not_describes (by decide) ran answered⟩
  rw [ran]
  exact congrArg Except.ok (answered.trans (by decide))

/-! ## Unknown ids -/

/-- A SET that is refused: the log masks stay, and the status is not SUCCESS. -/
def Refuses (junk : Junk) (client len : Nat) (buf : Request) (router : Router) : Prop :=
  ∃ after resp, diag_client_handle_command junk client buf len router = .ok after ∧
    after.masks.log_mask = router.masks.log_mask ∧ Gets router client resp after ∧
    le32At (place resp (fun _ => 0)) 8 ≠ DIAG_CMD_STATUS_SUCCESS

/-- GET says which ids are unknown. -/
def GetRefuses (router : Router) : Prop :=
  ∀ junk client get, get 0 = 0x73 → le32At get 4 = 4 → ∃ after resp,
    diag_client_handle_command junk client get 12 router = .ok after ∧ Answered router client resp after ∧
    (le32At (place resp (fun _ => 0)) 8 = DIAG_CMD_STATUS_INVALID_EQUIPMENT_ID ↔ 16 ≤ (le32At get 8).toNat)

section
variable {junk : Junk} {client : Nat} {buf : Request} {len : Nat} {router after : Router}

theorem get_log_mask_none_iff {masks : MaskTables} (built : LogBuilt masks.log_mask.ptr) (equip_id : UInt32) :
    diag_cmd_get_log_mask masks equip_id = .ok none ↔ 16 ≤ equip_id.toNat := by
  constructor
  · intro missed
    by_contra known
    obtain ⟨log_item,found⟩ := log_item_found built (show equip_id.toNat < MAX_EQUIP_ID by unfold MAX_EQUIP_ID; omega)
    rw [diag_cmd_get_log_mask,found] at missed
    obtain ⟨mask,_,same⟩ := bind_eq_ok.mp missed
    exact absurd (Except.ok.inj same) (by simp)
  · intro unknown
    have missing : masks.log_mask.ptr.find? (fun log_item => log_item.equip_id.toUInt32 = equip_id) = none := by
      rw [List.find?_eq_none]
      intro log_item member hit
      have listed : log_item.equip_id ∈ (List.range MAX_EQUIP_ID).map UInt8.ofNat :=
        built.ids ▸ List.mem_map_of_mem member
      obtain ⟨row,below,same⟩ := List.mem_map.mp listed
      have small := List.mem_range.mp below
      have word := congrArg UInt32.toNat (of_decide_eq_true hit)
      rw [← same,UInt8.toNat_toUInt32,UInt8.toNat_ofNat'] at word
      unfold MAX_EQUIP_ID at small
      omega
    rw [diag_cmd_get_log_mask,missing]

theorem get_log_mask_refuses (built : LogBuilt router.masks.log_mask.ptr) : GetRefuses router := by
  intro junk client get command operation
  obtain ⟨found,got⟩ := get_log_mask_ends built (le32At get 8)
  obtain ⟨peripherals,sent⟩ := broadcast_log_mask_ends built (le32At get 8) router.peripherals
  let status := if found = none then DIAG_CMD_STATUS_INVALID_EQUIPMENT_ID else DIAG_CMD_STATUS_SUCCESS
  let resp := span get 0 8 ++ le32 status ++ le32 (le32At get 8) ++ le32 (UInt32.ofNat (found.getD (0,[])).1) ++
    (found.getD (0,[])).2
  refine ⟨send { router with peripherals := peripherals } client resp,resp,handle_command_success ?_,rfl,?_⟩
  · rw [logging_dispatch junk client 12 router command,handle_logging_configuration,operation]
    change get_log_mask client get 12 router = _
    simp only [get_log_mask,ne_eq,not_true_eq_false,if_false,got,ok_bind,sent]
    rfl
  · have shown : le32At (place resp (fun _ => 0)) 8 = status := by
      have spelled := le32At_place (span get 0 8)
        (le32 (le32At get 8) ++ le32 (UInt32.ofNat (found.getD (0,[])).1) ++ (found.getD (0,[])).2) status (fun _ => 0)
      simpa only [resp,List.append_assoc,span_length] using spelled
    rw [shown,← get_log_mask_none_iff built,got]
    cases found with
    | none => simp [status]
    | some got => simp [status,DIAG_CMD_STATUS_SUCCESS,DIAG_CMD_STATUS_INVALID_EQUIPMENT_ID]

/-- The response to a SET says SUCCESS, whatever the id. -/
theorem set_log_mask_success (asked : IsSetLogMask len buf)
    (ran : diag_client_handle_command junk client buf len router = .ok after) :
    ∃ resp, Answered router client resp after ∧ le32At (place resp (fun _ => 0)) 8 = DIAG_CMD_STATUS_SUCCESS := by
  obtain ⟨command,operation,whole⟩ := asked
  obtain ⟨ret,mid,dispatched,_⟩ := handle_command_dispatched ran
  have handler : set_log_mask junk client buf len router = .ok (ret,mid) := by
    rw [logging_dispatch junk client len router command,handle_logging_configuration,operation] at dispatched
    exact dispatched
  simp only [set_log_mask,ne_eq,whole.symm,not_true_eq_false,if_false] at handler
  obtain ⟨⟨found,masks⟩,_,handler⟩ := bind_eq_ok.mp handler
  obtain ⟨_,_,handler⟩ := bind_eq_ok.mp handler
  obtain ⟨_,_,handler⟩ := bind_eq_ok.mp handler
  obtain ⟨resp,stored,handler⟩ := bind_eq_ok.mp handler
  obtain ⟨peripherals,_,handler⟩ := bind_eq_ok.mp handler
  cases handler
  rw [handle_command_eq dispatched] at ran
  cases ran
  refine ⟨resp,rfl,log_status ?_⟩
  intro i below
  rw [store_getElem? stored,if_pos ⟨Nat.le_add_right 8 i,by rw [le32_length]; omega⟩,Nat.add_sub_cancel_left]

theorem success_not_refuses (asked : IsSetLogMask len buf) : ¬ Refuses junk client len buf router := by
  rintro ⟨after,resp,ran,_,gets,status⟩
  obtain ⟨told,answered,success⟩ := set_log_mask_success asked ran
  obtain rfl := gets.answered answered
  exact status success

end

/-- In every state that client messages reach, a GET reports the ids from 16 on as
    invalid and no other, and no SET is refused, whatever its id. -/
theorem set_log_mask_never_refused {ops : List RouterOp} {router : Router}
    (reached : exec router_step start ops = .ok router) (junk : Junk) (client : Nat) {buf : Request} {len : Nat}
    (asked : IsSetLogMask len buf) : GetRefuses router ∧ ¬ Refuses junk client len buf router :=
  ⟨get_log_mask_refuses (log_built_reached reached),success_not_refuses asked⟩

/-- A SET of eight items of equipment id 257. -/
def set_257 : Request := place [0x73,0,0,0,3,0,0,0,1,1,0,0,8,0,0,0,0xff] (fun _ => 0)

theorem set_log_mask_never_refused_257 : GetRefuses one_client ∧ ¬ Refuses no_junk 0 17 set_257 one_client :=
  @set_log_mask_never_refused [.elsewhere [] [] [] [⟨.RAW,true,[]⟩]] one_client rfl no_junk 0 set_257 17
    ⟨rfl,rfl,by decide⟩

/-- It replaces what is kept for id 1, and is answered with SUCCESS. -/
theorem set_257_taken :
    exec router_step start [.elsewhere [] [] [] [⟨.RAW,true,[]⟩]] = .ok one_client ∧
      (fun after => diag_cmd_get_log_mask after.masks 1) <$>
        diag_client_handle_command no_junk 0 set_257 17 one_client = .ok (.ok (some (8,[0xff]))) ∧
      ¬ Refuses no_junk 0 17 set_257 one_client :=
  ⟨rfl,by decide +kernel,success_not_refuses ⟨rfl,rfl,by decide⟩⟩

end DiagRouter.LogMaskAnswers

import DiagRouter.MaskBroadcast
import DiagRouter.Responses

/-!
# What a failed request leaves behind

A request that is answered with a failure leaves the mask tables as they were,
unless it is a SET of message masks that is refused after the entry it selects
has been adjusted to it.
-/
namespace DiagRouter.ErrorAnswers
open DiagRouter.Lib.Memory DiagRouter.Lib.Words DiagRouter.Lib.Runs DiagRouter.Lib.Stuffing DiagRouter.Masks
open DiagRouter.MsgMaskTable DiagRouter.Dispatch DiagRouter.Handlers DiagRouter.MaskRuns DiagRouter.Responses
open DiagRouter.Hdlc
open DiagRouter.MsgMaskReadBack (Refused refused_iff)
open DiagRouter.MaskBroadcast (RouterOp router_step start)
open DiagRouter.Clients (DiagClient EncodeType)

/-- The handler rejects the request for its length or its parameters, or the
    client gets a message whose status is one of failure. -/
def Failed (junk : Junk) (client len : Nat) (buf : Request) (router after : Router) : Prop :=
  (∃ ret mid, diag_cmd_dispatch (router_calls junk client buf len) router.diag_cmds buf router = .ok (ret,mid) ∧
    (ret = -EMSGSIZE ∨ ret = -EINVAL)) ∨
  ∃ dm msg, router.diag_clients[client]? = some dm ∧ dm.enabled = true ∧
    outqs after = (outqs router).set client (dm.outq ++ [encoded dm.encode_type msg]) ∧ Failure buf msg

/-- The entry already has the bound and the size that a SET adjusts it to. -/
def Adjusted (range : DiagSsidRange) (msg_item : DiagMsgMask) : Prop :=
  if MAX_SSID_PER_RANGE < num_ssids range then
    msg_item.ssid_last_tools = msg_item.ssid_first + MAX_SSID_PER_RANGE ∧
      msg_item.range_tools = if msg_item.ssid_first + MAX_SSID_PER_RANGE < range.ssid_last.toNat
        then MAX_SSID_PER_RANGE + 1 else MAX_SSID_PER_RANGE
  else msg_item.ssid_last_tools < range.ssid_last.toNat →
    msg_item.range_tools = msg_item.ssid_last_tools - msg_item.ssid_first + 1

/-- A SET of message masks that is refused and adjusts the entry it selects. -/
def Spoils (masks : MaskTables) (len : Nat) (buf : Request) : Prop :=
  IsSetMsgMask len buf ∧ ∃ msg_item ∈ selected (range_at buf 2) masks.msg_mask.ptr,
    Refused (range_at buf 2) msg_item ∧ ¬ Adjusted (range_at buf 2) msg_item

/-! ## What a client gets is one message -/

theorem encoded_injective (type : EncodeType) {msg other : List UInt8} (same : encoded type msg = encoded type other) :
    msg = other := by
  cases type with
  | RAW => exact same
  | HDLC =>
    rw [encoded,encoded,hdlc_encode_eq,hdlc_encode_eq] at same
    have stuffed := congrArg (unstuff 0x7d toggle false) (List.append_cancel_right same)
    rw [unstuff_stuff transparent,unstuff_stuff transparent] at stuffed
    exact (List.append_inj' stuffed rfl).1
  | NHDLC =>
    have inner := List.append_cancel_right same
    exact (List.append_inj inner rfl).2

/-- The message a client is answered with, from what is new on its queue. -/
theorem answered_message {router after : Router} {client : Nat} {dm : DiagClient} {msg other : List UInt8}
    (present : router.diag_clients[client]? = some dm) (enabled : dm.enabled = true) (answered : Answered router client msg after)
    (queued : outqs after = (outqs router).set client (dm.outq ++ [encoded dm.encode_type other])) : msg = other := by
  rw [Answered,outqs_send present enabled] at answered
  have inside : client < (outqs router).length := by
    rw [outqs,List.length_map]
    exact (List.getElem?_eq_some_iff.mp present).1
  have cells := congrArg (fun queues => queues[client]?) (answered.symm.trans queued)
  simp only [List.getElem?_set_self inside,Option.some.injEq,List.append_cancel_left_eq,List.cons.injEq,and_true] at cells
  exact encoded_injective dm.encode_type cells

/-! ## Entries along a run -/

/-- An entry that promises as many words as it reports SSIDs owns exactly those. -/
def Exact (msg_item : DiagMsgMask) : Prop :=
  msg_item.range_tools = msg_item.ssid_last_tools - msg_item.ssid_first + 1 → msg_item.ptr.length = msg_item.range_tools

structure Settled (masks : MaskTables) : Prop where
  built : Built masks.msg_mask.ptr
  sized : ∀ msg_item ∈ masks.msg_mask.ptr, Exact msg_item

theorem settled_init : Settled diag_masks_init := by
  refine ⟨built_init,?_⟩
  have reported : ∀ msg_item ∈ diag_masks_init.msg_mask.ptr,
      msg_item.range_tools ≠ msg_item.ssid_last_tools - msg_item.ssid_first + 1 := by decide
  exact fun msg_item member same => absurd same (reported msg_item member)

theorem resized_exact {table : List DiagMsgMask} (built : Built table) {msg_item : DiagMsgMask} (member : msg_item ∈ table)
    (exact_ : Exact msg_item) (junk : Nat → UInt32) (range : DiagSsidRange) : Exact (resized junk range msg_item) := by
  have low := built.ordered member
  have high := built.high msg_item member
  by_cases many : MAX_SSID_PER_RANGE < num_ssids range
  · by_cases past : msg_item.ssid_first + MAX_SSID_PER_RANGE < range.ssid_last.toNat
    · rw [resized_cut_past many past]
      exact fun _ => resize_length ..
    · rw [resized_cut_within many (by omega)]
      intro same
      dsimp only at same
      omega
  · by_cases past : msg_item.ssid_last_tools < range.ssid_last.toNat
    · rw [resized_past (by omega) past low high]
      exact fun _ => resize_length ..
    · rw [resized_within (by omega) (by omega)]
      exact exact_

theorem Exact.words {msg_item : DiagMsgMask} {ptr : List UInt32} (exact_ : Exact msg_item)
    (same : ptr.length = msg_item.ptr.length) : Exact { msg_item with ptr := ptr } :=
  fun sized => same.trans (exact_ sized)

theorem set_msg_loop_exact {junk mask : Nat → UInt32} {range : DiagSsidRange} {table after : List DiagMsgMask} {ret : Nat}
    (built : Built table) (sized : ∀ msg_item ∈ table, Exact msg_item)
    (set : set_msg_loop junk range mask table = .ok (ret,after)) : ∀ msg_item ∈ after, Exact msg_item := by
  cases found : selected range table with
  | none =>
    rw [set_msg_loop_none junk mask found] at set
    cases set
    exact sized
  | some msg_item =>
    have member := selected_mem found
    have kept := resized_exact built member (sized msg_item member) junk range
    obtain ⟨before,later,rfl,_,loop⟩ := set_msg_loop_some junk mask found
    rw [loop] at set
    obtain ⟨⟨code,item⟩,stored,same⟩ := bind_eq_ok.mp set
    cases same
    obtain ⟨ptr,length,rfl⟩ := set_msg_item_frame stored
    exact forall_replaced sized (kept.words length)

theorem set_all_items_exact {mask : UInt32} {table after : List DiagMsgMask} (sized : ∀ msg_item ∈ table, Exact msg_item)
    (set : set_all_items mask table = .ok after) : ∀ msg_item ∈ after, Exact msg_item := by
  have frame := set_all_items_frame set
  clear set
  induction frame with
  | nil => exact sized
  | cons same _ ih =>
    rw [List.forall_mem_cons] at sized ⊢
    refine ⟨?_,ih sized.2⟩
    rw [same.2]
    exact sized.1.words same.1

theorem MaskChange.settled {junk : Junk} {len : Nat} {buf : Request} {masks after : MaskTables} (settled : Settled masks)
    (change : MaskChange junk len buf masks after) : Settled after := by
  obtain ⟨built,sized⟩ := settled
  rcases change.msg_cases.2 with same | ⟨_,ret,loop⟩ | ⟨mask,filled⟩
  · exact ⟨same ▸ built,same ▸ sized⟩
  · exact ⟨set_msg_loop_built built loop,set_msg_loop_exact built sized loop⟩
  · exact ⟨set_all_items_built built filled,set_all_items_exact sized filled⟩

theorem router_step_settled {router after : Router} {op : RouterOp} (settled : Settled router.masks)
    (step : router_step router op = .ok after) : Settled after.masks := by
  cases op with
  | elsewhere diag_cmds diag_ids peripherals diag_clients =>
    cases step
    exact settled
  | request junk client buf len => exact MaskChange.settled settled (handle_command_changes step)

/-! ## A refused SET -/

/-- Of the entries a SET is refused by, it leaves alone those it needs not
    adjust. -/
theorem resized_same_iff {table : List DiagMsgMask} (built : Built table) {msg_item : DiagMsgMask} (member : msg_item ∈ table)
    (sized : Exact msg_item) {range : DiagSsidRange} (refused : Refused range msg_item) (junk : Nat → UInt32) :
    resized junk range msg_item = msg_item ↔ Adjusted range msg_item := by
  have low := built.ordered member
  have high := built.high msg_item member
  have whole : ∀ {count : Nat}, msg_item.ptr.length = count → resize msg_item.ptr count junk = msg_item.ptr := by
    rintro count rfl
    simp [resize]
  by_cases many : MAX_SSID_PER_RANGE < num_ssids range
  · rw [Adjusted,if_pos many]
    by_cases past : msg_item.ssid_first + MAX_SSID_PER_RANGE < range.ssid_last.toNat
    · rw [if_pos past,resized_cut_past many past]
      constructor
      · intro same
        exact ⟨(congrArg DiagMsgMask.ssid_last_tools same).symm,(congrArg DiagMsgMask.range_tools same).symm⟩
      · rintro ⟨last,size⟩
        have words := sized (by omega)
        rw [whole (words.trans size),← last,← size]
    · rw [if_neg past,resized_cut_within many (by omega)]
      constructor
      · intro same
        exact ⟨(congrArg DiagMsgMask.ssid_last_tools same).symm,(congrArg DiagMsgMask.range_tools same).symm⟩
      · rintro ⟨last,size⟩
        rw [← last,← size]
  · rw [Refused,if_neg many] at refused
    rw [Adjusted,if_neg many]
    by_cases past : msg_item.ssid_last_tools < range.ssid_last.toNat
    · rw [if_pos past] at refused
      rw [resized_past (by omega) past low high]
      simp only [extendedLast,if_pos refused]
      constructor
      · intro same _
        exact (congrArg DiagMsgMask.range_tools same).symm
      · intro exact_
        have size := exact_ past
        rw [whole ((sized size).trans size),← size]
    · rw [resized_within (by omega) (by omega)]
      exact ⟨fun _ reached => absurd reached past,fun _ => rfl⟩

/-- A SET that is refused leaves the tables as they were exactly when it adjusts
    no entry. -/
theorem set_refused_iff {junk mask : Nat → UInt32} {masks after : MaskTables} {range : DiagSsidRange} {ret : Nat}
    (settled : Settled masks) (set : diag_cmd_set_msg_mask junk masks range mask = .ok (ret,after)) :
    (ret ≠ 0 ∧ after ≠ masks) ↔
      ∃ msg_item ∈ selected range masks.msg_mask.ptr, Refused range msg_item ∧ ¬ Adjusted range msg_item := by
  obtain ⟨built,sized⟩ := settled
  obtain ⟨items,loop,rfl⟩ := set_msg_mask_ok_iff.mp set
  have table : ret ≠ 0 → (({ masks with msg_mask := { masks.msg_mask with
      ptr := items, status := if ret = 0 then DIAG_CTRL_MASK_VALID else masks.msg_mask.status } } : MaskTables) = masks ↔
        items = masks.msg_mask.ptr) := by
    intro failed
    rw [if_neg failed]
    constructor
    · intro same
      exact congrArg (fun masks => masks.msg_mask.ptr) same
    · rintro rfl
      rfl
  cases found : selected range masks.msg_mask.ptr with
  | none =>
    rw [set_msg_loop_none junk mask found] at loop
    cases loop
    rw [ne_eq _ masks,table (by decide)]
    simp
  | some msg_item =>
    have member := selected_mem found
    obtain ⟨before,later,split,hit,ran⟩ := set_msg_loop_some junk mask found
    obtain ⟨first,_,_⟩ := not_skips hit
    rw [ran] at loop
    obtain ⟨⟨code,item⟩,stored,same⟩ := bind_eq_ok.mp loop
    cases same
    rw [set_msg_item_eq] at stored
    dsimp only at stored
    rw [resized_offset junk first] at stored
    split_ifs at stored with outside
    · have refused := (refused_iff junk built member first).mpr outside
      cases stored
      rw [ne_eq _ masks,table Nat.one_ne_zero,split,List.append_cancel_left_eq,List.cons.injEq]
      simp only [and_true,resized_same_iff built member (sized msg_item member) refused junk]
      simp [refused]
    · have taken : ¬ Refused range msg_item := fun refused => outside ((refused_iff junk built member first).mp refused)
      obtain ⟨ptr,_,same⟩ := bind_eq_ok.mp stored
      cases same
      simp [taken]

/-! ## Requests -/

section
variable {junk : Junk} {client : Nat} {buf : Request} {len : Nat} {router after : Router}

/-- A SET of message masks of the right length is dispatched to its handler. -/
theorem set_msg_mask_ran (asked : IsSetMsgMask len buf)
    (ran : diag_client_handle_command junk client buf len router = .ok after) :
    ∃ code msg, diag_cmd_set_msg_mask junk.words router.masks (range_at buf 2) (request_words buf) = .ok (code,after.masks) ∧
      Answered router client msg after ∧ (Failure buf msg ↔ code ≠ 0) := by
  obtain ⟨ret,mid,dispatched,_⟩ := handle_command_dispatched ran
  have handler : set_msg_mask junk client buf len router = .ok (ret,mid) := by
    rw [message_dispatch junk client len router asked.1,handle_extended_message_configuration,asked.2.1] at dispatched
    exact dispatched
  obtain ⟨code,msg,set,rfl,answered,tells⟩ := set_msg_mask_answers asked handler
  rw [handle_command_eq dispatched] at ran
  cases ran
  exact ⟨code,msg,set,answered,tells⟩

/-- An enabled client whose SET spoils its entry gets a failure, and the tables
    have changed. -/
theorem spoiled (settled : Settled router.masks) {dm : DiagClient} (present : router.diag_clients[client]? = some dm)
    (enabled : dm.enabled = true) (spoils : Spoils router.masks len buf)
    (ran : diag_client_handle_command junk client buf len router = .ok after) :
    Failed junk client len buf router after ∧ after.masks ≠ router.masks := by
  obtain ⟨asked,adjusts⟩ := spoils
  obtain ⟨code,msg,set,answered,tells⟩ := set_msg_mask_ran asked ran
  obtain ⟨failed,changed⟩ := (set_refused_iff settled set).mpr adjusts
  exact ⟨.inr ⟨dm,msg,present,enabled,answered.trans (outqs_send present enabled msg),tells.mpr failed⟩,changed⟩

/-- Any other request that fails leaves the tables alone. -/
theorem failed_same (settled : Settled router.masks)
    (keeps : (∃ dm, router.diag_clients[client]? = some dm ∧ dm.enabled = true) → ¬ Spoils router.masks len buf)
    (ran : diag_client_handle_command junk client buf len router = .ok after)
    (failed : Failed junk client len buf router after) : after.masks = router.masks := by
  by_cases sent : ForPeripherals router buf
  · obtain ⟨ret,mid,dispatched,_⟩ := handle_command_dispatched ran
    rcases dispatch_handled dispatched with ⟨_,rfl,_,masks⟩ | ⟨others,_⟩
    · rw [handle_command_eq dispatched] at ran
      cases ran
      exact masks
    · exact absurd sent others
  · obtain ⟨ret,mid,msg,dispatched,answered,tells,rejected⟩ := handle_command_answers ran sent
    rcases failed with ⟨ret',mid',again,code⟩ | ⟨dm,other,present,enabled,queued,status⟩
    · cases dispatched.symm.trans again
      rcases code with rfl | rfl
      · exact (rejected DIAG_CMD_RSP_BAD_LENGTH rfl).2
      · exact (rejected DIAG_CMD_RSP_BAD_PARAMS rfl).2
    · obtain rfl := answered_message present enabled answered queued
      generalize after.masks = left at tells ⊢
      cases tells with
      | same => rfl
      | success done => exact absurd status done
      | set_msg asked set told =>
        by_contra changed
        have adjusts := (set_refused_iff settled set).mp ⟨told.mp status,changed⟩
        exact keeps ⟨dm,present,enabled⟩ ⟨asked,adjusts⟩

end

/-- In every state that client messages reach from the tables as built, with
    anything but the tables changed at any time: a request that is answered with
    a failure leaves the tables as they were, exactly when it is not a SET that
    spoils its entry for an enabled client. -/
theorem error_answers_iff {ops : List RouterOp} {router : Router} (reached : exec router_step start ops = .ok router)
    {junk : Junk} {client : Nat} {buf : Request} {len : Nat} {after : Router}
    (ran : diag_client_handle_command junk client buf len router = .ok after) :
    (Failed junk client len buf router after → after.masks = router.masks) ↔
      ((∃ dm, router.diag_clients[client]? = some dm ∧ dm.enabled = true) → ¬ Spoils router.masks len buf) := by
  have settled := exec_invariant (I := fun router => Settled router.masks) (fun settled step => router_step_settled settled step)
    settled_init reached
  constructor
  · rintro same ⟨dm,present,enabled⟩ spoils
    obtain ⟨failed,changed⟩ := spoiled settled present enabled spoils ran
    exact changed (same failed)
  · exact fun keeps failed => failed_same settled keeps ran failed

/-- SSIDs 10 to 209 asked of the first entry, with 200 words. -/
def set_200 : Request := place ([0x7d,4,10,0,209,0,0,0] ++ List.replicate 800 0) (fun _ => 0)

/-- The only client is a raw one. -/
def one_client : Router := ⟨diag_masks_init,[],[],[],[⟨.RAW,true,[]⟩]⟩

def no_junk : Junk := ⟨fun _ => 0,fun _ => 0,fun _ => 0,fun _ _ => 0⟩

theorem set_200_answered : ∃ after, diag_client_handle_command no_junk 0 set_200 808 one_client = .ok after := by
  have ran : (fun _ => ()) <$> diag_client_handle_command no_junk 0 set_200 808 one_client = .ok () := by decide +kernel
  obtain ⟨after,answered,_⟩ := map_eq_ok.mp ran
  exact ⟨after,answered⟩

theorem error_answers_iff_set_200 :
    ∃ after, diag_client_handle_command no_junk 0 set_200 808 one_client = .ok after ∧
      ((Failed no_junk 0 808 set_200 one_client after → after.masks = one_client.masks) ↔
        ((∃ dm, one_client.diag_clients[0]? = some dm ∧ dm.enabled = true) → ¬ Spoils one_client.masks 808 set_200)) := by
  obtain ⟨after,answered⟩ := set_200_answered
  exact ⟨after,answered,@error_answers_iff [.elsewhere [] [] [] [⟨.RAW,true,[]⟩]] one_client rfl no_junk 0 set_200 808 after answered⟩

/-- The client gets a failure, and the entry promises fewer words than before. -/
theorem refused_set_shrinks :
    exec router_step start [.elsewhere [] [] [] [⟨.RAW,true,[]⟩]] = .ok one_client ∧
      ∃ after, diag_client_handle_command no_junk 0 set_200 808 one_client = .ok after ∧
        Failed no_junk 0 808 set_200 one_client after ∧ after.masks ≠ one_client.masks := by
  obtain ⟨after,answered⟩ := set_200_answered
  have asked : IsSetMsgMask 808 set_200 := ⟨rfl,rfl,by decide⟩
  have entry : selected (range_at set_200 2) one_client.masks.msg_mask.ptr = some (diag_create_msg_mask_table_entry 0 120) := by
    decide +kernel
  have refused : Refused (range_at set_200 2) (diag_create_msg_mask_table_entry 0 120) := by
    rw [Refused,if_neg (by decide),if_pos (by decide)]
    decide
  have adjusts : ¬ Adjusted (range_at set_200 2) (diag_create_msg_mask_table_entry 0 120) := by
    rw [Adjusted,if_neg (by decide)]
    intro same
    exact absurd (same (by decide)) (by decide)
  exact ⟨rfl,after,answered,@spoiled no_junk 0 set_200 808 one_client after settled_init ⟨.RAW,true,[]⟩ rfl rfl
    ⟨asked,_,entry,refused,adjusts⟩ answered⟩

end DiagRouter.ErrorAnswers

import DiagRouter.ErrorAnswers
import DiagRouter.MaskViews
import DiagRouter.SsidOwnership

/-!
# The response to a SET of message masks

The range in the response is where the broadcast looks up the words it sends,
and every lookup overwrites it with the bounds of the entry it finds. What the
client reads there is its own range only if nobody is told, or if the lookup
finds nothing new.
-/
namespace DiagRouter.SetMaskResponse
open DiagRouter.Lib.Memory DiagRouter.Lib.Words DiagRouter.Lib.Runs DiagRouter.Masks DiagRouter.MsgMaskTable
open DiagRouter.Dispatch DiagRouter.Handlers DiagRouter.Peripherals DiagRouter.MaskRuns
open DiagRouter.Clients (DiagClient)
open DiagRouter.Responses (Answered outqs outqs_send handle_command_eq)
open DiagRouter.ErrorAnswers (Settled settled_init router_step_settled answered_message)
open DiagRouter.MsgMaskReadBack (Refused Within past_selected set_accepts_iff set_refuses set_taken)
open DiagRouter.MaskBroadcast (RouterOp router_step start controlled modem send_msg_mask_found send_msg_mask_missing
  broadcast_msg_mask_none Accepted)
open DiagRouter.SsidOwnership (set_step_cases split_unique)
open DiagRouter.MaskViews (shown)

/-! ## What a broadcast leaves of its range -/

section
variable {masks : MaskTables}

theorem shown_first_le (built : Built masks.msg_mask.ptr) (range : DiagSsidRange) :
    (shown masks.msg_mask.ptr range).ssid_first.toNat ≤ range.ssid_first.toNat := by
  unfold shown
  cases found : masks.msg_mask.ptr.find? (reports range.ssid_first.toNat) with
  | none => exact Nat.le_refl _
  | some msg_item =>
    have reported := List.find?_some found
    simp only [reports,decide_eq_true_eq] at reported
    simp only [Option.map_some,Option.getD_some,bounds_first built (List.mem_of_find?_eq_some found)]
    exact reported.1

/-- A lookup that keeps the first SSID finds the same entry again. -/
theorem shown_shown {range : DiagSsidRange} (same : (shown masks.msg_mask.ptr range).ssid_first = range.ssid_first) :
    shown masks.msg_mask.ptr (shown masks.msg_mask.ptr range) = shown masks.msg_mask.ptr range := by
  generalize again : shown masks.msg_mask.ptr range = next at same
  rw [shown,same]
  cases found : masks.msg_mask.ptr.find? (reports range.ssid_first.toNat) with
  | none => rfl
  | some msg_item =>
    rw [shown,found] at again
    exact again

/-- What a packet does to the range it is given. -/
theorem send_msg_mask_left {junk : Nat → UInt8} {range : DiagSsidRange} {left : Option DiagSsidRange} {p after : Peripheral}
    (channel : p.cntl_fd ≠ -1) (valid : masks.msg_mask.status = DIAG_CTRL_MASK_VALID)
    (sent : diag_cntl_send_msg_mask junk masks p (some range) = .ok (left,after)) :
    left = some (shown masks.msg_mask.ptr range) ∧
      ∀ msg_item ∈ masks.msg_mask.ptr.find? (reports range.ssid_first.toNat), msg_item.range ≤ msg_item.ptr.length := by
  obtain ⟨told,mask,num_items,words,items,_⟩ := send_msg_mask_packet channel sent
  simp only [msg_mask_items,valid,true_or,if_true] at items
  obtain ⟨answer,got,items⟩ := bind_eq_ok.mp items
  cases items
  rw [diag_cmd_get_msg_mask] at got
  rw [shown]
  cases found : masks.msg_mask.ptr.find? (reports range.ssid_first.toNat) with
  | none =>
    rw [found] at got
    cases got
    exact ⟨rfl,fun _ none => absurd none (by simp)⟩
  | some msg_item =>
    rw [found] at got
    obtain ⟨copied,loaded,same⟩ := bind_eq_ok.mp got
    cases same
    refine ⟨rfl,?_⟩
    rintro _ ⟨⟩
    exact (load_ok_iff.mp loaded).1

theorem send_msg_mask_silent (junk : Nat → UInt8) (range : Option DiagSsidRange) {p : Peripheral} (silent : p.cntl_fd = -1) :
    diag_cntl_send_msg_mask junk masks p range = .ok (range,p) := by
  simp only [diag_cntl_send_msg_mask,silent,if_true]

/-- Each packet moves the first SSID down or leaves it, so the range is its old
    self in the end only if no lookup has changed it. -/
theorem broadcast_left {junk : Nat → Nat → UInt8} {range : DiagSsidRange} {left : Option DiagSsidRange}
    {peripherals after : List Peripheral} (built : Built masks.msg_mask.ptr)
    (valid : masks.msg_mask.status = DIAG_CTRL_MASK_VALID)
    (sent : peripheral_broadcast_msg_mask junk masks (some range) peripherals = .ok (left,after)) :
    ∃ last, left = some last ∧ last.ssid_first.toNat ≤ range.ssid_first.toNat ∧
      (shown masks.msg_mask.ptr range = range → last = range) ∧
      (1 ≤ controlled peripherals → (last = range → shown masks.msg_mask.ptr range = range) ∧
        ∀ msg_item ∈ masks.msg_mask.ptr.find? (reports range.ssid_first.toNat), msg_item.range ≤ msg_item.ptr.length) := by
  induction peripherals generalizing junk range after with
  | nil =>
    cases sent
    exact ⟨range,rfl,Nat.le_refl _,fun _ => rfl,fun some => absurd some (by decide)⟩
  | cons p rest ih =>
    obtain ⟨⟨passed,one⟩,first,sent⟩ := bind_eq_ok.mp sent
    obtain ⟨⟨passed',others⟩,more,same⟩ := bind_eq_ok.mp sent
    cases same
    by_cases silent : p.cntl_fd = -1
    · have count : controlled (p :: rest) = controlled rest := by simp [controlled,silent]
      rw [send_msg_mask_silent _ _ silent] at first
      cases first
      rw [count]
      exact ih more
    · obtain ⟨rfl,room⟩ := send_msg_mask_left silent valid first
      obtain ⟨last,rfl,below,fixed,_⟩ := ih more
      have down := shown_first_le built range
      refine ⟨last,rfl,Nat.le_trans below down,?_,fun _ => ⟨?_,room⟩⟩
      · intro same
        rw [same] at fixed
        exact fixed same
      · rintro rfl
        have start : (shown masks.msg_mask.ptr last).ssid_first = last.ssid_first := UInt16.toNat_inj.mp (by omega)
        exact (fixed (shown_shown start)).symm

/-- A broadcast whose lookups stay inside the entry they find. -/
theorem broadcast_fixed (junk : Nat → Nat → UInt8) {range : DiagSsidRange} (peripherals : List Peripheral)
    (built : Built masks.msg_mask.ptr) (valid : masks.msg_mask.status = DIAG_CTRL_MASK_VALID)
    (fixed : shown masks.msg_mask.ptr range = range)
    (room : ∀ msg_item ∈ masks.msg_mask.ptr.find? (reports range.ssid_first.toNat), msg_item.range ≤ msg_item.ptr.length) :
    ∃ after, peripheral_broadcast_msg_mask junk masks (some range) peripherals = .ok (some range,after) := by
  induction peripherals generalizing junk with
  | nil => exact ⟨[],rfl⟩
  | cons p rest ih =>
    obtain ⟨after,more⟩ := ih (fun i => junk (i + 1))
    obtain ⟨one,sent⟩ : ∃ one, diag_cntl_send_msg_mask (junk 0) masks p (some range) = .ok (some range,one) := by
      by_cases silent : p.cntl_fd = -1
      · exact ⟨p,send_msg_mask_silent _ _ silent⟩
      · rw [shown] at fixed
        cases found : masks.msg_mask.ptr.find? (reports range.ssid_first.toNat) with
        | none => exact ⟨_,send_msg_mask_missing (junk 0) range p valid found⟩
        | some msg_item =>
          rw [found] at fixed
          have sent := send_msg_mask_found (junk 0) range p built valid found (room msg_item found)
          rw [if_neg silent,show bounds msg_item = range from fixed] at sent
          exact ⟨_,sent⟩
    refine ⟨one :: after,?_⟩
    simp only [peripheral_broadcast_msg_mask,sent,ok_bind,more,pure_ok]

end

/-! ## The table before the SET -/

/-- A lookup of the request in the table as it is finds an entry that was built
    with its bounds and owns the words a lookup copies, or finds nothing because
    there is nothing to find. -/
def Untouched (table : List DiagMsgMask) (range : DiagSsidRange) : Prop :=
  match table.find? (reports range.ssid_first.toNat) with
  | some msg_item => bounds msg_item = range ∧ msg_item.range ≤ msg_item.ptr.length
  | none => num_ssids range = 0

section
variable {before later table : List DiagMsgMask} {msg_item : DiagMsgMask} {junk : Nat → UInt32} {range : DiagSsidRange}

/-- An entry that takes a SET reports its first SSID afterwards, if it did before
    or the SET names one at all. -/
theorem resized_reports (built : Built table) (member : msg_item ∈ table) (first : msg_item.ssid_first ≤ range.ssid_first.toNat)
    (near : range.ssid_first.toNat ≤ msg_item.ssid_first + MAX_SSID_PER_RANGE) (taken : ¬ Refused range msg_item) :
    reports range.ssid_first.toNat (resized junk range msg_item) = true ↔
      reports range.ssid_first.toNat msg_item = true ∨ num_ssids range ≠ 0 := by
  have low := built.ordered member
  have high := built.high msg_item member
  simp only [reports,decide_eq_true_eq,resized_ssid_first]
  by_cases many : MAX_SSID_PER_RANGE < num_ssids range
  · by_cases past : msg_item.ssid_first + MAX_SSID_PER_RANGE < range.ssid_last.toNat
    · rw [resized_cut_past many past]
      dsimp only
      omega
    · rw [resized_cut_within many (by omega)]
      dsimp only
      omega
  · have ordered : range.ssid_first.toNat ≤ range.ssid_last.toNat + 1 := by
      by_contra wrapped
      have count := num_ssids_of_gt (Nat.lt_of_not_le wrapped)
      have capacity : MAX_SSID_PER_RANGE = 200 := rfl
      have bound := range.ssid_first.toNat_lt
      omega
    have count := num_ssids_of_le ordered
    by_cases past : msg_item.ssid_last_tools < range.ssid_last.toNat
    · rw [Refused,if_neg many,if_pos past] at taken
      rw [resized_past (by omega) past low high]
      simp only [extendedLast,if_neg taken]
      omega
    · rw [resized_within (by omega) (by omega)]
      omega

/-- An entry that was built with the bounds of the request is not resized. -/
theorem resized_bounds (built : Built table) (member : msg_item ∈ table) (same : bounds msg_item = range) :
    resized junk range msg_item = msg_item := by
  subst same
  have few := bounded_le built member
  refine resized_within ?_ ?_
  · rw [num_ssids_bounds built member]
    exact Nat.le_trans few (by decide)
  · rw [bounds_last built member]
    exact built.low msg_item member

/-- An entry with the bounds of the request reports its first SSID. -/
theorem bounds_reports (built : Built table) (member : msg_item ∈ table) (same : bounds msg_item = range) :
    reports range.ssid_first.toNat msg_item = true := by
  subst same
  have ordered := built.ordered member
  simp only [reports,decide_eq_true_eq,bounds_first built member]
  omega

/-- The entry that takes a SET begins near the request, and no entry behind it
    reports the first SSID. -/
theorem selected_near (built : Built (before ++ msg_item :: later))
    (picked : selected range (before ++ msg_item :: later) = some msg_item) :
    msg_item.ssid_first ≤ range.ssid_first.toNat ∧ range.ssid_first.toNat ≤ msg_item.ssid_first + MAX_SSID_PER_RANGE ∧
      later.find? (reports range.ssid_first.toNat) = none := by
  obtain ⟨early,late,split,hit,_⟩ := set_msg_loop_some (fun _ => 0) (fun _ => 0) picked
  obtain ⟨rfl,rfl⟩ := split_unique built split
  obtain ⟨first,near,_⟩ := not_skips hit
  refine ⟨first,near,?_⟩
  rw [List.find?_eq_none]
  intro other listed reported
  have past := past_selected built hit listed
  simp only [reports,decide_eq_true_eq] at reported
  omega

/-- The lookups of the broadcast, told from the table before the SET. -/
theorem untouched_iff {ptr : List UInt32} (built : Built (before ++ msg_item :: later))
    (picked : selected range (before ++ msg_item :: later) = some msg_item) (taken : ¬ Refused range msg_item)
    (length : ptr.length = (resized junk range msg_item).ptr.length) :
    (shown (before ++ { resized junk range msg_item with ptr := ptr } :: later) range = range ∧
      ∀ entry ∈ (before ++ { resized junk range msg_item with ptr := ptr } :: later).find? (reports range.ssid_first.toNat),
        entry.range ≤ entry.ptr.length) ↔ Untouched (before ++ msg_item :: later) range := by
  have member : msg_item ∈ before ++ msg_item :: later := List.mem_append_right _ List.mem_cons_self
  obtain ⟨first,near,unreported⟩ := selected_near built picked
  have again := @resized_reports _ msg_item junk range built member first near taken
  obtain ⟨new,same_new,renamed,relabelled,size,owned⟩ : ∃ new : DiagMsgMask,
      { resized junk range msg_item with ptr := ptr } = new ∧ bounds new = bounds msg_item ∧
        reports range.ssid_first.toNat new = reports range.ssid_first.toNat (resized junk range msg_item) ∧
        new.range = msg_item.range ∧ new.ptr.length = (resized junk range msg_item).ptr.length :=
    ⟨_,rfl,by simp [bounds],rfl,resized_range junk range msg_item,length⟩
  rw [same_new]
  rw [shown,Untouched]
  simp only [List.find?_append,List.find?_cons,unreported]
  cases early : before.find? (reports range.ssid_first.toNat) with
  | some entry => simp
  | none =>
    rw [relabelled]
    by_cases reported : reports range.ssid_first.toNat msg_item = true
    · rw [again.mpr (.inl reported),reported]
      simp only [Option.none_or,Option.map_some,Option.getD_some,renamed,Option.mem_def,Option.some.injEq,forall_eq',size,owned]
      constructor
      · rintro ⟨same,room⟩
        exact ⟨same,by rwa [resized_bounds built member same] at room⟩
      · rintro ⟨same,room⟩
        exact ⟨same,by rwa [resized_bounds built member same]⟩
    · have other : bounds msg_item ≠ range := fun same => reported (bounds_reports built member same)
      rw [Bool.not_eq_true] at reported
      rw [reported]
      by_cases named : num_ssids range = 0
      · have still : reports range.ssid_first.toNat (resized junk range msg_item) = false := by
          rw [← Bool.not_eq_true,again]
          simp [reported,named]
        rw [still]
        simp [named]
      · rw [again.mpr (.inr named)]
        simp only [Option.none_or,Option.map_some,Option.getD_some,renamed,named,other,false_and]

/-- The tables after a SET that is accepted, and what the lookups find there. -/
theorem accepted_tables {mask : Nat → UInt32} {masks after : MaskTables} (built : Built masks.msg_mask.ptr)
    (found : selected range masks.msg_mask.ptr = some msg_item)
    (set : diag_cmd_set_msg_mask junk masks range mask = .ok (0,after)) :
    Built after.msg_mask.ptr ∧ after.msg_mask.status = DIAG_CTRL_MASK_VALID ∧
      ((shown after.msg_mask.ptr range = range ∧
        ∀ entry ∈ after.msg_mask.ptr.find? (reports range.ssid_first.toNat), entry.range ≤ entry.ptr.length) ↔
          Untouched masks.msg_mask.ptr range) := by
  have taken := (set_taken built found set).mp rfl
  have step : SsidOwnership.set_step masks ⟨junk,range,mask⟩ = .ok after := map_eq_ok.mpr ⟨_,set,rfl⟩
  obtain ⟨items,loop,rfl⟩ := set_msg_mask_ok_iff.mp set
  refine ⟨set_msg_loop_built built loop,rfl,?_⟩
  rcases set_step_cases step with ⟨none,_⟩ | ⟨before,_,later,ptr,picked,split,length,table⟩
  · cases none.symm.trans found
  · cases picked.symm.trans found
    dsimp only at picked length table ⊢
    rw [split] at built picked
    rw [table,split]
    exact untouched_iff built picked taken length

/-- The broadcast after a SET that is accepted hands back the range of the request
    when nobody is told or the lookups change nothing. -/
theorem broadcast_keeps_iff {mask : Nat → UInt32} {masks after : MaskTables} (built : Built masks.msg_mask.ptr)
    (found : selected range masks.msg_mask.ptr = some msg_item)
    (set : diag_cmd_set_msg_mask junk masks range mask = .ok (0,after)) (pkt : Nat → Nat → UInt8)
    (peripherals : List Peripheral) :
    (∃ left told, peripheral_broadcast_msg_mask pkt after (some range) peripherals = .ok (left,told) ∧
      left.getD ⟨0,0⟩ = range) ↔ controlled peripherals = 0 ∨ Untouched masks.msg_mask.ptr range := by
  obtain ⟨stays,valid,looks⟩ := accepted_tables built found set
  constructor
  · rintro ⟨left,told,sent,kept⟩
    by_cases silent : controlled peripherals = 0
    · exact .inl silent
    · obtain ⟨last,rfl,_,_,looked⟩ := broadcast_left stays valid sent
      obtain ⟨same,room⟩ := looked (by omega)
      exact .inr (looks.mp ⟨same kept,room⟩)
  · rintro (silent | untouched)
    · exact ⟨_,_,broadcast_msg_mask_none pkt _ silent,rfl⟩
    · obtain ⟨kept,room⟩ := looks.mpr untouched
      obtain ⟨told,sent⟩ := broadcast_fixed pkt peripherals stays valid kept room
      exact ⟨_,told,sent,rfl⟩

end

/-! ## Responses -/

/-- The response of a SET that succeeds: the range, the status, the low byte of
    `rsvd` and the words. -/
def set_response (buf : Request) (range : DiagSsidRange) : List UInt8 :=
  span buf 0 2 ++ range_bytes range ++ [DIAG_CMD_MSG_STATUS_SUCCESSFUL,buf 6] ++ span buf 8 (MSG_RANGE_TO_SIZE (range_at buf 2))

/-- The command is handled with these peripherals, and the client is sent the
    message. -/
def Responds (junk : Junk) (client len : Nat) (buf : Request) (router : Router) (peripherals : List Peripheral)
    (msg : List UInt8) : Prop :=
  ∃ after, diag_client_handle_command junk client buf len { router with peripherals := peripherals } = .ok after ∧
    Answered router client msg after

/-- With either list of peripherals the client is sent the same, which on success
    carries the range and the words of the request. -/
def SameResponse (junk : Junk) (client len : Nat) (buf : Request) (router : Router) (p q : List Peripheral) : Prop :=
  ∃ msg, Responds junk client len buf router p msg ∧ Responds junk client len buf router q msg ∧
    (len = 8 + MSG_RANGE_TO_SIZE (range_at buf 2) → Accepted junk router.masks buf → msg = set_response buf (range_at buf 2))

/-- What a SET that its entry takes must meet. `within`: its words stay inside the
    entry. `answer`: the size of the response does not wrap. `range`: nobody is
    told, or the lookups change nothing. -/
structure Unrewritten (len : Nat) (table : List DiagMsgMask) (range : DiagSsidRange) (p q : List Peripheral)
    (msg_item : DiagMsgMask) : Prop where
  within : Within range msg_item
  answer : len < 4294967296
  range : (controlled p = 0 ∧ controlled q = 0) ∨ Untouched table range

section
variable {junk : Junk} {client len : Nat} {buf : Request} {router : Router} {peripherals : List Peripheral}

theorem range_bytes_injective {range other : DiagSsidRange} (same : range_bytes range = range_bytes other) : range = other := by
  have word : ∀ {x y : UInt16}, le16 x = le16 y → x = y := by
    intro x y spelled
    have reads := le16At_place [] [] x (fun _ => 0)
    rw [spelled] at reads
    exact reads.symm.trans (le16At_place [] [] y (fun _ => 0))
  obtain ⟨first,last⟩ := List.append_inj same rfl
  cases range
  cases other
  rw [DiagSsidRange.mk.injEq]
  exact ⟨word first,word last⟩

theorem set_response_injective {range other : DiagSsidRange} (same : set_response buf range = set_response buf other) :
    range = other := by
  unfold set_response at same
  have front := List.append_cancel_right (List.append_cancel_right same)
  exact range_bytes_injective (List.append_cancel_left front)

/-- A response that is rewritten where its range stands. -/
theorem set_response_store (range left : DiagSsidRange) :
    store (set_response buf range) 2 (range_bytes left) = .ok (set_response buf left) := by
  have stored := @store_over UInt8 (span buf 0 2) (range_bytes range) (range_bytes left)
    ([DIAG_CMD_MSG_STATUS_SUCCESSFUL,buf 6] ++ span buf 8 (MSG_RANGE_TO_SIZE (range_at buf 2))) rfl
  rw [span_length] at stored
  simpa only [set_response,List.append_assoc] using stored

/-- A response is laid out exactly when its size does not wrap. -/
theorem set_response_stores {header answer : List UInt8} {block : Nat → UInt8}
    (whole : len = 8 + MSG_RANGE_TO_SIZE (range_at buf 2)) :
    (store (span block 0 (u32 (8 + MSG_RANGE_TO_SIZE (range_at buf 2)))) 0 (span buf 0 2 ++ range_bytes (range_at buf 2) ++
        [DIAG_CMD_MSG_STATUS_SUCCESSFUL,buf 6]) = .ok header ∧
      store header 8 (span buf 8 (MSG_RANGE_TO_SIZE (range_at buf 2))) = .ok answer) ↔
    len < 4294967296 ∧ header = span buf 0 2 ++ range_bytes (range_at buf 2) ++ [DIAG_CMD_MSG_STATUS_SUCCESSFUL,buf 6] ++
      (span block 0 len).drop 8 ∧ answer = set_response buf (range_at buf 2) := by
  have eight : (span buf 0 2 ++ range_bytes (range_at buf 2) ++ [DIAG_CMD_MSG_STATUS_SUCCESSFUL,buf 6]).length = 8 := by
    simp [range_bytes]
  have fits : 8 + MSG_RANGE_TO_SIZE (range_at buf 2) ≤ u32 (8 + MSG_RANGE_TO_SIZE (range_at buf 2)) ↔ len < 4294967296 := by
    unfold u32
    omega
  rw [store_ok_iff,store_ok_iff,eight,span_length,span_length,set_response]
  generalize span buf 0 2 ++ range_bytes (range_at buf 2) ++ [DIAG_CMD_MSG_STATUS_SUCCESSFUL,buf 6] = front at eight
  have covered : ∀ rest : List UInt8, (front ++ rest).take 8 = front := fun rest => List.take_left' eight
  constructor
  · rintro ⟨⟨room,rfl⟩,inside,rfl⟩
    have short : len < 4294967296 := by
      rw [← fits]
      simp only [List.take_zero,List.nil_append,List.length_append,List.length_drop,span_length,eight] at inside
      omega
    have size : u32 (8 + MSG_RANGE_TO_SIZE (range_at buf 2)) = len := by
      rw [u32_of_lt (by omega) (by omega)]
      omega
    refine ⟨short,by rw [size,List.take_zero,List.nil_append],?_⟩
    rw [List.take_zero,List.nil_append,covered,List.drop_eq_nil_of_le,List.append_nil]
    simp only [List.length_append,List.length_drop,span_length,eight,size]
    omega
  · rintro ⟨short,rfl,rfl⟩
    have size : u32 (8 + MSG_RANGE_TO_SIZE (range_at buf 2)) = len := by
      rw [u32_of_lt (by omega) (by omega)]
      omega
    rw [size]
    refine ⟨⟨by omega,by rw [List.take_zero,List.nil_append]⟩,?_,?_⟩
    · simp only [List.length_append,List.length_drop,span_length,eight]
      omega
    · rw [covered,List.drop_eq_nil_of_le,List.append_nil]
      simp only [List.length_append,List.length_drop,span_length,eight]
      omega

/-- A SET that the tables accept is answered when the size does not wrap and the
    broadcast ends, with the range that the broadcast leaves. -/
theorem accepted_ran_iff {masks : MaskTables} {after : Router} {ret : Int}
    (whole : len = 8 + MSG_RANGE_TO_SIZE (range_at buf 2))
    (set : diag_cmd_set_msg_mask junk.words router.masks (range_at buf 2) (request_words buf) = .ok (0,masks)) :
    set_msg_mask junk client buf len { router with peripherals := peripherals } = .ok (ret,after) ↔
      len < 4294967296 ∧ ∃ left told, peripheral_broadcast_msg_mask junk.pkt masks (some (range_at buf 2)) peripherals =
          .ok (left,told) ∧ ret = 0 ∧
        after = send { router with masks := masks, peripherals := told } client (set_response buf (left.getD ⟨0,0⟩)) := by
  have set' : diag_cmd_set_msg_mask junk.words router.masks (range_at buf 2) (fun i => le32At buf (8 + 4 * i)) =
      .ok (0,masks) := set
  unfold set_msg_mask
  dsimp only
  rw [if_neg (not_not.mpr whole),set',ok_bind]
  dsimp only
  rw [if_pos rfl]
  constructor
  · intro ran
    obtain ⟨header,begun,ran⟩ := bind_eq_ok.mp ran
    obtain ⟨answer,filled,ran⟩ := bind_eq_ok.mp ran
    obtain ⟨⟨left,told⟩,sent,ran⟩ := bind_eq_ok.mp ran
    obtain ⟨resp,bounded,ran⟩ := bind_eq_ok.mp ran
    cases ran
    obtain ⟨short,_,rfl⟩ := (set_response_stores whole).mp ⟨begun,filled⟩
    rw [set_response_store] at bounded
    cases bounded
    exact ⟨short,left,told,sent,rfl,rfl⟩
  · rintro ⟨short,left,told,sent,rfl,rfl⟩
    obtain ⟨begun,filled⟩ := (set_response_stores whole).mpr ⟨short,rfl,rfl⟩
    rw [begun,ok_bind,filled,ok_bind,sent,ok_bind]
    dsimp only
    rw [set_response_store]
    rfl

theorem set_dispatch (command : buf 0 = 0x7d) (operation : buf 1 = 4) :
    diag_cmd_dispatch (router_calls junk client buf len) router.diag_cmds buf router =
      set_msg_mask junk client buf len router := by
  rw [message_dispatch junk client len router command,handle_extended_message_configuration,operation]
  rfl

/-- What a client is sent when the handler is done. -/
theorem responds_of_ran {mid : Router} {msg : List UInt8} (command : buf 0 = 0x7d) (operation : buf 1 = 4)
    (ran : set_msg_mask junk client buf len { router with peripherals := peripherals } = .ok (0,mid))
    (answered : Answered router client msg mid) : Responds junk client len buf router peripherals msg :=
  ⟨mid,handle_command_success ((@set_dispatch junk client len buf { router with peripherals := peripherals }
    command operation).trans ran),answered⟩

/-- A SET of another length is rejected, whoever is connected. -/
theorem responds_wrong_length (peripherals : List Peripheral) (command : buf 0 = 0x7d) (operation : buf 1 = 4)
    (wrong : len ≠ 8 + MSG_RANGE_TO_SIZE (range_at buf 2)) :
    Responds junk client len buf router peripherals (DIAG_CMD_RSP_BAD_LENGTH :: span buf 0 len) := by
  have ran : set_msg_mask junk client buf len { router with peripherals := peripherals } =
      .ok (-EMSGSIZE,{ router with peripherals := peripherals }) := by
    unfold set_msg_mask
    dsimp only
    rw [if_pos wrong]
  have dispatched := (@set_dispatch junk client len buf { router with peripherals := peripherals } command operation).trans ran
  exact ⟨_,handle_command_eq dispatched,rfl⟩

/-- So is the failure of a SET that is refused. -/
theorem responds_refused {masks : MaskTables} (peripherals : List Peripheral) (command : buf 0 = 0x7d) (operation : buf 1 = 4)
    (whole : len = 8 + MSG_RANGE_TO_SIZE (range_at buf 2))
    (set : diag_cmd_set_msg_mask junk.words router.masks (range_at buf 2) (request_words buf) = .ok (1,masks)) :
    Responds junk client len buf router peripherals
      (span buf 0 2 ++ range_bytes (range_at buf 2) ++ [DIAG_CMD_MSG_STATUS_UNSUCCESSFUL,buf 6]) := by
  have set' : diag_cmd_set_msg_mask junk.words router.masks (range_at buf 2) (fun i => le32At buf (8 + 4 * i)) =
      .ok (1,masks) := set
  have ran : set_msg_mask junk client buf len { router with peripherals := peripherals } =
      .ok (0,send { router with masks := masks, peripherals := peripherals } client
        (span buf 0 2 ++ range_bytes (range_at buf 2) ++ [DIAG_CMD_MSG_STATUS_UNSUCCESSFUL,buf 6])) := by
    unfold set_msg_mask
    dsimp only
    rw [if_neg (not_not.mpr whole),set',ok_bind]
    rfl
  exact responds_of_ran command operation ran rfl

/-- A client that is sent anything is sent what its SET has come to. -/
theorem responds_set {dm : DiagClient} {msg : List UInt8} (present : router.diag_clients[client]? = some dm)
    (enabled : dm.enabled = true) (command : buf 0 = 0x7d) (operation : buf 1 = 4)
    (whole : len = 8 + MSG_RANGE_TO_SIZE (range_at buf 2))
    (responds : Responds junk client len buf router peripherals msg) :
    ∃ code masks, diag_cmd_set_msg_mask junk.words router.masks (range_at buf 2) (request_words buf) = .ok (code,masks) ∧
      (code = 0 → len < 4294967296 ∧ ∃ left told,
        peripheral_broadcast_msg_mask junk.pkt masks (some (range_at buf 2)) peripherals = .ok (left,told) ∧
          msg = set_response buf (left.getD ⟨0,0⟩)) := by
  obtain ⟨after,ran,answered⟩ := responds
  obtain ⟨ret,mid,dispatched,_⟩ := handle_command_dispatched ran
  have handled := (@set_dispatch junk client len buf { router with peripherals := peripherals }
    command operation).symm.trans dispatched
  have steps := handled
  unfold set_msg_mask at steps
  dsimp only at steps
  rw [if_neg (not_not.mpr whole)] at steps
  obtain ⟨⟨code,masks⟩,set,_⟩ := bind_eq_ok.mp steps
  refine ⟨code,masks,set,?_⟩
  rintro rfl
  obtain ⟨short,left,told,sent,rfl,rfl⟩ := (accepted_ran_iff whole set).mp handled
  rw [handle_command_eq dispatched] at ran
  cases ran
  exact ⟨short,left,told,sent,answered_message present enabled answered (outqs_send present enabled _)⟩

/-- A SET that its entry takes and that stays inside it is answered with its own
    range, when nobody is told or the lookups change nothing. -/
theorem responds_accepted {masks : MaskTables} {msg_item : DiagMsgMask} (built : Built router.masks.msg_mask.ptr)
    (command : buf 0 = 0x7d) (operation : buf 1 = 4) (whole : len = 8 + MSG_RANGE_TO_SIZE (range_at buf 2))
    (short : len < 4294967296) (found : selected (range_at buf 2) router.masks.msg_mask.ptr = some msg_item)
    (set : diag_cmd_set_msg_mask junk.words router.masks (range_at buf 2) (request_words buf) = .ok (0,masks))
    (untold : controlled peripherals = 0 ∨ Untouched router.masks.msg_mask.ptr (range_at buf 2)) :
    Responds junk client len buf router peripherals (set_response buf (range_at buf 2)) := by
  obtain ⟨left,told,sent,kept⟩ := (broadcast_keeps_iff built found set junk.pkt peripherals).mpr untold
  rw [← kept]
  exact responds_of_ran command operation ((accepted_ran_iff whole set).mpr ⟨short,left,told,sent,rfl,rfl⟩) rfl

end

/-! ## The exact condition -/

/-- In every state that a run reaches, a SET of message masks is answered the same
    with either list of peripherals, on success with its own range and words,
    exactly when it is rejected or refused, or stays inside its entry and is not
    rewritten. -/
theorem set_response_iff {ops : List RouterOp} {router : Router} (reached : exec router_step start ops = .ok router)
    (junk : Junk) {client : Nat} {buf : Request} (len : Nat) {dm : DiagClient}
    (present : router.diag_clients[client]? = some dm) (enabled : dm.enabled = true) (command : buf 0 = 0x7d)
    (operation : buf 1 = 4) (p q : List Peripheral) :
    SameResponse junk client len buf router p q ↔
      (len = 8 + MSG_RANGE_TO_SIZE (range_at buf 2) → ∀ msg_item ∈ selected (range_at buf 2) router.masks.msg_mask.ptr,
        ¬ Refused (range_at buf 2) msg_item → Unrewritten len router.masks.msg_mask.ptr (range_at buf 2) p q msg_item) := by
  have built := (exec_invariant (I := fun router : Router => Settled router.masks)
    (fun settled step => router_step_settled settled step) settled_init reached).built
  constructor
  · rintro ⟨msg,here,there,success⟩ whole msg_item found taken
    obtain ⟨code,masks,set,answered⟩ := responds_set present enabled command operation whole here
    obtain ⟨code',masks',again,answered'⟩ := responds_set present enabled command operation whole there
    cases set.symm.trans again
    obtain rfl := (set_taken built found set).mpr taken
    obtain ⟨other,picked,_,within⟩ := (set_accepts_iff built).mp ⟨masks,set⟩
    cases picked.symm.trans found
    obtain ⟨short,left,told,sent,rfl⟩ := answered rfl
    obtain ⟨_,left',told',sent',same⟩ := answered' rfl
    have kept := set_response_injective (success whole ⟨masks,set⟩)
    have kept' := (set_response_injective same).symm.trans kept
    have first := (broadcast_keeps_iff built found set junk.pkt p).mp ⟨left,told,sent,kept⟩
    have second := (broadcast_keeps_iff built found set junk.pkt q).mp ⟨left',told',sent',kept'⟩
    exact ⟨within,short,and_or_right.mpr ⟨first,second⟩⟩
  · intro meets
    by_cases whole : len = 8 + MSG_RANGE_TO_SIZE (range_at buf 2)
    · by_cases refuses : ∀ msg_item ∈ selected (range_at buf 2) router.masks.msg_mask.ptr, Refused (range_at buf 2) msg_item
      · obtain ⟨masks,set⟩ := @set_refuses junk.words (request_words buf) router.masks (range_at buf 2) built refuses
        refine ⟨_,responds_refused p command operation whole set,responds_refused q command operation whole set,?_⟩
        rintro _ ⟨after,accepted⟩
        cases accepted.symm.trans set
      · push Not at refuses
        obtain ⟨msg_item,found,taken⟩ := refuses
        obtain ⟨within,short,range⟩ := meets whole msg_item found taken
        obtain ⟨masks,set⟩ := (@set_accepts_iff junk.words (request_words buf) router.masks (range_at buf 2) built).mpr
          ⟨msg_item,found,taken,within⟩
        refine ⟨_,?_,?_,fun _ _ => rfl⟩
        · exact responds_accepted built command operation whole short found set (range.imp_left And.left)
        · exact responds_accepted built command operation whole short found set (range.imp_left And.right)
    · exact ⟨_,responds_wrong_length p command operation whole,responds_wrong_length q command operation whole,
        fun right => absurd right whole⟩

/-- A client, and a SET of SSIDs 0 to 120 with all their words. -/
def client_only : Router := ⟨diag_masks_init,[],[],[],[⟨.RAW,true,[]⟩]⟩

def set_entry : Request := place [0x7d,4,0,0,120,0] (fun _ => 0)

theorem set_response_entry :
    SameResponse ⟨fun _ => 0,fun _ => 0,fun _ => 0,fun _ _ => 0⟩ 0 492 set_entry client_only [modem] [] ↔
      (492 = 8 + MSG_RANGE_TO_SIZE (range_at set_entry 2) →
        ∀ msg_item ∈ selected (range_at set_entry 2) client_only.masks.msg_mask.ptr,
          ¬ Refused (range_at set_entry 2) msg_item →
            Unrewritten 492 client_only.masks.msg_mask.ptr (range_at set_entry 2) [modem] [] msg_item) :=
  @set_response_iff [.elsewhere [] [] [] [⟨.RAW,true,[]⟩]] client_only rfl ⟨fun _ => 0,fun _ => 0,fun _ => 0,fun _ _ => 0⟩ 0
    set_entry 492 ⟨.RAW,true,[]⟩ rfl rfl rfl rfl [modem] []

/-- A SET of SSID 7 is answered with SSIDs 0 to 120 when there is a peripheral to
    tell. -/
theorem set_seven_rewritten :
    exec router_step start [.elsewhere [] [] [] [⟨.RAW,true,[]⟩]] = .ok client_only ∧
      ¬ SameResponse ⟨fun _ => 0,fun _ => 0,fun _ => 0,fun _ _ => 0⟩ 0 12 (place [0x7d,4,7,0,7,0,0,0,9,0,0,0] (fun _ => 0))
        client_only [modem] [] := by
  refine ⟨rfl,?_⟩
  rintro ⟨msg,⟨after,ran,answered⟩,⟨after',ran',answered'⟩,_⟩
  have told : outqs <$> diag_client_handle_command ⟨fun _ => 0,fun _ => 0,fun _ => 0,fun _ _ => 0⟩ 0
      (place [0x7d,4,7,0,7,0,0,0,9,0,0,0] (fun _ => 0)) 12 { client_only with peripherals := [modem] } =
        .ok [[[0x7d,4,0,0,120,0,1,0,9,0,0,0]]] := by decide +kernel
  have untold : outqs <$> diag_client_handle_command ⟨fun _ => 0,fun _ => 0,fun _ => 0,fun _ _ => 0⟩ 0
      (place [0x7d,4,7,0,7,0,0,0,9,0,0,0] (fun _ => 0)) 12 { client_only with peripherals := [] } =
        .ok [[[0x7d,4,7,0,7,0,1,0,9,0,0,0]]] := by decide +kernel
  rw [ran] at told
  rw [ran'] at untold
  have first : [[msg]] = [[[0x7d,4,0,0,120,0,1,0,9,0,0,0]]] := answered.symm.trans (Except.ok.inj told)
  have second : [[msg]] = [[[0x7d,4,7,0,7,0,1,0,9,0,0,0]]] := answered'.symm.trans (Except.ok.inj untold)
  exact absurd (first.symm.trans second) (by decide)

end DiagRouter.SetMaskResponse

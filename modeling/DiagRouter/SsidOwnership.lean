import DiagRouter.MaskBroadcast

/-!
# The owner of an SSID

SET picks an entry by where the entries begin, GET by the ranges they report. As
long as no SET makes an entry report what another one begins with, or what it
would not be picked for, one entry owns each reported SSID.
-/
namespace DiagRouter.SsidOwnership
open DiagRouter.Lib.Memory DiagRouter.Lib.Runs DiagRouter.Lib.Words DiagRouter.Masks DiagRouter.MsgMaskTable
open DiagRouter.MsgMaskBuffers DiagRouter.Peripherals
open DiagRouter.MsgMaskReadBack (SetOp layout_apart set_msg_item_cases)
open DiagRouter.MaskBroadcast (item_packet tell find_item send_msg_mask_found)

def set_step (masks : MaskTables) (op : SetOp) : Except Fault MaskTables :=
  Prod.snd <$> diag_cmd_set_msg_mask op.junk masks op.range op.mask

/-! ## What the claim asks of the tables -/

/-- The reported intervals are sorted and pairwise disjoint. -/
structure Apart (table : List DiagMsgMask) : Prop where
  count : table.length = MSG_MASK_TBL_CNT
  intervals : ∀ msg_item ∈ table, msg_item.ssid_first ≤ msg_item.ssid_last_tools
  disjoint : table.Pairwise (fun early late => early.ssid_last_tools < late.ssid_first)

/-- For a reported SSID, GET copies the words of the entry that reports it, and
    SET picks that entry and stores the word there. -/
def OneOwner (masks : MaskTables) : Prop :=
  ∀ before msg_item later (ssid : UInt16), masks.msg_mask.ptr = before ++ msg_item :: later →
    reports ssid.toNat msg_item = true →
    (∀ ssid_last, diag_cmd_get_msg_mask masks ⟨ssid,ssid_last⟩ =
      .ok (some (bounds msg_item,msg_item.ptr.take msg_item.range))) ∧
    selected ⟨ssid,ssid⟩ masks.msg_mask.ptr = some msg_item ∧
    ∀ junk mask, ∃ ptr, diag_cmd_set_msg_mask junk masks ⟨ssid,ssid⟩ mask =
        .ok (0,{ masks with msg_mask := { masks.msg_mask with
          ptr := before ++ { msg_item with ptr := ptr } :: later, status := DIAG_CTRL_MASK_VALID } }) ∧
      ∀ k : Nat, ptr[k]? = if k = ssid.toNat - msg_item.ssid_first then some (mask 0) else msg_item.ptr[k]?

/-- In status VALID a peripheral with a control channel is sent the packet of
    each entry, once and in order. -/
def SendsEach (masks : MaskTables) : Prop :=
  masks.msg_mask.status = DIAG_CTRL_MASK_VALID → ∀ junk (p : Peripheral), p.cntl_fd ≠ -1 →
    diag_cntl_send_masks junk masks p = .ok { p with cntlq := p.cntlq ++ masks.msg_mask.ptr.map item_packet }

structure Owned (masks : MaskTables) : Prop where
  apart : Apart masks.msg_mask.ptr
  owner : OneOwner masks
  sends : SendsEach masks

/-! ## The condition -/

/-- The bound that an entry reports after a SET that selects it. -/
def reportedLast (range : DiagSsidRange) (msg_item : DiagMsgMask) : Nat :=
  if MAX_SSID_PER_RANGE < num_ssids range then msg_item.ssid_first + MAX_SSID_PER_RANGE
  else if msg_item.ssid_last_tools < range.ssid_last.toNat then extendedLast range msg_item
  else msg_item.ssid_last_tools

/-- The bound stays below the entries that follow. -/
def StaysBelow (table : List DiagMsgMask) (range : DiagSsidRange) (msg_item : DiagMsgMask) : Prop :=
  ∀ other ∈ table, msg_item.ssid_first < other.ssid_first → reportedLast range msg_item < other.ssid_first

def KeepsApart (masks : MaskTables) (op : SetOp) : Prop :=
  ∀ msg_item ∈ selected op.range masks.msg_mask.ptr, StaysBelow masks.msg_mask.ptr op.range msg_item

/-- A SET leaves the entry it selects large enough, below the entries that
    follow, and reporting no SSID that SET would not pick it for. -/
structure KeepsItem (table : List DiagMsgMask) (range : DiagSsidRange) (msg_item : DiagMsgMask) : Prop where
  fit : KeepsFit range msg_item
  near : reportedLast range msg_item ≤ msg_item.ssid_first + MAX_SSID_PER_RANGE
  below : StaysBelow table range msg_item

def KeepsOwned (masks : MaskTables) (op : SetOp) : Prop :=
  ∀ msg_item ∈ selected op.range masks.msg_mask.ptr, KeepsItem masks.msg_mask.ptr op.range msg_item

theorem resized_last_tools {table : List DiagMsgMask} (built : Built table) {msg_item : DiagMsgMask}
    (member : msg_item ∈ table) (junk : Nat → UInt32) (range : DiagSsidRange) :
    (resized junk range msg_item).ssid_last_tools = reportedLast range msg_item := by
  have low := built.ordered member
  have high := built.high msg_item member
  rw [reportedLast]
  by_cases many : MAX_SSID_PER_RANGE < num_ssids range
  · rw [if_pos many]
    by_cases past : msg_item.ssid_first + MAX_SSID_PER_RANGE < range.ssid_last.toNat
    · rw [resized_cut_past many past]
    · rw [resized_cut_within many (by omega)]
  · rw [if_neg many]
    by_cases past : msg_item.ssid_last_tools < range.ssid_last.toNat
    · rw [if_pos past,resized_past (by omega) past low high]
    · rw [if_neg past,resized_within (by omega) (by omega)]

/-! ## Disjoint intervals -/

theorem apart_init : Apart diag_create_msg_mask_table := by
  refine ⟨rfl,?_,?_⟩
  · decide
  · decide

/-- Entries are in the order they were built in. -/
theorem firsts_sorted {table : List DiagMsgMask} (built : Built table) :
    table.Pairwise (fun early late => early.ssid_first < late.ssid_first) := by
  refine (layout_apart built).imp_of_mem ?_
  intro early late member _ apart
  have ordered := (layout_mem built member).1
  omega

/-- What a SET does to the intervals: the selected one gets its new bound. -/
theorem set_apart_iff {before later : List DiagMsgMask} {msg_item after : DiagMsgMask} {range : DiagSsidRange}
    (built : Built (before ++ msg_item :: later)) (apart : Apart (before ++ msg_item :: later))
    (first : after.ssid_first = msg_item.ssid_first) (last : after.ssid_last_tools = reportedLast range msg_item)
    (ordered : after.ssid_first ≤ after.ssid_last_tools) :
    Apart (before ++ after :: later) ↔ StaysBelow (before ++ msg_item :: later) range msg_item := by
  have sorted := List.pairwise_append.mp (firsts_sorted built)
  have disjoint := List.pairwise_append.mp apart.disjoint
  constructor
  · intro reported other member above
    have alone := List.pairwise_append.mp reported.disjoint
    rcases List.mem_append.mp member with early | late
    · have order := sorted.2.2 other early msg_item List.mem_cons_self
      omega
    · rcases List.mem_cons.mp late with rfl | more
      · exact absurd above (Nat.lt_irrefl _)
      · rw [← last]
        exact List.rel_of_pairwise_cons alone.2.1 more
  · intro below
    refine ⟨?_,?_,?_⟩
    · have count := apart.count
      simpa using count
    · exact forall_replaced apart.intervals ordered
    · rw [List.pairwise_append,List.pairwise_cons]
      refine ⟨disjoint.1,⟨?_,(List.pairwise_cons.mp disjoint.2.1).2⟩,?_⟩
      · intro other more
        rw [last]
        exact below other (List.mem_append_right _ (List.mem_cons_of_mem _ more))
          (List.rel_of_pairwise_cons sorted.2.1 more)
      · intro other early late member
        rcases List.mem_cons.mp member with rfl | more
        · rw [first]
          exact disjoint.2.2 other early msg_item List.mem_cons_self
        · exact disjoint.2.2 other early late (List.mem_cons_of_mem _ more)

/-! ## One owner -/

/-- What every SET keeps in any case: no entry promises more than the words it
    owns and the words it was built with. -/
structure Capped (table : List DiagMsgMask) : Prop where
  built : Built table
  tools : ∀ msg_item ∈ table, msg_item.range_tools ≤ max MAX_SSID_PER_RANGE msg_item.ptr.length

theorem capped_init : Capped diag_create_msg_mask_table := by
  refine ⟨built_init,?_⟩
  intro msg_item member
  obtain ⟨bounds,_,rfl⟩ := List.mem_map.mp member
  exact Nat.le_trans (Nat.le_of_eq (by simp [diag_create_msg_mask_table_entry])) (Nat.le_max_right _ _)

/-- The tables in which each reported SSID has one owner. -/
structure Tidy (table : List DiagMsgMask) : Prop where
  apart : Apart table
  fits : ∀ msg_item ∈ table, Fits msg_item
  near : ∀ msg_item ∈ table, msg_item.ssid_last_tools ≤ msg_item.ssid_first + MAX_SSID_PER_RANGE

section
variable {before later : List DiagMsgMask} {msg_item : DiagMsgMask} {ssid : UInt16}

theorem num_ssids_one (ssid : UInt16) : num_ssids ⟨ssid,ssid⟩ = 1 := by
  rw [num_ssids_of_le (Nat.le_succ _)]
  dsimp only
  omega

theorem resized_one (junk : Nat → UInt32) (last : ssid.toNat ≤ msg_item.ssid_last_tools) :
    resized junk ⟨ssid,ssid⟩ msg_item = msg_item :=
  resized_within (by rw [num_ssids_one]; decide) last

/-- SET picks the last entry that begins at or below the range, when the range
    begins near its start. -/
theorem selected_at {range : DiagSsidRange} (built : Built (before ++ msg_item :: later))
    (first : msg_item.ssid_first ≤ range.ssid_first.toNat)
    (near : range.ssid_first.toNat ≤ msg_item.ssid_first + MAX_SSID_PER_RANGE)
    (above : ∀ next ∈ later.head?, range.ssid_first.toNat < next.ssid_first) :
    selected range (before ++ msg_item :: later) = some msg_item := by
  have sorted := firsts_sorted built
  clear built
  induction before with
  | nil =>
    have hit : ¬ skips range msg_item later.head? = true := by
      simp only [skips,decide_eq_true_eq,not_or,not_exists,not_and]
      refine ⟨by omega,by omega,?_⟩
      intro next head
      have below := above next head
      omega
    rw [List.nil_append,selected,if_neg hit]
  | cons other before ih =>
    obtain ⟨order,sorted⟩ := List.pairwise_cons.mp sorted
    have skip : skips range other (before ++ msg_item :: later).head? = true := by
      simp only [skips,decide_eq_true_eq]
      right
      right
      cases before with
      | nil => exact ⟨msg_item,rfl,first⟩
      | cons next before =>
        refine ⟨next,rfl,?_⟩
        have inside := List.rel_of_pairwise_cons sorted (List.mem_append_right before List.mem_cons_self)
        omega
    rw [List.cons_append,selected,if_pos skip]
    exact ih sorted

/-- SET picks the entry that reports the SSID, when it is near its start. -/
theorem selected_owner (built : Built (before ++ msg_item :: later)) (apart : Apart (before ++ msg_item :: later))
    (first : msg_item.ssid_first ≤ ssid.toNat) (last : ssid.toNat ≤ msg_item.ssid_last_tools)
    (near : ssid.toNat ≤ msg_item.ssid_first + MAX_SSID_PER_RANGE) :
    selected ⟨ssid,ssid⟩ (before ++ msg_item :: later) = some msg_item := by
  refine selected_at built first near ?_
  intro next head
  have disjoint := (List.pairwise_append.mp apart.disjoint).2.1
  exact Nat.lt_of_le_of_lt last (List.rel_of_pairwise_cons disjoint (List.mem_of_mem_head? head))

/-- An entry stands at one place of the table. -/
theorem split_unique {early late : List DiagMsgMask} (built : Built (before ++ msg_item :: later))
    (split : before ++ msg_item :: later = early ++ msg_item :: late) : before = early ∧ later = late := by
  have sorted := List.pairwise_append.mp (firsts_sorted built)
  have notLater : msg_item ∉ later := fun member => Nat.lt_irrefl _ (List.rel_of_pairwise_cons sorted.2.1 member)
  have notBefore : msg_item ∉ before := fun member => Nat.lt_irrefl _ (sorted.2.2 msg_item member msg_item List.mem_cons_self)
  obtain ⟨same,_,rest⟩ := (List.append_cons_inj_of_notMem notBefore notLater).mp split
  exact ⟨same,rest⟩

end

theorem tidy_owner {masks : MaskTables} (built : Built masks.msg_mask.ptr) (tidy : Tidy masks.msg_mask.ptr) :
    OneOwner masks := by
  intro before msg_item later ssid table reported
  have member : msg_item ∈ masks.msg_mask.ptr := by
    rw [table]
    exact List.mem_append_right _ List.mem_cons_self
  have fits := tidy.fits msg_item member
  have near := tidy.near msg_item member
  have disjoint := tidy.apart.disjoint
  have inside := reported
  simp only [reports,decide_eq_true_eq] at inside
  obtain ⟨first,last⟩ := inside
  have size := (layout_mem built member).2.2.1
  have picked : selected ⟨ssid,ssid⟩ masks.msg_mask.ptr = some msg_item := by
    have apart := tidy.apart
    rw [table] at built apart ⊢
    exact selected_owner built apart first last (Nat.le_trans last near)
  refine ⟨?_,picked,?_⟩
  · intro ssid_last
    rw [size]
    refine get_msg_mask_found ⟨ssid,ssid_last⟩ built ?_ fits.range
    rw [table] at disjoint ⊢
    refine find_item ?_ reported
    intro other early
    have order := (List.pairwise_append.mp disjoint).2.2 other early msg_item List.mem_cons_self
    dsimp only
    omega
  · intro junk mask
    have same := resized_one junk last
    have one := num_ssids_one ssid
    have tools := fits.tools
    obtain ⟨ret,after,set,zero,ptr,_,rfl,words⟩ :=
      @set_msg_item_cases junk ⟨ssid,ssid⟩ mask msg_item first (by rw [same]; exact tools)
    have amount : stored ⟨ssid,ssid⟩ = 1 := by rw [stored,one]; rfl
    rw [same,amount] at zero words
    have accepted : ret = 0 := zero.mpr (by have promised := fits.reported; dsimp only; omega)
    subst accepted
    rw [same] at set
    obtain ⟨early,late,split,_,loop⟩ := set_msg_loop_some junk mask picked
    obtain ⟨rfl,rfl⟩ := split_unique (table ▸ built) (table.symm.trans split)
    refine ⟨ptr,set_msg_mask_ok_iff.mpr ⟨_,by rw [loop,set]; rfl,rfl⟩,?_⟩
    intro k
    rw [words k]
    by_cases here : k = ssid.toNat - msg_item.ssid_first
    · rw [if_pos ⟨rfl,by dsimp only; omega,by dsimp only; omega⟩,if_pos here]
      congr
      dsimp only
      omega
    · rw [if_neg (by dsimp only; omega),if_neg here]

theorem send_masks_loop_all (junk : Nat → Nat → UInt8) {masks : MaskTables} (built : Built masks.msg_mask.ptr)
    (tidy : Tidy masks.msg_mask.ptr) (valid : masks.msg_mask.status = DIAG_CTRL_MASK_VALID) {items : List DiagMsgMask}
    {p : Peripheral} (present : p.cntl_fd ≠ -1)
    (found : ∀ msg_item ∈ items, masks.msg_mask.ptr.find? (reports msg_item.ssid_first) = some msg_item) :
    send_masks_loop junk masks (items.map (fun msg_item => (msg_item.ssid_first,msg_item.ssid_last))) p =
      .ok { p with cntlq := p.cntlq ++ items.map item_packet } := by
  induction items generalizing junk p with
  | nil => simp [send_masks_loop]
  | cons msg_item rest ih =>
    obtain ⟨here,others⟩ := List.forall_mem_cons.mp found
    have member := List.mem_of_find?_eq_some here
    have asked : masks.msg_mask.ptr.find? (reports (bounds msg_item).ssid_first.toNat) = some msg_item := by
      rw [bounds_first built member]
      exact here
    have sent := send_msg_mask_found (junk 0) (bounds msg_item) p built valid asked (tidy.fits msg_item member).range
    rw [List.map_cons,send_masks_loop]
    dsimp only
    rw [← bounds,sent,ok_bind]
    dsimp only
    rw [MaskBroadcast.tell,if_neg present,ih _ _ others]
    · simp
    · exact present

theorem tidy_sends {masks : MaskTables} (built : Built masks.msg_mask.ptr) (tidy : Tidy masks.msg_mask.ptr) :
    SendsEach masks := by
  intro valid junk p present
  have order : ssid_first_arr.zip ssid_last_arr =
      masks.msg_mask.ptr.map (fun msg_item => (msg_item.ssid_first,msg_item.ssid_last)) := by
    have same := congrArg (List.map (fun row => (row.1,row.2.1))) built.same
    simp only [layout,List.map_map] at same
    exact same.symm
  rw [diag_cntl_send_masks,order]
  refine send_masks_loop_all junk built tidy valid present ?_
  intro msg_item member
  obtain ⟨before,later,table⟩ := List.append_of_mem member
  have disjoint := tidy.apart.disjoint
  have ordered := built.ordered member
  rw [table] at disjoint ⊢
  refine find_item (fun other early => (List.pairwise_append.mp disjoint).2.2 other early msg_item List.mem_cons_self) ?_
  simp only [reports,decide_eq_true_eq]
  omega

/-- A GET that is answered with the words of the entry stays inside them. -/
theorem get_room {masks : MaskTables} {range : DiagSsidRange} {msg_item : DiagMsgMask} {answer : DiagSsidRange × List UInt32}
    (found : masks.msg_mask.ptr.find? (reports range.ssid_first.toNat) = some msg_item)
    (got : diag_cmd_get_msg_mask masks range = .ok (some answer)) : msg_item.range ≤ msg_item.ptr.length := by
  rw [diag_cmd_get_msg_mask,found] at got
  obtain ⟨words,copied,_⟩ := bind_eq_ok.mp got
  exact (load_ok_iff.mp copied).1

/-- A SET of one reported SSID that is accepted stays inside what the entry
    promises. -/
theorem set_one_promised {masks after : MaskTables} {junk mask : Nat → UInt32} {ssid : UInt16} {msg_item : DiagMsgMask}
    (picked : selected ⟨ssid,ssid⟩ masks.msg_mask.ptr = some msg_item) (last : ssid.toNat ≤ msg_item.ssid_last_tools)
    (set : diag_cmd_set_msg_mask junk masks ⟨ssid,ssid⟩ mask = .ok (0,after)) :
    ssid.toNat ≤ msg_item.ssid_first + MAX_SSID_PER_RANGE ∧ ssid.toNat + 1 ≤ msg_item.range_tools + msg_item.ssid_first := by
  have bound := ssid.toNat_lt
  obtain ⟨before,later,_,hit,loop⟩ := set_msg_loop_some junk mask picked
  obtain ⟨first,near,_⟩ := not_skips hit
  dsimp only at first near
  refine ⟨near,?_⟩
  obtain ⟨items,ran,_⟩ := set_msg_mask_ok_iff.mp set
  rw [loop] at ran
  obtain ⟨⟨ret,item⟩,stores,same⟩ := bind_eq_ok.mp ran
  cases same
  rw [set_msg_item_eq] at stores
  dsimp only at stores
  rw [resized_one junk last,stored,num_ssids_one,u32_of_lt (by omega) (by omega)] at stores
  split_ifs at stores with outside
  · cases stores
  · have one : min 1 MAX_SSID_PER_RANGE = 1 := rfl
    omega

/-- Nothing less will do. -/
theorem owned_tidy {masks : MaskTables} (capped : Capped masks.msg_mask.ptr) (owned : Owned masks) :
    Tidy masks.msg_mask.ptr := by
  have each : ∀ msg_item ∈ masks.msg_mask.ptr,
      Fits msg_item ∧ msg_item.ssid_last_tools ≤ msg_item.ssid_first + MAX_SSID_PER_RANGE := by
    intro msg_item member
    obtain ⟨before,later,table⟩ := List.append_of_mem member
    have ordered := capped.built.ordered member
    have high := capped.built.high msg_item member
    have size := (layout_mem capped.built member).2.2.1
    have limit := capped.tools msg_item member
    have last : (UInt16.ofNat msg_item.ssid_last_tools).toNat = msg_item.ssid_last_tools := by
      rw [UInt16.toNat_ofNat']
      omega
    have reported : reports (UInt16.ofNat msg_item.ssid_last_tools).toNat msg_item = true := by
      simp only [reports,decide_eq_true_eq]
      omega
    obtain ⟨got,picked,set⟩ := owned.owner before msg_item later _ table reported
    obtain ⟨ptr,accepted,_⟩ := set (fun _ => 0) (fun _ => 0)
    obtain ⟨near,promised⟩ := set_one_promised picked (Nat.le_of_eq last) accepted
    have disjoint := owned.apart.disjoint
    have found : masks.msg_mask.ptr.find? (reports (UInt16.ofNat msg_item.ssid_last_tools).toNat) = some msg_item := by
      rw [table] at disjoint ⊢
      refine find_item ?_ reported
      intro other early
      have order := (List.pairwise_append.mp disjoint).2.2 other early msg_item List.mem_cons_self
      omega
    have range := @get_room masks ⟨UInt16.ofNat msg_item.ssid_last_tools,0⟩ msg_item _ found (got 0)
    exact ⟨⟨by omega,by omega,range⟩,by omega⟩
  exact ⟨owned.apart,fun msg_item member => (each msg_item member).1,fun msg_item member => (each msg_item member).2⟩

theorem owned_iff {masks : MaskTables} (capped : Capped masks.msg_mask.ptr) : Owned masks ↔ Tidy masks.msg_mask.ptr :=
  ⟨owned_tidy capped,fun tidy => ⟨tidy.apart,tidy_owner capped.built tidy,tidy_sends capped.built tidy⟩⟩

/-! ## Runs -/

theorem resized_capped {table : List DiagMsgMask} (capped : Capped table) {msg_item : DiagMsgMask} (member : msg_item ∈ table)
    (junk : Nat → UInt32) (range : DiagSsidRange) :
    (resized junk range msg_item).range_tools ≤ max MAX_SSID_PER_RANGE (resized junk range msg_item).ptr.length := by
  have low := capped.built.ordered member
  have high := capped.built.high msg_item member
  have limit := capped.tools msg_item member
  by_cases many : MAX_SSID_PER_RANGE < num_ssids range
  · by_cases past : msg_item.ssid_first + MAX_SSID_PER_RANGE < range.ssid_last.toNat
    · rw [resized_cut_past many past]
      simp
    · rw [resized_cut_within many (by omega)]
      exact Nat.le_max_left _ _
  · by_cases past : msg_item.ssid_last_tools < range.ssid_last.toNat
    · rw [resized_past (by omega) past low high]
      simp only [resize_length]
      exact Nat.le_max_right _ _
    · rw [resized_within (by omega) (by omega)]
      exact limit

/-- What a SET leaves: the tables as they were, or the entry it selected with
    its new bounds. -/
theorem set_step_cases {masks after : MaskTables} {op : SetOp} (step : set_step masks op = .ok after) :
    (selected op.range masks.msg_mask.ptr = none ∧ after.msg_mask.ptr = masks.msg_mask.ptr) ∨
    ∃ before msg_item later ptr, selected op.range masks.msg_mask.ptr = some msg_item ∧
      masks.msg_mask.ptr = before ++ msg_item :: later ∧ ptr.length = (resized op.junk op.range msg_item).ptr.length ∧
      after.msg_mask.ptr = before ++ { resized op.junk op.range msg_item with ptr := ptr } :: later := by
  obtain ⟨⟨ret,final⟩,set,rfl⟩ := map_eq_ok.mp step
  obtain ⟨items,loop,rfl⟩ := set_msg_mask_ok_iff.mp set
  cases found : selected op.range masks.msg_mask.ptr with
  | none =>
    rw [set_msg_loop_none op.junk op.mask found] at loop
    cases loop
    exact .inl ⟨rfl,rfl⟩
  | some msg_item =>
    obtain ⟨before,later,split,_,ran⟩ := set_msg_loop_some op.junk op.mask found
    rw [ran] at loop
    obtain ⟨⟨code,item⟩,stored,same⟩ := bind_eq_ok.mp loop
    cases same
    obtain ⟨ptr,length,rfl⟩ := set_msg_item_frame stored
    exact .inr ⟨before,msg_item,later,ptr,rfl,split,length,rfl⟩

theorem set_step_capped {masks after : MaskTables} {op : SetOp} (capped : Capped masks.msg_mask.ptr)
    (step : set_step masks op = .ok after) : Capped after.msg_mask.ptr := by
  rcases set_step_cases step with ⟨_,same⟩ | ⟨before,msg_item,later,ptr,found,split,length,same⟩
  · rw [same]
    exact capped
  · have member := selected_mem found
    obtain ⟨low,high⟩ := resized_tools capped.built member op.junk op.range
    have limit := resized_capped capped member op.junk op.range
    have built := capped.built
    have tools := capped.tools
    rw [same]
    rw [split] at built tools
    refine ⟨built.replace (by simp) (by simp) (by simp) (by simpa using low) (by simpa using high),?_⟩
    rw [← length] at limit
    exact forall_replaced tools limit

theorem set_step_apart {masks after : MaskTables} {op : SetOp} (capped : Capped masks.msg_mask.ptr)
    (apart : Apart masks.msg_mask.ptr) (step : set_step masks op = .ok after) :
    Apart after.msg_mask.ptr ↔ KeepsApart masks op := by
  rcases set_step_cases step with ⟨found,same⟩ | ⟨before,msg_item,later,ptr,found,split,_,same⟩
  · rw [KeepsApart,found,same]
    exact ⟨fun _ _ none => absurd none (by simp),fun _ => apart⟩
  · have built := capped.built
    have member := selected_mem found
    have bound := resized_last_tools built member op.junk op.range
    have low := (resized_tools built member op.junk op.range).1
    have ordered := (layout_mem built member).1
    simp only [KeepsApart,found,Option.mem_def,Option.some.injEq,forall_eq']
    rw [same]
    rw [split] at built apart ⊢
    apply @set_apart_iff before later msg_item { resized op.junk op.range msg_item with ptr := ptr } op.range built apart
      (resized_ssid_first op.junk op.range msg_item) bound
    have first := resized_ssid_first op.junk op.range msg_item
    dsimp only
    omega

/-- A SET that keeps the owners is one that neither faults nor leaves anything
    untidy. -/
theorem set_step_tidy {masks : MaskTables} {op : SetOp} (capped : Capped masks.msg_mask.ptr)
    (tidy : Tidy masks.msg_mask.ptr) :
    KeepsOwned masks op ↔ ∃ after, set_step masks op = .ok after ∧ Tidy after.msg_mask.ptr := by
  have fits := @set_msg_loop_fits_iff op.junk op.range op.mask _ capped.built tidy.fits
  constructor
  · intro keeps
    obtain ⟨ret,items,loop,good⟩ := fits.mpr (fun msg_item found => (keeps msg_item found).fit)
    have step : set_step masks op = .ok _ := map_eq_ok.mpr ⟨_,set_msg_mask_ok_iff.mpr ⟨items,loop,rfl⟩,rfl⟩
    refine ⟨_,step,(set_step_apart capped tidy.apart step).mpr (fun msg_item found => (keeps msg_item found).below),good,?_⟩
    rcases set_step_cases step with ⟨_,same⟩ | ⟨before,msg_item,later,ptr,found,split,_,same⟩
    · rw [same]
      exact tidy.near
    · have bound := resized_last_tools capped.built (selected_mem found) op.junk op.range
      have near := tidy.near
      rw [same]
      rw [split] at near
      apply forall_replaced near
      dsimp only
      rw [bound,resized_ssid_first]
      exact (keeps msg_item found).near
  · rintro ⟨after,step,good⟩ msg_item found
    have below := (set_step_apart capped tidy.apart step).mp good.apart msg_item found
    have bound := resized_last_tools capped.built (selected_mem found) op.junk op.range
    refine ⟨?_,?_,below⟩
    · obtain ⟨⟨ret,final⟩,set,rfl⟩ := map_eq_ok.mp step
      obtain ⟨items,loop,rfl⟩ := set_msg_mask_ok_iff.mp set
      exact fits.mp ⟨ret,items,loop,good.fits⟩ msg_item found
    · rcases set_step_cases step with ⟨none,_⟩ | ⟨before,item,later,ptr,again,split,_,same⟩
      · rw [none] at found
        cases found
      · cases found.symm.trans again
        have near := good.near _ (by rw [same]; exact List.mem_append_right _ List.mem_cons_self)
        dsimp only at near
        rw [bound,resized_ssid_first] at near
        exact near

theorem tidy_init : Tidy diag_create_msg_mask_table := by
  refine ⟨apart_init,buffers_init,?_⟩
  decide

/-- From the tables as built, SETs that stay below the entries that follow leave
    the reported intervals apart. The owners of the reported SSIDs are kept too,
    and each entry is sent once, exactly when every SET also leaves its entry
    large enough and reporting nothing that SET would not pick it for. -/
theorem ssid_ownership_iff (sets : List SetOp) :
    (Meets set_step KeepsApart diag_masks_init sets →
      Along set_step (fun masks => Apart masks.msg_mask.ptr) diag_masks_init sets) ∧
    (Safe set_step Owned diag_masks_init sets ↔ Meets set_step KeepsOwned diag_masks_init sets) := by
  constructor
  · exact along_of_meets (fun masks => Capped masks.msg_mask.ptr) set_step_capped
      (fun capped apart keeps step => (set_step_apart capped apart step).mpr keeps) capped_init apart_init
  · refine safe_iff_meets (fun masks => Capped masks.msg_mask.ptr) (fun capped _ step _ => set_step_capped capped step) ?_ sets
      capped_init ((owned_iff capped_init).mpr tidy_init)
    intro masks op capped owned
    rw [set_step_tidy capped (owned_tidy capped owned)]
    constructor
    · rintro ⟨after,step,tidy⟩
      exact ⟨after,step,(owned_iff (set_step_capped capped step)).mpr tidy⟩
    · rintro ⟨after,step,good⟩
      exact ⟨after,step,owned_tidy (set_step_capped capped step) good⟩

/-- SSIDs 10240 to 10260 make the entry of 10200 report the next one's start. -/
theorem set_10260_overlaps :
    ∃ after, exec set_step diag_masks_init [⟨fun _ => 0,⟨10240,10260⟩,fun _ => 0⟩] = .ok after ∧ ¬ Apart after.msg_mask.ptr := by
  have ran : (fun _ => ()) <$> exec set_step diag_masks_init [⟨fun _ => 0,⟨10240,10260⟩,fun _ => 0⟩] = .ok () := by
    decide +kernel
  obtain ⟨after,run,_⟩ := map_eq_ok.mp ran
  refine ⟨after,run,?_⟩
  have step : set_step diag_masks_init ⟨fun _ => 0,⟨10240,10260⟩,fun _ => 0⟩ = .ok after := by
    obtain ⟨last,stepped,same⟩ := bind_eq_ok.mp run
    cases same
    exact stepped
  intro apart
  have keeps := (set_step_apart capped_init apart_init step).mp apart
  have below := keeps (diag_create_msg_mask_table_entry 10200 10210) rfl (diag_create_msg_mask_table_entry 10251 10255)
    (List.mem_map.mpr ⟨(10251,10255),by decide,rfl⟩) (by decide)
  exact absurd below (by decide)

end DiagRouter.SsidOwnership

import DiagRouter.SsidOwnership

/-!
# What SETs of message masks are accepted

A range that ends inside the 200 SSIDs of an entry, and below the next entry,
is meant to be stored there, and no entry is meant to report more. Both fail at
the limit: a range of exactly 200 SSIDs does not extend the entry that is to
take it, and a longer one, or one that begins behind the start of the entry,
makes it report more than 200.
-/
namespace DiagRouter.SetAcceptance
open DiagRouter.Lib.Memory DiagRouter.Lib.Runs DiagRouter.Masks DiagRouter.MsgMaskTable
open DiagRouter.MsgMaskReadBack (SetOp Refused Within set_accepts_iff set_taken)
open DiagRouter.SsidOwnership (set_step set_step_cases selected_at split_unique resized_last_tools reportedLast)

/-! ## What is asked of a SET -/

/-- A range inside the SSIDs that an entry may report, and below the next entry. -/
structure Offered (msg_item : DiagMsgMask) (later : List DiagMsgMask) (range : DiagSsidRange) : Prop where
  first : msg_item.ssid_first ≤ range.ssid_first.toNat
  ordered : range.ssid_first.toNat ≤ range.ssid_last.toNat
  last : range.ssid_last.toNat ≤ msg_item.ssid_first + MAX_SSID_PER_RANGE - 1
  next : ∀ next ∈ later.head?, range.ssid_last.toNat < next.ssid_first

/-- The SET succeeds, the entry holds its words and reports up to its end, and the
    other entries are as they were. -/
def Takes (masks : MaskTables) (before : List DiagMsgMask) (msg_item : DiagMsgMask) (later : List DiagMsgMask)
    (range : DiagSsidRange) : Prop :=
  ∀ junk mask, ∃ after new, diag_cmd_set_msg_mask junk masks range mask = .ok (0,after) ∧
    after.msg_mask.ptr = before ++ new :: later ∧ new.ssid_first = msg_item.ssid_first ∧
    new.ssid_last_tools = max msg_item.ssid_last_tools range.ssid_last.toNat ∧
    ∀ k, k < range.ssid_last.toNat - range.ssid_first.toNat + 1 →
      new.ptr[range.ssid_first.toNat - msg_item.ssid_first + k]? = some (mask k)

/-- No entry reports more SSIDs than the maximum. -/
def Cap (masks : MaskTables) : Prop :=
  ∀ msg_item ∈ masks.msg_mask.ptr, msg_item.ssid_last_tools - msg_item.ssid_first + 1 ≤ MAX_SSID_PER_RANGE

/-- A range that an entry takes. `extends`: it is not for all SSIDs that the entry
    may report, unless the entry reports them. `owned`: where the entry is not
    reallocated, it owns the words. -/
structure Takable (msg_item : DiagMsgMask) (range : DiagSsidRange) : Prop where
  extends_ : msg_item.ssid_last_tools < range.ssid_last.toNat → ¬ (range.ssid_first.toNat = msg_item.ssid_first ∧
    range.ssid_last.toNat = msg_item.ssid_first + MAX_SSID_PER_RANGE - 1)
  owned : range.ssid_last.toNat ≤ msg_item.ssid_last_tools →
    range.ssid_last.toNat - msg_item.ssid_first + 1 ≤ msg_item.ptr.length

/-- A SET that makes no entry report more than the maximum: it is not cut, and if
    it extends its entry then inside the maximum. -/
def KeepsCap (masks : MaskTables) (op : SetOp) : Prop :=
  ∀ msg_item ∈ selected op.range masks.msg_mask.ptr, num_ssids op.range ≤ MAX_SSID_PER_RANGE ∧
    (num_ssids op.range < MAX_SSID_PER_RANGE → op.range.ssid_last.toNat ≤ msg_item.ssid_first + MAX_SSID_PER_RANGE - 1)

/-! ## What every SET keeps -/

/-- Entries promise the words of the SSIDs they report, up to the maximum. -/
structure Promised (table : List DiagMsgMask) : Prop where
  built : Built table
  tools : ∀ msg_item ∈ table, min (msg_item.ssid_last_tools - msg_item.ssid_first + 1) MAX_SSID_PER_RANGE ≤ msg_item.range_tools

theorem promised_init : Promised diag_masks_init.msg_mask.ptr := ⟨built_init,by decide⟩

theorem resized_promised {table : List DiagMsgMask} (promised : Promised table) {msg_item : DiagMsgMask}
    (member : msg_item ∈ table) (junk : Nat → UInt32) (range : DiagSsidRange) :
    min ((resized junk range msg_item).ssid_last_tools - (resized junk range msg_item).ssid_first + 1) MAX_SSID_PER_RANGE ≤
      (resized junk range msg_item).range_tools := by
  have low := promised.built.ordered member
  have high := promised.built.high msg_item member
  by_cases many : MAX_SSID_PER_RANGE < num_ssids range
  · by_cases past : msg_item.ssid_first + MAX_SSID_PER_RANGE < range.ssid_last.toNat
    · rw [resized_cut_past many past]
      dsimp only
      omega
    · rw [resized_cut_within many (by omega)]
      exact Nat.min_le_right _ _
  · by_cases past : msg_item.ssid_last_tools < range.ssid_last.toNat
    · rw [resized_past (by omega) past low high]
      exact Nat.min_le_left _ _
    · rw [resized_within (by omega) (by omega)]
      exact promised.tools msg_item member

theorem set_step_promised {masks after : MaskTables} {op : SetOp} (promised : Promised masks.msg_mask.ptr)
    (step : set_step masks op = .ok after) : Promised after.msg_mask.ptr := by
  rcases set_step_cases step with ⟨_,same⟩ | ⟨before,msg_item,later,ptr,found,split,_,same⟩
  · rw [same]
    exact promised
  · have kept := resized_promised promised (selected_mem found) op.junk op.range
    obtain ⟨⟨ret,final⟩,set,rfl⟩ := map_eq_ok.mp step
    obtain ⟨items,loop,rfl⟩ := set_msg_mask_ok_iff.mp set
    have built := set_msg_loop_built promised.built loop
    have tools := promised.tools
    dsimp only at same
    rw [same] at built ⊢
    rw [split] at tools
    exact ⟨built,forall_replaced tools kept⟩

/-! ## One range -/

section
variable {masks : MaskTables} {before later : List DiagMsgMask} {msg_item : DiagMsgMask} {range : DiagSsidRange}

theorem offered_count (offered : Offered msg_item later range) :
    num_ssids range = range.ssid_last.toNat - range.ssid_first.toNat + 1 ∧ num_ssids range ≤ MAX_SSID_PER_RANGE := by
  obtain ⟨first,ordered,last,_⟩ := offered
  have count := @num_ssids_of_le range (by omega)
  have capacity : MAX_SSID_PER_RANGE = 200 := rfl
  omega

theorem offered_selected (built : Built (before ++ msg_item :: later)) (offered : Offered msg_item later range) :
    selected range (before ++ msg_item :: later) = some msg_item := by
  obtain ⟨first,ordered,last,next⟩ := offered
  have capacity : MAX_SSID_PER_RANGE = 200 := rfl
  refine selected_at built first (by omega) ?_
  intro head present
  exact Nat.lt_of_le_of_lt ordered (next head present)

theorem offered_refused (promised : Promised (before ++ msg_item :: later)) (offered : Offered msg_item later range) :
    Refused range msg_item ↔ msg_item.ssid_last_tools < range.ssid_last.toNat ∧
      range.ssid_first.toNat = msg_item.ssid_first ∧
      range.ssid_last.toNat = msg_item.ssid_first + MAX_SSID_PER_RANGE - 1 := by
  have tools := promised.tools msg_item (List.mem_append_right _ List.mem_cons_self)
  obtain ⟨count,few⟩ := offered_count offered
  obtain ⟨first,ordered,last,_⟩ := offered
  have capacity : MAX_SSID_PER_RANGE = 200 := rfl
  rw [Refused,if_neg (by omega)]
  by_cases past : msg_item.ssid_last_tools < range.ssid_last.toNat
  · rw [if_pos past]
    omega
  · rw [if_neg past]
    omega

theorem offered_within (built : Built (before ++ msg_item :: later)) (offered : Offered msg_item later range)
    (taken : ¬ Refused range msg_item) :
    Within range msg_item ↔ (range.ssid_last.toNat ≤ msg_item.ssid_last_tools →
      range.ssid_last.toNat - msg_item.ssid_first + 1 ≤ msg_item.ptr.length) := by
  have member : msg_item ∈ before ++ msg_item :: later := List.mem_append_right _ List.mem_cons_self
  obtain ⟨count,few⟩ := offered_count offered
  obtain ⟨first,ordered,_,_⟩ := offered
  rw [Within,stored]
  by_cases past : msg_item.ssid_last_tools < range.ssid_last.toNat
  · rw [Refused,if_neg (by omega),if_pos past] at taken
    rw [resized_past few past (built.ordered member) (built.high msg_item member)]
    simp only [resize_length,extendedLast,if_neg taken]
    omega
  · rw [resized_within few (by omega)]
    omega

/-- What an accepted SET has stored. -/
theorem accepted_words {junk mask : Nat → UInt32} {after : MaskTables}
    (found : selected range masks.msg_mask.ptr = some msg_item)
    (set : diag_cmd_set_msg_mask junk masks range mask = .ok (0,after)) :
    ∃ before later ptr, masks.msg_mask.ptr = before ++ msg_item :: later ∧
      after.msg_mask.ptr = before ++ { resized junk range msg_item with ptr := ptr } :: later ∧
      ∀ k, k < stored range → ptr[range.ssid_first.toNat - msg_item.ssid_first + k]? = some (mask k) := by
  obtain ⟨items,ran,rfl⟩ := set_msg_mask_ok_iff.mp set
  obtain ⟨before,later,split,hit,loop⟩ := set_msg_loop_some junk mask found
  obtain ⟨first,_,_⟩ := not_skips hit
  rw [loop] at ran
  obtain ⟨⟨code,new⟩,one,same⟩ := bind_eq_ok.mp ran
  cases same
  rw [set_msg_item_eq] at one
  dsimp only at one
  rw [resized_offset junk first] at one
  split_ifs at one
  · cases one
  · obtain ⟨ptr,copied,same⟩ := bind_eq_ok.mp one
    cases same
    refine ⟨before,later,ptr,split,rfl,?_⟩
    intro k below
    rw [store_getElem? copied,span_length,if_pos ⟨by omega,by omega⟩,span_getElem? (by omega)]
    congr 2
    omega

theorem takes_iff (promised : Promised masks.msg_mask.ptr) (split : masks.msg_mask.ptr = before ++ msg_item :: later)
    (offered : Offered msg_item later range) : Takes masks before msg_item later range ↔ Takable msg_item range := by
  have built := promised.built
  have found : selected range masks.msg_mask.ptr = some msg_item := by
    rw [split] at built ⊢
    exact offered_selected built offered
  have refused := offered_refused (split ▸ promised) offered
  have within := offered_within (split ▸ built) offered
  obtain ⟨count,few⟩ := offered_count offered
  constructor
  · intro takes
    obtain ⟨after,_,set,_⟩ := takes (fun _ => 0) (fun _ => 0)
    obtain ⟨other,picked,taken,inside⟩ := (set_accepts_iff built).mp ⟨after,set⟩
    cases picked.symm.trans found
    exact ⟨fun past whole => taken (refused.mpr ⟨past,whole⟩),(within taken).mp inside⟩
  · rintro ⟨extends_,owned⟩ junk mask
    have taken : ¬ Refused range msg_item := fun refuses => extends_ (refused.mp refuses).1 (refused.mp refuses).2
    obtain ⟨after,set⟩ := (@set_accepts_iff junk mask masks range built).mpr ⟨msg_item,found,taken,(within taken).mpr owned⟩
    obtain ⟨early,late,ptr,again,table,words⟩ := accepted_words found set
    rw [split] at again
    obtain ⟨rfl,rfl⟩ := split_unique (split ▸ built) again
    refine ⟨after,_,set,table,resized_ssid_first junk range msg_item,?_,?_⟩
    · have bound := resized_last_tools built (selected_mem found) junk range
      dsimp only
      rw [bound,reportedLast,if_neg (by omega)]
      by_cases past : msg_item.ssid_last_tools < range.ssid_last.toNat
      · rw [Refused,if_neg (by omega),if_pos past] at taken
        rw [if_pos past,extendedLast,if_neg taken]
        omega
      · rw [if_neg past]
        omega
    · intro k below
      exact words k (by rw [stored]; omega)

end

/-! ## Runs -/

theorem cap_init : Cap diag_masks_init := by
  unfold Cap
  decide

/-- A SET keeps the cap exactly when it is not cut and does not extend its entry
    past the maximum. -/
theorem set_step_cap {masks after : MaskTables} {op : SetOp} (promised : Promised masks.msg_mask.ptr) (cap : Cap masks)
    (step : set_step masks op = .ok after) : KeepsCap masks op ↔ Cap after := by
  rcases set_step_cases step with ⟨found,same⟩ | ⟨before,msg_item,later,ptr,found,split,_,same⟩
  · rw [KeepsCap,Cap,found,same]
    exact ⟨fun _ => cap,fun _ _ none => absurd none (by simp)⟩
  · have member := selected_mem found
    have own := cap msg_item member
    have low := promised.built.ordered member
    have bound := resized_last_tools promised.built member op.junk op.range
    have capacity : MAX_SSID_PER_RANGE = 200 := rfl
    have reported : reportedLast op.range msg_item - msg_item.ssid_first + 1 ≤ MAX_SSID_PER_RANGE ↔
        num_ssids op.range ≤ MAX_SSID_PER_RANGE ∧ (num_ssids op.range < MAX_SSID_PER_RANGE →
          op.range.ssid_last.toNat ≤ msg_item.ssid_first + MAX_SSID_PER_RANGE - 1) := by
      unfold reportedLast extendedLast
      split_ifs <;> omega
    have alone : Cap after ↔ reportedLast op.range msg_item - msg_item.ssid_first + 1 ≤ MAX_SSID_PER_RANGE := by
      rw [Cap,split] at cap
      rw [Cap,same]
      constructor
      · intro all
        have new := all _ (List.mem_append_right _ List.mem_cons_self)
        dsimp only at new
        rwa [bound,resized_ssid_first] at new
      · intro good
        refine forall_replaced cap ?_
        dsimp only
        rwa [bound,resized_ssid_first]
    rw [alone,reported,KeepsCap,found]
    simp only [Option.mem_def,Option.some.injEq,forall_eq']

/-- In every state that a run of SETs reaches, an offered range is taken exactly
    when it is takable; and no state of the run breaks the cap exactly when every
    SET of it keeps the cap. -/
theorem set_acceptance_iff {ops : List SetOp} {masks : MaskTables} (reached : exec set_step diag_masks_init ops = .ok masks) :
    (∀ before msg_item later range, masks.msg_mask.ptr = before ++ msg_item :: later → Offered msg_item later range →
      (Takes masks before msg_item later range ↔ Takable msg_item range)) ∧
    (Along set_step Cap diag_masks_init ops ↔ Meets set_step KeepsCap diag_masks_init ops) := by
  have promised := exec_invariant (I := fun masks => Promised masks.msg_mask.ptr)
    (fun promised step => set_step_promised promised step) promised_init reached
  refine ⟨fun before msg_item later range split offered => takes_iff promised split offered,?_⟩
  exact along_iff_meets_of_run (L := fun _ _ => True) (fun masks => Promised masks.msg_mask.ptr)
    (fun promised _ step => set_step_promised promised step) (fun promised _ cap step => set_step_cap promised cap step)
    reached promised_init (meets_any (fun _ _ => trivial) _ _) cap_init

theorem set_acceptance_ten :
    Takes diag_masks_init [] (diag_create_msg_mask_table_entry 0 120) diag_create_msg_mask_table.tail ⟨10,12⟩ := by
  refine ((@set_acceptance_iff [] diag_masks_init rfl).1 [] (diag_create_msg_mask_table_entry 0 120)
    diag_create_msg_mask_table.tail ⟨10,12⟩ rfl ⟨by decide,by decide,by decide,by decide⟩).mpr ⟨by decide,?_⟩
  intro _
  rw [diag_create_msg_mask_table_entry,List.length_replicate]
  decide

/-- The first entry does not take SSIDs 0 to 199; after SSIDs 0 to 200 it reports
    201 of them. -/
theorem set_at_the_limit :
    (Offered (diag_create_msg_mask_table_entry 0 120) diag_create_msg_mask_table.tail ⟨0,199⟩ ∧
      ¬ Takes diag_masks_init [] (diag_create_msg_mask_table_entry 0 120) diag_create_msg_mask_table.tail ⟨0,199⟩) ∧
    ∃ after, exec set_step diag_masks_init [⟨fun _ => 0,⟨0,200⟩,fun _ => 0⟩] = .ok after ∧ ¬ Cap after := by
  refine ⟨⟨⟨by decide,by decide,by decide,by decide⟩,?_⟩,?_⟩
  · intro takes
    obtain ⟨after,_,set,_⟩ := takes (fun _ => 0) (fun _ => 0)
    have refused : Prod.fst <$> diag_cmd_set_msg_mask (fun _ => 0) diag_masks_init ⟨0,199⟩ (fun _ => 0) = .ok 1 := by
      decide +kernel
    rw [set] at refused
    exact Nat.zero_ne_one (Except.ok.inj refused)
  · have ran : (fun masks => masks.msg_mask.ptr.all (fun msg_item =>
        msg_item.ssid_last_tools - msg_item.ssid_first + 1 ≤ MAX_SSID_PER_RANGE)) <$>
          exec set_step diag_masks_init [⟨fun _ => 0,⟨0,200⟩,fun _ => 0⟩] = .ok false := by decide +kernel
    obtain ⟨after,run,longer⟩ := map_eq_ok.mp ran
    refine ⟨after,run,?_⟩
    intro cap
    have all := List.all_eq_true.mpr (fun msg_item member => decide_eq_true (cap msg_item member))
    rw [longer] at all
    cases all

end DiagRouter.SetAcceptance

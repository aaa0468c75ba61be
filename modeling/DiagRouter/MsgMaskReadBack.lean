import DiagRouter.Handlers
import DiagRouter.MsgMaskTable

/-!
# Reading message masks back

The table against the map it stands for: the word each SSID was last given. GET
reads the first entry that reports the SSID, but answers with the build-time
bounds of that entry, so an SSID has one entry it can be read from, its home. A
word stays readable as long as no SET stores it elsewhere, makes an earlier
entry report it, or shrinks a buffer.
-/
namespace DiagRouter.MsgMaskReadBack
open DiagRouter.Lib.Memory DiagRouter.Lib.Runs DiagRouter.Lib.Words DiagRouter.Masks DiagRouter.MsgMaskTable
open DiagRouter.Handlers

/-! ## Runs of SETs -/

structure SetOp where
  junk : Nat → UInt32
  range : DiagSsidRange
  mask : Nat → UInt32

/-- The tables, and the word each SSID was last given. -/
structure State where
  masks : MaskTables
  given : UInt16 → Option UInt32

def Contains (range : DiagSsidRange) (ssid : UInt16) : Prop :=
  range.ssid_first.toNat ≤ ssid.toNat ∧ ssid.toNat ≤ range.ssid_last.toNat

instance (range : DiagSsidRange) (ssid : UInt16) : Decidable (Contains range ssid) :=
  inferInstanceAs (Decidable (_ ∧ _))

/-- What a successful SET gives every SSID it names. -/
def give (range : DiagSsidRange) (mask : Nat → UInt32) (given : UInt16 → Option UInt32) (ssid : UInt16) :
    Option UInt32 :=
  if Contains range ssid then some (mask (ssid.toNat - range.ssid_first.toNat)) else given ssid

def set_step (state : State) (op : SetOp) : Except Fault State := do
  let (ret,masks) ← diag_cmd_set_msg_mask op.junk state.masks op.range op.mask
  return { masks := masks, given := if ret = 0 then give op.range op.mask state.given else state.given }

def start : State := { masks := diag_masks_init, given := fun _ => none }

/-- A GET request for the SSID is answered with success and a mask that has the
    word the SSID was given, at its place in the range. -/
def ReadsBack (ssid : UInt16) (state : State) : Prop :=
  ∀ word ∈ state.given ssid, ∀ (junk : Junk) (client : Nat) (buf : Request) (router : Router),
    router.masks = state.masks → buf 1 = 3 → le16At buf 2 = ssid →
    ∃ range words resp, diag_cmd_get_msg_mask state.masks (range_at buf 2) = .ok (some (range,words)) ∧
      handle_extended_message_configuration junk client buf 6 router = .ok (0,send router client resp) ∧
      resp[2]? = some DIAG_CMD_MSG_STATUS_SUCCESSFUL ∧
      4 + 4 * (ssid.toNat - range.ssid_first.toNat) + 4 ≤ resp.length ∧
      le32At (place resp (fun _ => 0)) (4 + 4 * (ssid.toNat - range.ssid_first.toNat)) = word

/-! ## The condition -/

/-- The build-time bounds of the entry hold the SSID. -/
def IsHome (ssid : UInt16) (msg_item : DiagMsgMask) : Prop :=
  msg_item.ssid_first ≤ ssid.toNat ∧ ssid.toNat ≤ msg_item.ssid_last

instance (ssid : UInt16) (msg_item : DiagMsgMask) : Decidable (IsHome ssid msg_item) :=
  inferInstanceAs (Decidable (_ ∧ _))

/-- Some entry of the table as built is a home of the SSID. -/
def HasHome (ssid : UInt16) : Prop :=
  ∃ bounds ∈ ssid_first_arr.zip ssid_last_arr, bounds.1 ≤ ssid.toNat ∧ ssid.toNat ≤ bounds.2

/-- A SET that its entry has no room for: it reaches past the words the entry
    promises once its bounds are adjusted. -/
def Refused (range : DiagSsidRange) (msg_item : DiagMsgMask) : Prop :=
  if MAX_SSID_PER_RANGE < num_ssids range then
    if msg_item.ssid_first + MAX_SSID_PER_RANGE < range.ssid_last.toNat
    then msg_item.ssid_first + 1 < range.ssid_first.toNat
    else msg_item.ssid_first < range.ssid_first.toNat
  else if msg_item.ssid_last_tools < range.ssid_last.toNat then num_ssids range = MAX_SSID_PER_RANGE
  else msg_item.range_tools + msg_item.ssid_first < range.ssid_last.toNat + 1

/-- What a SET must do to the entry it selects for the SSID to stay readable.
    `room`: the entry is not shrunk below its build-time size. `home`: a range
    that ends before it begins does not rewrite the home from its start. `away`:
    words for the SSID go to no other entry. `below`: no cut makes an earlier
    entry report the SSID. -/
structure KeepsWord (ssid : UInt16) (range : DiagSsidRange) (msg_item : DiagMsgMask) : Prop where
  room : num_ssids range ≤ MAX_SSID_PER_RANGE → msg_item.ssid_last_tools < range.ssid_last.toNat →
    msg_item.range ≤ extendedLast range msg_item - msg_item.ssid_first + 1
  home : IsHome ssid msg_item → range.ssid_first.toNat = msg_item.ssid_first →
    range.ssid_first.toNat ≤ range.ssid_last.toNat + 1
  away : ¬ IsHome ssid msg_item → Contains range ssid → Refused range msg_item
  below : HasHome ssid → msg_item.ssid_last < ssid.toNat → MAX_SSID_PER_RANGE < num_ssids range →
    msg_item.ssid_first + MAX_SSID_PER_RANGE < ssid.toNat

def KeepsReadable (ssid : UInt16) (state : State) (op : SetOp) : Prop :=
  ∀ msg_item ∈ selected op.range state.masks.msg_mask.ptr, KeepsWord ssid op.range msg_item

/-! ## Homes -/

/-- Build-time ranges are apart, and in order. -/
theorem layout_apart {table : List DiagMsgMask} (built : Built table) :
    table.Pairwise (fun early late => early.ssid_last < late.ssid_first) := by
  have apart : (layout diag_create_msg_mask_table).Pairwise (fun early late => early.2.1 < late.1) := by decide
  rw [← built.same,layout,List.pairwise_map] at apart
  exact apart

theorem hasHome_iff {table : List DiagMsgMask} (built : Built table) (ssid : UInt16) :
    HasHome ssid ↔ ∃ msg_item ∈ table, IsHome ssid msg_item := by
  have bounds : table.map (fun msg_item => (msg_item.ssid_first,msg_item.ssid_last)) =
      ssid_first_arr.zip ssid_last_arr := by
    have same := congrArg (List.map (fun row => (row.1,row.2.1))) built.same
    simp only [layout,List.map_map] at same
    exact same
  rw [HasHome,← bounds]
  simp only [List.mem_map,exists_exists_and_eq_and,IsHome]

/-- Only one entry is a home. -/
theorem isHome_unique {before after : List DiagMsgMask} {msg_item : DiagMsgMask} {ssid : UInt16}
    (built : Built (before ++ msg_item :: after)) (home : IsHome ssid msg_item) :
    ∀ other, other ∈ before ∨ other ∈ after → ¬ IsHome ssid other := by
  have apart := List.pairwise_append.mp (layout_apart built)
  rintro other (early | late) ⟨first,last⟩
  · have order := apart.2.2 other early msg_item (by simp)
    obtain ⟨_,_⟩ := home
    omega
  · have order := List.rel_of_pairwise_cons apart.2.1 late
    obtain ⟨_,_⟩ := home
    omega

/-- Every entry behind the one that is selected begins past the range. -/
theorem past_selected {before after : List DiagMsgMask} {msg_item other : DiagMsgMask} {range : DiagSsidRange}
    (built : Built (before ++ msg_item :: after)) (hit : skips range msg_item after.head? = false) (late : other ∈ after) :
    range.ssid_first.toNat < other.ssid_first := by
  have apart := List.pairwise_append.mp (layout_apart built)
  obtain ⟨_,_,next⟩ := not_skips hit
  cases after with
  | nil => cases late
  | cons head tail =>
    have reached := next head rfl
    have headOrdered := (@layout_mem _ built head (by simp)).1
    rcases List.mem_cons.mp late with rfl | further
    · exact reached
    · have order := List.rel_of_pairwise_cons (List.pairwise_cons.mp apart.2.1).2 further
      omega

/-- An entry below the home of an SSID is selected only by ranges that begin
    below the SSID. -/
theorem selected_below {before after : List DiagMsgMask} {msg_item : DiagMsgMask} {ssid : UInt16}
    {range : DiagSsidRange} (built : Built (before ++ msg_item :: after))
    (hit : skips range msg_item after.head? = false) (hasHome : HasHome ssid) (below : msg_item.ssid_last < ssid.toNat) :
    range.ssid_first.toNat ≤ ssid.toNat := by
  have apart := List.pairwise_append.mp (layout_apart built)
  obtain ⟨home,member,first,last⟩ := (hasHome_iff built ssid).mp hasHome
  have ordered := (layout_mem built (List.mem_append_right before List.mem_cons_self)).1
  rcases List.mem_append.mp member with early | later
  · have order := apart.2.2 home early msg_item (by simp)
    omega
  · rcases List.mem_cons.mp later with rfl | late
    · omega
    · have past := past_selected built hit late
      omega

/-! ## One entry -/

/-- What an entry promises about the SSID: its buffer has room, it does not
    report the SSID before the home does, and the home holds the word. -/
structure Holds (ssid : UInt16) (given : Option UInt32) (msg_item : DiagMsgMask) : Prop where
  range : msg_item.range ≤ msg_item.ptr.length
  tools : msg_item.range_tools ≤ msg_item.ptr.length
  below : HasHome ssid → msg_item.ssid_last < ssid.toNat → msg_item.ssid_last_tools < ssid.toNat
  word : IsHome ssid msg_item → ∀ word ∈ given, msg_item.ptr[ssid.toNat - msg_item.ssid_first]? = some word

/-- Adjusting the bounds keeps the promises. -/
theorem resized_holds {table : List DiagMsgMask} (junk : Nat → UInt32) {range : DiagSsidRange}
    {msg_item : DiagMsgMask} {ssid : UInt16} {given : Option UInt32} (built : Built table) (member : msg_item ∈ table)
    (holds : Holds ssid given msg_item) (keeps : KeepsWord ssid range msg_item)
    (start : HasHome ssid → msg_item.ssid_last < ssid.toNat → range.ssid_first.toNat ≤ ssid.toNat) :
    Holds ssid given (resized junk range msg_item) := by
  obtain ⟨_,near,size,_⟩ := layout_mem built member
  have ordered := built.ordered member
  have high := built.high msg_item member
  have kept : ∀ count, 121 ≤ count → IsHome ssid msg_item → ∀ word ∈ given,
      (resize msg_item.ptr count junk)[ssid.toNat - msg_item.ssid_first]? = some word := by
    intro count enough home word given
    have hit := holds.word home word given
    have inside := (List.getElem?_eq_some_iff.mp hit).1
    obtain ⟨_,_⟩ := home
    rw [resize_getElem? junk (by omega) inside,hit]
  simp only [MAX_SSID_PER_RANGE] at size
  by_cases many : MAX_SSID_PER_RANGE < num_ssids range
  · by_cases past : msg_item.ssid_first + MAX_SSID_PER_RANGE < range.ssid_last.toNat
    · rw [resized_cut_past many past]
      refine ⟨?_,?_,?_,?_⟩
      · simp only [resize_length,MAX_SSID_PER_RANGE]; omega
      · simp
      · intro hasHome low
        exact keeps.below hasHome low many
      · exact kept _ (by simp [MAX_SSID_PER_RANGE])
    · rw [resized_cut_within many (by omega)]
      refine ⟨holds.range,?_,?_,holds.word⟩
      · have room := holds.range
        simp only [MAX_SSID_PER_RANGE]
        omega
      · intro hasHome low
        exact keeps.below hasHome low many
  · by_cases past : msg_item.ssid_last_tools < range.ssid_last.toNat
    · have room := keeps.room (by omega) past
      rw [resized_past (by omega) past ordered high]
      refine ⟨?_,?_,?_,?_⟩
      · simpa using room
      · simp
      · intro hasHome low
        replace low : msg_item.ssid_last < ssid.toNat := low
        have before := start hasHome low
        have reported := holds.below hasHome low
        dsimp only [extendedLast]
        split_ifs with full
        · exact reported
        · by_cases reached : range.ssid_last.toNat < ssid.toNat
          · exact reached
          · have refused := keeps.away (fun home => by obtain ⟨_,_⟩ := home; omega) ⟨before,by omega⟩
            rw [Refused,if_neg many,if_pos past] at refused
            exact absurd refused full
      · exact kept _ (by omega)
    · rw [resized_within (by omega) (by omega)]
      exact holds

/-- The refused ranges are those that do not fit the adjusted entry. -/
theorem refused_iff {table : List DiagMsgMask} (junk : Nat → UInt32) {range : DiagSsidRange}
    {msg_item : DiagMsgMask} (built : Built table) (member : msg_item ∈ table)
    (first : msg_item.ssid_first ≤ range.ssid_first.toNat) :
    Refused range msg_item ↔
      range.ssid_first.toNat - msg_item.ssid_first + stored range > (resized junk range msg_item).range_tools := by
  have low := built.ordered member
  have high := built.high msg_item member
  by_cases many : MAX_SSID_PER_RANGE < num_ssids range
  · rw [Refused,if_pos many]
    by_cases past : msg_item.ssid_first + MAX_SSID_PER_RANGE < range.ssid_last.toNat
    · rw [if_pos past,resized_cut_past many past,stored]
      dsimp only
      omega
    · rw [if_neg past,resized_cut_within many (by omega),stored]
      dsimp only
      omega
  · have ordered : range.ssid_first.toNat ≤ range.ssid_last.toNat + 1 := by
      by_contra wrapped
      have count := num_ssids_of_gt (Nat.lt_of_not_le wrapped)
      have capacity : MAX_SSID_PER_RANGE = 200 := rfl
      have bound := range.ssid_first.toNat_lt
      omega
    have count := num_ssids_of_le ordered
    rw [Refused,if_neg many]
    by_cases past : msg_item.ssid_last_tools < range.ssid_last.toNat
    · rw [if_pos past,resized_past (by omega) past low high,stored]
      simp only [extendedLast]
      split_ifs with full
      · omega
      · omega
    · rw [if_neg past,resized_within (by omega) (by omega),stored]
      omega

/-- The words SET leaves: those of the request from its start on, as many as are
    stored, and the others as they were. -/
theorem set_msg_item_cases {junk : Nat → UInt32} {range : DiagSsidRange} (mask : Nat → UInt32)
    {msg_item : DiagMsgMask} (first : msg_item.ssid_first ≤ range.ssid_first.toNat)
    (tools : (resized junk range msg_item).range_tools ≤ (resized junk range msg_item).ptr.length) :
    ∃ ret after, set_msg_item junk range mask msg_item = .ok (ret,after) ∧
      (ret = 0 ↔ range.ssid_first.toNat - msg_item.ssid_first + stored range ≤ (resized junk range msg_item).range_tools) ∧
      ∃ ptr, ptr.length = (resized junk range msg_item).ptr.length ∧ after = { resized junk range msg_item with ptr := ptr } ∧
        ∀ k, ptr[k]? = if ret = 0 ∧ range.ssid_first.toNat - msg_item.ssid_first ≤ k ∧
            k < range.ssid_first.toNat - msg_item.ssid_first + stored range
          then some (mask (k - (range.ssid_first.toNat - msg_item.ssid_first)))
          else (resized junk range msg_item).ptr[k]? := by
  rw [set_msg_item_eq]
  dsimp only
  rw [resized_offset junk first]
  split_ifs with outside
  · exact ⟨1,_,rfl,by omega,_,rfl,rfl,fun k => by simp⟩
  · have room : range.ssid_first.toNat - msg_item.ssid_first + (span mask 0 (stored range)).length ≤
        (resized junk range msg_item).ptr.length := by
      rw [span_length]
      omega
    have copied : store (resized junk range msg_item).ptr (range.ssid_first.toNat - msg_item.ssid_first)
        (span mask 0 (stored range)) = .ok _ := store_ok_iff.mpr ⟨room,rfl⟩
    refine ⟨0,_,by rw [copied]; rfl,by omega,_,store_length copied,rfl,?_⟩
    intro k
    rw [store_getElem? copied k,span_length]
    simp only [true_and]
    split_ifs with within
    · rw [span_getElem? (by omega),Nat.zero_add]
    · rfl

/-- How many words an entry owns after it is resized does not depend on what the
    new ones hold. -/
theorem resized_owned (junk : Nat → UInt32) (range : DiagSsidRange) (msg_item : DiagMsgMask) :
    (resized junk range msg_item).ptr.length = (resized (fun _ => 0) range msg_item).ptr.length := by
  unfold resized truncate_range extend_range
  split_ifs <;> simp

/-- The words of a SET stay inside those the entry owns. -/
def Within (range : DiagSsidRange) (msg_item : DiagMsgMask) : Prop :=
  range.ssid_first.toNat - msg_item.ssid_first + stored range ≤ (resized (fun _ => 0) range msg_item).ptr.length

/-- A SET is refused without an entry for it, or by the entry. -/
theorem set_refuses {junk mask : Nat → UInt32} {masks : MaskTables} {range : DiagSsidRange}
    (built : Built masks.msg_mask.ptr) (refuses : ∀ msg_item ∈ selected range masks.msg_mask.ptr, Refused range msg_item) :
    ∃ after, diag_cmd_set_msg_mask junk masks range mask = .ok (1,after) := by
  cases found : selected range masks.msg_mask.ptr with
  | none => exact ⟨_,set_msg_mask_ok_iff.mpr ⟨_,set_msg_loop_none junk mask found,rfl⟩⟩
  | some msg_item =>
    obtain ⟨before,later,_,hit,loop⟩ := set_msg_loop_some junk mask found
    obtain ⟨first,_,_⟩ := not_skips hit
    have outside := (refused_iff junk built (selected_mem found) first).mp (refuses msg_item found)
    have set : set_msg_item junk range mask msg_item = .ok (1,resized junk range msg_item) := by
      rw [set_msg_item_eq]
      dsimp only
      rw [resized_offset junk first,if_pos outside]
    exact ⟨_,set_msg_mask_ok_iff.mpr ⟨_,by rw [loop,set]; rfl,rfl⟩⟩

/-- A SET that ends says whether its entry has refused it. -/
theorem set_taken {junk mask : Nat → UInt32} {masks after : MaskTables} {range : DiagSsidRange} {msg_item : DiagMsgMask}
    {ret : Nat} (built : Built masks.msg_mask.ptr) (found : selected range masks.msg_mask.ptr = some msg_item)
    (set : diag_cmd_set_msg_mask junk masks range mask = .ok (ret,after)) : ret = 0 ↔ ¬ Refused range msg_item := by
  obtain ⟨items,ran,_⟩ := set_msg_mask_ok_iff.mp set
  obtain ⟨before,later,_,hit,loop⟩ := set_msg_loop_some junk mask found
  obtain ⟨first,_,_⟩ := not_skips hit
  rw [refused_iff junk built (selected_mem found) first]
  rw [loop] at ran
  obtain ⟨⟨code,new⟩,one,same⟩ := bind_eq_ok.mp ran
  cases same
  rw [set_msg_item_eq] at one
  dsimp only at one
  rw [resized_offset junk first] at one
  split_ifs at one with outside
  · cases one
    simp [outside]
  · obtain ⟨ptr,_,same⟩ := bind_eq_ok.mp one
    cases same
    simp [outside]

/-- A SET is accepted exactly when the entry it selects does not refuse it and
    owns the words it stores to. -/
theorem set_accepts_iff {junk mask : Nat → UInt32} {masks : MaskTables} {range : DiagSsidRange}
    (built : Built masks.msg_mask.ptr) :
    (∃ after, diag_cmd_set_msg_mask junk masks range mask = .ok (0,after)) ↔
      ∃ msg_item ∈ selected range masks.msg_mask.ptr, ¬ Refused range msg_item ∧ Within range msg_item := by
  cases found : selected range masks.msg_mask.ptr with
  | none =>
    constructor
    · rintro ⟨after,set⟩
      obtain ⟨items,loop,_⟩ := set_msg_mask_ok_iff.mp set
      rw [set_msg_loop_none junk mask found] at loop
      cases loop
    · rintro ⟨_,none,_⟩
      cases none
  | some msg_item =>
    obtain ⟨before,later,_,hit,loop⟩ := set_msg_loop_some junk mask found
    obtain ⟨first,_,_⟩ := not_skips hit
    have refused := refused_iff junk built (selected_mem found) first
    have item := set_msg_item_eq junk range mask msg_item
    dsimp only at item
    rw [resized_offset junk first] at item
    constructor
    · rintro ⟨after,set⟩
      obtain ⟨items,ran,_⟩ := set_msg_mask_ok_iff.mp set
      rw [loop] at ran
      obtain ⟨⟨ret,new⟩,one,same⟩ := bind_eq_ok.mp ran
      cases same
      rw [item] at one
      split_ifs at one with outside
      · cases one
      · obtain ⟨ptr,copied,_⟩ := bind_eq_ok.mp one
        have inside := (store_ok_iff.mp copied).1
        rw [span_length,resized_owned] at inside
        exact ⟨msg_item,rfl,fun refuses => outside (refused.mp refuses),inside⟩
    · rintro ⟨_,⟨⟩,taken,inside⟩
      have copied : store (resized junk range msg_item).ptr (range.ssid_first.toNat - msg_item.ssid_first)
          (span mask 0 (stored range)) = .ok _ := store_ok_iff.mpr ⟨by rw [span_length,resized_owned]; exact inside,rfl⟩
      rw [if_neg (fun outside => taken (refused.mpr outside)),copied,ok_bind] at item
      exact ⟨_,set_msg_mask_ok_iff.mpr ⟨_,by rw [loop,item]; rfl,rfl⟩⟩

/-- A stored word is for an SSID that the range names. -/
theorem stored_contains {junk : Nat → UInt32} {range : DiagSsidRange} {msg_item : DiagMsgMask} {ssid : UInt16}
    (first : msg_item.ssid_first ≤ range.ssid_first.toNat)
    (near : range.ssid_first.toNat ≤ msg_item.ssid_first + MAX_SSID_PER_RANGE)
    (restart : range.ssid_first.toNat = msg_item.ssid_first → range.ssid_first.toNat ≤ range.ssid_last.toNat + 1)
    (fits : range.ssid_first.toNat - msg_item.ssid_first + stored range ≤ (resized junk range msg_item).range_tools)
    (low : msg_item.ssid_first ≤ ssid.toNat)
    (above : range.ssid_first.toNat - msg_item.ssid_first ≤ ssid.toNat - msg_item.ssid_first)
    (under : ssid.toNat - msg_item.ssid_first < range.ssid_first.toNat - msg_item.ssid_first + stored range) :
    Contains range ssid := by
  by_cases ordered : range.ssid_first.toNat ≤ range.ssid_last.toNat + 1
  · have count := num_ssids_of_le ordered
    unfold stored at under
    exact ⟨by omega,by omega⟩
  · -- a range that ends before it begins is cut, and stored only from the start of the entry
    have count := num_ssids_of_gt (Nat.lt_of_not_le ordered)
    have capacity : MAX_SSID_PER_RANGE = 200 := rfl
    have last := range.ssid_first.toNat_lt
    rw [resized_cut_within (by omega) (by omega),stored] at fits
    dsimp only at fits
    exact absurd (restart (by omega)) ordered

/-- One entry over a SET that selects it. -/
theorem set_msg_item_holds {table : List DiagMsgMask} {junk : Nat → UInt32} {range : DiagSsidRange} (mask : Nat → UInt32)
    {msg_item : DiagMsgMask} {ssid : UInt16} {given : UInt16 → Option UInt32} (built : Built table)
    (member : msg_item ∈ table) (first : msg_item.ssid_first ≤ range.ssid_first.toNat)
    (near : range.ssid_first.toNat ≤ msg_item.ssid_first + MAX_SSID_PER_RANGE)
    (holds : Holds ssid (given ssid) msg_item) (keeps : KeepsWord ssid range msg_item)
    (start : HasHome ssid → msg_item.ssid_last < ssid.toNat → range.ssid_first.toNat ≤ ssid.toNat) :
    ∃ ret after, set_msg_item junk range mask msg_item = .ok (ret,after) ∧
      Holds ssid (if ret = 0 then give range mask given ssid else given ssid) after ∧
      (¬ IsHome ssid msg_item → Contains range ssid → ret ≠ 0) := by
  obtain ⟨_,short,_,_⟩ := layout_mem built member
  have adjusted := resized_holds junk built member holds keeps start
  obtain ⟨ret,after,set,success,ptr,length,rfl,words⟩ := set_msg_item_cases mask first adjusted.tools
  refine ⟨ret,_,set,⟨?_,?_,?_,?_⟩,?_⟩
  · exact length ▸ adjusted.range
  · exact length ▸ adjusted.tools
  · exact adjusted.below
  · intro home word now
    replace home : IsHome ssid msg_item := by
      obtain ⟨low,high⟩ := home
      exact ⟨by simpa using low,by simpa using high⟩
    have old := adjusted.word (by simpa [IsHome] using home)
    have restart := keeps.home home
    obtain ⟨low,high⟩ := home
    simp only [resized_ssid_first] at old ⊢
    rw [words]
    by_cases done : ret = 0
    · rw [if_pos done,give] at now
      by_cases inside : Contains range ssid
      · rw [if_pos inside] at now
        cases now
        obtain ⟨reached,within⟩ := inside
        have count := @num_ssids_of_le range (by omega)
        have capacity : MAX_SSID_PER_RANGE = 200 := rfl
        rw [if_pos ⟨done,by omega,by unfold stored; omega⟩]
        congr 2
        omega
      · rw [if_neg inside] at now
        rw [if_neg ?_]
        · exact old word now
        · rintro ⟨_,above,under⟩
          exact inside (stored_contains first near restart (success.mp done) low above under)
    · rw [if_neg done] at now
      rw [if_neg (fun hit => done hit.1)]
      exact old word now
  · intro away inside done
    have outside := (refused_iff junk built member first).mp (keeps.away away inside)
    have fits := success.mp done
    omega

/-! ## One SET -/

/-- The table holds what the SSID was given. -/
structure Readable (ssid : UInt16) (state : State) : Prop where
  built : Built state.masks.msg_mask.ptr
  entries : ∀ msg_item ∈ state.masks.msg_mask.ptr, Holds ssid (state.given ssid) msg_item
  homeless : ¬ HasHome ssid → state.given ssid = none

theorem Holds.elsewhere {ssid : UInt16} {old new : Option UInt32} {msg_item : DiagMsgMask} (holds : Holds ssid old msg_item)
    (away : ¬ IsHome ssid msg_item) : Holds ssid new msg_item :=
  ⟨holds.range,holds.tools,holds.below,fun home => absurd home away⟩

theorem set_step_eq {state : State} {op : SetOp} {ret : Nat} {items : List DiagMsgMask}
    (loop : set_msg_loop op.junk op.range op.mask state.masks.msg_mask.ptr = .ok (ret,items)) :
    ∃ next, set_step state op = .ok next ∧ next.masks.msg_mask.ptr = items ∧
      ∀ ssid, next.given ssid = if ret = 0 then give op.range op.mask state.given ssid else state.given ssid := by
  have set := set_msg_mask_ok_iff.mpr ⟨items,loop,rfl⟩
  refine ⟨_,bind_eq_ok.mpr ⟨_,set,rfl⟩,rfl,?_⟩
  intro ssid
  dsimp only
  split_ifs <;> rfl

theorem set_step_readable {ssid : UInt16} {state : State} {op : SetOp} (readable : Readable ssid state)
    (keeps : KeepsReadable ssid state op) : ∃ next, set_step state op = .ok next ∧ Readable ssid next := by
  obtain ⟨built,entries,homeless⟩ := readable
  cases found : selected op.range state.masks.msg_mask.ptr with
  | none =>
    obtain ⟨next,step,items,given⟩ := set_step_eq (set_msg_loop_none op.junk op.mask found)
    simp only [Nat.one_ne_zero,if_false] at given
    refine ⟨next,step,?_,?_,?_⟩
    · rw [items]
      exact built
    · rw [items,given]
      exact entries
    · rw [given]
      exact homeless
  | some msg_item =>
    have guard := keeps msg_item found
    obtain ⟨before,after,table,hit,loop⟩ := set_msg_loop_some op.junk op.mask found
    rw [table] at built entries
    have member : msg_item ∈ before ++ msg_item :: after := by simp
    obtain ⟨first,near,_⟩ := not_skips hit
    obtain ⟨ret,item,set,holds,away⟩ := set_msg_item_holds op.mask built member first near (entries msg_item member) guard
      (fun hasHome low => selected_below built hit hasHome low)
    rw [set] at loop
    obtain ⟨next,step,items,given⟩ := set_step_eq loop
    refine ⟨next,step,?_,?_,?_⟩
    · rw [items]
      rw [table] at loop
      exact set_msg_loop_built built loop
    · rw [items,given]
      intro other present
      by_cases changed : ret = 0 ∧ Contains op.range ssid
      · -- the word is new, so the selected entry is the home and no other entry is
        have home : IsHome ssid msg_item := by
          by_contra notHome
          exact away notHome changed.2 changed.1
        have alone := isHome_unique built home
        rcases List.mem_append.mp present with early | late
        · exact (entries other (List.mem_append_left _ early)).elsewhere (alone other (.inl early))
        · rcases List.mem_cons.mp late with rfl | later
          · exact holds
          · exact (entries other (List.mem_append_right _ (List.mem_cons_of_mem _ later))).elsewhere
              (alone other (.inr later))
      · have same : (if ret = 0 then give op.range op.mask state.given ssid else state.given ssid) = state.given ssid := by
          split_ifs with done
          · exact if_neg (fun inside => changed ⟨done,inside⟩)
          · rfl
        rw [same] at holds ⊢
        exact forall_replaced entries holds other present
    · intro none
      have notHome : ¬ IsHome ssid msg_item := fun home => none ((hasHome_iff built ssid).mpr ⟨msg_item,member,home⟩)
      rw [given]
      split_ifs with done
      · exact (if_neg (fun inside => away notHome inside done)).trans (homeless none)
      · exact homeless none

theorem readable_start (ssid : UInt16) : Readable ssid start := by
  refine ⟨built_init,?_,fun _ => rfl⟩
  intro msg_item member
  obtain ⟨bounds,_,rfl⟩ := List.mem_map.mp member
  refine ⟨?_,?_,?_,?_⟩
  · simp [diag_create_msg_mask_table_entry]
  · simp [diag_create_msg_mask_table_entry]
  · exact fun _ low => low
  · intro _ word given
    cases given

/-! ## GET -/

/-- The response to a GET that was answered with `words`. -/
def answer (buf : Request) (words : List UInt32) : List UInt8 :=
  span buf 0 2 ++ [DIAG_CMD_MSG_STATUS_SUCCESSFUL,0] ++ le32s words

theorem answer_length (buf : Request) (words : List UInt32) : (answer buf words).length = 4 + 4 * words.length := by
  simp only [answer,List.length_append,span_length,List.length_cons,List.length_nil,le32s_length]

theorem answer_word (buf : Request) {words : List UInt32} {k : Nat} {word : UInt32} (hit : words[k]? = some word) :
    le32At (place (answer buf words) (fun _ => 0)) (4 + 4 * k) = word := by
  obtain ⟨inside,rfl⟩ := List.getElem?_eq_some_iff.mp hit
  have reads := le32At_le32s (span buf 0 2 ++ [DIAG_CMD_MSG_STATUS_SUCCESSFUL,0]) words (fun _ => 0) inside
  simp only [List.length_append,span_length,List.length_cons,List.length_nil] at reads
  exact reads

/-- The response to a GET that finds an entry. -/
theorem get_msg_mask_eq (client : Nat) (buf : Request) {router : Router} {msg_item : DiagMsgMask}
    (built : Built router.masks.msg_mask.ptr)
    (found : router.masks.msg_mask.ptr.find? (reports (le16At buf 2).toNat) = some msg_item)
    (room : msg_item.range ≤ msg_item.ptr.length) :
    get_msg_mask client buf 6 router =
      .ok (0,send router client (answer buf (msg_item.ptr.take (bounded msg_item)))) := by
  have member := List.mem_of_find?_eq_some found
  have bytes : MSG_RANGE_TO_SIZE (bounds msg_item) = 4 * bounded msg_item := by
    have ordered := (layout_mem built member).1
    have few := bounded_le built member
    rw [MSG_RANGE_TO_SIZE,bounds_first built member,bounds_last built member,u32_of_lt (by omega)
      (by unfold bounded at few; omega),bounded]
    omega
  simp only [get_msg_mask,ne_eq,not_true_eq_false,if_false,get_msg_mask_found (range_at buf 2) built found room,
    ok_bind,bytes,load_bounded built member room,pure_ok,answer]

/-- An SSID that was given a word is read from its home. -/
theorem find_home {ssid : UInt16} {state : State} {word : UInt32} (readable : Readable ssid state)
    (given : state.given ssid = some word) :
    ∃ msg_item, state.masks.msg_mask.ptr.find? (reports ssid.toNat) = some msg_item ∧ IsHome ssid msg_item ∧
      msg_item.ptr[ssid.toNat - msg_item.ssid_first]? = some word ∧ msg_item.range ≤ msg_item.ptr.length := by
  obtain ⟨built,entries,homeless⟩ := readable
  have hasHome : HasHome ssid := by
    by_contra none
    rw [homeless none] at given
    cases given
  cases found : state.masks.msg_mask.ptr.find? (reports ssid.toNat) with
  | none =>
    obtain ⟨home,member,first,last⟩ := (hasHome_iff built ssid).mp hasHome
    have low := built.low home member
    have missed := List.find?_eq_none.mp found home member
    simp only [reports,decide_eq_true_eq,not_and,Nat.not_le] at missed
    have late := missed first
    omega
  | some msg_item =>
    have member := List.mem_of_find?_eq_some found
    have holds := entries msg_item member
    have reported := List.find?_some found
    simp only [reports,decide_eq_true_eq] at reported
    have home : IsHome ssid msg_item := by
      refine ⟨reported.1,?_⟩
      by_contra above
      have early := holds.below hasHome (Nat.lt_of_not_le above)
      omega
    exact ⟨msg_item,rfl,home,holds.word home word given,holds.range⟩

theorem readable_readsBack {ssid : UInt16} {state : State} (readable : Readable ssid state) : ReadsBack ssid state := by
  intro word given junk client buf router same op asked
  obtain ⟨msg_item,found,⟨first,last⟩,hit,room⟩ := find_home readable given
  have built := readable.built
  have member := List.mem_of_find?_eq_some found
  have few := bounded_le built member
  have size := (layout_mem built member).2.2.1
  have start := bounds_first built member
  have capacity : MAX_SSID_PER_RANGE = 200 := rfl
  have inside : ssid.toNat - msg_item.ssid_first < bounded msg_item := by
    unfold bounded
    omega
  have shown : (msg_item.ptr.take (bounded msg_item))[ssid.toNat - msg_item.ssid_first]? = some word := by
    rw [List.getElem?_take,if_pos inside,hit]
  rw [← asked] at found
  refine ⟨bounds msg_item,_,answer buf (msg_item.ptr.take (bounded msg_item)),
    get_msg_mask_found (range_at buf 2) built found room,?_,?_,?_,?_⟩
  · rw [handle_extended_message_configuration,op]
    rw [← same] at built found
    exact get_msg_mask_eq client buf built found room
  · simp [answer,span]
  · rw [answer_length,List.length_take,start]
    omega
  · rw [start]
    exact answer_word buf shown

/-- Along every run of SETs from the tables as built, each of which keeps the
    SSID readable, the word the SSID was last given is read back after every SET. -/
theorem get_reads_last_set (ssid : UInt16) (ops : List SetOp) (keeps : Meets set_step (KeepsReadable ssid) start ops) :
    Safe set_step (ReadsBack ssid) start ops :=
  (safe_of_meets (fun readable guard => set_step_readable readable guard) (readable_start ssid) keeps).weaken
    readable_readsBack

/-- A SET of SSIDs 10 to 12, then a GET of SSID 11. -/
theorem get_reads_last_set_ten :
    Safe set_step (ReadsBack 11) start [⟨fun _ => 0,⟨10,12⟩,fun i => UInt32.ofNat (7 + i)⟩] := by
  refine get_reads_last_set 11 _ ⟨?_,fun _ _ => trivial⟩
  intro msg_item found
  have entry : msg_item = diag_create_msg_mask_table_entry 0 120 := by
    have first : selected ⟨10,12⟩ start.masks.msg_mask.ptr = some (diag_create_msg_mask_table_entry 0 120) := by
      decide +kernel
    exact Option.some.inj (found.symm.trans first)
  subst entry
  refine ⟨?_,?_,?_,?_⟩
  · intro _ past
    exact absurd past (by decide)
  · intro _ atStart
    exact absurd atStart (by decide)
  · intro away
    exact absurd (show IsHome 11 (diag_create_msg_mask_table_entry 0 120) by decide) away
  · intro _ _ many
    exact absurd many (by decide)

/-- SSID 199 has no home: a SET gives it a word in the first entry, which GET
    answers with the words of SSIDs 0 to 120. -/
theorem ssid_199_not_read_back :
    ∃ state, exec set_step start [⟨fun _ => 0,⟨199,199⟩,fun _ => 5⟩] = .ok state ∧ state.given 199 = some 5 ∧
      ¬ ReadsBack 199 state := by
  have run : (fun set => (set.1,(set.2.msg_mask.ptr.find? (reports 199)).map
      (fun msg_item => (msg_item.ssid_first,bounded msg_item,msg_item.range,msg_item.ptr.length)))) <$>
      diag_cmd_set_msg_mask (fun _ => 0) diag_masks_init ⟨199,199⟩ (fun _ => 5) = .ok (0,some (0,121,200,200)) := by
    decide +kernel
  obtain ⟨⟨ret,masks⟩,set,shape⟩ := map_eq_ok.mp run
  obtain ⟨rfl,shape⟩ := Prod.mk.inj shape
  obtain ⟨msg_item,found,shape⟩ := Option.map_eq_some_iff.mp shape
  simp only [Prod.mk.injEq] at shape
  obtain ⟨first,size,range,length⟩ := shape
  refine ⟨_,by rw [exec_cons,set_step,show start.masks = diag_masks_init from rfl,set]; rfl,rfl,?_⟩
  intro reads
  have built : Built masks.msg_mask.ptr := by
    obtain ⟨items,loop,rfl⟩ := set_msg_mask_ok_iff.mp set
    exact set_msg_loop_built built_init loop
  let buf : Request := place [0x7d,3,199,0,199,0] (fun _ => 0)
  let router : Router := ⟨masks,[],[],[],[⟨.RAW,true,[]⟩]⟩
  obtain ⟨bounds,words,resp,got,handled,_,long,_⟩ :=
    reads 5 rfl ⟨fun _ => 0,fun _ => 0,fun _ => 0,fun _ _ => 0⟩ 0 buf router rfl rfl rfl
  have answered := @get_msg_mask_eq 0 buf router msg_item built found (by omega)
  have same := congrArg Prod.snd (Except.ok.inj (answered.symm.trans handled))
  have queued : [(⟨.RAW,true,[answer buf (msg_item.ptr.take (bounded msg_item))]⟩ : DiagRouter.Clients.DiagClient)] =
      [⟨.RAW,true,[resp]⟩] := congrArg Router.diag_clients same
  obtain rfl : answer buf (msg_item.ptr.take (bounded msg_item)) = resp := by simpa using queued
  have start : bounds.ssid_first.toNat = 0 := by
    have entry := get_msg_mask_found (range_at buf 2) built found (by omega)
    have returned : diag_cmd_get_msg_mask masks (range_at buf 2) = .ok (some (bounds,words)) := got
    cases entry.symm.trans returned
    rw [bounds_first built (List.mem_of_find?_eq_some found),first]
  have position : (199 : UInt16).toNat = 199 := rfl
  rw [answer_length,List.length_take,start,position] at long
  omega

end DiagRouter.MsgMaskReadBack

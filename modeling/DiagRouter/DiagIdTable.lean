import Mathlib.Data.List.Nodup
import DiagRouter.Cntl

/-!
# The diag-id table

What one DIAG_ID packet does: it is too short, its name is known, or the name is
refused or added. Ids are compared in 32 bits and kept in 8, and lengths of
names are kept in 8 bits, so the table stays unique exactly as long as what is
added fits both.
-/
namespace DiagRouter.DiagIdTable
open DiagRouter.Lib.Memory DiagRouter.Lib.Words DiagRouter.Lib.CString DiagRouter.Lib.Runs
open DiagRouter.Clients DiagRouter.Handlers DiagRouter.Cntl

/-- A packet as the handler gets it: the memory from its header on, the length
    of the buffer, and the peripheral. -/
structure IdPacket where
  memory : Nat → UInt8
  len : Nat
  peripheral : CntlPeripheral

def TooShort (packet : IdPacket) : Prop := packet.len < diag_id_size packet.peripheral.features packet.memory

instance (packet : IdPacket) : Decidable (TooShort packet) := inferInstanceAs (Decidable (_ < _))

def request_name (packet : IdPacket) : Except Fault (List UInt8) :=
  process_name packet.peripheral.features packet.memory

/-- The id in a response packet. -/
def resp_diag_id (resp : List UInt8) : UInt32 := le32At (place resp (fun _ => 0)) 12

/-- The ids, and each answer so far: the name of the request and the id of the
    response. -/
structure Answers where
  ids : DiagIds
  given : List (List UInt8 × UInt32)
deriving DecidableEq, Repr

def answer_step (state : Answers) (packet : IdPacket) : Except Fault Answers := do
  let (_,ids,peripheral) ← diag_cntl_process_diag_id packet.memory packet.len state.ids packet.peripheral
  let responses := peripheral.cntlq.drop packet.peripheral.cntlq.length
  let name ← if TooShort packet then pure [] else request_name packet
  return { ids := ids, given := state.given ++ responses.map (fun resp => (name,resp_diag_id resp)) }

def no_answers : Answers := ⟨no_diag_ids,[]⟩

/-! ## Entries -/

/-- What `register_diag_id` stores for a name. -/
def entry (diag_id : UInt8) (name : List UInt8) : DiagIdTbl :=
  let len := process_name_len name
  ⟨2 + len,[diag_id,len] ++ strncpy name (len.toNat - 1) ++ [0]⟩

@[simp] theorem entry_diag_id (diag_id : UInt8) (name : List UInt8) : item_diag_id (entry diag_id name) = diag_id := rfl

theorem process_name_len_toNat (name : List UInt8) : (process_name_len name).toNat = (name.length + 1) % 256 := by
  rw [process_name_len,UInt8.toNat_ofNat']

theorem process_name_len_eq_zero (name : List UInt8) : process_name_len name = 0 ↔ (name.length + 1) % 256 = 0 := by
  rw [← UInt8.toNat_inj,process_name_len_toNat]
  rfl

/-- The name is cut to what its 8-bit length says. -/
theorem entry_process_name (diag_id : UInt8) {name : List UInt8} (text : 0 ∉ name) :
    item_process_name (entry diag_id name) = name.take ((name.length + 1) % 256 - 1) := by
  have kept : strncpy name ((process_name_len name).toNat - 1) = name.take ((name.length + 1) % 256 - 1) := by
    rw [process_name_len_toNat,strncpy_of_le (by omega)]
  have clean : 0 ∉ name.take ((name.length + 1) % 256 - 1) := fun member => text (List.mem_of_mem_take member)
  simp only [item_process_name,entry,kept]
  exact c_string_of_append clean

theorem entry_whole_name (diag_id : UInt8) {name : List UInt8} (text : 0 ∉ name) (short : name.length ≤ 254) :
    item_process_name (entry diag_id name) = name := by
  rw [entry_process_name diag_id text,List.take_of_length_le]
  omega

theorem register_eq (diag_id : UInt8) (name : List UInt8) (diag_ids : List DiagIdTbl) :
    register_diag_id diag_id name (process_name_len name) diag_ids =
      if process_name_len name = 0 ∨ diag_id = 0 then (-EINVAL,diag_ids) else (0,diag_ids ++ [entry diag_id name]) := rfl

theorem find_none_iff {name : List UInt8} {diag_ids : List DiagIdTbl} :
    find_diag_id name diag_ids = none ↔ name ∉ diag_ids.map item_process_name := by
  rw [find_diag_id,Option.map_eq_none_iff,List.find?_eq_none]
  simp

theorem find_some {name : List UInt8} {diag_ids : List DiagIdTbl} {diag_id : UInt8}
    (found : find_diag_id name diag_ids = some diag_id) :
    ∃ diag_id_item ∈ diag_ids, item_process_name diag_id_item = name ∧ item_diag_id diag_id_item = diag_id := by
  obtain ⟨diag_id_item,hit,same⟩ := Option.map_eq_some_iff.mp found
  exact ⟨diag_id_item,List.mem_of_find?_eq_some hit,by simpa using List.find?_some hit,same⟩

theorem exists_iff {diag_id : UInt32} {diag_ids : List DiagIdTbl} :
    diag_id_exists diag_id diag_ids = true ↔ ∃ item ∈ diag_ids, diag_id = (item_diag_id item).toUInt32 := by
  simp [diag_id_exists]

/-! ## One packet -/

/-- A name that is not in the table is turned down. -/
def TurnedDown (memory : Nat → UInt8) (name : List UInt8) (ids : DiagIds) : Prop :=
  diag_id_exists (next_diag_id memory ids) ids.diag_ids = true ∨ (next_diag_id memory ids).toUInt8 = 0 ∨
    (name.length + 1) % 256 = 0

/-- The counter as a name that is not in the table leaves it. -/
def counted (memory : Nat → UInt8) (ids : DiagIds) : UInt32 :=
  if le32At memory 8 ≥ DIAG_ID_VERSION_3 then ids.diag_id else ids.diag_id + 1

section
variable {memory : Nat → UInt8} {name : List UInt8} {ids : DiagIds}

theorem local_known {diag_id : UInt8} (found : find_diag_id name ids.diag_ids = some diag_id) :
    local_diag_id memory name ids = (some diag_id.toUInt32,ids) := by
  rw [local_diag_id,found]

theorem local_missing (missing : find_diag_id name ids.diag_ids = none) :
    local_diag_id memory name ids =
      if diag_id_exists (next_diag_id memory ids) ids.diag_ids = true then (none,{ ids with diag_id := counted memory ids })
      else if process_name_len name = 0 ∨ (next_diag_id memory ids).toUInt8 = 0 then
        (none,{ ids with diag_id := counted memory ids })
      else (some (next_diag_id memory ids),
        { diag_ids := ids.diag_ids ++ [entry (next_diag_id memory ids).toUInt8 name], diag_id := counted memory ids }) := by
  have counter : (if le32At memory 8 ≥ DIAG_ID_VERSION_3 then ids else { ids with diag_id := next_diag_id memory ids }) =
      { ids with diag_id := counted memory ids } := by
    unfold counted next_diag_id
    split_ifs <;> rfl
  rw [local_diag_id,missing]
  dsimp only
  rw [counter]
  dsimp only
  rw [register_eq]
  split_ifs <;> simp_all [EINVAL]

theorem local_turned_down (missing : find_diag_id name ids.diag_ids = none) (down : TurnedDown memory name ids) :
    local_diag_id memory name ids = (none,{ ids with diag_id := counted memory ids }) := by
  rw [local_missing missing]
  rcases down with present | zero | wrapped
  · rw [if_pos present]
  · split_ifs with present refused
    · rfl
    · rfl
    · exact absurd (.inr zero) refused
  · split_ifs with present refused
    · rfl
    · rfl
    · exact absurd (.inl ((process_name_len_eq_zero name).mpr wrapped)) refused

theorem local_added (missing : find_diag_id name ids.diag_ids = none) (taken : ¬ TurnedDown memory name ids) :
    local_diag_id memory name ids = (some (next_diag_id memory ids),
      { diag_ids := ids.diag_ids ++ [entry (next_diag_id memory ids).toUInt8 name], diag_id := counted memory ids }) := by
  simp only [TurnedDown,not_or,← process_name_len_eq_zero] at taken
  obtain ⟨new,nonzero,fits⟩ := taken
  rw [local_missing missing,if_neg new,if_neg (by simp [fits,nonzero])]

end

theorem resp_diag_id_eq (diag_id : UInt32) (name : List UInt8) : resp_diag_id (diag_id_resp diag_id name) = diag_id := by
  have spelled := le32At_place (le32 DIAG_CNTL_CMD_DIAG_ID ++ le32 (UInt32.ofNat (8 + (process_name_len name).toNat)) ++
    le32 DIAG_ID_VERSION_1) (strncpy name ((process_name_len name).toNat - 1) ++ [0]) diag_id (fun _ => 0)
  simp only [List.length_append,le32_length,← List.append_assoc] at spelled
  exact spelled

/-- What a name gets: its id and what that makes of the table, or nothing. -/
def answered (memory : Nat → UInt8) (name : List UInt8) (state : Answers) : Answers :=
  match local_diag_id memory name state.ids with
  | (none,ids) => { state with ids := ids }
  | (some diag_id,ids) => { ids := { ids with diag_id := diag_id }, given := state.given ++ [(name,diag_id)] }

theorem answer_step_short {packet : IdPacket} (short : TooShort packet) (state : Answers) :
    answer_step state packet = .ok state := by
  simp only [answer_step,diag_cntl_process_diag_id,if_pos short,if_pos (show packet.len < _ from short),ok_bind,pure_ok,
    List.drop_length,List.map_nil,List.append_nil]

theorem answer_step_eq {packet : IdPacket} (whole : ¬ TooShort packet) (state : Answers) :
    answer_step state packet = (request_name packet >>= fun name => .ok (answered packet.memory name state)) := by
  simp only [answer_step,diag_cntl_process_diag_id,if_neg whole,if_neg (show ¬ packet.len < _ from whole)]
  rw [request_name]
  cases process_name packet.peripheral.features packet.memory with
  | error fault => rfl
  | ok name =>
    simp only [ok_bind,answered]
    cases local_diag_id packet.memory name state.ids with
    | mk diag_id ids =>
      cases diag_id with
      | none => simp
      | some diag_id => simp [cntl_push,queue_push,resp_diag_id_eq]

/-- A request is answered from the table, turned down or added. -/
theorem answered_cases (memory : Nat → UInt8) (name : List UInt8) (state : Answers) :
    (∃ diag_id, find_diag_id name state.ids.diag_ids = some diag_id ∧ answered memory name state =
      ⟨{ state.ids with diag_id := diag_id.toUInt32 },state.given ++ [(name,diag_id.toUInt32)]⟩) ∨
    (find_diag_id name state.ids.diag_ids = none ∧ TurnedDown memory name state.ids ∧ answered memory name state =
      { state with ids := { state.ids with diag_id := counted memory state.ids } }) ∨
    (find_diag_id name state.ids.diag_ids = none ∧ ¬ TurnedDown memory name state.ids ∧ answered memory name state =
      ⟨⟨state.ids.diag_ids ++ [entry (next_diag_id memory state.ids).toUInt8 name],next_diag_id memory state.ids⟩,
        state.given ++ [(name,next_diag_id memory state.ids)]⟩) := by
  cases found : find_diag_id name state.ids.diag_ids with
  | some diag_id => exact .inl ⟨diag_id,rfl,by rw [answered,local_known found]⟩
  | none =>
    by_cases down : TurnedDown memory name state.ids
    · exact .inr (.inl ⟨rfl,down,by rw [answered,local_turned_down found down]⟩)
    · exact .inr (.inr ⟨rfl,down,by rw [answered,local_added found down]⟩)

theorem request_text {packet : IdPacket} {name : List UInt8} (asked : request_name packet = .ok name) : 0 ∉ name :=
  (c_string_ok_iff.mp asked).2.1

/-! ## Uniqueness -/

/-- No two entries have an id or a name in common, none has a reserved id, and
    each answer is the id stored for its name. -/
structure Unique (state : Answers) : Prop where
  ids : (state.ids.diag_ids.map item_diag_id).Nodup
  names : (state.ids.diag_ids.map item_process_name).Nodup
  reserved : ∀ item ∈ state.ids.diag_ids, item_diag_id item ≠ 0 ∧ (item_diag_id item).toUInt32 ≠ DIAG_ID_APPS
  stored : ∀ answer ∈ state.given, ∃ item ∈ state.ids.diag_ids,
    item_process_name item = answer.1 ∧ answer.2 = (item_diag_id item).toUInt32

/-- A request whose name is known or turned down, or whose new id and name fit
    their 8 bits. -/
def Fits (memory : Nat → UInt8) (name : List UInt8) (ids : DiagIds) : Prop :=
  find_diag_id name ids.diag_ids = none → ¬ TurnedDown memory name ids →
    (next_diag_id memory ids).toNat < 256 ∧ next_diag_id memory ids ≠ DIAG_ID_APPS ∧ name.length ≤ 254

def KeepsUnique (state : Answers) (packet : IdPacket) : Prop :=
  ¬ TooShort packet → ∀ name, request_name packet = .ok name → Fits packet.memory name state.ids

theorem unique_init : Unique no_answers := by
  refine ⟨List.nodup_nil,List.nodup_nil,?_,?_⟩
  · simp [no_answers,no_diag_ids]
  · simp [no_answers]

theorem small_word {word : UInt32} : word.toUInt8.toUInt32 = word ↔ word.toNat < 256 := by
  rw [← UInt32.toNat_inj,UInt8.toNat_toUInt32,UInt32.toNat_toUInt8]
  omega

/-- An entry for a new name keeps the table unique, and answers its request,
    exactly when the id and the name fit. -/
theorem added_unique_iff {state : Answers} {name : List UInt8} {next : UInt32} (unique : Unique state) (text : 0 ∉ name)
    (missing : find_diag_id name state.ids.diag_ids = none) (new : diag_id_exists next state.ids.diag_ids = false)
    (nonzero : next.toUInt8 ≠ 0) :
    Unique ⟨⟨state.ids.diag_ids ++ [entry next.toUInt8 name],next⟩,state.given ++ [(name,next)]⟩ ↔
      next.toNat < 256 ∧ next ≠ DIAG_ID_APPS ∧ name.length ≤ 254 := by
  have absent := find_none_iff.mp missing
  constructor
  · intro after
    obtain ⟨item,member,same,answer⟩ := after.stored (name,next) (by simp)
    rcases List.mem_append.mp member with old | last
    · exact absurd (List.mem_map.mpr ⟨item,old,same⟩) absent
    · obtain rfl := List.mem_singleton.mp last
      rw [entry_diag_id] at answer
      have small := small_word.mp answer.symm
      refine ⟨small,?_,?_⟩
      · have apart := (after.reserved _ member).2
        rwa [entry_diag_id,← answer] at apart
      · rw [entry_process_name _ text] at same
        have length := congrArg List.length same
        rw [List.length_take] at length
        dsimp only at length
        omega
  · rintro ⟨small,apart,short⟩
    have same := small_word.mpr small
    have whole := entry_whole_name next.toUInt8 text short
    have fresh : next.toUInt8 ∉ state.ids.diag_ids.map item_diag_id := by
      intro member
      obtain ⟨item,present,id⟩ := List.mem_map.mp member
      have found := exists_iff.mpr ⟨item,present,by rw [id,same]⟩
      rw [new] at found
      cases found
    refine ⟨?_,?_,?_,?_⟩
    · rw [List.map_append,List.map_singleton,entry_diag_id,← List.concat_eq_append]
      exact List.Nodup.concat fresh unique.ids
    · rw [List.map_append,List.map_singleton,whole,← List.concat_eq_append]
      exact List.Nodup.concat absent unique.names
    · intro item member
      rcases List.mem_append.mp member with old | last
      · exact unique.reserved item old
      · obtain rfl := List.mem_singleton.mp last
        rw [entry_diag_id,same]
        exact ⟨nonzero,apart⟩
    · intro answer member
      rcases List.mem_append.mp member with old | last
      · obtain ⟨item,present,stored⟩ := unique.stored answer old
        exact ⟨item,List.mem_append_left _ present,stored⟩
      · obtain rfl := List.mem_singleton.mp last
        exact ⟨_,List.mem_append_right _ (List.mem_singleton.mpr rfl),whole,by rw [entry_diag_id,same]⟩

theorem answered_unique_iff {state : Answers} {memory : Nat → UInt8} {name : List UInt8} (unique : Unique state)
    (text : 0 ∉ name) : Unique (answered memory name state) ↔ Fits memory name state.ids := by
  rcases answered_cases memory name state with ⟨diag_id,found,same⟩ | ⟨missing,down,same⟩ | ⟨missing,taken,same⟩
  · rw [same,Fits,found]
    refine ⟨fun _ none => absurd none (by simp),fun _ => ⟨unique.ids,unique.names,unique.reserved,?_⟩⟩
    intro answer member
    rcases List.mem_append.mp member with old | last
    · exact unique.stored answer old
    · obtain rfl := List.mem_singleton.mp last
      obtain ⟨item,present,named,id⟩ := find_some found
      exact ⟨item,present,named,by rw [id]⟩
  · rw [same]
    exact ⟨fun _ _ taken => absurd down taken,fun _ => ⟨unique.ids,unique.names,unique.reserved,unique.stored⟩⟩
  · rw [same,Fits]
    have accepted := taken
    simp only [TurnedDown,not_or,Bool.not_eq_true] at accepted
    obtain ⟨new,nonzero,_⟩ := accepted
    rw [added_unique_iff unique text missing new nonzero]
    exact ⟨fun good _ _ => good,fun good => good missing taken⟩

theorem answer_step_unique_iff {state : Answers} {packet : IdPacket} (unique : Unique state) :
    KeepsUnique state packet ↔ ∀ after, answer_step state packet = .ok after → Unique after := by
  by_cases short : TooShort packet
  · rw [answer_step_short short]
    constructor
    · rintro _ after same
      cases same
      exact unique
    · exact fun _ whole => absurd short whole
  · rw [answer_step_eq short]
    constructor
    · intro keeps after step
      obtain ⟨name,asked,same⟩ := bind_eq_ok.mp step
      cases same
      exact (answered_unique_iff unique (request_text asked)).mpr (keeps short name asked)
    · intro good _ name asked
      exact (answered_unique_iff unique (request_text asked)).mp (good _ (bind_eq_ok.mpr ⟨name,asked,rfl⟩))

/-- From the empty table, whatever peripherals ask, the table is unique and
    agrees with every answer in each state, exactly when every request that is
    neither known nor turned down fits. -/
theorem diag_ids_unique_iff (packets : List IdPacket) :
    Along answer_step Unique no_answers packets ↔ Meets answer_step KeepsUnique no_answers packets :=
  along_iff_meets (fun _ => True) (fun _ _ => trivial) (fun _ unique => answer_step_unique_iff unique) packets trivial
    unique_init

/-- A peripheral without features. -/
def plain_peripheral : CntlPeripheral :=
  ⟨⟨7,0,3,[],[],[],.qrtr_perif_send⟩,-1,false,0⟩

/-- A DIAG_ID packet with the name in place of the feature mask. -/
def diag_id_packet (version diag_id : UInt32) (name : List UInt8) : IdPacket :=
  let rest := le32 version ++ le32 diag_id ++ name ++ [0]
  ⟨place (le32 DIAG_CNTL_CMD_DIAG_ID ++ le32 (UInt32.ofNat rest.length) ++ rest) (fun _ => 0),8 + rest.length,plain_peripheral⟩

/-- Version 3 requests for the ids 258 and 514 leave two entries with id 2. -/
theorem wrapped_ids_collide :
    ¬ Along answer_step Unique no_answers [diag_id_packet 3 258 [0x41],diag_id_packet 3 514 [0x42]] := by
  have ran : (fun state => state.ids.diag_ids.map item_diag_id) <$>
      exec answer_step no_answers [diag_id_packet 3 258 [0x41],diag_id_packet 3 514 [0x42]] = .ok [2,2] := by
    decide +kernel
  obtain ⟨state,run,ids⟩ := map_eq_ok.mp ran
  intro along
  have unique := (along.ends run).ids
  rw [ids] at unique
  exact absurd unique (by decide)

end DiagRouter.DiagIdTable

import Mathlib.Algebra.Ring.Nat
import DiagRouter.Cntl
import DiagRouter.DiagIdTable
import DiagRouter.DispatchOnce

/-!
# What a control packet depends on

The handlers are given the length of the whole buffer and never look at their
packet's own. Whether they stay inside the packet is up to its counts, its
feature mask and its name, and they do exactly when these end inside it.
-/
namespace DiagRouter.CntlLocality
open DiagRouter.Lib.Memory DiagRouter.Lib.Words DiagRouter.Lib.CString DiagRouter.Lib.Runs DiagRouter.Masks
open DiagRouter.Dispatch DiagRouter.Clients DiagRouter.Peripherals DiagRouter.Handlers DiagRouter.Cntl
open DiagRouter.DiagIdTable
open DiagRouter.DispatchOnce (entries register_entries)
open DiagRouter.Routing (remove_rounds)

/-! ## The packets of a buffer -/

/-- The offsets of the complete packets from one offset on. -/
def offsets_from (memory : Nat → UInt8) (n : Nat) : (fuel : Nat) → (offset : Nat) → List Nat
  | 0, _ => []
  | fuel + 1, offset =>
    if is_complete memory n offset then
      offset :: offsets_from memory n fuel (offset + 8 + (le32At (starting memory offset) 4).toNat)
    else []

def packet_offsets (memory : Nat → UInt8) (n : Nat) : List Nat := offsets_from memory n (n + 1) 0

theorem recv_loop_eq (junk : Nat → Nat → UInt8) (masks : MaskTables) {memory : Nat → UInt8} {n fuel offset : Nat}
    (within : offset ≤ n) (enough : n < fuel + offset) (state : Cntl) :
    recv_loop junk masks memory n fuel offset state =
      exec (fun state offset => process_packet junk masks (starting memory offset) n state) state
        (offsets_from memory n fuel offset) := by
  induction fuel generalizing offset state with
  | zero => omega
  | succ fuel ih =>
    rw [recv_loop,offsets_from]
    split_ifs with complete
    · simp only [is_complete,decide_eq_true_eq] at complete
      rw [exec_cons]
      cases process_packet junk masks (starting memory offset) n state with
      | error fault => rfl
      | ok after => exact ih complete.2 (by omega) after
    · rfl

/-- Receiving a buffer is processing its complete packets, each where it is. -/
theorem recv_eq (junk : Nat → Nat → UInt8) (masks : MaskTables) (memory : Nat → UInt8) (n : Nat) (state : Cntl) :
    diag_cntl_recv junk masks memory n state =
      exec (fun state offset => process_packet junk masks (starting memory offset) n state) state (packet_offsets memory n) :=
  recv_loop_eq junk masks (Nat.zero_le n) (Nat.lt_succ_self n) state

/-- A header and as many bytes after it as it says. -/
structure ControlPacket where
  bytes : List UInt8
  header : 8 ≤ bytes.length
  whole : bytes.length = 8 + (le32At (place bytes (fun _ => 0)) 4).toNat

/-- The packet in a memory that goes on with the given bytes. -/
def ControlPacket.before (packet : ControlPacket) (rest : Nat → UInt8) : Nat → UInt8 := place packet.bytes rest

def ControlPacket.memory (packet : ControlPacket) : Nat → UInt8 := packet.before (fun _ => 0)

/-- Two memories have the first bytes in common. -/
def Agree (n : Nat) (memory other : Nat → UInt8) : Prop := ∀ i, i < n → memory i = other i

/-- One of the complete packets of a buffer. -/
structure HasAt (packet : ControlPacket) (memory : Nat → UInt8) (n offset : Nat) : Prop where
  reached : offset ∈ packet_offsets memory n
  spelled : Agree packet.bytes.length (starting memory offset) packet.memory

/-- The effect of the packet is a function of the state and its own bytes:
    whatever buffers it is in, it does the same. -/
def Local (features : UInt32) (packet : ControlPacket) : Prop :=
  ∀ junk masks (state : Cntl), state.peripheral.features = features → ∀ memory n offset memory' n' offset',
    HasAt packet memory n offset → HasAt packet memory' n' offset' →
    process_packet junk masks (starting memory offset) n state = process_packet junk masks (starting memory' offset') n' state

/-! ## The condition -/

/-- `ranges[i]` of a DEREGISTER packet. -/
def dereg_range (memory : Nat → UInt8) (i : Nat) : UInt16 × UInt16 :=
  (le16At memory (18 + 4 * i),le16At memory (18 + 4 * i + 2))

/-- The counted entries begin inside, up to their last code. -/
def RegisterInside (packet : ControlPacket) : Prop :=
  18 ≤ packet.bytes.length ∧ ∀ i, i < (le16At packet.memory 16).toNat → 20 + 8 * i + 4 ≤ packet.bytes.length

/-- The counted ranges are inside; or the last byte is not, but whatever it is,
    the last range is one of the others. -/
def DeregisterInside (packet : ControlPacket) : Prop :=
  18 ≤ packet.bytes.length ∧ (18 + 4 * (le16At packet.memory 16).toNat ≤ packet.bytes.length ∨
    (18 + 4 * (le16At packet.memory 16).toNat = packet.bytes.length + 1 ∧ ∀ byte : UInt8,
      ∃ i, i + 1 < (le16At packet.memory 16).toNat ∧ dereg_range packet.memory i =
        dereg_range (packet.before (fun _ => byte)) ((le16At packet.memory 16).toNat - 1)))

/-- The structure is inside, and so is the end of the name. -/
def DiagIdInside (features : UInt32) (packet : ControlPacket) : Prop :=
  diag_id_size features packet.memory ≤ packet.bytes.length ∧
    ∃ i, process_name_at features packet.memory ≤ i ∧ i < packet.bytes.length ∧ packet.memory i = 0

/-- The high byte of a feature mask has no feature the router takes part in. -/
def FeatureInside (packet : ControlPacket) : Prop := 15 ≤ packet.bytes.length

def Inside (features : UInt32) (packet : ControlPacket) : Prop :=
  let cmd := le32At packet.memory 0
  if cmd = DIAG_CNTL_CMD_REGISTER then RegisterInside packet
  else if cmd = DIAG_CNTL_CMD_FEATURE_MASK then FeatureInside packet
  else if cmd = DIAG_CNTL_CMD_DIAG_ID then DiagIdInside features packet
  else if cmd = DIAG_CNTL_CMD_NUM_PRESETS then True
  else if cmd = DIAG_CNTL_CMD_DEREGISTER then DeregisterInside packet
  else True

/-! ## Bytes of a packet -/

theorem before_agree (packet : ControlPacket) (rest : Nat → UInt8) : Agree packet.bytes.length (packet.before rest) packet.memory := by
  intro i inside
  rw [ControlPacket.before,ControlPacket.memory,ControlPacket.before,place_inside inside,place_inside inside]

theorem before_beyond (packet : ControlPacket) (rest : Nat → UInt8) {i : Nat} (beyond : packet.bytes.length ≤ i) :
    packet.before rest i = rest i := by
  rw [ControlPacket.before,place,List.getElem?_eq_none beyond]
  rfl

theorem Agree.le16 {n i : Nat} {memory other : Nat → UInt8} (agree : Agree n memory other) (inside : i + 2 ≤ n) :
    le16At memory i = le16At other i :=
  le16At_congr (agree i (by omega)) (agree (i + 1) (by omega))

theorem Agree.le32 {n i : Nat} {memory other : Nat → UInt8} (agree : Agree n memory other) (inside : i + 4 ≤ n) :
    le32At memory i = le32At other i :=
  le32At_congr (fun k below => agree (i + k) (by omega))

theorem Agree.trans {n : Nat} {memory other third : Nat → UInt8} (first : Agree n memory other) (second : Agree n other third) :
    Agree n memory third := fun i inside => (first i inside).trans (second i inside)

theorem Agree.symm {n : Nat} {memory other : Nat → UInt8} (agree : Agree n memory other) : Agree n other memory :=
  fun i inside => (agree i inside).symm

/-- A packet stands at the start of a buffer, whatever follows. -/
theorem has_at_start (packet : ControlPacket) (rest : Nat → UInt8) {n : Nat} (room : packet.bytes.length ≤ n) :
    HasAt packet (packet.before rest) n 0 := by
  have header := packet.header
  have same : starting (packet.before rest) 0 = packet.before rest := by
    funext i
    rw [starting,Nat.zero_add]
  constructor
  · have complete : is_complete (packet.before rest) n 0 = true := by
      have size := packet.whole
      have len := (before_agree packet rest).le32 (i := 4) (by omega)
      simp only [is_complete,decide_eq_true_eq,same,len]
      rw [ControlPacket.memory,ControlPacket.before]
      omega
    rw [packet_offsets,offsets_from,if_pos complete]
    exact List.mem_cons_self
  · rw [same]
    exact before_agree packet rest

/-- A local packet at the start of two buffers. -/
theorem Local.before {features : UInt32} {packet : ControlPacket} (same : Local features packet) (junk : Nat → Nat → UInt8)
    (masks : MaskTables) {state : Cntl} (known : state.peripheral.features = features) (rest other : Nat → UInt8) {n n' : Nat}
    (room : packet.bytes.length ≤ n) (room' : packet.bytes.length ≤ n') :
    process_packet junk masks (packet.before rest) n state = process_packet junk masks (packet.before other) n' state := by
  have effect := same junk masks state known _ _ _ _ _ _ (has_at_start packet rest room) (has_at_start packet other room')
  have start : ∀ memory, starting memory 0 = memory := by
    intro memory
    funext i
    rw [starting,Nat.zero_add]
  rwa [start,start] at effect

/-! ## Registrations -/

/-- The code of a key is its low half. -/
theorem key_code (cmd subsys : UInt32) (code : UInt16) : (key cmd subsys code.toUInt32).toNat % 2 ^ 16 = code.toNat := by
  have small := code.toNat_lt
  have cmd_high : (cmd <<< 24).toNat % 2 ^ 16 = 0 := by
    rw [UInt32.toNat_shiftLeft]
    change cmd.toNat <<< 24 % 2 ^ 32 % 2 ^ 16 = 0
    rw [Nat.shiftLeft_eq]
    omega
  have subsys_high : (subsys <<< 16).toNat % 2 ^ 16 = 0 := by
    rw [UInt32.toNat_shiftLeft]
    change subsys.toNat <<< 16 % 2 ^ 32 % 2 ^ 16 = 0
    rw [Nat.shiftLeft_eq]
    omega
  rw [key,UInt32.toNat_or,UInt32.toNat_or,Nat.or_mod_two_pow,Nat.or_mod_two_pow,cmd_high,subsys_high,Nat.zero_or,
    Nat.zero_or,UInt16.toNat_toUInt32]
  exact Nat.mod_eq_of_lt small

theorem key_code_injective {cmd subsys cmd' subsys' : UInt32} {code other : UInt16}
    (same : key cmd subsys code.toUInt32 = key cmd' subsys' other.toUInt32) : code = other := by
  apply UInt16.toNat_inj.mp
  rw [← key_code cmd subsys code,same,key_code]

/-- A word whose high byte is beyond the packet is not the same before zeros and
    before ones. -/
theorem open_word {packet : ControlPacket} {i : Nat} (beyond : packet.bytes.length ≤ i + 1) :
    le16At (packet.before (fun _ => 0)) i ≠ le16At (packet.before (fun _ => 0xff)) i := by
  intro same
  have words := congrArg UInt16.toNat same
  have low := (packet.before (fun _ => 0) i).toNat_lt
  rw [le16At_toNat,le16At_toNat,before_beyond packet (fun _ => 0) beyond,before_beyond packet (fun _ => 0xff) beyond,
    UInt8.toNat_zero,show (0xff : UInt8).toNat = 255 from rfl] at words
  omega

section
variable {packet : ControlPacket} {memory : Nat → UInt8}

theorem packet_cmd_congr (room : 18 ≤ packet.bytes.length) (agree : Agree packet.bytes.length memory packet.memory) :
    packet_cmd memory = packet_cmd packet.memory ∧ le16At memory 14 = le16At packet.memory 14 ∧
      le16At memory 16 = le16At packet.memory 16 := by
  have cmd : le16At memory 12 = le16At packet.memory 12 := agree.le16 (by omega)
  have subsys : le16At memory 14 = le16At packet.memory 14 := agree.le16 (by omega)
  exact ⟨by rw [packet_cmd,packet_cmd,cmd,subsys],subsys,agree.le16 (by omega)⟩

theorem register_congr (inside : RegisterInside packet) (agree : Agree packet.bytes.length memory packet.memory)
    (addr : Nat) (diag_cmds : List (DiagCmd Nat)) :
    diag_cntl_register addr memory diag_cmds = diag_cntl_register addr packet.memory diag_cmds := by
  obtain ⟨room,ranges⟩ := inside
  obtain ⟨cmd,subsys,count⟩ := packet_cmd_congr room agree
  rw [register_entries,register_entries,entries,entries,count]
  refine congrArg (diag_cmds ++ ·) (List.map_congr_left ?_)
  intro i member
  have below := ranges i (List.mem_range.mp member)
  have first : le16At memory (20 + 8 * i) = le16At packet.memory (20 + 8 * i) := agree.le16 (by omega)
  have last : le16At memory (20 + 8 * i + 2) = le16At packet.memory (20 + 8 * i + 2) := agree.le16 (by omega)
  rw [register_entry,register_entry,cmd,subsys,first,last]

/-- Zeros and ones after the packet register the same only if it ends late
    enough. -/
theorem register_inside {addr : Nat}
    (same : diag_cntl_register addr (packet.before (fun _ => 0)) [] = diag_cntl_register addr (packet.before (fun _ => 0xff)) []) :
    RegisterInside packet := by
  rw [register_entries,register_entries,List.nil_append,List.nil_append,entries,entries] at same
  have count : le16At (packet.before (fun _ => 0)) 16 = le16At (packet.before (fun _ => 0xff)) 16 := by
    have lengths := congrArg List.length same
    rw [List.length_map,List.length_map,List.length_range,List.length_range] at lengths
    exact UInt16.toNat_inj.mp lengths
  have room : 18 ≤ packet.bytes.length := by
    by_contra short
    exact open_word (by omega) count
  refine ⟨room,?_⟩
  intro i below
  by_contra short
  rw [← count] at same
  have entry := List.map_inj_left.mp same i (List.mem_range.mpr below)
  exact open_word (by omega) (key_code_injective (congrArg DiagCmd.last entry))

end

/-! ## Deregistrations -/

/-- An entry for a range. -/
def range_entry (addr : Nat) (cmd subsys : UInt32) (range : UInt16 × UInt16) : DiagCmd Nat :=
  ⟨key cmd subsys range.1.toUInt32,key cmd subsys range.2.toUInt32,addr⟩

/-- The entries that a DEREGISTER packet names. -/
def deregistered (addr : Nat) (memory : Nat → UInt8) : List (DiagCmd Nat) :=
  (List.range (le16At memory 16).toNat).map (deregister_entry addr memory)

theorem deregister_eq (addr : Nat) (memory : Nat → UInt8) (diag_cmds : List (DiagCmd Nat)) :
    diag_cntl_deregister addr memory diag_cmds = diag_cmds.filter (fun dc => dc ∉ deregistered addr memory) := by
  rw [diag_cntl_deregister]
  simp only [decide_not]
  rw [remove_rounds]
  apply List.filter_congr
  rintro ⟨first,last,target⟩ _
  rw [Bool.eq_iff_iff]
  simp only [Bool.not_eq_true',List.any_eq_false,decide_eq_true_eq,decide_eq_false_iff_not,deregistered,List.mem_map,not_exists,
    not_and]
  constructor
  · intro kept i round same
    cases same
    exact kept i round rfl rfl rfl
  · rintro other i round rfl rfl rfl
    exact other i round rfl

theorem range_entry_injective {addr addr' : Nat} {cmd subsys cmd' subsys' : UInt32} {range other : UInt16 × UInt16}
    (same : range_entry addr cmd subsys range = range_entry addr' cmd' subsys' other) : range = other :=
  Prod.ext (key_code_injective (congrArg DiagCmd.first same)) (key_code_injective (congrArg DiagCmd.last same))

section
variable {packet : ControlPacket} {memory other : Nat → UInt8}

theorem mem_deregistered (room : 18 ≤ packet.bytes.length) (agree : Agree packet.bytes.length memory packet.memory) (addr : Nat)
    (dc : DiagCmd Nat) : dc ∈ deregistered addr memory ↔ ∃ i, i < (le16At packet.memory 16).toNat ∧
      range_entry addr (packet_cmd packet.memory) (le16At packet.memory 14).toUInt32 (dereg_range memory i) = dc := by
  obtain ⟨cmd,subsys,count⟩ := packet_cmd_congr room agree
  rw [deregistered,List.mem_map,count]
  simp only [List.mem_range,deregister_entry,range_entry,dereg_range,cmd,subsys]

theorem dereg_range_congr {n i : Nat} (agree : Agree n memory other) (inside : 18 + 4 * i + 4 ≤ n) :
    dereg_range memory i = dereg_range other i := by
  rw [dereg_range,dereg_range,agree.le16 (by omega),agree.le16 (by omega)]

/-- What a packet inside its bytes removes is named by its own ranges. -/
theorem mem_deregistered_inside (inside : DeregisterInside packet) (agree : Agree packet.bytes.length memory packet.memory)
    (addr : Nat) (dc : DiagCmd Nat) : dc ∈ deregistered addr memory ↔ ∃ i, i < (le16At packet.memory 16).toNat ∧
      18 + 4 * i + 4 ≤ packet.bytes.length ∧
      range_entry addr (packet_cmd packet.memory) (le16At packet.memory 14).toUInt32 (dereg_range packet.memory i) = dc := by
  obtain ⟨room,ranges⟩ := inside
  rw [mem_deregistered room agree]
  constructor
  · rintro ⟨i,below,rfl⟩
    by_cases complete : 18 + 4 * i + 4 ≤ packet.bytes.length
    · exact ⟨i,below,complete,by rw [dereg_range_congr agree complete]⟩
    · rcases ranges with enough | ⟨short,covered⟩
      · omega
      · obtain ⟨j,before_last,same⟩ := covered (memory packet.bytes.length)
        have last : i = (le16At packet.memory 16).toNat - 1 := by omega
        have filled : Agree (packet.bytes.length + 1) memory (packet.before (fun _ => memory packet.bytes.length)) := by
          intro k within
          by_cases old : k < packet.bytes.length
          · exact (agree.trans (before_agree packet _).symm) k old
          · have edge : k = packet.bytes.length := by omega
            rw [before_beyond packet _ (by omega),edge]
        refine ⟨j,by omega,by omega,?_⟩
        rw [same,← last,dereg_range_congr filled (by omega)]
  · rintro ⟨i,below,complete,rfl⟩
    exact ⟨i,below,by rw [dereg_range_congr agree complete]⟩

theorem deregister_congr (inside : DeregisterInside packet) (agree : Agree packet.bytes.length memory packet.memory)
    (agree' : Agree packet.bytes.length other packet.memory) (addr : Nat) (diag_cmds : List (DiagCmd Nat)) :
    diag_cntl_deregister addr memory diag_cmds = diag_cntl_deregister addr other diag_cmds := by
  rw [deregister_eq,deregister_eq]
  apply List.filter_congr
  intro dc _
  rw [decide_eq_decide,mem_deregistered_inside inside agree,mem_deregistered_inside inside agree']

/-- What is removed from every list tells what is named. -/
theorem named_same {addr : Nat} (same : ∀ diag_cmds, diag_cntl_deregister addr memory diag_cmds = diag_cntl_deregister addr other diag_cmds)
    (dc : DiagCmd Nat) : dc ∈ deregistered addr memory ↔ dc ∈ deregistered addr other := by
  have single := same [dc]
  rw [deregister_eq,deregister_eq] at single
  by_cases left : dc ∈ deregistered addr memory
  · by_cases right : dc ∈ deregistered addr other
    · simp [left,right]
    · simp [left,right] at single
  · by_cases right : dc ∈ deregistered addr other
    · simp [left,right] at single
    · simp [left,right]

variable {addr : Nat}

theorem deregister_room (same : ∀ dc, dc ∈ deregistered addr (packet.before (fun _ => 0)) ↔
    dc ∈ deregistered addr (packet.before (fun _ => 0xff))) : 18 ≤ packet.bytes.length := by
  by_contra short
  have many : 0 < (le16At (packet.before (fun _ => 0xff)) 16).toNat := by
    rw [le16At_toNat,before_beyond packet (fun _ => 0xff) (i := 17) (by omega),show (0xff : UInt8).toNat = 255 from rfl]
    omega
  obtain ⟨i,_,entry⟩ := List.mem_map.mp ((same (deregister_entry addr (packet.before (fun _ => 0xff)) 0)).mpr
    (List.mem_map.mpr ⟨0,List.mem_range.mpr many,rfl⟩))
  have words := congrArg UInt16.toNat (key_code_injective (congrArg DiagCmd.last entry))
  rw [le16At_toNat,le16At_toNat,before_beyond packet _ (by omega),before_beyond packet _ (by omega),
    before_beyond packet _ (by omega),before_beyond packet _ (by omega)] at words
  exact absurd words (by decide)

/-- Whatever follows a packet with a range that it cuts off, that range is one of
    the others: else other bytes after it would not name it. -/
theorem last_covered (room : 18 ≤ packet.bytes.length) (cut : packet.bytes.length < 18 + 4 * (le16At packet.memory 16).toNat)
    (same : ∀ rest rest' dc, dc ∈ deregistered addr (packet.before rest) ↔ dc ∈ deregistered addr (packet.before rest'))
    (rest : Nat → UInt8) : ∃ i, i + 1 < (le16At packet.memory 16).toNat ∧
      dereg_range packet.memory i = dereg_range (packet.before rest) ((le16At packet.memory 16).toNat - 1) := by
  generalize final : (le16At packet.memory 16).toNat - 1 = last at *
  let apart : UInt8 := packet.before rest (18 + 4 * last + 3) + 1
  have here := (mem_deregistered room (before_agree packet rest) addr _).mpr ⟨last,by omega,rfl⟩
  obtain ⟨i,below,entry⟩ := (mem_deregistered room (before_agree packet (fun _ => apart)) addr _).mp
    ((same rest (fun _ => apart) _).mp here)
  have range := range_entry_injective entry
  by_cases complete : 18 + 4 * i + 4 ≤ packet.bytes.length
  · exact ⟨i,by omega,by rw [← range,dereg_range_congr (before_agree packet _) complete]⟩
  · have words := congrArg UInt16.toNat (congrArg Prod.snd range)
    simp only [dereg_range] at words
    rw [le16At_toNat,le16At_toNat,before_beyond packet (fun _ => apart) (i := 18 + 4 * i + 2 + 1) (by omega)] at words
    have other : apart.toNat = ((packet.before rest (18 + 4 * last + 3)).toNat + 1) % 256 := UInt8.toNat_add _ _
    have low := (packet.before (fun _ => apart) (18 + 4 * i + 2)).toNat_lt
    have low' := (packet.before rest (18 + 4 * last + 2)).toNat_lt
    have high := (packet.before rest (18 + 4 * last + 3)).toNat_lt
    rw [show 18 + 4 * last + 2 + 1 = 18 + 4 * last + 3 from rfl] at words
    omega

/-- Two missing bytes make more ranges than there are others. -/
theorem one_missing (covered : ∀ rest : Nat → UInt8, ∃ i, i + 1 < (le16At packet.memory 16).toNat ∧
      dereg_range packet.memory i = dereg_range (packet.before rest) ((le16At packet.memory 16).toNat - 1))
    (cut : packet.bytes.length < 18 + 4 * (le16At packet.memory 16).toNat) :
    18 + 4 * (le16At packet.memory 16).toNat = packet.bytes.length + 1 := by
  have count := (le16At packet.memory 16).toNat_lt
  generalize final : (le16At packet.memory 16).toNat - 1 = last at *
  by_contra more
  have every : List.range 65536 ⊆ (List.range last).map (fun i => (dereg_range packet.memory i).2.toNat) := by
    intro code member
    have small := List.mem_range.mp member
    obtain ⟨i,below,same⟩ := covered (fun k => if k = 18 + 4 * last + 2 then UInt8.ofNat code else UInt8.ofNat (code / 256))
    refine List.mem_map.mpr ⟨i,List.mem_range.mpr (by omega),?_⟩
    rw [same]
    simp only [dereg_range]
    rw [le16At_toNat,before_beyond packet _ (by omega),before_beyond packet _ (by omega),if_pos rfl,if_neg (by omega),
      UInt8.toNat_ofNat',UInt8.toNat_ofNat']
    omega
  have enough := List.nodup_range.length_le_of_subset every
  rw [List.length_range,List.length_map,List.length_range] at enough
  omega

/-- Packets that remove the same whatever follows them end late enough. -/
theorem deregister_inside (same : ∀ rest rest' dc, dc ∈ deregistered addr (packet.before rest) ↔
    dc ∈ deregistered addr (packet.before rest')) : DeregisterInside packet := by
  have room := deregister_room (same (fun _ => 0) (fun _ => 0xff))
  refine ⟨room,?_⟩
  by_cases cut : packet.bytes.length < 18 + 4 * (le16At packet.memory 16).toNat
  · have covered := last_covered room cut same
    exact .inr ⟨one_missing covered cut,fun byte => covered (fun _ => byte)⟩
  · exact .inl (by omega)

end

/-! ## Features -/

/-- A mask below bit 24 sees the low bytes of a word only. -/
theorem masked_congr {word other mask : UInt32} (small : mask.toNat < 2 ^ 24)
    (same : word.toNat % 2 ^ 24 = other.toNat % 2 ^ 24) : word &&& mask = other &&& mask := by
  have low : ∀ value : UInt32, value.toNat &&& mask.toNat = (value.toNat % 2 ^ 24) &&& mask.toNat := by
    intro value
    rw [← Nat.mod_eq_of_lt (Nat.and_lt_two_pow value.toNat small),Nat.and_mod_two_pow,Nat.mod_eq_of_lt small]
  apply UInt32.toNat_inj.mp
  rw [UInt32.toNat_and,UInt32.toNat_and,low,low other,same]

theorem local_mask_small (peripheral : CntlPeripheral) : (local_mask peripheral).toNat < 2 ^ 24 := by
  unfold local_mask
  split_ifs <;> decide

/-- Bit 19 is `DIAG_FEATURE_DIAG_ID_FEATURE_MASK`. -/
theorem local_mask_bit (peripheral : CntlPeripheral) : (local_mask peripheral).toNat.testBit 19 = true := by
  unfold local_mask
  split_ifs <;> decide

section
variable {packet : ControlPacket} {memory other : Nat → UInt8}

theorem feature_congr (inside : FeatureInside packet) (agree : Agree packet.bytes.length memory packet.memory)
    (junk : Nat → Nat → UInt8) (masks : MaskTables) (peripheral : CntlPeripheral) :
    diag_cntl_feature_mask junk masks memory peripheral = diag_cntl_feature_mask junk masks packet.memory peripheral := by
  have room : 15 ≤ packet.bytes.length := inside
  have low : (le32At memory 12).toNat % 2 ^ 24 = (le32At packet.memory 12).toNat % 2 ^ 24 := by
    rw [le32At_toNat,le32At_toNat,agree 12 (by omega),agree (12 + 1) (by omega),agree (12 + 2) (by omega)]
    omega
  rw [diag_cntl_feature_mask,diag_cntl_feature_mask,masked_congr (local_mask_small peripheral) low]

/-- A peripheral without a control channel that is never written to. -/
def silent_peripheral (features : UInt32) : CntlPeripheral :=
  ⟨⟨7,features,-1,[],[],[],.qrtr_perif_send⟩,-1,false,0⟩

theorem feature_silent (junk : Nat → Nat → UInt8) (masks : MaskTables) (memory : Nat → UInt8) (features : UInt32) :
    diag_cntl_feature_mask junk masks memory (silent_peripheral features) =
      .ok (silent_peripheral (le32At memory 12 &&& local_mask (silent_peripheral features))) := rfl

/-- The third byte of the mask has a feature of the router's. -/
theorem feature_inside {peripheral : CntlPeripheral}
    (words : le32At (packet.before (fun _ => 0)) 12 &&& local_mask peripheral =
      le32At (packet.before (fun _ => 0xff)) 12 &&& local_mask peripheral) : FeatureInside packet := by
  by_contra outside
  have short : packet.bytes.length ≤ 12 + 2 := Nat.le_of_lt_succ (Nat.lt_of_not_le outside)
  have bits := congrArg (fun word : UInt32 => word.toNat.testBit 19) words
  simp only [UInt32.toNat_and,Nat.testBit_and,local_mask_bit,Bool.and_true] at bits
  rw [Nat.testBit_eq_decide_div_mod_eq,Nat.testBit_eq_decide_div_mod_eq,decide_eq_decide,le32At_toNat,le32At_toNat,
    before_beyond packet _ short,before_beyond packet _ short] at bits
  have first := (packet.before (fun _ => 0) 12).toNat_lt
  have second := (packet.before (fun _ => 0) (12 + 1)).toNat_lt
  have first' := (packet.before (fun _ => 0xff) 12).toNat_lt
  have second' := (packet.before (fun _ => 0xff) (12 + 1)).toNat_lt
  simp only [UInt8.toNat_zero,show (0xff : UInt8).toNat = 255 from rfl] at bits
  omega

/-! ## Ids -/

theorem is_v2_congr {n : Nat} (room : 12 ≤ n) (agree : Agree n memory other) (features : UInt32) :
    is_v2 features memory = is_v2 features other := by
  rw [is_v2,is_v2,agree.le32 (by omega)]

theorem name_at_congr {n : Nat} (agree : Agree n memory other) (features : UInt32) (room : diag_id_size features other ≤ n) :
    diag_id_size features memory = diag_id_size features other ∧ process_name_at features memory = process_name_at features other := by
  have more : 16 ≤ diag_id_size features other := by
    rw [diag_id_size]
    split_ifs <;> omega
  have version := is_v2_congr (by omega) agree features
  rw [diag_id_size,diag_id_size,process_name_at,process_name_at,version]
  refine ⟨rfl,?_⟩
  split_ifs with v2
  · rw [diag_id_size,if_pos v2] at room
    rw [agree.le32 (by omega)]
  · rfl

theorem local_diag_id_congr {n : Nat} (room : 16 ≤ n) (agree : Agree n memory other) (name : List UInt8) (ids : DiagIds) :
    local_diag_id memory name ids = local_diag_id other name ids := by
  have version : le32At memory 8 = le32At other 8 := agree.le32 (by omega)
  have asked : le32At memory 12 = le32At other 12 := agree.le32 (by omega)
  rw [local_diag_id,local_diag_id,next_diag_id,next_diag_id,version,asked]

theorem diag_id_congr {features : UInt32} (inside : DiagIdInside features packet)
    (agree : Agree packet.bytes.length memory packet.memory) {n n' : Nat} (room : packet.bytes.length ≤ n)
    (room' : packet.bytes.length ≤ n') (ids : DiagIds) {peripheral : CntlPeripheral} (known : peripheral.features = features) :
    diag_cntl_process_diag_id memory n ids peripheral = diag_cntl_process_diag_id packet.memory n' ids peripheral := by
  obtain ⟨size,last,above,below,ends⟩ := inside
  subst known
  obtain ⟨sizes,starts⟩ := name_at_congr agree peripheral.features size
  have more : 16 ≤ packet.bytes.length := by
    refine Nat.le_trans ?_ size
    rw [diag_id_size]
    split_ifs <;> omega
  have name : process_name peripheral.features memory = process_name peripheral.features packet.memory := by
    rw [process_name,process_name,starts]
    apply @c_string_congr memory packet.memory _ _ (packet.bytes.length - process_name_at peripheral.features packet.memory)
    · exact fun i within => agree _ (by omega)
    · refine ⟨last - process_name_at peripheral.features packet.memory,by omega,?_⟩
      rw [Nat.add_sub_cancel' above,agree last below]
      exact ends
  rw [diag_cntl_process_diag_id,diag_cntl_process_diag_id,if_neg (by omega),if_neg (by omega),name]
  cases process_name peripheral.features packet.memory with
  | error fault => rfl
  | ok name => simp only [ok_bind,local_diag_id_congr more agree]

/-- Without a NUL in reach there is no name. -/
theorem no_name {features : UInt32} (endless : ∀ i, process_name_at features memory ≤ i → memory i ≠ 0) (name : List UInt8) :
    process_name features memory ≠ .ok name := by
  intro found
  have last := (c_string_ok_iff.mp found).2.2.2
  exact endless _ (Nat.le_add_right _ _) last

/-- Before zeros every name ends. -/
theorem some_name (packet : ControlPacket) (features : UInt32) :
    ∃ name, process_name features packet.memory = .ok name := by
  have len := (le32At packet.memory 4).toNat_lt
  have whole : packet.bytes.length = 8 + (le32At packet.memory 4).toNat := packet.whole
  apply c_string_ends
  exact ⟨packet.bytes.length,by unfold ADDRESS_SPACE; omega,before_beyond packet _ (Nat.le_add_left _ _)⟩

theorem process_ok {n : Nat} (ids : DiagIds) {peripheral : CntlPeripheral} {name : List UInt8}
    (size : diag_id_size peripheral.features memory ≤ n) (found : process_name peripheral.features memory = .ok name) :
    ∃ result, diag_cntl_process_diag_id memory n ids peripheral = .ok result := by
  rw [diag_cntl_process_diag_id,if_neg (by omega),found,ok_bind]
  split
  · exact ⟨_,rfl⟩
  · exact ⟨_,rfl⟩

theorem diag_id_size_le (features : UInt32) (memory : Nat → UInt8) :
    16 ≤ diag_id_size features memory ∧ diag_id_size features memory ≤ 28 := by
  rw [diag_id_size]
  split_ifs <;> omega

/-- Where a name begins is in the packet, if anything of the name is. -/
theorem name_at_before {features : UInt32} {i : Nat} (rest : Nat → UInt8) (inside : i < packet.bytes.length)
    (above : process_name_at features (packet.before rest) ≤ i) :
    process_name_at features packet.memory = process_name_at features (packet.before rest) := by
  have agree := (before_agree packet rest).symm
  have low : 16 ≤ process_name_at features (packet.before rest) := by
    rw [process_name_at]
    split_ifs <;> omega
  have version := is_v2_congr (by omega) agree features
  rw [process_name_at,process_name_at,version]
  split_ifs with v2
  · rw [process_name_at,if_pos v2] at above
    rw [agree.le32 (by omega)]
  · rfl

/-- Packets that are answered the same before zeros and before ones have the end
    of their name. -/
theorem name_inside {n : Nat} {ids : DiagIds} {peripheral : CntlPeripheral} (room : 28 ≤ n)
    (same : Prod.snd <$> diag_cntl_process_diag_id packet.memory n ids peripheral =
      Prod.snd <$> diag_cntl_process_diag_id (packet.before (fun _ => 0xff)) n ids peripheral) :
    ∃ i, process_name_at peripheral.features packet.memory ≤ i ∧ i < packet.bytes.length ∧ packet.memory i = 0 := by
  obtain ⟨name,found⟩ := some_name packet peripheral.features
  have size := (diag_id_size_le peripheral.features packet.memory).2
  have size' := (diag_id_size_le peripheral.features (packet.before (fun _ => 0xff))).2
  obtain ⟨result,ran⟩ := process_ok (n := n) ids (by omega) found
  by_contra none
  have endless : ∀ name, process_name peripheral.features (packet.before (fun _ => 0xff)) ≠ .ok name := by
    apply no_name
    intro i above zero
    by_cases inside : i < packet.bytes.length
    · refine none ⟨i,?_,inside,?_⟩
      · rw [name_at_before _ inside above]
        exact above
      · rw [← before_agree packet (fun _ => 0xff) i inside]
        exact zero
    · rw [before_beyond packet _ (by omega)] at zero
      exact absurd zero (by decide)
  rw [ran,diag_cntl_process_diag_id,if_neg (by omega)] at same
  cases missing : process_name peripheral.features (packet.before (fun _ => 0xff)) with
  | error fault =>
    rw [missing] at same
    cases same
  | ok other => exact endless other missing

/-- A request for a name that the table has, in a buffer of any length that has
    room for its structure, is answered; in a shorter one it is not. -/
theorem size_inside {n : Nat} (features : UInt32) (room : 28 ≤ n) (short : packet.bytes.length < 28)
    (ends : ∃ i, process_name_at features packet.memory ≤ i ∧ i < packet.bytes.length ∧ packet.memory i = 0)
    (same : ∀ ids peripheral, peripheral.features = features →
      Prod.snd <$> diag_cntl_process_diag_id packet.memory packet.bytes.length ids peripheral =
        Prod.snd <$> diag_cntl_process_diag_id packet.memory n ids peripheral) :
    diag_id_size features packet.memory ≤ packet.bytes.length := by
  by_contra outside
  obtain ⟨name,found⟩ := some_name packet features
  have size := (diag_id_size_le features packet.memory).2
  obtain ⟨_,text,_,_⟩ := c_string_ok_iff.mp found
  obtain ⟨last,above,below,zero⟩ := ends
  have brief : name.length ≤ 254 := by
    have length := c_string_length_le found (by rw [Nat.add_sub_cancel' above]; exact zero)
    omega
  have known : find_diag_id name [entry 5 name] = some 5 := by
    simp [find_diag_id,entry_whole_name 5 text brief]
  have effect := same ⟨[entry 5 name],0⟩ (silent_peripheral features) rfl
  have plain : (silent_peripheral features).features = features := rfl
  rw [diag_cntl_process_diag_id,plain,if_pos (by omega),diag_cntl_process_diag_id,plain,if_neg (by omega),found,ok_bind,
    local_known known] at effect
  have queues := congrArg (fun result => result.2.cntlq.length) (Except.ok.inj effect)
  simp [cntl_push,queue_push,silent_peripheral] at queues

end

/-! ## One packet -/

section
variable {features : UInt32} {packet : ControlPacket}

theorem offsets_from_complete {memory : Nat → UInt8} {n fuel start offset : Nat}
    (member : offset ∈ offsets_from memory n fuel start) : is_complete memory n offset = true := by
  induction fuel generalizing start with
  | zero => simp [offsets_from] at member
  | succ fuel ih =>
    rw [offsets_from] at member
    split_ifs at member with complete
    · rcases List.mem_cons.mp member with rfl | later
      · exact complete
      · exact ih later
    · cases member

/-- A packet of a buffer is inside it. -/
theorem HasAt.room {memory : Nat → UInt8} {n offset : Nat} (has : HasAt packet memory n offset) : packet.bytes.length ≤ n := by
  have complete := offsets_from_complete has.reached
  have header := packet.header
  have len := has.spelled.le32 (i := 4) (by omega)
  have whole : packet.bytes.length = 8 + (le32At packet.memory 4).toNat := packet.whole
  simp only [is_complete,decide_eq_true_eq,len] at complete
  omega

/-- A packet inside its bytes does the same in every buffer. -/
theorem inside_congr (inside : Inside features packet) {memory other : Nat → UInt8} {n n' : Nat}
    (agree : Agree packet.bytes.length memory packet.memory) (agree' : Agree packet.bytes.length other packet.memory)
    (room : packet.bytes.length ≤ n) (room' : packet.bytes.length ≤ n') (junk : Nat → Nat → UInt8) (masks : MaskTables)
    {state : Cntl} (known : state.peripheral.features = features) :
    process_packet junk masks memory n state = process_packet junk masks other n' state := by
  have header := packet.header
  have cmd : le32At memory 0 = le32At packet.memory 0 := agree.le32 (by omega)
  have cmd' : le32At other 0 = le32At packet.memory 0 := agree'.le32 (by omega)
  simp only [process_packet,cmd,cmd']
  simp only [Inside] at inside
  split_ifs at inside ⊢
  · rw [register_congr inside agree,register_congr inside agree']
  · rw [feature_congr inside agree,feature_congr inside agree']
  · rw [diag_id_congr inside agree room room _ known,diag_id_congr inside agree' room' room _ known]
  · rfl
  · rw [deregister_congr inside agree agree']
  · rfl

/-- The same state with nothing in it. -/
def silent (features : UInt32) : Cntl := ⟨[],no_diag_ids,silent_peripheral features⟩

/-- The state shows all that a DIAG_ID packet leaves but its return value. -/
theorem diag_id_effect {ran again : Except Fault (Int × DiagIds × CntlPeripheral)} {state : Cntl}
    (same : (ran >>= fun result => .ok { state with ids := result.2.1, peripheral := result.2.2 }) =
      (again >>= fun result => .ok { state with ids := result.2.1, peripheral := result.2.2 })) :
    Prod.snd <$> ran = Prod.snd <$> again := by
  cases ran with
  | error fault =>
    cases again with
    | error other =>
      rw [Except.error.inj same]
    | ok result => cases same
  | ok result =>
    cases again with
    | error other => cases same
    | ok other =>
      have ids := congrArg Cntl.ids (Except.ok.inj same)
      have peripheral := congrArg Cntl.peripheral (Except.ok.inj same)
      exact congrArg Except.ok (Prod.ext ids peripheral)

theorem local_inside (same : Local features packet) : Inside features packet := by
  have header := packet.header
  have cmd : ∀ rest, le32At (packet.before rest) 0 = le32At packet.memory 0 := fun rest => (before_agree packet rest).le32 (by omega)
  have effect := fun state (known : state.peripheral.features = features) rest other n n' room room' =>
    @Local.before features packet same (fun _ _ => 0) diag_masks_init state known rest other n n' room room'
  have fits := Nat.le_refl packet.bytes.length
  simp only [process_packet,cmd] at effect
  simp only [Inside]
  split_ifs at effect ⊢
  · have entries := effect (silent features) rfl (fun _ => 0) (fun _ => 0xff) _ _ fits fits
    exact register_inside (congrArg Cntl.diag_cmds (Except.ok.inj entries))
  · have left := effect (silent features) rfl (fun _ => 0) (fun _ => 0xff) _ _ fits fits
    simp only [silent,feature_silent,ok_bind,pure_ok] at left
    exact feature_inside (congrArg (fun state : Cntl => state.peripheral.features) (Except.ok.inj left))
  · have room := Nat.le_add_right packet.bytes.length 28
    have ends := name_inside (Nat.le_add_left 28 _)
      (diag_id_effect (effect (silent features) rfl (fun _ => 0) (fun _ => 0xff) _ _ room room))
    refine ⟨?_,ends⟩
    by_cases short : packet.bytes.length < 28
    · refine size_inside features (Nat.le_add_left 28 packet.bytes.length) short ends ?_
      intro ids peripheral known
      exact diag_id_effect (effect ⟨[],ids,peripheral⟩ known (fun _ => 0) (fun _ => 0) _ _ fits room)
    · have size := (diag_id_size_le features packet.memory).2
      omega
  · apply deregister_inside
    intro rest rest'
    apply named_same
    intro diag_cmds
    exact congrArg Cntl.diag_cmds (Except.ok.inj (effect ⟨diag_cmds,no_diag_ids,silent_peripheral features⟩ rfl rest rest' _ _ fits fits))

/-- For every packet and the features of the peripheral it is from: it does the
    same in all buffers exactly when the entries it counts, the byte of the mask
    that matters, or its structure and its name are inside it. -/
theorem local_iff (features : UInt32) (packet : ControlPacket) : Local features packet ↔ Inside features packet :=
  ⟨local_inside,fun inside junk masks _ known _ _ _ _ _ _ has has' =>
    inside_congr inside has.spelled has'.spelled has.room has'.room junk masks known⟩

end

/-- A version 1 DIAG_ID packet with the name A and no NUL. -/
def open_name : ControlPacket where
  bytes := le32 DIAG_CNTL_CMD_DIAG_ID ++ le32 9 ++ le32 1 ++ le32 0 ++ [0x41]
  header := by decide
  whole := by decide

/-- Before a NUL it registers A, before another letter a longer name. -/
theorem open_name_reads_on : ¬ Local 0 open_name := by
  intro same
  have effect := @Local.before 0 open_name same (fun _ _ => 0) diag_masks_init (silent 0) rfl (fun _ => 0)
    (fun i => if i = 17 then 0x42 else 0) 17 17 (by decide) (by decide)
  have first : (fun state => state.ids.diag_ids.map item_process_name) <$>
      process_packet (fun _ _ => 0) diag_masks_init (open_name.before (fun _ => 0)) 17 (silent 0) = .ok [[0x41]] := by
    decide +kernel
  have second : (fun state => state.ids.diag_ids.map item_process_name) <$>
      process_packet (fun _ _ => 0) diag_masks_init (open_name.before (fun i => if i = 17 then 0x42 else 0)) 17 (silent 0) =
        .ok [[0x41,0x42]] := by
    decide +kernel
  rw [effect,second] at first
  exact absurd (Except.ok.inj first) (by decide)

end DiagRouter.CntlLocality

import DiagRouter.Lib.Memory
import DiagRouter.Lib.Words

/-!
# Command registration and dispatch

The three command lists, the control packets that change `diag_cmds`, and the
search of `diag_cmd_dispatch`. Every entry is a range of 32-bit keys: command,
subsystem and 16-bit code packed into one word.
-/
namespace DiagRouter.Dispatch
open DiagRouter.Lib.Memory DiagRouter.Lib.Words

def DIAG_CMD_SUBSYS_DISPATCH : Nat := 75
def DIAG_CMD_SUBSYS_DISPATCH_V2 : Nat := 128
def ENOENT : Int := 2

/-- The callbacks of the common and the fallback commands. -/
inductive Handler
  | handle_logging_configuration
  | handle_extended_message_configuration
  | handle_event_get_mask
  | handle_event_set_mask
  | handle_event_report_control
  | handle_diag_version
  | handle_diag_version_no
  | handle_extended_build_id
  | handle_keep_alive
  | handle_diag_id
  | handle_hdlc_disable_cmd
deriving DecidableEq, Repr

/-- An entry of a command list. In the common and fallback lists the target is
    the callback; in `diag_cmds`, whose entries are zeroed before they are
    filled, it is the peripheral and the callback is NULL. -/
structure DiagCmd (β : Type) where
  first : UInt32
  last : UInt32
  target : β
deriving DecidableEq, Repr

/-- `cmd << 24 | subsys << 16 | code`. -/
def key (cmd subsys code : UInt32) : UInt32 := cmd <<< 24 ||| subsys <<< 16 ||| code

/-! ## The fixed lists -/

def register_fallback_cmd (cmd : UInt32) (cb : Handler) (fallback_cmds : List (DiagCmd Handler)) : List (DiagCmd Handler) :=
  fallback_cmds ++ [⟨0xffff0000 ||| cmd,0xffff0000 ||| cmd,cb⟩]

def register_fallback_subsys_cmd (subsys cmd : UInt32) (cb : Handler) (fallback_cmds : List (DiagCmd Handler)) :
    List (DiagCmd Handler) :=
  fallback_cmds ++ [⟨key 75 (subsys &&& 0xff) cmd,key 75 (subsys &&& 0xff) cmd,cb⟩]

def register_common_cmd (cmd : UInt32) (cb : Handler) (common_cmds : List (DiagCmd Handler)) : List (DiagCmd Handler) :=
  common_cmds ++ [⟨0xffff0000 ||| cmd,0xffff0000 ||| cmd,cb⟩]

/-- What `register_common_cmds` leaves in `common_cmds`. -/
def common_cmds : List (DiagCmd Handler) :=
  [] |> register_common_cmd 0x73 .handle_logging_configuration
     |> register_common_cmd 0x7d .handle_extended_message_configuration
     |> register_common_cmd 0x81 .handle_event_get_mask
     |> register_common_cmd 0x82 .handle_event_set_mask
     |> register_common_cmd 0x60 .handle_event_report_control

/-- What `register_app_cmds` leaves in `fallback_cmds`. -/
def fallback_cmds : List (DiagCmd Handler) :=
  [] |> register_fallback_cmd 28 .handle_diag_version
     |> register_fallback_cmd 0 .handle_diag_version_no
     |> register_fallback_cmd 124 .handle_extended_build_id
     |> register_fallback_subsys_cmd 50 3 .handle_keep_alive
     |> register_fallback_subsys_cmd 18 0x222 .handle_diag_id
     |> register_fallback_subsys_cmd 18 0x218 .handle_hdlc_disable_cmd

/-! ## Control packets -/

/-- The command of a REGISTER or DEREGISTER packet. -/
def packet_cmd (pkt : Nat → UInt8) : UInt32 :=
  let cmd := (le16At pkt 12).toUInt32
  let subsys := (le16At pkt 14).toUInt32
  if cmd = 0xff ∧ subsys ≠ 0xff then 75 else cmd

/-- `ranges[i]` of a REGISTER packet, packed. -/
def register_entry (peripheral : Nat) (pkt : Nat → UInt8) (i : Nat) : DiagCmd Nat :=
  let cmd := packet_cmd pkt
  let subsys := (le16At pkt 14).toUInt32
  { first := key cmd subsys (le16At pkt (20 + 8 * i)).toUInt32
    last := key cmd subsys (le16At pkt (20 + 8 * i + 2)).toUInt32
    target := peripheral }

def diag_cntl_register (peripheral : Nat) (pkt : Nat → UInt8) (diag_cmds : List (DiagCmd Nat)) : List (DiagCmd Nat) :=
  (List.range (le16At pkt 16).toNat).foldl (fun cmds i => cmds ++ [register_entry peripheral pkt i]) diag_cmds

/-- `ranges[i]` of a DEREGISTER packet, packed. -/
def deregister_entry (peripheral : Nat) (pkt : Nat → UInt8) (i : Nat) : DiagCmd Nat :=
  let cmd := packet_cmd pkt
  let subsys := (le16At pkt 14).toUInt32
  { first := key cmd subsys (le16At pkt (18 + 4 * i)).toUInt32
    last := key cmd subsys (le16At pkt (18 + 4 * i + 2)).toUInt32
    target := peripheral }

def diag_cntl_deregister (peripheral : Nat) (pkt : Nat → UInt8) (diag_cmds : List (DiagCmd Nat)) : List (DiagCmd Nat) :=
  (List.range (le16At pkt 16).toNat).foldl
    (fun cmds i => cmds.filter (fun dc => ¬ (dc.target = peripheral ∧
      dc.first = (deregister_entry peripheral pkt i).first ∧ dc.last = (deregister_entry peripheral pkt i).last)))
    diag_cmds

def diag_cntl_close (peripheral : Nat) (diag_cmds : List (DiagCmd Nat)) : List (DiagCmd Nat) :=
  diag_cmds.filter (fun dc => dc.target ≠ peripheral)

/-! ## Dispatch -/

/-- What the entries of the lists do to the rest of the program. -/
structure Calls (σ : Type) where
  cb : Handler → σ → Except Fault (Int × σ)
  peripheral_send : Nat → σ → Except Fault σ

def message_key (ptr : Nat → UInt8) : UInt32 :=
  if (ptr 0).toNat = DIAG_CMD_SUBSYS_DISPATCH ∨ (ptr 0).toNat = DIAG_CMD_SUBSYS_DISPATCH_V2 then
    (ptr 0).toUInt32 <<< 24 ||| (ptr 1).toUInt32 <<< 16 ||| (ptr 3).toUInt32 <<< 8 ||| (ptr 2).toUInt32
  else (0xff : UInt32) <<< 24 ||| (0xff : UInt32) <<< 16 ||| (ptr 0).toUInt32

def covers {β : Type} (k : UInt32) (dc : DiagCmd β) : Bool := ¬ (k < dc.first ∨ k > dc.last)

/-- The loop over `diag_cmds`, counting what it handled. -/
def send_loop {σ : Type} (calls : Calls σ) (k : UInt32) : List (DiagCmd Nat) → Nat → σ → Except Fault (Nat × σ)
  | [], handled, s => .ok (handled,s)
  | dc :: rest, handled, s =>
    if covers k dc then calls.peripheral_send dc.target s >>= fun s => send_loop calls k rest (handled + 1) s
    else send_loop calls k rest handled s

def diag_cmd_dispatch {σ : Type} (calls : Calls σ) (diag_cmds : List (DiagCmd Nat)) (ptr : Nat → UInt8) (s : σ) :
    Except Fault (Int × σ) :=
  let k := message_key ptr
  match common_cmds.find? (covers k) with
  | some dc => calls.cb dc.target s
  | none =>
    send_loop calls k diag_cmds 0 s >>= fun (handled,s) =>
      if handled ≠ 0 then .ok (0,s)
      else
        match fallback_cmds.find? (covers k) with
        | some dc => calls.cb dc.target s
        | none => .ok (-ENOENT,s)

/-- The loop makes one call for each covering entry, in order, and counts them. -/
theorem send_loop_eq {σ : Type} (calls : Calls σ) (k : UInt32) (diag_cmds : List (DiagCmd Nat)) (handled : Nat) (s : σ) :
    send_loop calls k diag_cmds handled s =
      (fun s => (handled + (diag_cmds.filter (covers k)).length,s)) <$>
        ((diag_cmds.filter (covers k)).map DiagCmd.target).foldlM (fun s peripheral => calls.peripheral_send peripheral s) s := by
  induction diag_cmds generalizing handled s with
  | nil => rfl
  | cons dc rest ih =>
    rw [send_loop,List.filter_cons]
    cases covers k dc with
    | false => exact ih handled s
    | true =>
      rw [if_pos rfl,if_pos rfl,List.map_cons,List.foldlM_cons]
      cases calls.peripheral_send dc.target s with
      | error e => rfl
      | ok t =>
        simp only [ok_bind]
        rw [ih,List.length_cons,Nat.add_assoc,Nat.add_comm 1]

theorem dispatch_common {σ : Type} (calls : Calls σ) (diag_cmds : List (DiagCmd Nat)) {ptr : Nat → UInt8} (s : σ)
    {dc : DiagCmd Handler} (found : common_cmds.find? (covers (message_key ptr)) = some dc) :
    diag_cmd_dispatch calls diag_cmds ptr s = calls.cb dc.target s := by
  simp only [diag_cmd_dispatch,found]

/-- Other messages go to the peripherals, and to a fallback handler when none
    has a registration for them. -/
theorem dispatch_other {σ : Type} (calls : Calls σ) (diag_cmds : List (DiagCmd Nat)) {ptr : Nat → UInt8} (s : σ)
    (missing : common_cmds.find? (covers (message_key ptr)) = none) :
    diag_cmd_dispatch calls diag_cmds ptr s =
      (send_loop calls (message_key ptr) diag_cmds 0 s >>= fun (handled,s) =>
        if handled ≠ 0 then .ok (0,s)
        else
          match fallback_cmds.find? (covers (message_key ptr)) with
          | some dc => calls.cb dc.target s
          | none => .ok (-ENOENT,s)) := by
  simp only [diag_cmd_dispatch,missing]

/-! ## Keys are fields -/

theorem key_toNat {cmd subsys code : UInt32} (cmd_byte : cmd.toNat < 256) (subsys_byte : subsys.toNat < 256)
    (code_word : code.toNat < 65536) :
    (key cmd subsys code).toNat = cmd.toNat * 16777216 + subsys.toNat * 65536 + code.toNat := by
  have cmd_shifted : (cmd <<< 24).toNat = cmd.toNat <<< 24 := by
    rw [UInt32.toNat_shiftLeft]
    change cmd.toNat <<< 24 % 2 ^ 32 = cmd.toNat <<< 24
    rw [Nat.shiftLeft_eq]
    omega
  have subsys_shifted : (subsys <<< 16).toNat = subsys.toNat <<< 16 := by
    rw [UInt32.toNat_shiftLeft]
    change subsys.toNat <<< 16 % 2 ^ 32 = subsys.toNat <<< 16
    rw [Nat.shiftLeft_eq]
    omega
  have low : subsys.toNat <<< 16 ||| code.toNat = subsys.toNat * 65536 + code.toNat := by
    rw [← Nat.shiftLeft_add_eq_or_of_lt code_word,Nat.shiftLeft_eq]
  have below : subsys.toNat * 65536 + code.toNat < 2 ^ 24 := by omega
  have high : cmd.toNat <<< 24 ||| (subsys.toNat * 65536 + code.toNat) =
      cmd.toNat * 16777216 + (subsys.toNat * 65536 + code.toNat) := by
    rw [← Nat.shiftLeft_add_eq_or_of_lt below,Nat.shiftLeft_eq]
  rw [key,UInt32.toNat_or,UInt32.toNat_or,cmd_shifted,subsys_shifted,Nat.or_assoc,low,high,Nat.add_assoc]

/-- The key of a subsystem message: its command, subsystem and code. -/
theorem message_key_subsys {ptr : Nat → UInt8} (subsys : (ptr 0).toNat = 75 ∨ (ptr 0).toNat = 128) :
    (message_key ptr).toNat = (ptr 0).toNat * 16777216 + (ptr 1).toNat * 65536 + (le16At ptr 2).toNat := by
  have code : (ptr 3).toUInt32 <<< 8 ||| (ptr 2).toUInt32 = (le16At ptr 2).toUInt32 := by
    apply UInt32.toNat_inj.mp
    have low := (ptr 2).toNat_lt
    have high := (ptr 3).toNat_lt
    have shifted : ((ptr 3).toUInt32 <<< 8).toNat = (ptr 3).toNat <<< 8 := by
      rw [UInt32.toNat_shiftLeft]
      change (ptr 3).toNat <<< 8 % 2 ^ 32 = (ptr 3).toNat <<< 8
      rw [Nat.shiftLeft_eq]
      omega
    rw [UInt32.toNat_or,shifted,UInt16.toNat_toUInt32,le16At_toNat,UInt8.toNat_toUInt32,
      ← Nat.shiftLeft_add_eq_or_of_lt low,Nat.shiftLeft_eq]
    simp only [Nat.reduceAdd]
    omega
  have packed : message_key ptr = key (ptr 0).toUInt32 (ptr 1).toUInt32 (le16At ptr 2).toUInt32 := by
    rw [message_key,if_pos (by exact subsys),key,← code,UInt32.or_assoc]
  have cmd_byte := (ptr 0).toNat_lt
  have subsys_byte := (ptr 1).toNat_lt
  have code_word := (le16At ptr 2).toNat_lt
  rw [packed,key_toNat (by simpa using cmd_byte) (by simpa using subsys_byte) (by simpa using code_word)]
  simp

/-- The key of any other message: its command byte under 0xffff. -/
theorem message_key_other {ptr : Nat → UInt8} (other : ¬ ((ptr 0).toNat = 75 ∨ (ptr 0).toNat = 128)) :
    (message_key ptr).toNat = 0xff * 16777216 + 0xff * 65536 + (ptr 0).toNat := by
  have byte := (ptr 0).toNat_lt
  have packed : message_key ptr = key 0xff 0xff (ptr 0).toUInt32 := by
    rw [message_key,if_neg (by exact other)]
    rfl
  rw [packed,key_toNat (by decide) (by decide) (by simp; omega)]
  simp

theorem covers_iff {β : Type} {k : UInt32} {dc : DiagCmd β} :
    covers k dc ↔ dc.first.toNat ≤ k.toNat ∧ k.toNat ≤ dc.last.toNat := by
  simp only [covers,decide_eq_true_eq,UInt32.lt_iff_toNat_lt,gt_iff_lt]
  omega

/-! ## The common commands -/

/-- The keys of messages without a subsystem are above all others. -/
theorem message_key_cases (ptr : Nat → UInt8) :
    (message_key ptr).toNat < 0xffff0000 ∨ (message_key ptr).toNat = 0xffff0000 + (ptr 0).toNat := by
  have byte := (ptr 0).toNat_lt
  have other := (ptr 1).toNat_lt
  have code := (le16At ptr 2).toNat_lt
  by_cases dispatched : (ptr 0).toNat = 75 ∨ (ptr 0).toNat = 128
  · rw [message_key_subsys dispatched]
    omega
  · exact .inr (by rw [message_key_other dispatched])

/-- A common command is the first byte of its request. -/
theorem common_first {ptr : Nat → UInt8} {dc : DiagCmd Handler}
    (found : common_cmds.find? (covers (message_key ptr)) = some dc) : dc.first.toNat = 0xffff0000 + (ptr 0).toNat := by
  have rows : ∀ dc ∈ common_cmds, dc.first = dc.last ∧ 0xffff0000 ≤ dc.first.toNat := by decide
  obtain ⟨single,high_word⟩ := rows dc (List.mem_of_find?_eq_some found)
  obtain ⟨low,high⟩ := covers_iff.mp (List.find?_some found)
  rw [← single] at high
  have shape := message_key_cases ptr
  omega

theorem common_command {ptr : Nat → UInt8} {dc : DiagCmd Handler}
    (found : common_cmds.find? (covers (message_key ptr)) = some dc) :
    (dc.target = .handle_logging_configuration → ptr 0 = 0x73) ∧
      (dc.target = .handle_extended_message_configuration → ptr 0 = 0x7d) := by
  have rows : ∀ dc ∈ common_cmds, (dc.target = .handle_logging_configuration → dc.first.toNat = 0xffff0073) ∧
      (dc.target = .handle_extended_message_configuration → dc.first.toNat = 0xffff007d) := by decide
  obtain ⟨logging,message⟩ := rows dc (List.mem_of_find?_eq_some found)
  have first := common_first found
  constructor
  · intro target
    have row := logging target
    exact UInt8.toNat_inj.mp (show (ptr 0).toNat = 0x73 by omega)
  · intro target
    have row := message target
    exact UInt8.toNat_inj.mp (show (ptr 0).toNat = 0x7d by omega)

theorem common_found {ptr : Nat → UInt8} {dc : DiagCmd Handler} (member : dc ∈ common_cmds)
    (first : dc.first.toNat = 0xffff0000 + (ptr 0).toNat) : common_cmds.find? (covers (message_key ptr)) = some dc := by
  have rows : ∀ dc ∈ common_cmds, dc.first.toNat ≠ 0xffff0000 + 75 ∧ dc.first.toNat ≠ 0xffff0000 + 128 ∧
      common_cmds.find? (covers dc.first) = some dc := by decide
  obtain ⟨notSubsys,notSubsys2,found⟩ := rows dc member
  have same : message_key ptr = dc.first := by
    apply UInt32.toNat_inj.mp
    rw [message_key_other (by omega),first]
  rw [same,found]

/-- No subsystem message is a common command. -/
theorem common_missing {ptr : Nat → UInt8} (subsys : (ptr 0).toNat = 75 ∨ (ptr 0).toNat = 128) :
    common_cmds.find? (covers (message_key ptr)) = none := by
  have rows : ∀ dc ∈ common_cmds, 0xffff0000 ≤ dc.first.toNat := by decide
  rw [List.find?_eq_none]
  intro dc member covered
  have low := (covers_iff.mp covered).1
  have first := rows dc member
  have other := (ptr 1).toNat_lt
  have code := (le16At ptr 2).toNat_lt
  rw [message_key_subsys subsys] at low
  omega

/-- The fallback list has none of the handlers of the masks. -/
theorem fallback_command : ∀ dc ∈ fallback_cmds, dc.target ≠ .handle_logging_configuration ∧
    dc.target ≠ .handle_extended_message_configuration ∧ dc.target ≠ .handle_event_set_mask ∧
    dc.target ≠ .handle_event_report_control := by
  decide

end DiagRouter.Dispatch

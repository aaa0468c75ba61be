import DiagRouter.Dispatch

/-!
# The routing law

The registrations of peripherals by their fields, next to the packed keys the
router keeps. Over any history of control packets and closes the keys stand for
the live registrations, and `diag_cmd_dispatch` routes a message by its fields.
-/
namespace DiagRouter.Routing
open DiagRouter.Lib.Memory DiagRouter.Lib.Words DiagRouter.Dispatch

/-- A registration by its fields: command, subsystem, and the codes from first
    to last. -/
structure Registration (β : Type) where
  cmd : Nat
  subsys : Nat
  first : Nat
  last : Nat
  target : β
deriving DecidableEq, Repr

/-- The fields of a message that is sent to a subsystem are compared with its
    command, subsystem and code; of any other message the command byte is
    compared with the codes registered under 0xff, 0xff. -/
def Registration.matched {β : Type} (msg : Nat → UInt8) (r : Registration β) : Bool :=
  if (msg 0).toNat = 75 ∨ (msg 0).toNat = 128 then
    r.cmd = (msg 0).toNat ∧ r.subsys = (msg 1).toNat ∧ r.first ≤ (le16At msg 2).toNat ∧ (le16At msg 2).toNat ≤ r.last
  else r.cmd = 0xff ∧ r.subsys = 0xff ∧ r.first ≤ (msg 0).toNat ∧ (msg 0).toNat ≤ r.last

def common_registrations : List (Registration Handler) :=
  [⟨0xff,0xff,0x73,0x73,.handle_logging_configuration⟩,⟨0xff,0xff,0x7d,0x7d,.handle_extended_message_configuration⟩,
   ⟨0xff,0xff,0x81,0x81,.handle_event_get_mask⟩,⟨0xff,0xff,0x82,0x82,.handle_event_set_mask⟩,
   ⟨0xff,0xff,0x60,0x60,.handle_event_report_control⟩]

def fallback_registrations : List (Registration Handler) :=
  [⟨0xff,0xff,28,28,.handle_diag_version⟩,⟨0xff,0xff,0,0,.handle_diag_version_no⟩,
   ⟨0xff,0xff,124,124,.handle_extended_build_id⟩,⟨75,50,3,3,.handle_keep_alive⟩,⟨75,18,0x222,0x222,.handle_diag_id⟩,
   ⟨75,18,0x218,0x218,.handle_hdlc_disable_cmd⟩]

/-! ## Histories -/

/-- A control packet of a peripheral, or its close. A packet is what memory
    holds from its first byte on. -/
inductive CntlOp
  | register (peripheral : Nat) (pkt : Nat → UInt8)
  | deregister (peripheral : Nat) (pkt : Nat → UInt8)
  | close (peripheral : Nat)

def cntl_step (diag_cmds : List (DiagCmd Nat)) : CntlOp → List (DiagCmd Nat)
  | .register peripheral pkt => diag_cntl_register peripheral pkt diag_cmds
  | .deregister peripheral pkt => diag_cntl_deregister peripheral pkt diag_cmds
  | .close peripheral => diag_cntl_close peripheral diag_cmds

/-- The command a packet names: 0xff with a subsystem means 75. -/
def named_cmd (pkt : Nat → UInt8) : Nat :=
  if (le16At pkt 12).toNat = 0xff ∧ (le16At pkt 14).toNat ≠ 0xff then 75 else (le16At pkt 12).toNat

/-- The registrations a packet names, its ranges being `size` bytes each from
    byte `start` on. -/
def named (start size : Nat) (peripheral : Nat) (pkt : Nat → UInt8) : List (Registration Nat) :=
  (List.range (le16At pkt 16).toNat).map (fun i =>
    ⟨named_cmd pkt,(le16At pkt 14).toNat,(le16At pkt (start + size * i)).toNat,
      (le16At pkt (start + size * i + 2)).toNat,peripheral⟩)

def live_step (live : List (Registration Nat)) : CntlOp → List (Registration Nat)
  | .register peripheral pkt => live ++ named 20 8 peripheral pkt
  | .deregister peripheral pkt => live.filter (fun r => r ∉ named 18 4 peripheral pkt)
  | .close peripheral => live.filter (fun r => r.target ≠ peripheral)

/-- The command and the subsystem of a packet fit a byte each. -/
def CntlOp.Bytes : CntlOp → Prop
  | .register _ pkt => (le16At pkt 12).toNat ≤ 0xff ∧ (le16At pkt 14).toNat ≤ 0xff
  | .deregister _ pkt => (le16At pkt 12).toNat ≤ 0xff ∧ (le16At pkt 14).toNat ≤ 0xff
  | .close _ => True

/-! ## Where a message goes -/

inductive Route
  | handler (h : Handler)
  | send (peripherals : List Nat)
  | unknown
deriving DecidableEq, Repr

/-- The common handler of the command, or every peripheral with a matching live
    registration, or else the first matching fallback handler. -/
def route (live : List (Registration Nat)) (msg : Nat → UInt8) : Route :=
  match common_registrations.find? (Registration.matched msg) with
  | some r => .handler r.target
  | none =>
    match live.filter (Registration.matched msg) with
    | r :: rs => .send ((r :: rs).map Registration.target)
    | [] =>
      match fallback_registrations.find? (Registration.matched msg) with
      | some r => .handler r.target
      | none => .unknown

/-- The calls of a route, in order, and the value `diag_cmd_dispatch` returns. -/
def carry_out {σ : Type} (calls : Calls σ) (s : σ) : Route → Except Fault (Int × σ)
  | .handler h => calls.cb h s
  | .send peripherals => (fun s => (0,s)) <$> peripherals.foldlM (fun s p => calls.peripheral_send p s) s
  | .unknown => .ok (-ENOENT,s)

/-! ## Packed keys stand for fields -/

def packed {β : Type} (r : Registration β) : DiagCmd β :=
  ⟨key (UInt32.ofNat r.cmd) (UInt32.ofNat r.subsys) (UInt32.ofNat r.first),
    key (UInt32.ofNat r.cmd) (UInt32.ofNat r.subsys) (UInt32.ofNat r.last),r.target⟩

/-- Fields that a key has room for. -/
structure Bounded {β : Type} (r : Registration β) : Prop where
  cmd : r.cmd < 256
  subsys : r.subsys < 256
  first : r.first < 65536
  last : r.last < 65536

instance {β : Type} (r : Registration β) : Decidable (Bounded r) :=
  decidable_of_iff (r.cmd < 256 ∧ r.subsys < 256 ∧ r.first < 65536 ∧ r.last < 65536)
    ⟨fun ⟨cmd,subsys,first,last⟩ => ⟨cmd,subsys,first,last⟩,fun ⟨cmd,subsys,first,last⟩ => ⟨cmd,subsys,first,last⟩⟩

theorem packed_toNat {β : Type} {r : Registration β} (bounded : Bounded r) :
    (packed r).first.toNat = r.cmd * 16777216 + r.subsys * 65536 + r.first ∧
      (packed r).last.toNat = r.cmd * 16777216 + r.subsys * 65536 + r.last := by
  obtain ⟨cmd,subsys,first,last⟩ := bounded
  have cmd_toNat : (UInt32.ofNat r.cmd).toNat = r.cmd := by rw [UInt32.toNat_ofNat']; omega
  have subsys_toNat : (UInt32.ofNat r.subsys).toNat = r.subsys := by rw [UInt32.toNat_ofNat']; omega
  have first_toNat : (UInt32.ofNat r.first).toNat = r.first := by rw [UInt32.toNat_ofNat']; omega
  have last_toNat : (UInt32.ofNat r.last).toNat = r.last := by rw [UInt32.toNat_ofNat']; omega
  constructor
  · rw [packed,key_toNat (by omega) (by omega) (by omega),cmd_toNat,subsys_toNat,first_toNat]
  · rw [packed,key_toNat (by omega) (by omega) (by omega),cmd_toNat,subsys_toNat,last_toNat]

theorem packed_inj {r s : Registration Nat} (bounded : Bounded r) (bounded' : Bounded s) :
    packed r = packed s ↔ r = s := by
  constructor
  · intro same
    obtain ⟨first,last⟩ := packed_toNat bounded
    obtain ⟨first',last'⟩ := packed_toNat bounded'
    rw [same,first'] at first
    rw [same,last'] at last
    obtain ⟨_,_,_,_⟩ := bounded
    obtain ⟨_,_,_,_⟩ := bounded'
    have target : r.target = s.target := congrArg DiagCmd.target same
    cases r
    cases s
    simp only [Registration.mk.injEq] at *
    omega
  · exact congrArg packed

/-- A packed range covers the key of a message exactly when the fields match. -/
theorem covers_packed {β : Type} {r : Registration β} (bounded : Bounded r) (msg : Nat → UInt8) :
    covers (message_key msg) (packed r) = r.matched msg := by
  obtain ⟨first,last⟩ := packed_toNat bounded
  obtain ⟨_,_,_,_⟩ := bounded
  have code := (le16At msg 2).toNat_lt
  have cmd := (msg 0).toNat_lt
  have subsys := (msg 1).toNat_lt
  rw [Bool.eq_iff_iff,covers_iff,first,last]
  by_cases dispatched : (msg 0).toNat = 75 ∨ (msg 0).toNat = 128
  · rw [message_key_subsys dispatched,Registration.matched,if_pos dispatched,decide_eq_true_eq]
    omega
  · rw [message_key_other dispatched,Registration.matched,if_neg dispatched,decide_eq_true_eq]
    omega

/-! ## One search -/

theorem find_packed {β : Type} {rs : List (Registration β)} (bounded : ∀ r ∈ rs, Bounded r) (msg : Nat → UInt8) :
    (rs.map packed).find? (covers (message_key msg)) = (rs.find? (Registration.matched msg)).map packed := by
  induction rs with
  | nil => rfl
  | cons r rs ih =>
    obtain ⟨first,others⟩ := List.forall_mem_cons.mp bounded
    rw [List.map_cons,List.find?_cons,List.find?_cons,covers_packed first]
    cases r.matched msg with
    | true => rfl
    | false => exact ih others

/-- The loop sends to the peripherals of the matching registrations, in order. -/
theorem send_loop_packed {σ : Type} (calls : Calls σ) (msg : Nat → UInt8) {live : List (Registration Nat)}
    (bounded : ∀ r ∈ live, Bounded r) (handled : Nat) (s : σ) :
    send_loop calls (message_key msg) (live.map packed) handled s =
      (fun s => (handled + (live.filter (Registration.matched msg)).length,s)) <$>
        ((live.filter (Registration.matched msg)).map Registration.target).foldlM (fun s p => calls.peripheral_send p s) s := by
  have matching : (live.map packed).filter (covers (message_key msg)) = (live.filter (Registration.matched msg)).map packed := by
    rw [List.filter_map]
    exact congrArg (List.map packed) (List.filter_congr (fun r member => covers_packed (bounded r member) msg))
  rw [send_loop_eq,matching,List.length_map,List.map_map]
  rfl

theorem common_cmds_eq : common_cmds = common_registrations.map packed ∧
    ∀ r ∈ common_registrations, Bounded r :=
  ⟨by decide,by decide⟩

theorem fallback_cmds_eq : fallback_cmds = fallback_registrations.map packed ∧
    ∀ r ∈ fallback_registrations, Bounded r :=
  ⟨by decide,by decide⟩

theorem dispatch_packed {σ : Type} (calls : Calls σ) {live : List (Registration Nat)} (bounded : ∀ r ∈ live, Bounded r)
    (msg : Nat → UInt8) (s : σ) :
    diag_cmd_dispatch calls (live.map packed) msg s = carry_out calls s (route live msg) := by
  rw [diag_cmd_dispatch,common_cmds_eq.1,fallback_cmds_eq.1]
  dsimp only
  rw [find_packed common_cmds_eq.2,find_packed fallback_cmds_eq.2,send_loop_packed calls msg bounded,route]
  cases common_registrations.find? (Registration.matched msg) with
  | some r => rfl
  | none =>
    cases live.filter (Registration.matched msg) with
    | nil =>
      cases fallback_registrations.find? (Registration.matched msg) with
      | some r => rfl
      | none => rfl
    | cons r rs =>
      rw [carry_out]
      simp only [Option.map_none]
      cases ((r :: rs).map Registration.target).foldlM (fun s p => calls.peripheral_send p s) s with
      | error e => rfl
      | ok t => rfl

/-! ## Histories keep the keys and the registrations together -/

/-- The keys are those of the live registrations. -/
structure Stands (diag_cmds : List (DiagCmd Nat)) (live : List (Registration Nat)) : Prop where
  packed : diag_cmds = live.map packed
  bounded : ∀ r ∈ live, Bounded r

theorem packet_cmd_toNat (pkt : Nat → UInt8) : (packet_cmd pkt).toNat = named_cmd pkt := by
  have cmd : (le16At pkt 12).toUInt32 = 0xff ↔ (le16At pkt 12).toNat = 0xff := by
    rw [← UInt32.toNat_inj]
    simp
  have subsys : (le16At pkt 14).toUInt32 ≠ 0xff ↔ (le16At pkt 14).toNat ≠ 0xff := by
    rw [ne_eq,← UInt32.toNat_inj]
    simp
  simp only [packet_cmd,named_cmd,cmd,subsys]
  split
  · rfl
  · simp

/-- An entry of a packet is the packed registration it names. -/
theorem named_packed {start size peripheral : Nat} {pkt : Nat → UInt8}
    (bytes : (le16At pkt 12).toNat ≤ 0xff ∧ (le16At pkt 14).toNat ≤ 0xff) (i : Nat) :
    Bounded (⟨named_cmd pkt,(le16At pkt 14).toNat,(le16At pkt (start + size * i)).toNat,
      (le16At pkt (start + size * i + 2)).toNat,peripheral⟩ : Registration Nat) ∧
    packed (⟨named_cmd pkt,(le16At pkt 14).toNat,(le16At pkt (start + size * i)).toNat,
      (le16At pkt (start + size * i + 2)).toNat,peripheral⟩ : Registration Nat) =
    ⟨key (packet_cmd pkt) (le16At pkt 14).toUInt32 (le16At pkt (start + size * i)).toUInt32,
      key (packet_cmd pkt) (le16At pkt 14).toUInt32 (le16At pkt (start + size * i + 2)).toUInt32,peripheral⟩ := by
  have first := (le16At pkt (start + size * i)).toNat_lt
  have last := (le16At pkt (start + size * i + 2)).toNat_lt
  have cmd : named_cmd pkt < 256 := by
    rw [named_cmd]
    split <;> omega
  refine ⟨⟨cmd,Nat.lt_succ_of_le bytes.2,first,last⟩,?_⟩
  simp only [packed,← packet_cmd_toNat,UInt32.ofNat_toNat,UInt32.ofNat_uInt16ToNat]

/-- A loop that appends one entry a round appends them all. -/
theorem append_rounds (entry : Nat → DiagCmd Nat) (rounds : List Nat) (cmds : List (DiagCmd Nat)) :
    rounds.foldl (fun cmds i => cmds ++ [entry i]) cmds = cmds ++ rounds.map entry := by
  induction rounds generalizing cmds with
  | nil => simp
  | cons i rounds ih => simp [ih]

/-- A loop that removes one entry a round removes them all. -/
theorem remove_rounds (remove : Nat → DiagCmd Nat → Bool) (rounds : List Nat) (cmds : List (DiagCmd Nat)) :
    rounds.foldl (fun cmds i => cmds.filter (fun dc => ! remove i dc)) cmds =
      cmds.filter (fun dc => ! rounds.any (fun i => remove i dc)) := by
  induction rounds generalizing cmds with
  | nil => exact (List.filter_eq_self.mpr (fun _ _ => rfl)).symm
  | cons i rounds ih =>
    rw [List.foldl_cons,ih,List.filter_filter]
    apply List.filter_congr
    intro dc _
    simp [Bool.and_comm]

theorem register_stands {diag_cmds : List (DiagCmd Nat)} {live : List (Registration Nat)} (stands : Stands diag_cmds live)
    {peripheral : Nat} {pkt : Nat → UInt8} (bytes : (le16At pkt 12).toNat ≤ 0xff ∧ (le16At pkt 14).toNat ≤ 0xff) :
    Stands (diag_cntl_register peripheral pkt diag_cmds) (live ++ named 20 8 peripheral pkt) := by
  constructor
  · rw [diag_cntl_register,append_rounds,stands.packed,List.map_append,named,List.map_map]
    refine congrArg (live.map packed ++ ·) (List.map_congr_left ?_)
    intro i _
    rw [Function.comp_apply,(named_packed bytes i).2]
    rfl
  · intro r member
    rcases List.mem_append.mp member with old | new
    · exact stands.bounded r old
    · obtain ⟨i,_,rfl⟩ := List.mem_map.mp new
      exact (named_packed bytes i).1

theorem deregister_stands {diag_cmds : List (DiagCmd Nat)} {live : List (Registration Nat)}
    (stands : Stands diag_cmds live) {peripheral : Nat} {pkt : Nat → UInt8}
    (bytes : (le16At pkt 12).toNat ≤ 0xff ∧ (le16At pkt 14).toNat ≤ 0xff) :
    Stands (diag_cntl_deregister peripheral pkt diag_cmds)
      (live.filter (fun r => r ∉ named 18 4 peripheral pkt)) := by
  constructor
  · rw [diag_cntl_deregister]
    simp only [decide_not]
    rw [remove_rounds,stands.packed,List.filter_map]
    congr 1
    apply List.filter_congr
    intro r member
    rw [Function.comp_apply,Bool.eq_iff_iff]
    simp only [Bool.not_eq_true',List.any_eq_false,decide_eq_true_eq,decide_eq_false_iff_not]
    constructor
    · intro kept named_r
      obtain ⟨i,round,rfl⟩ := List.mem_map.mp named_r
      have entry := (@named_packed 18 4 peripheral pkt bytes i).2
      exact kept i round ⟨rfl,congrArg DiagCmd.first entry,congrArg DiagCmd.last entry⟩
    · rintro other i round ⟨rfl,first,last⟩
      obtain ⟨bounded,entry⟩ := @named_packed 18 4 r.target pkt bytes i
      refine other (List.mem_map.mpr ⟨i,round,(packed_inj bounded (stands.bounded r member)).mp ?_⟩)
      have fields : packed r = ⟨(packed r).first,(packed r).last,r.target⟩ := rfl
      rw [entry,fields,first,last]
      rfl
  · exact fun r member => stands.bounded r ((List.mem_filter.mp member).1)

theorem close_stands {diag_cmds : List (DiagCmd Nat)} {live : List (Registration Nat)} (stands : Stands diag_cmds live)
    (peripheral : Nat) : Stands (diag_cntl_close peripheral diag_cmds) (live.filter (fun r => r.target ≠ peripheral)) := by
  constructor
  · rw [diag_cntl_close,stands.packed,List.filter_map]
    rfl
  · exact fun r member => stands.bounded r ((List.mem_filter.mp member).1)

theorem history_stands {ops : List CntlOp} (bytes : ∀ op ∈ ops, op.Bytes) {diag_cmds : List (DiagCmd Nat)}
    {live : List (Registration Nat)} (stands : Stands diag_cmds live) :
    Stands (ops.foldl cntl_step diag_cmds) (ops.foldl live_step live) := by
  induction ops generalizing diag_cmds live with
  | nil => exact stands
  | cons op ops ih =>
    obtain ⟨first,others⟩ := List.forall_mem_cons.mp bytes
    refine ih others ?_
    cases op with
    | register peripheral pkt => exact register_stands stands first
    | deregister peripheral pkt => exact deregister_stands stands first
    | close peripheral => exact close_stands stands peripheral

/-- After any history of control packets and closes, whatever the calls do, a
    message takes the route its fields have among the live registrations. -/
theorem routing_law {σ : Type} (calls : Calls σ) {ops : List CntlOp} (bytes : ∀ op ∈ ops, op.Bytes) (msg : Nat → UInt8)
    (s : σ) :
    diag_cmd_dispatch calls (ops.foldl cntl_step []) msg s = carry_out calls s (route (ops.foldl live_step []) msg) := by
  obtain ⟨same,bounded⟩ := @history_stands ops bytes [] [] ⟨rfl,by simp⟩
  rw [same]
  exact dispatch_packed calls bounded msg s

/-- Peripheral 7 registers codes 0x100 to 0x200 of subsystem 18, and gets a
    message of code 0x150. -/
theorem routing_law_one :
    diag_cmd_dispatch ⟨fun _ s => .ok (0,s),fun p s => .ok (s ++ [p])⟩
        ([.register 7 (place [1,0,0,0,20,0,0,0,2,0,0,0,0xff,0,18,0,1,0,0,0,0,1,0,2,0,0,0,0] (fun _ => 0))].foldl cntl_step [])
        (place [75,18,0x50,1] (fun _ => 0)) [] =
      carry_out ⟨fun _ s => .ok (0,s),fun p s => .ok (s ++ [p])⟩ [] (.send [7]) :=
  @routing_law (List Nat) ⟨fun _ s => .ok (0,s),fun p s => .ok (s ++ [p])⟩
    [.register 7 (place [1,0,0,0,20,0,0,0,2,0,0,0,0xff,0,18,0,1,0,0,0,0,1,0,2,0,0,0,0] (fun _ => 0))]
    (List.forall_mem_singleton.mpr ⟨by decide,by decide⟩) (place [75,18,0x50,1] (fun _ => 0)) []

end DiagRouter.Routing

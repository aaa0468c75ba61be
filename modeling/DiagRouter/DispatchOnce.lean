import DiagRouter.Lib.Runs
import DiagRouter.Routing

/-!
# Once to each peripheral

The list of registrations has an entry for every range of every REGISTER
packet, and the BYE of a QRTR peripheral leaves its entries there. A command
goes to a peripheral once for each entry that covers its key, so exactly the
histories that never register a key twice hand every command over once.
-/
namespace DiagRouter.DispatchOnce
open DiagRouter.Lib.Memory DiagRouter.Lib.Runs DiagRouter.Lib.Words DiagRouter.Dispatch DiagRouter.Routing

/-- What happens on the control channels: a packet, the close of an rpmsg
    peripheral, or the BYE of a QRTR one. -/
inductive Event
  | cntl (op : CntlOp)
  | bye (peripheral : Nat)

/-- `QRTR_TYPE_BYE` takes the write watch away and leaves `diag_cmds`. -/
def event_step (diag_cmds : List (DiagCmd Nat)) : Event → Except Fault (List (DiagCmd Nat))
  | .cntl op => .ok (cntl_step diag_cmds op)
  | .bye _ => .ok diag_cmds

/-- Calls that do nothing but note the peripherals a command is handed to. -/
def noting : Calls (List Nat) :=
  { cb := fun _ noted => .ok (0,noted)
    peripheral_send := fun peripheral noted => .ok (noted ++ [peripheral]) }

/-- Every client command is handed to each peripheral at most once. -/
def Once (diag_cmds : List (DiagCmd Nat)) : Prop :=
  ∀ msg, ∃ ret noted, diag_cmd_dispatch noting diag_cmds msg [] = .ok (ret,noted) ∧
    ∀ peripheral, noted.count peripheral ≤ 1

/-! ## Whom a command is handed to -/

/-- The peripherals of the entries that cover a key, in order. -/
def hands (k : UInt32) (diag_cmds : List (DiagCmd Nat)) : List Nat := (diag_cmds.filter (covers k)).map DiagCmd.target

theorem noting_foldlM (peripherals noted : List Nat) :
    peripherals.foldlM (fun noted peripheral => noting.peripheral_send peripheral noted) noted =
      (.ok (noted ++ peripherals) : Except Fault (List Nat)) := by
  induction peripherals generalizing noted with
  | nil => simp
  | cons peripheral rest ih =>
    rw [List.foldlM_cons]
    exact (ih (noted ++ [peripheral])).trans (by simp)

/-- A command without a common handler is handed to the peripherals of the
    entries that cover it, and any other to none. -/
theorem dispatch_noting (diag_cmds : List (DiagCmd Nat)) (msg : Nat → UInt8) :
    ∃ ret, diag_cmd_dispatch noting diag_cmds msg [] =
      .ok (ret,if common_cmds.find? (covers (message_key msg)) = none then hands (message_key msg) diag_cmds else []) := by
  cases common : common_cmds.find? (covers (message_key msg)) with
  | some dc => exact ⟨0,dispatch_common noting diag_cmds [] common⟩
  | none =>
    rw [dispatch_other noting diag_cmds [] common,send_loop_eq,← hands,noting_foldlM]
    simp only [map_ok,ok_bind,List.nil_append,Nat.zero_add,if_true]
    split_ifs
    · exact ⟨0,rfl⟩
    · cases fallback_cmds.find? (covers (message_key msg)) with
      | some dc => exact ⟨0,rfl⟩
      | none => exact ⟨-ENOENT,rfl⟩

theorem hands_count (k : UInt32) (diag_cmds : List (DiagCmd Nat)) (peripheral : Nat) :
    (hands k diag_cmds).count peripheral = (diag_cmds.filter (fun dc => dc.target = peripheral)).countP (covers k) := by
  induction diag_cmds with
  | nil => rfl
  | cons dc rest ih =>
    rw [hands] at ih ⊢
    by_cases own : dc.target = peripheral
    · cases covered : covers k dc <;> simp [covered,own,ih]
    · cases covered : covers k dc <;> simp [covered,own,ih]

/-- The key of no command without a common handler is registered twice for one
    peripheral. -/
theorem once_iff {diag_cmds : List (DiagCmd Nat)} :
    Once diag_cmds ↔ ∀ msg, common_cmds.find? (covers (message_key msg)) = none → ∀ peripheral,
      (diag_cmds.filter (fun dc => dc.target = peripheral)).countP (covers (message_key msg)) ≤ 1 := by
  constructor
  · intro once msg common peripheral
    obtain ⟨ret,noted,dispatched,single⟩ := once msg
    obtain ⟨ret',again⟩ := dispatch_noting diag_cmds msg
    rw [if_pos common,dispatched] at again
    cases again
    rw [← hands_count]
    exact single peripheral
  · intro single msg
    obtain ⟨ret,dispatched⟩ := dispatch_noting diag_cmds msg
    refine ⟨ret,_,dispatched,?_⟩
    intro peripheral
    split_ifs with common
    · rw [hands_count]
      exact single msg common peripheral
    · simp

/-! ## One event -/

/-- The entries that a REGISTER packet adds. -/
def entries (peripheral : Nat) (pkt : Nat → UInt8) : List (DiagCmd Nat) :=
  (List.range (le16At pkt 16).toNat).map (register_entry peripheral pkt)

/-- A REGISTER packet names no key that it names twice or that the peripheral
    has registered, among the keys of commands without a common handler. -/
def Fresh (diag_cmds : List (DiagCmd Nat)) : Event → Prop
  | .cntl (.register peripheral pkt) => ∀ msg, common_cmds.find? (covers (message_key msg)) = none →
      (diag_cmds.filter (fun dc => dc.target = peripheral) ++ entries peripheral pkt).countP (covers (message_key msg)) ≤ 1
  | _ => True

theorem register_entries (peripheral : Nat) (pkt : Nat → UInt8) (diag_cmds : List (DiagCmd Nat)) :
    diag_cntl_register peripheral pkt diag_cmds = diag_cmds ++ entries peripheral pkt :=
  append_rounds (register_entry peripheral pkt) _ diag_cmds

theorem entries_target (peripheral other : Nat) (pkt : Nat → UInt8) :
    (entries peripheral pkt).filter (fun dc => dc.target = other) = if peripheral = other then entries peripheral pkt else [] := by
  have targets : ∀ dc ∈ entries peripheral pkt, dc.target = peripheral := by
    intro dc member
    obtain ⟨i,_,rfl⟩ := List.mem_map.mp member
    rfl
  split_ifs with own
  · rw [List.filter_eq_self]
    intro dc member
    rw [targets dc member,own]
    simp
  · rw [List.filter_eq_nil_iff]
    intro dc member
    rw [targets dc member]
    simp [own]

/-- What removes entries keeps every command at one. -/
theorem Once.filter {diag_cmds : List (DiagCmd Nat)} (once : Once diag_cmds) (keep : DiagCmd Nat → Bool) :
    Once (diag_cmds.filter keep) := by
  rw [once_iff] at once ⊢
  intro msg common peripheral
  rw [List.filter_filter]
  simp only [Bool.and_comm _ (keep _)]
  rw [← List.filter_filter]
  exact Nat.le_trans (List.filter_sublist.countP_le) (once msg common peripheral)

theorem Once.deregister {diag_cmds : List (DiagCmd Nat)} (once : Once diag_cmds) (peripheral : Nat) (pkt : Nat → UInt8) :
    Once (diag_cntl_deregister peripheral pkt diag_cmds) := by
  rw [diag_cntl_deregister]
  generalize List.range _ = rounds
  induction rounds generalizing diag_cmds with
  | nil => exact once
  | cons i rounds ih => exact ih (once.filter _)

theorem register_once_iff {diag_cmds : List (DiagCmd Nat)} (once : Once diag_cmds) (peripheral : Nat) (pkt : Nat → UInt8) :
    Fresh diag_cmds (.cntl (.register peripheral pkt)) ↔ Once (diag_cntl_register peripheral pkt diag_cmds) := by
  rw [once_iff] at once ⊢
  rw [register_entries]
  constructor
  · intro fresh msg common other
    rw [List.filter_append,entries_target]
    split_ifs with own
    · subst own
      exact fresh msg common
    · rw [List.append_nil]
      exact once msg common other
  · intro single msg common
    have own := single msg common peripheral
    rwa [List.filter_append,entries_target,if_pos rfl] at own

theorem event_once_iff {diag_cmds : List (DiagCmd Nat)} {event : Event} (once : Once diag_cmds) :
    Fresh diag_cmds event ↔ ∀ after, event_step diag_cmds event = .ok after → Once after := by
  have ends : ∀ {state : List (DiagCmd Nat)}, Once state ↔
      ∀ after, (.ok state : Except Fault (List (DiagCmd Nat))) = .ok after → Once after := by
    intro state
    exact ⟨fun good after same => Except.ok.inj same ▸ good,fun all => all state rfl⟩
  cases event with
  | cntl op =>
    rw [event_step,← ends]
    cases op with
    | register peripheral pkt => exact register_once_iff once peripheral pkt
    | deregister peripheral pkt => exact ⟨fun _ => once.deregister peripheral pkt,fun _ => trivial⟩
    | close peripheral => exact ⟨fun _ => once.filter _,fun _ => trivial⟩
  | bye peripheral =>
    rw [event_step,← ends]
    exact ⟨fun _ => once,fun _ => trivial⟩

/-! ## Histories -/

theorem once_nil : Once [] := by
  rw [once_iff]
  simp

/-- In every state of a history every command goes to each peripheral at most
    once, exactly when no REGISTER packet of it names a key again. -/
theorem dispatch_once_iff (events : List Event) : Along event_step Once [] events ↔ Meets event_step Fresh [] events :=
  along_iff_meets (fun _ => True) (fun _ _ => trivial) (fun _ once => event_once_iff once) events trivial once_nil

/-- A REGISTER packet for code 3 of subsystem 50. -/
def keep_alive_packet : Nat → UInt8 :=
  place [1,0,0,0,20,0,0,0,2,0,0,0,0xff,0,50,0,1,0,0,0,3,0,3,0] (fun _ => 0)

/-- A peripheral registers, sends BYE, and registers again: a command is handed
    to it twice. -/
theorem registered_again :
    ¬ Along event_step Once [] [.cntl (.register 7 keep_alive_packet),.bye 7,.cntl (.register 7 keep_alive_packet)] := by
  have twice : (exec event_step [] [.cntl (.register 7 keep_alive_packet),.bye 7,.cntl (.register 7 keep_alive_packet)] >>=
      fun diag_cmds => diag_cmd_dispatch noting diag_cmds (place [75,50,3,0] (fun _ => 0)) []) = .ok (0,[7,7]) := by
    decide +kernel
  intro along
  obtain ⟨diag_cmds,run,dispatched⟩ := bind_eq_ok.mp twice
  obtain ⟨ret,noted,again,single⟩ := along.ends run (place [75,50,3,0] (fun _ => 0))
  cases dispatched.symm.trans again
  exact absurd (single 7) (by decide)

end DiagRouter.DispatchOnce

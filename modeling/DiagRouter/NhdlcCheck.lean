import DiagRouter.NhdlcStream

/-!
# Checked packets

`dm_check_nhdlc_pkt` compares two bytes of a packet, at a place that the packet
gives, and `dm_recv_nhdlc` hands the packet over whatever the answer is.
-/
namespace DiagRouter.NhdlcCheck
open DiagRouter.Lib.Memory DiagRouter.Lib.Words DiagRouter.CircRead DiagRouter.NhdlcStream
open DiagRouter.Hdlc (Message)
open DiagRouter.Clients (NHDLC_CONTROL_CHAR)
open DiagRouter.Handlers (EINVAL)

/-- `k` cells hold a whole packet. -/
structure WellFormed (cells : Nat → UInt8) (k : Nat) : Prop where
  fits : 5 + (le16At cells 2).toNat ≤ k
  start : cells 0 = NHDLC_CONTROL_CHAR
  ended : cells (4 + (le16At cells 2).toNat) = NHDLC_CONTROL_CHAR

/-- A client that finds other cells in its ring. -/
def with_cells (dm : DiagClient) (cells : Nat → UInt8) : DiagClient :=
  { dm with recv_buf := { dm.recv_buf with buf := cells } }

/-- What a call does to its client, and the payloads it hands over. -/
def outcome (dm : DiagClient) (called : DiagClient × List Message) : DiagClient × List (Except Fault (List UInt8)) :=
  (with_cells called.1 dm.recv_buf.buf,called.2.map Message.payload)

/-- With `k` bytes received, only a whole packet is executed, with its payload;
    and what else the ring holds does not matter. -/
structure ExecutesPackets (dm : DiagClient) (k : Nat) (called : DiagClient × List Message) : Prop where
  ran : dm_recv_nhdlc dm = .ok called
  whole : ∀ command ∈ called.2, WellFormed dm.recv_buf.buf k ∧
    command.payload = .ok (span dm.recv_buf.buf 4 (le16At dm.recv_buf.buf 2).toNat)
  own : ∀ cells, (∀ i, i < k → cells i = dm.recv_buf.buf i) →
    outcome dm <$> dm_recv_nhdlc (with_cells dm cells) = .ok (outcome dm called)

section
variable {dm : DiagClient} {cells : Nat → UInt8} {k : Nat}

theorem check_whole (fits : k ≤ HDLC_BUF_SIZE) (whole : WellFormed dm.recv_buf.buf k) : dm_check_nhdlc_pkt dm.recv_buf = .ok 0 := by
  have start : ¬ dm.recv_buf.buf 0 ≠ NHDLC_CONTROL_CHAR := not_not.mpr whole.start
  have ended : ¬ dm.recv_buf.buf (4 + (le16At dm.recv_buf.buf 2).toNat) ≠ NHDLC_CONTROL_CHAR := not_not.mpr whole.ended
  have inside : ¬ HDLC_BUF_SIZE ≤ 4 + (le16At dm.recv_buf.buf 2).toNat := by
    have room := whole.fits
    omega
  unfold dm_check_nhdlc_pkt
  dsimp only
  rw [if_neg start,if_neg inside,if_neg ended]

/-- A whole packet is handed over, and the client stays. -/
theorem recv_whole (fits : k ≤ HDLC_BUF_SIZE) (whole : WellFormed dm.recv_buf.buf k) :
    dm_recv_nhdlc dm = .ok (dm,[⟨span dm.recv_buf.buf 4 (HDLC_BUF_SIZE - 4),(le16At dm.recv_buf.buf 2).toNat⟩]) := by
  rw [dm_recv_nhdlc,check_whole fits whole]
  rfl

theorem whole_payload (fits : k ≤ HDLC_BUF_SIZE) (whole : WellFormed cells k) :
    (⟨span cells 4 (HDLC_BUF_SIZE - 4),(le16At cells 2).toNat⟩ : Message).payload = .ok (span cells 4 (le16At cells 2).toNat) := by
  have room := whole.fits
  have within : (le16At cells 2).toNat ≤ HDLC_BUF_SIZE - 4 := by omega
  rw [Message.payload,load_ok_iff,span_length]
  dsimp only
  rw [span_take within]
  exact ⟨within,rfl⟩

/-- Cells that agree on the packet hold it too, with the same payload. -/
theorem WellFormed.congr {other : Nat → UInt8} (whole : WellFormed cells k) (same : ∀ i, i < k → other i = cells i) :
    WellFormed other k ∧ le16At other 2 = le16At cells 2 ∧
      span other 4 (le16At cells 2).toNat = span cells 4 (le16At cells 2).toNat := by
  obtain ⟨fits,start,ended⟩ := whole
  have length : le16At other 2 = le16At cells 2 := le16At_congr (same 2 (by omega)) (same 3 (by omega))
  refine ⟨⟨by rwa [length],?_,?_⟩,length,span_congr (fun i _ below => same i (by omega))⟩
  · rw [same 0 (by omega)]
    exact start
  · rw [length,same _ (by omega)]
    exact ended

end

/-- A call does what it should exactly when a whole packet has been received: it
    hands over a command in any case. -/
theorem recv_nhdlc_iff {dm : DiagClient} {k : Nat} (fits : k ≤ HDLC_BUF_SIZE) :
    (∃ called, ExecutesPackets dm k called) ↔ WellFormed dm.recv_buf.buf k := by
  constructor
  · rintro ⟨⟨after,commands⟩,executes⟩
    obtain ⟨_,commands_eq⟩ := recv_nhdlc_ok executes.ran
    exact (executes.whole _ (commands_eq ▸ List.mem_singleton_self _)).1
  · intro whole
    refine ⟨_,recv_whole fits whole,?_,?_⟩
    · intro command member
      rw [List.mem_singleton] at member
      subst member
      exact ⟨whole,whole_payload fits whole⟩
    · intro cells same
      obtain ⟨other,length,payload⟩ := whole.congr same
      have first : (⟨span cells 4 (HDLC_BUF_SIZE - 4),(le16At cells 2).toNat⟩ : Message).payload =
          (⟨span dm.recv_buf.buf 4 (HDLC_BUF_SIZE - 4),(le16At dm.recv_buf.buf 2).toNat⟩ : Message).payload := by
        rw [whole_payload fits other,whole_payload fits whole,length,payload]
      rw [@recv_whole (with_cells dm cells) k fits other]
      change Except.ok (with_cells (with_cells dm cells) dm.recv_buf.buf,[Message.payload _]) = _
      exact congrArg (fun handed => Except.ok (dm,[handed])) first

/-- The packet of one byte. -/
def one_packet : DiagClient := ⟨.NHDLC,false,⟨place (packet [0x4b]) (fun _ => 0),6,0⟩,0⟩

theorem recv_nhdlc_iff_one : (∃ called, ExecutesPackets one_packet 6 called) ↔ WellFormed one_packet.recv_buf.buf 6 :=
  @recv_nhdlc_iff one_packet 6 (by decide)

/-- The same without the byte that ends it. -/
def unended : DiagClient := ⟨.NHDLC,false,⟨place [NHDLC_CONTROL_CHAR,1,1,0,0x4b,0] (fun _ => 0),6,0⟩,0⟩

/-- A packet that the check rejects is executed. -/
theorem unended_executed :
    dm_check_nhdlc_pkt unended.recv_buf = .ok (-EINVAL) ∧
    (fun called => (called.1.encode_hdlc_reset,called.2.map Message.payload)) <$> dm_recv_nhdlc unended = .ok (true,[.ok [0x4b]]) ∧
    ¬ ∃ called, ExecutesPackets unended 6 called := by
  have length : (le16At unended.recv_buf.buf 2).toNat = 1 := by decide
  refine ⟨by decide,by decide +kernel,?_⟩
  rintro ⟨⟨after,commands⟩,executes⟩
  obtain ⟨_,commands_eq⟩ := recv_nhdlc_ok executes.ran
  have ended := (executes.whole _ (commands_eq ▸ List.mem_singleton_self _)).1.ended
  rw [length] at ended
  exact absurd ended (by decide)

end DiagRouter.NhdlcCheck

import DiagRouter.DmStream

/-!
# Flags between frames

A flag with nothing before it makes `hdlc_decode_one` return NULL, which is also
how it says that the ring is empty, so the call of `dm_recv_hdlc` ends there.
Only one such flag, at the very end, goes unnoticed.
-/
namespace DiagRouter.InterFrame
open DiagRouter.Lib.Memory DiagRouter.Lib.Stuffing DiagRouter.CircRead DiagRouter.Hdlc DiagRouter.DmStream
open DiagRouter.HdlcStream (message message_payload)

/-- Encoded messages, with flags before them and after each of them. -/
def flagged (before : Nat) (msgs : List (List UInt8 × Nat)) : List UInt8 :=
  List.replicate before 0x7e ++ msgs.flatMap (fun msg => hdlc_encode msg.1 ++ List.replicate msg.2 0x7e)

/-- The messages without the flags. -/
def sent (msgs : List (List UInt8 × Nat)) : List (List UInt8) := msgs.map Prod.fst

/-- One call hands over exactly the messages, and leaves the ring empty. -/
def HandsOver (buf : CircBuf) (msgs : List (List UInt8)) : Prop :=
  ∃ after commands, dm_recv_hdlc buf = .ok (after,commands) ∧ commands.map Message.payload = msgs.map .ok ∧
    after.tail = after.head

theorem flagged_succ (before : Nat) (msgs : List (List UInt8 × Nat)) :
    flagged (before + 1) msgs = 0x7e :: flagged before msgs := rfl

theorem flagged_cons (src : List UInt8) (extra : Nat) (msgs : List (List UInt8 × Nat)) :
    flagged 0 ((src,extra) :: msgs) = hdlc_encode src ++ flagged extra msgs := by
  simp [flagged]

/-- No encoded message begins with a flag. -/
theorem hdlc_encode_first (src rest : List UInt8) : ∃ ch more, hdlc_encode src ++ rest = ch :: more ∧ ch ≠ 0x7e := by
  have unflagged := flag_not_mem_stuff transparent (body src)
  have some : stuff 0x7e 0x7d toggle (body src) ≠ [] := by
    intro nothing
    have whole := unstuff_stuff transparent (body src)
    rw [nothing] at whole
    have length := body_length src
    rw [← whole] at length
    exact absurd length (by simp [unstuff])
  rw [hdlc_encode_eq]
  cases stuffed : stuff 0x7e 0x7d toggle (body src) with
  | nil => exact absurd stuffed some
  | cons ch more =>
    rw [stuffed,List.mem_cons,not_or] at unflagged
    exact ⟨ch,_,rfl,Ne.symm unflagged.1⟩

theorem hdlc_encode_length_ge (src : List UInt8) : src.length + 3 ≤ (hdlc_encode src).length := by
  have length := body_length src
  have counted := @unstuff_length UInt8 _ 0x7d toggle false (stuff 0x7e 0x7d toggle (body src))
  rw [unstuff_stuff transparent] at counted
  have most : List.countP (fun ch => ch ≠ 0x7d) (stuff 0x7e 0x7d toggle (body src)) ≤ _ := List.countP_le_length
  rw [hdlc_encode_eq,List.length_append,List.length_singleton]
  omega

/-- An encoded message is handed over, and the call goes on behind it. -/
theorem call_commands_encoded (src : List UInt8) {rest : List UInt8} {fuel : Nat}
    (room : (hdlc_encode src ++ rest).length ≤ HDLC_BUF_SIZE) :
    call_commands (fuel+1) (hdlc_encode src ++ rest) =
      (fun (msgs,left) => (message (body src) :: msgs,left)) <$> call_commands fuel rest := by
  have whole : unstuff 0x7d toggle false (stuff 0x7e 0x7d toggle (body src)) = body src := unstuff_stuff transparent (body src)
  have more := call_commands_message (flag_not_mem_stuff transparent (body src))
    (by rw [hdlc_encode_eq] at room; simp only [List.length_append,List.length_cons] at room; omega)
    (by rw [whole]; exact body_ne_nil src) fuel rest
  rw [whole] at more
  rw [hdlc_encode_eq,List.append_assoc]
  exact more

/-- A flag in front ends the call. -/
theorem call_commands_flag (fuel : Nat) (rest : List UInt8) : call_commands (fuel+1) (0x7e :: rest) = .ok ([],rest) :=
  @call_commands_empty [] (by simp) (Nat.zero_le _) rfl fuel rest

/-- A call on flagged messages ends, and the messages come through with nothing
    left behind exactly when there is no extra flag but perhaps one at the end. -/
theorem call_commands_flagged {msgs : List (List UInt8 × Nat)} {before fuel : Nat}
    (enough : (flagged before msgs).length < fuel) (room : (flagged before msgs).length ≤ HDLC_BUF_SIZE) :
    ∃ commands left, call_commands fuel (flagged before msgs) = .ok (commands,left) ∧
      (commands.map Message.payload = (sent msgs).map .ok ∧ left = [] ↔
        flagged before msgs = (sent msgs).flatMap hdlc_encode ∨
          flagged before msgs = (sent msgs).flatMap hdlc_encode ++ [0x7e]) := by
  obtain ⟨fuel,rfl⟩ := Nat.exists_eq_succ_of_ne_zero (Nat.ne_of_gt (Nat.zero_lt_of_lt enough))
  induction msgs generalizing before fuel with
  | nil =>
    cases before with
    | zero => exact ⟨[],[],call_commands_open (by simp [flagged]) room fuel,by simp [flagged,sent]⟩
    | succ before => exact ⟨[],flagged before [],call_commands_flag fuel _,by simp [flagged_succ,sent]⟩
  | cons msg msgs ih =>
    obtain ⟨src,extra⟩ := msg
    have plain : (sent ((src,extra) :: msgs)).flatMap hdlc_encode = hdlc_encode src ++ (sent msgs).flatMap hdlc_encode := rfl
    cases before with
    | zero =>
      rw [flagged_cons] at enough room ⊢
      have one := hdlc_encode_length_ge src
      have whole := room
      rw [List.length_append] at enough whole
      obtain ⟨more,rfl⟩ := Nat.exists_eq_succ_of_ne_zero (show fuel ≠ 0 by omega)
      obtain ⟨commands,left,ran,exact_iff⟩ := @ih extra (by omega) more (by omega)
      refine ⟨message (body src) :: commands,left,?_,?_⟩
      · rw [call_commands_encoded src room,ran]
        rfl
      · have payload : (message (body src)).payload = .ok src :=
          message_payload (show src.length ≤ HDLC_BUF_SIZE - 2 by omega)
        have same : (message (body src) :: commands).map Message.payload = (sent ((src,extra) :: msgs)).map .ok ↔
            commands.map Message.payload = (sent msgs).map .ok := by
          rw [List.map_cons,payload]
          exact List.cons.injEq _ _ _ _ ▸ ⟨And.right,fun rest => ⟨rfl,rest⟩⟩
        rw [same,exact_iff,plain,List.append_assoc,List.append_cancel_left_eq,List.append_cancel_left_eq]
    | succ before =>
      refine ⟨[],flagged before ((src,extra) :: msgs),call_commands_flag fuel _,?_⟩
      have first : ∀ rest, flagged (before + 1) ((src,extra) :: msgs) ≠ hdlc_encode src ++ rest := by
        intro rest same
        obtain ⟨ch,more,begins,notFlag⟩ := hdlc_encode_first src rest
        rw [flagged_succ,begins,List.cons.injEq] at same
        exact notFlag same.1.symm
      rw [plain,List.append_assoc]
      constructor
      · rintro ⟨none,_⟩
        simp [sent] at none
      · rintro (same | same)
        · exact absurd same (first _)
        · exact absurd same (first _)

/-- Messages with any number of flags before, between and after them come through
    one call, with nothing left behind, exactly when there are no such flags or
    one at the very end. -/
theorem flags_transparent_iff {buf : CircBuf} (valid : Valid buf) {before : Nat} {msgs : List (List UInt8 × Nat)}
    (holds : contents buf = flagged before msgs) :
    HandsOver buf (sent msgs) ↔ flagged before msgs = (sent msgs).flatMap hdlc_encode ∨
      flagged before msgs = (sent msgs).flatMap hdlc_encode ++ [0x7e] := by
  have inside := contents_lt valid
  rw [holds] at inside
  obtain ⟨commands,left,ran,exact_iff⟩ := call_commands_flagged inside (Nat.le_of_lt inside)
  obtain ⟨⟨_,hdlc,_⟩,scanned,same⟩ := map_eq_ok.mp ran
  cases same
  have follows := until_null_follows HDLC_BUF_SIZE .zeroed valid
  rw [holds,scanned] at follows
  obtain ⟨after,decoded,still,drained⟩ := follows.of_ok
  have handed : dm_recv_hdlc buf = .ok (after,commands) := by
    rw [dm_recv_hdlc,decoded]
    rfl
  rw [← exact_iff,← drained]
  constructor
  · rintro ⟨after',commands',again,payloads,empty⟩
    cases handed.symm.trans again
    exact ⟨payloads,(contents_empty still).mpr empty⟩
  · rintro ⟨payloads,empty⟩
    exact ⟨after,commands,handed,payloads,(contents_empty still).mp empty⟩

/-- A ring that holds the cells from its start on. -/
def ring_of (cells : List UInt8) : CircBuf := ⟨place cells (fun _ => 0),cells.length,0⟩

/-- One message with a flag behind it. -/
theorem flags_transparent_iff_one :
    HandsOver (ring_of [0x4b,0xaf,0x0c,0x7e,0x7e]) [[0x4b]] ↔
      flagged 0 [([0x4b],1)] = [[0x4b]].flatMap hdlc_encode ∨ flagged 0 [([0x4b],1)] = [[0x4b]].flatMap hdlc_encode ++ [0x7e] :=
  @flags_transparent_iff (ring_of [0x4b,0xaf,0x0c,0x7e,0x7e]) ⟨by decide,by decide⟩ 0 [([0x4b],1)] (by decide +kernel)

/-- One message with a flag before it stays in the ring. -/
theorem leading_flag_stops :
    contents (ring_of [0x7e,0x4b,0xaf,0x0c,0x7e]) = flagged 1 [([0x4b],0)] ∧
      (fun r => (r.1.tail,r.2)) <$> dm_recv_hdlc (ring_of [0x7e,0x4b,0xaf,0x0c,0x7e]) = .ok (1,[]) ∧
      ¬ HandsOver (ring_of [0x7e,0x4b,0xaf,0x0c,0x7e]) [[0x4b]] := by
  have ran : (fun r => (r.1.tail,r.2)) <$> dm_recv_hdlc (ring_of [0x7e,0x4b,0xaf,0x0c,0x7e]) = .ok (1,[]) := by decide +kernel
  refine ⟨by decide +kernel,ran,?_⟩
  rintro ⟨after,commands,handed,payloads,_⟩
  rw [handed] at ran
  obtain ⟨_,rfl⟩ := Prod.mk.inj (Except.ok.inj ran)
  simp at payloads

end DiagRouter.InterFrame

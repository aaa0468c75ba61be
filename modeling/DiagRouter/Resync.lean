import DiagRouter.HdlcTrace

/-!
# What a flag resets

A flag behind stored bytes resets the whole decoder. A flag behind none leaves a
pending escape where it is, and the next byte that is stored is toggled.
-/
namespace DiagRouter.Resync
open DiagRouter.Lib.Memory DiagRouter.Lib.Runs DiagRouter.Lib.Stuffing DiagRouter.CircRead DiagRouter.Hdlc
open DiagRouter.HdlcBounds DiagRouter.HdlcTrace
open DiagRouter.HdlcStream (decoder decoder_zeroed message message_take message_payload)

/-- A call that takes a flag leaves the decoder as it is at first. -/
def ResetsAtFlag (wire : Wire) : Prop :=
  ∀ answer hdlc buf taken, hdlc_decode_one wire.receiver.recv_decoder wire.receiver.recv_buf = .ok (answer,hdlc,buf) →
    contents wire.receiver.recv_buf = taken ++ contents buf → 0x7e ∈ taken → hdlc.raw = [] ∧ hdlc.escape = 0

/-- What is returned when all of the stream has been read and decoded. -/
def Returns (stream : List UInt8) (buf : CircBuf) (returned : List Message) : Prop :=
  ∃ ops after, emit wire_step ⟨stream,.zeroed,buf⟩ ops = .ok (after,returned) ∧ after.waiting = [] ∧
    contents after.receiver.recv_buf = []

/-- Behind the garbage, the frame of the message adds this message to what is
    returned. -/
def Resyncs (garbage msg : List UInt8) (buf : CircBuf) : Prop :=
  (∃ returned, Returns (garbage ++ hdlc_encode msg) buf returned) ∧
    ∀ early returned, Returns garbage buf early → Returns (garbage ++ hdlc_encode msg) buf returned →
      ∃ last, returned = early ++ [last] ∧ last.payload = .ok msg

/-- Since an escape that begins a stretch there have been escapes and flags
    only. -/
def HoldsEscape (bytes : List UInt8) : Prop :=
  ∃ before rest, bytes = before ++ 0x7d :: rest ∧ Opens 0x7e before ∧ ∀ ch ∈ rest, ch = 0x7d ∨ ch = 0x7e

/-! ## The escape that stays -/

theorem trace_append (bytes more : List UInt8) : trace (bytes ++ more) = more.foldl feed (trace bytes) := List.foldl_append

/-- The state is that of a decoder in the middle of a frame. -/
theorem trace_decoder (bytes : List UInt8) : ∃ pending, (trace bytes).1 = decoder (trace bytes).1.raw pending := by
  induction bytes using List.reverseRecOn with
  | nil => exact ⟨false,rfl⟩
  | append_singleton bytes ch ih =>
    rw [trace_concat]
    by_cases flag : ch = 0x7e
    · subst flag
      by_cases nothing : (trace bytes).1.raw = []
      · obtain ⟨pending,same⟩ := ih
        refine ⟨pending,?_⟩
        simpa [feed_flag,decode_end,nothing] using same
      · exact ⟨false,by simp [feed_flag,decode_end,nothing,decoder,HdlcDecoder.zeroed]⟩
    · by_cases escape : ch = 0x7d
      · subst escape
        exact ⟨true,by rw [feed_escape]; rfl⟩
      · exact ⟨false,by rw [feed_byte flag escape]; rfl⟩

/-- A stretch of escapes stores nothing. -/
theorem trace_raw_empty {bytes : List UInt8} : (trace bytes).1.raw = [] ↔ ∀ ch ∈ sinceFlag 0x7e bytes, ch = 0x7d := by
  rw [← List.length_eq_zero_iff,trace_count,stored,List.countP_eq_zero]
  simp

theorem trace_opens {before : List UInt8} (opens : Opens 0x7e before) : (trace before).1.raw = [] := by
  rw [trace_raw_empty,← List.append_nil before,sinceFlag_eq opens (by simp)]
  simp

/-- Escapes and flags do not take a pending escape away. -/
theorem special_keeps {rest : List UInt8} (special : ∀ ch ∈ rest, ch = 0x7d ∨ ch = 0x7e) (msgs : List Message) :
    rest.foldl feed (decoder [] true,msgs) = (decoder [] true,msgs) := by
  induction rest with
  | nil => rfl
  | cons ch rest ih =>
    obtain ⟨first,others⟩ := List.forall_mem_cons.mp special
    rw [List.foldl_cons]
    rcases first with rfl | rfl
    · rw [feed_escape]
      exact ih others
    · rw [feed_flag]
      simpa [decode_end,decoder] using ih others

theorem escape_of_holds {bytes : List UInt8} (holds : HoldsEscape bytes) : (trace bytes).1 = decoder [] true := by
  obtain ⟨before,rest,rfl,opens,special⟩ := holds
  have raw := trace_opens opens
  have first : feed (trace before) 0x7d = (decoder [] true,(trace before).2) := by simp [feed_escape,raw,decoder]
  rw [trace_append,List.foldl_cons,first,special_keeps special]

theorem holds_of_escape {bytes : List UInt8} (pending : (trace bytes).1 = decoder [] true) : HoldsEscape bytes := by
  induction bytes using List.reverseRecOn with
  | nil => exact absurd pending (by decide)
  | append_singleton bytes ch ih =>
    rw [trace_concat] at pending
    by_cases flag : ch = 0x7e
    · subst flag
      by_cases nothing : (trace bytes).1.raw = []
      · have held : (trace bytes).1 = decoder [] true := by simpa [feed_flag,decode_end,nothing] using pending
        obtain ⟨before,rest,rfl,opens,special⟩ := ih held
        refine ⟨before,rest ++ [0x7e],by simp,opens,?_⟩
        intro ch member
        rcases List.mem_append.mp member with early | last
        · exact special ch early
        · exact .inr (List.mem_singleton.mp last)
      · simp [feed_flag,decode_end,nothing,decoder,HdlcDecoder.zeroed] at pending
    · by_cases escape : ch = 0x7d
      · subst escape
        rw [feed_escape] at pending
        obtain ⟨before,split,opens,_⟩ := sinceFlag_split 0x7e bytes
        have escapes := trace_raw_empty.mp (congrArg HdlcDecoder.raw pending)
        cases since : sinceFlag 0x7e bytes with
        | nil =>
          rw [since,List.append_nil] at split
          exact ⟨bytes,[],rfl,split ▸ opens,by simp⟩
        | cons first others =>
          rw [since] at split escapes
          obtain ⟨rfl,more⟩ := List.forall_mem_cons.mp escapes
          refine ⟨before,others ++ [0x7d],by rw [split]; simp,opens,?_⟩
          intro ch member
          rcases List.mem_append.mp member with early | last
          · exact .inl (more ch early)
          · exact .inl (List.mem_singleton.mp last)
      · rw [feed_byte flag escape] at pending
        simp [decoder] at pending

/-- The decoder at the beginning of a stretch. -/
theorem trace_begins {before : List UInt8} (opens : Opens 0x7e before) :
    ∃ pending, (trace before).1 = decoder [] pending ∧ (pending = true ↔ HoldsEscape before) := by
  obtain ⟨pending,same⟩ := trace_decoder before
  rw [trace_opens opens] at same
  refine ⟨pending,same,?_⟩
  constructor
  · rintro rfl
    exact holds_of_escape same
  · intro holds
    have escaped := same.symm.trans (escape_of_holds holds)
    cases pending with
    | false => exact absurd escaped (by decide)
    | true => rfl

/-- Without such an escape a flag leaves the decoder as it is at first. -/
theorem trace_flag {bytes : List UInt8} (ends : bytes.getLast? = some 0x7e) :
    (trace bytes).1 = .zeroed ↔ ¬ HoldsEscape bytes := by
  obtain ⟨pending,same,holds⟩ := trace_begins (.inr ends)
  rw [same,← holds]
  cases pending with
  | false => simp [decoder_zeroed]
  | true => simp [decoder,HdlcDecoder.zeroed]

/-! ## Flags of a stream -/

theorem resets_of_free {stream : List UInt8} {buf : CircBuf} (empty : buf.head = buf.tail) (inside : buf.tail < HDLC_BUF_SIZE)
    (free : ∀ early, early <+: stream → early.getLast? = some 0x7e → Roomy early → ¬ HoldsEscape early) {ops : List WireOp}
    {wire : Wire} {returned : List Message} (run : emit wire_step ⟨stream,.zeroed,buf⟩ ops = .ok (wire,returned)) :
    ResetsAtFlag wire := by
  intro answer hdlc rest taken decoded split flag
  obtain ⟨consumed,reached⟩ := run_reached (reached_start empty inside stream).1 run
  simp only [List.nil_append] at reached
  have step : wire_step wire .decode = .ok (⟨wire.waiting,⟨hdlc,rest⟩⟩,answer.toList) := by
    rw [wire_step,decoded]
    rfl
  obtain ⟨bytes,next,bytes_split,last⟩ := decode_reached reached step
  cases List.append_cancel_right (split.symm.trans bytes_split)
  have ends : (consumed ++ taken).getLast? = some 0x7e := by simp [List.getLast?_append,last flag]
  have zeroed := (trace_flag ends).mpr (free _ ⟨_,next.place.symm⟩ ends next.roomy)
  rw [next.state] at zeroed
  dsimp only at zeroed
  rw [zeroed]
  exact ⟨rfl,rfl⟩

theorem free_of_resets {stream : List UInt8} {buf : CircBuf} (empty : buf.head = buf.tail) (inside : buf.tail < HDLC_BUF_SIZE)
    (resets : ∀ ops wire returned, emit wire_step ⟨stream,.zeroed,buf⟩ ops = .ok (wire,returned) → ResetsAtFlag wire)
    {early : List UInt8} (start : early <+: stream) (ends : early.getLast? = some 0x7e) (roomy : Roomy early) :
    ¬ HoldsEscape early := by
  obtain ⟨rest,rfl⟩ := start
  obtain ⟨before,rfl⟩ := List.getLast?_eq_some_iff.mp ends
  obtain ⟨begun,nothing⟩ := reached_start empty inside (before ++ [0x7e] ++ rest)
  -- Byte by byte up to the flag, which is then taken by itself.
  obtain ⟨wire,returned,run,reached,drained,waiting⟩ :=
    bytewise_reached begun nothing (List.append_assoc ..) (roomy.mono (List.prefix_append _ _))
  obtain ⟨ring,answer,final,read,one,step,_,left⟩ := byte_reached reached drained waiting roomy
  have longer : emit wire_step ⟨before ++ [0x7e] ++ rest,.zeroed,buf⟩ (bytewise before.length ++ [.read [.upto 1]]) =
      .ok (⟨rest,⟨wire.receiver.recv_decoder,ring⟩⟩,returned) := by
    rw [emit_append,run,ok_bind,emit_cons,read]
    simp
  obtain ⟨⟨msg,hdlc,after⟩,decoded,same⟩ := map_eq_ok.mp step
  cases same
  obtain ⟨raw,escape⟩ := resets _ _ _ longer msg _ _ [0x7e] decoded (by dsimp only; rw [one,left]; rfl) (by simp)
  simp only [List.nil_append] at raw escape
  refine (trace_flag ends).mp ?_
  calc (trace (before ++ [0x7e])).1 = ⟨(trace (before ++ [0x7e])).1.raw,(trace (before ++ [0x7e])).1.escape⟩ := rfl
    _ = .zeroed := by rw [raw,escape]; rfl

/-! ## A frame behind garbage -/

theorem returns_iff {stream : List UInt8} {buf : CircBuf} (empty : buf.head = buf.tail) (inside : buf.tail < HDLC_BUF_SIZE)
    {returned : List Message} : Returns stream buf returned ↔ Roomy stream ∧ returned = (trace stream).2 := by
  obtain ⟨begun,nothing⟩ := reached_start empty inside stream
  constructor
  · rintro ⟨ops,after,run,read,drained⟩
    obtain ⟨taken,reached⟩ := run_reached begun run
    have all : stream = [] ++ taken := by simpa [read,drained] using reached.place
    rw [all]
    refine ⟨reached.roomy,?_⟩
    rw [reached.state]
    rfl
  · rintro ⟨roomy,rfl⟩
    obtain ⟨after,more,run,reached,drained,read⟩ :=
      bytewise_reached begun nothing (List.append_nil stream).symm roomy
    have same : (trace stream).2 = more := congrArg Prod.snd reached.state
    exact ⟨_,after,same ▸ run,read,drained⟩

theorem roomy_stretch {before stretch : List UInt8} (roomy : Roomy before) (opens : Opens 0x7e before) (free : 0x7e ∉ stretch) :
    Roomy (before ++ stretch) ↔ stored stretch ≤ HDLC_BUF_SIZE := by
  constructor
  · intro longer
    have last := longer _ List.prefix_rfl
    rwa [sinceFlag_eq opens free] at last
  · intro short early start
    rcases List.prefix_or_prefix_of_prefix start (List.prefix_append before stretch) with inside | ⟨more,rfl⟩
    · exact roomy early inside
    · have first := (List.prefix_append_right_inj before).mp start
      rw [sinceFlag_eq opens (fun member => free (first.subset member))]
      exact (first.sublist.countP_le).trans short

/-- A stretch without flags. -/
theorem feed_stretch {stretch : List UInt8} (free : 0x7e ∉ stretch) (raw : List UInt8) (pending : Bool) (msgs : List Message) :
    stretch.foldl feed (decoder raw pending,msgs) =
      (decoder (raw ++ unstuff 0x7d toggle pending stretch) (pendingAfter 0x7d pending stretch),msgs) := by
  induction stretch generalizing raw pending with
  | nil => simp [unstuff,pendingAfter]
  | cons ch rest ih =>
    simp only [List.mem_cons,not_or] at free
    rw [List.foldl_cons]
    by_cases escape : ch = 0x7d
    · subst escape
      rw [feed_escape]
      exact ih free.2 raw true
    · rw [feed_byte (Ne.symm free.1) escape]
      have next := ih free.2 (raw ++ [if pending then toggle ch else ch]) false
      cases pending with
      | false => simpa [unstuff,pendingAfter,escape,decoder] using next
      | true => simpa [unstuff,pendingAfter,escape,decoder,toggle] using next

/-- What a stuffed body adds, and its flag. -/
theorem trace_frame {before : List UInt8} {pending : Bool} (state : (trace before).1 = decoder [] pending) {stored : List UInt8}
    (some : stored ≠ []) :
    (trace (before ++ (stuff 0x7e 0x7d toggle stored ++ [0x7e]))).2 =
      (trace before).2 ++ [message (unstuff 0x7d toggle pending (stuff 0x7e 0x7d toggle stored))] := by
  have free := flag_not_mem_stuff transparent stored
  have start : trace before = (decoder [] pending,(trace before).2) := Prod.ext state rfl
  have nonempty : unstuff 0x7d toggle pending (stuff 0x7e 0x7d toggle stored) ≠ [] := by
    apply List.ne_nil_of_length_pos
    rw [unstuff_length,← unstuff_length false,unstuff_stuff transparent]
    exact List.length_pos_iff.mpr some
  rw [← List.append_assoc,trace_concat,trace_append,start,feed_stretch free,feed_flag]
  simp [decode_end,decoder,nonempty,message]

theorem stored_stuff (src : List UInt8) : stored (stuff 0x7e 0x7d toggle src) = src.length := by
  rw [stored,← unstuff_length false,unstuff_stuff transparent]

/-- Behind roomy garbage a frame is roomy if the body fits. -/
theorem roomy_frame {garbage msg : List UInt8} (ends : garbage.getLast? = some 0x7e) (roomy : Roomy garbage) :
    Roomy (garbage ++ hdlc_encode msg) ↔ msg.length ≤ HDLC_BUF_SIZE - 2 := by
  have free := flag_not_mem_stuff transparent (body msg)
  have length := body_length msg
  rw [hdlc_encode_eq,← List.append_assoc,roomy_concat,roomy_stretch roomy (.inr ends) free,stored_stuff,stored_flag]
  unfold HDLC_BUF_SIZE
  omega

theorem toggle_ne (ch : UInt8) : toggle ch ≠ ch := by
  intro same
  have zero : ch ^^^ 0x20 ^^^ ch = 0 := by rw [← toggle,same,UInt8.xor_self]
  rw [UInt8.xor_comm ch,UInt8.xor_assoc,UInt8.xor_self] at zero
  exact absurd zero (by decide)

/-- A pending escape spoils the message, unless it has no first byte or that
    byte is escaped. -/
theorem pending_payload {msg : List UInt8} (short : msg.length ≤ HDLC_BUF_SIZE - 2) :
    (message (unstuff 0x7d toggle true (stuff 0x7e 0x7d toggle (body msg)))).payload = .ok msg ↔
      msg = [] ∨ msg.head? = some 0x7d ∨ msg.head? = some 0x7e := by
  have length : (unstuff 0x7d toggle true (stuff 0x7e 0x7d toggle (body msg))).length = msg.length + 2 := by
    rw [unstuff_length,← unstuff_length false,unstuff_stuff transparent,body_length]
  rw [message_take (by omega) (by unfold HDLC_BUF_SIZE at *; omega),length,Nat.add_sub_cancel]
  cases msg with
  | nil => simp
  | cons first rest =>
    have split : body (first :: rest) = first :: (rest ++ frame_check (first :: rest)) := rfl
    rw [split,unstuff_true_stuff transparent,List.length_cons,List.take_succ_cons,List.take_left]
    by_cases special : first = 0x7d ∨ first = 0x7e
    · simp [special]
    · simp [special,toggle_ne]

theorem resyncs_iff {garbage msg : List UInt8} {buf : CircBuf} (empty : buf.head = buf.tail) (inside : buf.tail < HDLC_BUF_SIZE)
    (ends : garbage.getLast? = some 0x7e) (roomy : Roomy garbage) :
    Resyncs garbage msg buf ↔ msg.length ≤ HDLC_BUF_SIZE - 2 ∧
      (¬ HoldsEscape garbage ∨ msg = [] ∨ msg.head? = some 0x7d ∨ msg.head? = some 0x7e) := by
  have frame : Roomy (garbage ++ hdlc_encode msg) ↔ msg.length ≤ HDLC_BUF_SIZE - 2 := roomy_frame ends roomy
  obtain ⟨pending,state,holds⟩ := trace_begins (.inr ends)
  have added := trace_frame state (body_ne_nil msg)
  rw [← hdlc_encode_eq] at added
  have resyncs : Resyncs garbage msg buf ↔ msg.length ≤ HDLC_BUF_SIZE - 2 ∧
      (message (unstuff 0x7d toggle pending (stuff 0x7e 0x7d toggle (body msg)))).payload = .ok msg := by
    simp only [Resyncs,returns_iff empty inside,frame,added]
    constructor
    · rintro ⟨⟨_,short,_⟩,spelled⟩
      obtain ⟨last,same,payload⟩ := spelled _ _ ⟨roomy,rfl⟩ ⟨short,rfl⟩
      cases List.append_cancel_left same
      exact ⟨short,payload⟩
    · rintro ⟨short,payload⟩
      refine ⟨⟨_,short,rfl⟩,?_⟩
      rintro early returned ⟨_,rfl⟩ ⟨_,rfl⟩
      exact ⟨_,rfl,payload⟩
  rw [resyncs]
  apply and_congr_right
  intro short
  rw [← holds]
  cases pending with
  | false => simp [unstuff_stuff transparent,message_payload short]
  | true => simp [pending_payload short]

/-- Every flag of a stream leaves the decoder as it is at first if none comes
    behind an escape that begins a stretch and then escapes and flags only; and
    behind garbage that ends in a flag, that is also when a message that fits
    is decoded, unless the escape does not matter to it. -/
theorem resync_iff {buf : CircBuf} (empty : buf.head = buf.tail) (inside : buf.tail < HDLC_BUF_SIZE) :
    (∀ stream, (∀ ops wire returned, emit wire_step ⟨stream,.zeroed,buf⟩ ops = .ok (wire,returned) → ResetsAtFlag wire) ↔
      ∀ early, early <+: stream → early.getLast? = some 0x7e → Roomy early → ¬ HoldsEscape early) ∧
    ∀ garbage msg, garbage.getLast? = some 0x7e → Roomy garbage →
      (Resyncs garbage msg buf ↔ msg.length ≤ HDLC_BUF_SIZE - 2 ∧
        (¬ HoldsEscape garbage ∨ msg = [] ∨ msg.head? = some 0x7d ∨ msg.head? = some 0x7e)) := by
  constructor
  · intro stream
    constructor
    · intro resets early start ends roomy
      exact free_of_resets empty inside resets start ends roomy
    · intro free ops wire returned run
      exact resets_of_free empty inside free run
  · intro garbage msg ends roomy
    exact resyncs_iff empty inside ends roomy

/-- Garbage that is dropped, and a message behind it. -/
theorem resync_iff_garbage :
    ((∀ ops wire returned, emit wire_step ⟨[0x41,0x7e],.zeroed,⟨fun _ => 0,0,0⟩⟩ ops = .ok (wire,returned) →
        ResetsAtFlag wire) ↔
      ∀ early, early <+: [0x41,0x7e] → early.getLast? = some 0x7e → Roomy early → ¬ HoldsEscape early) ∧
    (Resyncs [0x41,0x7e] [0x42] ⟨fun _ => 0,0,0⟩ ↔ [(0x42 : UInt8)].length ≤ HDLC_BUF_SIZE - 2 ∧
      (¬ HoldsEscape [0x41,0x7e] ∨ [(0x42 : UInt8)] = [] ∨ [(0x42 : UInt8)].head? = some 0x7d ∨
        [(0x42 : UInt8)].head? = some 0x7e)) :=
  ⟨(resync_iff rfl (by decide)).1 [0x41,0x7e],
    (resync_iff rfl (by decide)).2 [0x41,0x7e] [0x42] rfl (roomy_of_length (by decide))⟩

/-- An escape, a flag, and the frame of 0x41: the flag leaves the escape, and
    what is returned is 0x61. -/
theorem escaped_flag_stays :
    (¬ ∀ ops wire returned, emit wire_step ⟨[0x7d,0x7e],.zeroed,⟨fun _ => 0,0,0⟩⟩ ops = .ok (wire,returned) →
      ResetsAtFlag wire) ∧
    ¬ Resyncs [0x7d,0x7e] [0x41] ⟨fun _ => 0,0,0⟩ ∧
    (fun r => r.2.map Message.payload) <$> emit wire_step ⟨[0x7d,0x7e] ++ hdlc_encode [0x41],.zeroed,⟨fun _ => 0,0,0⟩⟩
      [.read [.upto 8],.decode,.decode] = .ok [.ok [0x61]] := by
  have holds : HoldsEscape [0x7d,0x7e] := ⟨[],[0x7e],rfl,.inl rfl,by simp⟩
  refine ⟨?_,?_,by decide +kernel⟩
  · intro resets
    exact free_of_resets rfl (by decide) resets List.prefix_rfl rfl (roomy_of_length (by decide)) holds
  · rw [resyncs_iff rfl (by decide) rfl (roomy_of_length (by decide))]
    rintro ⟨_,free | none | first | first⟩
    · exact free holds
    · exact absurd none (by decide)
    · exact absurd first (by decide)
    · exact absurd first (by decide)

end DiagRouter.Resync

import DiagRouter.HdlcStream

/-!
# Messages through a client's descriptor

`dm_recv_encoded` appends what it reads to the ring of the client, and
`dm_recv_hdlc` decodes with a decoder of its own, zeroed on every call, so a
frame that a call leaves open is lost. The messages come through exactly when
no read ends inside a frame.
-/
namespace DiagRouter.DmStream
open DiagRouter.Lib.Memory DiagRouter.Lib.Runs DiagRouter.Lib.Stuffing DiagRouter.CircRead DiagRouter.Hdlc
open DiagRouter.HdlcStream (message sent_payloads)

/-- The commands handed to `diag_client_handle_command`, and the ring left. -/
def dm_recv_hdlc (buf : CircBuf) : Except Fault (CircBuf × List Message) :=
  (fun (msgs,_,left) => (left,msgs)) <$> decode_until_null HDLC_BUF_SIZE .zeroed buf

/-- `dm_recv_encoded` of a client in `DIAG_ENCODE_HDLC`: only `EAGAIN` is
    followed by decoding what there is. -/
def dm_recv_encoded (fd : Fd) (recv_buf : CircBuf) : Except Fault (CircBuf × List Message) :=
  let read := circ_read fd recv_buf
  match read.errno with
  | some errno => if errno ≠ EAGAIN then .ok (read.buf,[]) else dm_recv_hdlc read.buf
  | none => dm_recv_hdlc read.buf

/-- A call that finds one chunk on the descriptor, and then `EAGAIN`. -/
def dm_recv_chunk (recv_buf : CircBuf) (chunk : List UInt8) : Except Fault (CircBuf × List Message) :=
  dm_recv_encoded ⟨chunk,[.upto chunk.length,.upto chunk.length]⟩ recv_buf

/-- Every chunk fits the free space of the ring it finds. -/
def FitsEach : CircBuf → List (List UInt8) → Prop
  | _, [] => True
  | recv_buf, chunk :: chunks => chunk.length ≤ CIRC_SPACE recv_buf ∧
    ∀ after commands, dm_recv_chunk recv_buf chunk = .ok (after,commands) → FitsEach after chunks

/-! ## A zeroed decoder on the bytes of a ring -/

theorem scan_stretch {stretch : List UInt8} (free : 0x7e ∉ stretch) {hdlc : HdlcDecoder} (pending : Bool)
    (state : hdlc.escape = if pending then 0x20 else 0)
    (room : hdlc.raw.length + stretch.length ≤ HDLC_BUF_SIZE) (rest : List UInt8) :
    ∃ escape, scan hdlc (stretch ++ rest) = scan ⟨hdlc.raw ++ unstuff 0x7d toggle pending stretch,escape⟩ rest := by
  induction stretch generalizing hdlc pending with
  | nil => exact ⟨hdlc.escape,by simp [unstuff]⟩
  | cons ch stretch ih =>
    simp only [List.mem_cons,not_or] at free
    rw [List.length_cons] at room
    by_cases escape : ch = 0x7d
    · obtain ⟨left,same⟩ := @ih free.2 ⟨hdlc.raw,0x20⟩ true rfl (by dsimp only; omega)
      exact ⟨left,by simpa [scan,unstuff,escape] using same⟩
    · have stored : raw_store hdlc ch = .ok ⟨hdlc.raw ++ [if pending then toggle ch else ch],0⟩ := by
        rw [raw_store,if_pos (by omega),state]
        cases pending <;> simp [toggle]
      obtain ⟨left,same⟩ := @ih free.2 ⟨hdlc.raw ++ [if pending then toggle ch else ch],0⟩ false rfl (by simp; omega)
      exact ⟨left,by simpa [scan,unstuff,escape,Ne.symm free.1,stored] using same⟩

/-- What one call hands over from the bytes of a ring, and the bytes it leaves. -/
def call_commands (fuel : Nat) (bytes : List UInt8) : Except Fault (List Message × List UInt8) :=
  (fun (msgs,_,left) => (msgs,left)) <$> scan_until_null fuel .zeroed bytes

theorem call_commands_open {bytes : List UInt8} (free : 0x7e ∉ bytes) (room : bytes.length ≤ HDLC_BUF_SIZE) (fuel : Nat) :
    call_commands (fuel+1) bytes = .ok ([],[]) := by
  obtain ⟨escape,same⟩ := @scan_stretch bytes free .zeroed false rfl (by simpa [HdlcDecoder.zeroed] using room) []
  rw [List.append_nil] at same
  rw [call_commands,scan_until_null,scan_one,same]
  rfl

theorem scan_closed {stretch : List UInt8} (free : 0x7e ∉ stretch) (room : stretch.length ≤ HDLC_BUF_SIZE)
    (rest : List UInt8) :
    ∃ escape, scan .zeroed (stretch ++ 0x7e :: rest) = .ok (true,⟨unstuff 0x7d toggle false stretch,escape⟩,rest) := by
  obtain ⟨escape,same⟩ :=
    @scan_stretch stretch free .zeroed false rfl (by simpa [HdlcDecoder.zeroed] using room) (0x7e :: rest)
  exact ⟨escape,by rw [same]; simp [scan,HdlcDecoder.zeroed]⟩

/-- A flag with nothing before it ends the call. -/
theorem call_commands_empty {stretch : List UInt8} (free : 0x7e ∉ stretch) (room : stretch.length ≤ HDLC_BUF_SIZE)
    (nothing : unstuff 0x7d toggle false stretch = []) (fuel : Nat) (rest : List UInt8) :
    call_commands (fuel+1) (stretch ++ 0x7e :: rest) = .ok ([],rest) := by
  obtain ⟨escape,scanned⟩ := scan_closed free room rest
  rw [call_commands,scan_until_null,scan_one,scanned,nothing]
  rfl

theorem call_commands_message {stretch : List UInt8} (free : 0x7e ∉ stretch) (room : stretch.length ≤ HDLC_BUF_SIZE)
    (some : unstuff 0x7d toggle false stretch ≠ []) (fuel : Nat) (rest : List UInt8) :
    call_commands (fuel+1) (stretch ++ 0x7e :: rest) =
      (fun (msgs,left) => (message (unstuff 0x7d toggle false stretch) :: msgs,left)) <$> call_commands fuel rest := by
  obtain ⟨escape,scanned⟩ := scan_closed free room rest
  have one : scan_one .zeroed (stretch ++ 0x7e :: rest) =
      .ok (Option.some (message (unstuff 0x7d toggle false stretch)),.zeroed,rest) := by
    rw [scan_one,scanned]
    simp [decode_end,some,message]
  rw [call_commands,scan_until_null,one,ok_bind,call_commands]
  dsimp only
  cases scan_until_null fuel .zeroed rest with
  | error e => rfl
  | ok result => rfl

/-- A call on a ring faults in no case, and hands over one command for a flag at
    most. -/
theorem call_commands_ok {fuel : Nat} {bytes : List UInt8} (enough : bytes.length < fuel)
    (room : bytes.length ≤ HDLC_BUF_SIZE) :
    ∃ msgs left, call_commands fuel bytes = .ok (msgs,left) ∧ msgs.length + left.count 0x7e ≤ bytes.count 0x7e := by
  induction fuel generalizing bytes with
  | zero => exact absurd enough (Nat.not_lt_zero _)
  | succ fuel ih =>
    by_cases flag : 0x7e ∈ bytes
    · obtain ⟨stretch,rest,rfl,free⟩ := List.eq_append_cons_of_mem flag
      simp only [List.length_append,List.length_cons] at enough room
      have count : (stretch ++ 0x7e :: rest).count 0x7e = rest.count 0x7e + 1 := by
        rw [List.count_append,List.count_eq_zero_of_not_mem free,List.count_cons_self,Nat.zero_add]
      by_cases nothing : unstuff 0x7d toggle false stretch = []
      · refine ⟨[],rest,call_commands_empty free (by omega) nothing fuel rest,?_⟩
        rw [count,List.length_nil]
        omega
      · obtain ⟨msgs,left,handed,fewer⟩ := @ih rest (by omega) (by omega)
        refine ⟨message (unstuff 0x7d toggle false stretch) :: msgs,left,?_,?_⟩
        · rw [call_commands_message free (by omega) nothing,handed]
          rfl
        · rw [count,List.length_cons]
          omega
    · exact ⟨[],[],call_commands_open flag room fuel,by simp⟩

/-- Whole frames are handed over, and what follows them is lost. -/
theorem call_commands_frames {bodies : List (List UInt8)} (nonempty : ∀ framed ∈ bodies, framed ≠ [])
    {lost : List UInt8} (free : 0x7e ∉ lost) {fuel : Nat}
    (enough : (frames 0x7e 0x7d toggle bodies ++ lost).length < fuel)
    (room : (frames 0x7e 0x7d toggle bodies ++ lost).length ≤ HDLC_BUF_SIZE) :
    call_commands fuel (frames 0x7e 0x7d toggle bodies ++ lost) = .ok (bodies.map message,[]) := by
  induction bodies generalizing fuel with
  | nil =>
    obtain ⟨more,rfl⟩ := Nat.exists_eq_add_of_lt enough
    exact call_commands_open free room _
  | cons framed bodies ih =>
    obtain ⟨first,others⟩ := List.forall_mem_cons.mp nonempty
    rw [frames_cons,List.append_assoc,List.cons_append] at enough room ⊢
    simp only [List.length_append,List.length_cons] at enough room
    obtain ⟨more,rfl⟩ := Nat.exists_eq_add_of_lt enough
    have whole : unstuff 0x7d toggle false (stuff 0x7e 0x7d toggle framed) = framed := unstuff_stuff transparent framed
    rw [call_commands_message (flag_not_mem_stuff transparent framed) (by omega) (by rw [whole]; exact first),whole,
      ih others (by rw [List.length_append]; omega) (by rw [List.length_append]; omega)]
    rfl

/-! ## One call -/

theorem chunk_room {buf : CircBuf} (valid : Valid buf) {chunk : List UInt8} (room : chunk.length ≤ CIRC_SPACE buf) :
    (contents buf ++ chunk).length < HDLC_BUF_SIZE := by
  have held := contents_lt valid
  rw [circ_space_eq valid] at room
  rw [List.length_append]
  omega

theorem dm_recv_chunk_commands {buf : CircBuf} (valid : Valid buf) {chunk : List UInt8}
    (room : chunk.length ≤ CIRC_SPACE buf) {msgs : List Message} {left : List UInt8}
    (handed : call_commands HDLC_BUF_SIZE (contents buf ++ chunk) = .ok (msgs,left)) :
    ∃ after, dm_recv_chunk buf chunk = .ok (after,msgs) ∧ Valid after ∧ contents after = left := by
  have fits := chunk_room valid room
  rw [List.length_append] at fits
  obtain ⟨still,appended⟩ := circ_read_whole valid chunk fits
  have errno := @circ_read_loop_errno [.upto chunk.length,.upto chunk.length] (by simp) chunk buf
  obtain ⟨⟨_,hdlc,_⟩,scanned,same⟩ := map_eq_ok.mp handed
  cases same
  have follows := until_null_follows HDLC_BUF_SIZE .zeroed still
  rw [appended,scanned] at follows
  obtain ⟨after,decoded,valid,drained⟩ := follows.of_ok
  refine ⟨after,?_,valid,drained⟩
  have decodes : dm_recv_chunk buf chunk =
      dm_recv_hdlc (circ_read ⟨chunk,[.upto chunk.length,.upto chunk.length]⟩ buf).buf := by
    rw [dm_recv_chunk,dm_recv_encoded]
    rcases errno with none | again
    · rw [circ_read,none]
    · rw [circ_read,again]
      simp
  rw [decodes,dm_recv_hdlc,decoded]
  rfl

/-- A run of calls hands over no more commands than there are flags. -/
theorem dm_recv_chunks_ok {chunks : List (List UInt8)} {buf : CircBuf} (valid : Valid buf) (fits : FitsEach buf chunks) :
    ∃ after commands, emit dm_recv_chunk buf chunks = .ok (after,commands) ∧
      commands.length ≤ (contents buf ++ chunks.flatten).count 0x7e := by
  induction chunks generalizing buf with
  | nil => exact ⟨buf,[],rfl,by simp⟩
  | cons chunk chunks ih =>
    obtain ⟨room,rest⟩ := fits
    have short := chunk_room valid room
    obtain ⟨msgs,left,handed,fewer⟩ := call_commands_ok short (Nat.le_of_lt short)
    obtain ⟨next,called,still,drained⟩ := dm_recv_chunk_commands valid room handed
    obtain ⟨after,commands,run,most⟩ := ih still (rest _ _ called)
    refine ⟨after,msgs ++ commands,emit_cons_ok.mpr ⟨next,msgs,commands,called,run,rfl⟩,?_⟩
    rw [drained] at most
    simp only [List.count_append,List.length_append,List.flatten_cons] at fewer most ⊢
    omega

/-- So a run that begins with a frame hands over no more commands than frames. -/
theorem frames_commands_le {chunks : List (List UInt8)} {buf : CircBuf} (valid : Valid buf) (fits : FitsEach buf chunks)
    {bodies : List (List UInt8)} (coming : contents buf ++ chunks.flatten = frames 0x7e 0x7d toggle bodies)
    {after : CircBuf} {commands : List Message} (run : emit dm_recv_chunk buf chunks = .ok (after,commands)) :
    commands.length ≤ bodies.length := by
  obtain ⟨_,_,rerun,most⟩ := dm_recv_chunks_ok valid fits
  cases run.symm.trans rerun
  rwa [coming,frames_count transparent] at most

/-- A call on an empty ring hands over the frames it reads, and loses what follows
    them. -/
theorem dm_recv_chunk_frames {buf : CircBuf} (valid : Valid buf) (nothing : contents buf = []) (sent : List (List UInt8))
    {lost : List UInt8} (free : 0x7e ∉ lost)
    (room : (frames 0x7e 0x7d toggle (sent.map body) ++ lost).length ≤ CIRC_SPACE buf) :
    ∃ next, dm_recv_chunk buf (frames 0x7e 0x7d toggle (sent.map body) ++ lost) =
      .ok (next,(sent.map body).map message) ∧ Valid next ∧ contents next = [] := by
  have inside := chunk_room valid room
  rw [nothing,List.nil_append] at inside
  have handed := call_commands_frames (bodies_ne_nil sent) free inside (Nat.le_of_lt inside)
  exact dm_recv_chunk_commands valid room (by rw [nothing,List.nil_append]; exact handed)

/-! ## After a cut inside a frame -/

/-- The message of a frame whose beginning was lost is not the message sent. -/
theorem payload_ne {src lost rest : List UInt8} (short : src.length ≤ HDLC_BUF_SIZE - 2)
    (split : stuff 0x7e 0x7d toggle (body src) = lost ++ rest) (some : lost ≠ [])
    (nonempty : unstuff 0x7d toggle false rest ≠ []) : (message (unstuff 0x7d toggle false rest)).payload ≠ .ok src := by
  intro same
  have length := body_length src
  have suffix := unstuff_suffix transparent split some
  have one := List.length_pos_iff.mpr nonempty
  rw [Message.payload,message,load_ok_iff] at same
  obtain ⟨within,taken⟩ := same
  dsimp only at within taken
  generalize unstuff 0x7d toggle false rest = read at *
  have count := congrArg List.length taken
  rw [List.length_take] at count
  rcases suffix with fewer | ⟨x,xs,framed,special,toggled⟩
  · -- Two bytes less than what was read are less than the message.
    unfold size_t HDLC_BUF_SIZE at *
    omega
  · cases src with
    | nil =>
      rw [show body [] = [0x00,0x00] by decide +kernel,List.cons.injEq] at framed
      rw [← framed.1] at special
      revert special
      decide
    | cons ch src =>
      rw [body,List.cons_append,List.cons.injEq] at framed
      have some : 0 < size_t ((read.length : Int) - 2) := by
        rw [List.length_cons] at count
        omega
      obtain ⟨n,msglen⟩ := Nat.exists_eq_succ_of_ne_zero (Nat.ne_of_gt some)
      rw [msglen,toggled,List.take_succ_cons,List.cons.injEq,framed.1] at taken
      obtain ⟨notEsc,notFlag⟩ := transparent.plain x special
      rw [← taken.1] at notEsc notFlag
      exact special.elim notEsc notFlag

/-- From a ring that has lost the beginning of a message, the commands are not
    that message and those after it. -/
theorem lost_beginning {chunks : List (List UInt8)} {buf : CircBuf} (valid : Valid buf) (fits : FitsEach buf chunks)
    {src lost rest : List UInt8} {later : List (List UInt8)} (short : src.length ≤ HDLC_BUF_SIZE - 2)
    (split : stuff 0x7e 0x7d toggle (body src) = lost ++ rest) (some : lost ≠ [])
    (coming : contents buf ++ chunks.flatten = rest ++ 0x7e :: frames 0x7e 0x7d toggle (later.map body))
    {after : CircBuf} {commands : List Message} (run : emit dm_recv_chunk buf chunks = .ok (after,commands)) :
    commands.map Message.payload ≠ (src :: later).map .ok := by
  induction chunks generalizing buf lost rest commands with
  | nil =>
    cases run
    simp
  | cons chunk chunks ih =>
    obtain ⟨room,fits⟩ := fits
    have inside := chunk_room valid room
    obtain ⟨next,first,more,called,rest_run,rfl⟩ := emit_cons_ok.mp run
    rw [List.flatten_cons,← List.append_assoc] at coming
    generalize same : contents buf ++ chunk = bytes at coming inside
    have handed : ∀ {msgs left}, call_commands HDLC_BUF_SIZE bytes = .ok (msgs,left) →
        first = msgs ∧ Valid next ∧ contents next = left := by
      intro msgs left handed
      rw [← same] at handed
      obtain ⟨again,recalled,still,drained⟩ := dm_recv_chunk_commands valid room handed
      cases called.symm.trans recalled
      exact ⟨rfl,still,drained⟩
    have unflagged : 0x7e ∉ rest := (flag_not_mem_cut transparent split).2
    -- No flag yet: the call loses more of the frame.
    have dropped : ∀ {left : List UInt8}, rest = bytes ++ left →
        chunks.flatten = left ++ 0x7e :: frames 0x7e 0x7d toggle (later.map body) →
        (first ++ more).map Message.payload ≠ (src :: later).map .ok := by
      intro left restSplit coming
      have free : 0x7e ∉ bytes := fun member => unflagged (by rw [restSplit]; exact List.mem_append_left _ member)
      obtain ⟨rfl,still,drained⟩ := handed (call_commands_open free (Nat.le_of_lt inside) _)
      exact ih still (fits _ _ called) (by rw [split,restSplit,List.append_assoc]) (by simp [some])
        (by rw [drained]; exact coming) rest_run
    rcases List.append_eq_append_iff.mp coming with ⟨left,restSplit,more⟩ | ⟨beyond,bytesSplit,more⟩
    · exact dropped restSplit more
    · cases beyond with
      | nil => exact @dropped [] (by simpa using bytesSplit.symm) (by simpa using more.symm)
      | cons flag beyond =>
        obtain ⟨rfl,later_coming⟩ := List.cons.inj more
        subst bytesSplit
        simp only [List.length_append,List.length_cons] at inside
        by_cases nothing : unstuff 0x7d toggle false rest = []
        · -- The call ends at the flag, and one command is missing.
          obtain ⟨rfl,still,drained⟩ := handed (call_commands_empty unflagged (by omega) nothing _ beyond)
          have most := frames_commands_le still (fits _ _ called) (by rw [drained]; exact later_coming.symm) rest_run
          intro same
          have length := congrArg List.length same
          simp only [List.nil_append,List.length_map,List.length_cons] at most length
          omega
        · obtain ⟨msgs,left,rest_handed,_⟩ := @call_commands_ok (HDLC_BUF_SIZE - 1) beyond (by omega) (by omega)
          have message_first := call_commands_message unflagged (by omega) nothing (HDLC_BUF_SIZE - 1) beyond
          rw [rest_handed] at message_first
          obtain ⟨rfl,_,_⟩ := handed message_first
          intro same
          rw [List.cons_append,List.map_cons,List.map_cons,List.cons.injEq] at same
          exact payload_ne short split some nothing same.1

/-! ## The whole run -/

/-- A client receives the messages, each once and in order, exactly when every
    chunk it reads ends with a flag. -/
theorem dm_stream_iff {msgs : List (List UInt8)} (short : ∀ msg ∈ msgs, msg.length ≤ HDLC_BUF_SIZE - 2) {buf : CircBuf}
    (empty : buf.head = buf.tail) (inside : buf.tail < HDLC_BUF_SIZE) {chunks : List (List UInt8)}
    (cut : chunks.flatten = msgs.flatMap hdlc_encode) (fits : FitsEach buf chunks) :
    ∃ after commands, emit dm_recv_chunk buf chunks = .ok (after,commands) ∧
      (commands.map Message.payload = msgs.map .ok ↔ ∀ chunk ∈ chunks, chunk = [] ∨ chunk.getLast? = some 0x7e) := by
  have valid : Valid buf := ⟨by omega,inside⟩
  have nothing : contents buf = [] := (contents_empty valid).mpr empty.symm
  rw [hdlc_encode_frames] at cut
  clear empty inside
  induction chunks generalizing buf msgs with
  | nil =>
    refine ⟨buf,[],rfl,?_⟩
    have none : msgs = [] := by
      cases msgs with
      | nil => rfl
      | cons src msgs => simp [frames_cons] at cut
    simp [none]
  | cons chunk chunks ih =>
    obtain ⟨room,fits⟩ := fits
    rw [List.flatten_cons] at cut
    obtain ⟨whole,later,lost,bodies,rfl,ends⟩ := frames_cut cut
    obtain ⟨sent,rest,rfl,rfl,rfl⟩ := List.map_eq_append_iff.mp bodies
    obtain ⟨sent_short,rest_short⟩ := List.forall_mem_append.mp short
    have unflagged : 0x7e ∉ lost := by
      rcases ends with ⟨rfl,_⟩ | ⟨_,framed,_,left,_,stuffed,_⟩
      · simp
      · exact (flag_not_mem_cut transparent stuffed).1
    obtain ⟨next,called,still,drained⟩ := dm_recv_chunk_frames valid nothing sent unflagged room
    have payloads := sent_payloads sent_short
    rcases ends with ⟨rfl,coming⟩ | ⟨some,framed,more,left,laterSplit,stuffed,coming⟩
    · obtain ⟨after,commands,run,exact_iff⟩ := ih rest_short coming (fits _ _ called) still drained
      refine ⟨after,_,emit_cons_ok.mpr ⟨next,_,commands,called,run,rfl⟩,?_⟩
      have good : frames 0x7e 0x7d toggle (sent.map body) = [] ∨
          (frames 0x7e 0x7d toggle (sent.map body)).getLast? = some 0x7e := frames_getLast _
      rw [List.map_append,payloads,List.map_append,List.append_cancel_left_eq,exact_iff,List.append_nil,
        List.forall_mem_cons]
      exact ⟨fun rest => ⟨good,rest⟩,fun all => all.2⟩
    · obtain ⟨src,others,rfl,rfl,rfl⟩ := List.map_eq_cons_iff.mp laterSplit
      obtain ⟨after,commands,run,_⟩ := dm_recv_chunks_ok still (fits _ _ called)
      refine ⟨after,_,emit_cons_ok.mpr ⟨next,_,commands,called,run,rfl⟩,?_⟩
      have differ := lost_beginning still (fits _ _ called) (rest_short src List.mem_cons_self) stuffed some
        (by rw [drained]; exact coming) run
      rw [List.map_append,payloads,List.map_append,List.append_cancel_left_eq,List.forall_mem_cons]
      constructor
      · intro same
        exact absurd same differ
      · rintro ⟨bad,_⟩
        -- The chunk ends with a byte of the frame it breaks off.
        obtain ⟨start,last,rfl⟩ := (List.eq_nil_or_concat lost).resolve_left some
        have flag : last = 0x7e := by simpa using bad
        exact absurd (by simp [flag]) unflagged

theorem dm_stream_iff_one_chunk :
    ∃ after commands, emit dm_recv_chunk ⟨fun _ => 0,0,0⟩ [[0x4b,0xaf,0x0c,0x7e]] = .ok (after,commands) ∧
      (commands.map Message.payload = [.ok [0x4b]] ↔
        ∀ chunk ∈ ([[0x4b,0xaf,0x0c,0x7e]] : List (List UInt8)), chunk = [] ∨ chunk.getLast? = some 0x7e) :=
  @dm_stream_iff [[0x4b]] (by decide) ⟨fun _ => 0,0,0⟩ rfl (by decide) _ (by decide +kernel)
    ⟨by decide +kernel,fun _ _ _ => trivial⟩

/-- One message read in two pieces arrives as an empty one. -/
theorem split_message_lost :
    ([[0x4b],[0xaf,0x0c,0x7e]] : List (List UInt8)).flatten = [[0x4b]].flatMap hdlc_encode ∧
      FitsEach ⟨fun _ => 0,0,0⟩ [[0x4b],[0xaf,0x0c,0x7e]] ∧
      (fun r => r.2.map Message.payload) <$> emit dm_recv_chunk ⟨fun _ => 0,0,0⟩ [[0x4b],[0xaf,0x0c,0x7e]] =
        .ok [.ok []] := by
  refine ⟨by decide +kernel,⟨by decide +kernel,?_⟩,by decide +kernel⟩
  intro after commands called
  have space : (fun r => CIRC_SPACE r.1) <$> dm_recv_chunk ⟨fun _ => 0,0,0⟩ [0x4b] = .ok 16383 := by decide +kernel
  rw [called] at space
  have room : CIRC_SPACE after = 16383 := Except.ok.inj space
  exact ⟨by rw [room]; decide,fun _ _ _ => trivial⟩

end DiagRouter.DmStream

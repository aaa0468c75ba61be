import DiagRouter.RingFifo
import DiagRouter.HdlcBounds

/-!
# The data channel of rpmsg

`diag_data_recv_hdlc` reads and decodes until a `read` fails. What a call does
is what its reads do one by one, and so is what a run of calls does, wherever
the `EAGAIN` between them falls: a read that fills the array to its end is
followed by the next one, and every other read by the decoder.
-/
namespace DiagRouter.DataRecv
open DiagRouter.Lib.Memory DiagRouter.Lib.Ring DiagRouter.Lib.Runs DiagRouter.Lib.Stuffing DiagRouter.CircRead DiagRouter.Hdlc
open DiagRouter.HdlcStream (Receiver)
open DiagRouter.HdlcBounds (stored)
open DiagRouter.RingFifo (filled)

/-- What `diag_data_recv_hdlc` returns, what it leaves, and what it has
    broadcast. -/
structure DataRecvResult where
  errno : Nat
  fd : Fd
  peripheral : Receiver
  broadcast : List Message

/-- More rounds than there are reads mean that no read fails. -/
def diag_data_recv_hdlc : Nat → Fd → Receiver → Except Fault DataRecvResult
  | 0, _, _ => .error .hang
  | fuel+1, fd, peripheral =>
    let n := circ_read fd peripheral.recv_buf
    match n.errno with
    | some errno => .ok ⟨errno,n.fd,{ peripheral with recv_buf := n.buf },[]⟩
    | none =>
      decode_until_null HDLC_BUF_SIZE peripheral.recv_decoder n.buf >>= fun (msgs,hdlc,buf) =>
        (fun after => { after with broadcast := msgs ++ after.broadcast }) <$> diag_data_recv_hdlc fuel n.fd ⟨hdlc,buf⟩

/-! ## Calls and reads -/

/-- A descriptor whose reads return these chunks, and then fail with `EAGAIN`. -/
def returning (chunks : List (List UInt8)) : Fd :=
  ⟨chunks.flatten,chunks.map (fun chunk => if chunk = [] then .eof else .upto chunk.length)⟩

/-- A call, on what its reads return before `EAGAIN`. -/
def recv_call (peripheral : Receiver) (chunks : List (List UInt8)) : Except Fault (Receiver × List Message) :=
  (fun after => (after.peripheral,after.broadcast)) <$> diag_data_recv_hdlc (chunks.length + 1) (returning chunks) peripheral

/-- `circ_read` reads again: the chunk was as long as the space up to the end of
    the array, and there is space at its beginning. -/
def ReadsOn (buf : CircBuf) (chunk : List UInt8) : Prop :=
  chunk.length = CIRC_SPACE_TO_END buf ∧ CIRC_SPACE_TO_END (filled buf chunk) ≠ 0

instance (buf : CircBuf) (chunk : List UInt8) : Decidable (ReadsOn buf chunk) :=
  inferInstanceAs (Decidable (chunk.length = CIRC_SPACE_TO_END buf ∧ CIRC_SPACE_TO_END (filled buf chunk) ≠ 0))

/-- One read, up to the next one. -/
def read_step (peripheral : Receiver) (chunk : List UInt8) : Except Fault (Receiver × List Message) :=
  let read := filled peripheral.recv_buf chunk
  if ReadsOn peripheral.recv_buf chunk then .ok ({ peripheral with recv_buf := read },[])
  else
    (fun (msgs,hdlc,buf) => (⟨hdlc,buf⟩,msgs)) <$> decode_until_null HDLC_BUF_SIZE peripheral.recv_decoder read

/-- Where the next read is made. -/
structure Ready (peripheral : Receiver) : Prop where
  valid : Valid peripheral.recv_buf
  room : CIRC_SPACE_TO_END peripheral.recv_buf ≠ 0
  inside : peripheral.recv_decoder.raw.length ≤ HDLC_BUF_SIZE

/-- A read returns no more than it was asked for. -/
def Asked (peripheral : Receiver) (chunk : List UInt8) : Prop := chunk.length ≤ CIRC_SPACE_TO_END peripheral.recv_buf

/-! ## The decoder on what has been read -/

/-- The cursor of `raw_buf` behind these bytes, from `start` on. -/
def cursor (start : Nat) (bytes : List UInt8) : Nat :=
  stored (sinceFlag 0x7e bytes) + if 0x7e ∈ bytes then 0 else start

/-- The decoder comes to a flag with nothing stored, and there is another flag
    behind this one. -/
def FlagBehindEmpty (start : Nat) (bytes : List UInt8) : Prop :=
  ∃ before rest, bytes = before ++ 0x7e :: rest ∧ cursor start before = 0 ∧
    (∀ early, early <+: before → cursor start early ≤ HDLC_BUF_SIZE) ∧ 0x7e ∈ rest

section
variable {start : Nat} {stretch rest : List UInt8}

theorem cursor_free (free : 0x7e ∉ stretch) : cursor start stretch = start + stored stretch := by
  rw [cursor,sinceFlag_free free,if_neg free,Nat.add_comm]

theorem cursor_behind (before more : List UInt8) : cursor start (before ++ 0x7e :: more) = cursor 0 more := by
  have flag : 0x7e ∈ before ++ 0x7e :: more := by simp
  rw [cursor,cursor,sinceFlag_behind,if_pos flag,ite_self]

theorem flag_behind_none {bytes : List UInt8} (free : 0x7e ∉ bytes) : ¬ FlagBehindEmpty start bytes := by
  rintro ⟨before,rest,rfl,_⟩
  exact free (by simp)

/-- The decoder does not come to the end of a stretch that is too long. -/
theorem flag_behind_overrun (free : 0x7e ∉ stretch) (beyond : HDLC_BUF_SIZE < start + stored stretch) :
    ¬ FlagBehindEmpty start (stretch ++ 0x7e :: rest) := by
  rintro ⟨before,after,split,_,roomy,_⟩
  have early : stretch <+: before := by
    rcases flag_cases free split with ⟨rfl,_⟩ | ⟨more,rfl,_⟩
    · exact List.prefix_rfl
    · exact List.prefix_append _ _
  have least := roomy stretch early
  rw [cursor_free free] at least
  omega

theorem cursor_early {early : List UInt8} (free : 0x7e ∉ stretch) (begins : early <+: stretch) :
    cursor start early ≤ start + stored stretch := by
  rw [cursor_free (fun flag => free (begins.subset flag))]
  exact Nat.add_le_add_left (begins.sublist.countP_le) start

/-- It ends at the first flag if nothing is stored there. -/
theorem flag_behind_first (free : 0x7e ∉ stretch) (nothing : start + stored stretch = 0) :
    FlagBehindEmpty start (stretch ++ 0x7e :: rest) ↔ 0x7e ∈ rest := by
  constructor
  · rintro ⟨before,after,split,_,_,flag⟩
    rcases flag_cases free split with ⟨_,rfl⟩ | ⟨more,_,rfl⟩
    · exact flag
    · simp
  · intro flag
    refine ⟨stretch,rest,rfl,(cursor_free free).trans nothing,?_,flag⟩
    intro early begins
    have most := @cursor_early start _ _ free begins
    omega

/-- Otherwise it goes on behind the first flag, with nothing stored. -/
theorem flag_behind_next (free : 0x7e ∉ stretch) (some : start + stored stretch ≠ 0) (fits : start + stored stretch ≤ HDLC_BUF_SIZE) :
    FlagBehindEmpty start (stretch ++ 0x7e :: rest) ↔ FlagBehindEmpty 0 rest := by
  constructor
  · rintro ⟨before,after,split,nothing,roomy,flag⟩
    rcases flag_cases free split with ⟨rfl,rfl⟩ | ⟨more,rfl,rfl⟩
    · rw [cursor_free free] at nothing
      exact absurd nothing some
    · rw [cursor_behind] at nothing
      refine ⟨more,after,rfl,nothing,?_,flag⟩
      rintro early ⟨late,rfl⟩
      rw [← @cursor_behind start stretch]
      exact roomy _ ⟨late,by simp⟩
  · rintro ⟨more,after,rfl,nothing,roomy,flag⟩
    refine ⟨stretch ++ 0x7e :: more,after,by simp,(cursor_behind stretch more).trans nothing,?_,flag⟩
    intro early begins
    rcases List.prefix_or_prefix_of_prefix begins (List.prefix_append stretch (0x7e :: more)) with inside | ⟨late,rfl⟩
    · exact (cursor_early free inside).trans fits
    · have others := (List.prefix_append_right_inj stretch).mp begins
      cases late with
      | nil =>
        rw [List.append_nil]
        exact (cursor_early free List.prefix_rfl).trans fits
      | cons ch late =>
        obtain ⟨rfl,shorter⟩ := List.cons_prefix_cons.mp others
        rw [cursor_behind]
        exact roomy late shorter

/-- A scan stores a stretch without flags, if it fits. -/
theorem scan_free (free : 0x7e ∉ stretch) {hdlc : HdlcDecoder} (inside : hdlc.raw.length ≤ HDLC_BUF_SIZE) (rest : List UInt8) :
    (HDLC_BUF_SIZE < hdlc.raw.length + stored stretch ∧ scan hdlc (stretch ++ rest) = .error .outOfBounds) ∨
    ∃ after, after.raw.length = hdlc.raw.length + stored stretch ∧ after.raw.length ≤ HDLC_BUF_SIZE ∧
      scan hdlc (stretch ++ rest) = scan after rest := by
  induction stretch generalizing hdlc with
  | nil => exact .inr ⟨hdlc,rfl,inside,rfl⟩
  | cons ch stretch ih =>
    simp only [List.mem_cons,not_or] at free
    rw [List.cons_append,scan,if_neg (Ne.symm free.1)]
    by_cases escape : ch = 0x7d
    · have count : stored (ch :: stretch) = stored stretch := by simp [stored,escape]
      rw [if_pos escape,count]
      exact @ih free.2 { hdlc with escape := 0x20 } inside
    · have count : stored (ch :: stretch) = stored stretch + 1 := by simp [stored,escape]
      rw [if_neg escape,count,raw_store]
      by_cases room : hdlc.raw.length < HDLC_BUF_SIZE
      · have length : (hdlc.raw ++ [ch ^^^ hdlc.escape]).length = hdlc.raw.length + 1 := by simp
        have next := @ih free.2 ⟨hdlc.raw ++ [ch ^^^ hdlc.escape],0⟩ (by rw [length]; exact room)
        rw [length,Nat.add_assoc,Nat.add_comm 1] at next
        rw [if_pos room]
        exact next
      · rw [if_neg room]
        exact .inl ⟨by omega,rfl⟩

end

/-- Decoding until NULL leaves `raw_buf`, or ends with flags left exactly behind
    an empty frame. -/
theorem until_null_flags {fuel : Nat} {bytes : List UInt8} (enough : bytes.length < fuel) {hdlc : HdlcDecoder}
    (inside : hdlc.raw.length ≤ HDLC_BUF_SIZE) :
    (scan_until_null fuel hdlc bytes = .error .outOfBounds ∧ ¬ FlagBehindEmpty hdlc.raw.length bytes) ∨
    ∃ msgs decoder left, scan_until_null fuel hdlc bytes = .ok (msgs,decoder,left) ∧ decoder.raw.length ≤ HDLC_BUF_SIZE ∧
      left.length ≤ bytes.length - 1 ∧ (0x7e ∈ left ↔ FlagBehindEmpty hdlc.raw.length bytes) := by
  induction fuel generalizing bytes hdlc with
  | zero => exact absurd enough (Nat.not_lt_zero _)
  | succ fuel ih =>
    rw [scan_until_null,scan_one]
    by_cases flag : 0x7e ∈ bytes
    · obtain ⟨stretch,rest,rfl,free⟩ := List.eq_append_cons_of_mem flag
      have length : rest.length < (stretch ++ 0x7e :: rest).length := by
        simp only [List.length_append,List.length_cons]
        omega
      rcases scan_free free inside (0x7e :: rest) with ⟨beyond,overrun⟩ | ⟨closed,count,fits,scanned⟩
      · exact .inl ⟨by rw [overrun]; rfl,flag_behind_overrun free beyond⟩
      · have ended : scan closed (0x7e :: rest) = .ok (true,closed,rest) := rfl
        rw [scanned,ended]
        by_cases empty : closed.raw = []
        · rw [empty,List.length_nil] at count
          refine .inr ⟨[],closed,rest,?_,fits,by omega,(flag_behind_first free count.symm).symm⟩
          simp [decode_end,empty]
        · have some : hdlc.raw.length + stored stretch ≠ 0 := by
            rw [← count]
            exact fun none => empty (List.eq_nil_of_length_eq_zero none)
          have next := @flag_behind_next _ _ rest free some (count ▸ fits)
          have one : decode_end (true,closed,rest) = (Option.some ⟨closed.raw,size_t (closed.raw.length - 2)⟩,.zeroed,rest) := by
            simp [decode_end,empty]
          rcases @ih rest (by omega) .zeroed (Nat.zero_le _) with ⟨overrun,none⟩ | ⟨msgs,decoder,left,decoded,within,fewer,flags⟩
          · refine .inl ⟨?_,fun behind => none (next.mp behind)⟩
            simp only [map_ok,map_error,one,ok_bind,overrun]
          · refine .inr ⟨⟨closed.raw,size_t (closed.raw.length - 2)⟩ :: msgs,decoder,left,?_,within,by omega,flags.trans next.symm⟩
            simp only [map_ok,one,ok_bind,decoded]
    · rcases scan_free flag inside [] with ⟨_,overrun⟩ | ⟨left,_,fits,scanned⟩
      · rw [List.append_nil] at overrun
        exact .inl ⟨by rw [overrun]; rfl,flag_behind_none flag⟩
      · rw [List.append_nil] at scanned
        refine .inr ⟨[],left,[],?_,fits,Nat.zero_le _,?_⟩
        · rw [scanned]
          rfl
        · simp [flag_behind_none flag]

/-! ## One read -/

section
variable {peripheral : Receiver} {buf : CircBuf} {chunk : List UInt8} {chunks : List (List UInt8)}

theorem room_iff (valid : Valid buf) : CIRC_SPACE_TO_END buf ≠ 0 ↔ (contents buf).length < HDLC_BUF_SIZE - 1 := by
  have space := circ_space_to_end_eq valid
  have head := valid.head
  omega

/-- A flag that the decoder does not come to before the next read: it is not
    called, or it ends at an empty frame. -/
def OutOfReach (peripheral : Receiver) (chunk : List UInt8) : Prop :=
  if ReadsOn peripheral.recv_buf chunk then 0x7e ∈ contents peripheral.recv_buf ++ chunk
  else FlagBehindEmpty peripheral.recv_decoder.raw.length (contents peripheral.recv_buf ++ chunk)

theorem read_step_on (on : ReadsOn peripheral.recv_buf chunk) :
    read_step peripheral chunk = .ok ({ peripheral with recv_buf := filled peripheral.recv_buf chunk },[]) := by
  rw [read_step]
  dsimp only
  rw [if_pos on]

theorem read_step_decodes (on : ¬ ReadsOn peripheral.recv_buf chunk) :
    read_step peripheral chunk = (fun (msgs,hdlc,buf) => (⟨hdlc,buf⟩,msgs)) <$>
      decode_until_null HDLC_BUF_SIZE peripheral.recv_decoder (filled peripheral.recv_buf chunk) := by
  rw [read_step]
  dsimp only
  rw [if_neg on]

theorem read_step_ready (ready : Ready peripheral) (asked : Asked peripheral chunk) :
    (read_step peripheral chunk = .error .outOfBounds ∧ ¬ OutOfReach peripheral chunk) ∨
    ∃ after msgs, read_step peripheral chunk = .ok (after,msgs) ∧ Ready after ∧
      (0x7e ∈ contents after.recv_buf ↔ OutOfReach peripheral chunk) := by
  obtain ⟨still,appended⟩ := filled_contents ready.valid asked
  change Valid (filled peripheral.recv_buf chunk) at still
  change contents (filled peripheral.recv_buf chunk) = _ at appended
  have bound := contents_lt still
  by_cases on : ReadsOn peripheral.recv_buf chunk
  · refine .inr ⟨_,[],read_step_on on,⟨still,on.2,ready.inside⟩,?_⟩
    rw [OutOfReach,if_pos on,← appended]
  · have step := read_step_decodes on
    have follows := until_null_follows HDLC_BUF_SIZE peripheral.recv_decoder still
    rcases until_null_flags bound ready.inside with ⟨overrun,none⟩ | ⟨msgs,decoder,left,ended,fits,fewer,flags⟩
    · rw [overrun] at follows
      refine .inl ⟨by rw [step,follows.of_error]; rfl,?_⟩
      rw [OutOfReach,if_neg on,← appended]
      exact none
    · rw [ended] at follows
      obtain ⟨ring,decoded,valid,rfl⟩ := follows.of_ok
      refine .inr ⟨⟨decoder,ring⟩,msgs,by rw [step,decoded]; rfl,⟨valid,?_,fits⟩,?_⟩
      · rw [room_iff valid]
        unfold HDLC_BUF_SIZE at *
        omega
      · rw [OutOfReach,if_neg on,← appended]
        exact flags

/-! ## A call is its reads -/

/-- `circ_read` takes the next chunk, and reads on or returns 0. -/
theorem circ_read_returning (ready : Ready peripheral) (asked : Asked peripheral chunk) :
    circ_read (returning (chunk :: chunks)) peripheral.recv_buf =
      if ReadsOn peripheral.recv_buf chunk then circ_read (returning chunks) (filled peripheral.recv_buf chunk)
      else ⟨none,returning chunks,filled peripheral.recv_buf chunk⟩ := by
  have room := ready.room
  rw [circ_read,returning,List.flatten_cons,List.map_cons]
  by_cases nothing : chunk = []
  · subst nothing
    have short : ¬ ReadsOn peripheral.recv_buf [] := fun on => room on.1.symm
    rw [if_neg short,if_pos rfl,circ_read_loop,RingFifo.filled_nil ready.valid]
    dsimp only
    rw [if_neg room]
    rfl
  · have all : min chunk.length (CIRC_SPACE_TO_END peripheral.recv_buf) = chunk.length := Nat.min_eq_left asked
    have some : chunk ++ chunks.flatten ≠ [] := by simp [nothing]
    rw [if_neg nothing,circ_read_loop]
    dsimp only
    rw [if_neg room,if_neg some,all,List.take_left,List.drop_left]
    by_cases whole : chunk.length = CIRC_SPACE_TO_END peripheral.recv_buf
    · rw [if_pos whole]
      by_cases more : CIRC_SPACE_TO_END (filled peripheral.recv_buf chunk) = 0
      · have stops : ¬ ReadsOn peripheral.recv_buf chunk := fun on => on.2 more
        rw [if_neg stops]
        change circ_read_loop _ _ (filled peripheral.recv_buf chunk) = _
        unfold circ_read_loop
        dsimp only
        rw [if_pos more]
        rfl
      · rw [if_pos ⟨whole,more⟩]
        rfl
    · have stops : ¬ ReadsOn peripheral.recv_buf chunk := fun on => whole on.1
      rw [if_neg whole,if_neg stops]
      rfl

theorem circ_read_again (ready : Ready peripheral) :
    circ_read (returning []) peripheral.recv_buf = ⟨some EAGAIN,returning [],peripheral.recv_buf⟩ := by
  change circ_read_loop [] [] peripheral.recv_buf = _
  unfold circ_read_loop
  dsimp only
  rw [if_neg ready.room]
  rfl

/-- `read_step` without what it broadcasts. -/
def next (peripheral : Receiver) (chunk : List UInt8) : Except Fault Receiver := Prod.fst <$> read_step peripheral chunk

theorem next_ok {after : Receiver} : next peripheral chunk = .ok after ↔ ∃ msgs, read_step peripheral chunk = .ok (after,msgs) := by
  rw [next,map_eq_ok]
  constructor
  · rintro ⟨⟨_,msgs⟩,step,rfl⟩
    exact ⟨msgs,step⟩
  · rintro ⟨msgs,step⟩
    exact ⟨_,step,rfl⟩

theorem exec_next {after : Receiver} :
    exec next peripheral chunks = .ok after ↔ ∃ msgs, emit read_step peripheral chunks = .ok (after,msgs) := by
  have same : exec next peripheral chunks = Prod.fst <$> emit read_step peripheral chunks := exec_fst peripheral chunks
  rw [same,map_eq_ok]
  constructor
  · rintro ⟨⟨_,msgs⟩,ran,rfl⟩
    exact ⟨msgs,ran⟩
  · rintro ⟨msgs,ran⟩
    exact ⟨_,ran,rfl⟩

theorem next_ready {after : Receiver} (ready : Ready peripheral) (asked : Asked peripheral chunk)
    (step : next peripheral chunk = .ok after) :
    Ready after ∧ (0x7e ∈ contents after.recv_buf ↔ OutOfReach peripheral chunk) := by
  obtain ⟨msgs,step⟩ := next_ok.mp step
  rcases read_step_ready ready asked with ⟨overrun,_⟩ | ⟨_,_,again,still,flags⟩
  · cases overrun.symm.trans step
  · cases again.symm.trans step
    exact ⟨still,flags⟩

/-- A call does what its reads do, and returns when they fail. -/
theorem recv_reads {fuel : Nat} (ready : Ready peripheral) (asked : Meets next Asked peripheral chunks) (enough : chunks.length < fuel) :
    diag_data_recv_hdlc fuel (returning chunks) peripheral =
      (fun (after,msgs) => ⟨EAGAIN,returning [],after,msgs⟩) <$> emit read_step peripheral chunks := by
  induction chunks generalizing peripheral fuel with
  | nil =>
    obtain ⟨fuel,rfl⟩ := Nat.exists_eq_succ_of_ne_zero (Nat.ne_of_gt enough)
    rw [diag_data_recv_hdlc,circ_read_again ready]
    rfl
  | cons chunk chunks ih =>
    obtain ⟨fuel,rfl⟩ := Nat.exists_eq_succ_of_ne_zero (by omega : fuel ≠ 0)
    rw [List.length_cons] at enough
    obtain ⟨now,later⟩ := asked
    have ready_next : ∀ after, next peripheral chunk = .ok after → Ready after := fun after step => (next_ready ready now step).1
    by_cases on : ReadsOn peripheral.recv_buf chunk
    · have same : diag_data_recv_hdlc (fuel + 1) (returning (chunk :: chunks)) peripheral =
          diag_data_recv_hdlc (fuel + 1) (returning chunks) { peripheral with recv_buf := filled peripheral.recv_buf chunk } := by
        rw [diag_data_recv_hdlc,circ_read_returning ready now,if_pos on]
        rfl
      have stepped := next_ok.mpr ⟨_,read_step_on on⟩
      rw [same,ih (ready_next _ stepped) (later _ stepped) (by omega),emit_cons,read_step_on on,ok_bind]
      cases emit read_step _ chunks with
      | error e => rfl
      | ok ended => rfl
    · rw [diag_data_recv_hdlc,circ_read_returning ready now,if_neg on,emit_cons]
      have step := read_step_decodes on
      dsimp only
      cases decoded : decode_until_null HDLC_BUF_SIZE peripheral.recv_decoder (filled peripheral.recv_buf chunk) with
      | error e =>
        rw [step,decoded]
        rfl
      | ok answer =>
        obtain ⟨msgs,hdlc,buf⟩ := answer
        have ran : read_step peripheral chunk = .ok (⟨hdlc,buf⟩,msgs) := by
          rw [step,decoded]
          rfl
        have stepped := next_ok.mpr ⟨msgs,ran⟩
        rw [ok_bind,ran,ok_bind]
        dsimp only
        rw [ih (ready_next _ stepped) (later _ stepped) (by omega)]
        cases emit read_step ⟨hdlc,buf⟩ chunks with
        | error e => rfl
        | ok ended => rfl

theorem exec_ready {after : Receiver} (ready : Ready peripheral) (asked : Meets next Asked peripheral chunks)
    (ran : exec next peripheral chunks = .ok after) : Ready after := by
  induction chunks generalizing peripheral with
  | nil =>
    cases ran
    exact ready
  | cons chunk chunks ih =>
    obtain ⟨mid,step,rest⟩ := bind_eq_ok.mp ran
    exact ih (next_ready ready asked.1 step).1 (asked.2 mid step) rest

/-- A call returns, or leaves `raw_buf`. -/
theorem reads_end (ready : Ready peripheral) (asked : Meets next Asked peripheral chunks) :
    emit read_step peripheral chunks = .error .outOfBounds ∨ ∃ after msgs, emit read_step peripheral chunks = .ok (after,msgs) := by
  induction chunks generalizing peripheral with
  | nil => exact .inr ⟨peripheral,[],rfl⟩
  | cons chunk chunks ih =>
    obtain ⟨now,later⟩ := asked
    rcases read_step_ready ready now with ⟨overrun,_⟩ | ⟨after,msgs,step,still,_⟩
    · exact .inl (by rw [emit_cons,overrun]; rfl)
    · rcases ih still (later after (next_ok.mpr ⟨msgs,step⟩)) with overrun | ⟨final,more,ran⟩
      · exact .inl (by rw [emit_cons,step,ok_bind,overrun]; rfl)
      · exact .inr ⟨final,msgs ++ more,emit_cons_ok.mpr ⟨after,msgs,more,step,ran,rfl⟩⟩

theorem call_reads (ready : Ready peripheral) (asked : Meets next Asked peripheral chunks) :
    recv_call peripheral chunks = emit read_step peripheral chunks := by
  rw [recv_call,recv_reads ready asked (Nat.lt_succ_self _)]
  cases emit read_step peripheral chunks with
  | error e => rfl
  | ok ended => rfl

/-- Where the calls begin and end does not matter. -/
theorem calls_reads {calls : List (List (List UInt8))} (ready : Ready peripheral)
    (asked : Meets next Asked peripheral calls.flatten) :
    emit recv_call peripheral calls = emit read_step peripheral calls.flatten := by
  induction calls generalizing peripheral with
  | nil => rfl
  | cons chunks calls ih =>
    rw [List.flatten_cons,meets_append] at asked
    obtain ⟨now,later⟩ := asked
    rw [List.flatten_cons,emit_append,emit_cons,call_reads ready now]
    cases ran : emit read_step peripheral chunks with
    | error e => rfl
    | ok ended =>
      have reached := exec_next.mpr ⟨ended.2,ran⟩
      rw [ok_bind,ok_bind,ih (exec_ready ready now reached) (later _ reached)]

end

/-! ## Runs -/

/-- After these calls no frame whose flag has been read is left in the ring; or
    one of them has left `raw_buf`. -/
def LeavesNoFlag (peripheral : Receiver) (calls : List (List (List UInt8))) : Prop :=
  emit recv_call peripheral calls = .error .outOfBounds ∨
    ∃ after msgs, emit recv_call peripheral calls = .ok (after,msgs) ∧ 0x7e ∉ contents after.recv_buf

/-- The reads of a run leave no flag in the ring, wherever `EAGAIN` ends a call,
    exactly when the decoder comes to every flag before the next read. -/
theorem leaves_no_flag_iff {peripheral : Receiver} (ready : Ready peripheral) (free : 0x7e ∉ contents peripheral.recv_buf)
    {reads : List (List UInt8)} (asked : Meets next Asked peripheral reads) :
    (∀ calls : List (List (List UInt8)), calls.flatten <+: reads → LeavesNoFlag peripheral calls) ↔
      Meets next (fun peripheral chunk => ¬ OutOfReach peripheral chunk) peripheral reads := by
  have asked_early : ∀ {early}, early <+: reads → Meets next Asked peripheral early := by
    rintro early ⟨rest,rfl⟩
    exact (meets_append.mp asked).1
  have along : Along next (fun after => 0x7e ∉ contents after.recv_buf) peripheral reads ↔
      Meets next (fun peripheral chunk => ¬ OutOfReach peripheral chunk) peripheral reads := by
    refine along_iff_meets_where Ready (fun ready asked step => (next_ready ready asked step).1) ?_ ready asked free
    intro before chunk ready asked _
    constructor
    · intro reach after step
      rwa [(next_ready ready asked step).2]
    · intro all
      rcases read_step_ready ready asked with ⟨_,reach⟩ | ⟨after,msgs,step,_,flags⟩
      · exact reach
      · rw [← flags]
        exact all after (next_ok.mpr ⟨msgs,step⟩)
  rw [← along,along_iff_prefixes]
  constructor
  · intro all early start after ran
    obtain ⟨msgs,reads_early⟩ := exec_next.mp ran
    have flat : [early].flatten = early := by simp
    -- One call with these reads returns there.
    have called := @calls_reads peripheral [early] ready (by rw [flat]; exact asked_early start)
    rw [flat,reads_early] at called
    rcases all [early] (by rwa [flat]) with overrun | ⟨_,_,again,none⟩
    · cases overrun.symm.trans called
    · cases again.symm.trans called
      exact none
  · intro all calls start
    rw [LeavesNoFlag,calls_reads ready (asked_early start)]
    refine (reads_end ready (asked_early start)).imp_right ?_
    rintro ⟨after,msgs,ran⟩
    exact ⟨after,msgs,ran,all _ start after (exec_next.mpr ⟨msgs,ran⟩)⟩

/-- A peripheral that has received nothing, with its ring empty at `index`. -/
def fresh (index : Nat) : Receiver := ⟨.zeroed,⟨fun _ => 0,index,index⟩⟩

theorem fresh_ready {index : Nat} (inside : index < HDLC_BUF_SIZE) :
    Ready (fresh index) ∧ contents (fresh index).recv_buf = [] := by
  have valid : Valid (fresh index).recv_buf := ⟨inside,inside⟩
  have empty : contents (fresh index).recv_buf = [] := (contents_empty valid).mpr rfl
  exact ⟨⟨valid,(room_iff valid).mpr (by rw [empty]; decide),Nat.zero_le _⟩,empty⟩

/-- One frame, in one read. -/
theorem leaves_no_flag_iff_frame :
    (∀ calls : List (List (List UInt8)), calls.flatten <+: [hdlc_encode [0x4b]] → LeavesNoFlag (fresh 0) calls) ↔
      Meets next (fun peripheral chunk => ¬ OutOfReach peripheral chunk) (fresh 0) [hdlc_encode [0x4b]] := by
  obtain ⟨ready,empty⟩ := @fresh_ready 0 (by decide)
  exact @leaves_no_flag_iff (fresh 0) ready (by simp [empty]) [hdlc_encode [0x4b]] ⟨by unfold Asked; decide +kernel,fun _ _ => trivial⟩

/-- A frame behind a flag of its own stays in the ring, and so does one whose
    last byte is the last of the array. -/
theorem frame_stays :
    (fun ended => contents ended.1.recv_buf) <$> emit recv_call (fresh 0) [[0x7e :: hdlc_encode [0x4b]]] =
      .ok (hdlc_encode [0x4b]) ∧
    ¬ LeavesNoFlag (fresh 0) [[0x7e :: hdlc_encode [0x4b]]] ∧
    (fun ended => contents ended.1.recv_buf) <$> emit recv_call (fresh 16380) [[hdlc_encode [0x4b]]] = .ok (hdlc_encode [0x4b]) ∧
    ¬ LeavesNoFlag (fresh 16380) [[hdlc_encode [0x4b]]] := by
  have flagged : (fun ended => contents ended.1.recv_buf) <$> emit recv_call (fresh 0) [[0x7e :: hdlc_encode [0x4b]]] =
      .ok (hdlc_encode [0x4b]) := by decide +kernel
  have last : (fun ended => contents ended.1.recv_buf) <$> emit recv_call (fresh 16380) [[hdlc_encode [0x4b]]] =
      .ok (hdlc_encode [0x4b]) := by decide +kernel
  have stays : ∀ {peripheral calls}, (fun ended => contents ended.1.recv_buf) <$> emit recv_call peripheral calls =
      .ok (hdlc_encode [0x4b]) → ¬ LeavesNoFlag peripheral calls := by
    rintro peripheral calls left (overrun | ⟨after,msgs,called,none⟩)
    · rw [overrun] at left
      cases left
    · rw [called] at left
      have holds : contents after.recv_buf = hdlc_encode [0x4b] := Except.ok.inj left
      rw [holds] at none
      exact none (by decide +kernel)
  exact ⟨flagged,stays flagged,last,stays last⟩

end DiagRouter.DataRecv

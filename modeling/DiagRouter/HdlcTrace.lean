import DiagRouter.HdlcBounds

/-!
# The decoder as a fold

Whatever the reads and the calls of the decoder are, its state and the messages
it has returned are a fold over the bytes it has taken, as long as they fit
`raw_buf`.
-/
namespace DiagRouter.HdlcTrace
open DiagRouter.Lib.Memory DiagRouter.Lib.Runs DiagRouter.Lib.Stuffing DiagRouter.CircRead DiagRouter.Hdlc
open DiagRouter.HdlcBounds

/-- One byte, to the decoder and the messages so far. -/
def feed (state : HdlcDecoder × List Message) (ch : UInt8) : HdlcDecoder × List Message :=
  if ch = 0x7e then
    let (msg,hdlc,_) := decode_end (true,state.1,())
    (hdlc,state.2 ++ msg.toList)
  else if ch = 0x7d then ({ state.1 with escape := 0x20 },state.2)
  else (⟨state.1.raw ++ [ch ^^^ state.1.escape],0⟩,state.2)

def trace (bytes : List UInt8) : HdlcDecoder × List Message := bytes.foldl feed (.zeroed,[])

@[simp] theorem trace_nil : trace [] = (.zeroed,[]) := rfl

@[simp] theorem trace_concat (bytes : List UInt8) (ch : UInt8) : trace (bytes ++ [ch]) = feed (trace bytes) ch := by
  rw [trace,List.foldl_append]
  rfl

theorem feed_flag (state : HdlcDecoder × List Message) :
    feed state 0x7e = ((decode_end (true,state.1,())).2.1,state.2 ++ (decode_end (true,state.1,())).1.toList) := rfl

theorem feed_escape (state : HdlcDecoder × List Message) : feed state 0x7d = ({ state.1 with escape := 0x20 },state.2) := rfl

theorem feed_byte {ch : UInt8} (notFlag : ch ≠ 0x7e) (notEsc : ch ≠ 0x7d) (state : HdlcDecoder × List Message) :
    feed state ch = (⟨state.1.raw ++ [ch ^^^ state.1.escape],0⟩,state.2) := by
  rw [feed,if_neg notFlag,if_neg notEsc]

/-- A flag empties `raw_buf`. -/
theorem feed_flag_raw (state : HdlcDecoder × List Message) : (feed state 0x7e).1.raw = [] := by
  by_cases nothing : state.1.raw = []
  · simp [feed_flag,decode_end,nothing]
  · simp [feed_flag,decode_end,nothing,HdlcDecoder.zeroed]

/-- The cursor counts the bytes of the open stretch. -/
theorem trace_count (bytes : List UInt8) : (trace bytes).1.raw.length = stored (sinceFlag 0x7e bytes) := by
  induction bytes using List.reverseRecOn with
  | nil => rfl
  | append_singleton bytes ch ih =>
    rw [trace_concat]
    by_cases flag : ch = 0x7e
    · subst flag
      rw [feed_flag_raw,stored_flag]
      rfl
    · by_cases escape : ch = 0x7d
      · subst escape
        rw [feed_escape,stored_escape]
        exact ih
      · rw [feed_byte flag escape,stored_byte flag escape,← ih]
        simp

/-- No stretch of the bytes is too long for `raw_buf`. -/
def Roomy (bytes : List UInt8) : Prop := ∀ early, early <+: bytes → stored (sinceFlag 0x7e early) ≤ HDLC_BUF_SIZE

theorem roomy_nil : Roomy [] := by
  intro early start
  rw [List.prefix_nil.mp start]
  exact Nat.zero_le _

theorem roomy_concat {bytes : List UInt8} {ch : UInt8} :
    Roomy (bytes ++ [ch]) ↔ Roomy bytes ∧ stored (sinceFlag 0x7e (bytes ++ [ch])) ≤ HDLC_BUF_SIZE := by
  constructor
  · intro roomy
    exact ⟨fun early start => roomy early (start.trans (List.prefix_append _ _)),roomy _ List.prefix_rfl⟩
  · rintro ⟨roomy,last⟩ early start
    rcases List.prefix_concat_iff.mp start with rfl | before
    · exact last
    · exact roomy early before

theorem Roomy.mono {bytes early : List UInt8} (roomy : Roomy bytes) (start : early <+: bytes) : Roomy early :=
  fun _ first => roomy _ (first.trans start)

theorem stored_since_le (bytes : List UInt8) : stored (sinceFlag 0x7e bytes) ≤ bytes.length := by
  obtain ⟨before,split,_⟩ := sinceFlag_split 0x7e bytes
  have length := congrArg List.length split
  have counted : stored (sinceFlag 0x7e bytes) ≤ (sinceFlag 0x7e bytes).length := List.countP_le_length
  rw [List.length_append] at length
  omega

/-- Bytes that are short enough for `raw_buf` have no stretch that is not. -/
theorem roomy_of_length {bytes : List UInt8} (short : bytes.length ≤ HDLC_BUF_SIZE) : Roomy bytes := by
  intro early start
  exact ((stored_since_le early).trans start.length_le).trans short

/-! ## One scan -/

/-- How a scan of `bytes` ends after `consumed`: at their end, at their first
    flag, or with one byte more than there is room for. -/
inductive Traced (consumed bytes : List UInt8) : Except Fault (Bool × HdlcDecoder × List UInt8) → Prop
  | drained (free : 0x7e ∉ bytes) (roomy : Roomy (consumed ++ bytes))
      (quiet : (trace (consumed ++ bytes)).2 = (trace consumed).2) :
      Traced consumed bytes (.ok (false,(trace (consumed ++ bytes)).1,[]))
  | closed {stretch rest : List UInt8} (split : bytes = stretch ++ 0x7e :: rest) (free : 0x7e ∉ stretch)
      (roomy : Roomy (consumed ++ stretch)) (quiet : (trace (consumed ++ stretch)).2 = (trace consumed).2) :
      Traced consumed bytes (.ok (true,(trace (consumed ++ stretch)).1,rest))
  | overrun {early : List UInt8} (start : early <+: bytes) (beyond : HDLC_BUF_SIZE < stored (sinceFlag 0x7e (consumed ++ early))) :
      Traced consumed bytes (.error .outOfBounds)

theorem Traced.cons {consumed bytes : List UInt8} {ch : UInt8} {result : Except Fault (Bool × HdlcDecoder × List UInt8)}
    (notFlag : ch ≠ 0x7e) (quiet : (trace (consumed ++ [ch])).2 = (trace consumed).2)
    (traced : Traced (consumed ++ [ch]) bytes result) : Traced consumed (ch :: bytes) result := by
  have shift : ∀ more, consumed ++ [ch] ++ more = consumed ++ ch :: more := fun more => by simp
  cases traced with
  | drained free roomy same =>
    rw [shift] at roomy same ⊢
    exact .drained (by simp [free,Ne.symm notFlag]) roomy (same.trans quiet)
  | @closed stretch rest split free roomy same =>
    rw [shift] at roomy same ⊢
    exact .closed (congrArg (ch :: ·) split) (by simp [free,Ne.symm notFlag]) roomy (same.trans quiet)
  | @overrun early start beyond =>
    rw [shift] at beyond
    exact .overrun (List.cons_prefix_cons.mpr ⟨rfl,start⟩) beyond

theorem scan_traced (bytes : List UInt8) {consumed : List UInt8} (roomy : Roomy consumed) :
    Traced consumed bytes (scan (trace consumed).1 bytes) := by
  induction bytes generalizing consumed with
  | nil =>
    have ended : Traced consumed [] (.ok (false,(trace (consumed ++ [])).1,[])) :=
      .drained (by simp) (by simpa using roomy) (by simp)
    rwa [List.append_nil] at ended
  | cons ch bytes ih =>
    rw [scan]
    split_ifs with flag escape
    · subst flag
      have ended : Traced consumed (0x7e :: bytes) (.ok (true,(trace (consumed ++ [])).1,bytes)) :=
        .closed (List.nil_append _).symm (by simp) (by simpa using roomy) (by simp)
      rwa [List.append_nil] at ended
    · subst escape
      have state : (trace (consumed ++ [0x7d])).1 = { (trace consumed).1 with escape := 0x20 } := by
        rw [trace_concat,feed_escape]
      rw [← state]
      refine .cons flag (by rw [trace_concat,feed_escape]) (ih (roomy_concat.mpr ⟨roomy,?_⟩))
      rw [stored_escape]
      exact roomy _ List.prefix_rfl
    · have byte := feed_byte flag escape (trace consumed)
      have count := trace_count consumed
      by_cases room : (trace consumed).1.raw.length < HDLC_BUF_SIZE
      · rw [raw_store,if_pos room,ok_bind]
        have state : (trace (consumed ++ [ch])).1 = ⟨(trace consumed).1.raw ++ [ch ^^^ (trace consumed).1.escape],0⟩ := by
          rw [trace_concat,byte]
        rw [← state]
        refine .cons flag (by rw [trace_concat,byte]) (ih (roomy_concat.mpr ⟨roomy,?_⟩))
        rw [stored_byte flag escape]
        omega
      · rw [raw_store,if_neg room]
        refine .overrun (List.prefix_append [ch] bytes) ?_
        rw [stored_byte flag escape]
        omega

/-- One call takes bytes up to a flag, or all there are, and returns what the
    fold adds; or it leaves `raw_buf`. -/
theorem scan_one_traced (bytes : List UInt8) {consumed : List UInt8} (roomy : Roomy consumed) :
    (∃ answer taken rest, bytes = taken ++ rest ∧ scan_one (trace consumed).1 bytes = .ok (answer,(trace (consumed ++ taken)).1,rest) ∧
      (trace (consumed ++ taken)).2 = (trace consumed).2 ++ answer.toList ∧ Roomy (consumed ++ taken) ∧
      (0x7e ∈ taken → taken.getLast? = some 0x7e)) ∨
    (scan_one (trace consumed).1 bytes = .error .outOfBounds ∧
      ∃ early, early <+: bytes ∧ HDLC_BUF_SIZE < stored (sinceFlag 0x7e (consumed ++ early))) := by
  have traced := scan_traced bytes roomy
  rw [scan_one]
  generalize scan (trace consumed).1 bytes = result at traced ⊢
  cases traced with
  | drained free fits quiet =>
    exact .inl ⟨none,bytes,[],by simp,rfl,by simpa using quiet,fits,fun member => absurd member free⟩
  | @closed stretch rest split free fits quiet =>
    have taken : bytes = (stretch ++ [0x7e]) ++ rest := by simpa using split
    have ended := feed_flag (trace (consumed ++ stretch))
    rw [← trace_concat,List.append_assoc] at ended
    refine .inl ⟨(decode_end (true,(trace (consumed ++ stretch)).1,())).1,stretch ++ [0x7e],rest,taken,?_,?_,?_,by simp⟩
    · rw [ended]
      by_cases nothing : (trace (consumed ++ stretch)).1.raw = []
      · simp [decode_end,nothing]
      · simp [decode_end,nothing]
    · rw [ended,quiet]
    · rw [← List.append_assoc]
      refine roomy_concat.mpr ⟨fits,?_⟩
      rw [stored_flag]
      exact Nat.zero_le _
  | @overrun early start beyond => exact .inr ⟨rfl,early,start,beyond⟩

/-! ## Runs on a wire -/

/-- Where a wire stands in its stream, and what it has returned. -/
structure Reached (stream consumed : List UInt8) (returned : List Message) (wire : Wire) : Prop where
  valid : Valid wire.receiver.recv_buf
  place : stream = consumed ++ (contents wire.receiver.recv_buf ++ wire.waiting)
  state : trace consumed = (wire.receiver.recv_decoder,returned)
  roomy : Roomy consumed

theorem reached_start {buf : CircBuf} (empty : buf.head = buf.tail) (inside : buf.tail < HDLC_BUF_SIZE)
    (stream : List UInt8) : Reached stream [] [] ⟨stream,.zeroed,buf⟩ ∧ contents buf = [] := by
  obtain ⟨tracks,nothing⟩ := tracks_start empty inside stream
  exact ⟨⟨tracks.valid,tracks.place,rfl,roomy_nil⟩,nothing⟩

section
variable {stream consumed : List UInt8} {returned out : List Message} {wire after : Wire}

/-- A read takes nothing out of the ring. -/
theorem read_reached (reached : Reached stream consumed returned wire) {script : List ReadResult}
    (step : wire_step wire (.read script) = .ok (after,out)) :
    Reached stream consumed (returned ++ out) after ∧
      (contents wire.receiver.recv_buf).length ≤ (contents after.receiver.recv_buf).length := by
  obtain ⟨bytes,taken,valid,appended⟩ := circ_read_spec ⟨wire.waiting,script⟩ reached.valid
  cases step
  refine ⟨⟨valid,?_,by simpa using reached.state,reached.roomy⟩,?_⟩
  · dsimp only at taken ⊢
    rw [appended,List.append_assoc,← taken]
    exact reached.place
  · dsimp only
    rw [appended,List.length_append]
    omega

/-- A call of the decoder takes bytes up to and with a flag, or without one. -/
theorem decode_reached (reached : Reached stream consumed returned wire) (step : wire_step wire .decode = .ok (after,out)) :
    ∃ taken, Reached stream (consumed ++ taken) (returned ++ out) after ∧
      contents wire.receiver.recv_buf = taken ++ contents after.receiver.recv_buf ∧
      (0x7e ∈ taken → taken.getLast? = some 0x7e) := by
  have decoder : (trace consumed).1 = wire.receiver.recv_decoder := by rw [reached.state]
  have before : (trace consumed).2 = returned := by rw [reached.state]
  rcases scan_one_traced (contents wire.receiver.recv_buf) reached.roomy with
    ⟨answer,taken,rest,split,scanned,added,roomy,last⟩ | ⟨overrun,_⟩
  · rw [decoder] at scanned
    obtain ⟨buf,ran,valid,left⟩ := wire_decode wire reached.valid scanned
    cases step.symm.trans ran
    rw [before] at added
    refine ⟨taken,⟨valid,?_,Prod.ext rfl added,roomy⟩,by rw [left]; exact split,last⟩
    rw [reached.place,split,left]
    simp
  · rw [decoder] at overrun
    cases step.symm.trans (wire_decode_error wire reached.valid overrun)

theorem step_reached (reached : Reached stream consumed returned wire) {op : WireOp} (step : wire_step wire op = .ok (after,out)) :
    ∃ taken, Reached stream (consumed ++ taken) (returned ++ out) after := by
  cases op with
  | read script => exact ⟨[],by simpa using (read_reached reached step).1⟩
  | decode =>
    obtain ⟨taken,next,_⟩ := decode_reached reached step
    exact ⟨taken,next⟩

/-- A run returns what the fold returns on the bytes it has taken. -/
theorem run_reached {ops : List WireOp} (reached : Reached stream consumed returned wire)
    (run : emit wire_step wire ops = .ok (after,out)) : ∃ taken, Reached stream (consumed ++ taken) (returned ++ out) after := by
  induction ops generalizing wire consumed returned out with
  | nil =>
    cases run
    exact ⟨[],by simpa using reached⟩
  | cons op ops ih =>
    obtain ⟨next,first,more,step,rest,rfl⟩ := emit_cons_ok.mp run
    obtain ⟨taken,moved⟩ := step_reached reached step
    obtain ⟨others,final⟩ := ih moved rest
    exact ⟨taken ++ others,by simpa using final⟩

/-- A byte that fits can be read and decoded by itself. -/
theorem byte_reached {ch : UInt8} {rest : List UInt8} (reached : Reached stream consumed returned wire)
    (empty : contents wire.receiver.recv_buf = []) (next : wire.waiting = ch :: rest) (roomy : Roomy (consumed ++ [ch])) :
    ∃ buf answer final, wire_step wire (.read [.upto 1]) = .ok (⟨rest,⟨wire.receiver.recv_decoder,buf⟩⟩,[]) ∧
      contents buf = [ch] ∧
      wire_step ⟨rest,⟨wire.receiver.recv_decoder,buf⟩⟩ .decode =
        .ok (⟨rest,⟨(trace (consumed ++ [ch])).1,final⟩⟩,answer) ∧
      Reached stream (consumed ++ [ch]) (returned ++ answer) ⟨rest,⟨(trace (consumed ++ [ch])).1,final⟩⟩ ∧
      contents final = [] := by
  obtain ⟨buf,read,valid,one⟩ := read_byte reached.valid empty next
  have decoder : (trace consumed).1 = wire.receiver.recv_decoder := by rw [reached.state]
  have before : (trace consumed).2 = returned := by rw [reached.state]
  have place : stream = consumed ++ ([ch] ++ rest) := by
    rw [reached.place,empty,next]
    rfl
  rcases scan_one_traced [ch] reached.roomy with ⟨answer,taken,left,split,scanned,added,fits,_⟩ | ⟨_,early,start,beyond⟩
  · cases scan_one_byte scanned
    rw [List.append_nil] at split
    subst split
    rw [decoder] at scanned
    rw [← one] at scanned
    obtain ⟨final,step,still,drained⟩ := wire_decode ⟨rest,⟨_,buf⟩⟩ valid scanned
    rw [one] at step
    rw [before] at added
    exact ⟨buf,answer.toList,final,read,one,step,⟨still,by rw [place,drained]; simp,Prod.ext rfl added,fits⟩,drained⟩
  · have inside := roomy (consumed ++ early) ((List.prefix_append_right_inj _).mpr start)
    omega

/-- Bytes that fit can be taken one by one. -/
theorem bytewise_reached {bytes rest : List UInt8} (reached : Reached stream consumed returned wire)
    (empty : contents wire.receiver.recv_buf = []) (next : wire.waiting = bytes ++ rest) (roomy : Roomy (consumed ++ bytes)) :
    ∃ final more, emit wire_step wire (bytewise bytes.length) = .ok (final,more) ∧
      Reached stream (consumed ++ bytes) (returned ++ more) final ∧ contents final.receiver.recv_buf = [] ∧
      final.waiting = rest := by
  induction bytes generalizing wire consumed returned with
  | nil => exact ⟨wire,[],rfl,by simpa using reached,empty,next⟩
  | cons ch bytes ih =>
    have longer : Roomy (consumed ++ [ch] ++ bytes) := by simpa using roomy
    obtain ⟨buf,answer,final,read,_,step,moved,drained⟩ :=
      byte_reached reached empty next (longer.mono (List.prefix_append _ _))
    obtain ⟨after,more,run,reached,empty,waiting⟩ := ih moved drained rfl longer
    refine ⟨after,answer ++ more,?_,by simpa using reached,empty,waiting⟩
    rw [List.length_cons,bytewise]
    exact emit_cons_ok.mpr ⟨_,_,_,read,emit_cons_ok.mpr ⟨_,_,_,step,run,rfl⟩,rfl⟩

end

end DiagRouter.HdlcTrace

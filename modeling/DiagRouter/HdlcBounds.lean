import DiagRouter.HdlcStream

/-!
# The decoder on any stream

What reaches the decoder is any stream, read and decoded in any order. Nothing
in the byte loop bounds the cursor, and a frame takes its two CRC bytes off
whatever was stored. The streams on which every order of reads and decodes is
safe are exactly the `Framed` ones.
-/
namespace DiagRouter.HdlcBounds
open DiagRouter.Lib.Memory DiagRouter.Lib.Runs DiagRouter.Lib.Stuffing DiagRouter.CircRead DiagRouter.Hdlc
open DiagRouter.HdlcStream (Receiver)

/-- A stream on its way: what has not been read, and the receiver. -/
structure Wire where
  waiting : List UInt8
  receiver : Receiver

inductive WireOp
  | read (script : List ReadResult)
  | decode

def wire_step (wire : Wire) : WireOp → Except Fault (Wire × List Message)
  | .read script =>
    let read := circ_read ⟨wire.waiting,script⟩ wire.receiver.recv_buf
    .ok (⟨read.fd.waiting,{ wire.receiver with recv_buf := read.buf }⟩,[])
  | .decode =>
    (fun (msg,hdlc,buf) => (⟨wire.waiting,⟨hdlc,buf⟩⟩,msg.toList)) <$>
      hdlc_decode_one wire.receiver.recv_decoder wire.receiver.recv_buf

/-- No step leaves `raw_buf`, and every message returned has a length that fits. -/
def Bounded (stream : List UInt8) (buf : CircBuf) (ops : List WireOp) : Prop :=
  ∃ after returned, emit wire_step ⟨stream,.zeroed,buf⟩ ops = .ok (after,returned) ∧
    ∀ msg ∈ returned, msg.msglen ≤ HDLC_BUF_SIZE - 2

/-- The bytes of a stretch that the decoder stores. -/
def stored (stretch : List UInt8) : Nat := stretch.countP (· ≠ 0x7d)

/-- No stretch between flags stores more than `raw_buf` has room for, and none
    that a flag closes stores a single byte. -/
def Framed (stream : List UInt8) : Prop :=
  ∀ before stretch after, stream = before ++ stretch ++ after → Opens 0x7e before → 0x7e ∉ stretch →
    stored stretch ≤ HDLC_BUF_SIZE ∧ (after.head? = some 0x7e → stored stretch ≠ 1)

theorem framed_iff {stream : List UInt8} : Framed stream ↔
    ∀ consumed after, stream = consumed ++ after → stored (sinceFlag 0x7e consumed) ≤ HDLC_BUF_SIZE ∧
      (after.head? = some 0x7e → stored (sinceFlag 0x7e consumed) ≠ 1) := by
  constructor
  · intro framed consumed after split
    obtain ⟨before,same,opens,free⟩ := sinceFlag_split 0x7e consumed
    exact framed before _ after (by rw [← same]; exact split) opens free
  · intro counted before stretch after split opens free
    have counts := counted (before ++ stretch) after split
    rwa [sinceFlag_eq opens free] at counts

/-! ## What one scan stores -/

/-- The cursor counts the bytes of the open stretch. -/
theorem stored_flag (consumed : List UInt8) : stored (sinceFlag 0x7e (consumed ++ [0x7e])) = 0 := by
  simp [sinceFlag_concat,stored]

theorem stored_escape (consumed : List UInt8) :
    stored (sinceFlag 0x7e (consumed ++ [0x7d])) = stored (sinceFlag 0x7e consumed) := by
  simp [sinceFlag_concat,stored]

theorem stored_byte {ch : UInt8} (notFlag : ch ≠ 0x7e) (notEsc : ch ≠ 0x7d) (consumed : List UInt8) :
    stored (sinceFlag 0x7e (consumed ++ [ch])) = stored (sinceFlag 0x7e consumed) + 1 := by
  simp [sinceFlag_concat,stored,notFlag,notEsc]

/-- How a scan of `bytes` ends after `consumed`: with the cursor at the count of
    the stretch it leaves open or that a flag closes, or with one byte more than
    there is room for. -/
inductive Counted (consumed bytes : List UInt8) : Except Fault (Bool × HdlcDecoder × List UInt8) → Prop
  | drained {hdlc : HdlcDecoder} (count : hdlc.raw.length = stored (sinceFlag 0x7e (consumed ++ bytes)))
      (inside : hdlc.raw.length ≤ HDLC_BUF_SIZE) : Counted consumed bytes (.ok (false,hdlc,[]))
  | closed {hdlc : HdlcDecoder} {stretch rest : List UInt8} (split : bytes = stretch ++ 0x7e :: rest)
      (count : hdlc.raw.length = stored (sinceFlag 0x7e (consumed ++ stretch)))
      (inside : hdlc.raw.length ≤ HDLC_BUF_SIZE) : Counted consumed bytes (.ok (true,hdlc,rest))
  | overrun {stretch rest : List UInt8} (split : bytes = stretch ++ rest)
      (beyond : HDLC_BUF_SIZE < stored (sinceFlag 0x7e (consumed ++ stretch))) :
      Counted consumed bytes (.error .outOfBounds)

theorem Counted.cons {consumed bytes : List UInt8} {ch : UInt8}
    {result : Except Fault (Bool × HdlcDecoder × List UInt8)} (counted : Counted (consumed ++ [ch]) bytes result) :
    Counted consumed (ch :: bytes) result := by
  cases counted with
  | drained count inside => exact .drained (by simpa using count) inside
  | closed split count inside => exact .closed (congrArg (ch :: ·) split) (by simpa using count) inside
  | overrun split beyond => exact .overrun (congrArg (ch :: ·) split) (by simpa using beyond)

theorem scan_counted (bytes : List UInt8) {hdlc : HdlcDecoder} {consumed : List UInt8}
    (count : hdlc.raw.length = stored (sinceFlag 0x7e consumed)) (inside : hdlc.raw.length ≤ HDLC_BUF_SIZE) :
    Counted consumed bytes (scan hdlc bytes) := by
  induction bytes generalizing hdlc consumed with
  | nil => exact .drained (by simpa using count) inside
  | cons ch bytes ih =>
    rw [scan]
    split_ifs with flag escape
    · subst flag
      exact .closed (List.nil_append _).symm (by simpa using count) inside
    · subst escape
      refine .cons (ih ?_ inside)
      exact count.trans (stored_escape consumed).symm
    · by_cases room : hdlc.raw.length < HDLC_BUF_SIZE
      · rw [raw_store,if_pos room]
        refine .cons (ih ?_ ?_)
        · rw [stored_byte flag escape]
          simpa using count
        · simpa using Nat.succ_le_of_lt room
      · rw [raw_store,if_neg room]
        refine .overrun List.singleton_append.symm ?_
        rw [stored_byte flag escape]
        omega

/-- One call of the decoder: it takes bytes up to a flag, or all there are, and
    a message it returns has the length of the stretch less two; or it leaves
    `raw_buf` on a stretch that is too long. -/
theorem scan_one_counted (bytes : List UInt8) {hdlc : HdlcDecoder} {consumed : List UInt8}
    (count : hdlc.raw.length = stored (sinceFlag 0x7e consumed)) (inside : hdlc.raw.length ≤ HDLC_BUF_SIZE) :
    (∃ answer decoder rest taken, scan_one hdlc bytes = .ok (answer,decoder,rest) ∧ bytes = taken ++ rest ∧
      decoder.raw.length = stored (sinceFlag 0x7e (consumed ++ taken)) ∧ decoder.raw.length ≤ HDLC_BUF_SIZE ∧
      ∀ msg ∈ answer, ∃ stretch, bytes = stretch ++ 0x7e :: rest ∧
        0 < stored (sinceFlag 0x7e (consumed ++ stretch)) ∧
        msg.msglen = size_t ((stored (sinceFlag 0x7e (consumed ++ stretch)) : Int) - 2)) ∨
    (scan_one hdlc bytes = .error .outOfBounds ∧ ∃ stretch rest, bytes = stretch ++ rest ∧
      HDLC_BUF_SIZE < stored (sinceFlag 0x7e (consumed ++ stretch))) := by
  have counted := scan_counted bytes count inside
  rw [scan_one]
  generalize scan hdlc bytes = result at counted ⊢
  cases counted with
  | @drained decoder count inside =>
    exact .inl ⟨none,decoder,[],bytes,rfl,by simp,count,inside,by simp⟩
  | @closed decoder stretch rest split count inside =>
    have taken : bytes = (stretch ++ [0x7e]) ++ rest := by simpa using split
    have reset : 0 = stored (sinceFlag 0x7e (consumed ++ (stretch ++ [0x7e]))) := by
      rw [← List.append_assoc,stored_flag]
    by_cases nothing : decoder.raw = []
    · refine .inl ⟨none,decoder,rest,stretch ++ [0x7e],?_,taken,?_,inside,by simp⟩
      · simp [decode_end,nothing]
      · rw [← reset,nothing,List.length_nil]
    · refine .inl ⟨some ⟨decoder.raw,size_t ((decoder.raw.length : Int) - 2)⟩,.zeroed,rest,stretch ++ [0x7e],?_,taken,
        reset,Nat.zero_le _,?_⟩
      · simp [decode_end,nothing]
      · rintro msg ⟨⟩
        refine ⟨stretch,split,?_,by rw [← count]⟩
        rw [← count]
        exact List.length_pos_iff.mpr nothing
  | overrun split beyond => exact .inr ⟨rfl,_,_,split,beyond⟩

/-! ## Steps on a wire -/

/-- Where a wire stands in its stream. -/
structure Tracks (stream consumed : List UInt8) (wire : Wire) : Prop where
  valid : Valid wire.receiver.recv_buf
  place : stream = consumed ++ (contents wire.receiver.recv_buf ++ wire.waiting)
  count : wire.receiver.recv_decoder.raw.length = stored (sinceFlag 0x7e consumed)
  inside : wire.receiver.recv_decoder.raw.length ≤ HDLC_BUF_SIZE

theorem wire_read_tracks {stream consumed : List UInt8} {wire : Wire} (tracks : Tracks stream consumed wire)
    (script : List ReadResult) :
    ∃ after, wire_step wire (.read script) = .ok (after,[]) ∧ Tracks stream consumed after := by
  obtain ⟨bytes,taken,valid,appended⟩ := circ_read_spec ⟨wire.waiting,script⟩ tracks.valid
  refine ⟨_,rfl,valid,?_,tracks.count,tracks.inside⟩
  dsimp only at taken ⊢
  rw [appended,List.append_assoc,← taken]
  exact tracks.place

theorem wire_decode (wire : Wire) (valid : Valid wire.receiver.recv_buf) {answer : Option Message} {hdlc : HdlcDecoder}
    {rest : List UInt8}
    (scanned : scan_one wire.receiver.recv_decoder (contents wire.receiver.recv_buf) = .ok (answer,hdlc,rest)) :
    ∃ buf, wire_step wire .decode = .ok (⟨wire.waiting,⟨hdlc,buf⟩⟩,answer.toList) ∧ Valid buf ∧ contents buf = rest := by
  have follows := decode_one_follows wire.receiver.recv_decoder valid
  rw [scanned] at follows
  obtain ⟨buf,decoded,still,left⟩ := follows.of_ok
  exact ⟨buf,by rw [wire_step,decoded]; rfl,still,left⟩

theorem wire_decode_error (wire : Wire) (valid : Valid wire.receiver.recv_buf) {e : Fault}
    (scanned : scan_one wire.receiver.recv_decoder (contents wire.receiver.recv_buf) = .error e) :
    wire_step wire .decode = .error e := by
  have follows := decode_one_follows wire.receiver.recv_decoder valid
  rw [scanned] at follows
  rw [wire_step,follows.of_error]
  rfl

/-- On a framed stream every step is safe. -/
theorem wire_step_framed {stream consumed : List UInt8} {wire : Wire} (framed : Framed stream)
    (tracks : Tracks stream consumed wire) (op : WireOp) :
    ∃ after returned more, wire_step wire op = .ok (after,returned) ∧ Tracks stream more after ∧
      ∀ msg ∈ returned, msg.msglen ≤ HDLC_BUF_SIZE - 2 := by
  have counted := framed_iff.mp framed
  cases op with
  | read script =>
    obtain ⟨after,step,still⟩ := wire_read_tracks tracks script
    exact ⟨after,[],consumed,step,still,by simp⟩
  | decode =>
    rcases scan_one_counted (contents wire.receiver.recv_buf) tracks.count tracks.inside with
      ⟨answer,hdlc,rest,taken,scanned,split,count,inside,lengths⟩ | ⟨_,stretch,rest,split,beyond⟩
    · obtain ⟨buf,step,valid,left⟩ := wire_decode wire tracks.valid scanned
      refine ⟨_,_,consumed ++ taken,step,⟨valid,?_,count,inside⟩,?_⟩
      · rw [tracks.place,split,left]
        simp
      · intro msg member
        obtain ⟨stretch,closed,some,msglen⟩ := lengths msg (Option.mem_toList.mp member)
        obtain ⟨most,single⟩ := counted (consumed ++ stretch) (0x7e :: (rest ++ wire.waiting))
          (by rw [tracks.place,closed]; simp)
        have two := single rfl
        rw [msglen]
        unfold size_t HDLC_BUF_SIZE at *
        omega
    · obtain ⟨most,_⟩ := counted (consumed ++ stretch) (rest ++ wire.waiting) (by rw [tracks.place,split]; simp)
      omega

theorem wire_run_framed {stream consumed : List UInt8} {wire : Wire} (framed : Framed stream)
    (tracks : Tracks stream consumed wire) (ops : List WireOp) :
    ∃ after returned, emit wire_step wire ops = .ok (after,returned) ∧ ∀ msg ∈ returned, msg.msglen ≤ HDLC_BUF_SIZE - 2 := by
  induction ops generalizing wire consumed with
  | nil => exact ⟨wire,[],rfl,by simp⟩
  | cons op ops ih =>
    obtain ⟨next,first,more,step,still,short⟩ := wire_step_framed framed tracks op
    obtain ⟨after,others,run,rest⟩ := ih still
    refine ⟨after,first ++ others,by rw [emit_cons,step]; simp [run],?_⟩
    intro msg member
    rcases List.mem_append.mp member with early | late
    · exact short msg early
    · exact rest msg late

/-! ## Byte by byte -/

/-- Read one byte, decode, and again. -/
def bytewise : Nat → List WireOp
  | 0 => []
  | n+1 => .read [.upto 1] :: .decode :: bytewise n

/-- What one byte leaves in the ring: nothing. -/
theorem scan_one_byte {hdlc decoder : HdlcDecoder} {ch : UInt8} {answer : Option Message} {rest : List UInt8}
    (scanned : scan_one hdlc [ch] = .ok (answer,decoder,rest)) : rest = [] := by
  obtain ⟨⟨flag,next,left⟩,looped,ended⟩ := map_eq_ok.mp scanned
  have drained : left = [] := by
    rw [scan] at looped
    split_ifs at looped
    · cases looped
      rfl
    · cases looped
      rfl
    · obtain ⟨stored,_,more⟩ := bind_eq_ok.mp looped
      cases more
      rfl
  rw [decode_end] at ended
  split_ifs at ended
  · cases ended
    exact drained
  · cases ended
    exact drained

theorem read_byte {wire : Wire} {ch : UInt8} {rest : List UInt8} (valid : Valid wire.receiver.recv_buf)
    (empty : contents wire.receiver.recv_buf = []) (next : wire.waiting = ch :: rest) :
    ∃ buf, wire_step wire (.read [.upto 1]) = .ok (⟨rest,⟨wire.receiver.recv_decoder,buf⟩⟩,[]) ∧ Valid buf ∧
      contents buf = [ch] := by
  obtain ⟨waiting,still,one⟩ := circ_read_byte valid empty ch rest
  refine ⟨_,?_,still,one⟩
  rw [wire_step,next]
  dsimp only
  rw [waiting]

/-- A run that reads and decodes the bytes one by one stands, if it is safe,
    right after them. -/
theorem bytewise_tracks {stream consumed bytes rest : List UInt8} {wire : Wire} (tracks : Tracks stream consumed wire)
    (empty : contents wire.receiver.recv_buf = []) (next : wire.waiting = bytes ++ rest) {after : Wire}
    {returned : List Message} (run : emit wire_step wire (bytewise bytes.length) = .ok (after,returned)) :
    Tracks stream (consumed ++ bytes) after ∧ contents after.receiver.recv_buf = [] ∧ after.waiting = rest := by
  induction bytes generalizing wire consumed returned with
  | nil =>
    cases run
    exact ⟨by simpa using tracks,empty,next⟩
  | cons ch bytes ih =>
    obtain ⟨buf,read,valid,one⟩ := read_byte tracks.valid empty next
    rw [List.length_cons,bytewise] at run
    obtain ⟨_,_,_,first,run,_⟩ := emit_cons_ok.mp run
    cases read.symm.trans first
    obtain ⟨_,_,_,decoded,run,_⟩ := emit_cons_ok.mp run
    have place : stream = consumed ++ ([ch] ++ (bytes ++ rest)) := by
      rw [tracks.place,empty,next]
      rfl
    rcases scan_one_counted [ch] tracks.count tracks.inside with
      ⟨answer,hdlc,left,taken,scanned,split,count,inside,_⟩ | ⟨overrun,_⟩
    · cases scan_one_byte scanned
      rw [List.append_nil] at split
      subst split
      rw [← one] at scanned
      obtain ⟨final,step,still,drained⟩ := wire_decode ⟨bytes ++ rest,⟨_,buf⟩⟩ valid scanned
      cases decoded.symm.trans step
      have tracked : Tracks stream (consumed ++ [ch]) ⟨bytes ++ rest,⟨hdlc,final⟩⟩ :=
        ⟨still,by rw [place,drained]; simp,count,inside⟩
      obtain ⟨tracks,empty,waiting⟩ := ih tracked drained rfl run
      exact ⟨by simpa using tracks,empty,waiting⟩
    · rw [← one] at overrun
      cases decoded.symm.trans (wire_decode_error ⟨bytes ++ rest,⟨_,buf⟩⟩ valid overrun)

/-- A ring and a decoder at the beginning of a stream. -/
theorem tracks_start {buf : CircBuf} (empty : buf.head = buf.tail) (inside : buf.tail < HDLC_BUF_SIZE)
    (stream : List UInt8) : Tracks stream [] ⟨stream,.zeroed,buf⟩ ∧ contents buf = [] := by
  have valid : Valid buf := ⟨by omega,inside⟩
  have nothing := (contents_empty valid).mpr empty.symm
  exact ⟨⟨valid,by simp [nothing],rfl,Nat.zero_le _⟩,nothing⟩

/-- A stream that is safe byte by byte is framed. -/
theorem framed_of_bounded {buf : CircBuf} (empty : buf.head = buf.tail) (inside : buf.tail < HDLC_BUF_SIZE)
    {stream : List UInt8} (bounded : ∀ ops, Bounded stream buf ops) : Framed stream := by
  obtain ⟨start,nothing⟩ := tracks_start empty inside stream
  rw [framed_iff]
  intro consumed after split
  obtain ⟨wire,_,run,_⟩ := bounded (bytewise consumed.length)
  obtain ⟨tracks,drained,waiting⟩ := bytewise_tracks start nothing split run
  rw [List.nil_append] at tracks
  refine ⟨tracks.count ▸ tracks.inside,?_⟩
  intro flag single
  obtain ⟨rest,rfl⟩ : ∃ rest, after = 0x7e :: rest := by
    cases after with
    | nil => cases flag
    | cons ch rest => exact ⟨rest,by cases flag; rfl⟩
  -- The next byte closes a frame of one byte.
  obtain ⟨final,returned,longer,short⟩ := bounded (bytewise consumed.length ++ [.read [.upto 1],.decode])
  obtain ⟨ring,read,valid,one⟩ := read_byte tracks.valid drained waiting
  have lone : wire.receiver.recv_decoder.raw.length = 1 := tracks.count.trans single
  have scanned : scan_one wire.receiver.recv_decoder (contents ring) =
      .ok (some ⟨wire.receiver.recv_decoder.raw,size_t ((wire.receiver.recv_decoder.raw.length : Int) - 2)⟩,
        .zeroed,[]) := by
    have some : wire.receiver.recv_decoder.raw ≠ [] := List.ne_nil_of_length_pos (by omega)
    rw [one,scan_one]
    simp [scan,decode_end,some]
  obtain ⟨last,step,_,_⟩ := wire_decode ⟨rest,⟨_,ring⟩⟩ valid scanned
  rw [emit_append,run,ok_bind,emit_cons,read,ok_bind,emit_cons,step] at longer
  cases longer
  have length := short _ (by simp; exact .inr rfl)
  dsimp only at length
  rw [lone] at length
  exact absurd length (by decide)

/-- The streams on which no order of reads and decodes leaves `raw_buf` or
    returns a length beyond it are the framed ones. -/
theorem hdlc_bounds_iff {buf : CircBuf} (empty : buf.head = buf.tail) (inside : buf.tail < HDLC_BUF_SIZE)
    (stream : List UInt8) : (∀ ops, Bounded stream buf ops) ↔ Framed stream := by
  constructor
  · exact framed_of_bounded empty inside
  · intro framed ops
    exact wire_run_framed framed (tracks_start empty inside stream).1 ops

theorem hdlc_bounds_iff_zeroed :
    (∀ ops, Bounded [0x41,0x7e] ⟨fun _ => 0,0,0⟩ ops) ↔ Framed [0x41,0x7e] :=
  hdlc_bounds_iff rfl (by decide) [0x41,0x7e]

/-- A frame of one byte is returned with a length of 2^64 - 1, and 16385 bytes
    without a flag are stored past the end of `raw_buf`. -/
theorem one_byte_frame_unsafe :
    ¬ Bounded [0x41,0x7e] ⟨fun _ => 0,0,0⟩ [.read [.upto 2],.decode] ∧
      ¬ ∀ ops, Bounded (List.replicate 16385 0x41) ⟨fun _ => 0,0,0⟩ ops := by
  constructor
  · rintro ⟨after,returned,run,short⟩
    have lengths : (fun r => r.2.map Message.msglen) <$>
        emit wire_step ⟨[0x41,0x7e],.zeroed,⟨fun _ => 0,0,0⟩⟩ [.read [.upto 2],.decode] =
          .ok [18446744073709551615] := by decide +kernel
    rw [run] at lengths
    cases returned with
    | nil => cases lengths
    | cons msg rest =>
      obtain ⟨length,_⟩ := List.cons.inj (Except.ok.inj lengths)
      have most := short msg List.mem_cons_self
      rw [length] at most
      exact absurd most (by decide)
  · intro bounded
    have framed := framed_of_bounded rfl (by decide) bounded
    have flagless : (0x7e : UInt8) ∉ List.replicate 16385 0x41 := by
      intro member
      exact absurd (List.eq_of_mem_replicate member) (by decide)
    have most := (framed [] (List.replicate 16385 0x41) [] (List.append_nil _).symm (.inl rfl) flagless).1
    rw [stored,List.countP_replicate] at most
    exact absurd most (by decide)

end DiagRouter.HdlcBounds

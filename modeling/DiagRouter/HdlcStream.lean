import DiagRouter.Hdlc
import DiagRouter.Lib.Runs

/-!
# Messages through a persistent decoder

A receiver keeps one decoder for all it reads. Whatever cut the stream of
encoded messages arrives in, the decoder and the ring together hold the part of
the stream that has been read and not yet returned (`Reads`).
-/
namespace DiagRouter.HdlcStream
open DiagRouter.Lib.Memory DiagRouter.Lib.Runs DiagRouter.Lib.Stuffing DiagRouter.CircRead DiagRouter.Hdlc

structure Receiver where
  recv_decoder : HdlcDecoder
  recv_buf : CircBuf

/-- A piece of the stream arrives: `circ_read` appends it, and `hdlc_decode_one`
    is called until it returns NULL. -/
def recv_piece (receiver : Receiver) (piece : List UInt8) : Except Fault (Receiver × List Message) :=
  let read := circ_read ⟨piece,[.upto piece.length,.upto piece.length]⟩ receiver.recv_buf
  (fun (msgs,hdlc,buf) => (⟨hdlc,buf⟩,msgs)) <$> decode_until_null HDLC_BUF_SIZE receiver.recv_decoder read.buf

/-- A decoder in the middle of a frame. -/
def decoder (stored : List UInt8) (pending : Bool) : HdlcDecoder := ⟨stored,if pending then 0x20 else 0⟩

/-- What is returned for a body. -/
def message (body : List UInt8) : Message := ⟨body,size_t (body.length - 2)⟩

theorem decoder_zeroed : decoder [] false = .zeroed := rfl

theorem decoder_store {stored : List UInt8} {pending : Bool} (room : stored.length < HDLC_BUF_SIZE) (ch : UInt8) :
    raw_store (decoder stored pending) ch =
      .ok (decoder (stored ++ [if pending then toggle ch else ch]) false) := by
  rw [raw_store,if_pos (by exact room)]
  cases pending <;> simp [decoder,toggle]

/-- A message is what was stored, less its last two bytes. -/
theorem message_take {stored : List UInt8} (two : 2 ≤ stored.length) (inside : stored.length ≤ HDLC_BUF_SIZE) :
    (message stored).payload = .ok (stored.take (stored.length - 2)) := by
  have msglen : size_t (stored.length - 2) = stored.length - 2 := by
    unfold size_t HDLC_BUF_SIZE at *
    omega
  rw [Message.payload,message,msglen,load,if_pos (Nat.sub_le _ _)]

theorem message_payload {src : List UInt8} (short : src.length ≤ HDLC_BUF_SIZE - 2) :
    (message (body src)).payload = .ok src := by
  have length := body_length src
  rw [message_take (by omega) (by unfold HDLC_BUF_SIZE at *; omega),length,Nat.add_sub_cancel]
  exact congrArg Except.ok (List.take_left ..)

theorem sent_payloads {sent : List (List UInt8)} (short : ∀ src ∈ sent, src.length ≤ HDLC_BUF_SIZE - 2) :
    ((sent.map body).map message).map Message.payload = sent.map .ok := by
  rw [List.map_map,List.map_map]
  exact List.map_congr_left (fun src member => message_payload (short src member))

/-! ## What a scan does to a stream -/

/-- The byte loop either takes all the bytes there are, or stops after the flag
    of the next body. -/
theorem scan_reads {bytes unread : List UInt8} {bodies : List (List UInt8)}
    (short : ∀ body ∈ bodies, body.length ≤ HDLC_BUF_SIZE) {stored : List UInt8} {pending : Bool}
    (reads : Reads 0x7e 0x7d toggle stored pending (bytes ++ unread) bodies) :
    (∃ more escape, scan (decoder stored pending) bytes = .ok (false,decoder more escape,[]) ∧
      Reads 0x7e 0x7d toggle more escape unread bodies) ∨
    (∃ next later escape rest, bodies = next :: later ∧ next ≠ [] ∧ rest.length < bytes.length ∧
      scan (decoder stored pending) bytes = .ok (true,decoder next escape,rest) ∧
      Reads 0x7e 0x7d toggle [] false (rest ++ unread) later) := by
  induction bytes generalizing stored pending with
  | nil => exact .inl ⟨stored,pending,rfl,reads⟩
  | cons ch bytes ih =>
    cases reads with
    | close nonempty more =>
      exact .inr ⟨stored,_,pending,bytes,rfl,nonempty,Nat.lt_succ_self _,by simp [scan],more⟩
    | escape distinct more =>
      have step : scan (decoder stored pending) (0x7d :: bytes) = scan (decoder stored true) bytes := rfl
      rcases ih more with ⟨held,escape,scanned,rest⟩ | ⟨next,later,escape,rest,split,nonempty,fewer,scanned,left⟩
      · exact .inl ⟨held,escape,step.trans scanned,rest⟩
      · exact .inr ⟨next,later,escape,rest,split,nonempty,Nat.lt_succ_of_lt fewer,step.trans scanned,left⟩
    | byte notFlag notEsc more =>
      obtain ⟨body,member,begins⟩ := more.stored_prefix (by simp)
      have room : stored.length < HDLC_BUF_SIZE := by
        have length := begins.length_le
        have most := short body member
        rw [List.length_append,List.length_singleton] at length
        omega
      have step : scan (decoder stored pending) (ch :: bytes) =
          scan (decoder (stored ++ [if pending then toggle ch else ch]) false) bytes := by
        rw [scan,if_neg notFlag,if_neg notEsc,decoder_store room]
        rfl
      rcases ih more with ⟨held,escape,scanned,rest⟩ | ⟨next,later,escape,rest,split,nonempty,fewer,scanned,left⟩
      · exact .inl ⟨held,escape,step.trans scanned,rest⟩
      · exact .inr ⟨next,later,escape,rest,split,nonempty,Nat.lt_succ_of_lt fewer,step.trans scanned,left⟩

/-- Decoding until NULL returns the bodies that end among the bytes, takes all
    the bytes, and is left in the middle of the next body. -/
theorem until_null_reads {fuel : Nat} {bytes unread : List UInt8} {bodies : List (List UInt8)}
    (enough : bytes.length < fuel) (short : ∀ body ∈ bodies, body.length ≤ HDLC_BUF_SIZE) {stored : List UInt8}
    {pending : Bool} (reads : Reads 0x7e 0x7d toggle stored pending (bytes ++ unread) bodies) :
    ∃ ended later more escape, bodies = ended ++ later ∧
      scan_until_null fuel (decoder stored pending) bytes = .ok (ended.map message,decoder more escape,[]) ∧
      Reads 0x7e 0x7d toggle more escape unread later := by
  induction fuel generalizing bytes bodies stored pending with
  | zero => exact absurd enough (Nat.not_lt_zero _)
  | succ fuel ih =>
    rcases scan_reads short reads with ⟨more,escape,scanned,rest⟩ |
      ⟨next,later,escape,rest,rfl,nonempty,fewer,scanned,left⟩
    · refine ⟨[],bodies,more,escape,rfl,?_,rest⟩
      rw [scan_until_null,scan_one,scanned]
      rfl
    · have one : scan_one (decoder stored pending) bytes = .ok (some (message next),decoder [] false,rest) := by
        rw [scan_one,scanned]
        simp [decode_end,decoder,nonempty,message,HdlcDecoder.zeroed]
      obtain ⟨ended,later',more,escape',rfl,scanned',last⟩ :=
        ih (by omega) (fun body member => short body (List.mem_cons_of_mem _ member)) left
      refine ⟨next :: ended,later',more,escape',rfl,?_,last⟩
      rw [scan_until_null,one]
      simp only [ok_bind,scanned']
      rfl

/-! ## One piece, and all of them -/

/-- The ring is empty, and the decoder is ready for the bodies still to come. -/
structure Ready (receiver : Receiver) (unread : List UInt8) (bodies : List (List UInt8)) : Prop where
  valid : Valid receiver.recv_buf
  empty : contents receiver.recv_buf = []
  short : ∀ body ∈ bodies, body.length ≤ HDLC_BUF_SIZE
  reads : ∃ stored pending, receiver.recv_decoder = decoder stored pending ∧
    Reads 0x7e 0x7d toggle stored pending unread bodies

theorem recv_piece_ready {receiver : Receiver} {piece unread : List UInt8} {bodies : List (List UInt8)}
    (fits : piece.length < HDLC_BUF_SIZE) (ready : Ready receiver (piece ++ unread) bodies) :
    ∃ ended later after, bodies = ended ++ later ∧ recv_piece receiver piece = .ok (after,ended.map message) ∧
      Ready after unread later := by
  obtain ⟨valid,empty,short,stored,pending,same,reads⟩ := ready
  obtain ⟨still,appended⟩ := circ_read_whole valid piece (by rw [empty]; simpa using fits)
  rw [empty,List.nil_append] at appended
  obtain ⟨ended,later,more,escape,rfl,scanned,left⟩ := until_null_reads fits short reads
  have follows := until_null_follows HDLC_BUF_SIZE receiver.recv_decoder still
  rw [appended,same,scanned] at follows
  obtain ⟨buf,decoded,good,drained⟩ := follows.of_ok
  refine ⟨ended,later,⟨decoder more escape,buf⟩,rfl,?_,good,drained,?_,more,escape,rfl,left⟩
  · rw [recv_piece,same]
    dsimp only
    rw [decoded]
    rfl
  · exact fun body member => short body (List.mem_append_right _ member)

/-- Pieces that together are the stream return all of its bodies. -/
theorem recv_pieces_ready {pieces : List (List UInt8)} (fit : ∀ piece ∈ pieces, piece.length < HDLC_BUF_SIZE)
    {receiver : Receiver} {bodies : List (List UInt8)} (ready : Ready receiver pieces.flatten bodies) :
    ∃ after, emit recv_piece receiver pieces = .ok (after,bodies.map message) ∧ Ready after [] [] := by
  induction pieces generalizing receiver bodies with
  | nil =>
    obtain ⟨stored,pending,same,reads⟩ := ready.reads
    cases reads
    exact ⟨receiver,rfl,ready⟩
  | cons piece pieces ih =>
    obtain ⟨first,others⟩ := List.forall_mem_cons.mp fit
    obtain ⟨ended,later,next,rfl,received,more⟩ := recv_piece_ready first (by simpa using ready)
    obtain ⟨after,rest,last⟩ := ih others more
    refine ⟨after,?_,last⟩
    rw [emit_cons,received]
    simp [rest]

theorem Ready.ended {receiver : Receiver} (ready : Ready receiver [] []) :
    receiver.recv_buf.tail = receiver.recv_buf.head ∧ receiver.recv_decoder = .zeroed := by
  obtain ⟨stored,pending,same,reads⟩ := ready.reads
  cases reads
  exact ⟨(contents_empty ready.valid).mp ready.empty,same⟩

/-- Encoded messages, cut anywhere into pieces that fit the ring, come back
    whole and in order, and leave the ring empty and the decoder as zeroed. -/
theorem hdlc_stream_round_trip {msgs : List (List UInt8)} (short : ∀ msg ∈ msgs, msg.length ≤ HDLC_BUF_SIZE - 2)
    {buf : CircBuf} (empty : buf.head = buf.tail) (inside : buf.tail < HDLC_BUF_SIZE) {pieces : List (List UInt8)}
    (cut : pieces.flatten = msgs.flatMap hdlc_encode) (fit : ∀ piece ∈ pieces, piece.length < HDLC_BUF_SIZE) :
    ∃ after returned, emit recv_piece ⟨.zeroed,buf⟩ pieces = .ok (after,returned) ∧
      returned.map Message.payload = msgs.map .ok ∧ after.recv_buf.tail = after.recv_buf.head ∧
      after.recv_decoder.raw = [] ∧ after.recv_decoder.escape = 0 := by
  have valid : Valid buf := ⟨by omega,inside⟩
  have bodies_short : ∀ framed ∈ msgs.map body, framed.length ≤ HDLC_BUF_SIZE := by
    intro framed member
    obtain ⟨src,sent,rfl⟩ := List.mem_map.mp member
    have most := short src sent
    rw [body_length]
    unfold HDLC_BUF_SIZE at *
    omega
  have ready : Ready ⟨.zeroed,buf⟩ pieces.flatten (msgs.map body) := by
    rw [cut,hdlc_encode_frames]
    exact ⟨valid,(contents_empty valid).mpr empty.symm,bodies_short,[],false,rfl,reads_frames transparent (bodies_ne_nil msgs)⟩
  obtain ⟨after,run,last⟩ := recv_pieces_ready fit ready
  obtain ⟨drained,zeroed⟩ := last.ended
  exact ⟨after,_,run,sent_payloads short,drained,by rw [zeroed]; rfl,by rw [zeroed]; rfl⟩

/-- A message and an empty one, cut inside the escape pair and inside the CRC,
    across the end of the array. -/
theorem hdlc_stream_round_trip_split :
    ∃ after returned, emit recv_piece ⟨.zeroed,⟨fun _ => 0,16381,16381⟩⟩
        [[0x7d],[0x5d,0x41,0x76],[0x1c,0x7e,0x00,0x00,0x7e]] = .ok (after,returned) ∧
      returned.map Message.payload = [.ok [0x7d,0x41],.ok []] ∧ after.recv_buf.tail = after.recv_buf.head ∧
      after.recv_decoder.raw = [] ∧ after.recv_decoder.escape = 0 :=
  @hdlc_stream_round_trip [[0x7d,0x41],[]] (by decide) ⟨fun _ => 0,16381,16381⟩ rfl (by decide) _
    (by decide +kernel) (by decide)

end DiagRouter.HdlcStream

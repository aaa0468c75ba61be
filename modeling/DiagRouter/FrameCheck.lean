import DiagRouter.Resync
import DiagRouter.Lib.Crc

/-!
# The frame check

The encoder ends a frame with the remainder of its message. The decoder takes
these two bytes off and looks at neither, so what it returns has been checked
only if every frame it was sent is one that the encoder writes; and none of
these is a frame that was changed in a few consecutive bits.
-/
namespace DiagRouter.FrameCheck
open DiagRouter.Lib.Memory DiagRouter.Lib.Runs DiagRouter.Lib.Stuffing DiagRouter.Lib.Crc DiagRouter.CircRead DiagRouter.Hdlc
open DiagRouter.HdlcBounds DiagRouter.HdlcTrace DiagRouter.Resync
open DiagRouter.HdlcStream (decoder message message_take message_payload)

/-- A message and, behind it in `raw_buf`, the check the encoder writes for it. -/
def Checked (msg : Message) : Prop := ∃ src, msg.payload = .ok src ∧ msg.raw_buf = src ++ frame_check src

/-- A frame of a stream, unescaped: what a flag closes, of a length that fits. -/
def Frame (stream frame : List UInt8) : Prop :=
  ∃ before stretch rest pending, stream = before ++ stretch ++ 0x7e :: rest ∧ Opens 0x7e before ∧ 0x7e ∉ stretch ∧
    Roomy (before ++ stretch) ∧ (pending = true ↔ HoldsEscape before) ∧ frame = unstuff 0x7d toggle pending stretch

/-- Bits in the order they are sent, the low one of a byte first. -/
def bits (bytes : List UInt8) : List Bool := bytes.flatMap (fun ch => (List.range 8).map ch.toBitVec.getLsbD)

/-- A change within 16 consecutive bits. -/
def Burst (sent got : List UInt8) : Prop :=
  got.length = sent.length ∧ got ≠ sent ∧ ∃ start, ∀ i, (bits got)[i]? ≠ (bits sent)[i]? → start ≤ i ∧ i < start + 16

/-! ## The remainder of bits -/

/-- x^16 + x^12 + x^5 + 1, reversed. -/
def polynomial : BitVec 16 := 0x8408

theorem polynomial_top : polynomial.getLsbD (16 - 1) = true := by decide

@[simp] theorem bits_cons (ch : UInt8) (bytes : List UInt8) :
    bits (ch :: bytes) = (List.range 8).map ch.toBitVec.getLsbD ++ bits bytes := rfl

theorem bits_append (bytes more : List UInt8) : bits (bytes ++ more) = bits bytes ++ bits more := List.flatMap_append

@[simp] theorem bits_length (bytes : List UInt8) : (bits bytes).length = 8 * bytes.length := by
  induction bytes with
  | nil => rfl
  | cons ch bytes ih =>
    rw [bits_cons,List.length_append,ih]
    simp
    omega

theorem bits_injective {bytes others : List UInt8} (length : bytes.length = others.length) (same : bits bytes = bits others) :
    bytes = others := by
  induction bytes generalizing others with
  | nil => exact (List.length_eq_zero_iff.mp length.symm).symm
  | cons ch bytes ih =>
    obtain ⟨other,others,rfl⟩ := List.exists_cons_of_length_eq_add_one length.symm
    rw [bits_cons,bits_cons] at same
    obtain ⟨first,rest⟩ := List.append_inj same (by simp)
    have equal : ch = other := by
      apply UInt8.toBitVec_inj.mp
      apply BitVec.eq_of_getLsbD_eq
      intro i inside
      exact List.map_inj_left.mp first i (List.mem_range.mpr inside)
    rw [equal,ih (Nat.succ.inj length) rest]

/-- The table holds eight shifts of each byte. -/
theorem table_shifts : ∀ i : Fin 256, (crc_table.getD i 0).toBitVec = (shift polynomial)^[8] (BitVec.ofNat 16 i) := by
  decide +kernel

theorem word_byte (ch : UInt8) : word 16 (bits [ch]) = ch.toBitVec.setWidth 16 := by
  apply BitVec.eq_of_getLsbD_eq
  intro i inside
  rw [getLsbD_word,BitVec.getLsbD_setWidth]
  by_cases low : i < 8
  · simp [bits,inside,low]
  · rw [BitVec.getLsbD_of_ge ch.toBitVec i (by omega)]
    simp [bits,low]

theorem low_byte (i : Nat) : (0xff#16).getLsbD i = decide (i < 8) := by
  by_cases inside : i < 16
  · exact (by decide : ∀ i : Fin 16, (0xff#16).getLsbD i = decide (i.val < 8)) ⟨i,inside⟩
  · simp [BitVec.getLsbD_of_ge _ i (by omega : 16 ≤ i),show ¬ i < 8 by omega]

/-- Eight shifts take the table's word of the low byte, and the high byte down. -/
theorem shift_eight (x : BitVec 16) :
    (shift polynomial)^[8] x = (crc_table.getD (x &&& 0xff).toNat 0).toBitVec ^^^ (x >>> 8) := by
  have split : x = (x &&& 0xff#16) ^^^ ((x >>> 8) <<< 8) := by
    apply BitVec.eq_of_getLsbD_eq
    intro i inside
    rw [BitVec.getLsbD_xor,BitVec.getLsbD_and,low_byte,BitVec.getLsbD_shiftLeft,BitVec.getLsbD_ushiftRight]
    by_cases low : i < 8
    · simp [low]
    · simp [low,inside,show 8 + (i - 8) = i by omega]
  have high : ∀ i, 16 ≤ i + 8 → (x >>> 8).getLsbD i = false := by
    intro i beyond
    rw [BitVec.getLsbD_ushiftRight,BitVec.getLsbD_of_ge x _ (by omega)]
  have inside : (x &&& 0xff).toNat < 256 := by
    rw [BitVec.toNat_and]
    exact Nat.lt_succ_of_le Nat.and_le_right
  have low := table_shifts ⟨_,inside⟩
  dsimp only at low
  rw [BitVec.ofNat_toNat,BitVec.setWidth_eq] at low
  rw [low]
  conv_lhs => rw [split]
  rw [iterate_shift_xor,iterate_shift_shiftLeft high]
  rfl

/-- The byte step is eight bit steps. -/
theorem crc_byte_bits (crc : UInt16) (ch : UInt8) :
    (hdlc_crc_byte crc ch).toBitVec = crcBits polynomial crc.toBitVec (bits [ch]) := by
  have down : (crc.toBitVec ^^^ ch.toBitVec.setWidth 16) >>> 8 = crc.toBitVec >>> 8 := by
    apply BitVec.eq_of_getLsbD_eq
    intro i _
    simp
  rw [crcBits_word (by simp),word_byte,bits_length]
  rw [List.length_singleton,Nat.mul_one,shift_eight,down,BitVec.xor_comm]
  rfl

theorem crc_bits (src : List UInt8) (crc : UInt16) :
    (src.foldl hdlc_crc_byte crc).toBitVec = crcBits polynomial crc.toBitVec (bits src) := by
  induction src generalizing crc with
  | nil => rfl
  | cons ch src ih =>
    have split : bits (ch :: src) = bits [ch] ++ bits src := bits_append [ch] src
    rw [List.foldl_cons,ih,crc_byte_bits,split,crcBits_append]

theorem residue : (shift polynomial)^[16] (BitVec.allOnes 16) = 0xf0b8 := by decide +kernel

/-- The check of a remainder is the remainder with its bits turned over. -/
theorem word_check (crc : UInt16) :
    word 16 (bits [(~~~crc &&& 0xff).toUInt8,(~~~crc >>> 8).toUInt8]) = ~~~crc.toBitVec := by
  have split : bits [(~~~crc &&& 0xff).toUInt8,(~~~crc >>> 8).toUInt8] =
    bits [(~~~crc &&& 0xff).toUInt8] ++ bits [(~~~crc >>> 8).toUInt8] := bits_append [_] [_]
  rw [split,word_append,word_byte,word_byte,bits_length]
  apply BitVec.eq_of_getLsbD_eq
  intro i inside
  by_cases low : i < 8
  · simp [inside,low,low_byte]
  · simp [inside,low,show i - 8 < 8 by omega,show 8 + (i - 8) = i by omega]

/-- A message with its check leaves the same remainder as any other. -/
theorem body_residue (src : List UInt8) : (body src).foldl hdlc_crc_byte 0xffff = 0xf0b8 := by
  apply UInt16.toBitVec_inj.mp
  rw [body,List.foldl_append,frame_check,crc_bits,crcBits_word (by simp),word_check,bits_length]
  have turned : ∀ x : BitVec 16, x ^^^ ~~~x = BitVec.allOnes 16 := by
    intro x
    apply BitVec.eq_of_getLsbD_eq
    intro i inside
    rw [BitVec.getLsbD_xor,BitVec.getLsbD_not,BitVec.getLsbD_allOnes]
    simp [inside]
  rw [turned]
  exact residue

/-- A change of one byte is a burst. -/
theorem burst_byte {ch other : UInt8} (differ : other ≠ ch) (rest : List UInt8) : Burst (ch :: rest) (other :: rest) := by
  refine ⟨rfl,fun same => differ (List.cons.inj same).1,0,?_⟩
  intro i differs
  by_contra outside
  apply differs
  rw [bits_cons,bits_cons,List.getElem?_append_right (by simp; omega),List.getElem?_append_right (by simp; omega)]
  simp

/-- A change within 16 consecutive bits is not one into another message. -/
theorem burst_not_body {src corrupted : List UInt8} (burst : Burst (body src) corrupted) (msg : List UInt8) :
    corrupted ≠ body msg := by
  rintro rfl
  obtain ⟨length,differ,start,within⟩ := burst
  refine differ (bits_injective length ?_)
  refine burst_detected polynomial_top (by simp [length]) within (c := (0xffff : UInt16).toBitVec) ?_
  rw [← crc_bits,← crc_bits,body_residue,body_residue]

/-! ## The frames of a stream -/

/-- Where a flag closes a stretch, `raw_buf` holds its frame. -/
theorem trace_stretch {before stretch : List UInt8} (opens : Opens 0x7e before) (free : 0x7e ∉ stretch) :
    ∃ pending, (pending = true ↔ HoldsEscape before) ∧
      (trace (before ++ stretch)).1.raw = unstuff 0x7d toggle pending stretch := by
  obtain ⟨pending,state,holds⟩ := trace_begins opens
  have start : trace before = (decoder [] pending,(trace before).2) := Prod.ext state rfl
  refine ⟨pending,holds,?_⟩
  rw [trace_append,start,feed_stretch free]
  rfl

theorem Frame.append {stream frame : List UInt8} (framed : Frame stream frame) (more : List UInt8) :
    Frame (stream ++ more) frame := by
  obtain ⟨before,stretch,rest,pending,rfl,opens,free,roomy,holds,same⟩ := framed
  exact ⟨before,stretch,rest ++ more,pending,by simp,opens,free,roomy,holds,same⟩

/-- A byte more closes a frame or does not. -/
theorem frame_concat {stream frame : List UInt8} {ch : UInt8} (roomy : Roomy stream) :
    Frame (stream ++ [ch]) frame ↔ Frame stream frame ∨ ch = 0x7e ∧ frame = (trace stream).1.raw := by
  constructor
  · rintro ⟨before,stretch,rest,pending,split,opens,free,fits,holds,same⟩
    rcases List.eq_nil_or_concat rest with rfl | ⟨more,last,rfl⟩
    · obtain ⟨rfl,flag⟩ := List.append_inj' split rfl
      obtain ⟨other,holds',raw⟩ := trace_stretch opens free
      have agree : pending = other := by rw [Bool.eq_iff_iff,holds,holds']
      exact .inr ⟨(List.cons.inj flag).1,by rw [same,raw,agree]⟩
    · have longer : stream ++ [ch] = (before ++ stretch ++ 0x7e :: more) ++ [last] := by simpa using split
      obtain ⟨rfl,_⟩ := List.append_inj' longer rfl
      exact .inl ⟨before,stretch,more,pending,rfl,opens,free,fits,holds,same⟩
  · rintro (framed | ⟨rfl,rfl⟩)
    · exact framed.append [ch]
    · obtain ⟨before,split,opens,free⟩ := sinceFlag_split 0x7e stream
      obtain ⟨pending,holds,raw⟩ := trace_stretch opens free
      rw [← split] at raw
      exact ⟨before,sinceFlag 0x7e stream,[],pending,by rw [← split],opens,free,by rwa [← split],holds,raw⟩

/-- What is returned is the frames that are not empty. -/
theorem mem_trace {bytes : List UInt8} {msg : Message} (roomy : Roomy bytes) :
    msg ∈ (trace bytes).2 ↔ ∃ frame, Frame bytes frame ∧ frame ≠ [] ∧ msg = message frame := by
  induction bytes using List.reverseRecOn with
  | nil =>
    constructor
    · intro member
      simp at member
    · rintro ⟨frame,⟨before,stretch,rest,_,split,_⟩,_⟩
      simp at split
  | append_singleton bytes ch ih =>
    obtain ⟨early,_⟩ := roomy_concat.mp roomy
    have added : msg ∈ (trace (bytes ++ [ch])).2 ↔
        msg ∈ (trace bytes).2 ∨ ch = 0x7e ∧ (trace bytes).1.raw ≠ [] ∧ msg = message (trace bytes).1.raw := by
      rw [trace_concat]
      by_cases flag : ch = 0x7e
      · subst flag
        by_cases nothing : (trace bytes).1.raw = []
        · simp [feed_flag,decode_end,nothing]
        · simp [feed_flag,decode_end,nothing,message]
      · by_cases escape : ch = 0x7d
        · subst escape
          simp [feed_escape]
        · simp [feed_byte flag escape,flag]
    rw [added,ih early]
    simp only [frame_concat early]
    constructor
    · rintro (⟨frame,framed,some,same⟩ | ⟨flag,some,same⟩)
      · exact ⟨frame,.inl framed,some,same⟩
      · exact ⟨_,.inr ⟨flag,rfl⟩,some,same⟩
    · rintro ⟨frame,framed | ⟨flag,rfl⟩,some,same⟩
      · exact .inl ⟨frame,framed,some,same⟩
      · exact .inr ⟨flag,some,same⟩

/-- A frame fits `raw_buf`. -/
theorem Frame.short {stream frame : List UInt8} (framed : Frame stream frame) : frame.length ≤ HDLC_BUF_SIZE := by
  obtain ⟨before,stretch,rest,pending,_,opens,free,roomy,_,rfl⟩ := framed
  have last := roomy _ List.prefix_rfl
  rw [sinceFlag_eq opens free] at last
  rw [unstuff_length]
  exact last

/-! ## Runs -/

theorem checked_of_bodies {stream : List UInt8} {buf : CircBuf} (empty : buf.head = buf.tail) (inside : buf.tail < HDLC_BUF_SIZE)
    (bodies : ∀ frame, Frame stream frame → frame ≠ [] → ∃ src, frame = body src) {ops : List WireOp} {after : Wire}
    {returned : List Message} (run : emit wire_step ⟨stream,.zeroed,buf⟩ ops = .ok (after,returned)) :
    ∀ msg ∈ returned, Checked msg := by
  intro msg member
  obtain ⟨consumed,reached⟩ := run_reached (reached_start empty inside stream).1 run
  simp only [List.nil_append] at reached
  have same : (trace consumed).2 = returned := by rw [reached.state]
  rw [← same,mem_trace reached.roomy] at member
  obtain ⟨frame,framed,some,rfl⟩ := member
  have whole : Frame stream frame := reached.place ▸ framed.append _
  obtain ⟨src,rfl⟩ := bodies frame whole some
  have fits := framed.short
  rw [body_length] at fits
  exact ⟨src,message_payload (by omega),rfl⟩

theorem bodies_of_checked {stream : List UInt8} {buf : CircBuf} (empty : buf.head = buf.tail) (inside : buf.tail < HDLC_BUF_SIZE)
    (checked : ∀ ops after returned, emit wire_step ⟨stream,.zeroed,buf⟩ ops = .ok (after,returned) →
      ∀ msg ∈ returned, Checked msg) {frame : List UInt8} (framed : Frame stream frame) (some : frame ≠ []) :
    ∃ src, frame = body src := by
  obtain ⟨before,stretch,rest,pending,rfl,opens,free,roomy,holds,same⟩ := framed
  -- The run that ends with the flag of the frame returns it.
  have closed : Roomy (before ++ stretch ++ [0x7e]) := by
    refine roomy_concat.mpr ⟨roomy,?_⟩
    rw [stored_flag]
    exact Nat.zero_le _
  obtain ⟨begun,nothing⟩ := reached_start empty inside (before ++ stretch ++ 0x7e :: rest)
  obtain ⟨after,returned,run,reached,_⟩ := bytewise_reached begun nothing (List.append_cons _ _ rest) closed
  have traced : (trace (before ++ stretch ++ [0x7e])).2 = returned := congrArg Prod.snd reached.state
  have member : message frame ∈ returned := by
    rw [← traced,mem_trace closed]
    exact ⟨frame,⟨before,stretch,[],pending,rfl,opens,free,roomy,holds,same⟩,some,rfl⟩
  obtain ⟨src,_,split⟩ := checked _ _ _ run _ member
  exact ⟨src,split⟩

/-- The frame of a corrupted body is returned like any other. -/
theorem corrupted_returned {corrupted : List UInt8} {buf : CircBuf} (empty : buf.head = buf.tail)
    (inside : buf.tail < HDLC_BUF_SIZE) (some : corrupted ≠ []) (fits : corrupted.length ≤ HDLC_BUF_SIZE) :
    Returns (stuff 0x7e 0x7d toggle corrupted ++ [0x7e]) buf [message corrupted] := by
  have free := flag_not_mem_stuff transparent corrupted
  rw [returns_iff empty inside]
  constructor
  · rw [← List.nil_append (stuff _ _ _ _),roomy_concat,roomy_stretch roomy_nil (.inl rfl) free,stored_stuff,stored_flag]
    exact ⟨fits,Nat.zero_le _⟩
  · have begins : (trace []).1 = decoder [] false := rfl
    have added := trace_frame begins some
    rw [List.nil_append,unstuff_stuff transparent] at added
    exact added.symm

/-- A receiver returns checked messages only if every frame it is sent is one
    that the encoder writes; a frame changed within 16 consecutive bits is none
    of these, and is returned all the same. -/
theorem frame_check_iff {buf : CircBuf} (empty : buf.head = buf.tail) (inside : buf.tail < HDLC_BUF_SIZE) :
    (∀ stream, (∀ ops after returned, emit wire_step ⟨stream,.zeroed,buf⟩ ops = .ok (after,returned) →
        ∀ msg ∈ returned, Checked msg) ↔
      ∀ frame, Frame stream frame → frame ≠ [] → ∃ src, frame = body src) ∧
    ∀ src corrupted, src.length ≤ HDLC_BUF_SIZE - 2 → Burst (body src) corrupted →
      (∀ msg, corrupted ≠ body msg) ∧
      ∃ msg, Returns (stuff 0x7e 0x7d toggle corrupted ++ [0x7e]) buf [msg] ∧
        msg.payload = .ok (corrupted.take src.length) := by
  constructor
  · intro stream
    constructor
    · intro checked frame framed some
      exact bodies_of_checked empty inside checked framed some
    · intro bodies ops after returned run
      exact checked_of_bodies empty inside bodies run
  · intro src corrupted short burst
    have length : corrupted.length = src.length + 2 := burst.1.trans (body_length src)
    refine ⟨burst_not_body burst,message corrupted,?_,?_⟩
    · exact corrupted_returned empty inside (List.ne_nil_of_length_pos (by omega)) (by unfold HDLC_BUF_SIZE at *; omega)
    · rw [message_take (by omega) (by unfold HDLC_BUF_SIZE at *; omega),length,Nat.add_sub_cancel]

/-- The frame of 0x41, and the same with its low bit turned over. -/
theorem frame_check_iff_bit :
    ((∀ ops after returned, emit wire_step ⟨[0x41,0xf5,0xa3,0x7e],.zeroed,⟨fun _ => 0,0,0⟩⟩ ops = .ok (after,returned) →
        ∀ msg ∈ returned, Checked msg) ↔
      ∀ frame, Frame [0x41,0xf5,0xa3,0x7e] frame → frame ≠ [] → ∃ src, frame = body src) ∧
    (∀ msg, [0x40,0xf5,0xa3] ≠ body msg) ∧
    ∃ msg, Returns (stuff 0x7e 0x7d toggle [0x40,0xf5,0xa3] ++ [0x7e]) ⟨fun _ => 0,0,0⟩ [msg] ∧
      msg.payload = .ok [0x40] := by
  have both := @frame_check_iff ⟨fun _ => 0,0,0⟩ rfl (by decide)
  exact ⟨both.1 _,both.2 [0x41] [0x40,0xf5,0xa3] (by decide) (burst_byte (by decide) [0xf5,0xa3])⟩

/-- The frame of 0x41 with its low bit turned over is returned as 0x40. -/
theorem turned_bit_returned :
    body [0x41] = [0x41,0xf5,0xa3] ∧ Burst (body [0x41]) [0x40,0xf5,0xa3] ∧
    (fun r => r.2.map Message.payload) <$> emit wire_step ⟨[0x40,0xf5,0xa3,0x7e],.zeroed,⟨fun _ => 0,0,0⟩⟩
      [.read [.upto 8],.decode] = .ok [.ok [0x40]] ∧
    ¬ ∀ ops after returned, emit wire_step ⟨[0x40,0xf5,0xa3,0x7e],.zeroed,⟨fun _ => 0,0,0⟩⟩ ops = .ok (after,returned) →
      ∀ msg ∈ returned, Checked msg := by
  have burst : Burst (body [0x41]) [0x40,0xf5,0xa3] := burst_byte (by decide) [0xf5,0xa3]
  refine ⟨by decide +kernel,burst,by decide +kernel,?_⟩
  intro checked
  have framed : Frame [0x40,0xf5,0xa3,0x7e] [0x40,0xf5,0xa3] := by
    have escapes : ¬ HoldsEscape [] := by
      rintro ⟨before,rest,split,_⟩
      simp at split
    exact ⟨[],[0x40,0xf5,0xa3],[],false,rfl,.inl rfl,by decide,roomy_of_length (by decide),by simp [escapes],by decide⟩
  obtain ⟨src,same⟩ := bodies_of_checked rfl (by decide) checked framed (by simp)
  exact burst_not_body burst src same

end DiagRouter.FrameCheck

import DiagRouter.FrameCheck

/-!
# What hdlc_encode writes

The check of a frame, bit by bit, and the frame itself, byte by byte into the
block that is allocated for it.
-/
namespace DiagRouter.HdlcEncode
open DiagRouter.Lib.Memory DiagRouter.Lib.Stuffing DiagRouter.Lib.Crc DiagRouter.Hdlc DiagRouter.FrameCheck

/-! ## The check, bit by bit -/

/-- One bit: the remainder moves down, and takes the polynomial where the bit
    that leaves it is not the bit of the message. -/
def crc_bit (crc : UInt16) (bit : Bool) : UInt16 :=
  if crc.toBitVec.getLsbD 0 ^^ bit then (crc >>> 1) ^^^ 0x8408 else crc >>> 1

/-- The bits of each byte, the least significant one first. -/
def crc_serial (crc : UInt16) (src : List UInt8) : UInt16 :=
  src.foldl (fun crc ch => (List.range 8).foldl (fun crc i => crc_bit crc (ch.toBitVec.getLsbD i)) crc) crc

theorem crc_bit_toBitVec (crc : UInt16) (bit : Bool) : (crc_bit crc bit).toBitVec = crcBits polynomial crc.toBitVec [bit] := by
  have down : (crc.toBitVec ^^^ (BitVec.ofBool bit).setWidth 16) >>> 1 = crc.toBitVec >>> 1 := by
    apply BitVec.eq_of_getLsbD_eq
    intro i _
    cases bit <;> simp
  have low : (crc.toBitVec ^^^ (BitVec.ofBool bit).setWidth 16).getLsbD 0 = (crc.toBitVec.getLsbD 0 ^^ bit) := by
    cases bit <;> simp
  rw [crcBits_cons,crcBits_nil,shift,down,low,crc_bit]
  split_ifs <;> rfl

theorem crc_bits_toBitVec (bits : List Bool) (crc : UInt16) :
    (bits.foldl crc_bit crc).toBitVec = crcBits polynomial crc.toBitVec bits := by
  induction bits generalizing crc with
  | nil => rfl
  | cons bit bits ih => rw [List.foldl_cons,ih,crc_bit_toBitVec,← crcBits_append,List.singleton_append]

/-- A step by the table is eight steps by a bit. -/
theorem crc_byte_serial (crc : UInt16) (ch : UInt8) :
    hdlc_crc_byte crc ch = (List.range 8).foldl (fun crc i => crc_bit crc (ch.toBitVec.getLsbD i)) crc := by
  apply UInt16.toBitVec_inj.mp
  rw [crc_byte_bits,← List.foldl_map,crc_bits_toBitVec,bits,List.flatMap_singleton]

theorem crc_serial_eq (src : List UInt8) (crc : UInt16) : src.foldl hdlc_crc_byte crc = crc_serial crc src := by
  induction src generalizing crc with
  | nil => rfl
  | cons ch src ih =>
    rw [List.foldl_cons,ih,crc_byte_serial]
    rfl

theorem hdlc_encode_escaped (src : List UInt8) : hdlc_encode src = (src ++ frame_check src).flatMap escaped ++ [0x7e] :=
  hdlc_encode_eq src

/-- The table computes the remainder that bits give one at a time; and over the
    two bytes that are appended it always ends at the same one. -/
theorem table_crc_serial (src : List UInt8) :
    src.foldl hdlc_crc_byte 0xffff = crc_serial 0xffff src ∧
      hdlc_encode src = (src ++ frame_check src).flatMap escaped ++ [0x7e] ∧
      (frame_check src).foldl hdlc_crc_byte (src.foldl hdlc_crc_byte 0xffff) = 0xf0b8 := by
  refine ⟨crc_serial_eq src 0xffff,hdlc_encode_escaped src,?_⟩
  have residue := body_residue src
  rw [body,List.foldl_append] at residue
  exact residue

/-! ## The frame in its block -/

/-- The block `dst`, and the cursor `d` in it. -/
structure Output where
  dst : List UInt8
  d : Nat

/-- `*d++ = ch`. -/
def put (out : Output) (ch : UInt8) : Except Fault Output :=
  (fun dst => ⟨dst,out.d + 1⟩) <$> store out.dst out.d [ch]

def put_escaped (out : Output) (ch : UInt8) : Except Fault Output :=
  if ch = 0x7d ∨ ch = 0x7e then put out 0x7d >>= fun out => put out (ch ^^^ 0x20) else put out ch

/-- The loop over the source. -/
def source_loop : List UInt8 → UInt16 → Output → Except Fault (UInt16 × Output)
  | [], crc, out => .ok (crc,out)
  | s :: rest, crc, out => put_escaped out s >>= source_loop rest (hdlc_crc_byte crc s)

/-- The loop over the two bytes of the check. -/
def tmp_loop : List UInt8 → Output → Except Fault Output
  | [], out => .ok out
  | s :: rest, out => put_escaped out s >>= tmp_loop rest

/-- `hdlc_encode` with its block: what it returns, and `*dlen`. -/
def hdlc_encode_block (junk : Nat → UInt8) (src : List UInt8) : Except Fault (List UInt8 × Nat) := do
  let (crc,out) ← source_loop src 0xffff ⟨span junk 0 ((src.length + 2) * 2 + 1),0⟩
  let out ← tmp_loop [(~~~crc &&& 0xff).toUInt8,(~~~crc >>> 8).toUInt8] out
  let out ← put out 0x7e
  return (out.dst,out.d)

/-- Bytes with a special meaning in a frame. -/
def special (ch : UInt8) : Bool := ch = 0x7d || ch = 0x7e

/-- A frame of a source in the block that was allocated for it. -/
structure Shape (src dst : List UInt8) (dlen : Nat) : Prop where
  allocated : dst.length = (src.length + 2) * 2 + 1
  inside : dlen ≤ (src.length + 2) * 2 + 1
  length : dlen = src.length + 3 + (src ++ frame_check src).countP special
  flag : (dst.take dlen).count 0x7e = 1 ∧ (dst.take dlen).getLast? = some 0x7e
  escapes : ∀ i : Nat, (dst.take dlen)[i]? = some 0x7d → (dst.take dlen)[i + 1]? = some 0x5d ∨ (dst.take dlen)[i + 1]? = some 0x5e

/-- A block that is written up to the cursor, and what is behind it. -/
def filled (written room : List UInt8) : Output := ⟨written ++ room,written.length⟩

section
variable {written room : List UInt8}

theorem put_filled (ch : UInt8) (some : 1 ≤ room.length) :
    put (filled written room) ch = .ok (filled (written ++ [ch]) (room.drop 1)) := by
  obtain ⟨old,rest,rfl⟩ := List.exists_cons_of_length_pos some
  have stored := @store_over UInt8 written [old] [ch] rest rfl
  rw [List.append_assoc,List.singleton_append] at stored
  rw [put,filled,stored]
  simp [filled]

theorem put_escaped_filled (ch : UInt8) (some : (escaped ch).length ≤ room.length) :
    put_escaped (filled written room) ch = .ok (filled (written ++ escaped ch) (room.drop (escaped ch).length)) := by
  unfold put_escaped
  unfold escaped at some ⊢
  split_ifs at some ⊢
  · rw [List.length_cons,List.length_singleton] at some
    rw [put_filled _ (by omega),ok_bind,put_filled _ (by rw [List.length_drop]; omega),List.append_assoc,List.drop_drop]
    rfl
  · exact put_filled ch some

theorem escaped_room {ch : UInt8} {rest : List UInt8} (some : ((ch :: rest).flatMap escaped).length ≤ room.length) :
    (escaped ch).length ≤ room.length ∧ (rest.flatMap escaped).length ≤ (room.drop (escaped ch).length).length := by
  rw [List.flatMap_cons,List.length_append] at some
  rw [List.length_drop]
  omega

/-- The source is written behind what has been written, as long as there is
    room. -/
theorem source_loop_filled {src : List UInt8} (crc : UInt16) (some : (src.flatMap escaped).length ≤ room.length) :
    source_loop src crc (filled written room) = .ok (src.foldl hdlc_crc_byte crc,
      filled (written ++ src.flatMap escaped) (room.drop (src.flatMap escaped).length)) := by
  induction src generalizing written room crc with
  | nil => simp [source_loop]
  | cons s rest ih =>
    obtain ⟨first,others⟩ := escaped_room some
    rw [source_loop,put_escaped_filled s first,ok_bind,ih (hdlc_crc_byte crc s) others,List.flatMap_cons,List.append_assoc,
      List.drop_drop,List.length_append]
    rfl

theorem tmp_loop_filled {tmp : List UInt8} (some : (tmp.flatMap escaped).length ≤ room.length) :
    tmp_loop tmp (filled written room) =
      .ok (filled (written ++ tmp.flatMap escaped) (room.drop (tmp.flatMap escaped).length)) := by
  induction tmp generalizing written room with
  | nil => simp [tmp_loop]
  | cons s rest ih =>
    obtain ⟨first,others⟩ := escaped_room some
    rw [tmp_loop,put_escaped_filled s first,ok_bind,ih others,List.flatMap_cons,List.append_assoc,List.drop_drop,
      List.length_append]

end

/-- Every byte is written inside the block; what is written is the frame. -/
theorem encode_block_eq (junk : Nat → UInt8) (src : List UInt8) :
    ∃ rest, (hdlc_encode src ++ rest).length = (src.length + 2) * 2 + 1 ∧
      hdlc_encode_block junk src = .ok (hdlc_encode src ++ rest,(hdlc_encode src).length) := by
  have fits := hdlc_encode_length src
  rw [hdlc_encode_escaped,List.flatMap_append,List.length_append,List.length_append,List.length_singleton] at fits
  obtain ⟨block,length,begun⟩ : ∃ block, block.length = (src.length + 2) * 2 + 1 ∧
      (⟨span junk 0 ((src.length + 2) * 2 + 1),0⟩ : Output) = filled [] block := ⟨_,span_length _ _ _,rfl⟩
  have first := @source_loop_filled [] block src 0xffff (by omega)
  have second := @tmp_loop_filled ([] ++ src.flatMap escaped) (block.drop (src.flatMap escaped).length) (frame_check src)
    (by rw [List.length_drop]; omega)
  rw [List.drop_drop] at second
  have last := @put_filled ([] ++ src.flatMap escaped ++ (frame_check src).flatMap escaped)
    (block.drop ((src.flatMap escaped).length + ((frame_check src).flatMap escaped).length)) 0x7e (by rw [List.length_drop]; omega)
  have frame : [] ++ src.flatMap escaped ++ (frame_check src).flatMap escaped ++ [0x7e] = hdlc_encode src := by
    rw [hdlc_encode_escaped,List.flatMap_append,List.nil_append]
  rw [List.drop_drop,frame] at last
  refine ⟨block.drop ((src.flatMap escaped).length + ((frame_check src).flatMap escaped).length + 1),?_,?_⟩
  · rw [hdlc_encode_escaped,List.flatMap_append]
    simp only [List.length_append,List.length_drop,List.length_singleton]
    omega
  · rw [hdlc_encode_block,begun,first,ok_bind]
    refine (congrArg (fun x => x >>= fun out => put out 0x7e >>= fun out => pure (out.dst,out.d)) second).trans ?_
    rw [ok_bind,last]
    rfl

/-- A frame is twice as long as its source and check at most, and ends with its
    only flag; and every escape in it is followed by a toggled byte. -/
theorem hdlc_encode_shape (junk : Nat → UInt8) (src : List UInt8) :
    ∃ dst dlen, hdlc_encode_block junk src = .ok (dst,dlen) ∧ dst.take dlen = hdlc_encode src ∧ Shape src dst dlen := by
  obtain ⟨rest,allocated,ran⟩ := encode_block_eq junk src
  have taken : (hdlc_encode src ++ rest).take (hdlc_encode src).length = hdlc_encode src := List.take_left
  refine ⟨_,_,ran,taken,allocated,hdlc_encode_length src,?_,?_,?_⟩
  · have same : (body src).countP (fun ch => decide (ch = 0x7d ∨ ch = 0x7e)) = (src ++ frame_check src).countP special :=
      List.countP_congr (fun ch _ => by simp [special])
    rw [hdlc_encode_eq,List.length_append,stuff_length,List.length_singleton,body_length,same]
    omega
  · rw [taken,hdlc_encode_eq]
    have free := List.count_eq_zero_of_not_mem (flag_not_mem_stuff transparent (body src))
    rw [List.count_append,free]
    exact ⟨rfl,by simp⟩
  · rw [taken,hdlc_encode_eq]
    intro i escape
    by_cases before : i < (stuff 0x7e 0x7d toggle (body src)).length
    · rw [List.getElem?_append_left before] at escape
      obtain ⟨ch,special,next⟩ := stuff_escape transparent escape
      have within := (List.getElem?_eq_some_iff.mp next).1
      rw [List.getElem?_append_left within,next]
      rcases special with rfl | rfl
      · exact .inl rfl
      · exact .inr rfl
    · rw [List.getElem?_append_right (by omega)] at escape
      have last := List.mem_singleton.mp (List.mem_of_getElem? escape)
      exact absurd last (by decide)

end DiagRouter.HdlcEncode

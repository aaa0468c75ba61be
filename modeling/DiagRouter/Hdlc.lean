import DiagRouter.CircRead
import DiagRouter.Lib.Stuffing

/-!
# HDLC framing

`hdlc_encode` and `hdlc_decode_one`. The encoder's output is a stuffed frame of
the message and its CRC; the decoder on the ring is `scan_one` on the bytes the
ring holds.
-/
namespace DiagRouter.Hdlc
open DiagRouter.Lib.Memory DiagRouter.Lib.Ring DiagRouter.Lib.Stuffing DiagRouter.CircRead

def crc_table : List UInt16 :=
  [0x0000,0x1189,0x2312,0x329b,0x4624,0x57ad,0x6536,0x74bf,0x8c48,0x9dc1,0xaf5a,0xbed3,0xca6c,0xdbe5,
   0xe97e,0xf8f7,0x1081,0x0108,0x3393,0x221a,0x56a5,0x472c,0x75b7,0x643e,0x9cc9,0x8d40,0xbfdb,0xae52,
   0xdaed,0xcb64,0xf9ff,0xe876,0x2102,0x308b,0x0210,0x1399,0x6726,0x76af,0x4434,0x55bd,0xad4a,0xbcc3,
   0x8e58,0x9fd1,0xeb6e,0xfae7,0xc87c,0xd9f5,0x3183,0x200a,0x1291,0x0318,0x77a7,0x662e,0x54b5,0x453c,
   0xbdcb,0xac42,0x9ed9,0x8f50,0xfbef,0xea66,0xd8fd,0xc974,0x4204,0x538d,0x6116,0x709f,0x0420,0x15a9,
   0x2732,0x36bb,0xce4c,0xdfc5,0xed5e,0xfcd7,0x8868,0x99e1,0xab7a,0xbaf3,0x5285,0x430c,0x7197,0x601e,
   0x14a1,0x0528,0x37b3,0x263a,0xdecd,0xcf44,0xfddf,0xec56,0x98e9,0x8960,0xbbfb,0xaa72,0x6306,0x728f,
   0x4014,0x519d,0x2522,0x34ab,0x0630,0x17b9,0xef4e,0xfec7,0xcc5c,0xddd5,0xa96a,0xb8e3,0x8a78,0x9bf1,
   0x7387,0x620e,0x5095,0x411c,0x35a3,0x242a,0x16b1,0x0738,0xffcf,0xee46,0xdcdd,0xcd54,0xb9eb,0xa862,
   0x9af9,0x8b70,0x8408,0x9581,0xa71a,0xb693,0xc22c,0xd3a5,0xe13e,0xf0b7,0x0840,0x19c9,0x2b52,0x3adb,
   0x4e64,0x5fed,0x6d76,0x7cff,0x9489,0x8500,0xb79b,0xa612,0xd2ad,0xc324,0xf1bf,0xe036,0x18c1,0x0948,
   0x3bd3,0x2a5a,0x5ee5,0x4f6c,0x7df7,0x6c7e,0xa50a,0xb483,0x8618,0x9791,0xe32e,0xf2a7,0xc03c,0xd1b5,
   0x2942,0x38cb,0x0a50,0x1bd9,0x6f66,0x7eef,0x4c74,0x5dfd,0xb58b,0xa402,0x9699,0x8710,0xf3af,0xe226,
   0xd0bd,0xc134,0x39c3,0x284a,0x1ad1,0x0b58,0x7fe7,0x6e6e,0x5cf5,0x4d7c,0xc60c,0xd785,0xe51e,0xf497,
   0x8028,0x91a1,0xa33a,0xb2b3,0x4a44,0x5bcd,0x6956,0x78df,0x0c60,0x1de9,0x2f72,0x3efb,0xd68d,0xc704,
   0xf59f,0xe416,0x90a9,0x8120,0xb3bb,0xa232,0x5ac5,0x4b4c,0x79d7,0x685e,0x1ce1,0x0d68,0x3ff3,0x2e7a,
   0xe70e,0xf687,0xc41c,0xd595,0xa12a,0xb0a3,0x8238,0x93b1,0x6b46,0x7acf,0x4854,0x59dd,0x2d62,0x3ceb,
   0x0e70,0x1ff9,0xf78f,0xe606,0xd49d,0xc514,0xb1ab,0xa022,0x92b9,0x8330,0x7bc7,0x6a4e,0x58d5,0x495c,
   0x3de3,0x2c6a,0x1ef1,0x0f78]

def hdlc_crc_byte (crc : UInt16) (ch : UInt8) : UInt16 :=
  (crc >>> 8) ^^^ crc_table.getD ((crc ^^^ ch.toUInt16) &&& 0xff).toNat 0

/-- What one byte of a frame is written as. -/
def escaped (ch : UInt8) : List UInt8 := if ch = 0x7d ∨ ch = 0x7e then [0x7d,ch ^^^ 0x20] else [ch]

def encode_loop : List UInt8 → UInt16 → List UInt8 → UInt16 × List UInt8
  | [], crc, dst => (crc,dst)
  | ch :: rest, crc, dst => encode_loop rest (hdlc_crc_byte crc ch) (dst ++ escaped ch)

def hdlc_encode (src : List UInt8) : List UInt8 :=
  let (crc,dst) := encode_loop src 0xffff []
  let tmp := [(~~~crc &&& 0xff).toUInt8,(~~~crc >>> 8).toUInt8]
  tmp.foldl (fun d ch => d ++ escaped ch) dst ++ [0x7e]

/-- `raw_buf` up to the cursor `raw`, and the pending escape. -/
structure HdlcDecoder where
  raw : List UInt8
  escape : UInt8
deriving DecidableEq, Repr

/-- A zeroed decoder, whose first use points `raw` to `raw_buf`. -/
def HdlcDecoder.zeroed : HdlcDecoder := ⟨[],0⟩

/-- A decoded message: `raw_buf` as far as the frame was stored, and `*msglen`. -/
structure Message where
  raw_buf : List UInt8
  msglen : Nat
deriving DecidableEq, Repr

/-- The bytes a receiver of the message reads. -/
def Message.payload (msg : Message) : Except Fault (List UInt8) := load msg.raw_buf msg.msglen

/-- `*hdlc->raw++ = ch ^ hdlc->escape`. -/
def raw_store (hdlc : HdlcDecoder) (ch : UInt8) : Except Fault HdlcDecoder :=
  if hdlc.raw.length < HDLC_BUF_SIZE then .ok ⟨hdlc.raw ++ [ch ^^^ hdlc.escape],0⟩ else .error .outOfBounds

/-- The byte loop; the answer says whether a flag ended it. More rounds than a
    ring has cells mean that `tail` never meets `head`. -/
def decode_loop : Nat → HdlcDecoder → CircBuf → Except Fault (Bool × HdlcDecoder × CircBuf)
  | 0, _, _ => .error .hang
  | fuel+1, hdlc, buf =>
    if buf.tail = buf.head then .ok (false,hdlc,buf)
    else
      let ch := buf.buf buf.tail
      let popped : CircBuf := { buf with tail := (buf.tail + 1) &&& (HDLC_BUF_SIZE - 1) }
      if ch = 0x7e then .ok (true,hdlc,popped)
      else if ch = 0x7d then decode_loop fuel { hdlc with escape := 0x20 } popped
      else raw_store hdlc ch >>= fun stored => decode_loop fuel stored popped

/-- What follows the loop. -/
def decode_end {β : Type} : Bool × HdlcDecoder × β → Option Message × HdlcDecoder × β
  | (flag,hdlc,rest) =>
    if flag = false ∨ hdlc.raw = [] then (none,hdlc,rest)
    else (some ⟨hdlc.raw,size_t (hdlc.raw.length - 2)⟩,.zeroed,rest)

def hdlc_decode_one (hdlc : HdlcDecoder) (buf : CircBuf) : Except Fault (Option Message × HdlcDecoder × CircBuf) :=
  decode_end <$> decode_loop (HDLC_BUF_SIZE + 1) hdlc buf

/-- `hdlc_decode_one` until it returns NULL, the messages in order. Each one
    takes a flag out of the ring. -/
def decode_until_null : Nat → HdlcDecoder → CircBuf → Except Fault (List Message × HdlcDecoder × CircBuf)
  | 0, _, _ => .error .hang
  | fuel+1, hdlc, buf =>
    hdlc_decode_one hdlc buf >>= fun
      | (none,hdlc,buf) => .ok ([],hdlc,buf)
      | (some msg,hdlc,buf) => (fun (msgs,rest) => (msg :: msgs,rest)) <$> decode_until_null fuel hdlc buf

/-! ## The encoder writes a stuffed frame -/

def toggle (ch : UInt8) : UInt8 := ch ^^^ 0x20

/-- The two bytes of frame check. -/
def frame_check (src : List UInt8) : List UInt8 :=
  let crc := src.foldl hdlc_crc_byte 0xffff
  [(~~~crc &&& 0xff).toUInt8,(~~~crc >>> 8).toUInt8]

/-- What a frame carries. -/
def body (src : List UInt8) : List UInt8 := src ++ frame_check src

theorem transparent : Transparent (0x7e : UInt8) 0x7d toggle where
  distinct := by decide
  plain := by
    rintro x (rfl | rfl) <;> decide
  back := by
    rintro x (rfl | rfl) <;> decide

theorem escaped_eq (ch : UInt8) : escaped ch = stuff 0x7e 0x7d toggle [ch] := by
  simp [escaped,stuff,toggle]

theorem body_length (src : List UInt8) : (body src).length = src.length + 2 := by
  simp [body,frame_check]

theorem body_ne_nil (src : List UInt8) : body src ≠ [] :=
  List.ne_nil_of_length_pos (by rw [body_length]; omega)

theorem bodies_ne_nil (msgs : List (List UInt8)) : ∀ framed ∈ msgs.map body, framed ≠ [] := by
  intro framed member
  obtain ⟨src,_,rfl⟩ := List.mem_map.mp member
  exact body_ne_nil src

theorem encode_loop_eq (src : List UInt8) (crc : UInt16) (dst : List UInt8) :
    encode_loop src crc dst = (src.foldl hdlc_crc_byte crc,dst ++ stuff 0x7e 0x7d toggle src) := by
  induction src generalizing crc dst with
  | nil => simp [encode_loop]
  | cons ch rest ih =>
    rw [encode_loop,ih,escaped_eq,List.append_assoc,← stuff_append]
    rfl

theorem foldl_escaped (tmp dst : List UInt8) :
    tmp.foldl (fun d ch => d ++ escaped ch) dst = dst ++ stuff 0x7e 0x7d toggle tmp := by
  induction tmp generalizing dst with
  | nil => simp
  | cons ch rest ih =>
    rw [List.foldl_cons,ih,escaped_eq,List.append_assoc,← stuff_append]
    rfl

theorem hdlc_encode_eq (src : List UInt8) : hdlc_encode src = stuff 0x7e 0x7d toggle (body src) ++ [0x7e] := by
  rw [hdlc_encode,encode_loop_eq,body,stuff_append]
  dsimp only
  rw [foldl_escaped,List.nil_append]
  rfl

/-- Encoded messages are frames of their bodies. -/
theorem hdlc_encode_frames (msgs : List (List UInt8)) :
    msgs.flatMap hdlc_encode = frames 0x7e 0x7d toggle (msgs.map body) := by
  induction msgs with
  | nil => rfl
  | cons src msgs ih => simp [frames_cons,hdlc_encode_eq,ih]

theorem stuff_length_le (xs : List UInt8) : (stuff 0x7e 0x7d toggle xs).length ≤ 2 * xs.length := by
  induction xs with
  | nil => simp
  | cons x xs ih =>
    by_cases special : x = 0x7d ∨ x = 0x7e
    · rw [stuff_cons_special special]
      simp only [List.length_cons]
      omega
    · rw [stuff_cons_plain special]
      simp only [List.length_cons]
      omega

/-- The frame fits the `(slen + 2) * 2 + 1` bytes allocated for it. -/
theorem hdlc_encode_length (src : List UInt8) : (hdlc_encode src).length ≤ (src.length + 2) * 2 + 1 := by
  have length := body_length src
  have stuffed := stuff_length_le (body src)
  rw [hdlc_encode_eq,List.length_append,List.length_singleton]
  omega

/-! ## The decoder reads what the ring holds -/

/-- The byte loop on a list of bytes. -/
def scan : HdlcDecoder → List UInt8 → Except Fault (Bool × HdlcDecoder × List UInt8)
  | hdlc, [] => .ok (false,hdlc,[])
  | hdlc, ch :: rest =>
    if ch = 0x7e then .ok (true,hdlc,rest)
    else if ch = 0x7d then scan { hdlc with escape := 0x20 } rest
    else raw_store hdlc ch >>= fun stored => scan stored rest

def scan_one (hdlc : HdlcDecoder) (bytes : List UInt8) : Except Fault (Option Message × HdlcDecoder × List UInt8) :=
  decode_end <$> scan hdlc bytes

def scan_until_null : Nat → HdlcDecoder → List UInt8 → Except Fault (List Message × HdlcDecoder × List UInt8)
  | 0, _, _ => .error .hang
  | fuel+1, hdlc, bytes =>
    scan_one hdlc bytes >>= fun
      | (none,hdlc,rest) => .ok ([],hdlc,rest)
      | (some msg,hdlc,rest) => (fun (msgs,left) => (msg :: msgs,left)) <$> scan_until_null fuel hdlc rest

/-- A computation on a ring that ends like one on the bytes it holds. -/
inductive Follows {α : Type} :
    Except Fault (α × HdlcDecoder × CircBuf) → Except Fault (α × HdlcDecoder × List UInt8) → Prop
  | fault (e : Fault) : Follows (.error e) (.error e)
  | ends (answer : α) (hdlc : HdlcDecoder) {buf : CircBuf} (valid : Valid buf) :
      Follows (.ok (answer,hdlc,buf)) (.ok (answer,hdlc,contents buf))

theorem Follows.of_ok {α : Type} {ring : Except Fault (α × HdlcDecoder × CircBuf)} {answer : α} {hdlc : HdlcDecoder}
    {bytes : List UInt8} (follows : Follows ring (.ok (answer,hdlc,bytes))) :
    ∃ buf, ring = .ok (answer,hdlc,buf) ∧ Valid buf ∧ contents buf = bytes := by
  generalize same : Except.ok (answer,hdlc,bytes) = list at follows
  cases follows with
  | fault e => cases same
  | ends answer hdlc valid =>
    cases same
    exact ⟨_,rfl,valid,rfl⟩

theorem Follows.of_error {α : Type} {ring : Except Fault (α × HdlcDecoder × CircBuf)} {e : Fault}
    (follows : Follows ring (.error e)) : ring = .error e := by
  generalize same : Except.error e = list at follows
  cases follows with
  | fault e =>
    cases same
    rfl
  | ends answer hdlc valid => cases same

theorem contents_pop {buf : CircBuf} (valid : Valid buf) (nonempty : buf.tail ≠ buf.head) :
    Valid { buf with tail := (buf.tail + 1) &&& (HDLC_BUF_SIZE - 1) } ∧
      contents buf = buf.buf buf.tail :: contents { buf with tail := (buf.tail + 1) &&& (HDLC_BUF_SIZE - 1) } := by
  rw [mask_eq_mod]
  exact ⟨⟨valid.head,Nat.mod_lt _ (by decide)⟩,held_pop valid.head valid.tail nonempty⟩

theorem contents_empty {buf : CircBuf} (valid : Valid buf) : contents buf = [] ↔ buf.tail = buf.head :=
  held_empty valid.tail

theorem decode_loop_follows {fuel : Nat} {hdlc : HdlcDecoder} {buf : CircBuf} (valid : Valid buf)
    (enough : (contents buf).length < fuel) : Follows (decode_loop fuel hdlc buf) (scan hdlc (contents buf)) := by
  induction fuel generalizing hdlc buf with
  | zero => exact absurd enough (Nat.not_lt_zero _)
  | succ fuel ih =>
    rw [decode_loop]
    by_cases empty : buf.tail = buf.head
    · have nothing := (contents_empty valid).mpr empty
      rw [if_pos empty,nothing,scan,← nothing]
      exact .ends false hdlc valid
    · obtain ⟨still,bytes⟩ := contents_pop valid empty
      have shorter := congrArg List.length bytes
      rw [List.length_cons] at shorter
      rw [if_neg empty,bytes,scan]
      dsimp only
      split_ifs with flag escape
      · exact .ends true hdlc still
      · exact ih still (by omega)
      · cases stored : raw_store hdlc (buf.buf buf.tail) with
        | error e => exact .fault e
        | ok decoder => exact ih still (by omega)

theorem Follows.decode_end {ring : Except Fault (Bool × HdlcDecoder × CircBuf)}
    {list : Except Fault (Bool × HdlcDecoder × List UInt8)} (follows : Follows ring list) :
    Follows (decode_end <$> ring) (decode_end <$> list) := by
  cases follows with
  | fault e => exact .fault e
  | ends flag hdlc valid =>
    simp only [map_ok,Hdlc.decode_end]
    split_ifs with nothing
    · exact .ends none hdlc valid
    · exact .ends _ .zeroed valid

theorem decode_one_follows (hdlc : HdlcDecoder) {buf : CircBuf} (valid : Valid buf) :
    Follows (hdlc_decode_one hdlc buf) (scan_one hdlc (contents buf)) :=
  (decode_loop_follows valid (Nat.lt_succ_of_lt (contents_lt valid))).decode_end

theorem until_null_follows (fuel : Nat) (hdlc : HdlcDecoder) {buf : CircBuf} (valid : Valid buf) :
    Follows (decode_until_null fuel hdlc buf) (scan_until_null fuel hdlc (contents buf)) := by
  induction fuel generalizing hdlc buf with
  | zero => exact .fault .hang
  | succ fuel ih =>
    have one := decode_one_follows hdlc valid
    rw [decode_until_null,scan_until_null]
    generalize hdlc_decode_one hdlc buf = ring,scan_one hdlc (contents buf) = list at one ⊢
    cases one with
    | fault e => exact .fault e
    | ends answer decoder still =>
      cases answer with
      | none => exact .ends [] decoder still
      | some msg =>
        have rest := ih decoder still
        simp only [ok_bind]
        generalize decode_until_null fuel decoder _ = ring,scan_until_null fuel decoder _ = list at rest ⊢
        cases rest with
        | fault e => exact .fault e
        | ends msgs left final => exact .ends (msg :: msgs) left final

end DiagRouter.Hdlc

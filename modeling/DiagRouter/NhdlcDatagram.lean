import DiagRouter.Endpoints

/-!
# Non-HDLC datagrams

The frame `queue_push_nhdlc_flow` builds, and the one the QRTR sockets take
apart. The parsers read the header of a datagram before they know that it is
all there, but what stands behind the datagram does not decide.
-/
namespace DiagRouter.NhdlcDatagram
open DiagRouter.Lib.Memory DiagRouter.Lib.Words DiagRouter.Watch DiagRouter.Endpoints
open DiagRouter.Clients (NHDLC_CONTROL_CHAR)

/-! ## Building -/

/-- A `struct mbuf` and the bytes it was allocated with. -/
structure MbufBlock where
  size : Nat
  offset : Nat
  data : List UInt8
deriving DecidableEq, Repr

def mbuf_alloc (junk : Nat → UInt8) (size : Nat) : MbufBlock := ⟨size,0,span junk 0 size⟩

/-- Returns the offset of the room it makes. -/
def mbuf_put (mbuf : MbufBlock) (size : Nat) : Option (Nat × MbufBlock) :=
  if mbuf.offset + size > mbuf.size then none else some (mbuf.offset,{ mbuf with offset := mbuf.offset + size })

/-- What `queue_push_nhdlc_flow` writes to its buffer: `struct diag_pkt_frame`,
    the message and a byte to end it; `none` where it drops the message. -/
def nhdlc_buffer (junk : Nat → UInt8) (msg : List UInt8) : Except Fault (Option MbufBlock) :=
  let len := msg.length + 4 + 1
  match mbuf_put (mbuf_alloc junk len) len with
  | none => .ok none
  | some (ptr,mbuf) => do
    let data ← store mbuf.data ptr ([NHDLC_CONTROL_CHAR,1] ++ le16 (UInt16.ofNat msg.length))
    let data ← store data (ptr + 4) msg
    let data ← store data (ptr + (4 + msg.length)) [NHDLC_CONTROL_CHAR]
    return some { mbuf with data := data, offset := 4 + msg.length + 1 }

def nhdlc_frame (msg : List UInt8) : List UInt8 :=
  [NHDLC_CONTROL_CHAR,1] ++ le16 (UInt16.ofNat msg.length) ++ msg ++ [NHDLC_CONTROL_CHAR]

theorem nhdlc_frame_length (msg : List UInt8) : (nhdlc_frame msg).length = msg.length + 5 := by
  simp only [nhdlc_frame,List.length_append,le16_length,List.length_cons,List.length_nil]
  omega

/-- A store right behind what has been written. -/
theorem store_next {block cells : List UInt8} {written : List UInt8} {room : Nat} (started : block.take written.length = written)
    (length : block.length = room) (fits : written.length + cells.length ≤ room) :
    ∃ after, store block written.length cells = .ok after ∧ after.take (written ++ cells).length = written ++ cells ∧
      after.length = room := by
  obtain ⟨after,stored⟩ : ∃ after, store block written.length cells = .ok after :=
    ⟨_,store_ok_iff.mpr ⟨by omega,rfl⟩⟩
  refine ⟨after,stored,?_,(store_length stored).trans length⟩
  obtain ⟨_,rfl⟩ := store_ok_iff.mp stored
  rw [started,List.take_left']
  rfl

/-- Whatever the buffer was allocated with, it ends up holding the frame. -/
theorem nhdlc_buffer_eq (junk : Nat → UInt8) (msg : List UInt8) :
    nhdlc_buffer junk msg = .ok (some ⟨msg.length + 5,msg.length + 5,nhdlc_frame msg⟩) := by
  let header := [NHDLC_CONTROL_CHAR,1] ++ le16 (UInt16.ofNat msg.length)
  have four : header.length = 4 := rfl
  have put : mbuf_put (mbuf_alloc junk (msg.length + 4 + 1)) (msg.length + 4 + 1) =
      some (0,⟨msg.length + 4 + 1,0 + (msg.length + 4 + 1),span junk 0 (msg.length + 4 + 1)⟩) := by
    have room : ¬ 0 + (msg.length + 4 + 1) > msg.length + 4 + 1 := by omega
    exact if_neg room
  obtain ⟨first,begun,taken,length⟩ :=
    @store_next (span junk 0 (msg.length + 4 + 1)) header [] (msg.length + 4 + 1) rfl (span_length _ _ _)
      (by rw [four,List.length_nil]; omega)
  obtain ⟨second,copied,taken',length'⟩ := @store_next first msg header (msg.length + 4 + 1) taken length (by omega)
  have end_of_message : (header ++ msg).length = 0 + (4 + msg.length) := by rw [List.length_append,four,Nat.zero_add]
  obtain ⟨third,ended,taken'',length''⟩ :=
    @store_next second [NHDLC_CONTROL_CHAR] (header ++ msg) (msg.length + 4 + 1) taken' length'
      (by rw [end_of_message,List.length_singleton]; omega)
  have whole : third = nhdlc_frame msg := by
    have all : third.take (nhdlc_frame msg).length = nhdlc_frame msg := taken''
    rw [nhdlc_frame_length,List.take_of_length_le (by omega)] at all
    exact all
  have begun' : store (span junk 0 (msg.length + 4 + 1)) 0 header = .ok first := begun
  have copied' : store first (0 + 4) msg = .ok second := copied
  rw [end_of_message] at ended
  have offset : 4 + msg.length + 1 = msg.length + 5 := by omega
  rw [nhdlc_buffer,put]
  dsimp only
  rw [begun',ok_bind,copied',ok_bind,ended,ok_bind,whole,offset]
  rfl

theorem push_nhdlc_eq (s : Watches) (queue : Queue) (msg : List UInt8) (flow : Option Nat) :
    queue_push_nhdlc_flow s queue msg flow = queue_push_flow s queue (nhdlc_frame msg) flow := rfl

/-! ## Taking apart -/

/-- The case of a data packet in `qrtr_cmd_recv` and `qrtr_data_recv`, up to the
    broadcast: the memory at `pkt.data`, of which `data_len` bytes were received.
    The four bytes of `struct non_hdlc_pkt` are read in any case. -/
def non_hdlc_recv (data : Nat → UInt8) (data_len : Nat) : Option (List UInt8) :=
  if data 0 ≠ 0x7e ∨ data 1 ≠ 1 then none
  else
    let length := (le16At data 2).toNat
    if 4 + length + 1 > data_len then none
    else if data (4 + length) ≠ 0x7e then none
    else some (span data 4 length)

def qrtr_cmd_data (s : Router) (data : Nat → UInt8) (data_len : Nat) : Router :=
  match non_hdlc_recv data data_len with
  | some payload => dm_broadcast s payload none
  | none => s

/-- The first packet opens the channel. -/
def qrtr_data_data (s : Router) (i : Nat) (perif : Endpoints.Peripheral) (data : Nat → UInt8) (data_len : Nat) : Router :=
  let io := if perif.data_open then s.io else watch_add_writeq s.io perif.data_fd (.dataq i)
  let opened := { s with io := io, peripherals := s.peripherals.set i { perif with data_open := true } }
  match non_hdlc_recv data data_len with
  | some payload => dm_broadcast opened payload (some i)
  | none => opened

section
variable {memory other : Nat → UInt8} {n : Nat} {p : List UInt8}

theorem recv_some_iff : non_hdlc_recv memory n = some p ↔
    memory 0 = 0x7e ∧ memory 1 = 1 ∧ 5 + (le16At memory 2).toNat ≤ n ∧ memory (4 + (le16At memory 2).toNat) = 0x7e ∧
      p = span memory 4 (le16At memory 2).toNat := by
  unfold non_hdlc_recv
  dsimp only
  generalize (le16At memory 2).toNat = length
  split_ifs with bad short unended
  · simp only [false_iff]
    rintro ⟨start,version,_⟩
    exact bad.elim (absurd start) (absurd version)
  · simp only [false_iff]
    rintro ⟨_,_,room,_⟩
    omega
  · simp only [false_iff]
    rintro ⟨_,_,_,ended,_⟩
    exact unended ended
  · simp only [not_or,ne_eq,not_not] at bad unended
    have room : 5 + length ≤ n := by omega
    simp only [bad.1,bad.2,room,unended,true_and,Option.some.injEq,eq_comm]

/-- A parser that has taken a payload has read nothing behind the datagram. -/
theorem recv_congr (same : ∀ i, i < n → memory i = other i) (taken : non_hdlc_recv memory n = some p) :
    non_hdlc_recv other n = some p := by
  rw [recv_some_iff] at taken ⊢
  obtain ⟨start,version,room,ended,rfl⟩ := taken
  have length : le16At memory 2 = le16At other 2 := le16At_congr (same 2 (by omega)) (same 3 (by omega))
  rw [← length,← same 0 (by omega),← same 1 (by omega),← same _ (by omega)]
  exact ⟨start,version,room,ended,span_congr (fun i _ below => same i (by omega))⟩

/-- Only the received bytes decide. -/
theorem recv_own (same : ∀ i, i < n → memory i = other i) : non_hdlc_recv memory n = non_hdlc_recv other n := by
  apply Option.ext
  intro p
  exact ⟨recv_congr same,recv_congr (fun i below => (same i below).symm)⟩

/-- The frame of a message is taken apart, whatever follows it. -/
theorem recv_frame {msg : List UInt8} (small : msg.length ≤ 65535) (more : List UInt8) (stale : Nat → UInt8) :
    non_hdlc_recv (place (nhdlc_frame msg ++ more) stale) (nhdlc_frame msg ++ more).length = some msg := by
  let header := [NHDLC_CONTROL_CHAR,1] ++ le16 (UInt16.ofNat msg.length)
  have length : (le16At (place (nhdlc_frame msg ++ more) stale) 2).toNat = msg.length := by
    have text : nhdlc_frame msg ++ more = [NHDLC_CONTROL_CHAR,1] ++ le16 (UInt16.ofNat msg.length) ++
        (msg ++ [NHDLC_CONTROL_CHAR] ++ more) := by simp only [nhdlc_frame,List.append_assoc]
    have reads := le16At_place [NHDLC_CONTROL_CHAR,1] (msg ++ [NHDLC_CONTROL_CHAR] ++ more) (UInt16.ofNat msg.length) stale
    rw [text]
    exact (congrArg UInt16.toNat reads).trans (UInt16.toNat_ofNat_of_lt' (by change _ < 65536; omega))
  have payload : span (place (nhdlc_frame msg ++ more) stale) 4 msg.length = msg := by
    have text : nhdlc_frame msg ++ more = header ++ msg ++ ([NHDLC_CONTROL_CHAR] ++ more) := by
      simp only [nhdlc_frame,header,List.append_assoc]
    rw [text]
    exact span_place header msg _ stale
  have ended : place (nhdlc_frame msg ++ more) stale (4 + msg.length) = 0x7e := by
    have text : nhdlc_frame msg ++ more = (header ++ msg) ++ ([NHDLC_CONTROL_CHAR] ++ more) := by
      simp only [nhdlc_frame,header,List.append_assoc]
    have at_end : 4 + msg.length = (header ++ msg).length := by rw [List.length_append]; rfl
    rw [text,at_end,place,List.getElem?_append_right (Nat.le_refl _),Nat.sub_self]
    rfl
  rw [recv_some_iff,length,payload,List.length_append,nhdlc_frame_length]
  exact ⟨rfl,rfl,by omega,ended,rfl⟩

/-- A datagram of which a payload is taken is the frame of this payload, and
    what follows it. -/
theorem recv_spells (taken : non_hdlc_recv memory n = some p) :
    p.length ≤ 65535 ∧ ∃ more, span memory 0 n = nhdlc_frame p ++ more := by
  obtain ⟨start,version,room,ended,rfl⟩ := recv_some_iff.mp taken
  have bound := (le16At memory 2).toNat_lt
  refine ⟨by rw [span_length]; omega,span memory (5 + (le16At memory 2).toNat) (n - (5 + (le16At memory 2).toNat)),?_⟩
  have head : span memory 0 2 = [NHDLC_CONTROL_CHAR,1] := by
    rw [show span memory 0 2 = [memory 0,memory 1] from rfl,start,version]
    rfl
  have size : span memory 2 2 = le16 (UInt16.ofNat (le16At memory 2).toNat) := by
    rw [UInt16.ofNat_toNat]
    exact le16_le16At memory 2
  have last : span memory (4 + (le16At memory 2).toNat) 1 = [NHDLC_CONTROL_CHAR] := by
    rw [show span memory (4 + (le16At memory 2).toNat) 1 = [memory (4 + (le16At memory 2).toNat)] from rfl,ended]
    rfl
  have split : n = 2 + 2 + (le16At memory 2).toNat + 1 + (n - (5 + (le16At memory 2).toNat)) := by omega
  have behind : 0 + (2 + 2 + (le16At memory 2).toNat + 1) = 5 + (le16At memory 2).toNat := by omega
  have at_end : 0 + (2 + 2 + (le16At memory 2).toNat) = 4 + (le16At memory 2).toNat := by omega
  conv_lhs => rw [split]
  rw [span_append,span_append,span_append,span_append,behind,at_end,head,size,last,nhdlc_frame,span_length]

theorem recv_iff : non_hdlc_recv memory n = some p ↔ p.length ≤ 65535 ∧ ∃ more, span memory 0 n = nhdlc_frame p ++ more := by
  constructor
  · exact recv_spells
  · rintro ⟨small,more,spelled⟩
    have length : n = (nhdlc_frame p ++ more).length := by rw [← spelled,span_length]
    have same : ∀ i, i < n → place (nhdlc_frame p ++ more) memory i = memory i := by
      intro i inside
      rw [← spelled,place,span_getElem? inside,Nat.zero_add]
      rfl
    have taken := recv_frame small more memory
    rw [← length] at taken
    exact recv_congr same taken

/-- What has been decoded from a datagram is handled as the memory it is in. -/
theorem payload_eq : non_hdlc_payload (span memory 0 n) = non_hdlc_recv memory n := by
  by_cases header : 4 ≤ n
  · obtain ⟨count,rfl⟩ := Nat.exists_eq_add_of_le header
    have cells : span memory 0 (4 + count) = memory 0 :: memory 1 :: memory 2 :: memory 3 :: span memory 4 count := by
      rw [span_append]
      rfl
    rw [cells,non_hdlc_payload,non_hdlc_recv,← le16At_toNat memory 2]
    dsimp only
    generalize (le16At memory 2).toNat = length
    by_cases bad : memory 0 ≠ 0x7e ∨ memory 1 ≠ 1
    · rw [if_pos bad,if_pos bad]
    · rw [if_neg bad,if_neg bad,span_length]
      by_cases room : length < count
      · have fits : ¬ count < length + 1 := by omega
        have fits' : ¬ 4 + length + 1 > 4 + count := by omega
        rw [if_neg fits,if_neg fits',span_getElem? room,span_take (Nat.le_of_lt room)]
        simp only [ne_eq,Option.some.injEq]
      · have short : count < length + 1 := by omega
        have short' : 4 + length + 1 > 4 + count := by omega
        rw [if_pos short,if_pos short']
  · have short : non_hdlc_recv memory n = none := by
      cases taken : non_hdlc_recv memory n with
      | none => rfl
      | some p =>
        have room := (recv_some_iff.mp taken).2.2.1
        omega
    rw [short]
    have few : n = 0 ∨ n = 1 ∨ n = 2 ∨ n = 3 := by omega
    rcases few with rfl | rfl | rfl | rfl <;> rfl

end

/-- The frames that are built are those that are taken apart, and only these. -/
structure FramingAgrees : Prop where
  built : ∀ junk (s : Watches) queue msg flow, ∃ mbuf, nhdlc_buffer junk msg = .ok (some mbuf) ∧
    queue_push_nhdlc_flow s queue msg flow = queue_push_flow s queue mbuf.data flow ∧ mbuf.offset = mbuf.data.length ∧
      (msg.length ≤ 65535 → ∀ stale, non_hdlc_recv (place mbuf.data stale) mbuf.data.length = some msg)
  taken : ∀ memory n p, non_hdlc_recv memory n = some p ↔
    p.length ≤ 65535 ∧ ∃ more, span memory 0 n = [0x7e,1] ++ le16 (UInt16.ofNat p.length) ++ p ++ [0x7e] ++ more
  own : ∀ memory other n, (∀ i, i < n → memory i = other i) → non_hdlc_recv memory n = non_hdlc_recv other n
  cmd : ∀ (s : Router) i perif node port memory n, s.peripherals[i]? = some perif →
    qrtr_cmd_recv s i ⟨.QRTR_TYPE_DATA,node,port,span memory 0 n⟩ = qrtr_cmd_data s memory n
  data : ∀ (s : Router) i perif node port memory n, s.peripherals[i]? = some perif →
    qrtr_data_recv s i ⟨.QRTR_TYPE_DATA,node,port,span memory 0 n⟩ = qrtr_data_data s i perif memory n

theorem framing_agrees : FramingAgrees where
  built junk s queue msg flow := by
    refine ⟨_,nhdlc_buffer_eq junk msg,push_nhdlc_eq s queue msg flow,(nhdlc_frame_length msg).symm,?_⟩
    intro small stale
    have taken := recv_frame small [] stale
    rw [List.append_nil] at taken
    exact taken
  taken memory n p := recv_iff
  own memory other n same := recv_own same
  cmd s i perif node port memory n present := by
    simp only [qrtr_cmd_recv,present,payload_eq]
    rfl
  data s i perif node port memory n present := by
    simp only [qrtr_data_recv,present,payload_eq]
    rfl

end DiagRouter.NhdlcDatagram

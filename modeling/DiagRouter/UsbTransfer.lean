import DiagRouter.Resync
import DiagRouter.NhdlcDatagram
import DiagRouter.NhdlcStream

/-!
# Transfers from the USB host

`diag_ffs_recv` copies a transfer into a ring of its own and sets the head to
its length. A transfer as long as the array has its head behind every index, so
that the decoder only ends at a flag with nothing before it.
-/
namespace DiagRouter.UsbTransfer
open DiagRouter.Lib.Memory DiagRouter.Lib.Stuffing DiagRouter.CircRead DiagRouter.Hdlc DiagRouter.HdlcBounds DiagRouter.HdlcTrace
open DiagRouter.HdlcStream (message)
open DiagRouter.NhdlcStream (DiagClient dm_decode_data)
open DiagRouter.NhdlcDatagram (MbufBlock)

structure UsbHandle where
  dm : DiagClient
  outq : List MbufBlock

/-- The ring that `diag_ffs_recv` fills. -/
def ffs_recv_buf (mbuf : MbufBlock) : Except Fault CircBuf := do
  let sent ← load mbuf.data mbuf.offset
  let buf ← store (List.replicate HDLC_BUF_SIZE 0) 0 sent
  return ⟨place buf (fun _ => 0),mbuf.offset,0⟩

/-- The ring of the client is not used; the buffer is queued again. -/
def diag_ffs_recv (mbuf : MbufBlock) (ffs : UsbHandle) : Except Fault (UsbHandle × List Message) := do
  let recv_buf ← ffs_recv_buf mbuf
  let (dm,commands) ← dm_decode_data { ffs.dm with recv_buf := recv_buf }
  return (⟨{ dm with recv_buf := ffs.dm.recv_buf },ffs.outq ++ [{ mbuf with offset := 0 }]⟩,commands)

/-! ## Byte by byte -/

/-- `dm_recv_hdlc` between two bytes, and the cells it has decoded. -/
structure Decoding where
  hdlc : HdlcDecoder
  buf : CircBuf
  commands : List Message
  cells : List Nat

/-- One round of the byte loop; the answer says whether `hdlc_decode_one` returns
    NULL. -/
def round (s : Decoding) : Except Fault (Bool × Decoding) :=
  if s.buf.tail = s.buf.head then .ok (true,s)
  else
    let ch := s.buf.buf s.buf.tail
    let popped : Decoding := { s with buf := { s.buf with tail := (s.buf.tail + 1) &&& (HDLC_BUF_SIZE - 1) }
                                      cells := s.cells ++ [s.buf.tail] }
    if ch = 0x7e then
      if s.hdlc.raw = [] then .ok (true,popped)
      else .ok (false,{ popped with hdlc := .zeroed, commands := s.commands ++ [message s.hdlc.raw] })
    else if ch = 0x7d then .ok (false,{ popped with hdlc := { s.hdlc with escape := 0x20 } })
    else (fun hdlc => (false,{ popped with hdlc := hdlc })) <$> raw_store s.hdlc ch

/-- What has been decoded when `dm_recv_hdlc` ends, if it does in this many
    rounds. -/
def rounds : Nat → Decoding → Except Fault (Option Decoding)
  | 0, _ => .ok none
  | n+1, s => round s >>= fun (ended,after) => if ended then .ok (some after) else rounds n after

def start (buf : CircBuf) : Decoding := ⟨.zeroed,buf,[],[]⟩

/-- The call ends; no cell is decoded twice, and none that the transfer has not
    filled; and nothing is stored outside `raw_buf`. -/
def Completes (mbuf : MbufBlock) (ffs : UsbHandle) : Prop :=
  ∃ buf n ended, ffs_recv_buf mbuf = .ok buf ∧ rounds n (start buf) = .ok (some ended) ∧ ended.cells.Nodup ∧
    (∀ cell ∈ ended.cells, cell < mbuf.offset) ∧
    diag_ffs_recv mbuf ffs = .ok (⟨ffs.dm,ffs.outq ++ [{ mbuf with offset := 0 }]⟩,ended.commands)

/-! ## The rounds of a call -/

/-- `decode_until_null` in the middle of `hdlc_decode_one`. -/
def continued (loops calls : Nat) (hdlc : HdlcDecoder) (buf : CircBuf) : Except Fault (List Message × HdlcDecoder × CircBuf) :=
  decode_end <$> decode_loop loops hdlc buf >>= fun
    | (none,hdlc,buf) => .ok ([],hdlc,buf)
    | (some msg,hdlc,buf) => (fun (msgs,rest) => (msg :: msgs,rest)) <$> decode_until_null calls hdlc buf

/-- Rounds that end are those of `decode_until_null`. -/
theorem rounds_continued {n loops calls : Nat} {s ended : Decoding} (ran : rounds n s = .ok (some ended)) (enough : n ≤ loops)
    (few : n ≤ calls + 1) (bound : n ≤ HDLC_BUF_SIZE + 1) :
    ∃ msgs, continued loops calls s.hdlc s.buf = .ok (msgs,ended.hdlc,ended.buf) ∧ ended.commands = s.commands ++ msgs := by
  induction n generalizing s loops calls with
  | zero => cases ran
  | succ n ih =>
    obtain ⟨loops,rfl⟩ := Nat.exists_eq_succ_of_ne_zero (by omega : loops ≠ 0)
    obtain ⟨⟨stops,after⟩,one,rest⟩ := bind_eq_ok.mp ran
    rw [continued,decode_loop]
    rw [round] at one
    dsimp only at one rest ⊢
    split_ifs at one ⊢ with drained flag nothing escape
    · cases one
      cases rest
      exact ⟨[],rfl,by simp⟩
    · cases one
      cases rest
      exact ⟨[],by simp [decode_end,nothing],by simp⟩
    · cases one
      -- The frame ends here, and the next call begins.
      cases n with
      | zero => cases rest
      | succ n =>
        obtain ⟨calls,rfl⟩ := Nat.exists_eq_succ_of_ne_zero (by omega : calls ≠ 0)
        obtain ⟨msgs,others,all⟩ := @ih (HDLC_BUF_SIZE + 1) calls _ rest (by omega) (by omega) (by omega)
        refine ⟨message s.hdlc.raw :: msgs,?_,by rw [all]; simp⟩
        have same : decode_until_null (calls+1) .zeroed _ = _ := others
        simp [decode_end,nothing,message,same]
    · cases one
      exact @ih loops calls _ rest (by omega) (by omega) (by omega)
    · obtain ⟨hdlc,stored,same⟩ := map_eq_ok.mp one
      cases same
      rw [stored]
      exact @ih loops calls _ rest (by omega) (by omega) (by omega)

theorem rounds_decode {n : Nat} {buf : CircBuf} {ended : Decoding} (ran : rounds n (start buf) = .ok (some ended))
    (few : n ≤ HDLC_BUF_SIZE) : DmStream.dm_recv_hdlc buf = .ok (ended.buf,ended.commands) := by
  have more : n ≤ HDLC_BUF_SIZE + 1 := Nat.le_succ_of_le few
  obtain ⟨msgs,decoded,all⟩ := @rounds_continued n (HDLC_BUF_SIZE + 1) (HDLC_BUF_SIZE - 1) _ _ ran more few more
  have same : decode_until_null HDLC_BUF_SIZE .zeroed buf = .ok (msgs,ended.hdlc,ended.buf) := decoded
  rw [DmStream.dm_recv_hdlc,same,all]
  rfl

/-- A round decodes the cell at the tail, if this is not the head. -/
theorem round_cells {s after : Decoding} {stops : Bool} (one : round s = .ok (stops,after)) :
    after.cells = if s.buf.tail = s.buf.head then s.cells else s.cells ++ [s.buf.tail] := by
  rw [round] at one
  dsimp only at one
  split_ifs at one ⊢
  · cases one
    rfl
  · cases one
    rfl
  · cases one
    rfl
  · cases one
    rfl
  · obtain ⟨hdlc,_,same⟩ := map_eq_ok.mp one
    cases same
    rfl

theorem rounds_grow {n : Nat} {s ended : Decoding} (ran : rounds n s = .ok (some ended)) : s.cells <+: ended.cells := by
  induction n generalizing s with
  | zero => cases ran
  | succ n ih =>
    obtain ⟨⟨stops,after⟩,one,rest⟩ := bind_eq_ok.mp ran
    have grown : s.cells <+: after.cells := by
      rw [round_cells one]
      split_ifs
      · exact List.prefix_rfl
      · exact List.prefix_append _ _
    cases stops with
    | true =>
      cases rest
      exact grown
    | false => exact grown.trans (ih rest)

/-! ## Through the transfer -/

/-- The ring of a transfer. -/
structure Filled (bytes : List UInt8) (buf : CircBuf) : Prop where
  tail : buf.tail = 0
  head : buf.head = bytes.length
  cells : ∀ k ch, bytes[k]? = some ch → buf.buf k = ch

/-- The first `k` bytes have been decoded, each in its cell. -/
structure At (bytes : List UInt8) (buf : CircBuf) (k : Nat) (s : Decoding) : Prop where
  cells : s.cells = List.range k
  buf : s.buf = { buf with tail := k % HDLC_BUF_SIZE }
  state : trace (bytes.take k) = (s.hdlc,s.commands)

section
variable {bytes : List UInt8} {buf : CircBuf} {k : Nat} {s : Decoding} {ch : UInt8}

theorem at_start (filled : Filled bytes buf) : At bytes buf 0 (start buf) := by
  refine ⟨rfl,?_,rfl⟩
  rw [start,Nat.zero_mod,← filled.tail]

/-- The next round decodes the next byte, in its cell. -/
theorem At.cell (filled : Filled bytes buf) (short : bytes.length ≤ HDLC_BUF_SIZE) (here : At bytes buf k s)
    (next : bytes[k]? = some ch) : s.buf.tail = k ∧ s.buf.tail ≠ s.buf.head ∧ s.buf.buf s.buf.tail = ch := by
  obtain ⟨inside,_⟩ := List.getElem?_eq_some_iff.mp next
  have tail : s.buf.tail = k := by
    rw [here.buf]
    exact Nat.mod_eq_of_lt (by omega)
  rw [tail,here.buf]
  refine ⟨rfl,?_,filled.cells k ch next⟩
  dsimp only
  rw [filled.head]
  omega

/-- No more has been stored than decoded. -/
theorem At.stored_le (here : At bytes buf k s) : s.hdlc.raw.length ≤ k := by
  have count := trace_count (bytes.take k)
  have least := stored_since_le (bytes.take k)
  rw [here.state] at count
  rw [List.length_take] at least
  dsimp only at count
  omega

/-- A byte is decoded in its cell: the call ends there, at a flag with no stored
    byte before it, or goes on with the next one. -/
theorem At.round (filled : Filled bytes buf) (short : bytes.length ≤ HDLC_BUF_SIZE) (here : At bytes buf k s)
    (next : bytes[k]? = some ch) :
    (ch = 0x7e ∧ (trace (bytes.take k)).1.raw = [] ∧ ∃ after, UsbTransfer.round s = .ok (true,after) ∧ after.cells = List.range (k+1)) ∨
    (¬ (ch = 0x7e ∧ (trace (bytes.take k)).1.raw = []) ∧
      ∃ after, UsbTransfer.round s = .ok (false,after) ∧ At bytes buf (k+1) after) := by
  obtain ⟨inside,_⟩ := List.getElem?_eq_some_iff.mp next
  obtain ⟨tail,apart,byte⟩ := here.cell filled short next
  have room : s.hdlc.raw.length < HDLC_BUF_SIZE := by
    have few := here.stored_le
    omega
  obtain ⟨cells,ring,state⟩ := here
  have moved : { s.buf with tail := (s.buf.tail + 1) &&& (HDLC_BUF_SIZE - 1) } = { buf with tail := (k + 1) % HDLC_BUF_SIZE } := by
    rw [mask_eq_mod,tail,ring]
  have taken : bytes.take (k+1) = bytes.take k ++ [ch] := by
    rw [List.take_add_one,next]
    rfl
  have decoded : s.cells ++ [s.buf.tail] = List.range (k+1) := by rw [cells,tail,List.range_succ]
  rw [state,UsbTransfer.round,if_neg apart]
  dsimp only
  rw [byte,moved,decoded]
  by_cases flag : ch = 0x7e
  · subst flag
    by_cases nothing : s.hdlc.raw = []
    · exact .inl ⟨rfl,nothing,_,by rw [if_pos rfl,if_pos nothing],rfl⟩
    · refine .inr ⟨fun both => nothing both.2,_,by rw [if_pos rfl,if_neg nothing],rfl,rfl,?_⟩
      rw [taken,trace_concat,state,feed_flag]
      simp [decode_end,nothing,message]
  · refine .inr ⟨fun both => flag both.1,?_⟩
    by_cases escape : ch = 0x7d
    · subst escape
      refine ⟨_,by rw [if_neg flag,if_pos rfl],rfl,rfl,?_⟩
      rw [taken,trace_concat,state,feed_escape]
    · refine ⟨_,by rw [if_neg flag,if_neg escape,raw_store,if_pos room]; rfl,rfl,rfl,?_⟩
      rw [taken,trace_concat,state,feed_byte flag escape]

/-- Behind the last byte the call ends if the head is an index of the array. -/
theorem At.drained (filled : Filled bytes buf) (short : bytes.length < HDLC_BUF_SIZE) (here : At bytes buf bytes.length s) :
    UsbTransfer.round s = .ok (true,s) := by
  have tail : s.buf.tail = s.buf.head := by
    rw [here.buf]
    dsimp only
    rw [filled.head,Nat.mod_eq_of_lt short]
  rw [UsbTransfer.round,if_pos tail]

/-- A call that will find the end of the transfer, or a flag with no stored byte
    before it, ends, with every cell decoded once. -/
theorem At.ends (filled : Filled bytes buf) (short : bytes.length ≤ HDLC_BUF_SIZE) (more : Nat) (rest : k + more = bytes.length)
    (here : At bytes buf k s)
    (stops : bytes.length < HDLC_BUF_SIZE ∨ ∃ j, k ≤ j ∧ bytes[j]? = some 0x7e ∧ (trace (bytes.take j)).1.raw = []) :
    ∃ n ended last, k + n ≤ HDLC_BUF_SIZE ∧ rounds n s = .ok (some ended) ∧ ended.cells = List.range last ∧ last ≤ bytes.length := by
  induction more generalizing k s with
  | zero =>
    have all : k = bytes.length := rest
    subst all
    have inside : bytes.length < HDLC_BUF_SIZE := by
      rcases stops with inside | ⟨j,beyond,next,_⟩
      · exact inside
      · rw [List.getElem?_eq_none beyond] at next
        cases next
    exact ⟨1,s,bytes.length,inside,by rw [rounds,here.drained filled inside]; rfl,here.cells,Nat.le_refl _⟩
  | succ more ih =>
    have inside : k < bytes.length := by omega
    rcases here.round filled short (List.getElem?_eq_getElem inside) with
      ⟨_,_,after,one,cells⟩ | ⟨goes,after,one,moved⟩
    · exact ⟨1,after,k+1,by omega,by rw [rounds,one]; rfl,cells,inside⟩
    · have later : bytes.length < HDLC_BUF_SIZE ∨
          ∃ j, k + 1 ≤ j ∧ bytes[j]? = some 0x7e ∧ (trace (bytes.take j)).1.raw = [] := by
        refine stops.imp_right ?_
        rintro ⟨j,least,flag,nothing⟩
        rcases Nat.eq_or_lt_of_le least with rfl | beyond
        · rw [List.getElem?_eq_getElem inside] at flag
          exact absurd ⟨Option.some.inj flag,nothing⟩ goes
        · exact ⟨j,beyond,flag,nothing⟩
      obtain ⟨n,ended,last,few,ran,cells,most⟩ := ih (by omega) moved later
      exact ⟨n+1,ended,last,by omega,by rw [rounds,one]; exact ran,cells,most⟩

/-- With the head behind the array and no such flag, a call that ends has decoded
    the first cell again. -/
theorem At.again (filled : Filled bytes buf) (whole : bytes.length = HDLC_BUF_SIZE)
    (none : ¬ ∃ j, bytes[j]? = some 0x7e ∧ (trace (bytes.take j)).1.raw = []) (more : Nat) (rest : k + more = bytes.length)
    (here : At bytes buf k s) {n : Nat} {ended : Decoding} (ran : rounds n s = .ok (some ended)) : ¬ ended.cells.Nodup := by
  induction more generalizing k s n with
  | zero =>
    cases n with
    | zero => cases ran
    | succ n =>
      have all : k = HDLC_BUF_SIZE := by omega
      obtain ⟨⟨stops,after⟩,one,others⟩ := bind_eq_ok.mp ran
      have tail : s.buf.tail = 0 := by
        rw [here.buf,all]
        exact Nat.mod_self _
      have apart : s.buf.tail ≠ s.buf.head := by
        rw [tail,here.buf]
        dsimp only
        rw [filled.head,whole]
        decide
      have cells : after.cells = List.range HDLC_BUF_SIZE ++ [0] := by rw [round_cells one,if_neg apart,tail,here.cells,all]
      have grown : after.cells <+: ended.cells := by
        cases stops with
        | true =>
          cases others
          exact List.prefix_rfl
        | false => exact rounds_grow others
      intro distinct
      have twice := distinct.sublist (cells ▸ grown).sublist
      rw [List.nodup_append] at twice
      exact twice.2.2 0 (List.mem_range.mpr (by decide)) 0 (List.mem_singleton_self 0) rfl
  | succ more ih =>
    have inside : k < bytes.length := by omega
    rcases here.round filled (Nat.le_of_eq whole) (List.getElem?_eq_getElem inside) with
      ⟨flag,nothing,_⟩ | ⟨_,after,one,moved⟩
    · exact absurd ⟨k,by rw [List.getElem?_eq_getElem inside,flag],nothing⟩ none
    · cases n with
      | zero => cases ran
      | succ n =>
        rw [rounds,one] at ran
        exact ih (by omega) moved ran

end

/-! ## Which transfers -/

/-- Decoding comes to a flag with no stored byte before it. -/
theorem stops_iff {bytes : List UInt8} : (∃ j, bytes[j]? = some 0x7e ∧ (trace (bytes.take j)).1.raw = []) ↔
    ∃ before rest, bytes = before ++ 0x7e :: rest ∧ ∀ ch ∈ sinceFlag 0x7e before, ch = 0x7d := by
  constructor
  · rintro ⟨j,flag,nothing⟩
    obtain ⟨inside,here⟩ := List.getElem?_eq_some_iff.mp flag
    refine ⟨bytes.take j,bytes.drop (j+1),?_,Resync.trace_raw_empty.mp nothing⟩
    rw [← here,List.getElem_cons_drop,List.take_append_drop]
  · rintro ⟨before,rest,rfl,escapes⟩
    exact ⟨before.length,by simp,by rw [List.take_left]; exact Resync.trace_raw_empty.mpr escapes⟩

/-- The ring holds what was sent. -/
theorem recv_buf_filled {mbuf : MbufBlock} (room : mbuf.offset ≤ mbuf.data.length) (sent : mbuf.offset ≤ HDLC_BUF_SIZE) :
    ∃ buf, ffs_recv_buf mbuf = .ok buf ∧ Filled (mbuf.data.take mbuf.offset) buf := by
  have length : (mbuf.data.take mbuf.offset).length = mbuf.offset := List.length_take_of_le room
  have loaded : load mbuf.data mbuf.offset = .ok (mbuf.data.take mbuf.offset) := load_ok_iff.mpr ⟨room,rfl⟩
  have stored : store (List.replicate HDLC_BUF_SIZE 0) 0 (mbuf.data.take mbuf.offset) =
      .ok (mbuf.data.take mbuf.offset ++ List.drop (0 + (mbuf.data.take mbuf.offset).length) (List.replicate HDLC_BUF_SIZE 0)) := by
    refine store_ok_iff.mpr ⟨?_,by rw [List.take_zero,List.nil_append]⟩
    rw [length,List.length_replicate]
    omega
  refine ⟨_,by rw [ffs_recv_buf,loaded,ok_bind,stored]; rfl,rfl,length.symm,?_⟩
  intro k ch next
  obtain ⟨inside,_⟩ := List.getElem?_eq_some_iff.mp next
  dsimp only
  rw [place,List.getElem?_append_left inside,next]
  rfl

/-- A client in `DIAG_ENCODE_HDLC` is as it was. -/
theorem recv_hdlc {mbuf : MbufBlock} {ffs : UsbHandle} {buf : CircBuf} (mode : ffs.dm.encode_type = .HDLC)
    (copied : ffs_recv_buf mbuf = .ok buf) :
    diag_ffs_recv mbuf ffs =
      (fun (_,commands) => (⟨ffs.dm,ffs.outq ++ [{ mbuf with offset := 0 }]⟩,commands)) <$> DmStream.dm_recv_hdlc buf := by
  obtain ⟨⟨type,reset,recv_buf,counter⟩,outq⟩ := ffs
  cases mode
  rw [diag_ffs_recv,copied,ok_bind]
  change (_ <$> DmStream.dm_recv_hdlc buf) >>= _ = _
  cases DmStream.dm_recv_hdlc buf with
  | error e => rfl
  | ok called => rfl

/-- A transfer completes if it leaves a cell of the array, or comes to a flag
    with nothing but escapes between it and the one before it, and only then. -/
theorem ffs_recv_iff {mbuf : MbufBlock} (size : mbuf.data.length = HDLC_BUF_SIZE) (sent : mbuf.offset ≤ HDLC_BUF_SIZE)
    {ffs : UsbHandle} (mode : ffs.dm.encode_type = .HDLC) :
    Completes mbuf ffs ↔ mbuf.offset < HDLC_BUF_SIZE ∨
      ∃ before rest, mbuf.data.take mbuf.offset = before ++ 0x7e :: rest ∧ ∀ ch ∈ sinceFlag 0x7e before, ch = 0x7d := by
  obtain ⟨buf,copied,filled⟩ := recv_buf_filled (by omega : mbuf.offset ≤ mbuf.data.length) sent
  have length : (mbuf.data.take mbuf.offset).length = mbuf.offset := List.length_take_of_le (by omega)
  rw [← stops_iff]
  constructor
  · rintro ⟨_,n,ended,again,ran,distinct,_⟩
    cases copied.symm.trans again
    by_contra neither
    obtain ⟨large,none⟩ := not_or.mp neither
    exact (at_start filled).again filled (by omega) none _ (Nat.zero_add _) ran distinct
  · intro stops
    obtain ⟨n,ended,last,few,ran,cells,most⟩ := (at_start filled).ends filled (by omega) _ (Nat.zero_add _)
      (stops.imp (fun inside => by omega) (fun ⟨j,flag,nothing⟩ => ⟨j,Nat.zero_le j,flag,nothing⟩))
    refine ⟨buf,n,ended,copied,ran,by rw [cells]; exact List.nodup_range,?_,?_⟩
    · intro cell decoded
      rw [cells,List.mem_range] at decoded
      omega
    · rw [recv_hdlc mode copied,rounds_decode ran (by omega)]
      rfl

/-- A loop that never meets the head, over bytes that are all stored. -/
theorem decode_loop_overruns {buf : CircBuf} (head : buf.head = HDLC_BUF_SIZE)
    (stored : ∀ k, k < HDLC_BUF_SIZE → buf.buf k ≠ 0x7e ∧ buf.buf k ≠ 0x7d) {fuel : Nat} {hdlc : HdlcDecoder}
    (tail : buf.tail < HDLC_BUF_SIZE) (enough : HDLC_BUF_SIZE < fuel + hdlc.raw.length) (room : hdlc.raw.length ≤ HDLC_BUF_SIZE) :
    decode_loop fuel hdlc buf = .error .outOfBounds := by
  induction fuel generalizing hdlc buf with
  | zero => omega
  | succ fuel ih =>
    obtain ⟨flag,escape⟩ := stored buf.tail tail
    rw [decode_loop,if_neg (by omega)]
    dsimp only
    rw [if_neg flag,if_neg escape]
    by_cases more : hdlc.raw.length < HDLC_BUF_SIZE
    · rw [raw_store,if_pos more,ok_bind]
      refine @ih { buf with tail := (buf.tail + 1) &&& (HDLC_BUF_SIZE - 1) } head stored _ ?_ ?_ ?_
      · dsimp only
        rw [mask_eq_mod]
        exact Nat.mod_lt _ (by decide)
      · rw [List.length_append,List.length_singleton]
        omega
      · rw [List.length_append,List.length_singleton]
        omega
    · rw [raw_store,if_neg more]
      rfl

/-- A client in `DIAG_ENCODE_HDLC`. -/
def idle : DiagClient := ⟨.HDLC,false,⟨fun _ => 0,0,0⟩,0⟩

/-- As many bytes as the buffer takes, none of them a flag or an escape. -/
def plain : MbufBlock := ⟨HDLC_BUF_SIZE,HDLC_BUF_SIZE,List.replicate HDLC_BUF_SIZE 0x41⟩

/-- Two bytes, both of them flags. -/
def flags : MbufBlock := ⟨HDLC_BUF_SIZE,2,List.replicate HDLC_BUF_SIZE 0x7e⟩

theorem ffs_recv_iff_flags :
    Completes flags ⟨idle,[]⟩ ↔ flags.offset < HDLC_BUF_SIZE ∨
      ∃ before rest, flags.data.take flags.offset = before ++ 0x7e :: rest ∧ ∀ ch ∈ sinceFlag 0x7e before, ch = 0x7d :=
  @ffs_recv_iff flags List.length_replicate (by decide) ⟨idle,[]⟩ rfl

/-- A transfer that fills the array, without a flag, leaves `raw_buf`. -/
theorem plain_transfer_overruns :
    idle.encode_type = .HDLC ∧ (plain : MbufBlock).data.length = HDLC_BUF_SIZE ∧ plain.offset = HDLC_BUF_SIZE ∧
      diag_ffs_recv plain ⟨idle,[]⟩ = .error .outOfBounds ∧ ¬ Completes plain ⟨idle,[]⟩ := by
  have overrun : diag_ffs_recv plain ⟨idle,[]⟩ = .error .outOfBounds := by
    obtain ⟨buf,copied,filled⟩ := @recv_buf_filled plain (by rw [plain,List.length_replicate]) (Nat.le_refl _)
    have bytes : plain.data.take plain.offset = List.replicate HDLC_BUF_SIZE 0x41 := List.take_of_length_le (by rw [plain,List.length_replicate])
    rw [bytes] at filled
    have head : buf.head = HDLC_BUF_SIZE := filled.head.trans List.length_replicate
    have cells : ∀ k, k < HDLC_BUF_SIZE → buf.buf k ≠ 0x7e ∧ buf.buf k ≠ 0x7d := by
      intro k inside
      rw [filled.cells k 0x41 (by rw [List.getElem?_replicate,if_pos inside])]
      decide
    have overrun := @decode_loop_overruns buf head cells (HDLC_BUF_SIZE + 1) .zeroed (by rw [filled.tail]; decide) (by decide) (by decide)
    have decoded : DmStream.dm_recv_hdlc buf = .error .outOfBounds := by
      rw [DmStream.dm_recv_hdlc,show HDLC_BUF_SIZE = 16383 + 1 from rfl,decode_until_null,hdlc_decode_one,overrun]
      rfl
    rw [recv_hdlc rfl copied,decoded]
    rfl
  refine ⟨rfl,List.length_replicate,rfl,overrun,?_⟩
  rintro ⟨_,_,_,_,_,_,_,called⟩
  cases overrun.symm.trans called

end DiagRouter.UsbTransfer

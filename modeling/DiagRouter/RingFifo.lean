import DiagRouter.Hdlc
import DiagRouter.Lib.Queue

/-!
# The receive ring as a bounded queue

`circ_read` calls and bytes taken at the tail, in any order: the ring is a queue
of at most `HDLC_BUF_SIZE - 1` bytes, no read is asked to store outside the
array or over a byte that has not been taken, and no call reads more than twice.
-/
namespace DiagRouter.RingFifo
open DiagRouter.Lib.Memory DiagRouter.Lib.Ring DiagRouter.Lib.Queue DiagRouter.CircRead DiagRouter.Hdlc

/-! ## The reads of a call -/

/-- One `read` of `circ_read`: the ring it finds, and what it stores there; a
    `read` that fails or finds nothing stores nothing. -/
structure Read where
  found : CircBuf
  bytes : List UInt8

/-- The ring after `bytes` were read. -/
def filled (buf : CircBuf) (bytes : List UInt8) : CircBuf :=
  { buf with buf := write buf.buf buf.head bytes
             head := (buf.head + bytes.length) &&& (HDLC_BUF_SIZE - 1) }

/-- The reads of `circ_read`, in order. -/
def reads : List ReadResult → List UInt8 → CircBuf → List Read
  | script, waiting, buf =>
    let space := CIRC_SPACE_TO_END buf
    if space = 0 then []
    else
      match script with
      | .upto n :: rest =>
        let bytes := waiting.take (min n space)
        if bytes.length = space then ⟨buf,bytes⟩ :: reads rest (waiting.drop (min n space)) (filled buf bytes)
        else [⟨buf,bytes⟩]
      | _ => [⟨buf,[]⟩]

/-- Every read finds the ring that the one before it has left. -/
inductive Chained : CircBuf → List Read → CircBuf → Prop
  | done (buf : CircBuf) : Chained buf [] buf
  | read {buf final : CircBuf} {bytes : List UInt8} {more : List Read} (room : bytes.length ≤ CIRC_SPACE_TO_END buf)
      (rest : Chained (filled buf bytes) more final) : Chained buf (⟨buf,bytes⟩ :: more) final

theorem filled_nil {buf : CircBuf} (valid : Valid buf) : filled buf [] = buf := by
  have same : write buf.buf buf.head [] = buf.buf := by
    funext i
    simp [write]
  have head : (buf.head + ([] : List UInt8).length) &&& (HDLC_BUF_SIZE - 1) = buf.head := by
    rw [mask_eq_mod]
    exact Nat.mod_eq_of_lt valid.head
  rw [filled,same,head]

theorem chained_nothing {buf : CircBuf} (valid : Valid buf) : Chained buf [⟨buf,[]⟩] buf := by
  refine .read (Nat.zero_le _) ?_
  rw [filled_nil valid]
  exact .done buf

/-- They are the reads of `circ_read`. -/
theorem reads_chained (script : List ReadResult) (waiting : List UInt8) {buf : CircBuf} (valid : Valid buf) :
    Chained buf (reads script waiting buf) (circ_read_loop script waiting buf).buf := by
  induction script generalizing waiting buf with
  | nil =>
    unfold reads circ_read_loop
    dsimp only
    split
    · exact .done buf
    · exact chained_nothing valid
  | cons result rest ih =>
    unfold reads circ_read_loop
    dsimp only
    split
    · exact .done buf
    · cases result with
      | eof => exact chained_nothing valid
      | error errno => exact chained_nothing valid
      | upto n =>
        dsimp only
        have room : (waiting.take (min n (CIRC_SPACE_TO_END buf))).length ≤ CIRC_SPACE_TO_END buf := by
          rw [List.length_take]
          omega
        by_cases nothing : waiting = []
        · subst nothing
          rw [if_pos rfl,List.take_nil,if_neg (by rw [List.length_nil]; omega)]
          exact chained_nothing valid
        · rw [if_neg nothing]
          by_cases whole : (waiting.take (min n (CIRC_SPACE_TO_END buf))).length = CIRC_SPACE_TO_END buf
          · rw [if_pos whole,if_pos whole]
            exact .read room (ih _ (filled_contents valid room).1)
          · rw [if_neg whole,if_neg whole]
            exact .read room (.done _)

/-! ## Where they store -/

/-- A read is asked to store inside the array, over no byte that has not been
    taken, and stores no more than it is asked to. -/
structure InPlace (read : Read) : Prop where
  valid : Valid read.found
  inside : read.found.head + CIRC_SPACE_TO_END read.found ≤ HDLC_BUF_SIZE
  apart : ∀ i, i < (contents read.found).length → (read.found.tail + i) % HDLC_BUF_SIZE < read.found.head ∨
    read.found.head + CIRC_SPACE_TO_END read.found ≤ (read.found.tail + i) % HDLC_BUF_SIZE
  asked : read.bytes.length ≤ CIRC_SPACE_TO_END read.found

theorem in_place {buf : CircBuf} (valid : Valid buf) {bytes : List UInt8} (room : bytes.length ≤ CIRC_SPACE_TO_END buf) :
    InPlace ⟨buf,bytes⟩ := by
  have space := circ_space_to_end_eq valid
  have held := contents_lt valid
  have head := valid.head
  have inside : buf.head + CIRC_SPACE_TO_END buf ≤ HDLC_BUF_SIZE := by omega
  have free : used HDLC_BUF_SIZE buf.head buf.tail + CIRC_SPACE_TO_END buf < HDLC_BUF_SIZE := by
    rw [contents,held_length] at held space
    omega
  refine ⟨valid,inside,?_,room⟩
  intro i old
  rw [contents,held_length] at old
  exact held_apart valid.head valid.tail free old

/-- The reads of a call append what they store. -/
theorem Chained.appends {buf final : CircBuf} {rs : List Read} (valid : Valid buf) (chained : Chained buf rs final) :
    Valid final ∧ contents final = contents buf ++ rs.flatMap Read.bytes ∧ ∀ read ∈ rs, InPlace read := by
  induction chained with
  | done buf => exact ⟨valid,by simp,by simp⟩
  | @read buf final bytes more room rest ih =>
    obtain ⟨still,appended⟩ := filled_contents valid room
    obtain ⟨last,held,others⟩ := ih still
    refine ⟨last,?_,List.forall_mem_cons.mpr ⟨in_place valid room,others⟩⟩
    rw [held,List.flatMap_cons,← List.append_assoc]
    exact congrArg (· ++ more.flatMap Read.bytes) appended

/-! ## How often a call reads -/

/-- After a read that fills the space up to the end of the array, the space from
    the beginning of the array is all that is free. -/
theorem space_after_full {buf : CircBuf} (valid : Valid buf) {bytes : List UInt8} (full : bytes.length = CIRC_SPACE_TO_END buf) :
    CIRC_SPACE_TO_END (filled buf bytes) = HDLC_BUF_SIZE - 1 - (contents (filled buf bytes)).length := by
  have space := circ_space_to_end_eq valid
  have held := contents_lt valid
  have head := valid.head
  obtain ⟨still,appended⟩ := filled_contents valid (Nat.le_of_eq full)
  change Valid (filled buf bytes) at still
  change contents (filled buf bytes) = _ at appended
  rw [circ_space_to_end_eq still,appended,List.length_append,full]
  by_cases wraps : HDLC_BUF_SIZE - buf.head ≤ HDLC_BUF_SIZE - 1 - (contents buf).length
  · have wrapped : (filled buf bytes).head = 0 := by
      rw [filled,mask_eq_mod]
      dsimp only
      rw [show buf.head + bytes.length = HDLC_BUF_SIZE by omega,Nat.mod_self]
    rw [wrapped]
    omega
  · omega

theorem reads_le_one {script : List ReadResult} {waiting : List UInt8} {buf : CircBuf} (valid : Valid buf)
    (all : CIRC_SPACE_TO_END buf = HDLC_BUF_SIZE - 1 - (contents buf).length) : (reads script waiting buf).length ≤ 1 := by
  unfold reads
  dsimp only
  split_ifs with none
  · exact Nat.zero_le _
  · split
    · next n rest =>
      split_ifs with full
      · -- nothing is left for another read
        have space := space_after_full valid full
        obtain ⟨_,appended⟩ := filled_contents valid (Nat.le_of_eq full)
        change contents (filled buf _) = _ at appended
        rw [appended,List.length_append,full] at space
        have no_more : CIRC_SPACE_TO_END (filled buf (waiting.take (min n (CIRC_SPACE_TO_END buf)))) = 0 := by omega
        unfold reads
        dsimp only
        rw [if_pos no_more]
        exact Nat.le_refl 1
      · exact Nat.le_refl 1
    · exact Nat.le_refl 1

/-- A call reads twice at most, whatever the reads return. -/
theorem reads_le_two (script : List ReadResult) (waiting : List UInt8) {buf : CircBuf} (valid : Valid buf) :
    (reads script waiting buf).length ≤ 2 := by
  unfold reads
  dsimp only
  split_ifs with none
  · exact Nat.zero_le _
  · split
    · next n rest =>
      split_ifs with full
      · obtain ⟨still,_⟩ := filled_contents valid (Nat.le_of_eq full)
        exact Nat.succ_le_succ (reads_le_one still (space_after_full valid full))
      · exact Nat.le_succ 1
    · exact Nat.le_succ 1

/-! ## Runs -/

/-- What `hdlc_decode_one` does at the tail: the byte it takes, if there is one. -/
def consume (buf : CircBuf) : Option (UInt8 × CircBuf) :=
  if buf.tail = buf.head then none
  else some (buf.buf buf.tail,{ buf with tail := (buf.tail + 1) &&& (HDLC_BUF_SIZE - 1) })

theorem decode_loop_consumes (fuel : Nat) (hdlc : HdlcDecoder) (buf : CircBuf) :
    decode_loop (fuel+1) hdlc buf =
      match consume buf with
      | none => .ok (false,hdlc,buf)
      | some (ch,popped) =>
        if ch = 0x7e then .ok (true,hdlc,popped)
        else if ch = 0x7d then decode_loop fuel { hdlc with escape := 0x20 } popped
        else raw_store hdlc ch >>= fun stored => decode_loop fuel stored popped := by
  rw [decode_loop,consume]
  split <;> rfl

inductive RingOp
  | circ_read (waiting : List UInt8) (script : List ReadResult)
  | consume

/-- The ring, the reads of each call so far, and the bytes taken so far. -/
structure RingState where
  buf : CircBuf
  calls : List (List Read)
  consumed : List UInt8

/-- All bytes that reads have stored, in order. -/
def RingState.read (state : RingState) : List UInt8 := state.calls.flatten.flatMap Read.bytes

def ring_step (state : RingState) : RingOp → RingState
  | .circ_read waiting script =>
    { state with buf := (CircRead.circ_read ⟨waiting,script⟩ state.buf).buf
                 calls := state.calls ++ [reads script waiting state.buf] }
  | .consume =>
    match consume state.buf with
    | none => state
    | some (ch,popped) => { state with buf := popped, consumed := state.consumed ++ [ch] }

def ring_run (start : CircBuf) (ops : List RingOp) : RingState := ops.foldl ring_step ⟨start,[],[]⟩

/-- The ring is a queue to which all that was read has arrived. -/
structure IsQueue (start : List UInt8) (q : Fifo UInt8 (HDLC_BUF_SIZE - 1)) (state : RingState) : Prop where
  valid : Valid state.buf
  waiting : contents state.buf = q.waiting
  taken : state.consumed = q.taken
  arrived : q.arrived = start ++ state.read
  few : ∀ call ∈ state.calls, call.length ≤ 2
  placed : ∀ call ∈ state.calls, ∀ read ∈ call, InPlace read

section
variable {start : List UInt8} {q : Fifo UInt8 (HDLC_BUF_SIZE - 1)} {state : RingState}

theorem contents_bounded {buf : CircBuf} (valid : Valid buf) : (contents buf).length ≤ HDLC_BUF_SIZE - 1 := by
  have held := contents_lt valid
  omega

/-- A call puts what its reads store into the queue. -/
theorem circ_read_queue (queue : IsQueue start q state) (waiting : List UInt8) (script : List ReadResult) :
    ∃ room, IsQueue start (q.put ((reads script waiting state.buf).flatMap Read.bytes) room)
      (ring_step state (.circ_read waiting script)) := by
  obtain ⟨valid,held,taken,arrived,few,placed⟩ := queue
  obtain ⟨still,appended,good⟩ := (reads_chained script waiting valid).appends valid
  have room := contents_bounded still
  rw [appended,held] at room
  refine ⟨room,still,?_,taken,?_,?_,?_⟩
  · change contents (CircRead.circ_read ⟨waiting,script⟩ state.buf).buf = _
    rw [CircRead.circ_read,appended,held]
    rfl
  · rw [Fifo.arrived_put,arrived,List.append_assoc]
    simp [ring_step,RingState.read]
  · exact List.forall_mem_append.mpr ⟨few,List.forall_mem_singleton.mpr (reads_le_two script waiting valid)⟩
  · exact List.forall_mem_append.mpr ⟨placed,List.forall_mem_singleton.mpr good⟩

/-- Taking a byte at the tail takes the first of the queue. -/
theorem consume_queue (queue : IsQueue start q state) : IsQueue start q.get (ring_step state .consume) := by
  obtain ⟨valid,held,taken,arrived,few,placed⟩ := queue
  by_cases empty : state.buf.tail = state.buf.head
  · have nothing := (contents_empty valid).mpr empty
    have idle : ring_step state .consume = state := by
      simp only [ring_step,consume,empty,if_true]
    rw [idle]
    refine ⟨valid,?_,?_,by rw [Fifo.arrived_get,arrived],few,placed⟩
    · rw [Fifo.waiting_get,← held,nothing]
      rfl
    · rw [Fifo.taken_get,← held,nothing,taken]
      simp
  · obtain ⟨still,first⟩ := contents_pop valid empty
    have step : ring_step state .consume = { state with
        buf := { state.buf with tail := (state.buf.tail + 1) &&& (HDLC_BUF_SIZE - 1) }
        consumed := state.consumed ++ [state.buf.buf state.buf.tail] } := by
      simp only [ring_step,consume,empty,if_false]
    rw [step]
    refine ⟨still,?_,?_,by rw [Fifo.arrived_get,arrived]; rfl,few,placed⟩
    · rw [Fifo.waiting_get,← held,first]
      rfl
    · rw [Fifo.taken_get,← held,first,taken]
      rfl

theorem ring_run_queue {start : CircBuf} (valid : Valid start) (ops : List RingOp) :
    ∃ q, IsQueue (contents start) q (ring_run start ops) := by
  induction ops using List.reverseRecOn with
  | nil => exact ⟨⟨[],contents start,contents_bounded valid⟩,valid,rfl,rfl,by simp [Fifo.arrived,ring_run,RingState.read],
      by simp [ring_run],by simp [ring_run]⟩
  | append_singleton ops op ih =>
    obtain ⟨q,queue⟩ := ih
    rw [ring_run,List.foldl_append]
    cases op with
    | circ_read waiting script =>
      obtain ⟨room,next⟩ := circ_read_queue queue waiting script
      exact ⟨_,next⟩
    | consume => exact ⟨_,consume_queue queue⟩

end

/-- From any indices inside the array, after every run of `circ_read` calls and
    bytes taken: the indices are inside it, less than `HDLC_BUF_SIZE` bytes wait,
    what was taken and what waits are what was there and what was read, in order,
    and every call has read twice at most, in place each time. -/
theorem ring_is_queue {start : CircBuf} (valid : Valid start) (ops : List RingOp) :
    Valid (ring_run start ops).buf ∧ (contents (ring_run start ops).buf).length ≤ HDLC_BUF_SIZE - 1 ∧
      (ring_run start ops).consumed ++ contents (ring_run start ops).buf = contents start ++ (ring_run start ops).read ∧
      (ring_run start ops).consumed <+: contents start ++ (ring_run start ops).read ∧
      ∀ call ∈ (ring_run start ops).calls, call.length ≤ 2 ∧ ∀ read ∈ call, InPlace read := by
  obtain ⟨q,queue⟩ := ring_run_queue valid ops
  have order := q.taken_prefix
  have all : (ring_run start ops).consumed ++ contents (ring_run start ops).buf = q.arrived := by
    rw [queue.taken,queue.waiting]
    rfl
  rw [← queue.arrived,← all]
  rw [← all,← queue.taken] at order
  exact ⟨queue.valid,contents_bounded queue.valid,rfl,order,fun call issued => ⟨queue.few call issued,queue.placed call issued⟩⟩

/-- Two bytes are read across the end of the array, and one is taken. -/
def wrapped : RingState := ring_run ⟨fun _ => 0,16383,16383⟩ [.circ_read [1,2] [.upto 1,.upto 1],.consume]

theorem ring_is_queue_wrapped :
    Valid wrapped.buf ∧ (contents wrapped.buf).length ≤ HDLC_BUF_SIZE - 1 ∧
      wrapped.consumed ++ contents wrapped.buf = contents ⟨fun _ => 0,16383,16383⟩ ++ wrapped.read ∧
      wrapped.consumed <+: contents ⟨fun _ => 0,16383,16383⟩ ++ wrapped.read ∧
      ∀ call ∈ wrapped.calls, call.length ≤ 2 ∧ ∀ read ∈ call, InPlace read :=
  @ring_is_queue ⟨fun _ => 0,16383,16383⟩ ⟨by decide,by decide⟩ [.circ_read [1,2] [.upto 1,.upto 1],.consume]

end DiagRouter.RingFifo

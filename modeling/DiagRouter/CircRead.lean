import DiagRouter.Lib.Ring
import DiagRouter.Lib.Memory

/-!
# The receive ring

`circ_read` and the ring it fills. A descriptor is the bytes its peer has sent
and not yet been read, and a script of how each `read` ends; a script that is
used up answers `EAGAIN`.
-/
namespace DiagRouter.CircRead
open DiagRouter.Lib.Ring

def HDLC_BUF_SIZE : Nat := 16384
def EAGAIN : Nat := 11

/-- Conversion to a 64-bit `size_t`. -/
def size_t (x : Int) : Nat := (x % 18446744073709551616).toNat

structure CircBuf where
  buf : Nat → UInt8
  head : Nat
  tail : Nat

def CIRC_SPACE (buf : CircBuf) : Nat := size_t ((buf.tail : Int) - buf.head - 1) &&& (HDLC_BUF_SIZE - 1)

def CIRC_SPACE_TO_END (buf : CircBuf) : Nat :=
  min (CIRC_SPACE buf) (size_t ((HDLC_BUF_SIZE : Int) - buf.head))

/-- How the kernel ends one `read`: with at most `n` of the waiting bytes, with
    end of file, or with an error. -/
inductive ReadResult
  | upto (n : Nat)
  | eof
  | error (errno : Nat)
deriving DecidableEq, Repr

structure Fd where
  waiting : List UInt8
  script : List ReadResult
deriving DecidableEq, Repr

/-- What `circ_read` returns (`none` for 0, otherwise the `errno` of the failed
    `read`) and leaves behind. -/
structure CircReadResult where
  errno : Option Nat
  fd : Fd
  buf : CircBuf

def circ_read_loop : List ReadResult → List UInt8 → CircBuf → CircReadResult
  | script, waiting, buf =>
    let space := CIRC_SPACE_TO_END buf
    if space = 0 then ⟨none,⟨waiting,script⟩,buf⟩
    else
      match script with
      | [] => ⟨some EAGAIN,⟨waiting,[]⟩,buf⟩
      | .error errno :: rest => ⟨some errno,⟨waiting,rest⟩,buf⟩
      | .eof :: rest => ⟨none,⟨waiting,rest⟩,buf⟩
      | .upto n :: rest =>
        if waiting = [] then ⟨some EAGAIN,⟨waiting,rest⟩,buf⟩
        else
          let bytes := waiting.take (min n space)
          let filled : CircBuf :=
            { buf with buf := write buf.buf buf.head bytes
                       head := (buf.head + bytes.length) &&& (HDLC_BUF_SIZE - 1) }
          if bytes.length = space then circ_read_loop rest (waiting.drop (min n space)) filled
          else ⟨none,⟨waiting.drop (min n space),rest⟩,filled⟩

def circ_read (fd : Fd) (buf : CircBuf) : CircReadResult := circ_read_loop fd.script fd.waiting buf

/-! ## What it holds -/

/-- Indices a ring keeps. -/
structure Valid (buf : CircBuf) : Prop where
  head : buf.head < HDLC_BUF_SIZE
  tail : buf.tail < HDLC_BUF_SIZE

/-- The bytes between tail and head. -/
def contents (buf : CircBuf) : List UInt8 := held HDLC_BUF_SIZE buf.buf buf.head buf.tail

theorem mask_eq_mod (n : Nat) : n &&& (HDLC_BUF_SIZE - 1) = n % HDLC_BUF_SIZE :=
  Nat.and_two_pow_sub_one_eq_mod n 14

theorem contents_lt {buf : CircBuf} (valid : Valid buf) : (contents buf).length < HDLC_BUF_SIZE := by
  rw [contents,held_length]
  exact used_lt valid.head valid.tail

/-- The free space is what the contents leave, less the cell that stays free. -/
theorem circ_space_eq {buf : CircBuf} (valid : Valid buf) :
    CIRC_SPACE buf = HDLC_BUF_SIZE - 1 - (contents buf).length := by
  obtain ⟨head,tail⟩ := valid
  rw [CIRC_SPACE,mask_eq_mod,contents,held_length]
  unfold size_t used HDLC_BUF_SIZE at *
  split <;> omega

theorem circ_space_to_end_eq {buf : CircBuf} (valid : Valid buf) :
    CIRC_SPACE_TO_END buf = min (HDLC_BUF_SIZE - 1 - (contents buf).length) (HDLC_BUF_SIZE - buf.head) := by
  have head := valid.head
  have last : size_t ((HDLC_BUF_SIZE : Int) - buf.head) = HDLC_BUF_SIZE - buf.head := by
    unfold size_t HDLC_BUF_SIZE at *
    omega
  rw [CIRC_SPACE_TO_END,circ_space_eq valid,last]

/-- One successful read appends its bytes. -/
theorem filled_contents {buf : CircBuf} (valid : Valid buf) {bytes : List UInt8}
    (room : bytes.length ≤ CIRC_SPACE_TO_END buf) :
    Valid { buf with buf := write buf.buf buf.head bytes
                     head := (buf.head + bytes.length) &&& (HDLC_BUF_SIZE - 1) } ∧
      contents { buf with buf := write buf.buf buf.head bytes
                          head := (buf.head + bytes.length) &&& (HDLC_BUF_SIZE - 1) } = contents buf ++ bytes := by
  have space := circ_space_to_end_eq valid
  have held := contents_lt valid
  have head := valid.head
  have count : (contents buf).length = used HDLC_BUF_SIZE buf.head buf.tail := held_length ..
  rw [mask_eq_mod]
  refine ⟨⟨Nat.mod_lt _ (by decide),valid.tail⟩,?_⟩
  have free : used HDLC_BUF_SIZE buf.head buf.tail + bytes.length < HDLC_BUF_SIZE := by omega
  exact held_write valid.head valid.tail free (by omega)

/-- What every fill of a ring keeps, `circ_read` keeps, whatever the reads
    return; the bytes it has taken are the first that wait. -/
theorem circ_read_loop_fills {P : List UInt8 → CircBuf → Prop}
    (fill : ∀ {taken bytes buf}, P taken buf → bytes.length ≤ CIRC_SPACE_TO_END buf →
      P (taken ++ bytes) { buf with buf := write buf.buf buf.head bytes
                                    head := (buf.head + bytes.length) &&& (HDLC_BUF_SIZE - 1) })
    (script : List ReadResult) (waiting : List UInt8) {taken : List UInt8} {buf : CircBuf} (start : P taken buf) :
    ∃ bytes, waiting = bytes ++ (circ_read_loop script waiting buf).fd.waiting ∧
      P (taken ++ bytes) (circ_read_loop script waiting buf).buf := by
  induction script generalizing waiting taken buf with
  | nil =>
    unfold circ_read_loop
    dsimp only
    by_cases full : CIRC_SPACE_TO_END buf = 0
    · simp only [full,if_true]
      exact ⟨[],rfl,by simpa using start⟩
    · simp only [full,if_false]
      exact ⟨[],rfl,by simpa using start⟩
  | cons result rest ih =>
    unfold circ_read_loop
    dsimp only
    by_cases full : CIRC_SPACE_TO_END buf = 0
    · simp only [full,if_true]
      exact ⟨[],rfl,by simpa using start⟩
    · simp only [full,if_false]
      cases result with
      | error errno => exact ⟨[],rfl,by simpa using start⟩
      | eof => exact ⟨[],rfl,by simpa using start⟩
      | upto n =>
        have room : (waiting.take (min n (CIRC_SPACE_TO_END buf))).length ≤ CIRC_SPACE_TO_END buf := by
          rw [List.length_take]
          omega
        have filled := fill start room
        dsimp only
        by_cases nothing : waiting = []
        · rw [if_pos nothing]
          exact ⟨[],rfl,by simpa using start⟩
        · rw [if_neg nothing]
          by_cases whole : (waiting.take (min n (CIRC_SPACE_TO_END buf))).length = CIRC_SPACE_TO_END buf
          · rw [if_pos whole]
            obtain ⟨bytes,more,kept⟩ := ih (waiting.drop (min n (CIRC_SPACE_TO_END buf))) filled
            refine ⟨waiting.take (min n (CIRC_SPACE_TO_END buf)) ++ bytes,?_,?_⟩
            · rw [List.append_assoc,← more,List.take_append_drop]
            · rw [← List.append_assoc]
              exact kept
          · rw [if_neg whole]
            exact ⟨_,(List.take_append_drop _ waiting).symm,filled⟩

/-- `circ_read` moves some of the waiting bytes to the end of the ring, in
    order, whatever the reads return. -/
theorem circ_read_loop_spec (script : List ReadResult) (waiting : List UInt8) {buf : CircBuf} (valid : Valid buf) :
    ∃ bytes, waiting = bytes ++ (circ_read_loop script waiting buf).fd.waiting ∧
      Valid (circ_read_loop script waiting buf).buf ∧
      contents (circ_read_loop script waiting buf).buf = contents buf ++ bytes := by
  refine @circ_read_loop_fills (fun taken ring => Valid ring ∧ contents ring = contents buf ++ taken) ?_ script waiting []
    buf ⟨valid,(List.append_nil _).symm⟩
  rintro taken bytes ring ⟨good,appended⟩ room
  obtain ⟨still,more⟩ := filled_contents good room
  exact ⟨still,by rw [more,appended,List.append_assoc]⟩

theorem circ_read_spec (fd : Fd) {buf : CircBuf} (valid : Valid buf) :
    ∃ bytes, fd.waiting = bytes ++ (circ_read fd buf).fd.waiting ∧ Valid (circ_read fd buf).buf ∧
      contents (circ_read fd buf).buf = contents buf ++ bytes :=
  circ_read_loop_spec fd.script fd.waiting valid

/-! ## A piece that fits -/

theorem circ_read_loop_nothing (script : List ReadResult) (buf : CircBuf) :
    (circ_read_loop script [] buf).fd.waiting = [] := by
  induction script generalizing buf with
  | nil =>
    unfold circ_read_loop
    dsimp only
    split <;> rfl
  | cons result rest ih =>
    unfold circ_read_loop
    dsimp only
    split
    · rfl
    · cases result <;> rfl

/-- One read takes a piece that fits before the end of the array. -/
theorem circ_read_loop_to_end {n : Nat} {rest : List ReadResult} {piece : List UInt8} {buf : CircBuf}
    (asked : piece.length ≤ n) (room : piece.length ≤ CIRC_SPACE_TO_END buf) :
    (circ_read_loop (.upto n :: rest) piece buf).fd.waiting = [] := by
  have all : min n (CIRC_SPACE_TO_END buf) ≥ piece.length := by omega
  unfold circ_read_loop
  dsimp only
  split_ifs with full nothing whole
  · have empty : piece.length = 0 := by omega
    exact List.eq_nil_of_length_eq_zero empty
  · exact nothing
  · rw [List.drop_eq_nil_of_le all]
    exact circ_read_loop_nothing rest _
  · exact List.drop_eq_nil_of_le all

/-- A descriptor that only runs dry fails with `EAGAIN`. -/
theorem circ_read_loop_errno {script : List ReadResult} (dry : ∀ result ∈ script, ∃ n, result = .upto n)
    (waiting : List UInt8) (buf : CircBuf) :
    (circ_read_loop script waiting buf).errno = none ∨ (circ_read_loop script waiting buf).errno = some EAGAIN := by
  induction script generalizing waiting buf with
  | nil =>
    unfold circ_read_loop
    dsimp only
    split
    · exact .inl rfl
    · exact .inr rfl
  | cons result rest ih =>
    obtain ⟨⟨n,rfl⟩,others⟩ := List.forall_mem_cons.mp dry
    unfold circ_read_loop
    dsimp only
    split_ifs
    · exact .inl rfl
    · exact .inr rfl
    · exact ih others _ _
    · exact .inl rfl

/-- A read of one byte into an empty ring. -/
theorem circ_read_byte {buf : CircBuf} (valid : Valid buf) (empty : contents buf = []) (ch : UInt8) (rest : List UInt8) :
    (circ_read ⟨ch :: rest,[.upto 1]⟩ buf).fd.waiting = rest ∧ Valid (circ_read ⟨ch :: rest,[.upto 1]⟩ buf).buf ∧
      contents (circ_read ⟨ch :: rest,[.upto 1]⟩ buf).buf = [ch] := by
  have space := circ_space_to_end_eq valid
  have head := valid.head
  rw [empty] at space
  have some : 1 ≤ CIRC_SPACE_TO_END buf := by
    rw [space]
    unfold HDLC_BUF_SIZE at *
    simp only [List.length_nil]
    omega
  have one : min 1 (CIRC_SPACE_TO_END buf) = 1 := by omega
  obtain ⟨bytes,taken,still,appended⟩ := circ_read_spec ⟨ch :: rest,[.upto 1]⟩ valid
  have waiting : (circ_read ⟨ch :: rest,[.upto 1]⟩ buf).fd.waiting = rest := by
    rw [circ_read,circ_read_loop]
    dsimp only
    rw [if_neg (by omega),if_neg (by simp),one]
    split
    · rw [circ_read_loop]
      split <;> rfl
    · rfl
  rw [waiting] at taken
  have first : bytes = [ch] := List.append_cancel_right (taken.symm.trans List.singleton_append.symm)
  exact ⟨waiting,still,by rw [appended,empty,first,List.nil_append]⟩

/-- Two reads take a piece that fits: up to the end of the array, and the rest
    from its beginning. -/
theorem circ_read_whole {buf : CircBuf} (valid : Valid buf) (piece : List UInt8)
    (room : (contents buf).length + piece.length < HDLC_BUF_SIZE) :
    Valid (circ_read ⟨piece,[.upto piece.length,.upto piece.length]⟩ buf).buf ∧
      contents (circ_read ⟨piece,[.upto piece.length,.upto piece.length]⟩ buf).buf = contents buf ++ piece := by
  obtain ⟨bytes,taken,still,appended⟩ :=
    circ_read_spec ⟨piece,[.upto piece.length,.upto piece.length]⟩ valid
  have all : (circ_read ⟨piece,[.upto piece.length,.upto piece.length]⟩ buf).fd.waiting = [] := by
    by_cases short : piece.length ≤ CIRC_SPACE_TO_END buf
    · exact circ_read_loop_to_end (Nat.le_refl _) short
    · have space := circ_space_to_end_eq valid
      have head := valid.head
      have first : (piece.take (min piece.length (CIRC_SPACE_TO_END buf))).length = CIRC_SPACE_TO_END buf := by
        rw [List.length_take]
        omega
      obtain ⟨good,longer⟩ := filled_contents valid (Nat.le_of_eq first)
      have nonempty : piece ≠ [] := by
        rintro rfl
        exact short (Nat.zero_le _)
      rw [circ_read,circ_read_loop]
      dsimp only
      rw [if_neg (by omega),if_neg nonempty,if_pos first]
      refine circ_read_loop_to_end (by simp) ?_
      -- The head has wrapped to the first cell.
      have wrapped : (buf.head + CIRC_SPACE_TO_END buf) % HDLC_BUF_SIZE = 0 := by
        rw [show buf.head + CIRC_SPACE_TO_END buf = HDLC_BUF_SIZE by omega,Nat.mod_self]
      have free := circ_space_to_end_eq good
      rw [longer] at free
      rw [free]
      dsimp only
      rw [mask_eq_mod,first,wrapped,List.length_append,first,List.length_drop]
      omega
  rw [all,List.append_nil] at taken
  exact ⟨still,by rw [appended,← taken]⟩

end DiagRouter.CircRead

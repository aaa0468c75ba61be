import DiagRouter.NhdlcDatagram

/-!
# The command channel of rpmsg

`diag_cmd_recv` reads a frame into a buffer on its stack and takes it apart as
`qrtr_cmd_recv` does a datagram. After a read that failed it goes on, with what
the stack held and a length that no frame is too long for.
-/
namespace DiagRouter.CmdRecv
open DiagRouter.Lib.Memory DiagRouter.Lib.Words DiagRouter.CircRead DiagRouter.Endpoints DiagRouter.NhdlcDatagram
open DiagRouter.Clients (NHDLC_CONTROL_CHAR)

def APPS_BUF_SIZE : Nat := 16384

/-- What a handler calls. -/
inductive Call
  | peripheral_close
  | dm_broadcast (ptr : List UInt8)
deriving DecidableEq, Repr

/-- What follows a read that failed. -/
def read_failed (errno : Nat) : List Call := if errno ≠ EAGAIN then [.peripheral_close] else []

/-- `stale` is the buffer before the `read`, which returns the bytes it has put
    there, or fails with an `errno`. The frame's length is compared with `len` as
    a `size_t`. -/
def diag_cmd_recv (stale : Nat → UInt8) (read : Except Nat (List UInt8)) : Except Fault (List Call) :=
  let len : Int := match read with
    | .ok received => received.length
    | .error _ => -1
  let buf := match read with
    | .ok received => place received stale
    | .error _ => stale
  let calls := match read with
    | .ok _ => []
    | .error errno => read_failed errno
  let length := (le16At buf 2).toNat
  if buf 0 ≠ 0x7e ∨ buf 1 ≠ 1 then .ok calls
  else if size_t (4 + length + 1) > size_t len then .ok calls
  else if APPS_BUF_SIZE ≤ 4 + length then .error .outOfBounds
  else if buf (4 + length) ≠ 0x7e then .ok calls
  else .ok (calls ++ [.dm_broadcast (span buf 4 length)])

def broadcasts (calls : List Call) : List (List UInt8) :=
  calls.filterMap (fun call => match call with
    | .peripheral_close => none
    | .dm_broadcast ptr => some ptr)

/-- The bytes begin with the frame of a payload. -/
def Frames (received payload : List UInt8) : Prop :=
  payload.length ≤ 65535 ∧ ∃ more, received = [0x7e,1] ++ le16 (UInt16.ofNat payload.length) ++ payload ++ [0x7e] ++ more

/-- A payload is broadcast if its frame has been read, once, and nothing else is;
    and it is what `qrtr_cmd_recv` broadcasts for the same datagram. -/
structure Exact (stale : Nat → UInt8) (read : Except Nat (List UInt8)) (calls : List Call) : Prop where
  ran : diag_cmd_recv stale read = .ok calls
  framed : ∀ payload, broadcasts calls = [payload] ↔ ∃ received, read = .ok received ∧ Frames received payload
  nothing : broadcasts calls = [] ↔ ¬ ∃ received payload, read = .ok received ∧ Frames received payload
  qrtr : ∀ received, read = .ok received → ∀ (s : Router) i perif node port, s.peripherals[i]? = some perif →
    qrtr_cmd_recv s i ⟨.QRTR_TYPE_DATA,node,port,received⟩ = (broadcasts calls).foldl (fun s msg => dm_broadcast s msg none) s

section
variable {stale : Nat → UInt8} {received : List UInt8} {errno : Nat}

/-- A read that succeeded: the frame is taken apart as a datagram is. -/
theorem recv_received (short : received.length ≤ APPS_BUF_SIZE) :
    diag_cmd_recv stale (.ok received) =
      .ok ((non_hdlc_recv (place received stale) received.length).toList.map Call.dm_broadcast) := by
  have len : size_t (received.length : Int) = received.length := by
    unfold size_t APPS_BUF_SIZE at *
    omega
  unfold diag_cmd_recv non_hdlc_recv
  dsimp only
  rw [len]
  have bound := (le16At (place received stale) 2).toNat_lt
  generalize (le16At (place received stale) 2).toNat = length at bound ⊢
  have sum : size_t (4 + (length : Int) + 1) = 4 + length + 1 := by
    unfold size_t
    omega
  rw [sum]
  split_ifs with bad truncated outside unended
  · rfl
  · rfl
  · omega
  · rfl
  · rfl

/-- A read that failed: nothing is too long, and the stack is taken apart. -/
theorem recv_failed :
    diag_cmd_recv stale (.error errno) =
      let length := (le16At stale 2).toNat
      if stale 0 = 0x7e ∧ stale 1 = 1 then
        if APPS_BUF_SIZE ≤ 4 + length then .error .outOfBounds
        else if stale (4 + length) = 0x7e then .ok (read_failed errno ++ [.dm_broadcast (span stale 4 length)])
        else .ok (read_failed errno)
      else .ok (read_failed errno) := by
  have bound := (le16At stale 2).toNat_lt
  unfold diag_cmd_recv
  dsimp only
  generalize (le16At stale 2).toNat = length at bound ⊢
  have passes : ¬ size_t (4 + (length : Int) + 1) > size_t (-1) := by
    unfold size_t
    omega
  rw [if_neg passes]
  by_cases header : stale 0 = 0x7e ∧ stale 1 = 1
  · have good : ¬ (stale 0 ≠ 0x7e ∨ stale 1 ≠ 1) := by rw [header.1,header.2]; decide
    rw [if_neg good,if_pos header,ite_not]
  · rw [if_pos (by rwa [← not_and_or]),if_neg header]

theorem broadcasts_received (taken : Option (List UInt8)) : broadcasts (taken.toList.map Call.dm_broadcast) = taken.toList := by
  cases taken <;> rfl

theorem broadcasts_failed (errno : Nat) : broadcasts (read_failed errno) = [] := by
  unfold read_failed
  split_ifs <;> rfl

/-- What was read is what is in front of the stale bytes. -/
theorem span_received (received : List UInt8) (stale : Nat → UInt8) : span (place received stale) 0 received.length = received := by
  have spelled := span_place [] received [] stale
  rwa [List.append_nil] at spelled

theorem exact_received (short : received.length ≤ APPS_BUF_SIZE) : ∃ calls, Exact stale (.ok received) calls := by
  let taken := non_hdlc_recv (place received stale) received.length
  have frames : ∀ payload, taken = some payload ↔ Frames received payload := by
    intro payload
    have framed := @recv_iff (place received stale) received.length payload
    rw [span_received] at framed
    exact framed
  refine ⟨_,recv_received short,?_,?_,?_⟩
  · intro payload
    rw [broadcasts_received,Option.toList_eq_singleton_iff]
    constructor
    · intro framed
      exact ⟨received,rfl,(frames payload).mp framed⟩
    · rintro ⟨_,⟨⟩,framed⟩
      exact (frames payload).mpr framed
  · rw [broadcasts_received,Option.toList_eq_nil_iff]
    constructor
    · rintro none ⟨_,payload,⟨⟩,framed⟩
      cases none.symm.trans ((frames payload).mpr framed)
    · intro none
      exact Option.eq_none_iff_forall_ne_some.mpr
        (fun payload framed => none ⟨received,payload,rfl,(frames payload).mp framed⟩)
  · rintro _ ⟨⟩ s i perif node port present
    have payload := @payload_eq (place received stale) received.length
    rw [span_received] at payload
    simp only [qrtr_cmd_recv,present,payload,broadcasts_received]
    cases non_hdlc_recv (place received stale) received.length with
    | none => rfl
    | some payload => rfl

/-- After a failed read nothing is to be broadcast. -/
theorem exact_failed {calls : List Call} (ran : diag_cmd_recv stale (.error errno) = .ok calls) :
    Exact stale (.error errno) calls ↔ broadcasts calls = [] := by
  have unread : ¬ ∃ received payload, (Except.error errno : Except Nat (List UInt8)) = .ok received ∧ Frames received payload := by
    rintro ⟨_,_,⟨⟩,_⟩
  constructor
  · intro exact_calls
    exact exact_calls.nothing.mpr unread
  · intro nothing
    refine ⟨ran,?_,⟨fun _ => unread,fun _ => nothing⟩,?_⟩
    · intro payload
      rw [nothing]
      constructor
      · rintro ⟨⟩
      · rintro ⟨_,⟨⟩,_⟩
    · rintro _ ⟨⟩

end

/-- The frame that a failed read finds on the stack. -/
def StaleFrame (stale : Nat → UInt8) : Prop :=
  stale 0 = 0x7e ∧ stale 1 = 1 ∧
    (APPS_BUF_SIZE ≤ 4 + (le16At stale 2).toNat ∨ stale (4 + (le16At stale 2).toNat) = 0x7e)

/-- What has been read is broadcast exactly; a read that failed broadcasts
    nothing, and stays inside the buffer, exactly when the stack does not hold a
    frame, or the beginning of one that leads out of the buffer. -/
theorem cmd_recv_iff {stale : Nat → UInt8} {read : Except Nat (List UInt8)}
    (fits : ∀ received, read = .ok received → received.length ≤ APPS_BUF_SIZE) :
    (∃ calls, Exact stale read calls) ↔ (∃ received, read = .ok received) ∨ ¬ StaleFrame stale := by
  cases read with
  | ok received => exact ⟨fun _ => .inl ⟨received,rfl⟩,fun _ => exact_received (fits received rfl)⟩
  | error errno =>
    have failed := @recv_failed stale errno
    dsimp only at failed
    have unread : ¬ ∃ received, (Except.error errno : Except Nat (List UInt8)) = .ok received := by
      rintro ⟨_,⟨⟩⟩
    rw [or_iff_right unread]
    constructor
    · rintro ⟨calls,exact_calls⟩ ⟨start,version,frame⟩
      have ran := exact_calls.ran
      have nothing := (exact_failed ran).mp exact_calls
      rw [failed,if_pos ⟨start,version⟩] at ran
      split_ifs at ran with outside ended
      · cases ran
        rw [broadcasts,List.filterMap_append,List.append_eq_nil_iff] at nothing
        cases nothing.2
      · exact ended (frame.resolve_left outside)
    · intro none
      have ran : diag_cmd_recv stale (.error errno) = .ok (read_failed errno) := by
        rw [failed]
        split_ifs with header outside ended
        · exact absurd ⟨header.1,header.2,.inl outside⟩ none
        · exact absurd ⟨header.1,header.2,.inr ended⟩ none
        · rfl
        · rfl
      exact ⟨_,(exact_failed ran).mpr (broadcasts_failed errno)⟩

/-- A frame that has been read. -/
theorem cmd_recv_iff_frame :
    (∃ calls, Exact (fun _ => 0) (.ok (nhdlc_frame [0x4b])) calls) ↔
      (∃ received, (Except.ok (nhdlc_frame [0x4b]) : Except Nat (List UInt8)) = .ok received) ∨ ¬ StaleFrame (fun _ => 0) :=
  @cmd_recv_iff (fun _ => 0) (.ok (nhdlc_frame [0x4b])) (by rintro received ⟨⟩; decide)

/-- A read fails on a stack that holds the frame before: its payload is broadcast
    again. -/
theorem stale_frame_broadcast :
    diag_cmd_recv (place (nhdlc_frame [0x4b]) (fun _ => 0)) (.error EAGAIN) = .ok [.dm_broadcast [0x4b]] ∧
    ¬ ∃ calls, Exact (place (nhdlc_frame [0x4b]) (fun _ => 0)) (.error EAGAIN) calls := by
  have again : diag_cmd_recv (place (nhdlc_frame [0x4b]) (fun _ => 0)) (.error EAGAIN) = .ok [.dm_broadcast [0x4b]] := by
    decide +kernel
  refine ⟨again,?_⟩
  rintro ⟨calls,exact_calls⟩
  have nothing := (exact_failed exact_calls.ran).mp exact_calls
  cases again.symm.trans exact_calls.ran
  cases nothing

end DiagRouter.CmdRecv

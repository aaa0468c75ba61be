import DiagRouter.DmStream
import DiagRouter.Handlers

/-!
# Packets without HDLC

A client in `DIAG_ENCODE_NHDLC` sends its commands in packets with a length.
`dm_recv_nhdlc` takes its packet from the first cell of the ring, whatever the
tail is, hands it over whether it is one or not, and leaves the ring as it is.
So what a call hands over is what the stream, laid out from the tail, has put
behind the beginning of the array.
-/
namespace DiagRouter.NhdlcStream
open DiagRouter.Lib.Memory DiagRouter.Lib.Runs DiagRouter.Lib.Ring DiagRouter.Lib.Words DiagRouter.CircRead
open DiagRouter.Hdlc (Message contents_empty)
open DiagRouter.DmStream (dm_recv_hdlc)
open DiagRouter.Clients (EncodeType NHDLC_CONTROL_CHAR)
open DiagRouter.Handlers (EINVAL)

/-- A client as its calls find it; the counter is one for all of them. -/
structure DiagClient where
  encode_type : EncodeType
  encode_hdlc_reset : Bool
  recv_buf : CircBuf
  bad_cmd_counter : UInt32

def DIAG_MAX_BAD_CMD : UInt32 := 5

/-- The first time it starts the timer of `diag_hdlc_reset`. -/
def diag_start_hdlc_recovery (dm : DiagClient) : DiagClient :=
  let timed := if dm.encode_hdlc_reset then dm else { dm with encode_hdlc_reset := true }
  let counted := { timed with bad_cmd_counter := timed.bad_cmd_counter + 1 }
  if counted.bad_cmd_counter > DIAG_MAX_BAD_CMD then { counted with bad_cmd_counter := 0, encode_type := .HDLC } else counted

/-- The packet begins with the array; its last byte is looked at only behind the
    right first one. -/
def dm_check_nhdlc_pkt (buf : CircBuf) : Except Fault Int :=
  let length := (le16At buf.buf 2).toNat
  if buf.buf 0 ≠ NHDLC_CONTROL_CHAR then .ok (-EINVAL)
  else if HDLC_BUF_SIZE ≤ 4 + length then .error .outOfBounds
  else if buf.buf (4 + length) ≠ NHDLC_CONTROL_CHAR then .ok (-EINVAL)
  else .ok 0

/-- `diag_client_handle_command` is given the cells behind the header, and the
    length there. -/
def dm_recv_nhdlc (dm : DiagClient) : Except Fault (DiagClient × List Message) :=
  dm_check_nhdlc_pkt dm.recv_buf >>= fun ret =>
    let checked := if ret ≠ 0 then diag_start_hdlc_recovery dm else dm
    .ok (checked,[⟨span dm.recv_buf.buf 4 (HDLC_BUF_SIZE - 4),(le16At dm.recv_buf.buf 2).toNat⟩])

def dm_decode_data (dm : DiagClient) : Except Fault (DiagClient × List Message) :=
  match dm.encode_type with
  | .HDLC => (fun (left,commands) => ({ dm with recv_buf := left },commands)) <$> dm_recv_hdlc dm.recv_buf
  | .NHDLC => dm_recv_nhdlc dm
  | .RAW => .ok (dm,[])

def dm_recv_encoded (fd : Fd) (dm : DiagClient) : Except Fault (DiagClient × List Message) :=
  let read := circ_read fd dm.recv_buf
  match read.errno with
  | some errno => if errno ≠ EAGAIN then .ok ({ dm with recv_buf := read.buf },[]) else dm_decode_data { dm with recv_buf := read.buf }
  | none => dm_decode_data { dm with recv_buf := read.buf }

/-! ## Runs -/

/-- A packet of a client. -/
def packet (payload : List UInt8) : List UInt8 :=
  [NHDLC_CONTROL_CHAR,1] ++ le16 (UInt16.ofNat payload.length) ++ payload ++ [NHDLC_CONTROL_CHAR]

/-- What happens to a client: a call that finds packets on its descriptor, and
    between calls what commands, its timer and other clients do. -/
inductive Op
  | dm_recv_encoded (packets : List (List UInt8)) (script : List ReadResult)
  | set_encode_type (type : EncodeType)
  | diag_hdlc_reset
  | bad_cmd_counter (count : UInt32)

def set_encode_type (type : EncodeType) (dm : DiagClient) : DiagClient :=
  if dm.encode_type = .RAW then dm else { dm with encode_type := type }

def step (dm : DiagClient) : Op → Except Fault (DiagClient × List Message)
  | .dm_recv_encoded packets script => dm_recv_encoded ⟨packets.flatMap packet,script⟩ dm
  | .set_encode_type type => .ok (set_encode_type type dm,[])
  | .diag_hdlc_reset => .ok ({ set_encode_type .HDLC dm with encode_hdlc_reset := false },[])
  | .bad_cmd_counter count => .ok ({ dm with bad_cmd_counter := count },[])

/-- The payloads a call finds on the descriptor. -/
def Op.payloads : Op → List (List UInt8)
  | .dm_recv_encoded packets _ => packets
  | .set_encode_type _ => []
  | .diag_hdlc_reset => []
  | .bad_cmd_counter _ => []

/-- The bytes a call reads. -/
def Op.bytes (op : Op) : List UInt8 := op.payloads.flatMap packet

/-- A call of a client in `DIAG_ENCODE_NHDLC` whose reads deliver one packet or
    more, each with a length of 16 bits, whole. -/
def Delivers (dm : DiagClient) : Op → Prop
  | .dm_recv_encoded packets script => dm.encode_type = .NHDLC ∧ packets ≠ [] ∧ (∀ payload ∈ packets, payload.length < 65536) ∧
      (circ_read ⟨packets.flatMap packet,script⟩ dm.recv_buf).fd.waiting = [] ∧
      (∀ errno ∈ (circ_read ⟨packets.flatMap packet,script⟩ dm.recv_buf).errno, errno = EAGAIN)
  | _ => True

/-- The array from its third cell on, where the stream from the tail has got so
    far: the length of a payload and the payload. -/
def Arrived (buf : CircBuf) (stream payload : List UInt8) : Prop :=
  span (laid HDLC_BUF_SIZE buf.buf buf.tail stream) 2 (2 + payload.length) = le16 (UInt16.ofNat payload.length) ++ payload

/-! ## The ring -/

/-- A ring that has been read into from `old` on, and nothing taken out. -/
structure Holds (old : CircBuf) (stream : List UInt8) (buf : CircBuf) : Prop where
  valid : Valid buf
  tail : buf.tail = old.tail
  holds : contents buf = stream
  cells : ∀ i, i < HDLC_BUF_SIZE → buf.buf i = laid HDLC_BUF_SIZE old.buf old.tail stream i

section
variable {old buf : CircBuf} {stream : List UInt8} {dm : DiagClient}

theorem holds_start (empty : old.head = old.tail) (inside : old.tail < HDLC_BUF_SIZE) : Holds old [] old := by
  have valid : Valid old := ⟨by omega,inside⟩
  exact ⟨valid,rfl,(contents_empty valid).mpr empty.symm,by simp⟩

theorem head_place (valid : Valid buf) : (buf.tail + (contents buf).length) % HDLC_BUF_SIZE = buf.head := by
  rw [contents,held_length]
  exact head_eq valid.head valid.tail

theorem Holds.read (holds : Holds old stream buf) {chunk : List UInt8} {script : List ReadResult}
    (all : (circ_read ⟨chunk,script⟩ buf).fd.waiting = []) : Holds old (stream ++ chunk) (circ_read ⟨chunk,script⟩ buf).buf := by
  have fills := @circ_read_loop_fills (fun taken ring => Holds old (stream ++ taken) ring) ?_ script chunk [] buf
    (by rwa [List.append_nil])
  · obtain ⟨bytes,split,kept⟩ := fills
    rw [circ_read] at all
    rw [all,List.append_nil] at split
    subst split
    exact kept
  · rintro taken bytes ring ⟨valid,tail,held,cells⟩ room
    obtain ⟨still,more⟩ := filled_contents valid room
    have space := circ_space_to_end_eq valid
    have least := contents_lt valid
    have head := head_place valid
    have inside := valid.head
    rw [tail,held] at head
    refine ⟨still,tail,by rw [more,held,List.append_assoc],?_⟩
    intro i below
    dsimp only
    rw [← List.append_assoc,← head]
    refine write_laid (tail ▸ valid.tail) below ?_ ?_ (cells i below)
    · rw [← held]
      omega
    · rw [head]
      omega

/-! ## One call -/

/-- The check faults only where the length leads out of the array. -/
theorem check_ok (inside : 4 + (le16At buf.buf 2).toNat < HDLC_BUF_SIZE) : ∃ ret, dm_check_nhdlc_pkt buf = .ok ret := by
  unfold dm_check_nhdlc_pkt
  dsimp only
  split_ifs
  · exact ⟨_,rfl⟩
  · omega
  · exact ⟨_,rfl⟩
  · exact ⟨_,rfl⟩

theorem recovery_buf (dm : DiagClient) : (diag_start_hdlc_recovery dm).recv_buf = dm.recv_buf := by
  unfold diag_start_hdlc_recovery
  dsimp only
  split_ifs <;> rfl

/-- One command for each call, whatever the check says. -/
theorem recv_nhdlc_ok {after : DiagClient} {commands : List Message} (called : dm_recv_nhdlc dm = .ok (after,commands)) :
    after.recv_buf = dm.recv_buf ∧
      commands = [⟨span dm.recv_buf.buf 4 (HDLC_BUF_SIZE - 4),(le16At dm.recv_buf.buf 2).toNat⟩] := by
  obtain ⟨ret,_,same⟩ := bind_eq_ok.mp called
  cases same
  refine ⟨?_,rfl⟩
  split_ifs
  · exact recovery_buf dm
  · rfl

/-- The command is a payload when the cells behind the first two are its length
    and itself. -/
theorem command_payload {cells : Nat → UInt8} {payload : List UInt8} (fits : 4 + payload.length ≤ HDLC_BUF_SIZE)
    (short : payload.length < 65536) :
    (⟨span cells 4 (HDLC_BUF_SIZE - 4),(le16At cells 2).toNat⟩ : Message).payload = .ok payload ↔
      span cells 2 (2 + payload.length) = le16 (UInt16.ofNat payload.length) ++ payload := by
  have small : (UInt16.ofNat payload.length).toNat = payload.length := by
    rw [UInt16.toNat_ofNat']
    omega
  rw [Message.payload,load_ok_iff,span_length,span_append,le16_le16At]
  dsimp only
  constructor
  · rintro ⟨within,taken⟩
    rw [span_take within] at taken
    have length := congrArg List.length taken
    rw [span_length] at length
    have word : UInt16.ofNat payload.length = le16At cells 2 := by
      apply UInt16.toNat_inj.mp
      rw [small,length]
    rw [word,length,← taken]
  · intro same
    obtain ⟨word,rest⟩ := List.append_inj same rfl
    rw [← le16_le16At] at word
    rw [le16At_bytes word,small]
    refine ⟨by omega,?_⟩
    rw [span_take (by omega)]
    exact rest.symm

/-- The step of a call is `dm_recv_nhdlc` on the ring that has been read into. -/
theorem step_recv {packets : List (List UInt8)} {script : List ReadResult} (holds : Holds old stream dm.recv_buf)
    (delivers : Delivers dm (.dm_recv_encoded packets script)) :
    ∃ ring, step dm (.dm_recv_encoded packets script) = dm_recv_nhdlc { dm with recv_buf := ring } ∧
      Holds old (stream ++ packets.flatMap packet) ring := by
  obtain ⟨mode,_,_,all,errno⟩ := delivers
  refine ⟨(circ_read ⟨packets.flatMap packet,script⟩ dm.recv_buf).buf,?_,holds.read all⟩
  rw [step,dm_recv_encoded]
  cases ended : (circ_read ⟨packets.flatMap packet,script⟩ dm.recv_buf).errno with
  | none => simp [dm_decode_data,mode]
  | some code =>
    have again := errno code (by rw [ended]; rfl)
    simp [again,dm_decode_data,mode]

theorem packet_length (payload : List UInt8) : (packet payload).length = payload.length + 5 := by
  simp [packet]
  omega

/-- A packet that has been read into the ring is shorter than the array. -/
theorem Holds.fits {packets : List (List UInt8)} (holds : Holds old (stream ++ packets.flatMap packet) buf) {payload : List UInt8}
    (member : payload ∈ packets) : payload.length + 5 < HDLC_BUF_SIZE := by
  have least := contents_lt holds.valid
  have part := (List.sublist_flatten_of_mem (List.mem_map_of_mem (f := packet) member)).length_le
  rw [holds.holds,List.length_append,List.flatMap_def] at least
  rw [packet_length] at part
  omega

/-- What is handed over is one of the packets that were read when this one has
    arrived behind the beginning of the array. -/
theorem recv_command {packets : List (List UInt8)} {script : List ReadResult} (holds : Holds old stream dm.recv_buf)
    (delivers : Delivers dm (.dm_recv_encoded packets script)) :
    (∀ after commands, step dm (.dm_recv_encoded packets script) = .ok (after,commands) →
      Holds old (stream ++ packets.flatMap packet) after.recv_buf ∧ ∃ command, commands = [command] ∧
        ∀ payload ∈ packets, command.payload = .ok payload ↔ Arrived old (stream ++ packets.flatMap packet) payload) ∧
    ∀ payload ∈ packets, Arrived old (stream ++ packets.flatMap packet) payload →
      ∃ after commands, step dm (.dm_recv_encoded packets script) = .ok (after,commands) := by
  obtain ⟨ring,called,more⟩ := step_recv holds delivers
  obtain ⟨_,_,short,_⟩ := delivers
  have cells : ∀ payload ∈ packets, Arrived old (stream ++ packets.flatMap packet) payload ↔
      span ring.buf 2 (2 + payload.length) = le16 (UInt16.ofNat payload.length) ++ payload := by
    intro payload member
    have fits := more.fits member
    rw [Arrived,span_congr (fun i _ within => (more.cells i (by omega)).symm)]
  rw [called]
  constructor
  · intro after commands ran
    obtain ⟨same,rfl⟩ := recv_nhdlc_ok ran
    refine ⟨same ▸ more,_,rfl,?_⟩
    intro payload member
    have fits := more.fits member
    rw [cells payload member,command_payload (by omega) (short payload member)]
  · intro payload member arrived
    have fits := more.fits member
    have whole := (command_payload (by omega) (short payload member)).mpr ((cells payload member).mp arrived)
    have count : payload.length = (le16At ring.buf 2).toNat := load_length whole
    have length : 4 + (le16At ring.buf 2).toNat < HDLC_BUF_SIZE := by omega
    obtain ⟨ret,checked⟩ := check_ok length
    exact ⟨_,_,by rw [dm_recv_nhdlc,checked]; rfl⟩

/-- Between calls nothing is handed over, and the ring stays. -/
theorem step_between {op : Op} (between : ∀ packets script, op ≠ .dm_recv_encoded packets script) :
    ∃ after, step dm op = .ok (after,[]) ∧ after.recv_buf = dm.recv_buf ∧ op.payloads = [] := by
  have typed : ∀ type, (set_encode_type type dm).recv_buf = dm.recv_buf := by
    intro type
    unfold set_encode_type
    split_ifs <;> rfl
  cases op with
  | dm_recv_encoded packets script => exact absurd rfl (between packets script)
  | set_encode_type type => exact ⟨_,rfl,typed type,rfl⟩
  | diag_hdlc_reset => exact ⟨_,rfl,typed .HDLC,rfl⟩
  | bad_cmd_counter count => exact ⟨_,rfl,rfl,rfl⟩

/-! ## A run -/

/-- `step` without what it hands over. -/
def next (dm : DiagClient) (op : Op) : Except Fault DiagClient := Prod.fst <$> step dm op

theorem next_ok {op : Op} {after : DiagClient} {commands : List Message} (stepped : step dm op = .ok (after,commands)) :
    next dm op = .ok after := by
  rw [next,stepped]
  rfl

/-- No call hands over more than it reads. -/
theorem run_count {ops : List Op} (holds : Holds old stream dm.recv_buf) (delivers : Meets next Delivers dm ops)
    {after : DiagClient} {commands : List Message} (run : emit step dm ops = .ok (after,commands)) :
    commands.length ≤ (ops.flatMap Op.payloads).length := by
  induction ops generalizing dm stream commands with
  | nil =>
    cases run
    exact Nat.zero_le _
  | cons op ops ih =>
    obtain ⟨mid,first,more,stepped,ran,rfl⟩ := emit_cons_ok.mp run
    obtain ⟨delivered,others⟩ := delivers
    have rest := others mid (next_ok stepped)
    rw [List.flatMap_cons,List.length_append,List.length_append]
    by_cases call : ∃ packets script, op = .dm_recv_encoded packets script
    · obtain ⟨packets,script,rfl⟩ := call
      obtain ⟨ring,command,rfl,_⟩ := (recv_command holds delivered).1 mid first stepped
      have some := List.length_pos_iff.mpr delivered.2.1
      have fewer := ih ring rest ran
      rw [Op.payloads,List.length_singleton]
      omega
    · obtain ⟨between,again,ring,none⟩ := @step_between dm op (fun packets script same => call ⟨packets,script,same⟩)
      cases stepped.symm.trans again
      have fewer := ih (ring ▸ holds) rest ran
      rw [none,List.length_nil]
      omega

/-- Every call reads one packet, and it arrives behind the beginning of the
    array; `stream` has been read before. -/
def Placed (old : CircBuf) (stream : List UInt8) (ops : List Op) : Prop :=
  ∀ early packets script later, ops = early ++ .dm_recv_encoded packets script :: later →
    ∃ payload, packets = [payload] ∧ Arrived old (stream ++ early.flatMap Op.bytes ++ packets.flatMap packet) payload

theorem placed_call {packets : List (List UInt8)} {script : List ReadResult} {ops : List Op} :
    Placed old stream (.dm_recv_encoded packets script :: ops) ↔
      (∃ payload, packets = [payload] ∧ Arrived old (stream ++ packets.flatMap packet) payload) ∧
        Placed old (stream ++ packets.flatMap packet) ops := by
  constructor
  · intro placed
    refine ⟨by simpa using placed [] packets script ops rfl,?_⟩
    rintro early others script' later rfl
    simpa [Op.bytes,Op.payloads] using placed (.dm_recv_encoded packets script :: early) others script' later rfl
  · rintro ⟨first,placed⟩ early others script' later split
    cases early with
    | nil =>
      cases split
      simpa using first
    | cons op early =>
      obtain ⟨rfl,rest⟩ := List.cons.inj split
      simpa [Op.bytes,Op.payloads] using placed early others script' later rest

theorem placed_between {op : Op} {ops : List Op} (between : ∀ packets script, op ≠ .dm_recv_encoded packets script)
    (silent : op.bytes = []) : Placed old stream (op :: ops) ↔ Placed old stream ops := by
  constructor
  · rintro placed early packets script later rfl
    simpa [silent] using placed (op :: early) packets script later rfl
  · intro placed early packets script later split
    cases early with
    | nil =>
      cases split
      exact absurd rfl (between packets script)
    | cons first early =>
      obtain ⟨rfl,rest⟩ := List.cons.inj split
      simpa [silent] using placed early packets script later rest

/-- What the calls of a run have to find. -/
theorem run_iff {ops : List Op} (holds : Holds old stream dm.recv_buf) (delivers : Meets next Delivers dm ops) :
    (∃ after commands, emit step dm ops = .ok (after,commands) ∧
      commands.map Message.payload = (ops.flatMap Op.payloads).map .ok) ↔ Placed old stream ops := by
  induction ops generalizing dm stream with
  | nil => exact ⟨fun _ early packets script later split => by simp at split,fun _ => ⟨dm,[],rfl,rfl⟩⟩
  | cons op ops ih =>
    obtain ⟨delivered,others⟩ := delivers
    by_cases call : ∃ packets script, op = .dm_recv_encoded packets script
    · obtain ⟨packets,script,rfl⟩ := call
      obtain ⟨answers,runs⟩ := recv_command holds delivered
      rw [placed_call]
      constructor
      · rintro ⟨after,commands,run,same⟩
        obtain ⟨mid,first,more,stepped,ran,rfl⟩ := emit_cons_ok.mp run
        obtain ⟨ring,command,rfl,payloads⟩ := answers mid first stepped
        have rest := others mid (next_ok stepped)
        have count := run_count ring rest ran
        -- The call hands over one command, and those after it no more than they read.
        obtain ⟨payload,further,rfl⟩ := List.exists_cons_of_ne_nil delivered.2.1
        have length := congrArg List.length same
        simp only [List.flatMap_cons,Op.payloads,List.map_cons,List.cons_append,List.nil_append,List.cons.injEq,
          List.length_cons,List.length_map,List.length_append] at same length
        have single : further = [] := List.eq_nil_of_length_eq_zero (by omega)
        subst single
        exact ⟨⟨payload,rfl,(payloads payload List.mem_cons_self).mp same.1⟩,
          (ih ring rest).mp ⟨after,more,ran,by simpa using same.2⟩⟩
      · rintro ⟨⟨payload,rfl,arrived⟩,placed⟩
        obtain ⟨mid,first,stepped⟩ := runs payload List.mem_cons_self arrived
        obtain ⟨ring,command,rfl,payloads⟩ := answers mid first stepped
        obtain ⟨after,commands,ran,same⟩ := (ih ring (others mid (next_ok stepped))).mpr placed
        refine ⟨after,_,emit_cons_ok.mpr ⟨mid,_,commands,stepped,ran,rfl⟩,?_⟩
        simp [Op.payloads,same,(payloads payload List.mem_cons_self).mpr arrived]
    · have between : ∀ packets script, op ≠ .dm_recv_encoded packets script := fun packets script same => call ⟨packets,script,same⟩
      obtain ⟨mid,stepped,ring,none⟩ := @step_between dm op between
      rw [placed_between between (by rw [Op.bytes,none]; rfl),← ih (ring ▸ holds) (others mid (next_ok stepped))]
      constructor
      · rintro ⟨after,commands,run,same⟩
        obtain ⟨_,first,more,again,ran,rfl⟩ := emit_cons_ok.mp run
        cases stepped.symm.trans again
        exact ⟨after,more,ran,by simpa [none] using same⟩
      · rintro ⟨after,commands,ran,same⟩
        exact ⟨after,_,emit_cons_ok.mpr ⟨mid,_,commands,stepped,ran,rfl⟩,by simp [none,same]⟩

end

/-- A client in `DIAG_ENCODE_NHDLC` whose ring is as it was allocated. -/
def fresh : DiagClient := ⟨.NHDLC,false,⟨fun _ => 0,0,0⟩,0⟩

/-- How a call finds its client, and how its reads end. -/
def found (packets : List (List UInt8)) (dm : DiagClient) : EncodeType × List UInt8 × Option Nat :=
  let read := circ_read ⟨packets.flatMap packet,[.upto 4096]⟩ dm.recv_buf
  (dm.encode_type,read.fd.waiting,read.errno)

theorem delivers_of_found {dm : DiagClient} {packets : List (List UInt8)} (reads : found packets dm = (.NHDLC,[],none))
    (some : packets ≠ []) (short : ∀ payload ∈ packets, payload.length < 65536) :
    Delivers dm (.dm_recv_encoded packets [.upto 4096]) := by
  simp only [found,Prod.mk.injEq] at reads
  obtain ⟨mode,waiting,errno⟩ := reads
  exact ⟨mode,some,short,waiting,by rw [errno]; simp⟩

theorem found_first : found [[0x4b]] fresh = (.NHDLC,[],none) := by decide +kernel

end DiagRouter.NhdlcStream

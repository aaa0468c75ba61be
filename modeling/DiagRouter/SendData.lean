import DiagRouter.ResponseHeaders

/-!
# The tool and the router

`send_data.c` sends a request on a packet socket and prints what comes until a
message begins with the command it sent, or with the code of a bad command.
`dm_recv_raw` is what takes the request on the other side.
-/
namespace DiagRouter.SendData
open DiagRouter.Lib.Memory DiagRouter.Masks DiagRouter.Dispatch DiagRouter.Handlers DiagRouter.Responses DiagRouter.ResponseHeaders
open DiagRouter.Clients (DiagClient EncodeType)

/-! ## The router's side -/

/-- What `read` brings of a packet socket: a packet, or -1 with an `errno`. -/
inductive RawRead
  | packet (bytes : List UInt8)
  | again
  | failed
deriving DecidableEq, Repr

/-- How `dm_recv_raw` returns: to be called again, with the watches of the client
    removed, or with an error. -/
inductive RawEnd
  | waiting
  | removed
  | failed
deriving DecidableEq, Repr

/-- `buf` is the buffer on the stack, which keeps what was read before. A packet
    longer than it is cut, and an empty one is taken for the end. -/
def dm_recv_raw (client : Nat) : List (RawRead × Junk) → Request → Router → Except Fault (Router × RawEnd)
  | [], _, router => .ok (router,.waiting)
  | (.again,_) :: _, _, router => .ok (router,.waiting)
  | (.failed,_) :: _, _, router => .ok (router,.failed)
  | (.packet [],_) :: _, _, router => .ok (router,.removed)
  | (.packet (first :: bytes),junk) :: reads, buf, router => do
    let n := min (bytes.length + 1) 4096
    let buf := place ((first :: bytes).take 4096) buf
    let router ← diag_client_handle_command junk client buf n router
    dm_recv_raw client reads buf router

/-! ## The tool's side -/

/-- What `select` and `read` bring the tool: nothing in time, a packet, the end or
    an error; or `select` returned for another reason. -/
inductive Event
  | timeout
  | not_set
  | packet (bytes : List UInt8)
  | failed
deriving DecidableEq, Repr

inductive Exit
  | answered
  | bad_command
  | timeout
  | disconnected
  | failed
deriving DecidableEq, Repr

/-- A `char`, which is signed on some machines. -/
def char_value (signed : Bool) (ch : UInt8) : Int :=
  if signed ∧ 128 ≤ ch.toNat then ch.toNat - 256 else ch.toNat

/-- The text of a response, sixteen numbers a line. -/
def response_text (buf : List Int) : String :=
  String.join (buf.zipIdx.map (fun (value,i) =>
    (if i = 0 then "" else " ") ++ toString value ++ if i % 16 = 15 ∨ i = buf.length - 1 then "\n" else ""))

/-- The loop of `main`, with what it prints on its standard output. It waits for
    more where the events end. -/
def receive (signed : Bool) (msg : List UInt8) : List Event → String → Option Exit × String
  | [], out => (none,out)
  | .timeout :: _, out => (some .timeout,out)
  | .not_set :: events, out => receive signed msg events out
  | .failed :: _, out => (some .failed,out)
  | .packet [] :: _, out => (some .disconnected,out)
  | .packet (first :: bytes) :: events, out =>
    if char_value signed first = DIAG_CMD_RSP_BAD_COMMAND.toNat then (some .bad_command,out ++ "Diag response: Bad command\n")
    else
      let out := out ++ response_text (((first :: bytes).take 8192).map (char_value signed))
      if char_value signed first = (msg.headD 0).toNat then (some .answered,out) else receive signed msg events out

/-- The tool goes on waiting when it has printed the message. -/
def Undecided (signed : Bool) (request msg : List UInt8) : Prop :=
  ∃ first rest, msg = first :: rest ∧ char_value signed first ≠ DIAG_CMD_RSP_BAD_COMMAND.toNat ∧
    char_value signed first ≠ (request.headD 0).toNat

section
variable {signed : Bool} {request : List UInt8}

theorem receive_undecided {msg : List UInt8} (undecided : Undecided signed request msg) (events : List Event) (out : String) :
    receive signed request (.packet msg :: events) out =
      receive signed request events (out ++ response_text ((msg.take 8192).map (char_value signed))) := by
  obtain ⟨first,rest,rfl,not_bad,not_asked⟩ := undecided
  rw [receive,if_neg not_bad,if_neg not_asked]

theorem receive_others {others : List (List UInt8)} (undecided : ∀ msg ∈ others, Undecided signed request msg)
    (events : List Event) (out : String) :
    ∃ text, receive signed request (others.map .packet ++ events) out = receive signed request events text := by
  induction others generalizing out with
  | nil => exact ⟨out,rfl⟩
  | cons msg others ih =>
    rw [List.map_cons,List.cons_append,receive_undecided (undecided msg List.mem_cons_self)]
    exact ih (fun other member => undecided other (List.mem_cons_of_mem msg member)) _

/-- An 8-bit character is read as itself, but for the upper half where characters
    are signed. -/
theorem char_value_eq {ch : UInt8} : char_value signed ch = ch.toNat ↔ ¬ (signed = true ∧ 128 ≤ ch.toNat) := by
  rw [char_value]
  split_ifs with negative
  · exact iff_of_false (by omega) (not_not.mpr negative)
  · exact iff_of_true rfl negative

theorem char_value_inj {ch other : UInt8} (low : other.toNat < 128) :
    char_value signed ch = other.toNat ↔ ch = other := by
  rw [← UInt8.toNat_inj]
  have bound := ch.toNat_lt
  rw [char_value]
  split_ifs <;> omega

/-- How the tool ends with what the router answered. -/
def exit_of (signed : Bool) (request : List UInt8) : Option UInt8 → Exit
  | some code => if code = DIAG_CMD_RSP_BAD_COMMAND then .bad_command else .timeout
  | none => if signed ∧ 128 ≤ (request.headD 0).toNat then .timeout else .answered

end

/-! ## Both sides -/

section
variable {signed : Bool} {first : UInt8} {rest : List UInt8} {junk : Junk} {client : Nat} {buf : Request} {router after : Router}

/-- The request as the router gets it, with what its buffer held before. -/
def received (request : List UInt8) (buf : Request) : Request := place (request.take 4096) buf

theorem received_first (first : UInt8) (rest : List UInt8) (buf : Request) : received (first :: rest) buf 0 = first := rfl

/-- The errors of handlers are not those of requests that look like errors. -/
theorem rejected_no_error {len : Nat} {ret : Int} {mid : Router} (others : ¬ ForPeripherals router buf)
    (dispatched : diag_cmd_dispatch (router_calls junk client buf len) router.diag_cmds buf router = .ok (ret,mid))
    {code : UInt8} (rejected : rejection ret = some code) (not_bad : code ≠ DIAG_CMD_RSP_BAD_COMMAND) :
    buf 0 ∉ error_codes ∧ code ∈ error_codes := by
  rcases dispatch_replied others dispatched with ⟨no_error,_⟩ | ⟨rfl,_⟩
  · refine ⟨no_error,?_⟩
    unfold rejection at rejected
    split_ifs at rejected <;> cases rejected <;> decide
  · cases rejected
    exact absurd rfl not_bad

/-- What the tool makes of the answer. -/
theorem receive_answer {len : Nat} {ret : Int} {mid : Router} {msg : List UInt8}
    (others : ¬ ForPeripherals router (received (first :: rest) buf))
    (dispatched : diag_cmd_dispatch (router_calls junk client (received (first :: rest) buf) len) router.diag_cmds
      (received (first :: rest) buf) router = .ok (ret,mid))
    (answers : Answers (received (first :: rest) buf) len ret msg) (out : String) :
    (receive signed (first :: rest) [.packet msg,.timeout] out).1 = some (exit_of signed (first :: rest) (rejection ret)) := by
  unfold Answers at answers
  cases rejected : rejection ret with
  | some code =>
    rw [rejected] at answers
    dsimp only at answers
    subst answers
    by_cases bad : code = DIAG_CMD_RSP_BAD_COMMAND
    · subst bad
      cases signed <;> rfl
    · obtain ⟨no_error,error⟩ := rejected_no_error others dispatched rejected bad
      have other : code ≠ first := fun same => no_error (received_first first rest buf ▸ same ▸ error)
      have low : code.toNat < 128 := by
        have small : ∀ code ∈ error_codes, code.toNat < 128 := by
          simp [error_codes,DIAG_CMD_RSP_BAD_COMMAND,DIAG_CMD_RSP_BAD_PARAMS,DIAG_CMD_RSP_BAD_LENGTH]
        exact small code error
      have value : char_value signed code = code.toNat := char_value_eq.mpr (by omega)
      have undecided : Undecided signed (first :: rest) (code :: span (received (first :: rest) buf) 0 len) := by
        refine ⟨code,_,rfl,?_,?_⟩
        · rw [value]
          exact fun same => bad (UInt8.toNat_inj.mp (Int.ofNat_inj.mp same))
        · rw [value]
          exact fun same => other (UInt8.toNat_inj.mp (Int.ofNat_inj.mp same))
      rw [receive_undecided undecided,receive,exit_of,if_neg bad]
  | none =>
    rw [rejected] at answers
    obtain ⟨echoes,no_error⟩ := answers
    obtain ⟨more,rfl⟩ := echoes.begins
    rw [received_first] at no_error ⊢
    have not_bad : char_value signed first ≠ DIAG_CMD_RSP_BAD_COMMAND.toNat := by
      intro same
      rw [char_value_inj (by decide)] at same
      exact no_error (same ▸ by decide)
    rw [receive,if_neg not_bad,exit_of,List.headD_cons]
    dsimp only
    by_cases negative : signed = true ∧ 128 ≤ first.toNat
    · rw [if_neg (fun same => char_value_eq.mp same negative),if_pos negative,receive]
    · rw [if_pos (char_value_eq.mpr negative),if_neg negative]

/-- What is queued to a client that is not encoded is the answer itself. -/
theorem queued_answer {dm : DiagClient} (present : router.diag_clients[client]? = some dm) (raw : dm.encode_type = .RAW)
    (enabled : dm.enabled = true) {msg : List UInt8} (sent : Answered router client msg after) :
    (outqs after)[client]? = some (dm.outq ++ [msg]) := by
  have queued := sent.trans (outqs_send present enabled msg)
  have inside : client < (outqs router).length := by
    rw [outqs,List.length_map]
    exact (List.getElem?_eq_some_iff.mp present).1
  rw [queued,List.getElem?_set_self inside,raw]
  rfl

/-- The tool's request to a router that has nothing queued for it, whatever else
    the router sends meanwhile: the tool ends when its command is answered, unless
    `char` is signed and the command is above 127, or when the command is unknown.
    For the other errors, and for what a peripheral is asked, it waits in vain. -/
theorem send_data_exit {dm : DiagClient} (present : router.diag_clients[client]? = some dm) (raw : dm.encode_type = .RAW)
    (enabled : dm.enabled = true) (fresh : dm.outq = [])
    (ran : dm_recv_raw client [(.packet (first :: rest),junk)] buf router = .ok (after,.waiting)) {others : List (List UInt8)}
    (undecided : ∀ msg ∈ others, Undecided signed (first :: rest) msg) :
    ∃ outq, (outqs after)[client]? = some outq ∧
      (ForPeripherals router (received (first :: rest) buf) →
        (receive signed (first :: rest) ((others ++ outq).map .packet ++ [.timeout]) "").1 = some .timeout) ∧
      (¬ ForPeripherals router (received (first :: rest) buf) →
        ∃ ret mid, diag_cmd_dispatch (router_calls junk client (received (first :: rest) buf) (min (rest.length + 1) 4096))
            router.diag_cmds (received (first :: rest) buf) router = .ok (ret,mid) ∧
          (receive signed (first :: rest) ((others ++ outq).map .packet ++ [.timeout]) "").1 =
            some (exit_of signed (first :: rest) (rejection ret))) := by
  rw [dm_recv_raw] at ran
  obtain ⟨handled,command,ended⟩ := bind_eq_ok.mp ran
  cases ended
  by_cases sent : ForPeripherals router (received (first :: rest) buf)
  · obtain ⟨ret,mid,dispatched,_⟩ := handle_command_dispatched command
    have quiet : outqs after = outqs router := by
      rcases dispatch_handled dispatched with ⟨_,rfl,clients,_⟩ | ⟨not_sent,_⟩
      · rw [handle_command_eq dispatched] at command
        cases command
        exact congrArg (List.map DiagClient.outq) clients
      · exact absurd sent not_sent
    refine ⟨[],?_,fun _ => ?_,fun not_sent => absurd sent not_sent⟩
    · rw [quiet,outqs,List.getElem?_map,present,Option.map_some,fresh]
    · obtain ⟨text,waited⟩ := receive_others undecided [.timeout] ""
      rw [List.append_nil,waited]
      rfl
  · obtain ⟨ret,mid,msg,dispatched,answered,answers⟩ := handle_command_replied sent command
    refine ⟨[msg],?_,fun for_them => absurd for_them sent,fun _ => ⟨ret,mid,dispatched,?_⟩⟩
    · rw [queued_answer present raw enabled answered,fresh]
      rfl
    · obtain ⟨text,waited⟩ := receive_others undecided [.packet msg,.timeout] ""
      rw [List.map_append,List.append_assoc]
      refine (congrArg Prod.fst waited).trans ?_
      exact receive_answer sent dispatched answers text

end

/-- The version is asked for while a peripheral's log is broadcast. -/
theorem version_exit :
    ∃ outq, (outqs ⟨diag_masks_init,[],[],[],[⟨.RAW,true,[[28,2]]⟩]⟩)[0]? = some outq ∧
      (ForPeripherals ⟨diag_masks_init,[],[],[],[⟨.RAW,true,[]⟩]⟩ (received [28] (fun _ => 0)) →
        (receive true [28] (([[0x10,0]] ++ outq).map .packet ++ [.timeout]) "").1 = some .timeout) ∧
      (¬ ForPeripherals ⟨diag_masks_init,[],[],[],[⟨.RAW,true,[]⟩]⟩ (received [28] (fun _ => 0)) →
        ∃ ret mid, diag_cmd_dispatch (router_calls ⟨fun _ => 0,fun _ => 0,fun _ => 0,fun _ _ => 0⟩ 0
            (received [28] (fun _ => 0)) 1) [] (received [28] (fun _ => 0))
            ⟨diag_masks_init,[],[],[],[⟨.RAW,true,[]⟩]⟩ = .ok (ret,mid) ∧
          (receive true [28] (([[0x10,0]] ++ outq).map .packet ++ [.timeout]) "").1 =
            some (exit_of true [28] (rejection ret))) :=
  @send_data_exit true 28 [] ⟨fun _ => 0,fun _ => 0,fun _ => 0,fun _ _ => 0⟩ 0 (fun _ => 0)
    ⟨diag_masks_init,[],[],[],[⟨.RAW,true,[]⟩]⟩ ⟨diag_masks_init,[],[],[],[⟨.RAW,true,[[28,2]]⟩]⟩ ⟨.RAW,true,[]⟩ rfl rfl rfl rfl
    rfl [[0x10,0]] (by simp [Undecided,char_value,DIAG_CMD_RSP_BAD_COMMAND])

/-- A SET of events is answered, and a tool with signed characters does not see it. -/
example : (receive true [0x82] [.packet [0x82,0,0,0,0,0],.timeout] "").1 = some .timeout ∧
    (receive false [0x82] [.packet [0x82,0,0,0,0,0],.timeout] "").1 = some .answered := by
  decide

end DiagRouter.SendData

import Mathlib.Algebra.Ring.Nat
import DiagRouter.Responses

/-!
# Queries

What the requests that only ask leave alone: everything but the queue of the
client that asked. All do but one: asking for a log mask also pushes it to every
peripheral that has a control channel. A diag id request that a peripheral has
registered is not answered but sent on.
-/
namespace DiagRouter.QueryFrames
open DiagRouter.Lib.Memory DiagRouter.Lib.Words DiagRouter.Masks DiagRouter.Dispatch DiagRouter.Handlers
open DiagRouter.Peripherals
open DiagRouter.Responses (ForPeripherals encoded dm_send_outq send_loop_none rejection handle_command_eq)
open DiagRouter.Clients (DiagClient dm_send queue_push hdlc_enqueue)

/-- The requests that ask: log GET_LOG_RANGE and GET_LOG_MASK, message
    GET_SSID_RANGE, GET_BUILD_MASK and GET_MSG_MASK, event GET_MASK, and the
    diag ids. -/
def IsQuery (buf : Request) : Prop :=
  (buf 0 = 0x73 ∧ (le32At buf 4 = 1 ∨ le32At buf 4 = 4)) ∨
  (buf 0 = 0x7d ∧ (buf 1 = 1 ∨ buf 1 = 2 ∨ buf 1 = 3)) ∨
  buf 0 = 0x81 ∨
  (buf 0 = 75 ∧ buf 1 = 18 ∧ le16At buf 2 = 0x222)

/-- Only the queue of one client has grown. -/
structure Observed (router : Router) (client : Nat) (after : Router) : Prop where
  frame : after = { router with diag_clients := after.diag_clients }
  others : ∀ i, i ≠ client → after.diag_clients[i]? = router.diag_clients[i]?
  grown : ∀ dm, router.diag_clients[client]? = some dm →
    ∃ msgs, after.diag_clients[client]? = some { dm with outq := dm.outq ++ msgs }

/-- GET_LOG_MASK of the right length, and a peripheral with a control channel. -/
def Pushes (router : Router) (len : Nat) (buf : Request) : Prop :=
  buf 0 = 0x73 ∧ le32At buf 4 = 4 ∧ len = 12 ∧ ∃ p ∈ router.peripherals, p.cntl_fd ≠ -1

section
variable {junk : Junk} {client : Nat} {buf : Request} {len : Nat} {router after mid : Router} {ret : Int}

/-! ## Answers -/

theorem observed_same (router : Router) (client : Nat) : Observed router client router := by
  refine ⟨rfl,fun _ _ => rfl,fun dm present => ⟨[],?_⟩⟩
  rw [List.append_nil]
  exact present

theorem dm_send_grows (dm : DiagClient) (msg : List UInt8) : ∃ msgs, dm_send dm msg = { dm with outq := dm.outq ++ msgs } := by
  by_cases enabled : dm.enabled = true
  · refine ⟨[encoded dm.encode_type msg],?_⟩
    rw [← dm_send_outq enabled,dm_send,if_pos enabled]
    cases dm.encode_type <;> rfl
  · refine ⟨[],?_⟩
    rw [dm_send,if_neg enabled,List.append_nil]

theorem observed_send (router : Router) (client : Nat) (msg : List UInt8) : Observed router client (send router client msg) := by
  refine ⟨rfl,?_,?_⟩
  · intro i other
    show (router.diag_clients.modify client (fun dm => dm_send dm msg))[i]? = _
    rw [List.getElem?_modify_ne _ _ (Ne.symm other)]
  · intro dm present
    obtain ⟨msgs,grown⟩ := dm_send_grows dm msg
    refine ⟨msgs,?_⟩
    show (router.diag_clients.modify client (fun dm => dm_send dm msg))[client]? = _
    rw [List.getElem?_modify_eq,present,← grown]
    rfl

/-- A handler that only answers: it rejects the request and does nothing, or it
    sends one message. -/
inductive Answers (router : Router) (client : Nat) : Int → Router → Prop
  | rejected {ret : Int} : Answers router client ret router
  | sent (msg : List UInt8) : Answers router client 0 (send router client msg)

theorem Answers.frame (answers : Answers router client ret mid) : mid = { router with diag_clients := mid.diag_clients } := by
  cases answers with
  | rejected => rfl
  | sent msg => rfl

theorem Answers.observed (answers : Answers router client ret mid)
    (dispatched : diag_cmd_dispatch (router_calls junk client buf len) router.diag_cmds buf router = .ok (ret,mid))
    (ran : diag_client_handle_command junk client buf len router = .ok after) : Observed router client after := by
  rw [handle_command_eq dispatched] at ran
  cases ran
  cases answers with
  | rejected =>
    cases rejection ret with
    | none => exact observed_same router client
    | some code => exact observed_send router client _
  | sent msg => exact observed_send router client msg

theorem get_log_range_answers (ran : get_log_range client buf len router = .ok (ret,mid)) : Answers router client ret mid := by
  unfold get_log_range at ran
  split_ifs at ran
  · cases ran
    exact .rejected
  · cases ran
    exact .sent _

/-- The three requests for message masks. -/
theorem message_query_answers (asks : buf 1 = 1 ∨ buf 1 = 2 ∨ buf 1 = 3)
    (ran : handle_extended_message_configuration junk client buf len router = .ok (ret,mid)) :
    Answers router client ret mid := by
  unfold handle_extended_message_configuration at ran
  rcases asks with operation | operation | operation
  · rw [operation] at ran
    change get_ssid_range junk client buf len router = _ at ran
    unfold get_ssid_range at ran
    split_ifs at ran
    · cases ran
      exact .rejected
    · cases ran
      exact .sent _
  · rw [operation] at ran
    change get_build_mask client buf len router = _ at ran
    unfold get_build_mask at ran
    split_ifs at ran
    · cases ran
      exact .rejected
    · obtain ⟨found,_,more⟩ := bind_eq_ok.mp ran
      cases found with
      | none =>
        cases more
        exact .sent _
      | some answer =>
        obtain ⟨words,_,same⟩ := bind_eq_ok.mp more
        cases same
        exact .sent _
  · rw [operation] at ran
    change get_msg_mask client buf len router = _ at ran
    unfold get_msg_mask at ran
    split_ifs at ran
    · cases ran
      exact .rejected
    · obtain ⟨found,_,more⟩ := bind_eq_ok.mp ran
      cases found with
      | none =>
        cases more
        exact .sent _
      | some answer =>
        obtain ⟨words,_,same⟩ := bind_eq_ok.mp more
        cases same
        exact .sent _

theorem event_query_answers (ran : handle_event_get_mask client buf len router = .ok (ret,mid)) : Answers router client ret mid := by
  unfold handle_event_get_mask at ran
  split_ifs at ran
  · cases ran
    exact .rejected
  · obtain ⟨found,_,more⟩ := bind_eq_ok.mp ran
    cases found with
    | none =>
      cases more
      exact .sent _
    | some mask =>
      cases more
      exact .sent _

theorem diag_id_answers (ran : handle_diag_id client buf len router = .ok (ret,mid)) : Answers router client ret mid := by
  unfold handle_diag_id at ran
  split_ifs at ran
  · cases ran
    exact .rejected
  · obtain ⟨_,_,more⟩ := bind_eq_ok.mp ran
    obtain ⟨_,_,more⟩ := bind_eq_ok.mp more
    obtain ⟨_,_,more⟩ := bind_eq_ok.mp more
    obtain ⟨_,_,same⟩ := bind_eq_ok.mp more
    cases same
    exact .sent _

/-! ## Log masks -/

/-- A peripheral is as it was after a log mask packet exactly when it has no
    control channel to get it on. -/
theorem send_log_mask_same_iff {masks : MaskTables} {equip_id : UInt32} {p q : Peripheral}
    (sent : diag_cntl_send_log_mask masks p equip_id = .ok q) : q = p ↔ p.cntl_fd = -1 := by
  by_cases silent : p.cntl_fd = -1
  · rw [diag_cntl_send_log_mask,if_pos silent] at sent
    cases sent
    exact ⟨fun _ => silent,fun _ => rfl⟩
  · obtain ⟨byte,found,_,rfl⟩ := send_log_mask_packet silent sent
    refine ⟨fun same => ?_,fun channel => absurd channel silent⟩
    have queue := congrArg Peripheral.cntlq same
    simp at queue

theorem broadcast_log_mask_same_iff {masks : MaskTables} {equip_id : UInt32} {peripherals told : List Peripheral}
    (sent : peripheral_broadcast_log_mask masks equip_id peripherals = .ok told) :
    told = peripherals ↔ ∀ p ∈ peripherals, p.cntl_fd = -1 := by
  induction peripherals generalizing told with
  | nil =>
    cases sent
    exact ⟨fun _ => by simp,fun _ => rfl⟩
  | cons p peripherals ih =>
    obtain ⟨q,one,more⟩ := bind_eq_ok.mp sent
    obtain ⟨rest,others,same⟩ := bind_eq_ok.mp more
    cases same
    rw [List.cons.injEq,List.forall_mem_cons,send_log_mask_same_iff one,ih others]

theorem get_log_mask_cases (ran : get_log_mask client buf len router = .ok (ret,mid)) :
    (len ≠ 12 ∧ mid = router) ∨ ∃ told msg, len = 12 ∧ ret = 0 ∧
      peripheral_broadcast_log_mask router.masks (le32At buf 8) router.peripherals = .ok told ∧
      mid = send { router with peripherals := told } client msg := by
  unfold get_log_mask at ran
  split_ifs at ran with length
  · cases ran
    exact .inl ⟨length,rfl⟩
  · obtain ⟨found,_,more⟩ := bind_eq_ok.mp ran
    obtain ⟨told,sent,same⟩ := bind_eq_ok.mp more
    cases same
    exact .inr ⟨told,_,not_not.mp length,rfl,sent,rfl⟩

/-- After a push only the queue of the client has grown if no peripheral has
    changed. -/
theorem observed_told_iff (told : List Peripheral) (msg : List UInt8) :
    Observed router client (send { router with peripherals := told } client msg) ↔ told = router.peripherals := by
  constructor
  · intro observed
    exact congrArg Router.peripherals observed.frame
  · intro same
    rw [same]
    exact observed_send router client msg

/-! ## Requests that are sent on -/

/-- The client messages that wait at peripherals. -/
def waiting (peripherals : List Peripheral) : Nat := (peripherals.map (fun p => p.cmdq.length + p.dataq.length)).sum

theorem peripheral_send_waits (p : Peripheral) (msg : List UInt8) :
    (peripheral_send p msg).cmdq.length + (peripheral_send p msg).dataq.length = p.cmdq.length + p.dataq.length + 1 := by
  have one (queue : List (List UInt8)) : (push_encoded p queue msg).length = queue.length + 1 := by
    unfold push_encoded
    split_ifs <;> simp [queue_push,hdlc_enqueue]
  unfold peripheral_send
  cases p.send with
  | perif_rpmsg_send =>
    dsimp only
    unfold perif_rpmsg_send
    split_ifs
    · dsimp only
      rw [one]
      omega
    · dsimp only
      rw [one]
      omega
  | qrtr_perif_send =>
    dsimp only [qrtr_perif_send]
    rw [one]
    omega

theorem waiting_sent (msg : List UInt8) (addr : Nat) (peripherals : List Peripheral) :
    waiting (peripherals.map (fun p => if p.addr = addr then peripheral_send p msg else p)) =
      waiting peripherals + peripherals.countP (fun p => p.addr = addr) := by
  induction peripherals with
  | nil => rfl
  | cons p peripherals ih =>
    simp only [waiting,List.map_cons,List.sum_cons,List.countP_cons] at ih ⊢
    rw [ih]
    by_cases hit : p.addr = addr
    · have more := peripheral_send_waits p msg
      simp only [hit,if_true,decide_true]
      omega
    · simp only [hit,if_false,decide_false,Bool.false_eq_true]
      omega

/-- Every registration that covers the key adds a message. -/
theorem send_loop_waits {k : UInt32} {diag_cmds : List (DiagCmd Nat)} {handled count : Nat}
    (ran : send_loop (router_calls junk client buf len) k diag_cmds handled router = .ok (count,after)) :
    waiting router.peripherals + (diag_cmds.filter (covers k)).length ≤ waiting after.peripherals := by
  induction diag_cmds generalizing handled router with
  | nil =>
    cases ran
    exact Nat.le_refl _
  | cons dc rest ih =>
    rw [send_loop] at ran
    split_ifs at ran with hit
    · obtain ⟨sent,one,more⟩ := bind_eq_ok.mp ran
      have later := ih more
      simp only [router_calls,send_to_peripheral] at one
      split_ifs at one with present
      cases one
      have some_one : 0 < router.peripherals.countP (fun p => p.addr = dc.target) := by
        rw [List.countP_pos_iff]
        exact List.any_eq_true.mp present
      rw [waiting_sent] at later
      rw [List.filter_cons_of_pos hit,List.length_cons]
      omega
    · rw [List.filter_cons_of_neg hit]
      exact ih ran

/-- A request that is sent on leaves a message with a peripheral. -/
theorem sent_on_not_observed (sent_on : ForPeripherals router buf)
    (ran : diag_client_handle_command junk client buf len router = .ok after) : ¬ Observed router client after := by
  intro observed
  obtain ⟨uncommon,dc,member,covered⟩ := sent_on
  have missing : common_cmds.find? (covers (message_key buf)) = none := by
    rw [List.find?_eq_none]
    intro dc member covered
    rw [uncommon dc member] at covered
    cases covered
  obtain ⟨ret,mid,dispatched,frame⟩ := handle_command_dispatched ran
  rw [dispatch_other _ _ _ missing] at dispatched
  obtain ⟨⟨handled,sent⟩,loop,ended⟩ := bind_eq_ok.mp dispatched
  have more := send_loop_waits loop
  have count := DiagRouter.Responses.send_loop_count loop
  have hit : 0 < (router.diag_cmds.filter (covers (message_key buf))).length :=
    List.length_pos_of_mem (List.mem_filter.mpr ⟨member,covered⟩)
  dsimp only at ended
  rw [if_pos (by omega)] at ended
  cases ended
  have told : after.peripherals = mid.peripherals := by
    rw [frame]
  have same : after.peripherals = router.peripherals := by
    rw [observed.frame]
  rw [← told,same] at more
  omega

/-! ## Every query -/

theorem event_get_dispatch (command : buf 0 = 0x81) :
    diag_cmd_dispatch (router_calls junk client buf len) router.diag_cmds buf router = handle_event_get_mask client buf len router :=
  dispatch_common _ _ _ (@common_found buf ⟨0xffff0081,0xffff0081,.handle_event_get_mask⟩ (by decide) (by rw [command]; rfl))

/-- A diag id request that no peripheral has registered is answered here. -/
theorem diag_id_dispatch (command : buf 0 = 75) (subsys : buf 1 = 18) (code : le16At buf 2 = 0x222)
    (here : ¬ ForPeripherals router buf) :
    diag_cmd_dispatch (router_calls junk client buf len) router.diag_cmds buf router = handle_diag_id client buf len router := by
  have dispatched : (buf 0).toNat = 75 ∨ (buf 0).toNat = 128 := .inl (by rw [command]; rfl)
  have uncommon := common_missing dispatched
  have key : message_key buf = 0x4b120222 := by
    apply UInt32.toNat_inj.mp
    rw [message_key_subsys dispatched,command,subsys,code]
    rfl
  have missing : ∀ dc ∈ router.diag_cmds, ¬ covers (message_key buf) dc = true := by
    intro dc member covered
    refine here ⟨?_,dc,member,covered⟩
    simpa using uncommon
  have fallback : fallback_cmds.find? (covers (message_key buf)) = some ⟨0x4b120222,0x4b120222,.handle_diag_id⟩ := by
    rw [key]
    decide
  rw [dispatch_other _ _ _ uncommon,send_loop_none missing,ok_bind]
  simp only [ne_eq,not_true_eq_false,if_false,fallback]
  rfl

/-- A query that is answered here and is not for a log mask only answers. -/
theorem query_answers (query : IsQuery buf) (here : ¬ ForPeripherals router buf) (other : ¬ (buf 0 = 0x73 ∧ le32At buf 4 = 4))
    (dispatched : diag_cmd_dispatch (router_calls junk client buf len) router.diag_cmds buf router = .ok (ret,mid)) :
    Answers router client ret mid := by
  rcases query with ⟨command,range | mask⟩ | ⟨command,asks⟩ | command | ⟨command,subsys,code⟩
  · rw [logging_dispatch junk client len router command,handle_logging_configuration,range] at dispatched
    exact get_log_range_answers dispatched
  · exact absurd ⟨command,mask⟩ other
  · rw [message_dispatch junk client len router command] at dispatched
    exact message_query_answers asks dispatched
  · rw [event_get_dispatch command] at dispatched
    exact event_query_answers dispatched
  · rw [diag_id_dispatch command subsys code here] at dispatched
    exact diag_id_answers dispatched

theorem log_mask_observed_iff (command : buf 0 = 0x73) (mask : le32At buf 4 = 4)
    (ran : diag_client_handle_command junk client buf len router = .ok after) :
    Observed router client after ↔ ¬ Pushes router len buf := by
  obtain ⟨ret,mid,dispatched,_⟩ := handle_command_dispatched ran
  have asked := dispatched
  rw [logging_dispatch junk client len router command,handle_logging_configuration,mask] at asked
  obtain ⟨short,rfl⟩ | ⟨told,msg,length,rfl,sent,rfl⟩ := get_log_mask_cases asked
  · exact ⟨fun _ pushes => short pushes.2.2.1,fun _ => Answers.observed .rejected dispatched ran⟩
  · rw [handle_command_success dispatched] at ran
    cases ran
    rw [observed_told_iff,broadcast_log_mask_same_iff sent]
    constructor
    · rintro silent ⟨_,_,_,p,member,channel⟩
      exact channel (silent p member)
    · intro pushes p member
      by_contra channel
      exact pushes ⟨command,mask,length,p,member,channel⟩

/-- A query that is handled leaves everything but the queue of its client alone,
    exactly when it does not push a log mask and is not sent on. -/
theorem query_observes_iff (query : IsQuery buf) (ran : diag_client_handle_command junk client buf len router = .ok after) :
    Observed router client after ↔ ¬ Pushes router len buf ∧ ¬ ForPeripherals router buf := by
  by_cases sent_on : ForPeripherals router buf
  · exact ⟨fun observed => absurd observed (sent_on_not_observed sent_on ran),fun here => absurd sent_on here.2⟩
  · by_cases log_mask : buf 0 = 0x73 ∧ le32At buf 4 = 4
    · rw [log_mask_observed_iff log_mask.1 log_mask.2 ran]
      exact ⟨fun silent => ⟨silent,sent_on⟩,fun here => here.1⟩
    · obtain ⟨ret,mid,dispatched,_⟩ := handle_command_dispatched ran
      have observed := (query_answers query sent_on log_mask dispatched).observed dispatched ran
      exact ⟨fun _ => ⟨fun pushes => log_mask ⟨pushes.1,pushes.2.1⟩,sent_on⟩,fun _ => observed⟩

end

/-- The tables as built, one peripheral with a control channel and one client. -/
def one_modem : Router := ⟨diag_masks_init,[],[],[⟨1,0,5,[],[],[],.perif_rpmsg_send⟩],[⟨.RAW,true,[]⟩]⟩

def quiet : Junk := ⟨fun _ => 0,fun _ => 0,fun _ => 0,fun _ _ => 0⟩

/-- The query for the SSID ranges. -/
def ask_ssid_ranges : Request := place [0x7d,1] (fun _ => 0)

theorem ssid_ranges_observed : ∃ after, diag_client_handle_command quiet 0 ask_ssid_ranges 2 one_modem = .ok after ∧
    (Observed one_modem 0 after ↔ ¬ Pushes one_modem 2 ask_ssid_ranges ∧ ¬ ForPeripherals one_modem ask_ssid_ranges) :=
  ⟨_,rfl,query_observes_iff (.inr (.inl ⟨rfl,.inl rfl⟩)) rfl⟩

/-- The query for the log mask of equipment id 1. -/
def ask_log_mask : Request := place [0x73,0,0,0,4,0,0,0,1,0,0,0] (fun _ => 0)

theorem log_mask_query_pushes : IsQuery ask_log_mask ∧
    ∃ after, diag_client_handle_command quiet 0 ask_log_mask 12 one_modem = .ok after ∧ ¬ Observed one_modem 0 after := by
  refine ⟨.inl ⟨rfl,.inr rfl⟩,?_⟩
  have pushed : (fun router => router.peripherals.map (fun p => p.cntlq.length)) <$>
      diag_client_handle_command quiet 0 ask_log_mask 12 one_modem = .ok [1] := by decide +kernel
  obtain ⟨after,ran,told⟩ := map_eq_ok.mp pushed
  refine ⟨after,ran,fun observed => ?_⟩
  rw [observed.frame] at told
  exact absurd told (show ¬ one_modem.peripherals.map (fun p => p.cntlq.length) = [1] by decide)

end DiagRouter.QueryFrames

import DiagRouter.Responses

/-!
# The header of a response

A client tells by the first bytes of a message what it answers. Every handler
begins its response with those of the request, however it makes it up, and no
request that a handler takes begins like an error.
-/
namespace DiagRouter.ResponseHeaders
open DiagRouter.Lib.Memory DiagRouter.Lib.Words DiagRouter.Masks DiagRouter.Dispatch DiagRouter.Handlers
open DiagRouter.Responses
open DiagRouter.Clients (DiagClient)

/-- How many bytes of a request name what it asks for: the command, the
    subsystem and its command, or the operation. -/
def header_length (buf : Request) : Nat :=
  match (buf 0).toNat with
  | 75 => 4
  | 0x73 => 8
  | 0x7d => 2
  | _ => 1

/-- The response begins with the header of the request. -/
def Echoes (buf : Request) (msg : List UInt8) : Prop := msg.take (header_length buf) = span buf 0 (header_length buf)

/-- What the requests of a handler begin with. -/
def request_header : Handler → List UInt8
  | .handle_logging_configuration => [0x73]
  | .handle_extended_message_configuration => [0x7d]
  | .handle_event_get_mask => [0x81]
  | .handle_event_set_mask => [0x82]
  | .handle_event_report_control => [0x60]
  | .handle_diag_version => [28]
  | .handle_diag_version_no => [0]
  | .handle_extended_build_id => [124]
  | .handle_keep_alive => [75,50,3,0]
  | .handle_diag_id => [75,18,0x22,0x02]
  | .handle_hdlc_disable_cmd => [75,18,0x18,0x02]

def Asks (buf : Request) (handler : Handler) : Prop :=
  span buf 0 (request_header handler).length = request_header handler

/-- The key that a handler is registered with. -/
def header_key : List UInt8 → Nat
  | [command] => 0xffff0000 + command.toNat
  | [command,subsys,low,high] => command.toNat * 16777216 + subsys.toNat * 65536 + (low.toNat + 256 * high.toNat)
  | _ => 0

section
variable {buf : Request}

/-! ## Which requests a handler gets -/

theorem span_one {command : UInt8} (first : (buf 0).toNat = command.toNat) : span buf 0 1 = [command] := by
  rw [← UInt8.toNat_inj.mp first]
  rfl

/-- A header is one byte, or a subsystem and its command. -/
theorem asks_of_key {handler : Handler} (key : (message_key buf).toNat = header_key (request_header handler)) :
    Asks buf handler := by
  have first := (buf 0).toNat_lt
  have second := (buf 1).toNat_lt
  have third := (buf 2).toNat_lt
  have fourth := (buf 3).toNat_lt
  have code : (le16At buf 2).toNat = (buf 2).toNat + 256 * (buf 3).toNat := le16At_toNat buf 2
  have one {command : UInt8} (header : request_header handler = [command]) : Asks buf handler := by
    have bound := command.toNat_lt
    rw [header,header_key] at key
    rw [Asks,header]
    refine span_one ?_
    rcases message_key_cases buf with below | other <;> omega
  have four {subsys low high : UInt8} (header : request_header handler = [75,subsys,low,high]) : Asks buf handler := by
    have subsys_bound := subsys.toNat_lt
    have low_bound := low.toNat_lt
    have high_bound := high.toNat_lt
    rw [header,header_key,show (75 : UInt8).toNat = 75 from rfl] at key
    have dispatched : (buf 0).toNat = 75 ∨ (buf 0).toNat = 128 := by
      by_contra other
      have same := message_key_other other
      omega
    have same := message_key_subsys dispatched
    have zero : buf 0 = 75 := UInt8.toNat_inj.mp (show (buf 0).toNat = 75 by omega)
    have one : buf 1 = subsys := UInt8.toNat_inj.mp (by omega)
    have two : buf 2 = low := UInt8.toNat_inj.mp (by omega)
    have three : buf 3 = high := UInt8.toNat_inj.mp (by omega)
    rw [Asks,header,← zero,← one,← two,← three]
    rfl
  cases handler with
  | handle_keep_alive => exact four rfl
  | handle_diag_id => exact four rfl
  | handle_hdlc_disable_cmd => exact four rfl
  | _ => exact one rfl

theorem asks_registered {dc : DiagCmd Handler} {cmds : List (DiagCmd Handler)} (list : cmds = common_cmds ∨ cmds = fallback_cmds)
    (found : cmds.find? (covers (message_key buf)) = some dc) : Asks buf dc.target := by
  have rows : ∀ dc ∈ common_cmds ++ fallback_cmds, dc.first = dc.last ∧ dc.first.toNat = header_key (request_header dc.target) := by
    decide
  have member : dc ∈ common_cmds ++ fallback_cmds := by
    rcases list with rfl | rfl
    · exact List.mem_append_left _ (List.mem_of_find?_eq_some found)
    · exact List.mem_append_right _ (List.mem_of_find?_eq_some found)
  obtain ⟨single,row⟩ := rows dc member
  obtain ⟨low,high⟩ := covers_iff.mp (List.find?_some found)
  rw [← single] at high
  exact asks_of_key (by omega)

end

/-! ## Each handler -/

/-- How a handler ends: it rejects the request, or its answer has the header of
    the request. -/
inductive Replied (client : Nat) (buf : Request) (router : Router) : Int → Router → Prop
  | rejected {ret : Int} (code : ret = -EMSGSIZE ∨ ret = -EINVAL) : Replied client buf router ret router
  | answered {after : Router} (msg : List UInt8) (sent : Answered router client msg after) (echoes : Echoes buf msg) :
      Replied client buf router 0 after

section
variable {junk : Junk} {client : Nat} {buf : Request} {len : Nat} {router after : Router} {ret : Int}

theorem Replied.wrong_length : Replied client buf router (-EMSGSIZE) router := .rejected (.inl rfl)

theorem header_pos (buf : Request) : 0 < header_length buf := by
  unfold header_length
  split <;> decide

theorem Echoes.begins {msg : List UInt8} (echoes : Echoes buf msg) : ∃ rest, msg = buf 0 :: rest := by
  have cell : msg[0]? = some (buf 0) := by
    have taken := congrArg (fun cells => cells[0]?) echoes
    rwa [List.getElem?_take,if_pos (header_pos buf),span_getElem? (header_pos buf)] at taken
  obtain ⟨rest,rfl⟩ := List.head?_eq_some_iff.mp (List.head?_eq_getElem?.trans cell)
  exact ⟨rest,rfl⟩

/-- A response that repeats enough of the request. -/
theorem echoes_span {n : Nat} (enough : header_length buf ≤ n) (rest : List UInt8) : Echoes buf (span buf 0 n ++ rest) := by
  rw [Echoes,List.take_append_of_le_length (by rw [span_length]; exact enough),span_take enough]

theorem echoes_first {command : UInt8} (asked : span buf 0 1 = [command]) (alone : header_length buf = 1) (rest : List UInt8) :
    Echoes buf (command :: rest) := by
  rw [Echoes,alone,asked]
  rfl

theorem header_of {command : UInt8} (asked : span buf 0 1 = [command]) : buf 0 = command := List.head_eq_of_cons_eq asked

/-- A block whose first cells are those of the request. -/
theorem echoes_cells {msg : List UInt8} (cells : ∀ i < header_length buf, msg[i]? = some (buf i)) : Echoes buf msg := by
  apply List.ext_getElem?
  intro i
  rw [List.getElem?_take]
  split_ifs with inside
  · rw [cells i inside,span_getElem? inside,Nat.zero_add]
  · rw [List.getElem?_eq_none (by rw [span_length]; omega)]

theorem handle_logging_configuration_replied (asks : Asks buf .handle_logging_configuration)
    (ran : handle_logging_configuration junk client buf len router = .ok (ret,after)) : Replied client buf router ret after := by
  have header : header_length buf = 8 := by rw [header_length,header_of asks]; rfl
  have eight (rest : List UInt8) : Echoes buf (span buf 0 8 ++ rest) := echoes_span header.le rest
  unfold handle_logging_configuration at ran
  split at ran
  · unfold log_disable at ran
    split_ifs at ran
    · cases ran
      exact .wrong_length
    · obtain ⟨masks,_,ran⟩ := bind_eq_ok.mp ran
      obtain ⟨peripherals,_,ran⟩ := bind_eq_ok.mp ran
      cases ran
      exact .answered _ rfl (eight _)
  · unfold get_log_range at ran
    split_ifs at ran
    · cases ran
      exact .wrong_length
    · cases ran
      refine .answered _ rfl ?_
      rw [List.append_assoc]
      exact eight _
  · unfold set_log_mask at ran
    dsimp only at ran
    split_ifs at ran
    · cases ran
      exact .wrong_length
    · obtain ⟨⟨found,masks⟩,_,ran⟩ := bind_eq_ok.mp ran
      obtain ⟨first,header_stored,ran⟩ := bind_eq_ok.mp ran
      obtain ⟨second,mask_stored,ran⟩ := bind_eq_ok.mp ran
      obtain ⟨resp,status_stored,ran⟩ := bind_eq_ok.mp ran
      obtain ⟨peripherals,_,ran⟩ := bind_eq_ok.mp ran
      cases ran
      refine .answered resp rfl (echoes_cells ?_)
      rw [header]
      intro i inside
      rw [store_getElem? status_stored,if_neg (by omega),store_getElem? mask_stored,if_neg (by omega),
        store_getElem? header_stored,if_pos (by rw [span_length]; omega),Nat.sub_zero,span_getElem? inside,Nat.zero_add]
  · unfold get_log_mask at ran
    split_ifs at ran
    · cases ran
      exact .wrong_length
    · obtain ⟨_,_,ran⟩ := bind_eq_ok.mp ran
      obtain ⟨_,_,ran⟩ := bind_eq_ok.mp ran
      cases ran
      refine .answered _ rfl ?_
      simp only [List.append_assoc]
      exact eight _
  · cases ran
    exact .rejected (.inr rfl)

theorem set_msg_mask_replied (two : header_length buf = 2) (ran : set_msg_mask junk client buf len router = .ok (ret,after)) :
    Replied client buf router ret after := by
  unfold set_msg_mask at ran
  dsimp only at ran
  split_ifs at ran
  · cases ran
    exact .wrong_length
  · obtain ⟨⟨code,masks⟩,_,ran⟩ := bind_eq_ok.mp ran
    dsimp only at ran
    split_ifs at ran
    · obtain ⟨first,header,ran⟩ := bind_eq_ok.mp ran
      obtain ⟨second,words,ran⟩ := bind_eq_ok.mp ran
      obtain ⟨⟨range,peripherals⟩,_,ran⟩ := bind_eq_ok.mp ran
      obtain ⟨resp,bounds,ran⟩ := bind_eq_ok.mp ran
      cases ran
      refine .answered resp rfl (echoes_cells ?_)
      rw [two]
      intro i inside
      rw [store_getElem? bounds,if_neg (by omega),store_getElem? words,if_neg (by omega),store_getElem? header,
        if_pos (by simp; omega),Nat.sub_zero,List.append_assoc,List.getElem?_append_left (by rw [span_length]; exact inside),
        span_getElem? inside,Nat.zero_add]
    · cases ran
      refine .answered _ rfl ?_
      simp only [List.append_assoc]
      exact echoes_span two.le _

theorem handle_extended_message_configuration_replied (asks : Asks buf .handle_extended_message_configuration)
    (ran : handle_extended_message_configuration junk client buf len router = .ok (ret,after)) :
    Replied client buf router ret after := by
  have command := header_of asks
  have header : header_length buf = 2 := by rw [header_length,command]; rfl
  have two (rest : List UInt8) : Echoes buf (span buf 0 2 ++ rest) := echoes_span header.le rest
  unfold handle_extended_message_configuration at ran
  split at ran
  · unfold get_ssid_range at ran
    split_ifs at ran
    · cases ran
      exact .wrong_length
    · cases ran
      refine .answered _ rfl ?_
      simp only [List.append_assoc]
      exact two _
  · next operation =>
    have asked : span buf 0 2 = [0x7d,2] := by
      rw [← command,← UInt8.toNat_inj.mp (show (buf 1).toNat = (2 : UInt8).toNat from operation)]
      rfl
    have echoed (rest : List UInt8) : Echoes buf ([0x7d,2] ++ rest) := asked ▸ two rest
    unfold get_build_mask at ran
    split_ifs at ran
    · cases ran
      exact .wrong_length
    · obtain ⟨found,_,ran⟩ := bind_eq_ok.mp ran
      cases found with
      | none =>
        cases ran
        exact .answered _ rfl (echoed _)
      | some got =>
        obtain ⟨_,_,ran⟩ := bind_eq_ok.mp ran
        cases ran
        exact .answered _ rfl (echoed _)
  · unfold get_msg_mask at ran
    split_ifs at ran
    · cases ran
      exact .wrong_length
    · obtain ⟨found,_,ran⟩ := bind_eq_ok.mp ran
      cases found with
      | none =>
        cases ran
        exact .answered _ rfl (two _)
      | some got =>
        obtain ⟨_,_,ran⟩ := bind_eq_ok.mp ran
        cases ran
        refine .answered _ rfl ?_
        rw [List.append_assoc]
        exact two _
  · exact set_msg_mask_replied header ran
  · unfold set_all_msg_mask at ran
    split_ifs at ran
    · cases ran
      exact .wrong_length
    · obtain ⟨masks,_,ran⟩ := bind_eq_ok.mp ran
      obtain ⟨_,_,ran⟩ := bind_eq_ok.mp ran
      cases ran
      refine .answered _ rfl ?_
      rw [List.append_assoc]
      exact two _
  · cases ran
    exact .rejected (.inr rfl)

theorem handle_event_get_mask_replied (asks : Asks buf .handle_event_get_mask)
    (ran : handle_event_get_mask client buf len router = .ok (ret,after)) : Replied client buf router ret after := by
  have command := header_of asks
  have alone : header_length buf = 1 := by rw [header_length,command]; rfl
  unfold handle_event_get_mask at ran
  split_ifs at ran
  · cases ran
    exact .wrong_length
  · obtain ⟨found,_,ran⟩ := bind_eq_ok.mp ran
    cases found with
    | none =>
      cases ran
      exact .answered _ rfl (echoes_first rfl alone _)
    | some mask =>
      cases ran
      exact .answered _ rfl (echoes_first rfl alone _)

theorem handle_event_set_mask_replied (asks : Asks buf .handle_event_set_mask)
    (ran : handle_event_set_mask junk client buf len router = .ok (ret,after)) : Replied client buf router ret after := by
  have alone : header_length buf = 1 := by rw [header_length,header_of asks]; rfl
  unfold handle_event_set_mask at ran
  dsimp only at ran
  split_ifs at ran
  · cases ran
    exact .wrong_length
  · obtain ⟨masks,_,ran⟩ := bind_eq_ok.mp ran
    obtain ⟨_,_,ran⟩ := bind_eq_ok.mp ran
    cases ran
    exact .answered _ rfl (echoes_first rfl alone _)

theorem handle_event_report_control_replied (asks : Asks buf .handle_event_report_control)
    (ran : handle_event_report_control client buf len router = .ok (ret,after)) : Replied client buf router ret after := by
  have alone : header_length buf = 1 := by rw [header_length,header_of asks]; rfl
  unfold handle_event_report_control at ran
  split_ifs at ran
  · cases ran
    exact .wrong_length
  · obtain ⟨masks,_,ran⟩ := bind_eq_ok.mp ran
    obtain ⟨_,_,ran⟩ := bind_eq_ok.mp ran
    cases ran
    exact .answered _ rfl (echoes_first asks alone _)

/-- Entries are copied behind what is there. -/
theorem diag_id_loop_keeps {items : List DiagIdTbl} {resp filled : List UInt8} {resp_len num_entries total count : Nat}
    (ran : diag_id_loop items resp resp_len num_entries = .ok (filled,total,count)) :
    resp_len ≤ total ∧ ∀ i < resp_len, filled[i]? = resp[i]? := by
  induction items generalizing resp resp_len num_entries with
  | nil =>
    cases ran
    exact ⟨le_rfl,fun _ _ => rfl⟩
  | cons item items ih =>
    rw [diag_id_loop] at ran
    split_ifs at ran
    · cases ran
      exact ⟨le_rfl,fun _ _ => rfl⟩
    · obtain ⟨info,_,ran⟩ := bind_eq_ok.mp ran
      obtain ⟨more,stored,ran⟩ := bind_eq_ok.mp ran
      obtain ⟨longer,same⟩ := ih ran
      refine ⟨(Nat.le_add_right _ _).trans longer,fun i inside => ?_⟩
      rw [same i (by omega),store_getElem? stored,if_neg (by omega)]

theorem handle_diag_id_replied (asks : Asks buf .handle_diag_id)
    (ran : handle_diag_id client buf len router = .ok (ret,after)) : Replied client buf router ret after := by
  have header : header_length buf = 4 := by
    rw [header_length,show buf 0 = 75 from List.head_eq_of_cons_eq asks]
    rfl
  unfold handle_diag_id at ran
  split_ifs at ran
  · cases ran
    exact .wrong_length
  · obtain ⟨first,request_stored,ran⟩ := bind_eq_ok.mp ran
    obtain ⟨⟨filled,total,count⟩,copied,ran⟩ := bind_eq_ok.mp ran
    obtain ⟨second,count_stored,ran⟩ := bind_eq_ok.mp ran
    obtain ⟨resp,loaded,ran⟩ := bind_eq_ok.mp ran
    cases ran
    obtain ⟨longer,same⟩ := diag_id_loop_keeps copied
    obtain ⟨_,rfl⟩ := load_ok_iff.mp loaded
    refine .answered _ rfl (echoes_cells ?_)
    rw [header]
    intro i inside
    rw [List.getElem?_take,if_pos (show i < total by omega),store_getElem? count_stored,if_neg (by omega),same i (by omega),
      store_getElem? request_stored,if_pos (by rw [span_length]; omega),Nat.sub_zero,span_getElem? (by omega),Nat.zero_add]

theorem handle_hdlc_disable_cmd_replied (asks : Asks buf .handle_hdlc_disable_cmd)
    (ran : handle_hdlc_disable_cmd client buf len router = .ok (ret,after)) : Replied client buf router ret after := by
  have header : header_length buf = 4 := by
    rw [header_length,show buf 0 = 75 from List.head_eq_of_cons_eq asks]
    rfl
  unfold handle_hdlc_disable_cmd at ran
  split_ifs at ran
  · cases ran
    exact .wrong_length
  · cases ran
    exact .answered (span buf 0 4 ++ [1,0]) (set_encode_type_outqs .NHDLC _) (echoes_span header.le _)

theorem run_handler_replied {handler : Handler} (asks : Asks buf handler)
    (ran : run_handler junk client buf len handler router = .ok (ret,after)) : Replied client buf router ret after := by
  have single {command : UInt8} (asked : span buf 0 1 = [command]) (other : command.toNat ≠ 75 ∧ command.toNat ≠ 0x73 ∧
      command.toNat ≠ 0x7d) : header_length buf = 1 := by
    obtain ⟨not_subsys,not_log,not_msg⟩ := other
    rw [header_length,header_of asked]
    split <;> omega
  cases handler with
  | handle_logging_configuration => exact handle_logging_configuration_replied asks ran
  | handle_extended_message_configuration => exact handle_extended_message_configuration_replied asks ran
  | handle_event_get_mask => exact handle_event_get_mask_replied asks ran
  | handle_event_set_mask => exact handle_event_set_mask_replied asks ran
  | handle_event_report_control => exact handle_event_report_control_replied asks ran
  | handle_diag_version =>
    cases ran
    exact .answered _ rfl (echoes_first asks (single asks (by decide)) _)
  | handle_diag_version_no =>
    cases ran
    exact .answered _ rfl (echoes_first asks (single asks (by decide)) _)
  | handle_extended_build_id =>
    simp only [run_handler,handle_extended_build_id] at ran
    split_ifs at ran
    · cases ran
      exact .wrong_length
    · cases ran
      exact .answered _ rfl (echoes_first asks (single asks (by decide)) _)
  | handle_keep_alive =>
    cases ran
    have header : header_length buf = 4 := by
      rw [header_length,show buf 0 = 75 from List.head_eq_of_cons_eq asks]
      rfl
    refine .answered _ rfl ?_
    rw [Echoes,header,show span buf 0 4 = [75,50,3,0] from asks]
    rfl
  | handle_diag_id => exact handle_diag_id_replied asks ran
  | handle_hdlc_disable_cmd => exact handle_hdlc_disable_cmd_replied asks ran

/-! ## Commands -/

/-- What an error begins with. -/
def error_codes : List UInt8 := [DIAG_CMD_RSP_BAD_COMMAND,DIAG_CMD_RSP_BAD_PARAMS,DIAG_CMD_RSP_BAD_LENGTH]

/-- No handler is registered for a command that is an error code. -/
theorem asks_no_error {handler : Handler} (asks : Asks buf handler) : buf 0 ∉ error_codes := by
  have first : ∀ {command : UInt8} {rest : List UInt8}, request_header handler = command :: rest → buf 0 = command := by
    intro command rest header
    rw [Asks,header,List.length_cons,Nat.add_comm,span_append] at asks
    exact List.head_eq_of_cons_eq asks
  cases handler with
  | handle_logging_configuration => exact first rfl ▸ by decide
  | handle_extended_message_configuration => exact first rfl ▸ by decide
  | handle_event_get_mask => exact first rfl ▸ by decide
  | handle_event_set_mask => exact first rfl ▸ by decide
  | handle_event_report_control => exact first rfl ▸ by decide
  | handle_diag_version => exact first rfl ▸ by decide
  | handle_diag_version_no => exact first rfl ▸ by decide
  | handle_extended_build_id => exact first rfl ▸ by decide
  | handle_keep_alive => exact first rfl ▸ by decide
  | handle_diag_id => exact first rfl ▸ by decide
  | handle_hdlc_disable_cmd => exact first rfl ▸ by decide

/-- A command that is not for the peripherals is run by a handler that it asks
    for, or unknown. -/
theorem dispatch_replied (others : ¬ ForPeripherals router buf)
    (ran : diag_cmd_dispatch (router_calls junk client buf len) router.diag_cmds buf router = .ok (ret,after)) :
    (buf 0 ∉ error_codes ∧ Replied client buf router ret after) ∨ (ret = -ENOENT ∧ after = router) := by
  cases common : common_cmds.find? (covers (message_key buf)) with
  | some dc =>
    rw [dispatch_common _ _ _ common] at ran
    have asks := asks_registered (.inl rfl) common
    exact .inl ⟨asks_no_error asks,run_handler_replied asks ran⟩
  | none =>
    have uncommon : ∀ dc ∈ common_cmds, covers (message_key buf) dc = false := by simpa using common
    have missing : ∀ dc ∈ router.diag_cmds, ¬ covers (message_key buf) dc = true :=
      fun dc member covered => others ⟨uncommon,dc,member,covered⟩
    rw [dispatch_other _ _ _ common,send_loop_none missing,ok_bind] at ran
    cases fallback : fallback_cmds.find? (covers (message_key buf)) with
    | none =>
      rw [fallback] at ran
      cases ran
      exact .inr ⟨rfl,rfl⟩
    | some dc =>
      rw [fallback] at ran
      have asks := asks_registered (.inr rfl) fallback
      exact .inl ⟨asks_no_error asks,run_handler_replied asks ran⟩

/-- What is answered to a command that is not for the peripherals. -/
def Answers (buf : Request) (len : Nat) (ret : Int) (msg : List UInt8) : Prop :=
  match rejection ret with
  | some code => msg = code :: span buf 0 len
  | none => Echoes buf msg ∧ buf 0 ∉ error_codes

theorem handle_command_replied (others : ¬ ForPeripherals router buf)
    (ran : diag_client_handle_command junk client buf len router = .ok after) :
    ∃ ret mid msg, diag_cmd_dispatch (router_calls junk client buf len) router.diag_cmds buf router = .ok (ret,mid) ∧
      Answered router client msg after ∧ Answers buf len ret msg := by
  obtain ⟨ret,mid,dispatched,_⟩ := handle_command_dispatched ran
  rw [handle_command_eq dispatched] at ran
  have final := Except.ok.inj ran
  have bad {code : UInt8} (rejected : rejection ret = some code) (same : mid = router) :
      ∃ ret mid msg, diag_cmd_dispatch (router_calls junk client buf len) router.diag_cmds buf router = .ok (ret,mid) ∧
        Answered router client msg after ∧ Answers buf len ret msg := by
    subst same
    rw [rejected] at final
    subst final
    refine ⟨ret,_,_,dispatched,rfl,?_⟩
    rw [Answers,rejected]
    rfl
  rcases dispatch_replied others dispatched with ⟨no_error,replied⟩ | ⟨rfl,same⟩
  · cases replied with
    | rejected code =>
      rcases code with rfl | rfl
      · exact bad rfl rfl
      · exact bad rfl rfl
    | answered msg sent echoes =>
      subst final
      exact ⟨0,mid,msg,dispatched,sent,echoes,no_error⟩
  · exact bad rfl same

/-- An error code and the request, or the header of a request that is none of
    the errors: so whoever gets it can tell what it answers. -/
theorem responses_identified {dm : DiagClient} (present : router.diag_clients[client]? = some dm) (enabled : dm.enabled = true)
    (others : ¬ ForPeripherals router buf) (ran : diag_client_handle_command junk client buf len router = .ok after) :
    ∃ msg, outqs after = (outqs router).set client (dm.outq ++ [encoded dm.encode_type msg]) ∧
      ∀ ret mid, diag_cmd_dispatch (router_calls junk client buf len) router.diag_cmds buf router = .ok (ret,mid) →
        match rejection ret with
        | some code => msg = code :: span buf 0 len
        | none => msg.take (header_length buf) = span buf 0 (header_length buf) ∧ buf 0 ∉ error_codes := by
  obtain ⟨ret,mid,msg,dispatched,answered,answers⟩ := handle_command_replied others ran
  refine ⟨msg,answered.trans (outqs_send present enabled msg),?_⟩
  intro ret' mid' again
  cases dispatched.symm.trans again
  exact answers

end

/-- A client that asks for the version of the protocol. -/
theorem version_identified :
    ∃ msg, [[[28,2]]] = (outqs ⟨diag_masks_init,[],[],[],[⟨.RAW,true,[]⟩]⟩).set 0 ([] ++ [encoded .RAW msg]) ∧
      ∀ ret mid, diag_cmd_dispatch (router_calls ⟨fun _ => 0,fun _ => 0,fun _ => 0,fun _ _ => 0⟩ 0 (place [28] (fun _ => 0)) 1) []
          (place [28] (fun _ => 0)) ⟨diag_masks_init,[],[],[],[⟨.RAW,true,[]⟩]⟩ = .ok (ret,mid) →
        match rejection ret with
        | some code => msg = code :: span (place [28] (fun _ => 0)) 0 1
        | none => msg.take (header_length (place [28] (fun _ => 0))) =
            span (place [28] (fun _ => 0)) 0 (header_length (place [28] (fun _ => 0))) ∧ place [28] (fun _ => 0) 0 ∉ error_codes :=
  @responses_identified ⟨fun _ => 0,fun _ => 0,fun _ => 0,fun _ _ => 0⟩ 0 (place [28] (fun _ => 0)) 1
    ⟨diag_masks_init,[],[],[],[⟨.RAW,true,[]⟩]⟩ ⟨diag_masks_init,[],[],[],[⟨.RAW,true,[[28,2]]⟩]⟩ ⟨.RAW,true,[]⟩ rfl rfl
    (by rintro ⟨_,dc,member,_⟩; cases member) rfl

end DiagRouter.ResponseHeaders

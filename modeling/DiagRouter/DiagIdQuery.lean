import DiagRouter.DiagIdTable
import DiagRouter.Lib.Records

/-!
# The diag-id query

The response to a query copies the entries of the table one behind the other,
as long as it is not full. It can be read back as long as no entry is longer
than its 8-bit length says, their number fits a byte, and the last one that is
copied ends inside the response.
-/
namespace DiagRouter.DiagIdQuery
open DiagRouter.Lib.Memory DiagRouter.Lib.Runs DiagRouter.Lib.Records DiagRouter.Lib.CString DiagRouter.Clients
open DiagRouter.Handlers DiagRouter.Cntl DiagRouter.DiagIdTable

/-! ## What a response is to say -/

/-- The id of an entry, and its name with the NUL. -/
def record (diag_id_item : DiagIdTbl) : UInt8 × List UInt8 :=
  (item_diag_id diag_id_item,(diag_id_item.diagid_info.drop 2).take (diag_id_item.diagid_info.getD 1 0).toNat)

/-- A record of a response: the id, the length of the name, the name. -/
def read_record : List UInt8 → Option ((UInt8 × List UInt8) × List UInt8)
  | diag_id :: process_name_len :: rest =>
    if process_name_len.toNat ≤ rest.length then
      some ((diag_id,rest.take process_name_len.toNat),rest.drop process_name_len.toNat)
    else none
  | _ => none

/-- The bytes of all entries. -/
def table_bytes (diag_ids : List DiagIdTbl) : List UInt8 := diag_ids.flatMap DiagIdTbl.diagid_info

/-- Every query is answered with at most the maximum of bytes, and as many records
    as its count says are all of its payload: those of the table, or of its
    beginning when the table does not fit. -/
def Encodes (diag_ids : List DiagIdTbl) : Prop :=
  ∀ client buf len (router : Router), 5 ≤ len → router.diag_ids = diag_ids →
    ∃ resp count k, handle_diag_id client buf len router = .ok (0,send router client resp) ∧
      resp.length ≤ DIAG_MAX_RSP_SIZE ∧ resp[5]? = some count ∧
      read_records read_record count.toNat (resp.drop 6) = some ((diag_ids.take k).map record,[]) ∧
      (diag_ids.length ≤ k ∨ DIAG_MAX_RSP_SIZE < 6 + (table_bytes diag_ids).length)

/-- What a name that is added must meet while the response is not full: its length
    with the header fits 8 bits, as does the number of entries, and it ends inside
    the response. -/
structure FitsResponse (diag_ids : List DiagIdTbl) (name : List UInt8) : Prop where
  length : (process_name_len name).toNat ≤ 253
  count : diag_ids.length + 1 ≤ 255
  bytes : 6 + (table_bytes diag_ids).length + 2 + (process_name_len name).toNat ≤ DIAG_MAX_RSP_SIZE

def KeepsEncoded (state : Answers) (packet : IdPacket) : Prop :=
  ¬ TooShort packet → ∀ name, request_name packet = .ok name → find_diag_id name state.ids.diag_ids = none →
    ¬ TurnedDown packet.memory name state.ids → 6 + (table_bytes state.ids.diag_ids).length < DIAG_MAX_RSP_SIZE →
      FitsResponse state.ids.diag_ids name

/-! ## Entries -/

theorem table_bytes_append (front back : List DiagIdTbl) : table_bytes (front ++ back) = table_bytes front ++ table_bytes back :=
  List.flatMap_append

theorem table_bytes_cons (item : DiagIdTbl) (others : List DiagIdTbl) :
    table_bytes (item :: others) = item.diagid_info ++ table_bytes others := rfl

theorem table_bytes_item (item : DiagIdTbl) : table_bytes [item] = item.diagid_info := List.append_nil _

/-- An entry as it is registered. -/
def Registered (diag_id_item : DiagIdTbl) : Prop :=
  ∃ diag_id name, diag_id_item = entry diag_id name ∧ process_name_len name ≠ 0

/-- Its length with the header fits 8 bits. -/
structure Sized (diag_id_item : DiagIdTbl) : Prop where
  registered : Registered diag_id_item
  length : diag_id_item.diag_id_info_len.toNat = diag_id_item.diagid_info.length

section
variable {diag_id_item : DiagIdTbl}

theorem entry_length (diag_id : UInt8) {name : List UInt8} (fits : process_name_len name ≠ 0) :
    (entry diag_id name).diagid_info.length = 2 + (process_name_len name).toNat := by
  have positive : (process_name_len name).toNat ≠ 0 := fun zero => fits (UInt8.toNat_inj.mp zero)
  simp only [entry,strncpy,List.length_append,List.length_cons,List.length_nil,List.length_take,List.length_replicate]
  omega

theorem entry_info_len (diag_id : UInt8) (name : List UInt8) :
    (entry diag_id name).diag_id_info_len.toNat = (2 + (process_name_len name).toNat) % 256 := UInt8.toNat_add _ _

theorem registered_length (registered : Registered diag_id_item) : 3 ≤ diag_id_item.diagid_info.length := by
  obtain ⟨diag_id,name,rfl,fits⟩ := registered
  have positive : (process_name_len name).toNat ≠ 0 := fun zero => fits (UInt8.toNat_inj.mp zero)
  rw [entry_length diag_id fits]
  omega

/-- The bytes of an entry are those of its record. -/
theorem read_entry (registered : Registered diag_id_item) (cells : List UInt8) :
    read_record (diag_id_item.diagid_info ++ cells) = some (record diag_id_item,cells) := by
  obtain ⟨diag_id,name,rfl,fits⟩ := registered
  have length := entry_length diag_id fits
  obtain ⟨text,spelled⟩ : ∃ text, (entry diag_id name).diagid_info = diag_id :: process_name_len name :: text := ⟨_,rfl⟩
  rw [spelled,List.length_cons,List.length_cons] at length
  have size : text.length = (process_name_len name).toNat := by omega
  rw [record,spelled,List.cons_append,List.cons_append,read_record,if_pos (by rw [List.length_append]; omega),
    List.take_left' size,List.drop_left' size]
  rw [show (diag_id :: process_name_len name :: text).getD 1 0 = process_name_len name from rfl,← size]
  simp

end

/-! ## The response -/

theorem store_zeros (before : List UInt8) {cells : List UInt8} {room : Nat} (fits : cells.length ≤ room) :
    store (before ++ List.replicate room 0) before.length cells =
      .ok (before ++ cells ++ List.replicate (room - cells.length) 0) := by
  refine store_ok_iff.mpr ⟨by simp; omega,?_⟩
  rw [List.take_left,List.drop_append,List.drop_eq_nil_of_le (Nat.le_add_right _ _),List.nil_append,
    Nat.add_sub_cancel_left,List.drop_replicate]

/-- Entries that end inside the response are copied whole. -/
theorem diag_id_loop_copies {front : List DiagIdTbl} (sized : ∀ item ∈ front, Sized item) (back : List DiagIdTbl)
    (before : List UInt8) {room : Nat} (count : Nat) (full : before.length + room = DIAG_MAX_RSP_SIZE)
    (fits : (table_bytes front).length ≤ room) :
    diag_id_loop (front ++ back) (before ++ List.replicate room 0) before.length count =
      diag_id_loop back (before ++ table_bytes front ++ List.replicate (room - (table_bytes front).length) 0)
        (before ++ table_bytes front).length (count + front.length) := by
  induction front generalizing before room count with
  | nil => simp [table_bytes]
  | cons item front ih =>
    obtain ⟨⟨registered,length⟩,others⟩ := List.forall_mem_cons.mp sized
    have some_bytes := registered_length registered
    rw [table_bytes_cons,List.length_append] at fits
    have whole : load item.diagid_info item.diag_id_info_len.toNat = .ok item.diagid_info :=
      load_ok_iff.mpr ⟨Nat.le_of_eq length,by rw [length,List.take_length]⟩
    rw [List.cons_append,diag_id_loop,if_neg (by omega),whole,ok_bind,store_zeros before (by omega),ok_bind,length]
    have next := @ih others (before ++ item.diagid_info) (room - item.diagid_info.length) (count + 1)
      (by rw [List.length_append]; omega) (by omega)
    have left : room - item.diagid_info.length - (table_bytes front).length =
        room - (item.diagid_info ++ table_bytes front).length := by
      rw [List.length_append]
      omega
    have counted : count + 1 + front.length = count + (item :: front).length := by
      rw [List.length_cons]
      omega
    rw [left,counted,List.append_assoc before item.diagid_info (table_bytes front)] at next
    rw [table_bytes_cons,← next,List.length_append]

/-- The response with a count and a payload. -/
def query_response (buf : Request) (num_entries : Nat) (payload : List UInt8) : List UInt8 :=
  span buf 0 5 ++ [UInt8.ofNat num_entries] ++ payload

section
variable {client : Nat} {buf : Request} {len : Nat} {router : Router} {front back : List DiagIdTbl}

/-- A query whose first entries end inside the response goes on with the others. -/
theorem handle_diag_id_front (whole : 5 ≤ len) (table : router.diag_ids = front ++ back) (sized : ∀ item ∈ front, Sized item)
    (fits : 6 + (table_bytes front).length ≤ DIAG_MAX_RSP_SIZE) :
    handle_diag_id client buf len router =
      (diag_id_loop back (span buf 0 5 ++ [0] ++ table_bytes front ++
          List.replicate (DIAG_MAX_RSP_SIZE - 6 - (table_bytes front).length) 0) (6 + (table_bytes front).length) front.length >>=
        fun copied => store copied.1 5 [UInt8.ofNat copied.2.2] >>= fun resp => load resp copied.2.1 >>=
          fun resp => .ok (0,send router client resp)) := by
  have rest : List.replicate (DIAG_MAX_RSP_SIZE - 5) (0 : UInt8) = [0] ++ List.replicate (DIAG_MAX_RSP_SIZE - 6) 0 := rfl
  have begun : store (List.replicate DIAG_MAX_RSP_SIZE 0) 0 (span buf 0 5) =
      .ok (span buf 0 5 ++ [0] ++ List.replicate (DIAG_MAX_RSP_SIZE - 6) 0) := by
    have stored := @store_zeros [] (span buf 0 5) DIAG_MAX_RSP_SIZE (by rw [span_length]; decide)
    rw [span_length,rest,List.nil_append,List.nil_append,← List.append_assoc] at stored
    exact stored
  have six : (span buf 0 5 ++ [0]).length = 6 := by rw [List.length_append,span_length]; rfl
  have at_end : (span buf 0 5 ++ [0] ++ table_bytes front).length = 6 + (table_bytes front).length := by
    rw [List.length_append,six]
  have copies := @diag_id_loop_copies front sized back (span buf 0 5 ++ [0]) (DIAG_MAX_RSP_SIZE - 6) 0
    (by rw [six]; decide) (by omega)
  rw [at_end,six,Nat.zero_add] at copies
  rw [handle_diag_id,if_neg (by omega),begun,ok_bind,table,copies]
  rfl

/-- The loop is done: the count is written, and what was copied is sent. -/
theorem query_ends (payload : List UInt8) (num_entries room : Nat) :
    (store (span buf 0 5 ++ [0] ++ payload ++ List.replicate room 0) 5 [UInt8.ofNat num_entries] >>= fun resp =>
      load resp (6 + payload.length) >>= fun resp => Except.ok ((0 : Int),send router client resp)) =
        .ok (0,send router client (query_response buf num_entries payload)) := by
  have stored := @store_over UInt8 (span buf 0 5) [0] [UInt8.ofNat num_entries] (payload ++ List.replicate room 0) rfl
  rw [span_length,← List.append_assoc,← List.append_assoc] at stored
  have length : (query_response buf num_entries payload).length = 6 + payload.length := by
    simp only [query_response,List.length_append,span_length,List.length_cons,List.length_nil]
  have loaded : load (query_response buf num_entries payload ++ List.replicate room 0) (6 + payload.length) =
      .ok (query_response buf num_entries payload) :=
    load_ok_iff.mpr ⟨by rw [List.length_append]; omega,(List.take_left' length).symm⟩
  rw [stored,ok_bind]
  exact congrArg (fun x => x >>= fun resp => Except.ok ((0 : Int),send router client resp)) loaded

/-- All entries are copied, or the response is full. -/
theorem handle_diag_id_whole (whole : 5 ≤ len) (table : router.diag_ids = front ++ back) (sized : ∀ item ∈ front, Sized item)
    (fits : 6 + (table_bytes front).length ≤ DIAG_MAX_RSP_SIZE)
    (last : back = [] ∨ 6 + (table_bytes front).length = DIAG_MAX_RSP_SIZE) :
    handle_diag_id client buf len router = .ok (0,send router client (query_response buf front.length (table_bytes front))) := by
  have done : ∀ resp, diag_id_loop back resp (6 + (table_bytes front).length) front.length =
      .ok (resp,6 + (table_bytes front).length,front.length) := by
    intro resp
    cases back with
    | nil => rfl
    | cons item back =>
      have full := last.resolve_left (by simp)
      rw [diag_id_loop,if_pos (by omega)]
  rw [handle_diag_id_front whole table sized fits,done,ok_bind]
  exact query_ends (table_bytes front) front.length _

/-- One more entry is copied as far as its 8-bit length says. -/
theorem handle_diag_id_last {item : DiagIdTbl} (whole : 5 ≤ len) (table : router.diag_ids = front ++ [item])
    (sized : ∀ item ∈ front, Sized item) (room : 6 + (table_bytes front).length < DIAG_MAX_RSP_SIZE)
    (inside : item.diag_id_info_len.toNat ≤ item.diagid_info.length) {after : Int × Router}
    (ran : handle_diag_id client buf len router = .ok after) :
    6 + (table_bytes front).length + item.diag_id_info_len.toNat ≤ DIAG_MAX_RSP_SIZE ∧
      after = (0,send router client (query_response buf (front.length + 1)
        (table_bytes front ++ item.diagid_info.take item.diag_id_info_len.toNat))) := by
  have taken : (item.diagid_info.take item.diag_id_info_len.toNat).length = item.diag_id_info_len.toNat := by
    rw [List.length_take]
    omega
  have at_end : (span buf 0 5 ++ [0] ++ table_bytes front).length = 6 + (table_bytes front).length := by
    simp only [List.length_append,span_length,List.length_cons,List.length_nil]
  rw [handle_diag_id_front whole table sized (Nat.le_of_lt room),diag_id_loop,if_neg (by omega),
    load_ok_iff.mpr ⟨inside,rfl⟩,ok_bind] at ran
  by_cases fits : 6 + (table_bytes front).length + item.diag_id_info_len.toNat ≤ DIAG_MAX_RSP_SIZE
  · have stored := @store_zeros (span buf 0 5 ++ [0] ++ table_bytes front)
      (item.diagid_info.take item.diag_id_info_len.toNat) (DIAG_MAX_RSP_SIZE - 6 - (table_bytes front).length) (by omega)
    rw [at_end] at stored
    have ends := @query_ends client buf router (table_bytes front ++ item.diagid_info.take item.diag_id_info_len.toNat)
      (front.length + 1) (DIAG_MAX_RSP_SIZE - 6 - (table_bytes front).length -
        (item.diagid_info.take item.diag_id_info_len.toNat).length)
    rw [List.length_append,taken,← List.append_assoc,← Nat.add_assoc] at ends
    rw [stored,ok_bind,diag_id_loop,ok_bind,taken] at ran
    exact ⟨fits,Except.ok.inj (ran.symm.trans ends)⟩
  · have faults : store (span buf 0 5 ++ [0] ++ table_bytes front ++
        List.replicate (DIAG_MAX_RSP_SIZE - 6 - (table_bytes front).length) 0) (6 + (table_bytes front).length)
          (item.diagid_info.take item.diag_id_info_len.toNat) = .error .outOfBounds := by
      rw [store,if_neg]
      rw [List.length_append,at_end,List.length_replicate,taken]
      omega
    rw [faults] at ran
    cases ran

end

section
variable {buf : Request}

theorem query_response_length (buf : Request) (num_entries : Nat) (payload : List UInt8) :
    (query_response buf num_entries payload).length = 6 + payload.length := by
  simp only [query_response,List.length_append,span_length,List.length_cons,List.length_nil]

theorem query_response_count (buf : Request) (num_entries : Nat) (payload : List UInt8) :
    (query_response buf num_entries payload)[5]? = some (UInt8.ofNat num_entries) := by
  rw [query_response,List.append_assoc,List.getElem?_append_right (by rw [span_length]),span_length]
  rfl

theorem query_response_payload (buf : Request) (num_entries : Nat) (payload : List UInt8) :
    (query_response buf num_entries payload).drop 6 = payload :=
  List.drop_left' (by rw [List.length_append,span_length]; rfl)

end

/-! ## Tables -/

/-- The entries that are copied are sized and no more than a byte can count; if
    others follow, the copied ones fill the response. -/
structure Split (front back : List DiagIdTbl) : Prop where
  sized : ∀ item ∈ front, Sized item
  count : front.length ≤ 255
  fits : 6 + (table_bytes front).length ≤ DIAG_MAX_RSP_SIZE
  registered : ∀ item ∈ back, Registered item
  last : back = [] ∨ 6 + (table_bytes front).length = DIAG_MAX_RSP_SIZE

section
variable {front back : List DiagIdTbl}

theorem reads_entries (sized : ∀ item ∈ front, Sized item) :
    ∀ item ∈ front, ∀ cells, read_record (item.diagid_info ++ cells) = some (record item,cells) :=
  fun item member => read_entry (sized item member).registered

theorem Split.encodes (split : Split front back) : Encodes (front ++ back) := by
  intro client buf len router whole table
  refine ⟨_,_,front.length,handle_diag_id_whole whole table split.sized split.fits split.last,?_,query_response_count _ _ _,?_,?_⟩
  · rw [query_response_length]
    exact split.fits
  · have count := split.count
    have counted : (UInt8.ofNat front.length).toNat = front.length := by
      rw [UInt8.toNat_ofNat']
      omega
    rw [query_response_payload,counted,List.take_left]
    exact read_records_all (reads_entries split.sized)
  · cases back with
    | nil => exact .inl (by simp)
    | cons item back =>
      have full := split.last.resolve_left (by simp)
      have some_bytes := registered_length (split.registered item List.mem_cons_self)
      refine .inr ?_
      rw [table_bytes_append,List.length_append,table_bytes_cons,List.length_append,← full]
      omega

theorem split_nil : Split [] [] :=
  ⟨by simp,by simp,by decide,by simp,.inl rfl⟩

theorem sized_entry (diag_id : UInt8) {name : List UInt8} (fits : process_name_len name ≠ 0)
    (short : (process_name_len name).toNat ≤ 253) : Sized (entry diag_id name) := by
  refine ⟨⟨diag_id,name,rfl,fits⟩,?_⟩
  rw [entry_info_len,entry_length diag_id fits]
  omega

/-- An entry that fits is copied with the others. -/
theorem Split.added (split : Split front []) (diag_id : UInt8) {name : List UInt8} (fits : process_name_len name ≠ 0)
    (good : FitsResponse front name) : Split (front ++ [entry diag_id name]) [] := by
  refine ⟨?_,?_,?_,by simp,.inl rfl⟩
  · intro item member
    rcases List.mem_append.mp member with old | new
    · exact split.sized item old
    · obtain rfl := List.mem_singleton.mp new
      exact sized_entry diag_id fits good.length
  · rw [List.length_append]
    exact good.count
  · have bytes := good.bytes
    rw [table_bytes_append,table_bytes_item,List.length_append,entry_length diag_id fits]
    omega

/-- Behind a full response any entry may follow. -/
theorem Split.behind (split : Split front back) (full : 6 + (table_bytes front).length = DIAG_MAX_RSP_SIZE) {item : DiagIdTbl}
    (registered : Registered item) : Split front (back ++ [item]) := by
  refine ⟨split.sized,split.count,split.fits,?_,.inr full⟩
  intro item member
  rcases List.mem_append.mp member with old | new
  · exact split.registered item old
  · obtain rfl := List.mem_singleton.mp new
    exact registered

/-- A router with a table and one client, to which packets go as they are. -/
def asked_router (diag_ids : List DiagIdTbl) : Router := ⟨Masks.diag_masks_init,[],diag_ids,[],[⟨.RAW,true,[]⟩]⟩

theorem asked_send {diag_ids : List DiagIdTbl} {resp other : List UInt8}
    (same : send (asked_router diag_ids) 0 resp = send (asked_router diag_ids) 0 other) : resp = other := by
  have clients := congrArg (fun router => router.diag_clients.map DiagClient.outq) same
  simpa [send,asked_router,dm_send,queue_push] using clients

/-- No record is read from what an entry that is too long leaves in the
    response. -/
theorem too_long_unread {item : DiagIdTbl} (cut : item.diag_id_info_len.toNat ≤ 1) :
    read_record (item.diagid_info.take item.diag_id_info_len.toNat) = none := by
  have few : (item.diagid_info.take item.diag_id_info_len.toNat).length ≤ 1 := by
    rw [List.length_take]
    omega
  match item.diagid_info.take item.diag_id_info_len.toNat,few with
  | [],_ => rfl
  | [_],_ => rfl

/-- An entry that does not fit spoils the response. -/
theorem Split.broken (split : Split front []) (room : 6 + (table_bytes front).length < DIAG_MAX_RSP_SIZE) (diag_id : UInt8)
    {name : List UInt8} (fits : process_name_len name ≠ 0) (bad : ¬ FitsResponse front name) :
    ¬ Encodes (front ++ [entry diag_id name]) := by
  intro encodes
  obtain ⟨resp,count,k,ran,_,counted,read,_⟩ := encodes 0 (fun _ => 0) 5 (asked_router (front ++ [entry diag_id name])) (by decide) rfl
  have info_len := entry_info_len diag_id name
  have length := entry_length diag_id fits
  have small := (process_name_len name).toNat_lt
  obtain ⟨inside,same⟩ := handle_diag_id_last (by decide) rfl split.sized room (by omega) ran
  obtain rfl := asked_send (congrArg Prod.snd same)
  rw [query_response_count] at counted
  obtain rfl := Option.some.inj counted
  rw [query_response_payload] at read
  have few := split.count
  by_cases wraps : front.length = 255
  · -- the count is 0, and the payload is not empty
    have none_counted : (UInt8.ofNat (front.length + 1)).toNat = 0 := by
      rw [wraps]
      rfl
    rw [none_counted,read_records_zero] at read
    obtain ⟨first,rest,rfl⟩ := List.exists_cons_of_length_pos (show 0 < front.length by omega)
    have some_bytes := registered_length (split.sized first List.mem_cons_self).registered
    have empty := congrArg List.length (congrArg Prod.snd (Option.some.inj read))
    simp only [table_bytes_cons,List.length_append,List.length_nil] at empty
    omega
  · have all_counted : (UInt8.ofNat (front.length + 1)).toNat = front.length + 1 := by
      rw [UInt8.toNat_ofNat']
      omega
    by_cases short : (process_name_len name).toNat ≤ 253
    · exact bad ⟨short,by omega,by omega⟩
    · have cut : (entry diag_id name).diag_id_info_len.toNat ≤ 1 := by omega
      rw [all_counted,table_bytes,read_records_more (reads_entries split.sized) (too_long_unread cut)] at read
      cases read

end

/-! ## Runs -/

def Reached (state : Answers) : Prop := ∃ front back, state.ids.diag_ids = front ++ back ∧ Split front back

theorem Reached.encodes {state : Answers} (reached : Reached state) : Encodes state.ids.diag_ids := by
  obtain ⟨front,back,table,split⟩ := reached
  rw [table]
  exact split.encodes

section
variable {state after : Answers} {packet : IdPacket}

theorem answer_step_reached (reached : Reached state) (keeps : KeepsEncoded state packet)
    (step : answer_step state packet = .ok after) : Reached after := by
  by_cases short : TooShort packet
  · rw [answer_step_short short] at step
    cases step
    exact reached
  · rw [answer_step_eq short] at step
    obtain ⟨name,asked,same⟩ := bind_eq_ok.mp step
    cases same
    obtain ⟨front,back,table,split⟩ := reached
    rcases answered_cases packet.memory name state with ⟨diag_id,found,same⟩ | ⟨missing,down,same⟩ | ⟨missing,taken,same⟩
    · rw [same]
      exact ⟨front,back,table,split⟩
    · rw [same]
      exact ⟨front,back,table,split⟩
    · rw [same]
      have fits : process_name_len name ≠ 0 := fun zero => taken (.inr (.inr ((process_name_len_eq_zero name).mp zero)))
      by_cases full : 6 + (table_bytes front).length = DIAG_MAX_RSP_SIZE
      · refine ⟨front,back ++ [entry (next_diag_id packet.memory state.ids).toUInt8 name],?_,split.behind full ⟨_,name,rfl,fits⟩⟩
        rw [← List.append_assoc,← table]
      · obtain rfl := split.last.resolve_right full
        rw [List.append_nil] at table
        have room := Nat.lt_of_le_of_ne split.fits full
        have good := keeps short name asked missing taken (by rw [table]; exact room)
        rw [table] at good
        refine ⟨_,[],?_,split.added (next_diag_id packet.memory state.ids).toUInt8 fits good⟩
        rw [List.append_nil,← table]

/-- A step that does not meet the condition adds an entry that does not fit. -/
theorem answer_step_breaks (reached : Reached state) (bad : ¬ KeepsEncoded state packet) :
    ∃ after, answer_step state packet = .ok after ∧ ¬ Encodes after.ids.diag_ids := by
  simp only [KeepsEncoded,Classical.not_imp,not_forall] at bad
  obtain ⟨whole,name,asked,missing,taken,room,bad⟩ := bad
  refine ⟨answered packet.memory name state,by rw [answer_step_eq whole,asked,ok_bind],?_⟩
  have fits : process_name_len name ≠ 0 := fun zero => taken (.inr (.inr ((process_name_len_eq_zero name).mp zero)))
  rw [answered,local_added missing taken]
  obtain ⟨front,back,table,split⟩ := reached
  dsimp only
  rw [table] at room bad ⊢
  have open_end : back = [] := by
    refine split.last.resolve_right ?_
    intro full
    rw [table_bytes_append,List.length_append] at room
    omega
  rw [open_end,List.append_nil] at room bad ⊢
  rw [open_end] at split
  exact split.broken room (next_diag_id packet.memory state.ids).toUInt8 fits bad

end

theorem reached_init : Reached no_answers := ⟨[],[],rfl,split_nil⟩

/-- From the empty table, whatever peripherals ask, each table answers queries
    with its records in order, exactly when every name that is added while the
    response has room left fits it. -/
theorem diag_id_query_iff (packets : List IdPacket) :
    Along answer_step (fun state => Encodes state.ids.diag_ids) no_answers packets ↔
      Meets answer_step KeepsEncoded no_answers packets :=
  along_iff_meets_of_breaks Reached Reached.encodes answer_step_reached answer_step_breaks reached_init

/-- With its NUL a name of 253 bytes has length 254, and with the header 256: the
    response counts one entry and is empty. -/
theorem long_name_unread :
    ¬ Along answer_step (fun state => Encodes state.ids.diag_ids) no_answers [diag_id_packet 3 2 (List.replicate 253 0x41)] := by
  intro along
  have stored : (fun state => state.ids.diag_ids) <$>
      exec answer_step no_answers [diag_id_packet 3 2 (List.replicate 253 0x41)] =
        .ok [entry 2 (List.replicate 253 0x41)] := by
    decide +kernel
  obtain ⟨state,run,table⟩ := map_eq_ok.mp stored
  have encodes := along.ends run
  rw [table] at encodes
  have length : process_name_len (List.replicate 253 0x41) = 254 := by
    rw [process_name_len,List.length_replicate]
    rfl
  refine split_nil.broken (by decide) 2 (by rw [length]; decide) ?_ encodes
  intro good
  have short := good.length
  rw [length] at short
  exact absurd short (by decide)

end DiagRouter.DiagIdQuery

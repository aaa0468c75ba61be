import DiagRouter.DataRecv
import DiagRouter.NhdlcDatagram
import DiagRouter.Responses
import DiagRouter.HdlcRecovery
import DiagRouter.DispatchOnce

/-!
# Messages through the router

A message goes through the router in two framings: that of the one who sends it
and that of the one who gets it. What arrives from a peripheral is what its
clients read, and what arrives from a client is what its peripherals read.
-/
namespace DiagRouter.Relay
open DiagRouter.Lib.Memory DiagRouter.Lib.Words DiagRouter.Lib.Ring DiagRouter.Lib.Runs DiagRouter.Lib.Stuffing
open DiagRouter.CircRead DiagRouter.Hdlc DiagRouter.Watch DiagRouter.Endpoints DiagRouter.DataRecv DiagRouter.NhdlcDatagram
open DiagRouter.HdlcStream (Receiver decoder message recv_piece until_null_reads)
open DiagRouter.Clients (EncodeType NHDLC_CONTROL_CHAR)
open DiagRouter.Responses (encoded)
open DiagRouter.RingFifo (filled)

/-! ## What is read from a wire -/

/-- The frames of a stream that is not HDLC, one behind the other; more rounds
    than bytes are not needed. -/
def nhdlc_frames : Nat → List UInt8 → List (List UInt8)
  | 0, _ => []
  | fuel+1, stream =>
    match non_hdlc_payload stream with
    | some payload => payload :: nhdlc_frames fuel (stream.drop (payload.length + 5))
    | none => []

/-- Who reads the wire gets these messages: a packet for each, a decoder's
    messages however the stream is cut, or the frames of the stream. -/
def Carries (wire : List (List UInt8)) (msgs : List (List UInt8)) : EncodeType → Prop
  | .RAW => wire = msgs
  | .HDLC => ∀ (buf : CircBuf) (pieces : List (List UInt8)), buf.head = buf.tail → buf.tail < HDLC_BUF_SIZE →
      pieces.flatten = wire.flatten → (∀ piece ∈ pieces, piece.length < HDLC_BUF_SIZE) →
      ∃ after returned, emit recv_piece ⟨.zeroed,buf⟩ pieces = .ok (after,returned) ∧
        returned.map Message.payload = msgs.map .ok
  | .NHDLC => nhdlc_frames (wire.flatten.length + 1) wire.flatten = msgs

theorem bodies_short {msgs : List (List UInt8)} (short : ∀ msg ∈ msgs, msg.length ≤ HDLC_BUF_SIZE - 2) :
    ∀ framed ∈ msgs.map body, framed.length ≤ HDLC_BUF_SIZE := by
  intro framed member
  obtain ⟨src,sent,rfl⟩ := List.mem_map.mp member
  have most := short src sent
  rw [body_length]
  unfold HDLC_BUF_SIZE at *
  omega

theorem frame_payload {msg : List UInt8} (small : msg.length ≤ 65535) (more : List UInt8) :
    non_hdlc_payload (nhdlc_frame msg ++ more) = some msg := by
  have same : span (place (nhdlc_frame msg ++ more) (fun _ => 0)) 0 (nhdlc_frame msg ++ more).length = nhdlc_frame msg ++ more := by
    have text := span_place [] (nhdlc_frame msg ++ more) [] (fun _ => 0)
    simpa using text
  rw [← same,payload_eq]
  exact recv_frame small more (fun _ => 0)

theorem nhdlc_frames_sent {msgs : List (List UInt8)} (small : ∀ msg ∈ msgs, msg.length ≤ 65535) {fuel : Nat}
    (enough : (msgs.flatMap nhdlc_frame).length < fuel) : nhdlc_frames fuel (msgs.flatMap nhdlc_frame) = msgs := by
  induction msgs generalizing fuel with
  | nil =>
    cases fuel with
    | zero => rfl
    | succ fuel => rfl
  | cons msg msgs ih =>
    obtain ⟨first,others⟩ := List.forall_mem_cons.mp small
    obtain ⟨fuel,rfl⟩ := Nat.exists_eq_succ_of_ne_zero (Nat.ne_of_gt (Nat.zero_lt_of_lt enough))
    rw [List.flatMap_cons,List.length_append,nhdlc_frame_length] at enough
    rw [List.flatMap_cons,nhdlc_frames,frame_payload first]
    dsimp only
    rw [← nhdlc_frame_length,List.drop_left,ih others (by omega)]

/-- Messages that are sent in the framing of a reader are read. -/
theorem encoded_carries {msgs : List (List UInt8)} (short : ∀ msg ∈ msgs, msg.length ≤ HDLC_BUF_SIZE - 2) (type : EncodeType) :
    Carries (msgs.map (encoded type)) msgs type := by
  cases type with
  | RAW => exact List.map_id msgs
  | HDLC =>
    intro buf pieces empty inside cut fit
    have valid : Valid buf := ⟨by omega,inside⟩
    have ready : HdlcStream.Ready ⟨.zeroed,buf⟩ pieces.flatten (msgs.map body) := by
      rw [cut,show (msgs.map (encoded .HDLC)).flatten = msgs.flatMap hdlc_encode from List.flatMap_def.symm,hdlc_encode_frames]
      exact ⟨valid,(contents_empty valid).mpr empty.symm,bodies_short short,[],false,rfl,
        reads_frames transparent (bodies_ne_nil msgs)⟩
    obtain ⟨after,run,_⟩ := HdlcStream.recv_pieces_ready fit ready
    exact ⟨after,_,run,HdlcStream.sent_payloads short⟩
  | NHDLC =>
    have stream : (msgs.map (encoded .NHDLC)).flatten = msgs.flatMap nhdlc_frame := List.flatMap_def.symm
    rw [Carries,stream]
    refine nhdlc_frames_sent (fun msg member => ?_) (Nat.lt_succ_self _)
    have most := short msg member
    unfold HDLC_BUF_SIZE at most
    omega

/-! ## From a peripheral to the clients -/

/-- The calls of `diag_data_recv_hdlc`: what they decode is broadcast. -/
def data_recv_hdlc (flow : Option Nat) (calls : List (List (List UInt8))) (peripheral : Receiver) (s : Router) :
    Except Fault (Receiver × Router) := do
  let (peripheral,msgs) ← emit recv_call peripheral calls
  let payloads ← msgs.mapM Message.payload
  return (peripheral,payloads.foldl (fun s payload => dm_broadcast s payload flow) s)

/-- The decoder and the ring hold the beginning of what is still to be returned. -/
structure Midway (peripheral : Receiver) (unread : List UInt8) (bodies : List (List UInt8)) : Prop where
  ready : DataRecv.Ready peripheral
  short : ∀ body ∈ bodies, body.length ≤ HDLC_BUF_SIZE
  reads : ∃ stored pending, peripheral.recv_decoder = decoder stored pending ∧
    Reads 0x7e 0x7d toggle stored pending (contents peripheral.recv_buf ++ unread) bodies

section
variable {peripheral : Receiver} {bodies : List (List UInt8)}

/-- A read is stored, or all there is in the ring is decoded. -/
theorem read_step_midway {chunk unread : List UInt8} (midway : Midway peripheral (chunk ++ unread) bodies)
    (asked : Asked peripheral chunk) :
    ∃ ended later after, bodies = ended ++ later ∧ read_step peripheral chunk = .ok (after,ended.map message) ∧
      Midway after unread later := by
  obtain ⟨ready,short,stored,pending,same,reads⟩ := midway
  obtain ⟨still,appended⟩ := filled_contents ready.valid asked
  change Valid (filled peripheral.recv_buf chunk) at still
  change contents (filled peripheral.recv_buf chunk) = _ at appended
  rw [← List.append_assoc,← appended] at reads
  by_cases on : ReadsOn peripheral.recv_buf chunk
  · exact ⟨[],bodies,_,rfl,read_step_on on,⟨still,on.2,ready.inside⟩,short,stored,pending,same,reads⟩
  · obtain ⟨ended,later,more,escape,rfl,scanned,left⟩ := until_null_reads (contents_lt still) short reads
    have follows := until_null_follows HDLC_BUF_SIZE peripheral.recv_decoder still
    rw [same,scanned] at follows
    obtain ⟨buf,decoded,good,drained⟩ := follows.of_ok
    have step : read_step peripheral chunk = .ok (⟨decoder more escape,buf⟩,ended.map message) := by
      rw [read_step_decodes on,same,decoded]
      rfl
    refine ⟨ended,later,_,rfl,step,?_,fun body member => short body (List.mem_append_right _ member),more,escape,rfl,?_⟩
    · exact (next_ready ready asked (next_ok.mpr ⟨_,step⟩)).1
    · rw [drained]
      exact left

theorem read_steps_midway {reads : List (List UInt8)} {unread : List UInt8} (midway : Midway peripheral (reads.flatten ++ unread) bodies)
    (asked : Meets next Asked peripheral reads) :
    ∃ ended later after, bodies = ended ++ later ∧ emit read_step peripheral reads = .ok (after,ended.map message) ∧
      Midway after unread later := by
  induction reads generalizing peripheral bodies with
  | nil => exact ⟨[],bodies,peripheral,rfl,rfl,midway⟩
  | cons chunk reads ih =>
    rw [List.flatten_cons,List.append_assoc] at midway
    obtain ⟨ended,later,mid,rfl,step,between⟩ := read_step_midway midway asked.1
    obtain ⟨more,last,after,rfl,run,behind⟩ := ih between (asked.2 mid (next_ok.mpr ⟨_,step⟩))
    refine ⟨ended ++ more,last,after,(List.append_assoc ..).symm,?_,behind⟩
    rw [emit_cons,step,ok_bind,run,List.map_append]
    rfl

/-- Where everything has been decoded, everything has been returned. -/
theorem Midway.ended (midway : Midway peripheral [] bodies) (drained : contents peripheral.recv_buf = []) : bodies = [] := by
  obtain ⟨_,_,stored,pending,_,reads⟩ := midway
  rw [drained] at reads
  cases reads
  rfl

end

/-! ## Broadcasts -/

/-- What a client is sent of a message. -/
def sent_to (client : DiagClient) (msgs : List (List UInt8)) : List (List UInt8) :=
  if client.enabled then msgs.map (encoded client.encode_type) else []

theorem sent_to_cons (client : DiagClient) (msg : List UInt8) (msgs : List (List UInt8)) :
    sent_to client (msg :: msgs) = sent_to client [msg] ++ sent_to client msgs := by
  unfold sent_to
  by_cases enabled : client.enabled = true <;> simp [enabled]

/-- What is queued to a client. -/
def queued (io : Watches) (dm : Nat) : List (List UInt8) := (io.queues (.outq dm)).map Mbuf.data

theorem dm_send_flow_queued (io : Watches) (dm other : Nat) (client : DiagClient) (msg : List UInt8) (flow : Option Nat) :
    queued (dm_send_flow io dm client msg flow) other =
      queued io other ++ if dm = other then sent_to client [msg] else [] := by
  unfold dm_send_flow sent_to queued
  split_ifs with enabled same
  · subst same
    cases client.encode_type <;>
      simp [queue_push_flow,hdlc_enqueue_flow,queue_push_nhdlc_flow,encoded]
  · have different : Queue.outq other ≠ .outq dm := fun eq => same (Queue.outq.inj eq).symm
    cases client.encode_type <;>
      simp [queue_push_flow,hdlc_enqueue_flow,queue_push_nhdlc_flow,Function.update_of_ne different]
  · simp
  · simp

theorem broadcast_loop_queued (msg : List UInt8) (flow : Option Nat) (io : Watches) (first : Nat) (clients : List DiagClient)
    (dm : Nat) :
    queued (broadcast_loop msg flow io first clients) dm =
      queued io dm ++ if first ≤ dm then (clients[dm - first]?.map (fun client => sent_to client [msg])).getD [] else [] := by
  induction clients generalizing io first with
  | nil => simp [broadcast_loop]
  | cons client clients ih =>
    rw [broadcast_loop,ih,dm_send_flow_queued,List.append_assoc]
    congr 1
    by_cases here : first = dm
    · subst here
      rw [if_pos rfl,if_neg (by omega),if_pos le_rfl,Nat.sub_self,List.append_nil]
      rfl
    · by_cases behind : first ≤ dm
      · obtain ⟨n,rfl⟩ := Nat.exists_eq_add_of_lt (Nat.lt_of_le_of_ne behind here)
        rw [if_neg here,if_pos (by omega),if_pos behind,List.nil_append,show first + n + 1 - first = n + 1 by omega,
          show first + n + 1 - (first + 1) = n by omega,List.getElem?_cons_succ]
      · rw [if_neg here,if_neg (by omega),if_neg behind]
        rfl

/-- Broadcast messages are queued to each client as it is sent them. -/
theorem broadcasts_queued (msgs : List (List UInt8)) (flow : Option Nat) (s : Router) {dm : Nat} {client : DiagClient}
    (present : s.diag_clients[dm]? = some client) :
    queued (msgs.foldl (fun s msg => dm_broadcast s msg flow) s).io dm = queued s.io dm ++ sent_to client msgs := by
  induction msgs generalizing s with
  | nil =>
    rw [sent_to,List.map_nil,ite_self,List.append_nil]
    rfl
  | cons msg msgs ih =>
    rw [List.foldl_cons,ih (dm_broadcast s msg flow) present,dm_broadcast,broadcast_loop_queued,if_pos (Nat.zero_le dm),
      Nat.sub_zero,present,List.append_assoc,sent_to_cons]
    rfl

theorem payloads_mapM {msgs : List (List UInt8)} (short : ∀ msg ∈ msgs, msg.length ≤ HDLC_BUF_SIZE - 2) :
    ((msgs.map body).map message).mapM Message.payload = .ok msgs := by
  induction msgs with
  | nil => rfl
  | cons msg msgs ih =>
    obtain ⟨first,others⟩ := List.forall_mem_cons.mp short
    rw [List.map_cons,List.map_cons,List.mapM_cons,HdlcStream.message_payload first,ok_bind,ih others]
    rfl

/-- `diag_data_recv`: a peripheral whose messages are not to be encoded here has
    a packet for each `read`. -/
def diag_data_recv (features : UInt32) (flow : Option Nat) (calls : List (List (List UInt8))) (peripheral : Receiver) (s : Router) :
    Except Fault (Receiver × Router) :=
  if features &&& Peripherals.DIAG_FEATURE_APPS_HDLC_ENCODE ≠ 0 then
    .ok (peripheral,calls.flatten.foldl (fun s bytes => dm_broadcast s (bytes.take 4096) flow) s)
  else data_recv_hdlc flow calls peripheral s

/-- The messages arrive, a packet each or cut anywhere. -/
def Arrives (features : UInt32) (index : Nat) (calls : List (List (List UInt8))) (msgs : List (List UInt8)) : Prop :=
  if features &&& Peripherals.DIAG_FEATURE_APPS_HDLC_ENCODE ≠ 0 then calls.flatten = msgs ∧ ∀ msg ∈ msgs, msg.length ≤ 4096
  else calls.flatten.flatten = msgs.flatMap hdlc_encode ∧ Meets next Asked (fresh index) calls.flatten

theorem sent_carries {msgs : List (List UInt8)} (short : ∀ msg ∈ msgs, msg.length ≤ HDLC_BUF_SIZE - 2) (client : DiagClient) :
    if client.enabled then Carries (sent_to client msgs) msgs client.encode_type else sent_to client msgs = [] := by
  unfold sent_to
  split_ifs with enabled
  · exact encoded_carries short client.encode_type
  · rfl

/-- An HDLC client, one that is not encoded and one that is not enabled. -/
def three_clients : Router := { start with diag_clients := [⟨5,5,.HDLC,true⟩,⟨6,6,.RAW,true⟩,⟨7,7,.NHDLC,false⟩] }

/-- What a packet on the data channel of QRTR carries. -/
def carried (pkt : QrtrPacket) : Option (List UInt8) :=
  match pkt.type with
  | .QRTR_TYPE_DATA => non_hdlc_payload pkt.data
  | _ => none

theorem payload_length {data payload : List UInt8} (taken : non_hdlc_payload data = some payload) :
    payload.length + 5 ≤ data.length := by
  have same : span (place data (fun _ => 0)) 0 data.length = data := by simpa using span_place [] data [] (fun _ => 0)
  rw [← same,payload_eq] at taken
  obtain ⟨_,more,spelled⟩ := recv_spells taken
  have length := congrArg List.length spelled
  rw [span_length,List.length_append,nhdlc_frame_length] at length
  omega

/-- One packet, of whatever type, is relayed if it carries a message. -/
theorem qrtr_data_recv_queued (s : Router) {i : Nat} {perif : Endpoints.Peripheral} (known : s.peripherals[i]? = some perif)
    (pkt : QrtrPacket) :
    (qrtr_data_recv s i pkt).diag_clients = s.diag_clients ∧ (∃ perif, (qrtr_data_recv s i pkt).peripherals[i]? = some perif) ∧
      ∀ (dm : Nat) client, s.diag_clients[dm]? = some client →
        queued (qrtr_data_recv s i pkt).io dm = queued s.io dm ++ sent_to client (carried pkt).toList := by
  have inside := (List.getElem?_eq_some_iff.mp known).1
  have none_sent (client : DiagClient) : sent_to client [] = [] := by
    rw [sent_to,List.map_nil,ite_self]
  rw [qrtr_data_recv,carried,known]
  cases pkt.type with
  | QRTR_TYPE_DATA =>
    have queues : (if perif.data_open then s.io else watch_add_writeq s.io perif.data_fd (.dataq i)).queues = s.io.queues := by
      cases perif.data_open <;> rfl
    dsimp only
    cases non_hdlc_payload pkt.data with
    | none =>
      refine ⟨rfl,⟨_,List.getElem?_set_self inside⟩,fun dm client present => ?_⟩
      rw [Option.toList_none,none_sent,List.append_nil,queued,queued,queues]
    | some payload =>
      refine ⟨rfl,⟨_,List.getElem?_set_self inside⟩,fun dm client present => ?_⟩
      have sent := @broadcasts_queued [payload] (some i)
        { s with io := if perif.data_open then s.io else watch_add_writeq s.io perif.data_fd (.dataq i)
                 peripherals := s.peripherals.set i { perif with data_open := true } } dm client present
      refine sent.trans ?_
      rw [queued,queues]
      rfl
  | QRTR_TYPE_BYE =>
    refine ⟨rfl,⟨_,List.getElem?_set_self inside⟩,fun dm client present => ?_⟩
    rw [Option.toList_none,none_sent,List.append_nil]
    rfl
  | _ => exact ⟨rfl,⟨perif,known⟩,fun dm client present => by rw [Option.toList_none,none_sent,List.append_nil]⟩

theorem sent_to_append (client : DiagClient) (msgs more : List (List UInt8)) :
    sent_to client (msgs ++ more) = sent_to client msgs ++ sent_to client more := by
  induction msgs with
  | nil => simp [sent_to]
  | cons msg msgs ih => rw [List.cons_append,sent_to_cons,ih,sent_to_cons client msg msgs,List.append_assoc]

/-- Of the packets that come on a data socket of QRTR, whichever they are, those
    that carry a message are relayed to every enabled client, in order. -/
theorem datagrams_relayed {pkts : List QrtrPacket} (fit : ∀ pkt ∈ pkts, pkt.data.length ≤ 4096) {s : Router} {i : Nat}
    {perif : Endpoints.Peripheral} (known : s.peripherals[i]? = some perif) {dm : Nat} {client : DiagClient}
    (present : s.diag_clients[dm]? = some client) :
    ∃ wire, queued (pkts.foldl (fun s pkt => qrtr_data_recv s i pkt) s).io dm = queued s.io dm ++ wire ∧
      if client.enabled then Carries wire (pkts.filterMap carried) client.encode_type else wire = [] := by
  have short : ∀ msg ∈ pkts.filterMap carried, msg.length ≤ HDLC_BUF_SIZE - 2 := by
    intro msg member
    obtain ⟨pkt,listed,taken⟩ := List.mem_filterMap.mp member
    have room := fit pkt listed
    have data : non_hdlc_payload pkt.data = some msg := by
      unfold carried at taken
      split at taken
      · exact taken
      · cases taken
    have length := payload_length data
    unfold HDLC_BUF_SIZE
    omega
  refine ⟨sent_to client (pkts.filterMap carried),?_,sent_carries short client⟩
  clear short fit
  induction pkts generalizing s perif with
  | nil => simp [sent_to]
  | cons pkt pkts ih =>
    obtain ⟨clients,⟨later,still⟩,one⟩ := qrtr_data_recv_queued s known pkt
    have split : (pkt :: pkts).filterMap carried = (carried pkt).toList ++ pkts.filterMap carried := by
      cases told : carried pkt <;> simp [told]
    rw [List.foldl_cons,ih still (clients ▸ present),one dm client present,split,sent_to_append,List.append_assoc]

/-- A message, a packet that is none, and the end. -/
theorem packets_relayed :
    ∃ wire, queued ([⟨.QRTR_TYPE_DATA,1,1,[0x7e,1,1,0,0x79,0x7e]⟩,⟨.QRTR_TYPE_DATA,1,1,[0x7e,1,9,0,0x79,0x7e]⟩,⟨.QRTR_TYPE_BYE,1,1,[]⟩].foldl
        (fun s pkt => qrtr_data_recv s 0 pkt) { three_clients with peripherals := [⟨8,9,10,false,false⟩] }).io 0 =
        queued three_clients.io 0 ++ wire ∧
      if true then Carries wire ([(⟨.QRTR_TYPE_DATA,1,1,[0x7e,1,1,0,0x79,0x7e]⟩ : QrtrPacket),
        ⟨.QRTR_TYPE_DATA,1,1,[0x7e,1,9,0,0x79,0x7e]⟩,⟨.QRTR_TYPE_BYE,1,1,[]⟩].filterMap carried) .HDLC else wire = [] :=
  @datagrams_relayed _ (by decide) { three_clients with peripherals := [⟨8,9,10,false,false⟩] } 0 ⟨8,9,10,false,false⟩ rfl 0
    ⟨5,5,.HDLC,true⟩ rfl

/-! ## From a client to the peripherals -/

/-- The framing in which a peripheral wants its messages. -/
def reads_type (p : Peripherals.Peripheral) : EncodeType :=
  if p.features &&& Peripherals.DIAG_FEATURE_APPS_HDLC_ENCODE ≠ 0 then .RAW else .HDLC

/-- The queue for client messages. -/
def channel (p : Peripherals.Peripheral) : List (List UInt8) :=
  match p.send with
  | .perif_rpmsg_send => if p.features &&& Peripherals.DIAG_FEATURE_REQ_RSP_SUPPORT ≠ 0 then p.cmdq else p.dataq
  | .qrtr_perif_send => p.cmdq

/-- More messages on the channel, and everything else as it was. -/
structure Receives (p : Peripherals.Peripheral) (msgs : List (List UInt8)) (after : Peripherals.Peripheral) : Prop where
  addr : after.addr = p.addr
  features : after.features = p.features
  send : after.send = p.send
  cntlq : after.cntlq = p.cntlq
  channel : Relay.channel after = Relay.channel p ++ msgs.map (encoded (reads_type p))

theorem Receives.refl (p : Peripherals.Peripheral) : Receives p [] p := ⟨rfl,rfl,rfl,rfl,(List.append_nil _).symm⟩

theorem Receives.trans {p mid after : Peripherals.Peripheral} {msgs more : List (List UInt8)} (first : Receives p msgs mid)
    (second : Receives mid more after) : Receives p (msgs ++ more) after where
  addr := second.addr.trans first.addr
  features := second.features.trans first.features
  send := second.send.trans first.send
  cntlq := second.cntlq.trans first.cntlq
  channel := by
    have type : reads_type mid = reads_type p := by rw [reads_type,reads_type,first.features]
    rw [second.channel,first.channel,type,List.map_append,List.append_assoc]

theorem peripheral_send_receives (p : Peripherals.Peripheral) (msg : List UInt8) :
    Receives p [msg] (Peripherals.peripheral_send p msg) := by
  have pushed (queue : List (List UInt8)) : Peripherals.push_encoded p queue msg = queue ++ [encoded (reads_type p) msg] := by
    unfold Peripherals.push_encoded reads_type
    split_ifs <;> rfl
  unfold Peripherals.peripheral_send
  cases send : p.send with
  | perif_rpmsg_send =>
    unfold Peripherals.perif_rpmsg_send
    by_cases wanted : p.features &&& Peripherals.DIAG_FEATURE_REQ_RSP_SUPPORT ≠ 0
    · rw [if_pos wanted]
      refine ⟨rfl,rfl,rfl,rfl,?_⟩
      simp only [channel,send,if_pos wanted,pushed,List.map_cons,List.map_nil]
    · rw [if_neg wanted]
      refine ⟨rfl,rfl,rfl,rfl,?_⟩
      simp only [channel,send,if_neg wanted,pushed,List.map_cons,List.map_nil]
  | qrtr_perif_send =>
    refine ⟨rfl,rfl,rfl,rfl,?_⟩
    simp only [Peripherals.qrtr_perif_send,channel,send,pushed,List.map_cons,List.map_nil]

/-- Every peripheral receives the messages that are chosen for its address. -/
def Relayed (chosen : Nat → List (List UInt8)) (before after : List Peripherals.Peripheral) : Prop :=
  List.Forall₂ (fun p q => Receives p (chosen p.addr) q) before after

section
variable {chosen more : Nat → List (List UInt8)} {before mid after : List Peripherals.Peripheral}

theorem Relayed.trans (first : Relayed chosen before mid) (second : Relayed more mid after) :
    Relayed (fun addr => chosen addr ++ more addr) before after := by
  induction first generalizing after with
  | nil =>
    cases second
    exact .nil
  | cons head _ ih =>
    cases second with
    | cons next rest => exact .cons (head.trans (head.addr ▸ next)) (ih rest)

theorem relayed_map {f : Peripherals.Peripheral → Peripherals.Peripheral} (receives : ∀ p, Receives p (chosen p.addr) (f p))
    (peripherals : List Peripherals.Peripheral) : Relayed chosen peripherals (peripherals.map f) := by
  induction peripherals with
  | nil => exact .nil
  | cons p peripherals ih => exact .cons (receives p) ih

theorem Relayed.addrs (relayed : Relayed chosen before after) :
    after.map Peripherals.Peripheral.addr = before.map Peripherals.Peripheral.addr := by
  induction relayed with
  | nil => rfl
  | cons head _ ih => rw [List.map_cons,List.map_cons,head.addr,ih]

end

section
variable {router : Handlers.Router} {msg : List UInt8}

/-- Whoever is sent to is there. -/
def Attached (peripherals : List Peripherals.Peripheral) (targets : List Nat) : Prop :=
  ∀ target ∈ targets, target ∈ peripherals.map Peripherals.Peripheral.addr

theorem send_to_peripheral_relayed {target : Nat} (there : target ∈ router.peripherals.map Peripherals.Peripheral.addr) :
    ∃ after, Handlers.send_to_peripheral msg target router = .ok { router with peripherals := after } ∧
      Relayed (fun addr => if addr = target then [msg] else []) router.peripherals after := by
  obtain ⟨p,listed,addr⟩ := List.mem_map.mp there
  have found : router.peripherals.any (fun p => p.addr = target) = true := List.any_eq_true.mpr ⟨p,listed,decide_eq_true addr⟩
  refine ⟨_,by rw [Handlers.send_to_peripheral,if_pos found],relayed_map (fun p => ?_) _⟩
  split_ifs
  · exact peripheral_send_receives p msg
  · exact .refl p

theorem sends_relayed {targets : List Nat} (attached : Attached router.peripherals targets) :
    ∃ after, targets.foldlM (fun router target => Handlers.send_to_peripheral msg target router) router =
        .ok { router with peripherals := after } ∧
      Relayed (fun addr => List.replicate (targets.count addr) msg) router.peripherals after := by
  induction targets generalizing router with
  | nil =>
    have same := @relayed_map (fun _ => []) id Receives.refl router.peripherals
    rw [List.map_id] at same
    exact ⟨router.peripherals,rfl,same⟩
  | cons target targets ih =>
    obtain ⟨there,others⟩ := List.forall_mem_cons.mp attached
    obtain ⟨mid,sent,first⟩ := @send_to_peripheral_relayed router msg target there
    have attached_later : Attached ({ router with peripherals := mid } : Handlers.Router).peripherals targets := by
      intro other member
      exact first.addrs ▸ others other member
    obtain ⟨after,ran,second⟩ := ih attached_later
    refine ⟨after,by rw [List.foldlM_cons,sent,ok_bind,ran],?_⟩
    have both := first.trans second
    refine both.imp fun p q receives => ?_
    have count : (if p.addr = target then [msg] else []) ++ List.replicate (targets.count p.addr) msg =
        List.replicate ((target :: targets).count p.addr) msg := by
      by_cases mine : p.addr = target
      · subst mine
        rw [if_pos rfl,List.count_cons_self,List.replicate_succ]
        rfl
      · rw [if_neg mine,List.count_cons_of_ne (Ne.symm mine),List.nil_append]
    dsimp only at receives
    rwa [count] at receives

/-- How many registrations hand a command to a peripheral. -/
def times (diag_cmds : List (Dispatch.DiagCmd Nat)) (cmd : List UInt8) (addr : Nat) : Nat :=
  (DispatchOnce.hands (Dispatch.message_key (place cmd (fun _ => 0))) diag_cmds).count addr

/-- The command is for peripherals that are there. -/
structure ForThem (diag_cmds : List (Dispatch.DiagCmd Nat)) (peripherals : List Peripherals.Peripheral) (cmd : List UInt8) : Prop where
  header : 4 ≤ cmd.length
  short : cmd.length ≤ HDLC_BUF_SIZE - 2
  uncommon : Dispatch.common_cmds.find? (Dispatch.covers (Dispatch.message_key (place cmd (fun _ => 0)))) = none
  registered : DispatchOnce.hands (Dispatch.message_key (place cmd (fun _ => 0))) diag_cmds ≠ []
  attached : Attached peripherals (DispatchOnce.hands (Dispatch.message_key (place cmd (fun _ => 0))) diag_cmds)

/-- What follows a command in memory does not matter. -/
theorem key_of_command {cmd more : List UInt8} (header : 4 ≤ cmd.length) (rest : Handlers.Request) :
    Dispatch.message_key (place (cmd ++ more) rest) = Dispatch.message_key (place cmd (fun _ => 0)) := by
  have cell (i : Nat) (inside : i < 4) : place (cmd ++ more) rest i = place cmd (fun _ => 0) i := by
    rw [place_inside (show i < (cmd ++ more).length by rw [List.length_append]; omega),place_inside (show i < cmd.length by omega),
      List.getElem_append_left (by omega)]
  rw [Dispatch.message_key,Dispatch.message_key,cell 0 (by omega),cell 1 (by omega),cell 2 (by omega),cell 3 (by omega)]

theorem handle_command_relayed {cmd more : List UInt8} (for_them : ForThem router.diag_cmds router.peripherals cmd)
    (junk : Handlers.Junk) (client : Nat) (rest : Handlers.Request) :
    ∃ after, Handlers.diag_client_handle_command junk client (place (cmd ++ more) rest) cmd.length router =
        .ok { router with peripherals := after } ∧
      Relayed (fun addr => List.replicate (times router.diag_cmds cmd addr) cmd) router.peripherals after := by
  have key := @key_of_command cmd more for_them.header rest
  have whole : span (place (cmd ++ more) rest) 0 cmd.length = cmd := by simpa using span_place [] cmd more rest
  obtain ⟨after,ran,relayed⟩ := @sends_relayed router cmd _ for_them.attached
  refine ⟨after,Handlers.handle_command_success ?_,relayed⟩
  have some_sent : 0 + (router.diag_cmds.filter (Dispatch.covers (Dispatch.message_key (place cmd fun _ => 0)))).length ≠ 0 := by
    have nonempty := List.length_pos_iff.mpr for_them.registered
    rw [DispatchOnce.hands,List.length_map] at nonempty
    omega
  rw [Dispatch.dispatch_other _ _ _ (key ▸ for_them.uncommon),key,Dispatch.send_loop_eq]
  simp only [Handlers.router_calls,whole]
  rw [DispatchOnce.hands] at ran
  rw [ran]
  simp only [map_ok,ok_bind,if_pos some_sent]

/-- A message that a handler is given for a command: more may follow it. -/
def Spells (cmd : List UInt8) (msg : Message) : Prop := (∃ more, msg.raw_buf = cmd ++ more) ∧ msg.msglen = cmd.length

/-- What the registrations choose for a peripheral. -/
def chosen (diag_cmds : List (Dispatch.DiagCmd Nat)) (cmds : List (List UInt8)) (addr : Nat) : List (List UInt8) :=
  cmds.flatMap (fun cmd => List.replicate (times diag_cmds cmd addr) cmd)

theorem handle_commands_relayed {cmds : List (List UInt8)} {msgs : List Message} (spelled : List.Forall₂ Spells cmds msgs)
    (for_them : ∀ cmd ∈ cmds, ForThem router.diag_cmds router.peripherals cmd) (client : Nat)
    (memory : Nat → Handlers.Junk × Handlers.Request) :
    ∃ after, HdlcRecovery.handle_commands client memory msgs router = .ok { router with peripherals := after } ∧
      Relayed (chosen router.diag_cmds cmds) router.peripherals after := by
  induction spelled generalizing router memory with
  | nil =>
    have same := @relayed_map (fun _ => []) id Receives.refl router.peripherals
    rw [List.map_id] at same
    exact ⟨router.peripherals,rfl,same⟩
  | @cons cmd msg cmds msgs first _ ih =>
    obtain ⟨mine,others⟩ := List.forall_mem_cons.mp for_them
    obtain ⟨⟨more,text⟩,length⟩ := first
    obtain ⟨mid,handled,sent⟩ := @handle_command_relayed router cmd more mine (memory 0).1 client (memory 0).2
    have later : ∀ cmd ∈ cmds, ForThem router.diag_cmds mid cmd := by
      intro cmd member
      have known := others cmd member
      exact ⟨known.header,known.short,known.uncommon,known.registered,fun target listed => sent.addrs ▸ known.attached target listed⟩
    obtain ⟨after,ran,relayed⟩ := @ih { router with peripherals := mid } later (fun k => memory (k + 1))
    refine ⟨after,?_,sent.trans relayed⟩
    rw [HdlcRecovery.handle_commands,text,length,handled,ok_bind,ran]

end

/-! ## Reads of a client -/

/-- The commands of a read: whole frames, or a packet each. -/
def arriving (type : EncodeType) (cmds : List (List UInt8)) : Fd :=
  match type with
  | .RAW => ⟨cmds.flatten,cmds.map (fun cmd => .upto cmd.length)⟩
  | _ =>
    let stream := cmds.flatMap hdlc_encode
    ⟨stream,[.upto stream.length,.upto stream.length]⟩

/-- The commands fit the buffer they are read into. -/
def Fits (type : EncodeType) (cmds : List (List UInt8)) : Prop :=
  match type with
  | .RAW => ∀ cmd ∈ cmds, cmd.length ≤ 4096
  | _ => (cmds.flatMap hdlc_encode).length < HDLC_BUF_SIZE

/-- The client writes in this framing, and nothing is left of what it wrote. -/
structure Listening (type : EncodeType) (client : Nat) (s : HdlcRecovery.System) : Prop where
  present : ∃ dm, s.router.diag_clients[client]? = some dm ∧ dm.encode_type = type
  valid : Valid (s.readers client).recv_buf
  empty : contents (s.readers client).recv_buf = []

section
variable {s : HdlcRecovery.System} {client : Nat} {cmds : List (List UInt8)}

theorem raw_reads_spelled (fits : ∀ cmd ∈ cmds, 4 ≤ cmd.length ∧ cmd.length ≤ 4096) :
    List.Forall₂ Spells cmds (HdlcRecovery.raw_reads (cmds.map (fun cmd => .upto cmd.length)) cmds.flatten) := by
  induction cmds with
  | nil => exact .nil
  | cons cmd cmds ih =>
    obtain ⟨⟨header,short⟩,others⟩ := List.forall_mem_cons.mp fits
    have nonempty : cmd ≠ [] := List.ne_nil_of_length_pos (by omega)
    rw [List.map_cons,List.flatten_cons,HdlcRecovery.raw_reads,min_eq_left short,List.take_left,List.drop_left]
    rw [if_neg nonempty]
    exact .cons ⟨⟨[],(List.append_nil cmd).symm⟩,rfl⟩ (ih others)

theorem messages_spelled (short : ∀ cmd ∈ cmds, cmd.length ≤ HDLC_BUF_SIZE - 2) :
    List.Forall₂ Spells cmds ((cmds.map body).map message) := by
  induction cmds with
  | nil => exact .nil
  | cons cmd cmds ih =>
    obtain ⟨first,others⟩ := List.forall_mem_cons.mp short
    refine .cons ⟨⟨frame_check cmd,rfl⟩,?_⟩ (ih others)
    have length := body_length cmd
    change size_t ((body cmd).length - 2) = cmd.length
    rw [length]
    unfold size_t HDLC_BUF_SIZE at *
    omega

theorem dm_recv_encoded_hdlc {fd : Fd} {dm : NhdlcStream.DiagClient} (hdlc : dm.encode_type = .HDLC) {left : CircBuf}
    {commands : List Message} (called : DmStream.dm_recv_encoded fd dm.recv_buf = .ok (left,commands)) :
    NhdlcStream.dm_recv_encoded fd dm = .ok ({ dm with recv_buf := left },commands) := by
  have decoded {buf : CircBuf} (decodes : DmStream.dm_recv_hdlc buf = .ok (left,commands)) :
      NhdlcStream.dm_decode_data { dm with recv_buf := buf } = .ok ({ dm with recv_buf := left },commands) := by
    rw [NhdlcStream.dm_decode_data]
    dsimp only
    rw [hdlc]
    dsimp only
    rw [decodes]
    rfl
  rw [DmStream.dm_recv_encoded] at called
  rw [NhdlcStream.dm_recv_encoded]
  revert called
  cases (circ_read fd dm.recv_buf).errno with
  | some errno =>
    intro called
    dsimp only at called ⊢
    split_ifs at called with other
    · cases called
      rw [if_pos other]
    · rw [if_neg other]
      exact decoded called
  | none =>
    intro called
    exact decoded called

/-- One call of `dm_recv` hands over the commands that it reads. -/
theorem dm_recv_relayed {type : EncodeType} (known : type ≠ .NHDLC) (listening : Listening type client s) (fits : Fits type cmds)
    (for_them : ∀ cmd ∈ cmds, ForThem s.router.diag_cmds s.router.peripherals cmd)
    (memory : Nat → Handlers.Junk × Handlers.Request) :
    ∃ t after, HdlcRecovery.dm_recv memory client (arriving type cmds) s = .ok t ∧ Listening type client t ∧
      t.router = { s.router with peripherals := after } ∧ Relayed (chosen s.router.diag_cmds cmds) s.router.peripherals after := by
  obtain ⟨⟨dm,present,same⟩,valid,empty⟩ := listening
  subst same
  cases type : dm.encode_type with
  | RAW =>
    rw [type] at fits
    have spelled := @raw_reads_spelled cmds (fun cmd member => ⟨(for_them cmd member).header,fits cmd member⟩)
    obtain ⟨after,handled,relayed⟩ := handle_commands_relayed spelled for_them client memory
    refine ⟨{ s with router := { s.router with peripherals := after } },after,?_,⟨⟨dm,present,type⟩,valid,empty⟩,rfl,relayed⟩
    simp only [HdlcRecovery.dm_recv,present,type,if_true,arriving,HdlcRecovery.handled,handled]
    rfl
  | HDLC =>
    rw [type] at fits
    have short : ∀ cmd ∈ cmds, cmd.length ≤ HDLC_BUF_SIZE - 2 := fun cmd member => (for_them cmd member).short
    have room : (frames 0x7e 0x7d toggle (cmds.map body) ++ []).length ≤ CIRC_SPACE (s.readers client).recv_buf := by
      rw [circ_space_eq valid,empty,List.append_nil,← hdlc_encode_frames]
      have inside : (cmds.flatMap hdlc_encode).length < HDLC_BUF_SIZE := fits
      rw [List.length_nil]
      omega
    obtain ⟨buf,called,still,drained⟩ := DmStream.dm_recv_chunk_frames valid empty cmds List.not_mem_nil room
    rw [List.append_nil,← hdlc_encode_frames] at called
    have encoded : NhdlcStream.dm_recv_encoded (arriving .HDLC cmds) (HdlcRecovery.called_on s client dm) =
        .ok ({ HdlcRecovery.called_on s client dm with recv_buf := buf },(cmds.map body).map message) := by
      exact dm_recv_encoded_hdlc type called
    let left := HdlcRecovery.left_by s client { HdlcRecovery.called_on s client dm with recv_buf := buf }
    have clients : left.router = s.router := by
      have same : s.router.diag_clients.modify client (fun old => { old with encode_type := dm.encode_type }) =
          s.router.diag_clients := by
        obtain ⟨inside,cell⟩ := List.getElem?_eq_some_iff.mp present
        rw [List.modify_eq_set_getElem?,present]
        change s.router.diag_clients.set client dm = _
        rw [← cell,List.set_getElem_self]
      change ({ s.router with
        diag_clients := s.router.diag_clients.modify client (fun old => { old with encode_type := dm.encode_type }) } :
          Handlers.Router) = s.router
      rw [same]
    have spelled := messages_spelled short
    obtain ⟨after,handled,relayed⟩ := handle_commands_relayed spelled for_them client memory
    refine ⟨{ left with router := { s.router with peripherals := after } },after,?_,⟨⟨dm,present,type⟩,?_,?_⟩,rfl,relayed⟩
    · have other : ¬ EncodeType.HDLC = .RAW := by decide
      rw [HdlcRecovery.dm_recv,present]
      dsimp only
      rw [type,if_neg other,encoded,ok_bind]
      change HdlcRecovery.handled client memory left _ = _
      rw [HdlcRecovery.handled,clients,handled]
      rfl
    · change Valid (Function.update s.readers client _ client).recv_buf
      rw [Function.update_self]
      exact still
    · change contents (Function.update s.readers client _ client).recv_buf = []
      rw [Function.update_self]
      exact drained
  | NHDLC => exact absurd type known

/-- The reads of a client, each with what memory holds while it is handled. -/
def client_reads (type : EncodeType) (client : Nat) (s : HdlcRecovery.System)
    (batch : (Nat → Handlers.Junk × Handlers.Request) × List (List UInt8)) : Except Fault HdlcRecovery.System :=
  HdlcRecovery.dm_recv batch.1 client (arriving type batch.2) s

theorem client_reads_relayed {type : EncodeType} (known : type ≠ .NHDLC) (listening : Listening type client s)
    {batches : List ((Nat → Handlers.Junk × Handlers.Request) × List (List UInt8))}
    (batched : ∀ batch ∈ batches, Fits type batch.2 ∧ ∀ cmd ∈ batch.2, ForThem s.router.diag_cmds s.router.peripherals cmd) :
    ∃ t after, exec (client_reads type client) s batches = .ok t ∧ t.router = { s.router with peripherals := after } ∧
      Relayed (chosen s.router.diag_cmds (batches.flatMap Prod.snd)) s.router.peripherals after := by
  induction batches generalizing s with
  | nil =>
    have same := @relayed_map (fun _ => []) id Receives.refl s.router.peripherals
    rw [List.map_id] at same
    exact ⟨s,s.router.peripherals,rfl,rfl,same⟩
  | cons batch batches ih =>
    obtain ⟨⟨fits,for_them⟩,others⟩ := List.forall_mem_cons.mp batched
    obtain ⟨mid,between,read,still,router,first⟩ := dm_recv_relayed known listening fits for_them batch.1
    have later : ∀ batch ∈ batches, Fits type batch.2 ∧
        ∀ cmd ∈ batch.2, ForThem mid.router.diag_cmds mid.router.peripherals cmd := by
      intro batch member
      obtain ⟨room,for_these⟩ := others batch member
      refine ⟨room,fun cmd listed => ?_⟩
      have known := for_these cmd listed
      rw [router]
      exact ⟨known.header,known.short,known.uncommon,known.registered,fun target named => first.addrs ▸ known.attached target named⟩
    obtain ⟨t,after,ran,last,second⟩ := ih still later
    rw [router] at second last
    refine ⟨t,after,by rw [exec_cons,client_reads,read,ok_bind,ran],last,?_⟩
    have both := first.trans second
    rw [List.flatMap_cons]
    refine both.imp fun p q receives => ?_
    unfold chosen at receives ⊢
    rw [List.flatMap_append]
    exact receives

end

/-- A client of HDLC, and a modem with a range of the commands of one subsystem. -/
def one_modem : HdlcRecovery.System :=
  ⟨⟨Masks.diag_masks_init,[⟨0x4b050000,0x4b0500ff,7⟩],[],[⟨7,0x40,-1,[],[],[],.qrtr_perif_send⟩],[⟨.HDLC,true,[]⟩]⟩,
    fun _ => ⟨false,⟨fun _ => 0,0,0⟩⟩,0,[]⟩

end DiagRouter.Relay

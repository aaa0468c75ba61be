import DiagRouter.Endpoints
import Mathlib.Data.List.Nodup

/-!
# Asynchronous I/O bookkeeping

A watch remembers by `pending_aio` that the kernel has an operation of its own,
and a completion is told to the watches by descriptor. This holds together as
long as no watch goes while its operation is in flight, no two watches of one
descriptor see a completion, and no operation ends in `-EAGAIN`.
-/
namespace DiagRouter.AioBookkeeping
open DiagRouter.Lib.Memory DiagRouter.Lib.Runs DiagRouter.Watch DiagRouter.Endpoints

/-- How many operations of the watch `id` are among those given. -/
def own (in_flight : List Iocb) (id : Nat) : Nat := in_flight.countP (fun iocb => iocb.watch = id)

/-- `pending_aio` is set for the watches of which one operation is in flight,
    every operation in flight is a registered watch's, and every completion so
    far was the completed watch's own. -/
structure Tracked (s : Watches) : Prop where
  pending : ∀ w ∈ s.aio_watches, w.pending_aio.isSome ↔ own s.in_flight w.id = 1
  registered : ∀ iocb ∈ s.in_flight, ∃ w ∈ s.aio_watches, w.id = iocb.watch
  own_events : ∀ c ∈ s.completed, c.1 = c.2

/-- Addresses tell watches apart, and an operation has the descriptor of the
    watch that submitted it. -/
structure Addressed (s : Watches) : Prop where
  distinct : (s.aio_watches.map AioWatch.id).Nodup
  watch_below : ∀ w ∈ s.aio_watches, w.id < s.next
  iocb_below : ∀ iocb ∈ s.in_flight, iocb.watch < s.next
  fildes : ∀ iocb ∈ s.in_flight, ∀ w ∈ s.aio_watches, w.id = iocb.watch → w.fd = iocb.aio_fildes
  single : ∀ w ∈ s.aio_watches, own s.in_flight w.id ≤ 1

theorem own_append (xs ys : List Iocb) (id : Nat) : own (xs ++ ys) id = own xs id + own ys id := List.countP_append

theorem own_pos {xs : List Iocb} {iocb : Iocb} (member : iocb ∈ xs) : 0 < own xs iocb.watch :=
  List.countP_pos_iff.mpr ⟨iocb,member,by simp⟩

theorem own_eq_zero {xs : List Iocb} {id : Nat} (others : ∀ iocb ∈ xs, iocb.watch ≠ id) : own xs id = 0 := by
  rw [own,List.countP_eq_zero]
  simpa using others

/-- A watch without a pending buffer has nothing in flight. -/
theorem Tracked.idle {s : Watches} (tracked : Tracked s) (addressed : Addressed s) {w : AioWatch}
    (member : w ∈ s.aio_watches) (idle : w.pending_aio = none) : own s.in_flight w.id = 0 := by
  have busy := tracked.pending w member
  have most := addressed.single w member
  simp only [idle,Option.isSome_none,Bool.false_eq_true,false_iff] at busy
  omega

theorem Tracked.busy {s : Watches} (tracked : Tracked s) (addressed : Addressed s) {w : AioWatch}
    (member : w ∈ s.aio_watches) {iocb : Iocb} (flying : iocb ∈ s.in_flight) (same : iocb.watch = w.id) :
    w.pending_aio.isSome ∧ own s.in_flight w.id = 1 := by
  have most := addressed.single w member
  have least := own_pos flying
  rw [same] at least
  have one : own s.in_flight w.id = 1 := by omega
  exact ⟨(tracked.pending w member).mpr one,one⟩

/-! ## Changes of the list of watches -/

/-- What a handler does to the asynchronous watches: nothing, one more, or all
    those of a descriptor gone. -/
inductive Change (s t : Watches) : Option Int → Prop
  | same (same : SameAio s t) : Change s t none
  | added (w : AioWatch) (fresh : w.id = s.next) (idle : w.pending_aio = none)
      (added : t.aio_watches = s.aio_watches ++ [w]) (next : t.next = s.next + 1)
      (in_flight : t.in_flight = s.in_flight) (completed : t.completed = s.completed) : Change s t none
  | removed (fd : Int) (left : t.aio_watches = s.aio_watches.filter (fun w => w.fd ≠ fd)) (next : t.next = s.next)
      (in_flight : t.in_flight = s.in_flight) (completed : t.completed = s.completed) : Change s t (some fd)

theorem Change.before {s t u : Watches} {gone : Option Int} (same : SameAio s t) (change : Change t u gone) :
    Change s u gone := by
  cases change with
  | same further => exact .same (same.trans further)
  | added w fresh idle added next in_flight completed =>
    exact .added w (fresh.trans same.next) idle (same.aio_watches ▸ added) (same.next ▸ next)
      (in_flight.trans same.in_flight) (completed.trans same.completed)
  | removed fd left next in_flight completed =>
    exact .removed fd (same.aio_watches ▸ left) (next.trans same.next) (in_flight.trans same.in_flight)
      (completed.trans same.completed)

theorem Change.after {s t u : Watches} {gone : Option Int} (change : Change s t gone) (same : SameAio t u) :
    Change s u gone := by
  cases change with
  | same further => exact .same (further.trans same)
  | added w fresh idle added next in_flight completed =>
    exact .added w fresh idle (same.aio_watches.trans added) (same.next.trans next) (same.in_flight.trans in_flight)
      (same.completed.trans completed)
  | removed fd left next in_flight completed =>
    exact .removed fd (same.aio_watches.trans left) (same.next.trans next) (same.in_flight.trans in_flight)
      (same.completed.trans completed)

/-- Nothing is wrong with fewer watches and fewer operations. -/
theorem Addressed.shrink {s t : Watches} (addressed : Addressed s) (distinct : (t.aio_watches.map AioWatch.id).Nodup)
    (watches : ∀ w ∈ t.aio_watches, ∃ v ∈ s.aio_watches, v.id = w.id ∧ v.fd = w.fd) (next : t.next = s.next)
    (flying : t.in_flight ⊆ s.in_flight) (fewer : ∀ id, own t.in_flight id ≤ own s.in_flight id) : Addressed t where
  distinct := distinct
  watch_below w member := by
    obtain ⟨v,known,id,_⟩ := watches w member
    rw [next,← id]
    exact addressed.watch_below v known
  iocb_below iocb member := next ▸ addressed.iocb_below iocb (flying member)
  fildes iocb member w listed same := by
    obtain ⟨v,known,id,fd⟩ := watches w listed
    rw [← fd]
    exact addressed.fildes iocb (flying member) v known (id.trans same)
  single w member := by
    obtain ⟨v,known,id,_⟩ := watches w member
    rw [← id]
    exact (fewer v.id).trans (addressed.single v known)

theorem Change.addressed {s t : Watches} {gone : Option Int} (change : Change s t gone) (addressed : Addressed s) :
    Addressed t := by
  cases change with
  | same same =>
    refine addressed.shrink (same.aio_watches ▸ addressed.distinct) ?_ same.next (same.in_flight ▸ List.Subset.refl _) ?_
    · rw [same.aio_watches]
      exact fun w member => ⟨w,member,rfl,rfl⟩
    · rw [same.in_flight]
      exact fun _ => Nat.le_refl _
  | removed fd left next in_flight completed =>
    refine addressed.shrink ?_ ?_ next (in_flight ▸ List.Subset.refl _) ?_
    · rw [left]
      exact addressed.distinct.sublist (List.filter_sublist.map _)
    · rw [left]
      exact fun w member => ⟨w,List.mem_of_mem_filter member,rfl,rfl⟩
    · rw [in_flight]
      exact fun _ => Nat.le_refl _
  | added w fresh idle added next in_flight completed =>
    have unused : ∀ iocb ∈ s.in_flight, iocb.watch ≠ w.id := by
      intro iocb member same
      have below := addressed.iocb_below iocb member
      omega
    constructor
    · rw [added,List.map_append,List.map_singleton]
      refine List.Nodup.append addressed.distinct (List.nodup_singleton _) ?_
      intro id old new
      obtain ⟨v,member,rfl⟩ := List.mem_map.mp old
      have below := addressed.watch_below v member
      have same := List.mem_singleton.mp new
      omega
    · rw [added,next]
      intro v member
      rcases List.mem_append.mp member with old | new
      · exact Nat.lt_succ_of_lt (addressed.watch_below v old)
      · rw [List.mem_singleton.mp new]
        omega
    · rw [in_flight,next]
      exact fun iocb member => Nat.lt_succ_of_lt (addressed.iocb_below iocb member)
    · rw [in_flight,added]
      intro iocb member v listed same
      rcases List.mem_append.mp listed with old | new
      · exact addressed.fildes iocb member v old same
      · rw [List.mem_singleton.mp new] at same
        exact absurd same.symm (unused iocb member)
    · rw [in_flight,added]
      intro v listed
      rcases List.mem_append.mp listed with old | new
      · exact addressed.single v old
      · rw [List.mem_singleton.mp new,own_eq_zero unused]
        exact Nat.zero_le 1

/-- Adding a watch does no harm, and removing those of a descriptor does none
    exactly when none of them has an operation in flight. -/
theorem Change.tracked_iff {s t : Watches} {gone : Option Int} (change : Change s t gone) (addressed : Addressed s)
    (tracked : Tracked s) : Tracked t ↔ ∀ fd ∈ gone, ∀ w ∈ s.aio_watches, w.fd = fd → w.pending_aio = none := by
  cases change with
  | same same =>
    refine ⟨fun _ => by simp,fun _ => ⟨?_,?_,?_⟩⟩
    · rw [same.aio_watches,same.in_flight]
      exact tracked.pending
    · rw [same.aio_watches,same.in_flight]
      exact tracked.registered
    · rw [same.completed]
      exact tracked.own_events
  | added w fresh idle added next in_flight completed =>
    refine ⟨fun _ => by simp,fun _ => ⟨?_,?_,?_⟩⟩
    · rw [added,in_flight]
      intro v listed
      rcases List.mem_append.mp listed with old | new
      · exact tracked.pending v old
      · have unused : own s.in_flight w.id = 0 := by
          refine own_eq_zero ?_
          intro iocb member same
          have below := addressed.iocb_below iocb member
          omega
        rw [List.mem_singleton.mp new,idle,unused]
        simp
    · rw [added,in_flight]
      intro iocb member
      obtain ⟨v,listed,same⟩ := tracked.registered iocb member
      exact ⟨v,List.mem_append_left _ listed,same⟩
    · rw [completed]
      exact tracked.own_events
  | removed fd left next in_flight completed =>
    simp only [Option.mem_some_iff,forall_eq']
    constructor
    · intro after w member same
      by_contra busy
      have one := (tracked.pending w member).mp (Option.isSome_iff_ne_none.mpr busy)
      obtain ⟨iocb,flying,mine⟩ := List.countP_pos_iff.mp (Nat.lt_of_lt_of_eq Nat.one_pos one.symm)
      obtain ⟨v,kept,id⟩ := after.registered iocb (in_flight ▸ flying)
      rw [left,List.mem_filter] at kept
      have v_is_w : v = w :=
        List.inj_on_of_nodup_map addressed.distinct kept.1 member (id.trans (of_decide_eq_true mine))
      simp [v_is_w,same] at kept
    · intro idle
      constructor
      · rw [left,in_flight]
        exact fun w member => tracked.pending w (List.mem_of_mem_filter member)
      · rw [left,in_flight]
        intro iocb flying
        obtain ⟨w,member,id⟩ := tracked.registered iocb flying
        refine ⟨w,List.mem_filter.mpr ⟨member,?_⟩,id⟩
        rw [decide_eq_true_eq]
        intro same
        have busy := (tracked.busy addressed member flying id.symm).1
        simp [idle w member same] at busy
      · rw [completed]
        exact tracked.own_events

/-! ## Submitting -/

theorem mem_set_pending {watches : List AioWatch} (distinct : (watches.map AioWatch.id).Nodup) {i : Nat} {w v : AioWatch}
    (found : watches[i]? = some w) {pending : Option Mbuf} (member : v ∈ watches.set i { w with pending_aio := pending }) :
    v = { w with pending_aio := pending } ∨ v ∈ watches ∧ v.id ≠ w.id := by
  obtain ⟨j,at_j⟩ := List.mem_iff_getElem?.mp member
  rw [List.getElem?_set] at at_j
  split_ifs at at_j with same inside
  · exact .inl (Option.some.inj at_j).symm
  · refine .inr ⟨List.mem_of_getElem? at_j,?_⟩
    intro id
    have inside : i < (watches.map AioWatch.id).length := by simpa using (List.getElem?_eq_some_iff.mp found).1
    exact same ((List.getElem?_inj inside distinct).mp (by simp [found,at_j,id]))

theorem own_concat (xs : List Iocb) (iocb : Iocb) (id : Nat) :
    own (xs ++ [iocb]) id = own xs id + if iocb.watch = id then 1 else 0 := by
  simp [own,List.countP_append,List.countP_singleton]

/-- A watch with nothing in flight submits. -/
theorem submitted_addressed {s : Watches} (addressed : Addressed s) {i : Nat} {w : AioWatch}
    (found : s.aio_watches[i]? = some w) (unused : own s.in_flight w.id = 0) (queues : Queue → List Mbuf) (mbuf : Mbuf)
    {iocb : Iocb} (mine : iocb.watch = w.id) (fildes : iocb.aio_fildes = w.fd) :
    Addressed { s with
      queues := queues
      aio_watches := s.aio_watches.set i { w with pending_aio := some mbuf }
      in_flight := s.in_flight ++ [iocb] } := by
  have member := List.mem_of_getElem? found
  have cases {v : AioWatch} (listed : v ∈ s.aio_watches.set i { w with pending_aio := some mbuf }) :=
    mem_set_pending addressed.distinct found listed
  have ids := map_set_pending AioWatch.id found (some mbuf) rfl
  refine ⟨?_,?_,?_,?_,?_⟩
  · rw [ids]
    exact addressed.distinct
  · intro v listed
    rcases cases listed with rfl | ⟨old,_⟩
    · exact addressed.watch_below w member
    · exact addressed.watch_below v old
  · intro other flying
    rcases List.mem_append.mp flying with old | new
    · exact addressed.iocb_below other old
    · rw [List.mem_singleton.mp new,mine]
      exact addressed.watch_below w member
  · intro other flying v listed same
    rcases List.mem_append.mp flying with old | new
    · rcases cases listed with rfl | ⟨known,_⟩
      · exact addressed.fildes other old w member same
      · exact addressed.fildes other old v known same
    · rw [List.mem_singleton.mp new] at same ⊢
      rcases cases listed with rfl | ⟨_,different⟩
      · exact fildes.symm
      · exact absurd (same.trans mine) different
  · intro v listed
    rw [own_concat,mine]
    rcases cases listed with rfl | ⟨old,different⟩
    · simp [unused]
    · simpa [Ne.symm different] using addressed.single v old

theorem submitted_tracked {s : Watches} (addressed : Addressed s) (tracked : Tracked s) {i : Nat} {w : AioWatch}
    (found : s.aio_watches[i]? = some w) (unused : own s.in_flight w.id = 0) (queues : Queue → List Mbuf) (mbuf : Mbuf)
    {iocb : Iocb} (mine : iocb.watch = w.id) :
    Tracked { s with
      queues := queues
      aio_watches := s.aio_watches.set i { w with pending_aio := some mbuf }
      in_flight := s.in_flight ++ [iocb] } := by
  refine ⟨?_,?_,tracked.own_events⟩
  · intro v listed
    rw [own_concat,mine]
    rcases mem_set_pending addressed.distinct found listed with rfl | ⟨old,different⟩
    · simp [unused]
    · simpa [Ne.symm different] using tracked.pending v old
  · intro other flying
    have known : ∃ id ∈ s.aio_watches.map AioWatch.id, id = other.watch := by
      rcases List.mem_append.mp flying with old | new
      · obtain ⟨v,listed,id⟩ := tracked.registered other old
        exact ⟨v.id,List.mem_map_of_mem listed,id⟩
      · exact ⟨w.id,List.mem_map_of_mem (List.mem_of_getElem? found),by rw [List.mem_singleton.mp new,mine]⟩
    rw [← map_set_pending AioWatch.id found (some mbuf) rfl] at known
    obtain ⟨_,listed,same⟩ := known
    obtain ⟨v,there,rfl⟩ := List.mem_map.mp listed
    exact ⟨v,there,same⟩

theorem submit_visit_tracked {s : Watches} (addressed : Addressed s) (tracked : Tracked s) (accepted : Nat → Bool)
    (i : Nat) : ∃ t, submit_visit accepted s i = .ok t ∧ Addressed t ∧ Tracked t := by
  rcases submit_visit_cases accepted s i with same | ⟨w,mbuf,rest,opcode,found,idle,_,visited⟩
  · exact ⟨s,same,addressed,tracked⟩
  · have unused := tracked.idle addressed (List.mem_of_getElem? found) idle
    exact ⟨_,visited,submitted_addressed addressed found unused _ mbuf rfl rfl,
      submitted_tracked addressed tracked found unused _ mbuf rfl⟩

/-- A pass never meets a watch with a pending buffer, whatever the kernel takes. -/
theorem submit_pass_tracked {s : Watches} (addressed : Addressed s) (tracked : Tracked s) (accepted : Nat → Bool) :
    ∃ t, submit_pass accepted s = .ok t ∧ Addressed t ∧ Tracked t :=
  @exec_range _ _ _ (fun _ t => Addressed t ∧ Tracked t) s _ ⟨addressed,tracked⟩
    (fun _ good => submit_visit_tracked good.1 good.2 accepted _)

/-! ## Completing -/

/-- No event reports `-EAGAIN`, and the only watch of an event's descriptor is
    the one that submitted the operation. -/
def Matched (s : Watches) (events : List IoEvent) : Prop :=
  ∀ event ∈ events, event.res ≠ -EAGAIN ∧ ∀ w ∈ s.aio_watches, w.fd = event.obj.aio_fildes → w.id = event.obj.watch

/-- A pass of one watch over events that match: it is completed if it has one
    among them. -/
theorem handle_events_matched {events : List IoEvent} {s : Watches} {i : Nat} {w : AioWatch}
    (found : s.aio_watches[i]? = some w) (listed : ∀ event ∈ events, event.obj.watch ∈ s.aio_watches.map AioWatch.id)
    (matched : ∀ event ∈ events, event.res ≠ -EAGAIN ∧ (event.obj.aio_fildes = w.fd ↔ event.obj.watch = w.id)) {n : Nat}
    (count : own (events.map IoEvent.obj) w.id + n = if w.pending_aio.isSome then 1 else 0) :
    ∃ pending t, exec (handle_event i) s events = .ok t ∧
      t.aio_watches = s.aio_watches.set i { w with pending_aio := pending } ∧
      (∀ c ∈ t.completed, c ∈ s.completed ∨ c.1 = c.2) ∧ n = if pending.isSome then 1 else 0 := by
  induction events generalizing s w with
  | nil =>
    obtain ⟨inside,rfl⟩ := List.getElem?_eq_some_iff.mp found
    exact ⟨_,s,rfl,(List.set_getElem_self inside).symm,fun c old => .inl old,by simpa [own] using count⟩
  | cons event events ih =>
    obtain ⟨known,listed⟩ := List.forall_mem_cons.mp listed
    obtain ⟨⟨final,same_fd⟩,matched⟩ := List.forall_mem_cons.mp matched
    rw [List.map_cons,own,List.countP_cons,← own] at count
    by_cases mine : event.obj.watch = w.id
    · have busy : w.pending_aio.isSome := by
        by_contra idle
        simp [mine,idle] at count
      obtain ⟨mbuf,pending⟩ := Option.isSome_iff_exists.mp busy
      have first : handle_event i s event = .ok { aio_complete s w mbuf event with
          aio_watches := s.aio_watches.set i { w with pending_aio := none }
          completed := s.completed ++ [(w.id,event.obj.watch)] } := by
        simp [handle_event,found,known,same_fd.mpr mine,pending,final]
      have inside := (List.getElem?_eq_some_iff.mp found).1
      obtain ⟨left,t,rest,watches,completed,settled⟩ :=
        @ih { aio_complete s w mbuf event with
          aio_watches := s.aio_watches.set i { w with pending_aio := none }
          completed := s.completed ++ [(w.id,event.obj.watch)] } { w with pending_aio := none }
          (List.getElem?_set_self inside) (by rw [map_set_pending AioWatch.id found none rfl]; exact listed) matched
          (by simp [mine,busy] at count; simp; omega)
      refine ⟨left,t,?_,?_,?_,settled⟩
      · rw [exec_cons,first,ok_bind]
        exact rest
      · rw [watches,List.set_set]
      · intro c member
        rcases completed c member with earlier | own
        · rcases List.mem_append.mp earlier with old | new
          · exact .inl old
          · rw [List.mem_singleton.mp new]
            exact .inr mine.symm
        · exact .inr own
    · have first : handle_event i s event = .ok s := by
        simp [handle_event,found,known,mt same_fd.mp mine]
      rw [exec_cons,first,ok_bind]
      exact ih found listed matched (by simpa [mine] using count)

/-- A pass over events changes no watch but for its `pending_aio`. -/
structure Kept (s : Watches) (left : List Iocb) (t : Watches) : Prop where
  names : t.aio_watches.map (fun w => (w.id,w.fd)) = s.aio_watches.map (fun w => (w.id,w.fd))
  in_flight : t.in_flight = left
  next : t.next = s.next

section
variable {s t u : Watches} {left : List Iocb}

theorem Kept.ids (kept : Kept s left t) : t.aio_watches.map AioWatch.id = s.aio_watches.map AioWatch.id := by
  have ids := congrArg (List.map Prod.fst) kept.names
  rw [List.map_map,List.map_map] at ids
  exact ids

theorem Kept.length (kept : Kept s left t) : t.aio_watches.length = s.aio_watches.length := by
  have lengths := congrArg List.length kept.names
  simpa using lengths

theorem Kept.known (kept : Kept s left t) {w : AioWatch} (member : w ∈ t.aio_watches) :
    ∃ v ∈ s.aio_watches, v.id = w.id ∧ v.fd = w.fd := by
  have named := List.mem_map_of_mem (f := fun w => (w.id,w.fd)) member
  rw [kept.names] at named
  obtain ⟨v,old,same⟩ := List.mem_map.mp named
  exact ⟨v,old,congrArg Prod.fst same,congrArg Prod.snd same⟩

/-- The watch is still in its place. -/
theorem Kept.found (kept : Kept s left t) {i : Nat} {w : AioWatch} (found : s.aio_watches[i]? = some w) :
    ∃ v, t.aio_watches[i]? = some v ∧ v.id = w.id ∧ v.fd = w.fd := by
  have named := congrArg (fun names => names[i]?) kept.names
  simp only [List.getElem?_map,found,Option.map_some,Option.map_eq_some_iff] at named
  obtain ⟨v,there,same⟩ := named
  exact ⟨v,there,congrArg Prod.fst same,congrArg Prod.snd same⟩

theorem Kept.event (kept : Kept s left t) {i : Nat} {event : IoEvent} (handled : handle_event i t event = .ok u) :
    Kept s left u := by
  rcases handle_event_ok handled with ⟨rfl,_⟩ | ⟨w,mbuf,found,_,_,_,rfl⟩
  · exact kept
  · have same := aio_complete_same t w mbuf event
    exact ⟨(map_set_pending (fun w => (w.id,w.fd)) found none rfl).trans kept.names,same.in_flight.trans kept.in_flight,
      same.next.trans kept.next⟩

theorem Kept.events (kept : Kept s left t) {events : List IoEvent} {i : Nat} (handled : handle_events events t i = .ok u) :
    Kept s left u :=
  exec_invariant (fun kept handled => Kept.event kept handled) kept handled

theorem Kept.addressed (kept : Kept s left t) (addressed : Addressed s) (inside : left ⊆ s.in_flight)
    (fewer : ∀ id, own left id ≤ own s.in_flight id) : Addressed t :=
  addressed.shrink (kept.ids ▸ addressed.distinct) (fun _ member => kept.known member) kept.next
    (kept.in_flight ▸ inside) (kept.in_flight ▸ fewer)

end

/-- `s` with all its events handled, as far as the watches below `k` go. -/
structure Midway (s : Watches) (events : List IoEvent) (left : List Iocb) (k : Nat) (t : Watches) : Prop where
  kept : Kept s left t
  own_events : ∀ c ∈ t.completed, c.1 = c.2
  settled : ∀ i w, t.aio_watches[i]? = some w →
    (if i < k then 0 else own (events.map IoEvent.obj) w.id) + own left w.id = if w.pending_aio.isSome then 1 else 0

/-- The next watch's turn. -/
theorem Midway.turn {s t : Watches} {events : List IoEvent} {left : List Iocb} {k : Nat} (addressed : Addressed s)
    (tracked : Tracked s) (flying : ∀ event ∈ events, event.obj ∈ s.in_flight) (matched : Matched s events)
    (below : k < s.aio_watches.length) (midway : Midway s events left k t) :
    ∃ u, handle_events events t k = .ok u ∧ Midway s events left (k + 1) u := by
  have at_k := List.getElem?_eq_getElem below
  have member := List.mem_of_getElem? at_k
  obtain ⟨w,found,id,fd⟩ := midway.kept.found at_k
  have listed : ∀ event ∈ events, event.obj.watch ∈ t.aio_watches.map AioWatch.id := by
    intro event among
    obtain ⟨submitter,there,same⟩ := tracked.registered _ (flying event among)
    rw [midway.kept.ids]
    exact same ▸ List.mem_map_of_mem there
  have each : ∀ event ∈ events, event.res ≠ -EAGAIN ∧ (event.obj.aio_fildes = w.fd ↔ event.obj.watch = w.id) := by
    intro event among
    refine ⟨(matched event among).1,?_,?_⟩
    · intro same
      rw [id]
      exact ((matched event among).2 _ member (fd.symm.trans same.symm)).symm
    · intro same
      rw [fd]
      exact (addressed.fildes _ (flying event among) _ member (id.symm.trans same.symm)).symm
  have count := midway.settled k w found
  rw [if_neg (Nat.lt_irrefl k)] at count
  obtain ⟨pending,u,handled,watches,completed,settled⟩ := handle_events_matched found listed each count
  refine ⟨u,handled,midway.kept.events handled,?_,?_⟩
  · intro c member
    exact (completed c member).elim (midway.own_events c) (fun own => own)
  · intro i x at_i
    rw [watches,List.getElem?_set] at at_i
    split_ifs at at_i with here inside
    · rw [← Option.some.inj at_i,if_pos (by omega),Nat.zero_add]
      exact settled
    · have before := midway.settled i x at_i
      by_cases early : i < k
      · rw [if_pos early] at before
        rw [if_pos (by omega)]
        exact before
      · rw [if_neg early] at before
        rw [if_neg (by omega)]
        exact before

/-- Events that match leave the books in order. -/
theorem watch_handle_eventfd_tracked {s : Watches} (addressed : Addressed s) (tracked : Tracked s) (replies : List Reply)
    (matched : Matched s (io_getevents s.in_flight (replies.take 32)).1) :
    ∃ t, watch_handle_eventfd s replies = .ok t ∧ Tracked t := by
  have perm := io_getevents_perm s.in_flight (replies.take 32)
  rw [watch_handle_eventfd]
  generalize io_getevents s.in_flight (replies.take 32) = answer at perm matched
  obtain ⟨events,left⟩ := answer
  dsimp only at perm matched ⊢
  have flying : ∀ event ∈ events, event.obj ∈ s.in_flight := fun event among =>
    perm.subset (List.mem_append_left _ (List.mem_map_of_mem among))
  have counts (id : Nat) : own (events.map IoEvent.obj) id + own left id = own s.in_flight id := by
    rw [← own_append]
    exact perm.countP_eq _
  have start : Midway s events left 0 { s with in_flight := left } := by
    refine ⟨⟨rfl,rfl,rfl⟩,tracked.own_events,?_⟩
    intro i w found
    have member := List.mem_of_getElem? found
    rw [if_neg (Nat.not_lt_zero i),counts]
    split_ifs with busy
    · exact (tracked.pending w member).mp busy
    · exact tracked.idle addressed member (by simpa using busy)
  obtain ⟨t,handled,done⟩ := exec_range s.aio_watches.length start (fun below midway =>
    midway.turn addressed tracked flying matched below)
  refine ⟨t,handled,?_,?_,done.own_events⟩
  · intro w member
    obtain ⟨i,found⟩ := List.mem_iff_getElem?.mp member
    have settled := done.settled i w found
    rw [if_pos (done.kept.length ▸ (List.getElem?_eq_some_iff.mp found).1),Nat.zero_add] at settled
    rw [done.kept.in_flight,settled]
    split_ifs with busy <;> simp [busy]
  · intro iocb there
    rw [done.kept.in_flight] at there
    obtain ⟨v,old,same⟩ := tracked.registered iocb (perm.subset (List.mem_append_right _ there))
    have listed : v.id ∈ t.aio_watches.map AioWatch.id := by
      rw [done.kept.ids]
      exact List.mem_map_of_mem old
    obtain ⟨w,member,id⟩ := List.mem_map.mp listed
    exact ⟨w,member,id.trans same⟩

/-! ## Events that do not match -/

theorem handle_event_grows {i : Nat} {s t : Watches} {event : IoEvent} {c : Nat × Nat} (recorded : c ∈ s.completed)
    (handled : handle_event i s event = .ok t) : c ∈ t.completed := by
  rcases handle_event_ok handled with ⟨rfl,_⟩ | ⟨w,mbuf,_,_,_,_,rfl⟩
  · exact recorded
  · exact List.mem_append_left _ recorded

theorem handle_events_grows {i : Nat} {s t : Watches} {events : List IoEvent} {c : Nat × Nat} (recorded : c ∈ s.completed)
    (handled : handle_events events s i = .ok t) : c ∈ t.completed :=
  exec_invariant (fun recorded handled => handle_event_grows recorded handled) recorded handled

/-- A watch is completed by every event of its descriptor, `-EAGAIN` apart. -/
theorem pass_records {events : List IoEvent} {s t : Watches} {is : List Nat}
    (handled : exec (handle_events events) s is = .ok t) {i : Nat} (among : i ∈ is) {w : AioWatch}
    (found : s.aio_watches[i]? = some w) {event : IoEvent} (member : event ∈ events)
    (same : event.obj.aio_fildes = w.fd) (final : event.res ≠ -EAGAIN) : (w.id,event.obj.watch) ∈ t.completed := by
  obtain ⟨u,v,rest,kept,turn,after⟩ := exec_mem (fun kept handled => Kept.events kept handled)
    (⟨rfl,rfl,rfl⟩ : Kept s s.in_flight s) handled among
  obtain ⟨x,y,others,still,first,remaining⟩ := exec_mem (fun kept handled => Kept.event kept handled) kept turn member
  obtain ⟨w',there,id,fd⟩ := still.found found
  have recorded : (w.id,event.obj.watch) ∈ y.completed := by
    rcases handle_event_ok first with ⟨_,again⟩ | ⟨z,mbuf,here,_,_,_,rfl⟩
    · exact absurd (again w' there (same.trans fd.symm)) final
    · have z_is : z = w' := Option.some.inj (here.symm.trans there)
      rw [z_is,id]
      exact List.mem_append_right _ List.mem_cons_self
  exact exec_invariant (fun recorded handled => handle_events_grows recorded handled)
    (handle_events_grows recorded remaining) after

/-- A watch all of whose events are `-EAGAIN` stays as it is. -/
theorem pass_spares {events : List IoEvent} {s t : Watches} {is : List Nat}
    (handled : exec (handle_events events) s is = .ok t) {i : Nat} {w : AioWatch} (found : s.aio_watches[i]? = some w)
    (again : ∀ event ∈ events, event.obj.aio_fildes = w.fd → event.res = -EAGAIN) : t.aio_watches[i]? = some w := by
  refine exec_invariant (I := fun u => u.aio_watches[i]? = some w) ?_ found handled
  intro u j v found turn
  refine exec_invariant_mem (I := fun u => u.aio_watches[i]? = some w) ?_ found turn
  intro u event v member found first
  rcases handle_event_ok first with ⟨rfl,_⟩ | ⟨x,mbuf,here,same,_,final,rfl⟩
  · exact found
  · have elsewhere : j ≠ i := by
      rintro rfl
      rw [Option.some.inj (here.symm.trans found)] at same
      exact final (again event member same)
    rw [List.getElem?_set_ne elsewhere]
    exact found

theorem own_two {events : List IoEvent} {first second : IoEvent} (one : first ∈ events) (other : second ∈ events)
    (different : first ≠ second) {id : Nat} (first_own : first.obj.watch = id) (second_own : second.obj.watch = id) :
    2 ≤ own (events.map IoEvent.obj) id := by
  obtain ⟨before,after,rfl⟩ := List.append_of_mem one
  have rest : second ∈ before ++ after := by
    simp only [List.mem_append,List.mem_cons,different.symm,false_or] at other
    exact List.mem_append.mpr other
  have positive : 0 < own ((before ++ after).map IoEvent.obj) id := by
    rw [← second_own]
    exact own_pos (List.mem_map_of_mem rest)
  rw [List.map_append,own_append] at positive
  rw [List.map_append,own_append,List.map_cons,own,own,List.countP_cons,← own,← own]
  simp only [first_own,decide_true,if_true]
  omega

/-- A pass that leaves the books in order had events that match. -/
theorem watch_handle_eventfd_matched {s t : Watches} (addressed : Addressed s) (tracked : Tracked s) {replies : List Reply}
    (handled : watch_handle_eventfd s replies = .ok t) (after : Tracked t) :
    Matched s (io_getevents s.in_flight (replies.take 32)).1 := by
  have perm := io_getevents_perm s.in_flight (replies.take 32)
  rw [watch_handle_eventfd] at handled
  generalize io_getevents s.in_flight (replies.take 32) = answer at perm handled
  obtain ⟨events,left⟩ := answer
  dsimp only at perm handled ⊢
  have kept : Kept s left t :=
    exec_invariant (fun kept handled => Kept.events kept handled) (⟨rfl,rfl,rfl⟩ : Kept s left { s with in_flight := left })
      handled
  have counts (id : Nat) : own (events.map IoEvent.obj) id + own left id = own s.in_flight id := by
    rw [← own_append]
    exact perm.countP_eq _
  -- what is recorded is the watch's own
  have recorded : ∀ w ∈ s.aio_watches, ∀ event ∈ events, event.obj.aio_fildes = w.fd → event.res ≠ -EAGAIN →
      w.id = event.obj.watch := by
    intro w member event among same final
    obtain ⟨i,found⟩ := List.mem_iff_getElem?.mp member
    have inside : i ∈ List.range s.aio_watches.length := List.mem_range.mpr (List.getElem?_eq_some_iff.mp found).1
    exact after.own_events _ (pass_records handled inside found among same final)
  intro event among
  have final : event.res ≠ -EAGAIN := by
    intro again
    have flying : event.obj ∈ s.in_flight := perm.subset (List.mem_append_left _ (List.mem_map_of_mem among))
    obtain ⟨w,member,mine⟩ := tracked.registered _ flying
    obtain ⟨busy,one⟩ := tracked.busy addressed member flying mine.symm
    have answered := own_pos (List.mem_map_of_mem (f := IoEvent.obj) among)
    have total := counts w.id
    rw [← mine] at answered
    rw [one] at total
    by_cases spared : ∀ other ∈ events, other.obj.aio_fildes = w.fd → other.res = -EAGAIN
    · -- the buffer stays pending, and nothing is in flight for it
      obtain ⟨i,found⟩ := List.mem_iff_getElem?.mp member
      have there := List.mem_of_getElem? (pass_spares handled found spared)
      have still := (after.pending w there).mp busy
      rw [kept.in_flight] at still
      omega
    · -- another event completed it, so the watch had two in flight
      push Not at spared
      obtain ⟨other,listed,same,done⟩ := spared
      have different : event ≠ other := by
        rintro rfl
        exact done again
      have two := own_two among listed different mine.symm (recorded w member other listed same done).symm
      omega
  exact ⟨final,fun w member same => recorded w member event among same.symm final⟩

theorem watch_handle_eventfd_addressed {s t : Watches} (addressed : Addressed s) {replies : List Reply}
    (handled : watch_handle_eventfd s replies = .ok t) : Addressed t := by
  have perm := io_getevents_perm s.in_flight (replies.take 32)
  rw [watch_handle_eventfd] at handled
  generalize io_getevents s.in_flight (replies.take 32) = answer at perm handled
  obtain ⟨events,left⟩ := answer
  dsimp only at perm handled
  have kept : Kept s left t :=
    exec_invariant (fun kept handled => Kept.events kept handled) (⟨rfl,rfl,rfl⟩ : Kept s left { s with in_flight := left })
      handled
  refine kept.addressed addressed (fun iocb member => perm.subset (List.mem_append_right _ member)) ?_
  intro id
  rw [← show own (events.map IoEvent.obj ++ left) id = own s.in_flight id from perm.countP_eq _,own_append]
  exact Nat.le_add_left _ _

/-! ## Calls -/

theorem watch_add_aio_change (s : Watches) (fd : Int) (queue : Queue) (is_write : Bool) :
    Change s (watch_add_aio s fd queue is_write) none := .added _ rfl rfl rfl rfl rfl rfl

theorem watch_remove_writeq_change (s : Watches) (fd : Int) : Change s (watch_remove_writeq s fd) (some fd) :=
  .removed fd rfl rfl rfl rfl

theorem watch_remove_fd_change (s : Watches) (fd : Int) : Change s (watch_remove_fd s fd) (some fd) :=
  .removed fd rfl rfl rfl rfl

theorem dm_add_change (s : Router) (in_fd out_fd : Int) (is_encoded : Bool) :
    Change s.io (dm_add s in_fd out_fd is_encoded).io none := by
  refine Change.before ?_ (watch_add_aio_change _ out_fd _ true)
  dsimp only
  split_ifs <;> exact ⟨rfl,rfl,rfl,rfl⟩

theorem dm_broadcast_same (s : Router) (msg : List UInt8) (flow : Option Nat) : SameAio s.io (dm_broadcast s msg flow).io :=
  broadcast_loop_same msg flow s.io 0 s.diag_clients

/-- A peripheral's write watch, added if the socket was not open. -/
theorem open_change (s : Watches) (opened : Bool) (fd : Int) (queue : Queue) :
    Change s (if opened then s else watch_add_writeq s fd queue) none := by
  split_ifs
  · exact .same (.refl s)
  · exact watch_add_aio_change s fd queue true

theorem qrtr_cntl_recv_change (s : Router) (i : Nat) (pkt : QrtrPacket) (pushed : List (List UInt8)) :
    Change s.io (qrtr_cntl_recv s i pkt pushed).io (removes s (.qrtr_cntl_recv i pkt pushed)) := by
  rw [qrtr_cntl_recv,removes]
  cases s.peripherals[i]? with
  | none => exact .same (.refl s.io)
  | some perif =>
    cases pkt.type with
    | QRTR_TYPE_DATA => exact (open_change _ _ _ _).after (queue_all_same _ _)
    | QRTR_TYPE_BYE => exact watch_remove_writeq_change _ _
    | _ => exact .same (.refl s.io)

theorem qrtr_cmd_recv_change (s : Router) (i : Nat) (pkt : QrtrPacket) :
    Change s.io (qrtr_cmd_recv s i pkt).io (removes s (.qrtr_cmd_recv i pkt)) := by
  rw [qrtr_cmd_recv,removes]
  cases s.peripherals[i]? with
  | none => exact .same (.refl s.io)
  | some perif =>
    cases pkt.type with
    | QRTR_TYPE_DATA =>
      cases non_hdlc_payload pkt.data with
      | none => exact .same (.refl s.io)
      | some payload => exact .same (dm_broadcast_same s payload none)
    | QRTR_TYPE_NEW_SERVER =>
      dsimp only
      split_ifs
      · exact .same (.refl s.io)
      · exact watch_add_aio_change _ _ _ _
    | QRTR_TYPE_DEL_SERVER => exact watch_remove_writeq_change _ _
    | _ => exact .same (.refl s.io)

theorem qrtr_data_recv_change (s : Router) (i : Nat) (pkt : QrtrPacket) :
    Change s.io (qrtr_data_recv s i pkt).io (removes s (.qrtr_data_recv i pkt)) := by
  rw [qrtr_data_recv,removes]
  cases s.peripherals[i]? with
  | none => exact .same (.refl s.io)
  | some perif =>
    cases pkt.type with
    | QRTR_TYPE_DATA =>
      cases non_hdlc_payload pkt.data with
      | none => exact open_change _ _ _ _
      | some payload =>
        dsimp only
        refine (open_change s.io perif.data_open perif.data_fd (.dataq i)).after ?_
        exact dm_broadcast_same { s with io := if perif.data_open then s.io else _ } payload (some i)
    | QRTR_TYPE_BYE => exact watch_remove_writeq_change _ _
    | _ => exact .same (.refl s.io)

theorem dm_recv_end_change (s : Router) (dm : Nat) : Change s.io (dm_recv_end s dm).io (removes s (.dm_recv_end dm)) := by
  rw [dm_recv_end,removes]
  cases s.diag_clients[dm]? with
  | none => exact .same (.refl s.io)
  | some client =>
    dsimp only
    split_ifs
    · exact watch_remove_fd_change _ _
    · exact .same (.refl s.io)

theorem diag_usb_open_change (s : Router) (ep0 bulk_out bulk_in : Int) :
    Change s.io (diag_usb_open s ep0 bulk_out bulk_in).io none := by
  rw [diag_usb_open]
  cases s.ffs with
  | some ffs => exact .same (.refl s.io)
  | none =>
    dsimp only
    refine Change.before ?_ (dm_add_change _ (-1) bulk_in true)
    exact ⟨rfl,rfl,rfl,rfl⟩

theorem ep0_recv_change (s : Router) (event : FunctionfsEvent) : Change s.io (ep0_recv s event).io none := by
  rw [ep0_recv]
  cases s.ffs with
  | none => exact .same (.refl s.io)
  | some ffs =>
    cases event with
    | FUNCTIONFS_ENABLE => exact watch_add_aio_change _ _ _ _
    | FUNCTIONFS_DISABLE => exact .same (.refl s.io)
    | other => exact .same (.refl s.io)

theorem call_change (s : Router) (c : Call) : Change s.io (call s c).io (removes s c) := by
  cases c with
  | dm_add in_fd out_fd is_encoded => exact dm_add_change s in_fd out_fd is_encoded
  | dm_enable dm => exact .same (.refl s.io)
  | dm_disable dm => exact .same (.refl s.io)
  | set_encode_type type => exact .same (.refl s.io)
  | dm_broadcast msg flow => exact .same (dm_broadcast_same s msg flow)
  | dm_recv_end dm => exact dm_recv_end_change s dm
  | diag_usb_open ep0 bulk_out bulk_in => exact diag_usb_open_change s ep0 bulk_out bulk_in
  | ep0_recv event => exact ep0_recv_change s event
  | qrtr_perif_init_subsystem cntl_fd cmd_fd data_fd => exact .same ⟨rfl,rfl,rfl,rfl⟩
  | qrtr_cntl_recv perif pkt pushed => exact qrtr_cntl_recv_change s perif pkt pushed
  | qrtr_cmd_recv perif pkt => exact qrtr_cmd_recv_change s perif pkt
  | qrtr_data_recv perif pkt => exact qrtr_data_recv_change s perif pkt
  | queue_push queue msg => exact .same (queue_push_flow_same _ _ _ none)
  | watch_remove_fd fd => exact watch_remove_fd_change _ _
  | watch_remove_writeq fd => exact watch_remove_writeq_change _ _

/-! ## Runs -/

/-- A call removes no watch with a buffer pending, and events match. -/
def Orderly (s : Router) : Action → Prop
  | .call c => ∀ fd ∈ removes s c, ∀ w ∈ s.io.aio_watches, w.fd = fd → w.pending_aio = none
  | .submit_pass _ => True
  | .watch_handle_eventfd replies => Matched s.io (io_getevents s.io.in_flight (replies.take 32)).1

theorem step_orderly_iff {s : Router} {a : Action} (addressed : Addressed s.io) (tracked : Tracked s.io) :
    Orderly s a ↔ ∃ t, step s a = .ok t ∧ Tracked t.io := by
  cases a with
  | call c =>
    rw [Orderly,← (call_change s c).tracked_iff addressed tracked]
    exact ⟨fun after => ⟨_,rfl,after⟩,fun ⟨t,stepped,after⟩ => by cases stepped; exact after⟩
  | submit_pass accepted =>
    obtain ⟨io,ran,_,after⟩ := submit_pass_tracked addressed tracked accepted
    exact ⟨fun _ => ⟨{ s with io := io },map_eq_ok.mpr ⟨io,ran,rfl⟩,after⟩,fun _ => trivial⟩
  | watch_handle_eventfd replies =>
    constructor
    · intro matched
      obtain ⟨io,ran,after⟩ := watch_handle_eventfd_tracked addressed tracked replies matched
      exact ⟨{ s with io := io },map_eq_ok.mpr ⟨io,ran,rfl⟩,after⟩
    · rintro ⟨t,stepped,after⟩
      obtain ⟨io,ran,rfl⟩ := map_eq_ok.mp stepped
      exact watch_handle_eventfd_matched addressed tracked ran after

theorem step_addressed {s t : Router} {a : Action} (addressed : Addressed s.io) (tracked : Tracked s.io)
    (stepped : step s a = .ok t) : Addressed t.io := by
  cases a with
  | call c =>
    cases stepped
    exact (call_change s c).addressed addressed
  | submit_pass accepted =>
    obtain ⟨io,ran,rfl⟩ := map_eq_ok.mp stepped
    obtain ⟨_,again,after,_⟩ := submit_pass_tracked addressed tracked accepted
    cases ran.symm.trans again
    exact after
  | watch_handle_eventfd replies =>
    obtain ⟨io,ran,rfl⟩ := map_eq_ok.mp stepped
    exact watch_handle_eventfd_addressed addressed ran

theorem start_addressed : Addressed start.io := by constructor <;> simp [start]

theorem start_tracked : Tracked start.io := by constructor <;> simp [start]

/-- From the start, a run never fails an assertion and keeps the books in order
    throughout exactly when no call of it removes a watch with a buffer pending
    and every event matches one watch and is final. -/
theorem aio_tracked_iff (actions : List Action) :
    Safe step (fun s => Tracked s.io) start actions ↔ Meets step Orderly start actions :=
  safe_iff_meets (fun s => Addressed s.io) (fun addressed tracked stepped _ => step_addressed addressed tracked stepped)
    (fun addressed tracked => step_orderly_iff addressed tracked) actions start_addressed start_tracked

/-- USB enabled for a second time fails an assertion at its next completion. A
    peripheral's second `NEW_SERVER` has two watches completed by one event. A
    write that ends in `-EAGAIN` is pending with nothing in flight, and a client
    that leaves during a write leaves it in flight for no watch. -/
theorem books_out_of_order :
    ¬ Safe step (fun s => Tracked s.io) start [.call (.diag_usb_open 3 4 5),.call (.ep0_recv .FUNCTIONFS_ENABLE),
      .submit_pass (fun _ => true),.call (.ep0_recv .FUNCTIONFS_ENABLE),.watch_handle_eventfd [⟨0,1,[]⟩]] ∧
    exec step start [.call (.diag_usb_open 3 4 5),.call (.ep0_recv .FUNCTIONFS_ENABLE),.submit_pass (fun _ => true),
      .call (.ep0_recv .FUNCTIONFS_ENABLE),.watch_handle_eventfd [⟨0,1,[]⟩]] = .error .assertion ∧
    (∃ t, exec step start [.call (.qrtr_perif_init_subsystem 6 7 8),.call (.qrtr_cmd_recv 0 ⟨.QRTR_TYPE_NEW_SERVER,1,1,[]⟩),
      .call (.qrtr_cmd_recv 0 ⟨.QRTR_TYPE_NEW_SERVER,1,1,[]⟩),.call (.queue_push (.cmdq 0) [1]),
      .call (.queue_push (.cmdq 0) [2]),.submit_pass (fun _ => true),.watch_handle_eventfd [⟨1,1,[]⟩]] = .ok t ∧
      t.io.completed = [(0,1),(1,1)]) ∧
    (∃ t, exec step start [.call (.dm_add 5 5 false),.call (.queue_push (.outq 0) [1]),.submit_pass (fun _ => true),
      .watch_handle_eventfd [⟨0,-EAGAIN,[]⟩]] = .ok t ∧
      t.io.aio_watches = [⟨0,5,.outq 0,some ⟨[1],1,none⟩,true⟩] ∧ t.io.in_flight = []) ∧
    ∃ t, exec step start [.call (.dm_add 5 5 false),.call (.queue_push (.outq 0) [1]),.submit_pass (fun _ => true),
      .call (.dm_recv_end 0)] = .ok t ∧ t.io.aio_watches = [] ∧ t.io.in_flight = [⟨0,5,.IOCB_CMD_PWRITE,1⟩] := by
  refine ⟨?_,rfl,⟨_,rfl,rfl⟩,⟨_,rfl,rfl,rfl⟩,⟨_,rfl,rfl,rfl⟩⟩
  intro safe
  obtain ⟨t,run,_⟩ := safe.ends
  cases run

end DiagRouter.AioBookkeeping

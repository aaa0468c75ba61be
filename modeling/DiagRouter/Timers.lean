import DiagRouter.Lib.Runs
import DiagRouter.Lib.Selection

/-!
# Timers

The timers of `watch.c` and what a pass of `watch_run` does about them. The wait
of `select` is bounded by the earliest tick, and only a wait that ends with no
descriptor ready calls a timer, so timers are called in the order of their ticks
and never before them, as long as the clock is not set back.
-/
namespace DiagRouter.Timers
open DiagRouter.Lib.Memory DiagRouter.Lib.Runs DiagRouter.Lib.Selection

/-! ## struct timeval -/

structure Timeval where
  tv_sec : Int
  tv_usec : Int
deriving DecidableEq, Repr

/-- The macros of `sys/time.h`. -/
def timeradd (a b : Timeval) : Timeval :=
  let tv_usec := a.tv_usec + b.tv_usec
  if 1000000 ≤ tv_usec then ⟨a.tv_sec + b.tv_sec + 1,tv_usec - 1000000⟩ else ⟨a.tv_sec + b.tv_sec,tv_usec⟩

def timersub (a b : Timeval) : Timeval :=
  let tv_usec := a.tv_usec - b.tv_usec
  if tv_usec < 0 then ⟨a.tv_sec - b.tv_sec - 1,tv_usec + 1000000⟩ else ⟨a.tv_sec - b.tv_sec,tv_usec⟩

/-- `timercmp(a, b, <)`. -/
def timercmp (a b : Timeval) : Bool :=
  if a.tv_sec = b.tv_sec then a.tv_usec < b.tv_usec else a.tv_sec < b.tv_sec

/-- In microseconds. -/
def Timeval.value (tv : Timeval) : Int := 1000000 * tv.tv_sec + tv.tv_usec

structure Normal (tv : Timeval) : Prop where
  low : 0 ≤ tv.tv_usec
  high : tv.tv_usec < 1000000

instance (tv : Timeval) : Decidable (Normal tv) :=
  decidable_of_iff (0 ≤ tv.tv_usec ∧ tv.tv_usec < 1000000) ⟨fun both => ⟨both.1,both.2⟩,fun normal => ⟨normal.low,normal.high⟩⟩

@[simp] theorem timeradd_value (a b : Timeval) : (timeradd a b).value = a.value + b.value := by
  unfold timeradd Timeval.value
  dsimp only
  split_ifs
  · dsimp only
    omega
  · dsimp only
    omega

@[simp] theorem timersub_value (a b : Timeval) : (timersub a b).value = a.value - b.value := by
  unfold timersub Timeval.value
  dsimp only
  split_ifs
  · dsimp only
    omega
  · dsimp only
    omega

theorem timeradd_normal {a b : Timeval} (first : Normal a) (second : Normal b) : Normal (timeradd a b) := by
  obtain ⟨low,high⟩ := first
  obtain ⟨low',high'⟩ := second
  unfold timeradd
  dsimp only
  split_ifs with carry
  · exact ⟨by dsimp only; omega,by dsimp only; omega⟩
  · exact ⟨by dsimp only; omega,by dsimp only; omega⟩

theorem timersub_normal {a b : Timeval} (first : Normal a) (second : Normal b) : Normal (timersub a b) := by
  obtain ⟨low,high⟩ := first
  obtain ⟨low',high'⟩ := second
  unfold timersub
  dsimp only
  split_ifs with borrow
  · exact ⟨by dsimp only; omega,by dsimp only; omega⟩
  · exact ⟨by dsimp only; omega,by dsimp only; omega⟩

theorem timercmp_iff {a b : Timeval} (first : Normal a) (second : Normal b) : timercmp a b = true ↔ a.value < b.value := by
  obtain ⟨low,high⟩ := first
  obtain ⟨low',high'⟩ := second
  unfold timercmp Timeval.value
  split_ifs with same
  · rw [decide_eq_true_eq]
    omega
  · rw [decide_eq_true_eq]
    omega

/-! ## Timers of the main loop -/

/-- `id` is the address of the timer, and `cb` the callback with its data. -/
structure Timer (α : Type) where
  id : Nat
  cb : α
  interval : UInt32
  repeats : Bool
  tick : Timeval

/-- A timer as it was called, and the time when the wait for it had ended. -/
structure Firing (α : Type) where
  timer : Timer α
  time : Timeval

/-- `clock` and `fired` are records: when the last wait ended, and the calls. -/
structure TimerList (α : Type) where
  timers : List (Timer α)
  next : Nat
  clock : Timeval
  fired : List (Firing α)

def watch_set_timer {α : Type} (now : Timeval) (timer : Timer α) : Timer α :=
  { timer with
    tick := timeradd now ⟨(timer.interval.toNat / 1000 : Nat),(timer.interval.toNat % 1000 * 1000 : Nat)⟩ }

/-- A call of `watch_add_timer`, and the clock it reads. -/
structure Added (α : Type) where
  now : Timeval
  cb : α
  interval : UInt32
  repeats : Bool

variable {α : Type}

/-- The tick that `calloc` leaves is zero until it is set. -/
def watch_add_timer (s : TimerList α) (added : Added α) : TimerList α :=
  { s with
    timers := s.timers ++ [watch_set_timer added.now ⟨s.next,added.cb,added.interval,added.repeats,⟨0,0⟩⟩]
    next := s.next + 1 }

def watch_free_timer (s : TimerList α) (timer : Timer α) : TimerList α :=
  { s with timers := s.timers.filter (fun other => other.id ≠ timer.id) }

def watch_get_next_timer : List (Timer α) → Option (Timer α)
  | [] => none
  | first :: rest =>
    some ((first :: rest).foldl (fun selected timer => if timercmp timer.tick selected.tick then timer else selected) first)

/-- How long `select` is to wait. -/
def timeout (timer : Timer α) (now : Timeval) : Timeval :=
  let tv := timersub timer.tick now
  if tv.tv_sec < 0 then ⟨0,0⟩ else tv

/-- What a pass meets: the clock before `select`, whether it finds a descriptor
    ready, the clock when it is back, the timers that the callbacks of the pass
    add, and the clock that a timer that repeats is set by. -/
structure Pass (α : Type) where
  now : Timeval
  ready : Bool
  back : Timeval
  added : List (Added α)
  rearm : Timeval

/-- After the callback of a timer. -/
def settle (s : TimerList α) (timer : Timer α) (rearm : Timeval) : TimerList α :=
  if timer.repeats then
    { s with timers := s.timers.map (fun other => if other.id = timer.id then watch_set_timer rearm other else other) }
  else watch_free_timer s timer

/-- A pass of `watch_run`. Without a timer `select` waits for a descriptor. -/
def pass (s : TimerList α) (p : Pass α) : TimerList α :=
  match watch_get_next_timer s.timers with
  | none => p.added.foldl watch_add_timer { s with clock := p.back }
  | some timer =>
    if p.ready then p.added.foldl watch_add_timer { s with clock := p.back }
    else
      settle (p.added.foldl watch_add_timer { s with clock := p.back, fired := s.fired ++ [⟨timer,p.back⟩] }) timer p.rearm

/-! ## What is asked of the loop -/

/-- No timer is called before its tick, the calls are in the order of the ticks,
    a timer that does not repeat is called once, and one that does is called no
    earlier than its interval after the last time; and every timer that was added
    waits, or was called and does not repeat. -/
structure Orderly (s : TimerList α) : Prop where
  due : ∀ firing ∈ s.fired, firing.timer.tick.value ≤ firing.time.value
  in_order : s.fired.Pairwise (fun early late => early.timer.tick.value ≤ late.timer.tick.value)
  spaced : s.fired.Pairwise (fun early late : Firing α => early.timer.id = late.timer.id →
    early.timer.repeats = true ∧ early.time.value + 1000 * early.timer.interval.toNat ≤ late.timer.tick.value)
  kept : ∀ id < s.next, (∃ timer ∈ s.timers, timer.id = id) ∨
    ∃ firing ∈ s.fired, firing.timer.id = id ∧ firing.timer.repeats = false
  waiting : ∀ timer ∈ s.timers, timer.repeats = false → ∀ firing ∈ s.fired, firing.timer.id ≠ timer.id

/-- The clock is not set back between the ends of the waits, `select` without a
    descriptor ready takes the time it was given, and the callbacks read the clock
    behind it. -/
structure Clocked (s : TimerList α) (p : Pass α) : Prop where
  normal : Normal p.now ∧ Normal p.back ∧ Normal p.rearm ∧ ∀ added ∈ p.added, Normal added.now
  forward : s.clock.value ≤ p.back.value
  waits : p.ready = false → ∀ timer ∈ watch_get_next_timer s.timers,
    p.now.value + (timeout timer p.now).value ≤ p.back.value
  behind : p.back.value ≤ p.rearm.value ∧ ∀ added ∈ p.added, p.back.value ≤ added.now.value

def step (s : TimerList α) (p : Pass α) : Except Fault (TimerList α) := .ok (pass s p)

def TimerList.start : TimerList α := ⟨[],0,⟨0,0⟩,[]⟩

/-! ## The next timer -/

section
variable {s : TimerList α} {timer : Timer α} {now : Timeval}

theorem next_timer_none {timers : List (Timer α)} : watch_get_next_timer timers = none ↔ timers = [] := by
  cases timers with
  | nil => exact iff_of_true rfl rfl
  | cons first rest => exact iff_of_false (by simp [watch_get_next_timer]) (by simp)

/-- It is the first of those with the earliest tick. -/
theorem next_timer_split {timers : List (Timer α)} (normal : ∀ timer ∈ timers, Normal timer.tick)
    (next : watch_get_next_timer timers = some timer) :
    ∃ front back, timers = front ++ timer :: back ∧ (∀ other ∈ front, timer.tick.value < other.tick.value) ∧
      ∀ other ∈ back, timer.tick.value ≤ other.tick.value := by
  cases timers with
  | nil => simp [watch_get_next_timer] at next
  | cons first rest =>
    have start : timercmp first.tick first.tick = false := by simp [timercmp]
    rw [watch_get_next_timer,List.foldl_cons,start,if_neg Bool.false_ne_true,Option.some.injEq] at next
    have scan : rest.foldl (fun selected timer => if timercmp timer.tick selected.tick then timer else selected) first =
        least (fun timer => timer.tick.value) first rest :=
      @foldl_least _ _ _ _ (fun a b => timercmp a.tick b.tick) _ _
        (fun a left b right => timercmp_iff (normal a left) (normal b right))
    rw [scan] at next
    rw [← next]
    exact least_split (fun timer => timer.tick.value) first rest

theorem next_timer_mem {timers : List (Timer α)} (normal : ∀ timer ∈ timers, Normal timer.tick)
    (next : watch_get_next_timer timers = some timer) : timer ∈ timers := by
  obtain ⟨front,back,rfl,_⟩ := next_timer_split normal next
  exact List.mem_append_right front List.mem_cons_self

theorem next_timer_le {timers : List (Timer α)} (normal : ∀ timer ∈ timers, Normal timer.tick)
    (next : watch_get_next_timer timers = some timer) : ∀ other ∈ timers, timer.tick.value ≤ other.tick.value := by
  obtain ⟨front,back,rfl,greater,others⟩ := next_timer_split normal next
  intro other member
  rcases List.mem_append.mp member with early | late
  · exact (greater other early).le
  · rcases List.mem_cons.mp late with rfl | behind
    · exact le_rfl
    · exact others other behind

/-- The wait lasts until the tick, and not at all if that has passed. -/
theorem timeout_value (normal : Normal timer.tick) (clock : Normal now) :
    (timeout timer now).value = max 0 (timer.tick.value - now.value) := by
  have left := timersub_value timer.tick now
  obtain ⟨low,high⟩ := timersub_normal normal clock
  unfold timeout
  generalize timersub timer.tick now = tv at left low high
  unfold Timeval.value at left ⊢
  dsimp only
  split_ifs with past
  · dsimp only
    omega
  · omega

theorem set_timer_value (timer : Timer α) (now : Timeval) :
    (watch_set_timer now timer).tick.value = now.value + 1000 * timer.interval.toNat := by
  rw [watch_set_timer]
  dsimp only
  rw [timeradd_value,Timeval.value,Timeval.value]
  dsimp only
  omega

theorem set_timer_normal (timer : Timer α) (clock : Normal now) : Normal (watch_set_timer now timer).tick := by
  refine timeradd_normal clock ⟨?_,?_⟩
  · dsimp only
    omega
  · dsimp only
    omega

end

/-! ## Adding timers -/

/-- The timers that are added, from the address `next` on. -/
def made (next : Nat) : List (Added α) → List (Timer α)
  | [] => []
  | added :: rest => watch_set_timer added.now ⟨next,added.cb,added.interval,added.repeats,⟨0,0⟩⟩ :: made (next + 1) rest

theorem add_timers_eq (s : TimerList α) (added : List (Added α)) :
    added.foldl watch_add_timer s = { s with timers := s.timers ++ made s.next added, next := s.next + added.length } := by
  induction added generalizing s with
  | nil => simp [made]
  | cons first rest ih =>
    rw [List.foldl_cons,ih]
    simp [watch_add_timer,made,Nat.add_assoc,Nat.add_comm 1]

theorem made_mem {next : Nat} {added : List (Added α)} {timer : Timer α} (member : timer ∈ made next added) :
    next ≤ timer.id ∧ timer.id < next + added.length ∧
      ∃ one ∈ added, timer.tick = (watch_set_timer one.now timer).tick := by
  induction added generalizing next with
  | nil => cases member
  | cons first rest ih =>
    rw [made] at member
    rcases List.mem_cons.mp member with rfl | late
    · exact ⟨Nat.le_refl _,Nat.lt_add_of_pos_right (Nat.succ_pos _),first,List.mem_cons_self,rfl⟩
    · obtain ⟨low,high,one,here,tick⟩ := ih late
      rw [List.length_cons]
      exact ⟨by omega,by omega,one,List.mem_cons_of_mem first here,tick⟩

theorem made_ids (next : Nat) (added : List (Added α)) : (made next added).map Timer.id = List.range' next added.length := by
  induction added generalizing next with
  | nil => rfl
  | cons first rest ih =>
    rw [made,List.map_cons,ih,List.length_cons,List.range'_succ]
    rfl

/-- Timers that are added stand behind the one that was called, and are left as
    they are. -/
theorem settle_add (s : TimerList α) {timer : Timer α} (below : timer.id < s.next) (added : List (Added α)) (rearm : Timeval) :
    settle (added.foldl watch_add_timer s) timer rearm = added.foldl watch_add_timer (settle s timer rearm) := by
  have others : ∀ other ∈ made s.next added, other.id ≠ timer.id := by
    intro other member same
    have low := (made_mem member).1
    omega
  rw [add_timers_eq,add_timers_eq]
  cases repeats : timer.repeats with
  | true =>
    have still : (made s.next added).map (fun other => if other.id = timer.id then watch_set_timer rearm other else other) =
        made s.next added := by
      refine (List.map_congr_left ?_).trans (List.map_id _)
      intro other member
      exact if_neg (others other member)
    simp [settle,repeats,List.map_append,still]
  | false =>
    have still : (made s.next added).filter (fun other => other.id ≠ timer.id) = made s.next added :=
      List.filter_eq_self.mpr (fun other member => decide_eq_true (others other member))
    simp only [settle,repeats,Bool.false_eq_true,if_false,watch_free_timer,List.filter_append,still]

/-! ## One pass -/

/-- What a pass finds: addresses tell the timers apart, no call is behind a timer
    that waits, and a timer that waits and was called repeats. -/
structure Kept (s : TimerList α) : Prop where
  due : ∀ firing ∈ s.fired, firing.timer.tick.value ≤ firing.time.value
  in_order : s.fired.Pairwise (fun early late => early.timer.tick.value ≤ late.timer.tick.value)
  spaced : s.fired.Pairwise (fun early late : Firing α => early.timer.id = late.timer.id →
    early.timer.repeats = true ∧ early.time.value + 1000 * early.timer.interval.toNat ≤ late.timer.tick.value)
  kept : ∀ id < s.next, (∃ timer ∈ s.timers, timer.id = id) ∨
    ∃ firing ∈ s.fired, firing.timer.id = id ∧ firing.timer.repeats = false
  normal : ∀ timer ∈ s.timers, Normal timer.tick
  distinct : (s.timers.map Timer.id).Nodup
  below : ∀ timer ∈ s.timers, timer.id < s.next
  fired_below : ∀ firing ∈ s.fired, firing.timer.id < s.next
  past : ∀ firing ∈ s.fired, firing.timer.tick.value ≤ s.clock.value
  ahead : ∀ firing ∈ s.fired, ∀ timer ∈ s.timers, firing.timer.tick.value ≤ timer.tick.value
  again : ∀ firing ∈ s.fired, ∀ timer ∈ s.timers, firing.timer.id = timer.id → timer.repeats = true ∧
    firing.timer.repeats = true ∧ firing.time.value + 1000 * firing.timer.interval.toNat ≤ timer.tick.value

theorem Kept.orderly {s : TimerList α} (holds : Kept s) : Orderly s := by
  refine ⟨holds.due,holds.in_order,holds.spaced,holds.kept,?_⟩
  intro timer member once firing fired same
  have repeats := (holds.again firing fired timer member same).1
  rw [once] at repeats
  cases repeats

section
variable {s : TimerList α} {timer : Timer α} {back rearm : Timeval}

theorem Kept.later (holds : Kept s) (forward : s.clock.value ≤ back.value) : Kept { s with clock := back } :=
  { holds with past := fun firing member => (holds.past firing member).trans forward }

theorem Kept.add (holds : Kept s) {added : List (Added α)} (normal : ∀ one ∈ added, Normal one.now)
    (behind : ∀ one ∈ added, s.clock.value ≤ one.now.value) : Kept (added.foldl watch_add_timer s) := by
  rw [add_timers_eq]
  have ticks : ∀ timer ∈ made s.next added, s.clock.value ≤ timer.tick.value ∧ Normal timer.tick := by
    intro timer member
    obtain ⟨_,_,one,here,tick⟩ := made_mem member
    rw [tick,set_timer_value]
    have later := behind one here
    exact ⟨by omega,set_timer_normal timer (normal one here)⟩
  refine ⟨holds.due,holds.in_order,holds.spaced,?_,?_,?_,?_,?_,holds.past,?_,?_⟩
  · intro id inside
    dsimp only at inside ⊢
    by_cases old : id < s.next
    · rcases holds.kept id old with ⟨timer,member,same⟩ | called
      · exact .inl ⟨timer,List.mem_append_left _ member,same⟩
      · exact .inr called
    · have new : id ∈ (made s.next added).map Timer.id := by
        rw [made_ids,List.mem_range'_1]
        omega
      obtain ⟨timer,member,same⟩ := List.mem_map.mp new
      exact .inl ⟨timer,List.mem_append_right _ member,same⟩
  · intro timer member
    rcases List.mem_append.mp member with old | new
    · exact holds.normal timer old
    · exact (ticks timer new).2
  · rw [List.map_append,made_ids]
    refine holds.distinct.append List.nodup_range' ?_
    intro id old new
    obtain ⟨timer,member,rfl⟩ := List.mem_map.mp old
    have high := holds.below timer member
    have low := (List.mem_range'_1.mp new).1
    omega
  · intro timer member
    dsimp only
    rcases List.mem_append.mp member with old | new
    · have high := holds.below timer old
      omega
    · exact (made_mem new).2.1
  · intro firing member
    have high := holds.fired_below firing member
    dsimp only
    omega
  · intro firing fired timer member
    rcases List.mem_append.mp member with old | new
    · exact holds.ahead firing fired timer old
    · exact (holds.past firing fired).trans (ticks timer new).1
  · intro firing fired timer member same
    rcases List.mem_append.mp member with old | new
    · exact holds.again firing fired timer old same
    · have low := (made_mem new).1
      have high := holds.fired_below firing fired
      omega

/-- What a timer leaves of the list that it was called from: the others, and
    itself with its next tick if it repeats. -/
theorem settle_mem {other : Timer α} (member : other ∈ (settle s timer rearm).timers) :
    (other ∈ s.timers ∧ other.id ≠ timer.id) ∨
      timer.repeats = true ∧ ∃ old ∈ s.timers, old.id = timer.id ∧ other = watch_set_timer rearm old := by
  unfold settle at member
  split_ifs at member with repeats
  · obtain ⟨old,here,rfl⟩ := List.mem_map.mp member
    by_cases own : old.id = timer.id
    · rw [if_pos own]
      exact .inr ⟨repeats,old,here,own,rfl⟩
    · rw [if_neg own]
      exact .inl ⟨here,own⟩
  · obtain ⟨here,other_one⟩ := List.mem_filter.mp member
    exact .inl ⟨here,of_decide_eq_true other_one⟩

theorem settle_same (s : TimerList α) (timer : Timer α) (rearm : Timeval) :
    (settle s timer rearm).next = s.next ∧ (settle s timer rearm).clock = s.clock ∧ (settle s timer rearm).fired = s.fired := by
  unfold settle watch_free_timer
  split_ifs
  · exact ⟨rfl,rfl,rfl⟩
  · exact ⟨rfl,rfl,rfl⟩

theorem settle_ids (s : TimerList α) (timer : Timer α) (rearm : Timeval) :
    ((settle s timer rearm).timers.map Timer.id).Sublist (s.timers.map Timer.id) := by
  unfold settle
  split_ifs
  · rw [List.map_map]
    have same : s.timers.map (Timer.id ∘ fun other => if other.id = timer.id then watch_set_timer rearm other else other) =
        s.timers.map Timer.id := by
      refine List.map_congr_left ?_
      intro other _
      by_cases own : other.id = timer.id
      · simp [own,watch_set_timer]
      · simp [own]
    rw [same]
  · exact List.filter_sublist.map _

theorem settle_stays {id : Nat} (stays : id = timer.id → timer.repeats = true) (here : ∃ old ∈ s.timers, old.id = id) :
    ∃ other ∈ (settle s timer rearm).timers, other.id = id := by
  obtain ⟨old,member,rfl⟩ := here
  unfold settle
  split_ifs with repeats
  · refine ⟨_,List.mem_map_of_mem member,?_⟩
    split_ifs
    · rfl
    · rfl
  · refine ⟨old,List.mem_filter.mpr ⟨member,decide_eq_true ?_⟩,rfl⟩
    intro own
    exact repeats (stays own)

/-- The next timer is called at or after its tick. -/
theorem Kept.fire (holds : Kept s) (next : watch_get_next_timer s.timers = some timer) (forward : s.clock.value ≤ back.value)
    (due : timer.tick.value ≤ back.value) (clock : Normal rearm) (behind : back.value ≤ rearm.value) :
    Kept (settle { s with clock := back, fired := s.fired ++ [⟨timer,back⟩] } timer rearm) := by
  have here := next_timer_mem holds.normal next
  have earliest := next_timer_le holds.normal next
  have single : ∀ old ∈ s.timers, old.id = timer.id → old = timer := fun old member same =>
    List.inj_on_of_nodup_map holds.distinct member here same
  obtain ⟨same_next,same_clock,same_fired⟩ :=
    settle_same { s with clock := back, fired := s.fired ++ [⟨timer,back⟩] } timer rearm
  have before : ∀ firing ∈ s.fired, firing.timer.tick.value ≤ timer.tick.value := fun firing member =>
    holds.ahead firing member timer here
  have interval : (0 : Int) ≤ 1000 * timer.interval.toNat := by omega
  refine ⟨?_,?_,?_,?_,?_,?_,?_,?_,?_,?_,?_⟩
  · rw [same_fired]
    intro firing member
    rcases List.mem_append.mp member with old | new
    · exact holds.due firing old
    · rw [List.mem_singleton.mp new]
      exact due
  · rw [same_fired,List.pairwise_append]
    refine ⟨holds.in_order,List.pairwise_singleton _ _,?_⟩
    intro early old late new
    rw [List.mem_singleton.mp new]
    exact before early old
  · rw [same_fired,List.pairwise_append]
    refine ⟨holds.spaced,List.pairwise_singleton _ _,?_⟩
    intro early old late new same
    rw [List.mem_singleton.mp new] at same ⊢
    exact (holds.again early old timer here same).2
  · rw [same_next,same_fired]
    intro id inside
    by_cases own : id = timer.id
    · cases repeats : timer.repeats with
      | true => exact .inl (settle_stays (fun _ => repeats) ⟨timer,here,own.symm⟩)
      | false => exact .inr ⟨⟨timer,back⟩,List.mem_append_right _ (List.mem_singleton_self _),own.symm,repeats⟩
    · rcases holds.kept id inside with waits | ⟨firing,member,called⟩
      · exact .inl (settle_stays (fun same => absurd same own) waits)
      · exact .inr ⟨firing,List.mem_append_left _ member,called⟩
  · intro other member
    rcases settle_mem member with ⟨old,_⟩ | ⟨_,old,_,_,rfl⟩
    · exact holds.normal other old
    · exact set_timer_normal old clock
  · exact holds.distinct.sublist (settle_ids _ _ _)
  · rw [same_next]
    intro other member
    rcases settle_mem member with ⟨old,_⟩ | ⟨_,old,known,_,rfl⟩
    · exact holds.below other old
    · exact holds.below old known
  · rw [same_next,same_fired]
    intro firing member
    rcases List.mem_append.mp member with old | new
    · exact holds.fired_below firing old
    · rw [List.mem_singleton.mp new]
      exact holds.below timer here
  · rw [same_clock,same_fired]
    intro firing member
    rcases List.mem_append.mp member with old | new
    · exact (holds.past firing old).trans forward
    · rw [List.mem_singleton.mp new]
      exact due
  · rw [same_fired]
    intro firing fired other member
    have tick : timer.tick.value ≤ other.tick.value := by
      rcases settle_mem member with ⟨old,_⟩ | ⟨_,old,known,own,rfl⟩
      · exact earliest other old
      · rw [set_timer_value]
        omega
    rcases List.mem_append.mp fired with old | new
    · exact (before firing old).trans tick
    · rw [List.mem_singleton.mp new]
      exact tick
  · rw [same_fired]
    intro firing fired other member same
    rcases settle_mem member with ⟨old,different⟩ | ⟨repeats,old,known,own,rfl⟩
    · rcases List.mem_append.mp fired with early | new
      · exact holds.again firing early other old same
      · rw [List.mem_singleton.mp new] at same
        exact absurd same.symm different
    · obtain rfl := single old known own
      rw [set_timer_value]
      rcases List.mem_append.mp fired with early | new
      · obtain ⟨_,repeated,spaced⟩ := holds.again firing early old here same
        exact ⟨repeats,repeated,by omega⟩
      · rw [List.mem_singleton.mp new]
        exact ⟨repeats,repeats,by dsimp only; omega⟩

/-- A pass keeps what it finds. -/
theorem pass_kept {p : Pass α} (holds : Kept s) (clocked : Clocked s p) : Kept (pass s p) := by
  obtain ⟨now,_,rearm,added⟩ := clocked.normal
  obtain ⟨settled,behind⟩ := clocked.behind
  have waited : Kept (p.added.foldl watch_add_timer { s with clock := p.back }) :=
    (holds.later clocked.forward).add added behind
  unfold pass
  cases next : watch_get_next_timer s.timers with
  | none => exact waited
  | some timer =>
    dsimp only
    cases ready : p.ready with
    | true => exact waited
    | false =>
      have here := next_timer_mem holds.normal next
      have slept := clocked.waits ready timer next
      rw [timeout_value (holds.normal timer here) now] at slept
      have called := holds.fire next clocked.forward (by omega) rearm settled
      rw [if_neg Bool.false_ne_true,
        settle_add { s with clock := p.back, fired := s.fired ++ [⟨timer,p.back⟩] } (holds.below timer here)]
      exact called.add added (by rw [(settle_same _ _ _).2.1]; exact behind)

end

theorem kept_start : Kept (TimerList.start : TimerList α) := by constructor <;> simp [TimerList.start]

/-! ## Runs -/

/-- Whatever descriptors become ready, and whatever timers the callbacks add, the
    timers are called in order, as long as the clock is not set back. -/
theorem timers_orderly {passes : List (Pass α)} {s : TimerList α} (clocked : Meets step Clocked .start passes)
    (run : exec step .start passes = .ok s) : Orderly s := by
  have safe : Safe step Kept .start passes :=
    safe_of_meets (fun holds guard => ⟨_,rfl,pass_kept holds guard⟩) kept_start clocked
  obtain ⟨t,ran,holds⟩ := safe.ends
  cases ran.symm.trans run
  exact holds.orderly

/-- A timer of 1 s is added, and then called 200 ms late. -/
def late_call : List (Pass Nat) :=
  [⟨⟨5,0⟩,true,⟨5,0⟩,[⟨⟨5,999999⟩,7,1000,false⟩],⟨5,0⟩⟩,⟨⟨6,0⟩,false,⟨7,199999⟩,[],⟨7,199999⟩⟩]

theorem late_call_orderly : Orderly (late_call.foldl pass .start) := by
  refine @timers_orderly Nat late_call _ ?_ rfl
  refine Meets.cons rfl ⟨by decide,by decide,fun ready => absurd ready (by decide),by decide⟩ ?_
  refine Meets.cons rfl ⟨by decide,by decide,fun _ => ?_,by decide⟩ trivial
  intro timer next
  cases next
  decide

/-- In the order of the ticks, and of the list where ticks are the same. -/
def sorted (timers : List (Timer α)) : List (Timer α) := timers.insertionSort (fun a b => a.tick.value ≤ b.tick.value)

/-- A wait that nothing else ends takes the first timer of the order out. -/
theorem idle_pass {s : TimerList α} (normal : ∀ timer ∈ s.timers, Normal timer.tick) (distinct : (s.timers.map Timer.id).Nodup)
    (once : ∀ timer ∈ s.timers, timer.repeats = false) {p : Pass α} (idle : p.ready = false) (alone : p.added = []) :
    (pass s p).timers.Sublist s.timers ∧ (pass s p).fired.map Firing.timer = s.fired.map Firing.timer ++ (sorted s.timers).take 1 ∧
      sorted (pass s p).timers = (sorted s.timers).drop 1 := by
  unfold pass
  rw [alone,idle]
  cases next : watch_get_next_timer s.timers with
  | none =>
    rw [next_timer_none] at next
    simp [next,sorted]
  | some timer =>
    have here := next_timer_mem normal next
    obtain ⟨front,back,split,greater,others⟩ := next_timer_split normal next
    have order := @insertionSort_split _ _ _ (fun timer : Timer α => timer.tick.value) front back timer greater others
    have rest : s.timers.filter (fun other => other.id ≠ timer.id) = front ++ back := by
      rw [split,List.map_append,List.map_cons] at distinct
      have apart := List.nodup_middle.mp distinct
      rw [← List.map_append,List.nodup_cons] at apart
      have different : ∀ other ∈ front ++ back, other.id ≠ timer.id := fun other member same =>
        apart.1 (same ▸ List.mem_map_of_mem member)
      rw [split,List.filter_append,List.filter_cons_of_neg (by simp),← List.filter_append]
      exact List.filter_eq_self.mpr (fun other member => decide_eq_true (different other member))
    have ordered : sorted s.timers = timer :: sorted (front ++ back) := by rw [sorted,split,order,sorted]
    rw [ordered]
    simp only [Bool.false_eq_true,if_false,List.foldl_nil,settle,once timer here,watch_free_timer,rest]
    refine ⟨?_,by simp,rfl⟩
    rw [← rest]
    exact List.filter_sublist

/-- From every state of a run, when none of the timers that wait repeats: passes
    that find no descriptor ready call them in order, one each, and all in the
    end. -/
theorem idle_calls_sorted {passes idle : List (Pass α)} {s t : TimerList α} (clocked : Meets step Clocked .start passes)
    (reached : exec step .start passes = .ok s) (once : ∀ timer ∈ s.timers, timer.repeats = false)
    (quiet : ∀ p ∈ idle, p.ready = false ∧ p.added = []) (run : exec step s idle = .ok t) :
    t.fired.map Firing.timer = s.fired.map Firing.timer ++ (sorted s.timers).take idle.length ∧
      sorted t.timers = (sorted s.timers).drop idle.length := by
  have safe : Safe step Kept .start passes :=
    safe_of_meets (fun holds guard => ⟨_,rfl,pass_kept holds guard⟩) kept_start clocked
  obtain ⟨u,ran,holds⟩ := safe.ends
  cases ran.symm.trans reached
  have normal := holds.normal
  have distinct := holds.distinct
  clear safe ran holds clocked reached
  induction idle generalizing s with
  | nil =>
    cases run
    simp
  | cons p idle ih =>
    obtain ⟨⟨ready,alone⟩,others⟩ := List.forall_mem_cons.mp quiet
    obtain ⟨fewer,called,left⟩ := idle_pass normal distinct once ready alone
    obtain ⟨last,waits⟩ := ih (fun timer member => once timer (fewer.subset member)) others run
      (fun timer member => normal timer (fewer.subset member)) (distinct.sublist (fewer.map _))
    rw [last,waits,called,left,List.append_assoc,List.length_cons,Nat.add_comm,List.take_add,List.drop_drop]
    exact ⟨rfl,rfl⟩

/-- A timer of 1 s is added before one of 200 ms. -/
def two_added : List (Pass Nat) :=
  [⟨⟨5,0⟩,true,⟨5,0⟩,[⟨⟨5,0⟩,7,1000,false⟩,⟨⟨5,0⟩,8,200,false⟩],⟨5,0⟩⟩]

theorem two_added_sorted :
    ∃ t, exec step (two_added.foldl pass .start) (List.replicate 2 ⟨⟨5,0⟩,false,⟨6,0⟩,[],⟨6,0⟩⟩) = .ok t ∧
      t.fired.map Firing.timer = [] ++ (sorted (two_added.foldl pass .start).timers).take 2 ∧
      sorted t.timers = (sorted (two_added.foldl pass .start).timers).drop 2 := by
  refine ⟨_,rfl,@idle_calls_sorted Nat two_added (List.replicate 2 ⟨⟨5,0⟩,false,⟨6,0⟩,[],⟨6,0⟩⟩) _ _ ?_ rfl (by decide)
    (by simp) rfl⟩
  exact Meets.cons rfl ⟨by decide,by decide,fun ready => absurd ready (by decide),by decide⟩ trivial

end DiagRouter.Timers

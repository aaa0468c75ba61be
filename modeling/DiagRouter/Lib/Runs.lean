import DiagRouter.Lib.Memory

/-!
# Runs of a machine that can fault

`exec` folds a step over a list of actions and stops at the first fault.
Invariants and refinements are stated for one step and lifted to a run here,
and `safe_iff_meets` is the rule for exact conditions: when the condition on a
step is exactly what keeps the invariant, the condition on every step is
exactly what keeps it along a run.
-/
namespace DiagRouter.Lib.Runs
open DiagRouter.Lib.Memory

section
variable {σ τ α ε : Type} {step : σ → α → Except ε σ}

/-- The state after all the actions, in order. -/
def exec (step : σ → α → Except ε σ) : σ → List α → Except ε σ
  | s, [] => .ok s
  | s, a :: as => step s a >>= fun t => exec step t as

@[simp] theorem exec_cons (s : σ) (a : α) (as : List α) :
    exec step s (a :: as) = (step s a >>= fun t => exec step t as) := rfl

theorem exec_append (s : σ) (as bs : List α) :
    exec step s (as ++ bs) = (exec step s as >>= fun t => exec step t bs) := by
  induction as generalizing s with
  | nil => rfl
  | cons a as ih =>
    simp only [List.cons_append,exec_cons]
    cases step s a with
    | error e => rfl
    | ok t => exact ih t

/-- A loop in a loop is one loop over the pairs. -/
theorem exec_nested {β γ : Type} (step : β → σ → γ → Except ε σ) (s : σ) (bs : List β) (cs : List γ) :
    exec (fun s b => exec (step b) s cs) s bs =
      exec (fun s (turn : β × γ) => step turn.1 s turn.2) s (bs.flatMap (fun b => cs.map (fun c => (b,c)))) := by
  have inner (b : β) (cs : List γ) (s : σ) :
      exec (fun s (turn : β × γ) => step turn.1 s turn.2) s (cs.map (fun c => (b,c))) = exec (step b) s cs := by
    induction cs generalizing s with
    | nil => rfl
    | cons c cs ih =>
      rw [List.map_cons,exec,exec]
      exact congrArg (Except.bind (step b s c)) (funext ih)
  induction bs generalizing s with
  | nil => rfl
  | cons b bs ih =>
    rw [List.flatMap_cons,exec_append,inner,exec]
    exact congrArg (Except.bind (exec (step b) s cs)) (funext ih)

/-- Actions that change nothing may be left out. -/
theorem exec_filter {p : α → Bool} (skips : ∀ s a, p a = false → step s a = .ok s) (s : σ) (as : List α) :
    exec step s as = exec step s (as.filter p) := by
  induction as generalizing s with
  | nil => rfl
  | cons a as ih =>
    cases kept : p a with
    | true =>
      rw [List.filter_cons_of_pos kept,exec_cons,exec_cons]
      cases step s a with
      | error e => rfl
      | ok t => exact ih t
    | false =>
      rw [List.filter_cons_of_neg (by simp [kept]),exec_cons,skips s a kept]
      exact ih s

/-- What every step keeps, a run keeps. -/
theorem exec_invariant {I : σ → Prop} (keeps : ∀ {s a t}, I s → step s a = .ok t → I t) {s t : σ} {as : List α}
    (start : I s) (run : exec step s as = .ok t) : I t := by
  induction as generalizing s with
  | nil =>
    cases run
    exact start
  | cons a as ih =>
    obtain ⟨m,first,rest⟩ := bind_eq_ok.mp run
    exact ih (keeps start first) rest

/-- A machine that does every step of an abstract one, between states that
    stand for the abstract ones, does every run of it. -/
theorem exec_refines {A : Type} (R : A → σ → Prop) {abstract_step : A → α → A}
    (refines : ∀ {a s} (op : α), R a s → ∃ t, step s op = .ok t ∧ R (abstract_step a op) t) {a : A} {s : σ}
    (related : R a s) (ops : List α) : ∃ t, exec step s ops = .ok t ∧ R (ops.foldl abstract_step a) t := by
  induction ops generalizing a s with
  | nil => exact ⟨s,rfl,related⟩
  | cons op ops ih =>
    obtain ⟨m,first,again⟩ := refines op related
    obtain ⟨t,run,done⟩ := ih again
    exact ⟨t,by simp [first,run],done⟩

/-- No action of the run faults and every state it passes satisfies `I`. -/
def Safe (step : σ → α → Except ε σ) (I : σ → Prop) : σ → List α → Prop
  | s, [] => I s
  | s, a :: as => I s ∧ ∃ t, step s a = .ok t ∧ Safe step I t as

/-- Every action of the run meets `G` in the state it finds. -/
def Meets (step : σ → α → Except ε σ) (G : σ → α → Prop) : σ → List α → Prop
  | _, [] => True
  | s, a :: as => G s a ∧ ∀ t, step s a = .ok t → Meets step G t as

theorem Safe.start {I : σ → Prop} {s : σ} {as : List α} (safe : Safe step I s as) : I s := by
  cases as with
  | nil => exact safe
  | cons a as => exact safe.1

/-- A safe run ends, and in a good state. -/
theorem Safe.ends {I : σ → Prop} {s : σ} {as : List α} (safe : Safe step I s as) :
    ∃ t, exec step s as = .ok t ∧ I t := by
  induction as generalizing s with
  | nil => exact ⟨s,rfl,safe⟩
  | cons a as ih =>
    obtain ⟨_,t,first,rest⟩ := safe
    obtain ⟨u,run,good⟩ := ih rest
    exact ⟨u,by simp [first,run],good⟩

theorem Safe.weaken {I J : σ → Prop} (weaker : ∀ {s}, I s → J s) {s : σ} {as : List α} (safe : Safe step I s as) :
    Safe step J s as := by
  induction as generalizing s with
  | nil => exact weaker safe
  | cons a as ih =>
    obtain ⟨start,t,first,rest⟩ := safe
    exact ⟨weaker start,t,first,ih rest⟩

/-- A condition on a step that keeps `I` over it keeps `I` along a run whose
    every step meets it. -/
theorem safe_of_meets {I : σ → Prop} {G : σ → α → Prop}
    (keeps : ∀ {s a}, I s → G s a → ∃ t, step s a = .ok t ∧ I t) {s : σ} {as : List α} (start : I s)
    (meets : Meets step G s as) : Safe step I s as := by
  induction as generalizing s with
  | nil => exact start
  | cons a as ih =>
    obtain ⟨guard,rest⟩ := meets
    obtain ⟨t,first,good⟩ := keeps start guard
    exact ⟨start,t,first,ih good (rest t first)⟩

/-- Where every step that meets `G` keeps `J`, what `J` and `G` give at a step
    holds at every step of a run that meets `G`. -/
theorem meets_of_meets {J : σ → Prop} {G P : σ → α → Prop} (keeps : ∀ {s a t}, J s → G s a → step s a = .ok t → J t)
    (gives : ∀ {s a}, J s → G s a → P s a) {s : σ} {as : List α} (start : J s) (meets : Meets step G s as) :
    Meets step P s as := by
  induction as generalizing s with
  | nil => trivial
  | cons a as ih =>
    obtain ⟨guard,rest⟩ := meets
    exact ⟨gives start guard,fun t stepped => ih (keeps start guard stepped) (rest t stepped)⟩

/-- Where two conditions say the same of every step that an invariant holds
    before, they say the same of a run. -/
theorem meets_iff {J : σ → Prop} {G P : σ → α → Prop} (keeps : ∀ {s a t}, J s → step s a = .ok t → J t)
    (same : ∀ {s a}, J s → (P s a ↔ G s a)) {s : σ} (start : J s) (as : List α) :
    Meets step P s as ↔ Meets step G s as := by
  constructor
  · exact meets_of_meets (fun side _ step => keeps side step) (fun side meets => (same side).mp meets) start
  · exact meets_of_meets (fun side _ step => keeps side step) (fun side meets => (same side).mpr meets) start

/-- The condition `G` on a step is exactly what keeps `I` over it, given what
    good steps keep in any case (`J`); then `G` on every step is exactly what
    keeps `I` along the run. -/
theorem safe_iff_meets {I : σ → Prop} (J : σ → Prop) {G : σ → α → Prop}
    (always : ∀ {s a t}, J s → I s → step s a = .ok t → I t → J t)
    (decides : ∀ {s a}, J s → I s → (G s a ↔ ∃ t, step s a = .ok t ∧ I t)) {s : σ} (as : List α) (side : J s)
    (start : I s) : Safe step I s as ↔ Meets step G s as := by
  induction as generalizing s with
  | nil => exact ⟨fun _ => trivial,fun _ => start⟩
  | cons a as ih =>
    constructor
    · rintro ⟨_,t,first,rest⟩
      refine ⟨(decides side start).mpr ⟨t,first,rest.start⟩,?_⟩
      intro u again
      cases first.symm.trans again
      exact (ih (always side start first rest.start) rest.start).mp rest
    · rintro ⟨guard,rest⟩
      obtain ⟨t,first,good⟩ := (decides side start).mp guard
      exact ⟨start,t,first,(ih (always side start first good) good).mpr (rest t first)⟩

/-- Every state the run passes satisfies `I`, up to a fault if there is one. -/
def Along (step : σ → α → Except ε σ) (I : σ → Prop) : σ → List α → Prop
  | s, [] => I s
  | s, a :: as => I s ∧ ∀ t, step s a = .ok t → Along step I t as

theorem Along.start {I : σ → Prop} {s : σ} {as : List α} (along : Along step I s as) : I s := by
  cases as with
  | nil => exact along
  | cons a as => exact along.1

theorem Along.ends {I : σ → Prop} {s t : σ} {as : List α} (along : Along step I s as) (run : exec step s as = .ok t) :
    I t := by
  induction as generalizing s with
  | nil =>
    cases run
    exact along
  | cons a as ih =>
    obtain ⟨m,first,rest⟩ := bind_eq_ok.mp run
    exact ih (along.2 m first) rest

/-- A condition on a step that keeps `I` over it where it does not fault. -/
theorem along_of_meets {I : σ → Prop} (J : σ → Prop) {G : σ → α → Prop}
    (always : ∀ {s a t}, J s → step s a = .ok t → J t)
    (keeps : ∀ {s a t}, J s → I s → G s a → step s a = .ok t → I t) {s : σ} {as : List α} (side : J s) (start : I s)
    (meets : Meets step G s as) : Along step I s as := by
  induction as generalizing s with
  | nil => exact start
  | cons a as ih =>
    obtain ⟨guard,rest⟩ := meets
    refine ⟨start,?_⟩
    intro t first
    exact ih (always side first) (keeps side start guard first) (rest t first)

/-- What the steps of a run keep gives what it gives in every state of it. -/
theorem along_of_invariant_mem {I : σ → Prop} (J : σ → Prop) {s : σ} {as : List α}
    (keeps : ∀ {s a t}, a ∈ as → J s → step s a = .ok t → J t) (enough : ∀ {s}, J s → I s) (start : J s) :
    Along step I s as := by
  induction as generalizing s with
  | nil => exact enough start
  | cons a as ih =>
    refine ⟨enough start,fun t first => ?_⟩
    exact ih (fun member => keeps (List.mem_cons_of_mem a member)) (keeps List.mem_cons_self start first)

/-- What every step keeps gives what it gives in every state of a run. -/
theorem along_of_invariant {I : σ → Prop} (J : σ → Prop) (keeps : ∀ {s a t}, J s → step s a = .ok t → J t)
    (enough : ∀ {s}, J s → I s) {s : σ} (as : List α) (start : J s) : Along step I s as :=
  along_of_invariant_mem J (fun _ => keeps) enough start

/-- `safe_iff_meets` where a fault does no harm, for a run whose steps all meet
    `L`. -/
theorem along_iff_meets_where {I : σ → Prop} (J : σ → Prop) {L G : σ → α → Prop}
    (always : ∀ {s a t}, J s → L s a → step s a = .ok t → J t)
    (decides : ∀ {s a}, J s → L s a → I s → (G s a ↔ ∀ t, step s a = .ok t → I t)) {s : σ} {as : List α} (side : J s)
    (legal : Meets step L s as) (start : I s) : Along step I s as ↔ Meets step G s as := by
  induction as generalizing s with
  | nil => exact ⟨fun _ => trivial,fun _ => start⟩
  | cons a as ih =>
    obtain ⟨allowed,further⟩ := legal
    constructor
    · rintro ⟨_,rest⟩
      refine ⟨(decides side allowed start).mpr (fun t first => (rest t first).start),?_⟩
      intro t first
      exact (ih (always side allowed first) (further t first) (rest t first).start).mp (rest t first)
    · rintro ⟨guard,rest⟩
      refine ⟨start,?_⟩
      intro t first
      have good := (decides side allowed start).mp guard t first
      exact (ih (always side allowed first) (further t first) good).mpr (rest t first)

theorem meets_any {G : σ → α → Prop} (all : ∀ s a, G s a) (s : σ) (as : List α) : Meets step G s as := by
  induction as generalizing s with
  | nil => trivial
  | cons a as ih => exact ⟨all s a,fun t _ => ih t⟩

theorem along_iff_meets {I : σ → Prop} (J : σ → Prop) {G : σ → α → Prop}
    (always : ∀ {s a t}, J s → step s a = .ok t → J t)
    (decides : ∀ {s a}, J s → I s → (G s a ↔ ∀ t, step s a = .ok t → I t)) {s : σ} (as : List α) (side : J s)
    (start : I s) : Along step I s as ↔ Meets step G s as :=
  along_iff_meets_where (L := fun _ _ => True) J (fun side _ => always side) (fun side _ => decides side) side
    (meets_any (fun _ _ => trivial) s as) start

/-- The states a run passes are those its beginnings end in. -/
theorem along_iff_prefixes {I : σ → Prop} {s : σ} {as : List α} :
    Along step I s as ↔ ∀ early, early <+: as → ∀ t, exec step s early = .ok t → I t := by
  induction as generalizing s with
  | nil =>
    constructor
    · intro start early first t run
      rw [List.prefix_nil.mp first] at run
      cases run
      exact start
    · intro all
      exact all [] List.prefix_rfl s rfl
  | cons a as ih =>
    constructor
    · rintro ⟨start,rest⟩ early first t run
      cases early with
      | nil =>
        cases run
        exact start
      | cons b early =>
        obtain ⟨rfl,others⟩ := List.cons_prefix_cons.mp first
        obtain ⟨m,stepped,ran⟩ := bind_eq_ok.mp run
        exact ih.mp (rest m stepped) early others t ran
    · intro all
      refine ⟨all [] List.nil_prefix s rfl,?_⟩
      intro m stepped
      refine ih.mpr ?_
      intro early others t ran
      exact all (a :: early) (List.cons_prefix_cons.mpr ⟨rfl,others⟩) t (by rw [exec_cons,stepped,ok_bind,ran])

/-- `along_iff_meets` for a run without a fault whose steps all meet `L`. -/
theorem along_iff_meets_of_run {I : σ → Prop} (J : σ → Prop) {L G : σ → α → Prop}
    (always : ∀ {s a t}, J s → L s a → step s a = .ok t → J t)
    (decides : ∀ {s a t}, J s → L s a → I s → step s a = .ok t → (G s a ↔ I t)) {s t : σ} {as : List α}
    (run : exec step s as = .ok t) (side : J s) (legal : Meets step L s as) (start : I s) :
    Along step I s as ↔ Meets step G s as := by
  induction as generalizing s with
  | nil => exact ⟨fun _ => trivial,fun _ => start⟩
  | cons a as ih =>
    obtain ⟨m,first,rest⟩ := bind_eq_ok.mp run
    obtain ⟨allowed,further⟩ := legal
    have next := ih rest (always side allowed first) (further m first)
    constructor
    · rintro ⟨_,along⟩
      have good := (along m first).start
      refine ⟨(decides side allowed start first).mpr good,?_⟩
      intro u again
      cases first.symm.trans again
      exact (next good).mp (along m first)
    · rintro ⟨guard,meets⟩
      refine ⟨start,?_⟩
      intro u again
      cases first.symm.trans again
      exact (next ((decides side allowed start first).mp guard)).mpr (meets m first)

/-- A step of a run that is known. -/
theorem Meets.cons {G : σ → α → Prop} {s t : σ} {a : α} {as : List α} (first : step s a = .ok t) (guard : G s a)
    (rest : Meets step G t as) : Meets step G s (a :: as) := by
  refine ⟨guard,?_⟩
  intro u again
  cases first.symm.trans again
  exact rest

/-- A run without a fault keeps `I` exactly as long as its steps meet `G`, where
    `G` keeps an invariant that is enough for `I`, and a step from there that
    does not meet `G` ends `I`. -/
theorem along_iff_meets_of_invariant {I : σ → Prop} (K : σ → Prop) {G : σ → α → Prop} (enough : ∀ {s}, K s → I s)
    (keeps : ∀ {s a t}, K s → G s a → step s a = .ok t → K t)
    (breaks : ∀ {s a t}, K s → ¬ G s a → step s a = .ok t → ¬ I t) {s t : σ} {as : List α}
    (run : exec step s as = .ok t) (start : K s) : Along step I s as ↔ Meets step G s as := by
  constructor
  · intro along
    induction as generalizing s with
    | nil => trivial
    | cons a as ih =>
      obtain ⟨m,first,rest⟩ := bind_eq_ok.mp run
      have good := (along.2 m first).start
      have guard : G s a := by
        by_contra other
        exact breaks start other first good
      exact Meets.cons first guard (ih rest (keeps start guard first) (along.2 m first))
  · intro meets
    induction as generalizing s with
    | nil => exact enough start
    | cons a as ih =>
      obtain ⟨guard,others⟩ := meets
      obtain ⟨m,first,rest⟩ := bind_eq_ok.mp run
      refine ⟨enough start,?_⟩
      intro u again
      cases first.symm.trans again
      exact ih rest (keeps start guard first) (others m first)

/-- The same where the steps that end `I` are known to be taken. -/
theorem along_iff_meets_of_breaks {I : σ → Prop} (K : σ → Prop) {G : σ → α → Prop} (enough : ∀ {s}, K s → I s)
    (keeps : ∀ {s a t}, K s → G s a → step s a = .ok t → K t)
    (breaks : ∀ {s a}, K s → ¬ G s a → ∃ t, step s a = .ok t ∧ ¬ I t) {s : σ} {as : List α} (start : K s) :
    Along step I s as ↔ Meets step G s as := by
  induction as generalizing s with
  | nil => exact ⟨fun _ => trivial,fun _ => enough start⟩
  | cons a as ih =>
    constructor
    · rintro ⟨_,rest⟩
      have guard : G s a := by
        by_contra other
        obtain ⟨t,first,bad⟩ := breaks start other
        exact bad (rest t first).start
      exact ⟨guard,fun t first => (ih (keeps start guard first)).mp (rest t first)⟩
    · rintro ⟨guard,rest⟩
      exact ⟨enough start,fun t first => (ih (keeps start guard first)).mpr (rest t first)⟩

/-- The steps of a run are those of its parts. -/
theorem meets_append {G : σ → α → Prop} {s : σ} {as bs : List α} :
    Meets step G s (as ++ bs) ↔ Meets step G s as ∧ ∀ t, exec step s as = .ok t → Meets step G t bs := by
  induction as generalizing s with
  | nil =>
    constructor
    · intro meets
      refine ⟨trivial,?_⟩
      rintro t ⟨⟩
      exact meets
    · rintro ⟨_,meets⟩
      exact meets s rfl
  | cons a as ih =>
    constructor
    · rintro ⟨guard,rest⟩
      refine ⟨⟨guard,fun m first => (ih.mp (rest m first)).1⟩,?_⟩
      intro t run
      obtain ⟨m,first,ran⟩ := bind_eq_ok.mp run
      exact (ih.mp (rest m first)).2 t ran
    · rintro ⟨⟨guard,rest⟩,more⟩
      refine ⟨guard,?_⟩
      intro m first
      refine ih.mpr ⟨rest m first,?_⟩
      intro t ran
      exact more t (by rw [exec_cons,first,ok_bind,ran])

/-- Both conditions on every step. -/
theorem Meets.and {G : σ → α → Prop} {P : α → Prop} {s : σ} {as : List α} (meets : Meets step G s as)
    (all : ∀ a ∈ as, P a) : Meets step (fun s a => G s a ∧ P a) s as := by
  induction as generalizing s with
  | nil => trivial
  | cons a as ih =>
    obtain ⟨here,rest⟩ := List.forall_mem_cons.mp all
    exact ⟨⟨meets.1,here⟩,fun t first => ih (meets.2 t first) rest⟩

/-! ## Runs over given actions -/

/-- `exec_invariant` where the steps are known to be among given ones. -/
theorem exec_invariant_mem {I : σ → Prop} {s t : σ} {as : List α}
    (keeps : ∀ {s a t}, a ∈ as → I s → step s a = .ok t → I t) (start : I s) (run : exec step s as = .ok t) : I t := by
  induction as generalizing s with
  | nil =>
    cases run
    exact start
  | cons a as ih =>
    obtain ⟨m,first,rest⟩ := bind_eq_ok.mp run
    exact ih (fun member => keeps (List.mem_cons_of_mem a member)) (keeps List.mem_cons_self start first) rest

/-- An action of a run that ended well was taken in some state of it. -/
theorem exec_mem {I : σ → Prop} (keeps : ∀ {s a t}, I s → step s a = .ok t → I t) {s t : σ} {as : List α} (start : I s)
    (run : exec step s as = .ok t) {a : α} (member : a ∈ as) :
    ∃ u v rest, I u ∧ step u a = .ok v ∧ exec step v rest = .ok t := by
  obtain ⟨before,rest,rfl⟩ := List.append_of_mem member
  rw [exec_append] at run
  obtain ⟨u,first,run⟩ := bind_eq_ok.mp run
  obtain ⟨v,stepped,run⟩ := bind_eq_ok.mp run
  exact ⟨u,v,rest,exec_invariant keeps start first,stepped,run⟩

/-- A loop over the indices below `n` keeps what its `k`-th pass carries from
    `k` to `k + 1`. -/
theorem exec_range {step : σ → Nat → Except ε σ} {P : Nat → σ → Prop} {s : σ} (n : Nat) (start : P 0 s)
    (pass : ∀ {k s}, k < n → P k s → ∃ t, step s k = .ok t ∧ P (k + 1) t) :
    ∃ t, exec step s (List.range n) = .ok t ∧ P n t := by
  induction n with
  | zero => exact ⟨s,rfl,start⟩
  | succ n ih =>
    obtain ⟨m,run,reached⟩ := ih (fun below => pass (Nat.lt_succ_of_lt below))
    obtain ⟨t,last,done⟩ := pass (Nat.lt_succ_self n) reached
    refine ⟨t,?_,done⟩
    rw [List.range_succ,exec_append,run,ok_bind,exec_cons,last]
    rfl

end

/-! ## Runs of another machine -/

section
variable {τ β ε : Type} {other : τ → β → Except ε τ}

/-- From one state to another by actions that are all allowed. -/
def Leads (other : τ → β → Except ε τ) (allowed : β → Prop) (a b : τ) : Prop :=
  ∃ bs, (∀ action ∈ bs, allowed action) ∧ exec other a bs = .ok b

theorem Leads.refl {allowed : β → Prop} (a : τ) : Leads other allowed a a := ⟨[],by simp,rfl⟩

theorem Leads.one {allowed : β → Prop} {a b : τ} (action : β) (may : allowed action) (stepped : other a action = .ok b) :
    Leads other allowed a b := ⟨[action],by simpa using may,by rw [exec_cons,stepped]; rfl⟩

theorem Leads.trans {allowed : β → Prop} {a b c : τ} (first : Leads other allowed a b) (second : Leads other allowed b c) :
    Leads other allowed a c := by
  obtain ⟨bs,may,ran⟩ := first
  obtain ⟨cs,may_later,ran_later⟩ := second
  refine ⟨bs ++ cs,List.forall_mem_append.mpr ⟨may,may_later⟩,?_⟩
  rw [exec_append,ran]
  exact ran_later

/-- What the allowed steps keep holds where they lead. -/
theorem Leads.invariant {allowed : β → Prop} {I : τ → Prop}
    (keeps : ∀ {a action b}, allowed action → I a → other a action = .ok b → I b) {a b : τ} (leads : Leads other allowed a b)
    (start : I a) : I b := by
  obtain ⟨bs,may,ran⟩ := leads
  exact exec_invariant_mem (fun member holds stepped => keeps (may _ member) holds stepped) start ran

end

/-! ## Machines that answer -/

section
variable {σ α β ε : Type} {step : σ → α → Except ε (σ × List β)}

/-- The state after all the actions, and everything they put out, in order. -/
def emit (step : σ → α → Except ε (σ × List β)) : σ → List α → Except ε (σ × List β)
  | s, [] => .ok (s, [])
  | s, a :: as => do
    let (t, out) ← step s a
    let (u, more) ← emit step t as
    return (u, out ++ more)

@[simp] theorem emit_nil (s : σ) : emit step s [] = .ok (s, []) := rfl

theorem emit_cons (s : σ) (a : α) (as : List α) :
    emit step s (a :: as) = (step s a >>= fun r => emit step r.1 as >>= fun q => .ok (q.1, r.2 ++ q.2)) := rfl

theorem emit_cons_ok {s t : σ} {a : α} {as : List α} {out : List β} :
    emit step s (a :: as) = .ok (t,out) ↔
      ∃ m first more, step s a = .ok (m,first) ∧ emit step m as = .ok (t,more) ∧ out = first ++ more := by
  rw [emit_cons,bind_eq_ok]
  constructor
  · rintro ⟨⟨m,first⟩,stepped,rest⟩
    obtain ⟨⟨u,more⟩,ran,same⟩ := bind_eq_ok.mp rest
    cases same
    exact ⟨m,first,more,stepped,ran,rfl⟩
  · rintro ⟨m,first,more,stepped,ran,rfl⟩
    exact ⟨(m,first),stepped,bind_eq_ok.mpr ⟨(t,more),ran,rfl⟩⟩

/-- A machine that answers, without its answers. -/
theorem exec_fst (s : σ) (as : List α) : exec (fun s a => Prod.fst <$> step s a) s as = Prod.fst <$> emit step s as := by
  induction as generalizing s with
  | nil => rfl
  | cons a as ih =>
    rw [exec_cons,emit_cons]
    cases step s a with
    | error e => rfl
    | ok r =>
      have rest := ih r.1
      simp only [ok_bind]
      change exec _ r.1 as = _
      rw [rest]
      cases emit step r.1 as with
      | error e => rfl
      | ok q => rfl

/-- A run may be cut anywhere. -/
theorem emit_append (s : σ) (as bs : List α) :
    emit step s (as ++ bs) = (emit step s as >>= fun r => emit step r.1 bs >>= fun q => .ok (q.1, r.2 ++ q.2)) := by
  induction as generalizing s with
  | nil =>
    simp only [List.nil_append,emit_nil,ok_bind]
    cases emit step s bs with
    | error e => rfl
    | ok q => rfl
  | cons a as ih =>
    simp only [List.cons_append,emit_cons]
    cases step s a with
    | error e => rfl
    | ok r =>
      simp only [ok_bind,ih]
      cases emit step r.1 as with
      | error e => rfl
      | ok q =>
        simp only [ok_bind]
        cases emit step q.1 bs with
        | error e => rfl
        | ok p => simp only [ok_bind,List.append_assoc]

end

end DiagRouter.Lib.Runs

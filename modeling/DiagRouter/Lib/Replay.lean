import Mathlib.Data.List.Basic

/-!
# Replaying updates

What a follower of a map knows after the updates it was sent, in order. An
update keeps what is known, gives every key one value, or carries the values of
some of the keys.
-/
namespace DiagRouter.Lib.Replay

section
variable {κ ω : Type}

inductive Update (κ ω : Type)
  | keep
  | all (value : ω)
  | carry (values : κ → Option ω)

def Update.apply : Update κ ω → (κ → Option ω) → κ → Option ω
  | .keep, known => known
  | .all value, _ => fun _ => some value
  | .carry values, known => fun k => (values k).or (known k)

def replay (updates : List (Update κ ω)) (known : κ → Option ω) : κ → Option ω :=
  updates.foldl (fun known update => update.apply known) known

/-- The update gives the key a value. -/
def Update.Brings (k : κ) : Update κ ω → Prop
  | .keep => False
  | .all _ => True
  | .carry values => (values k).isSome

variable {updates : List (Update κ ω)} {known : κ → Option ω}

@[simp] theorem replay_nil (known : κ → Option ω) : replay [] known = known := rfl

@[simp] theorem replay_cons (update : Update κ ω) (updates : List (Update κ ω)) (known : κ → Option ω) :
    replay (update :: updates) known = replay updates (update.apply known) := rfl

theorem apply_isSome (update : Update κ ω) (known : κ → Option ω) (k : κ) :
    (update.apply known k).isSome ↔ (known k).isSome ∨ update.Brings k := by
  cases update with
  | keep => simp [Update.apply,Update.Brings]
  | all value => simp [Update.apply,Update.Brings]
  | carry values => simp [Update.apply,Update.Brings,Option.isSome_or,or_comm]

/-- A key once known stays known, and only updates that bring it make it known. -/
theorem replay_isSome (updates : List (Update κ ω)) (known : κ → Option ω) (k : κ) :
    (replay updates known k).isSome ↔ (known k).isSome ∨ ∃ update ∈ updates, update.Brings k := by
  induction updates generalizing known with
  | nil => simp
  | cons update rest ih =>
    rw [replay_cons,ih,apply_isSome,List.exists_mem_cons_iff,or_assoc]

/-- Updates that say nothing new change nothing. -/
theorem replay_fixed (fixed : ∀ update ∈ updates, update.apply known = known) : replay updates known = known := by
  induction updates with
  | nil => rfl
  | cons update rest ih =>
    obtain ⟨here,others⟩ := List.forall_mem_cons.mp fixed
    rw [replay_cons,here,ih others]

end

end DiagRouter.Lib.Replay

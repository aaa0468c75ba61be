import DiagRouter.Lib.Memory

/-!
# Packets one behind the other

A buffer of `n` bytes in which a packet at an offset is as long as `size` says.
Beginning anywhere there is one way to cut it into whole packets until what is
left is none, and a concatenation of packets is cut into these packets.
-/
namespace DiagRouter.Lib.Packets
open DiagRouter.Lib.Memory

section
variable {size : Nat → Nat} {n : Nat}

/-- From `start` on the packets at the offsets lie one behind the other within the
    buffer, and behind them is no whole packet. -/
def Maximal (size : Nat → Nat) (n : Nat) : (start : Nat) → (offsets : List Nat) → Prop
  | start, [] => n < start + size start
  | start, offset :: rest => offset = start ∧ start + size start ≤ n ∧ Maximal size n (start + size start) rest

instance Maximal.decide (size : Nat → Nat) (n : Nat) : (start : Nat) → (offsets : List Nat) → Decidable (Maximal size n start offsets)
  | start, [] => inferInstanceAs (Decidable (n < start + size start))
  | start, offset :: rest =>
    have := Maximal.decide size n (start + size start) rest
    inferInstanceAs (Decidable (offset = start ∧ start + size start ≤ n ∧ Maximal size n (start + size start) rest))

/-- Where the packets end. -/
def finish (size : Nat → Nat) : (start : Nat) → (offsets : List Nat) → Nat
  | start, [] => start
  | start, _ :: rest => finish size (start + size start) rest

theorem maximal_unique {start : Nat} {offsets others : List Nat} (first : Maximal size n start offsets)
    (second : Maximal size n start others) : offsets = others := by
  induction offsets generalizing start others with
  | nil =>
    cases others with
    | nil => rfl
    | cons other others => exact absurd second.2.1 (Nat.not_le_of_lt first)
  | cons offset offsets ih =>
    cases others with
    | nil => exact absurd first.2.1 (Nat.not_le_of_lt second)
    | cons other others => rw [first.1,second.1,ih first.2.2 second.2.2]

theorem finish_le {start : Nat} {offsets : List Nat} (within : start ≤ n) (maximal : Maximal size n start offsets) :
    finish size start offsets ≤ n := by
  induction offsets generalizing start with
  | nil => exact within
  | cons offset offsets ih => exact ih maximal.2.1 maximal.2.2

/-- There are no more packets than bytes. -/
theorem maximal_length (positive : ∀ offset, 0 < size offset) {start : Nat} {offsets : List Nat} (within : start ≤ n)
    (maximal : Maximal size n start offsets) : start + offsets.length ≤ n := by
  induction offsets generalizing start with
  | nil => exact within
  | cons offset offsets ih =>
    have some_byte := positive start
    have more := ih maximal.2.1 maximal.2.2
    rw [List.length_cons]
    omega

theorem finish_full {start : Nat} {offsets : List Nat} (maximal : Maximal size n start offsets) :
    n < finish size start offsets + size (finish size start offsets) := by
  induction offsets generalizing start with
  | nil => exact maximal
  | cons offset offsets ih => exact ih maximal.2.2

end

/-! ## Concatenations -/

section
variable {α : Type} {size : (Nat → α) → Nat}

/-- The memory from an offset on. -/
def behind (memory : Nat → α) (offset : Nat) : Nat → α := fun i => memory (offset + i)

def size_at (size : (Nat → α) → Nat) (memory : Nat → α) (offset : Nat) : Nat := size (behind memory offset)

/-- The packets at the offsets. -/
def packets_at (size : (Nat → α) → Nat) (memory : Nat → α) (offsets : List Nat) : List (List α) :=
  offsets.map (fun offset => span memory offset (size_at size memory offset))

/-- A packet whose length can be told from its own cells, whatever follows. -/
def Framed (size : (Nat → α) → Nat) (packet : List α) : Prop :=
  ∀ rest, size (place packet rest) = packet.length

theorem behind_place (before cells : List α) (rest : Nat → α) :
    behind (place (before ++ cells) rest) before.length = place cells (behind rest before.length) := by
  funext i
  rw [behind,place,List.getElem?_append_right (Nat.le_add_right _ _),Nat.add_sub_cancel_left]
  rfl

theorem place_append (cells after : List α) (rest : Nat → α) :
    place (cells ++ after) rest = place cells (fun i => place after (behind rest cells.length) (i - cells.length)) := by
  funext i
  by_cases inside : i < cells.length
  · rw [place,place,List.getElem?_append_left inside,List.getElem?_eq_getElem inside]
    rfl
  · obtain ⟨k,rfl⟩ := Nat.exists_eq_add_of_le (Nat.le_of_not_lt inside)
    rw [place,place,List.getElem?_append_right (Nat.le_add_right _ _),List.getElem?_eq_none (Nat.le_add_right _ _),
      Nat.add_sub_cancel_left]
    rfl

/-- Framed packets one behind the other are cut into just these. -/
theorem concatenation_parsed {packets : List (List α)} (framed : ∀ packet ∈ packets, Framed size packet)
    (before : List α) (rest : Nat → α) (positive : ∀ memory, 0 < size memory) :
    ∃ offsets, Maximal (size_at size (place (before ++ packets.flatten) rest)) (before ++ packets.flatten).length
        before.length offsets ∧
      packets_at size (place (before ++ packets.flatten) rest) offsets = packets ∧
      finish (size_at size (place (before ++ packets.flatten) rest)) before.length offsets =
        (before ++ packets.flatten).length := by
  induction packets generalizing before with
  | nil =>
    rw [List.flatten_nil,List.append_nil]
    exact ⟨[],Nat.lt_add_of_pos_right (positive _),rfl,rfl⟩
  | cons packet packets ih =>
    obtain ⟨head,others⟩ := List.forall_mem_cons.mp framed
    have regrouped : before ++ (packet :: packets).flatten = (before ++ packet) ++ packets.flatten := by simp
    obtain ⟨offsets,maximal,cut,ends⟩ := ih others (before ++ packet)
    have length : size_at size (place (before ++ packet ++ packets.flatten) rest) before.length = packet.length := by
      rw [List.append_assoc,size_at,behind_place,place_append,head]
    have next : before.length + packet.length = (before ++ packet).length := List.length_append.symm
    rw [regrouped]
    refine ⟨before.length :: offsets,⟨rfl,?_,?_⟩,?_,?_⟩
    · rw [length,next]
      simp only [List.length_append]
      omega
    · rw [length,next]
      exact maximal
    · rw [packets_at,List.map_cons,length,← packets_at,cut,span_place before packet packets.flatten rest]
    · rw [finish,length,next]
      exact ends

end

end DiagRouter.Lib.Packets

import Mathlib.Data.Nat.Find
import DiagRouter.Lib.Memory

/-!
# Strings that a NUL ends

A string in memory is the cells before the first zero. The search for the end
is bounded by the address space, so it faults where no zero is in reach.
-/
namespace DiagRouter.Lib.CString
open DiagRouter.Lib.Memory

/-- The number of bytes that can be addressed. -/
def ADDRESS_SPACE : Nat := 18446744073709551616

/-- `strlen`, over at most `fuel` bytes. -/
def strlen : (fuel : Nat) → (memory : Nat → UInt8) → (start : Nat) → Except Fault Nat
  | 0, _, _ => .error .outOfBounds
  | fuel + 1, memory, start =>
    if memory start = 0 then .ok 0 else (fun rest => rest + 1) <$> strlen fuel memory (start + 1)

/-- The bytes of the string at `start`. -/
def c_string (memory : Nat → UInt8) (start : Nat) : Except Fault (List UInt8) := do
  let length ← strlen ADDRESS_SPACE memory start
  return span memory start length

/-- The string at the start of a block. -/
def c_string_of (cells : List UInt8) : List UInt8 := cells.takeWhile (fun cell => cell ≠ 0)

/-- `strncpy`: `count` bytes, the string's own and zeros after them. -/
def strncpy (source : List UInt8) (count : Nat) : List UInt8 :=
  source.take count ++ List.replicate (count - source.length) 0

theorem strlen_ok_iff {fuel : Nat} {memory : Nat → UInt8} {start length : Nat} :
    strlen fuel memory start = .ok length ↔
      length < fuel ∧ (∀ i, i < length → memory (start + i) ≠ 0) ∧ memory (start + length) = 0 := by
  induction fuel generalizing start length with
  | zero => simp [strlen]
  | succ fuel ih =>
    by_cases ends : memory start = 0
    · simp only [strlen,ends,if_true,Except.ok.injEq]
      constructor
      · rintro rfl
        exact ⟨Nat.succ_pos fuel,fun i below => absurd below (Nat.not_lt_zero i),ends⟩
      · rintro ⟨_,before,_⟩
        by_contra more
        exact before 0 (by omega) ends
    · simp only [strlen,ends,if_false,map_eq_ok,ih]
      constructor
      · rintro ⟨rest,⟨below,before,last⟩,rfl⟩
        refine ⟨by omega,?_,by rw [← last]; congr 1; omega⟩
        intro i inside
        cases i with
        | zero => exact ends
        | succ i =>
          rw [show start + (i + 1) = start + 1 + i by omega]
          exact before i (by omega)
      · rintro ⟨below,before,last⟩
        cases length with
        | zero => exact absurd last ends
        | succ length =>
          refine ⟨length,⟨by omega,?_,by rw [← last]; congr 1; omega⟩,rfl⟩
          intro i inside
          rw [show start + 1 + i = start + (i + 1) by omega]
          exact before (i + 1) (by omega)

theorem c_string_ok_iff {memory : Nat → UInt8} {start : Nat} {text : List UInt8} :
    c_string memory start = .ok text ↔
      text.length < ADDRESS_SPACE ∧ 0 ∉ text ∧ span memory start text.length = text ∧ memory (start + text.length) = 0 := by
  rw [c_string,bind_eq_ok]
  constructor
  · rintro ⟨length,found,same⟩
    cases same
    obtain ⟨below,before,last⟩ := strlen_ok_iff.mp found
    refine ⟨by rwa [span_length],?_,by rw [span_length],by rwa [span_length]⟩
    intro member
    obtain ⟨i,inside,zero⟩ := List.mem_map.mp member
    exact before i (List.mem_range.mp inside) zero
  · rintro ⟨below,without,spelled,last⟩
    refine ⟨text.length,strlen_ok_iff.mpr ⟨below,?_,last⟩,by rw [spelled]; rfl⟩
    intro i inside zero
    apply without
    rw [← spelled,← zero]
    exact List.mem_map.mpr ⟨i,List.mem_range.mpr inside,rfl⟩

/-- A string ends at the first zero. -/
theorem c_string_length_le {memory : Nat → UInt8} {start i : Nat} {text : List UInt8}
    (found : c_string memory start = .ok text) (zero : memory (start + i) = 0) : text.length ≤ i := by
  obtain ⟨_,without,spelled,_⟩ := c_string_ok_iff.mp found
  by_contra longer
  apply without
  rw [← spelled,← zero]
  exact List.mem_map.mpr ⟨i,List.mem_range.mpr (by omega),rfl⟩

/-- A zero in reach ends the string. -/
theorem c_string_ends {memory : Nat → UInt8} {start : Nat} (ends : ∃ i, i < ADDRESS_SPACE ∧ memory (start + i) = 0) :
    ∃ text, c_string memory start = .ok text := by
  obtain ⟨last,inside,zero⟩ := ends
  have first := Nat.find_spec (p := fun i => memory (start + i) = 0) ⟨last,zero⟩
  have bound := Nat.find_min' (p := fun i => memory (start + i) = 0) ⟨last,zero⟩ zero
  have found := strlen_ok_iff.mpr ⟨Nat.lt_of_le_of_lt bound inside,fun i below => Nat.find_min ⟨last,zero⟩ below,first⟩
  exact ⟨_,bind_eq_ok.mpr ⟨_,found,rfl⟩⟩

theorem strlen_congr {fuel : Nat} {memory other : Nat → UInt8} {start shifted stop : Nat}
    (same : ∀ i, i < stop → memory (start + i) = other (shifted + i)) (ends : ∃ i, i < stop ∧ memory (start + i) = 0) :
    strlen fuel memory start = strlen fuel other shifted := by
  induction fuel generalizing start shifted stop with
  | zero => rfl
  | succ fuel ih =>
    obtain ⟨last,inside,zero⟩ := ends
    have first : memory start = other shifted := same 0 (by omega)
    rw [strlen,strlen,← first]
    split_ifs with here
    · rfl
    · have later : last ≠ 0 := by
        rintro rfl
        exact here zero
      rw [@ih (start + 1) (shifted + 1) (stop - 1)]
      · intro i below
        have next := same (i + 1) (by omega)
        rwa [Nat.add_right_comm start 1 i,Nat.add_right_comm shifted 1 i]
      · exact ⟨last - 1,by omega,by rw [← zero]; congr 1; omega⟩

/-- A string does not depend on what follows its end. -/
theorem c_string_congr {memory other : Nat → UInt8} {start shifted stop : Nat}
    (same : ∀ i, i < stop → memory (start + i) = other (shifted + i)) (ends : ∃ i, i < stop ∧ memory (start + i) = 0) :
    c_string memory start = c_string other shifted := by
  rw [c_string,c_string,← strlen_congr same ends]
  cases found : strlen ADDRESS_SPACE memory start with
  | error fault => rfl
  | ok length =>
    obtain ⟨last,inside,zero⟩ := ends
    obtain ⟨_,before,_⟩ := strlen_ok_iff.mp found
    have short : length ≤ last := by
      by_contra longer
      exact before last (by omega) zero
    have spelled : span memory start length = span other shifted length := by
      apply List.map_congr_left
      intro i member
      exact same i (by have below := List.mem_range.mp member; omega)
    simp only [ok_bind,pure_ok,spelled]

@[simp] theorem c_string_of_append {text rest : List UInt8} (without : 0 ∉ text) : c_string_of (text ++ 0 :: rest) = text := by
  have all : ∀ cell ∈ text, (fun cell : UInt8 => decide (cell ≠ 0)) cell = true := by
    intro cell member
    have other : cell ≠ 0 := fun zero => without (zero ▸ member)
    simpa using other
  rw [c_string_of,List.takeWhile_append_of_pos all]
  simp

@[simp] theorem strncpy_length (source : List UInt8) (count : Nat) : (strncpy source count).length = count := by
  simp only [strncpy,List.length_append,List.length_take,List.length_replicate]
  omega

theorem strncpy_of_le {source : List UInt8} {count : Nat} (enough : count ≤ source.length) :
    strncpy source count = source.take count := by
  rw [strncpy,Nat.sub_eq_zero_of_le enough]
  simp

end DiagRouter.Lib.CString

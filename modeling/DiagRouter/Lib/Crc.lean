import Mathlib.Data.Nat.Basic
import Mathlib.Logic.Function.Iterate
import Mathlib.Tactic.Common

/-!
# Reflected cyclic redundancy checks

The remainder of a list of bits, fed at the low end. A polynomial with its top
bit set makes a shift injective, so a remainder tells apart any two lists that
differ within as many consecutive bits as it has itself.
-/
namespace DiagRouter.Lib.Crc

variable {w : Nat} {poly : BitVec w}

/-- One shift of the remainder, its low bit out. -/
def shift (poly c : BitVec w) : BitVec w := if c.getLsbD 0 then (c >>> 1) ^^^ poly else c >>> 1

def crcBits (poly c : BitVec w) (bits : List Bool) : BitVec w :=
  bits.foldl (fun c b => shift poly (c ^^^ (BitVec.ofBool b).setWidth w)) c

/-- Bits as a word, the first one low. -/
def word (w : Nat) (bits : List Bool) : BitVec w := (BitVec.ofBoolListLE bits).setWidth w

@[simp] theorem crcBits_nil (c : BitVec w) : crcBits poly c [] = c := rfl

@[simp] theorem crcBits_cons (c : BitVec w) (b : Bool) (bits : List Bool) :
    crcBits poly c (b :: bits) = crcBits poly (shift poly (c ^^^ (BitVec.ofBool b).setWidth w)) bits := rfl

theorem crcBits_append (c : BitVec w) (bits more : List Bool) :
    crcBits poly c (bits ++ more) = crcBits poly (crcBits poly c bits) more := List.foldl_append

theorem getLsbD_word (bits : List Bool) (i : Nat) : (word w bits).getLsbD i = (decide (i < w) && bits.getD i false) := by
  simp [word]

theorem word_singleton (b : Bool) : word w [b] = (BitVec.ofBool b).setWidth w := by
  apply BitVec.eq_of_getLsbD_eq
  intro i inside
  rw [getLsbD_word]
  cases i with
  | zero => simp [inside]
  | succ i => simp [inside]

/-- Later bits stand higher. -/
theorem word_append (bits more : List Bool) : word w (bits ++ more) = word w bits ^^^ (word w more <<< bits.length) := by
  apply BitVec.eq_of_getLsbD_eq
  intro i inside
  simp only [BitVec.getLsbD_xor,BitVec.getLsbD_shiftLeft,getLsbD_word,List.getD_eq_getElem?_getD]
  by_cases early : i < bits.length
  · simp [early,List.getElem?_append_left]
  · rw [List.getElem?_append_right (by omega),List.getElem?_eq_none (by omega : bits.length ≤ i)]
    simp [early,inside,show i - bits.length < w by omega]

/-! ## The shift -/

theorem getLsbD_shift (c : BitVec w) (i : Nat) :
    (shift poly c).getLsbD i = (c.getLsbD (i + 1) ^^ (c.getLsbD 0 && poly.getLsbD i)) := by
  unfold shift
  split_ifs with low
  · simp [low,Nat.add_comm]
  · simp [low,Nat.add_comm]

/-- A shift is linear. -/
theorem shift_xor (a b : BitVec w) : shift poly (a ^^^ b) = shift poly a ^^^ shift poly b := by
  have bits : ∀ a b s t p : Bool, ((a ^^ b) ^^ ((s ^^ t) && p)) = ((a ^^ (s && p)) ^^ (b ^^ (t && p))) := by decide
  apply BitVec.eq_of_getLsbD_eq
  intro i _
  simp only [getLsbD_shift,BitVec.getLsbD_xor]
  apply bits

/-- A word that has room moves up by one bit and back. -/
theorem shift_shiftLeft {x : BitVec w} (room : x.getLsbD (w - 1) = false) : shift poly (x <<< 1) = x := by
  apply BitVec.eq_of_getLsbD_eq
  intro i inside
  simp only [getLsbD_shift,BitVec.getLsbD_shiftLeft]
  by_cases last : i = w - 1
  · subst last
    simp [room]
  · simp [show i + 1 < w by omega,inside]

/-- What comes out of a shift is read off the top bit. -/
theorem shift_injective (top : poly.getLsbD (w - 1) = true) : Function.Injective (shift poly) := by
  intro a b same
  have bits : ∀ i, (a.getLsbD (i + 1) ^^ (a.getLsbD 0 && poly.getLsbD i)) =
      (b.getLsbD (i + 1) ^^ (b.getLsbD 0 && poly.getLsbD i)) := by
    intro i
    rw [← getLsbD_shift,← getLsbD_shift,same]
  have low : a.getLsbD 0 = b.getLsbD 0 := by
    have last := bits (w - 1)
    rw [top,BitVec.getLsbD_of_ge a _ (by omega),BitVec.getLsbD_of_ge b _ (by omega)] at last
    simpa using last
  apply BitVec.eq_of_getLsbD_eq
  intro i _
  cases i with
  | zero => exact low
  | succ i =>
    have next := bits i
    rw [low] at next
    simpa using next

theorem iterate_shift_xor (n : Nat) (a b : BitVec w) :
    (shift poly)^[n] (a ^^^ b) = (shift poly)^[n] a ^^^ (shift poly)^[n] b := by
  induction n generalizing a b with
  | zero => rfl
  | succ n ih => rw [Function.iterate_succ_apply,shift_xor,ih]; rfl

/-- A word that has room moves up and back. -/
theorem iterate_shift_shiftLeft {n : Nat} {x : BitVec w} (room : ∀ i, w ≤ i + n → x.getLsbD i = false) :
    (shift poly)^[n] (x <<< n) = x := by
  induction n with
  | zero => simp
  | succ n ih =>
    have top : (x <<< n).getLsbD (w - 1) = false := by
      rw [BitVec.getLsbD_shiftLeft,room (w - 1 - n) (by omega),Bool.and_false]
    rw [Function.iterate_succ_apply,BitVec.shiftLeft_add,shift_shiftLeft top]
    exact ih (fun i beyond => room i (by omega))

/-! ## Bits -/

/-- As long as they all fit, bits may be added at once and then shifted out. -/
theorem crcBits_word {bits : List Bool} (fits : bits.length ≤ w) (c : BitVec w) :
    crcBits poly c bits = (shift poly)^[bits.length] (c ^^^ word w bits) := by
  induction bits generalizing c with
  | nil => simp [word,BitVec.ofBoolListLE]
  | cons b bits ih =>
    have room : (word w bits).getLsbD (w - 1) = false := by
      rw [List.length_cons] at fits
      rw [getLsbD_word,List.getD_eq_getElem?_getD,List.getElem?_eq_none (by omega)]
      simp
    have split : word w (b :: bits) = (BitVec.ofBool b).setWidth w ^^^ (word w bits <<< 1) := by
      rw [← word_singleton]
      exact word_append [b] bits
    rw [crcBits_cons,ih (by simp at fits; omega),List.length_cons,Function.iterate_succ_apply,split,← BitVec.xor_assoc,
      shift_xor _ (word w bits <<< 1),shift_shiftLeft room]

theorem crcBits_injective (top : poly.getLsbD (w - 1) = true) (bits : List Bool) :
    Function.Injective (fun c => crcBits poly c bits) := by
  induction bits with
  | nil => exact fun _ _ same => same
  | cons b bits ih =>
    intro c d same
    have shifted := shift_injective top (ih same)
    exact (BitVec.xor_left_inj _).mp shifted

/-- No two windows of at most `w` bits leave the same remainder. -/
theorem crcBits_window (top : poly.getLsbD (w - 1) = true) {window other : List Bool} (same : window.length = other.length)
    (fits : window.length ≤ w) {c : BitVec w} (crc : crcBits poly c window = crcBits poly c other) : window = other := by
  rw [crcBits_word fits,crcBits_word (same ▸ fits),← same] at crc
  have words := (BitVec.xor_right_inj c).mp ((shift_injective top).iterate _ crc)
  apply List.ext_getElem same
  intro i inside outside
  have bits := congrArg (fun x => BitVec.getLsbD x i) words
  simp only [getLsbD_word] at bits
  simpa [show i < w by omega,inside,outside] using bits

/-- Lists of bits of one length that differ within `w` consecutive bits have
    different remainders. -/
theorem burst_detected (top : poly.getLsbD (w - 1) = true) {sent got : List Bool} (length : got.length = sent.length) {start : Nat}
    (within : ∀ i, got[i]? ≠ sent[i]? → start ≤ i ∧ i < start + w) {c : BitVec w}
    (crc : crcBits poly c got = crcBits poly c sent) : got = sent := by
  have outside : ∀ i, (i < start ∨ start + w ≤ i) → got[i]? = sent[i]? := by
    intro i out
    by_contra differ
    have inside := within i differ
    omega
  have before : got.take start = sent.take start := by
    apply List.ext_getElem?
    intro i
    by_cases early : i < start
    · rw [List.getElem?_take_of_lt early,List.getElem?_take_of_lt early,outside i (.inl early)]
    · rw [List.getElem?_take_eq_none (by omega),List.getElem?_take_eq_none (by omega)]
  have after : (got.drop start).drop w = (sent.drop start).drop w := by
    apply List.ext_getElem?
    intro i
    rw [List.drop_drop,List.drop_drop,List.getElem?_drop,List.getElem?_drop]
    exact outside _ (.inr (by omega))
  have split : ∀ bits : List Bool, bits = bits.take start ++ ((bits.drop start).take w ++ (bits.drop start).drop w) := by
    intro bits
    rw [List.take_append_drop,List.take_append_drop]
  rw [split got,split sent,before,after,crcBits_append,crcBits_append,crcBits_append,crcBits_append] at crc
  have window : (got.drop start).take w = (sent.drop start).take w :=
    crcBits_window top (by simp [length]) (List.length_take_le _ _) (crcBits_injective top _ crc)
  rw [split got,split sent,before,after,window]

end DiagRouter.Lib.Crc

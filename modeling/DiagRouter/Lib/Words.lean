import DiagRouter.Lib.Memory

/-!
# Little-endian words in byte memory

Fixed-width words as a little-endian machine lays them out in packed structures:
`le16` and `le32` spell a word, `le16At` and `le32At` read one, and what was
spelled is what is read.
-/
namespace DiagRouter.Lib.Words
open DiagRouter.Lib.Memory

def le16 (x : UInt16) : List UInt8 := [UInt8.ofNat x.toNat,UInt8.ofNat (x.toNat / 256)]

def le32 (x : UInt32) : List UInt8 :=
  [UInt8.ofNat x.toNat,UInt8.ofNat (x.toNat / 256),UInt8.ofNat (x.toNat / 65536),UInt8.ofNat (x.toNat / 16777216)]

def le16At (memory : Nat → UInt8) (i : Nat) : UInt16 :=
  UInt16.ofNat ((memory i).toNat + 256 * (memory (i + 1)).toNat)

def le32At (memory : Nat → UInt8) (i : Nat) : UInt32 :=
  UInt32.ofNat ((memory i).toNat + 256 * (memory (i + 1)).toNat + 65536 * (memory (i + 2)).toNat +
    16777216 * (memory (i + 3)).toNat)

/-- An array of words. -/
def le32s (xs : List UInt32) : List UInt8 := xs.flatMap le32

@[simp] theorem le16_length (x : UInt16) : (le16 x).length = 2 := rfl
@[simp] theorem le32_length (x : UInt32) : (le32 x).length = 4 := rfl

@[simp] theorem le32s_length (xs : List UInt32) : (le32s xs).length = 4 * xs.length := by
  induction xs with
  | nil => rfl
  | cons x xs ih =>
    simp only [le32s,List.flatMap_cons,List.length_append,le32_length,List.length_cons] at ih ⊢
    omega

theorem le32s_take (xs : List UInt32) (n : Nat) : (le32s xs).take (4 * n) = le32s (xs.take n) := by
  induction xs generalizing n with
  | nil => simp [le32s]
  | cons x xs ih =>
    cases n with
    | zero => rfl
    | succ n =>
      have first : le32s (x :: xs) = le32 x ++ le32s xs := rfl
      have later : le32s (x :: xs.take n) = le32 x ++ le32s (xs.take n) := rfl
      have after : 4 * (n + 1) = (le32 x).length + 4 * n := by rw [le32_length]; omega
      rw [List.take_succ_cons,first,later,after,List.take_length_add_append,ih]

theorem le16At_toNat (memory : Nat → UInt8) (i : Nat) :
    (le16At memory i).toNat = (memory i).toNat + 256 * (memory (i + 1)).toNat := by
  have low := (memory i).toNat_lt
  have high := (memory (i + 1)).toNat_lt
  rw [le16At,UInt16.toNat_ofNat']
  omega

theorem le32At_toNat (memory : Nat → UInt8) (i : Nat) :
    (le32At memory i).toNat = (memory i).toNat + 256 * (memory (i + 1)).toNat +
      65536 * (memory (i + 2)).toNat + 16777216 * (memory (i + 3)).toNat := by
  have first := (memory i).toNat_lt
  have second := (memory (i + 1)).toNat_lt
  have third := (memory (i + 2)).toNat_lt
  have fourth := (memory (i + 3)).toNat_lt
  rw [le32At,UInt32.toNat_ofNat']
  omega

/-- A word is read from its own bytes only. -/
theorem le16At_congr {memory other : Nat → UInt8} {i : Nat} (first : memory i = other i)
    (second : memory (i + 1) = other (i + 1)) : le16At memory i = le16At other i := by
  rw [le16At,le16At,first,second]

theorem le32At_congr {memory other : Nat → UInt8} {i : Nat} (same : ∀ k, k < 4 → memory (i + k) = other (i + k)) :
    le32At memory i = le32At other i := by
  rw [le32At,le32At,show memory i = other i from same 0 (by omega),same 1 (by omega),same 2 (by omega),
    same 3 (by omega)]

theorem le16At_bytes {memory : Nat → UInt8} {i : Nat} {x : UInt16} (spelled : span memory i 2 = le16 x) :
    le16At memory i = x := by
  simp only [span,le16,List.range_succ_eq_map,List.range_zero,List.map_cons,List.map_nil,List.cons.injEq] at spelled
  obtain ⟨first,second,_⟩ := spelled
  apply UInt16.toNat_inj.mp
  have bound := x.toNat_lt
  rw [le16At_toNat,show memory i = UInt8.ofNat x.toNat from first,
    show memory (i + 1) = UInt8.ofNat (x.toNat / 256) from second,UInt8.toNat_ofNat',UInt8.toNat_ofNat']
  omega

/-- The bytes of the word that is read. -/
theorem le16_le16At (memory : Nat → UInt8) (i : Nat) : span memory i 2 = le16 (le16At memory i) := by
  have low := (memory i).toNat_lt
  have high := (memory (i + 1)).toNat_lt
  have first : UInt8.ofNat (le16At memory i).toNat = memory i := by
    apply UInt8.toNat_inj.mp
    rw [le16At_toNat,UInt8.toNat_ofNat']
    omega
  have second : UInt8.ofNat ((le16At memory i).toNat / 256) = memory (i + 1) := by
    apply UInt8.toNat_inj.mp
    rw [le16At_toNat,UInt8.toNat_ofNat']
    omega
  rw [le16,first,second]
  rfl

theorem le32At_bytes {memory : Nat → UInt8} {i : Nat} {x : UInt32} (spelled : span memory i 4 = le32 x) :
    le32At memory i = x := by
  simp only [span,le32,List.range_succ_eq_map,List.range_zero,List.map_cons,List.map_nil,List.cons.injEq] at spelled
  obtain ⟨first,second,third,fourth,_⟩ := spelled
  apply UInt32.toNat_inj.mp
  have bound := x.toNat_lt
  rw [le32At_toNat,show memory i = UInt8.ofNat x.toNat from first,
    show memory (i + 1) = UInt8.ofNat (x.toNat / 256) from second,
    show memory (i + 2) = UInt8.ofNat (x.toNat / 65536) from third,
    show memory (i + 3) = UInt8.ofNat (x.toNat / 16777216) from fourth]
  simp only [UInt8.toNat_ofNat']
  omega

/-- Reading back a word that a list spells. -/
theorem le16At_place (before after : List UInt8) (x : UInt16) (rest : Nat → UInt8) :
    le16At (place (before ++ le16 x ++ after) rest) before.length = x :=
  le16At_bytes (span_place before (le16 x) after rest)

theorem le32At_place (before after : List UInt8) (x : UInt32) (rest : Nat → UInt8) :
    le32At (place (before ++ le32 x ++ after) rest) before.length = x :=
  le32At_bytes (span_place before (le32 x) after rest)

/-- Reading back one word of an array. -/
theorem le32At_le32s (before : List UInt8) (xs : List UInt32) (rest : Nat → UInt8) {k : Nat} (inside : k < xs.length) :
    le32At (place (before ++ le32s xs) rest) (before.length + 4 * k) = xs[k] := by
  have split : before ++ le32s xs = (before ++ le32s (xs.take k)) ++ le32 xs[k] ++ le32s (xs.drop (k + 1)) := by
    have array : le32s xs = le32s (xs.take k) ++ (le32 xs[k] ++ le32s (xs.drop (k + 1))) := by
      conv_lhs => rw [← List.take_append_drop k xs,List.drop_eq_getElem_cons inside]
      simp only [le32s,List.flatMap_append,List.flatMap_cons]
    rw [array]
    simp only [List.append_assoc]
  have at_k : (before ++ le32s (xs.take k)).length = before.length + 4 * k := by
    simp only [List.length_append,le32s_length,List.length_take]
    omega
  rw [split,← at_k]
  exact le32At_place _ _ _ rest

end DiagRouter.Lib.Words

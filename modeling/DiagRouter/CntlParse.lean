import DiagRouter.Lib.Packets
import DiagRouter.CntlLocality

/-!
# Cutting a control stream into packets

The loop of `diag_cntl_recv` with its sums as `size_t` computes them. It hands
out the packets of the one maximal parse of the buffer exactly when the sums at
the end of that parse fit, which a 32 bit `size_t` does not promise: a length
near its limit takes the loop back.
-/
namespace DiagRouter.CntlParse
open DiagRouter.Lib.Memory DiagRouter.Lib.Words DiagRouter.Lib.Runs DiagRouter.Lib.Packets DiagRouter.Masks
open DiagRouter.Cntl
open DiagRouter.CntlLocality (packet_offsets offsets_from recv_eq)

/-! ## The loop -/

/-- The two widths of `size_t`. -/
inductive SizeT
  | bits32
  | bits64
deriving DecidableEq, Repr

def SizeT.modulus : SizeT → Nat
  | .bits32 => 2 ^ 32
  | .bits64 => 2 ^ 64

/-- A sum in `size_t`. -/
def SizeT.wrap (size_t : SizeT) (sum : Nat) : Nat := sum % size_t.modulus

def hdr_len (memory : Nat → UInt8) (offset : Nat) : Nat := (le32At (starting memory offset) 4).toNat

section
variable {σ : Type}

/-- The loop from an offset on; `dispatch` is given the offset of the packet. A
    header that is not in the buffer is read nevertheless when the sum wraps. -/
def cntl_loop (size_t : SizeT) (dispatch : σ → Nat → Except Fault σ) (memory : Nat → UInt8) (n : Nat) :
    (fuel : Nat) → (offset : Nat) → σ → Except Fault σ
  | 0, _, _ => .error .hang
  | fuel + 1, offset, state =>
    if size_t.wrap (offset + 8) > n then .ok state
    else if offset + 8 > n then .error .outOfBounds
    else if size_t.wrap (offset + 8 + hdr_len memory offset) > n then .ok state
    else do
      let state ← dispatch state offset
      cntl_loop size_t dispatch memory n fuel (size_t.wrap (offset + 8 + hdr_len memory offset)) state

end

/-! ## What it should do -/

/-- A header and as many bytes as it says. -/
def packet_size (memory : Nat → UInt8) (offset : Nat) : Nat := 8 + hdr_len memory offset

/-- The commands that have a handler. -/
def is_known (cmd : UInt32) : Bool :=
  cmd ∈ [DIAG_CNTL_CMD_REGISTER,DIAG_CNTL_CMD_FEATURE_MASK,DIAG_CNTL_CMD_DIAG_ID,DIAG_CNTL_CMD_NUM_PRESETS,
    DIAG_CNTL_CMD_DEREGISTER]

/-- The router's own handlers, dispatched by the command at the offset. -/
def router_dispatch (junk : Nat → Nat → UInt8) (masks : MaskTables) (memory : Nat → UInt8) (n : Nat) (state : Cntl)
    (offset : Nat) : Except Fault Cntl := process_packet junk masks (starting memory offset) n state

/-- The buffer has one maximal parse, and the loop ends after a pass for each of
    its bytes at most and has dispatched each packet of the parse, in order, and
    nothing else, whatever a dispatch does. The router's own dispatch leaves out
    the unknown ones. -/
structure Parses (size_t : SizeT) (memory : Nat → UInt8) (n : Nat) (offsets : List Nat) : Prop where
  maximal : Maximal (packet_size memory) n 0 offsets
  unique : ∀ others, Maximal (packet_size memory) n 0 others → others = offsets
  dispatched : ∀ (σ : Type) (dispatch : σ → Nat → Except Fault σ) (state : σ) (fuel : Nat), n < fuel →
    cntl_loop size_t dispatch memory n fuel 0 state = exec dispatch state offsets
  skipped : ∀ junk masks state, exec (router_dispatch junk masks memory n) state offsets =
    exec (router_dispatch junk masks memory n) state (offsets.filter (fun offset => is_known (le32At (starting memory offset) 0)))

/-- At the offset where the packets end, neither of the two sums reaches the end
    of `size_t`; the second one is built if there is a header. -/
def SumsFit (size_t : SizeT) (memory : Nat → UInt8) (n offset : Nat) : Prop :=
  if offset + 8 ≤ n then offset + 8 + hdr_len memory offset < size_t.modulus else offset + 8 < size_t.modulus

instance (size_t : SizeT) (memory : Nat → UInt8) (n offset : Nat) : Decidable (SumsFit size_t memory n offset) :=
  inferInstanceAs (Decidable (if offset + 8 ≤ n then offset + 8 + hdr_len memory offset < size_t.modulus
    else offset + 8 < size_t.modulus))

theorem packet_positive (memory : Nat → UInt8) (offset : Nat) : 0 < packet_size memory offset := by
  unfold packet_size
  omega

/-! ## Passes -/

section
variable {size_t : SizeT} {σ : Type} {memory : Nat → UInt8} {n : Nat}

theorem wrap_of_lt {sum : Nat} (fits : sum < size_t.modulus) : size_t.wrap sum = sum := Nat.mod_eq_of_lt fits

/-- A pass over a packet that is in the buffer. -/
theorem loop_packet (dispatch : σ → Nat → Except Fault σ) (sized : n < size_t.modulus) {offset : Nat}
    (inside : offset + packet_size memory offset ≤ n) (fuel : Nat) (state : σ) :
    cntl_loop size_t dispatch memory n (fuel + 1) offset state =
      (dispatch state offset >>= cntl_loop size_t dispatch memory n fuel (offset + packet_size memory offset)) := by
  have header : offset + 8 ≤ n := by unfold packet_size at inside; omega
  rw [packet_size,← Nat.add_assoc] at inside ⊢
  rw [cntl_loop,wrap_of_lt (by omega),wrap_of_lt (by omega),if_neg (by omega),if_neg (by omega),if_neg (by omega)]

/-- The passes over the packets of a parse. -/
theorem loop_maximal (dispatch : σ → Nat → Except Fault σ) (sized : n < size_t.modulus) {start : Nat} {offsets : List Nat}
    (maximal : Maximal (packet_size memory) n start offsets) (fuel : Nat) (state : σ) :
    cntl_loop size_t dispatch memory n (offsets.length + fuel) start state =
      (exec dispatch state offsets >>= cntl_loop size_t dispatch memory n fuel (finish (packet_size memory) start offsets)) := by
  induction offsets generalizing start state with
  | nil =>
    rw [List.length_nil,Nat.zero_add]
    rfl
  | cons offset offsets ih =>
    obtain ⟨rfl,inside,more⟩ := maximal
    rw [List.length_cons,Nat.add_right_comm,loop_packet dispatch sized inside,exec_cons]
    cases dispatch state offset with
    | error fault => rfl
    | ok after => exact ih more after

/-- Where the rest is no packet and the sums fit, the loop ends. -/
theorem loop_ends (dispatch : σ → Nat → Except Fault σ) {offset : Nat} (full : n < offset + packet_size memory offset)
    (fits : SumsFit size_t memory n offset) (fuel : Nat) (state : σ) :
    cntl_loop size_t dispatch memory n (fuel + 1) offset state = .ok state := by
  rw [packet_size,← Nat.add_assoc] at full
  unfold SumsFit at fits
  split_ifs at fits with header
  · rw [cntl_loop,wrap_of_lt (by omega),wrap_of_lt fits,if_neg (by omega),if_neg (by omega),if_pos full]
  · rw [cntl_loop,wrap_of_lt fits,if_pos (by omega)]

/-! ## Sums that wrap -/

/-- A dispatch that only takes note of what it is given. -/
def note {β : Type} (of_offset : Nat → β) (seen : List β) (offset : Nat) : Except Fault (List β) :=
  .ok (seen ++ [of_offset offset])

theorem exec_note {β : Type} (of_offset : Nat → β) (seen : List β) (offsets : List Nat) :
    exec (note of_offset) seen offsets = .ok (seen ++ offsets.map of_offset) := by
  induction offsets generalizing seen with
  | nil => rw [List.map_nil,List.append_nil]; rfl
  | cons offset offsets ih => rw [exec_cons,note,ok_bind,ih,List.append_assoc,List.map_cons,List.singleton_append]

theorem loop_note {fuel offset : Nat} {seen after : List Nat}
    (run : cntl_loop size_t (note id) memory n fuel offset seen = .ok after) : seen <+: after := by
  induction fuel generalizing offset seen with
  | zero => cases run
  | succ fuel ih =>
    rw [cntl_loop] at run
    split_ifs at run
    · cases run
      exact List.prefix_rfl
    · cases run
      exact List.prefix_rfl
    · exact (List.prefix_append seen [id offset]).trans (ih run)

/-- Beyond the sum of a header and a 32 bit length only the high end of
    `size_t` is left. -/
theorem modulus_room (size_t : SizeT) (len : UInt32) : len.toNat ≤ size_t.modulus := by
  have bound := len.toNat_lt
  cases size_t with
  | bits32 => exact Nat.le_of_lt bound
  | bits64 => exact Nat.le_of_lt (Nat.lt_trans bound (by decide))

/-- Where a sum wraps, the loop reads beyond the buffer or dispatches what is
    not all there. -/
theorem loop_wraps (sized : n < size_t.modulus) {offset : Nat} (within : offset ≤ n)
    (wraps : ¬ SumsFit size_t memory n offset) (fuel : Nat) (seen : List Nat) :
    cntl_loop size_t (note id) memory n (fuel + 1) offset seen ≠ .ok seen := by
  unfold SumsFit at wraps
  have eight : 8 ≤ size_t.modulus := by cases size_t <;> decide
  split_ifs at wraps with header
  · have room := modulus_room size_t (le32At (starting memory offset) 4)
    have wrapped : size_t.wrap (offset + 8 + hdr_len memory offset) = offset + 8 + hdr_len memory offset - size_t.modulus := by
      rw [SizeT.wrap,Nat.mod_eq_sub_mod (by omega),Nat.mod_eq_of_lt (by unfold hdr_len at *; omega)]
    have back : size_t.wrap (offset + 8 + hdr_len memory offset) ≤ n := by
      rw [wrapped]
      unfold hdr_len at *
      omega
    rw [cntl_loop,wrap_of_lt (by omega),if_neg (by omega),if_neg (by omega),if_neg (by omega),note,ok_bind]
    intro run
    have longer := (loop_note run).length_le
    rw [List.length_append,List.length_singleton] at longer
    omega
  · have wrapped : size_t.wrap (offset + 8) = offset + 8 - size_t.modulus := by
      rw [SizeT.wrap,Nat.mod_eq_sub_mod (by omega),Nat.mod_eq_of_lt (by omega)]
    rw [cntl_loop,wrapped,if_neg (by omega),if_pos (by omega)]
    intro run
    cases run

/-- An unknown command changes nothing. -/
theorem unknown_skipped (junk : Nat → Nat → UInt8) (masks : MaskTables) (state : Cntl) {offset : Nat}
    (unknown : is_known (le32At (starting memory offset) 0) = false) :
    router_dispatch junk masks memory n state offset = .ok state := by
  simp only [is_known,decide_eq_false_iff_not,List.mem_cons,List.not_mem_nil,or_false,not_or] at unknown
  obtain ⟨register,feature_mask,diag_id,num_presets,deregister⟩ := unknown
  rw [router_dispatch,process_packet]
  simp only [if_neg register,if_neg feature_mask,if_neg diag_id,if_neg num_presets,if_neg deregister]

theorem parses_of_fit (sized : n < size_t.modulus) {offsets : List Nat} (maximal : Maximal (packet_size memory) n 0 offsets)
    (fits : SumsFit size_t memory n (finish (packet_size memory) 0 offsets)) : Parses size_t memory n offsets := by
  refine ⟨maximal,fun others other => maximal_unique other maximal,?_,?_⟩
  · intro σ dispatch state fuel enough
    have count := maximal_length (packet_positive memory) (Nat.zero_le n) maximal
    obtain ⟨rest,rfl⟩ : ∃ rest, fuel = offsets.length + (rest + 1) := ⟨fuel - offsets.length - 1,by omega⟩
    rw [loop_maximal dispatch sized maximal]
    cases exec dispatch state offsets with
    | error fault => rfl
    | ok after => exact loop_ends dispatch (finish_full maximal) fits rest after
  · intro junk masks state
    have skips : ∀ state offset, is_known (le32At (starting memory offset) 0) = false →
        router_dispatch junk masks memory n state offset = .ok state :=
      fun state _ unknown => unknown_skipped junk masks state unknown
    exact exec_filter skips state offsets

/-- The loop parses the buffer exactly when the sums at the end of the packets
    fit in `size_t`. -/
theorem parse_iff (size_t : SizeT) (memory : Nat → UInt8) (n : Nat) (sized : n < size_t.modulus) :
    (∃ offsets, Parses size_t memory n offsets) ↔
      ∃ offsets, Maximal (packet_size memory) n 0 offsets ∧ SumsFit size_t memory n (finish (packet_size memory) 0 offsets) := by
  constructor
  · rintro ⟨offsets,parses⟩
    refine ⟨offsets,parses.maximal,?_⟩
    by_contra wraps
    have run := parses.dispatched _ (note id) [] (offsets.length + (n + 1)) (by omega)
    rw [loop_maximal (note id) sized parses.maximal,exec_note,List.map_id,ok_bind] at run
    exact loop_wraps sized (finish_le (Nat.zero_le n) parses.maximal) wraps n _ run
  · rintro ⟨offsets,maximal,fits⟩
    exact ⟨offsets,parses_of_fit sized maximal fits⟩

/-- A buffer that is one packet, on 32 bits. -/
theorem presets_parsed : 8 < SizeT.bits32.modulus ∧ ∃ offsets, Parses .bits32
    (place (le32 DIAG_CNTL_CMD_NUM_PRESETS ++ le32 0) (fun _ => 0)) 8 offsets :=
  ⟨by decide,(parse_iff .bits32 _ 8 (by decide)).mpr ⟨[0],⟨rfl,by decide,by decide⟩,by decide⟩⟩

/-! ## Buffers that exist -/

/-- On 64 bits the sums fit in every buffer that leaves room for a packet behind
    it. -/
theorem sums_fit_64 (room : n + 8 + 2 ^ 32 ≤ 2 ^ 64) {offset : Nat} (within : offset ≤ n) :
    SumsFit .bits64 memory n offset := by
  have bound := (le32At (starting memory offset) 4).toNat_lt
  have modulus : SizeT.bits64.modulus = 2 ^ 64 := rfl
  unfold SumsFit hdr_len
  split_ifs
  · omega
  · omega

/-- The complete packets of a buffer are its maximal parse. -/
theorem offsets_from_maximal {fuel start : Nat} (enough : n < fuel + start) :
    Maximal (packet_size memory) n start (offsets_from memory n fuel start) ∨ n < start := by
  induction fuel generalizing start with
  | zero => exact .inr (by omega)
  | succ fuel ih =>
    rw [offsets_from]
    split_ifs with complete
    · simp only [is_complete,decide_eq_true_eq] at complete
      have inside : start + packet_size memory start ≤ n := by unfold packet_size hdr_len; omega
      have next : start + 8 + (le32At (starting memory start) 4).toNat = start + packet_size memory start := by
        rw [packet_size,← Nat.add_assoc,hdr_len]
      rw [next]
      have nearer : n < fuel + (start + packet_size memory start) := by unfold packet_size; omega
      obtain maximal | beyond := ih nearer
      · exact .inl ⟨rfl,inside,maximal⟩
      · exact absurd inside (Nat.not_le_of_lt beyond)
    · simp only [is_complete,decide_eq_true_eq] at complete
      refine .inl ?_
      show n < start + packet_size memory start
      unfold packet_size hdr_len
      omega

theorem packet_offsets_maximal (memory : Nat → UInt8) (n : Nat) :
    Maximal (packet_size memory) n 0 (packet_offsets memory n) :=
  (offsets_from_maximal (Nat.lt_succ_self n)).resolve_right (Nat.not_lt_zero n)

/-- On such a buffer the loop with the router's handlers is `diag_cntl_recv`
    without the bounds of `size_t`. -/
theorem recv_64 (room : n + 8 + 2 ^ 32 ≤ 2 ^ 64) (junk : Nat → Nat → UInt8) (masks : MaskTables) (state : Cntl) :
    cntl_loop .bits64 (router_dispatch junk masks memory n) memory n (n + 1) 0 state =
      diag_cntl_recv junk masks memory n state := by
  have maximal := packet_offsets_maximal memory n
  have modulus : SizeT.bits64.modulus = 2 ^ 64 := rfl
  have parses := parses_of_fit (by omega) maximal (sums_fit_64 room (finish_le (Nat.zero_le n) maximal))
  exact (parses.dispatched _ _ _ _ (Nat.lt_succ_self n)).trans (recv_eq junk masks memory n state).symm

end

/-! ## A length that leads back -/

/-- A header that asks for all of `size_t` but its own length. -/
def endless : List UInt8 := le32 DIAG_CNTL_CMD_NUM_PRESETS ++ le32 0xfffffff8

/-- On 32 bits the loop stays at the packet forever. -/
theorem endless_loop (fuel : Nat) (seen : List Nat) :
    cntl_loop .bits32 (note id) (place endless (fun _ => 0)) 8 fuel 0 seen = .error .hang := by
  induction fuel generalizing seen with
  | zero => rfl
  | succ fuel ih => exact ih (seen ++ [0])

theorem endless_not_parsed : ¬ ∃ offsets, Parses .bits32 (place endless (fun _ => 0)) 8 offsets := by
  rintro ⟨offsets,parses⟩
  have run := parses.dispatched _ (note id) [] 9 (by decide)
  rw [endless_loop,exec_note] at run
  cases run

end DiagRouter.CntlParse

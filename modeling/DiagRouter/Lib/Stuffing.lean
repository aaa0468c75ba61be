import Mathlib.Data.List.Flatten
import Mathlib.Data.List.Induction
import Mathlib.Tactic.Common

/-!
# Byte stuffing

Frames closed by a flag, in whose bodies the flag and the escape are spelled as
the escape followed by a toggled byte. `Reads` is a reader that has consumed
part of a stream: it survives any cut of the stream, and reads the frames of a
stream of stuffed bodies back as those bodies.
-/
namespace DiagRouter.Lib.Stuffing

variable {α : Type} [DecidableEq α] {flag esc : α} {toggle : α → α}

def stuff (flag esc : α) (toggle : α → α) (xs : List α) : List α :=
  xs.flatMap (fun x => if x = esc ∨ x = flag then [esc,toggle x] else [x])

/-- Stuffed bodies, each closed by the flag. -/
def frames (flag esc : α) (toggle : α → α) (bodies : List (List α)) : List α :=
  bodies.flatMap (fun body => stuff flag esc toggle body ++ [flag])

/-- What a stretch without flags stands for, after an escape (`pending`) or not. -/
def unstuff (esc : α) (toggle : α → α) : Bool → List α → List α
  | _, [] => []
  | pending, x :: xs =>
    if x = esc then unstuff esc toggle true xs
    else (if pending then toggle x else x) :: unstuff esc toggle false xs

/-- Whether a stretch ends in an escape. -/
def pendingAfter (esc : α) : Bool → List α → Bool
  | pending, [] => pending
  | _, x :: xs => pendingAfter esc (x = esc) xs

/-- Toggling takes the two special bytes to plain ones and back. -/
structure Transparent (flag esc : α) (toggle : α → α) : Prop where
  distinct : flag ≠ esc
  plain : ∀ x, x = esc ∨ x = flag → toggle x ≠ esc ∧ toggle x ≠ flag
  back : ∀ x, x = esc ∨ x = flag → toggle (toggle x) = x

@[simp] theorem stuff_nil : stuff flag esc toggle [] = [] := rfl

theorem stuff_cons_special {x : α} (special : x = esc ∨ x = flag) (xs : List α) :
    stuff flag esc toggle (x :: xs) = esc :: toggle x :: stuff flag esc toggle xs := by
  simp [stuff,special]

theorem stuff_cons_plain {x : α} (plain : ¬ (x = esc ∨ x = flag)) (xs : List α) :
    stuff flag esc toggle (x :: xs) = x :: stuff flag esc toggle xs := by
  simp [stuff,plain]

theorem stuff_append (xs ys : List α) :
    stuff flag esc toggle (xs ++ ys) = stuff flag esc toggle xs ++ stuff flag esc toggle ys := by
  simp [stuff]

@[simp] theorem frames_nil : frames flag esc toggle [] = [] := rfl

theorem frames_cons (body : List α) (bodies : List (List α)) :
    frames flag esc toggle (body :: bodies) =
      stuff flag esc toggle body ++ flag :: frames flag esc toggle bodies := by
  simp [frames]

theorem flag_not_mem_stuff (transparent : Transparent flag esc toggle) (xs : List α) :
    flag ∉ stuff flag esc toggle xs := by
  induction xs with
  | nil => simp
  | cons x xs ih =>
    by_cases special : x = esc ∨ x = flag
    · rw [stuff_cons_special special]
      simp [transparent.distinct,Ne.symm (transparent.plain x special).2,ih]
    · rw [stuff_cons_plain special]
      simp only [not_or] at special
      simp [Ne.symm special.2,ih]

/-- Nor is it in a piece of what was stuffed. -/
theorem flag_not_mem_cut (transparent : Transparent flag esc toggle) {xs left right : List α}
    (cut : stuff flag esc toggle xs = left ++ right) : flag ∉ left ∧ flag ∉ right := by
  have free := flag_not_mem_stuff transparent xs
  rw [cut,List.mem_append,not_or] at free
  exact free

theorem stuff_length (xs : List α) :
    (stuff flag esc toggle xs).length = xs.length + xs.countP (fun x => x = esc ∨ x = flag) := by
  induction xs with
  | nil => rfl
  | cons x xs ih =>
    by_cases special : x = esc ∨ x = flag
    · rw [stuff_cons_special special,List.countP_cons_of_pos (by simpa using special)]
      simp only [List.length_cons,ih]
      omega
    · rw [stuff_cons_plain special,List.countP_cons_of_neg (by simpa using special)]
      simp only [List.length_cons,ih]
      omega

/-- Every escape of a stuffed body is followed by a toggled byte. -/
theorem stuff_escape (transparent : Transparent flag esc toggle) {xs : List α} {i : Nat}
    (escape : (stuff flag esc toggle xs)[i]? = some esc) :
    ∃ x, (x = esc ∨ x = flag) ∧ (stuff flag esc toggle xs)[i + 1]? = some (toggle x) := by
  induction xs generalizing i with
  | nil => simp at escape
  | cons x xs ih =>
    by_cases special : x = esc ∨ x = flag
    · rw [stuff_cons_special special] at escape ⊢
      match i with
      | 0 => exact ⟨x,special,rfl⟩
      | 1 => exact absurd (Option.some.inj escape) (transparent.plain x special).1
      | i + 2 => exact ih escape
    · rw [stuff_cons_plain special] at escape ⊢
      cases i with
      | zero => exact absurd (.inl (Option.some.inj escape)) special
      | succ i => exact ih escape

/-! ## What a stretch stands for -/

theorem unstuff_length (pending : Bool) (xs : List α) :
    (unstuff esc toggle pending xs).length = xs.countP (fun x => x ≠ esc) := by
  induction xs generalizing pending with
  | nil => rfl
  | cons x xs ih =>
    by_cases escape : x = esc
    · simp [unstuff,escape,ih]
    · simp [unstuff,escape,ih]

theorem unstuff_append (pending : Bool) (xs ys : List α) :
    unstuff esc toggle pending (xs ++ ys) =
      unstuff esc toggle pending xs ++ unstuff esc toggle (pendingAfter esc pending xs) ys := by
  induction xs generalizing pending with
  | nil => rfl
  | cons x xs ih =>
    by_cases escape : x = esc
    · simp [unstuff,pendingAfter,escape,ih]
    · simp [unstuff,pendingAfter,escape,ih]

theorem unstuff_stuff (transparent : Transparent flag esc toggle) (xs : List α) :
    unstuff esc toggle false (stuff flag esc toggle xs) = xs := by
  induction xs with
  | nil => rfl
  | cons x xs ih =>
    by_cases special : x = esc ∨ x = flag
    · rw [stuff_cons_special special]
      simp [unstuff,(transparent.plain x special).1,transparent.back x special,ih]
    · rw [stuff_cons_plain special]
      simp only [not_or] at special
      simp [unstuff,special.1,ih]

/-- After a pending escape a stuffed body has its first byte toggled, unless that
    is escaped itself. -/
theorem unstuff_true_stuff (transparent : Transparent flag esc toggle) (x : α) (xs : List α) :
    unstuff esc toggle true (stuff flag esc toggle (x :: xs)) = (if x = esc ∨ x = flag then x else toggle x) :: xs := by
  by_cases special : x = esc ∨ x = flag
  · rw [stuff_cons_special special,if_pos special]
    simp [unstuff,(transparent.plain x special).1,transparent.back x special,unstuff_stuff transparent]
  · have plain : x ≠ esc := fun same => special (.inl same)
    rw [stuff_cons_plain special,if_neg special]
    simp [unstuff,plain,unstuff_stuff transparent]

/-- A reader that has lost the beginning of a stuffed body reads less than the
    body, or the body with its first byte toggled. -/
theorem unstuff_suffix (transparent : Transparent flag esc toggle) {body lost rest : List α}
    (split : stuff flag esc toggle body = lost ++ rest) (some : lost ≠ []) :
    (unstuff esc toggle false rest).length < body.length ∨
      ∃ x xs, body = x :: xs ∧ (x = esc ∨ x = flag) ∧ unstuff esc toggle false rest = toggle x :: xs := by
  have whole : unstuff esc toggle false lost ++ unstuff esc toggle (pendingAfter esc false lost) rest = body := by
    rw [← unstuff_append,← split,unstuff_stuff transparent]
  have total := congrArg List.length whole
  rw [List.length_append,unstuff_length _ rest] at total
  rw [unstuff_length _ rest]
  by_cases fewer : rest.countP (fun x => x ≠ esc) < body.length
  · exact .inl fewer
  -- Everything that was lost is escapes, so only one byte was.
  have none : (unstuff esc toggle false lost).length = 0 := by omega
  obtain ⟨first,others,rfl⟩ := List.exists_cons_of_ne_nil some
  have escape : first = esc := by
    by_contra plain
    simp [unstuff,plain] at none
  subst escape
  cases body with
  | nil => simp at split
  | cons x xs =>
    by_cases special : x = first ∨ x = flag
    · obtain ⟨plain,_⟩ := transparent.plain x special
      rw [stuff_cons_special special,List.cons_append,List.cons.injEq] at split
      cases others with
      | nil =>
        refine .inr ⟨x,xs,rfl,special,?_⟩
        rw [List.nil_append] at split
        rw [← split.2]
        simp [unstuff,plain,unstuff_stuff transparent]
      | cons second more =>
        rw [List.cons_append,List.cons.injEq] at split
        have second_plain : second ≠ first := by rw [← split.2.1]; exact plain
        simp [unstuff,second_plain] at none
    · rw [stuff_cons_plain special,List.cons_append,List.cons.injEq] at split
      exact absurd (.inl split.1) special

/-! ## Cutting a stream of frames -/

theorem frames_count (transparent : Transparent flag esc toggle) (bodies : List (List α)) :
    (frames flag esc toggle bodies).count flag = bodies.length := by
  induction bodies with
  | nil => rfl
  | cons body bodies ih =>
    have free := List.count_eq_zero_of_not_mem (flag_not_mem_stuff transparent body)
    rw [frames_cons,List.count_append,List.count_cons_self,free,ih,List.length_cons]
    omega

theorem frames_getLast (bodies : List (List α)) :
    frames flag esc toggle bodies = [] ∨ (frames flag esc toggle bodies).getLast? = some flag := by
  rcases List.eq_nil_or_concat bodies with rfl | ⟨others,body,rfl⟩
  · exact .inl rfl
  · exact .inr (by simp [frames])

/-- A stream of frames is cut between two frames, or before the flag of one. -/
theorem frames_cut {chunk rest : List α} {bodies : List (List α)} (cut : chunk ++ rest = frames flag esc toggle bodies) :
    ∃ whole later lost, bodies = whole ++ later ∧ chunk = frames flag esc toggle whole ++ lost ∧
      ((lost = [] ∧ rest = frames flag esc toggle later) ∨
        (lost ≠ [] ∧ ∃ body more left, later = body :: more ∧ stuff flag esc toggle body = lost ++ left ∧
          rest = left ++ flag :: frames flag esc toggle more)) := by
  induction bodies generalizing chunk with
  | nil =>
    obtain ⟨rfl,rfl⟩ := List.append_eq_nil_iff.mp cut
    exact ⟨[],[],[],rfl,rfl,.inl ⟨rfl,rfl⟩⟩
  | cons body bodies ih =>
    have early : ∀ {left : List α}, stuff flag esc toggle body = chunk ++ left →
        rest = left ++ flag :: frames flag esc toggle bodies →
        ∃ whole later lost, body :: bodies = whole ++ later ∧ chunk = frames flag esc toggle whole ++ lost ∧
          ((lost = [] ∧ rest = frames flag esc toggle later) ∨
            (lost ≠ [] ∧ ∃ body more left, later = body :: more ∧ stuff flag esc toggle body = lost ++ left ∧
              rest = left ++ flag :: frames flag esc toggle more)) := by
      intro left stuffed after
      refine ⟨[],body :: bodies,chunk,rfl,rfl,?_⟩
      by_cases nothing : chunk = []
      · refine .inl ⟨nothing,?_⟩
        rw [frames_cons,stuffed,nothing,after,List.nil_append]
      · exact .inr ⟨nothing,body,bodies,left,rfl,stuffed,after⟩
    rw [frames_cons] at cut
    rcases List.append_eq_append_iff.mp cut with ⟨left,stuffed,after⟩ | ⟨beyond,taken,after⟩
    · exact early stuffed after
    · cases beyond with
      | nil => exact @early [] (by simpa using taken.symm) (by simpa using after.symm)
      | cons first beyond =>
        obtain ⟨rfl,more⟩ := List.cons.inj after
        obtain ⟨whole,later,lost,rfl,rfl,ends⟩ := ih more.symm
        exact ⟨body :: whole,later,lost,rfl,by rw [taken,frames_cons]; simp,ends⟩

/-! ## Stretches between flags -/

/-- The stretch that the end of a stream leaves open. -/
def sinceFlag (flag : α) (xs : List α) : List α := xs.foldl (fun stretch x => if x = flag then [] else stretch ++ [x]) []

/-- Where a stretch begins. -/
def Opens (flag : α) (before : List α) : Prop := before = [] ∨ before.getLast? = some flag

theorem sinceFlag_concat (xs : List α) (x : α) :
    sinceFlag flag (xs ++ [x]) = if x = flag then [] else sinceFlag flag xs ++ [x] := by
  simp [sinceFlag]

/-- A stream ends in one stretch only. -/
theorem sinceFlag_eq {before stretch : List α} (opens : Opens flag before) (free : flag ∉ stretch) :
    sinceFlag flag (before ++ stretch) = stretch := by
  induction stretch using List.reverseRecOn with
  | nil =>
    rcases opens with rfl | last
    · rfl
    · obtain ⟨start,rfl⟩ := List.getLast?_eq_some_iff.mp last
      simp [sinceFlag_concat]
  | append_singleton stretch x ih =>
    simp only [List.mem_append,List.mem_singleton,not_or] at free
    rw [← List.append_assoc,sinceFlag_concat,if_neg (Ne.symm free.2),ih free.1]

theorem sinceFlag_split (flag : α) (xs : List α) :
    ∃ before, xs = before ++ sinceFlag flag xs ∧ Opens flag before ∧ flag ∉ sinceFlag flag xs := by
  induction xs using List.reverseRecOn with
  | nil => exact ⟨[],rfl,.inl rfl,by simp [sinceFlag]⟩
  | append_singleton xs x ih =>
    rw [sinceFlag_concat]
    by_cases isFlag : x = flag
    · rw [if_pos isFlag]
      exact ⟨xs ++ [x],by simp,.inr (by simp [isFlag]),by simp⟩
    · obtain ⟨before,split,opens,free⟩ := ih
      rw [if_neg isFlag]
      refine ⟨before,?_,opens,by simp [free,Ne.symm isFlag]⟩
      rw [← List.append_assoc,← split]

theorem sinceFlag_free {stretch : List α} (free : flag ∉ stretch) : sinceFlag flag stretch = stretch := by
  have since := @sinceFlag_eq _ _ flag [] stretch (.inl rfl) free
  rwa [List.nil_append] at since

/-- A stretch behind a flag is the same without what is before the flag. -/
theorem sinceFlag_behind (before more : List α) : sinceFlag flag (before ++ flag :: more) = sinceFlag flag more := by
  obtain ⟨start,split,opens,free⟩ := sinceFlag_split flag more
  have opened : Opens flag (before ++ flag :: start) := by
    refine .inr (List.getLast?_eq_some_iff.mpr ?_)
    rcases opens with rfl | last
    · exact ⟨before,rfl⟩
    · obtain ⟨front,rfl⟩ := List.getLast?_eq_some_iff.mp last
      exact ⟨before ++ flag :: front,by simp⟩
  conv_lhs => rw [split]
  rw [← List.cons_append,← List.append_assoc]
  exact sinceFlag_eq opened free

omit [DecidableEq α] in
/-- A flag of a stream is its first one, or stands behind this. -/
theorem flag_cases {stretch rest before after : List α} (free : flag ∉ stretch)
    (split : stretch ++ flag :: rest = before ++ flag :: after) :
    (before = stretch ∧ after = rest) ∨ ∃ more, before = stretch ++ flag :: more ∧ rest = more ++ flag :: after := by
  rcases List.append_eq_append_iff.mp split with ⟨more,rfl,same⟩ | ⟨more,rfl,same⟩
  · cases more with
    | nil => exact .inl ⟨List.append_nil _,(List.cons.inj same).2.symm⟩
    | cons first more =>
      obtain ⟨rfl,others⟩ := List.cons.inj same
      exact .inr ⟨more,rfl,others⟩
  · cases more with
    | nil => exact .inl ⟨(List.append_nil _).symm,(List.cons.inj same).2⟩
    | cons first more =>
      obtain ⟨rfl,_⟩ := List.cons.inj same
      exact absurd (List.mem_append_right _ List.mem_cons_self) free

/-! ## Reading a stream -/

/-- The reader that has `stored` part of a body, after an escape or not, reads
    `rest` to its end as `bodies`, none of them empty, and is left with nothing. -/
inductive Reads (flag esc : α) (toggle : α → α) : List α → Bool → List α → List (List α) → Prop
  | done : Reads flag esc toggle [] false [] []
  | close {stored : List α} {pending : Bool} {rest : List α} {bodies : List (List α)} (nonempty : stored ≠ [])
      (more : Reads flag esc toggle [] false rest bodies) :
      Reads flag esc toggle stored pending (flag :: rest) (stored :: bodies)
  | escape {stored : List α} {pending : Bool} {rest : List α} {bodies : List (List α)} (distinct : esc ≠ flag)
      (more : Reads flag esc toggle stored true rest bodies) :
      Reads flag esc toggle stored pending (esc :: rest) bodies
  | byte {stored : List α} {pending : Bool} {x : α} {rest : List α} {bodies : List (List α)} (notFlag : x ≠ flag)
      (notEsc : x ≠ esc) (more : Reads flag esc toggle (stored ++ [if pending then toggle x else x]) false rest bodies) :
      Reads flag esc toggle stored pending (x :: rest) bodies

omit [DecidableEq α] in
/-- What is stored begins the next body. -/
theorem Reads.stored_prefix {stored : List α} {pending : Bool} {rest : List α} {bodies : List (List α)}
    (reads : Reads flag esc toggle stored pending rest bodies) (nonempty : stored ≠ []) :
    ∃ body ∈ bodies, stored <+: body := by
  induction reads with
  | done => exact absurd rfl nonempty
  | close _ _ _ => exact ⟨_,List.mem_cons_self,List.prefix_rfl⟩
  | escape _ _ ih => exact ih nonempty
  | byte _ _ _ ih =>
    obtain ⟨body,member,begins⟩ := ih (by simp)
    exact ⟨body,member,(List.prefix_append _ _).trans begins⟩

/-- A stuffed stretch is stored as what it stands for. -/
theorem Reads.stuff (transparent : Transparent flag esc toggle) (body : List α) {stored rest : List α}
    {bodies : List (List α)} (more : Reads flag esc toggle (stored ++ body) false rest bodies) :
    Reads flag esc toggle stored false (stuff flag esc toggle body ++ rest) bodies := by
  induction body generalizing stored with
  | nil => simpa using more
  | cons x xs ih =>
    have next : Reads flag esc toggle ((stored ++ [x]) ++ xs) false rest bodies := by simpa using more
    by_cases special : x = esc ∨ x = flag
    · rw [stuff_cons_special special]
      obtain ⟨notEsc,notFlag⟩ := transparent.plain x special
      refine .escape (Ne.symm transparent.distinct) (.byte notFlag notEsc ?_)
      simpa [transparent.back x special] using ih next
    · rw [stuff_cons_plain special]
      simp only [not_or] at special
      exact .byte special.2 special.1 (by simpa using ih next)

theorem reads_frames (transparent : Transparent flag esc toggle) {bodies : List (List α)}
    (nonempty : ∀ body ∈ bodies, body ≠ []) : Reads flag esc toggle [] false (frames flag esc toggle bodies) bodies := by
  induction bodies with
  | nil => exact .done
  | cons body bodies ih =>
    obtain ⟨first,others⟩ := List.forall_mem_cons.mp nonempty
    rw [frames_cons]
    exact Reads.stuff transparent body (.close first (ih others))

end DiagRouter.Lib.Stuffing

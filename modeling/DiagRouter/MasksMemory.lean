import DiagRouter.Lib.Heap
import DiagRouter.Masks

/-!
# The memory of the mask tables

`diag_masks_init` with an allocator that may refuse. A table is one block, and
each of its entries points to another. When one is refused, `diag_masks_exit`
frees what there is; but the pointers stay, and `main` goes on.
-/
namespace DiagRouter.MasksMemory
open DiagRouter.Lib.Memory DiagRouter.Lib.Runs DiagRouter.Lib.Heap DiagRouter.Masks

def ENOMEM : Int := 12

/-- A static table: its block, and the pointers that its entries hold. -/
structure Table where
  ptr : Option Nat
  entries : List (Option Nat)
deriving DecidableEq, Repr

/-- What is static starts as zeros. -/
def Table.null : Table := ⟨none,[]⟩

structure Tables where
  msg_mask : Table
  msg_bt_mask : Table
  log_mask : Table
  event_mask : Option Nat
deriving DecidableEq, Repr

def Tables.null : Tables := ⟨.null,.null,.null,none⟩

/-! ## Sizes -/

/-- Each entry's block has `range` words of 4 bytes. -/
def msg_sizes : List Nat := diag_create_msg_mask_table.map (fun entry => entry.range * 4)

def log_sizes : List Nat := diag_create_log_mask_table.map DiagLogMask.range

/-! ## Initialisation -/

def diag_mask_init (granted : Nat → Bool) (mask_len : Nat) (h : Blocks) : Int × Option Nat × Blocks :=
  let (ptr,h) := malloc granted mask_len h
  (if ptr = none then -ENOMEM else 0,ptr,h)

/-- The loop of `diag_create_msg_mask_table`, `diag_create_build_time_mask` and
    `diag_create_log_mask_table`, which ends with the first entry that is refused. -/
def create_table (granted : Nat → Bool) (sizes : List Nat) (h : Blocks) : Int × List (Option Nat) × Blocks :=
  let (done,entries,h) := mallocs granted sizes h
  (if done then 0 else -ENOMEM,entries,h)

def table_init (granted : Nat → Bool) (mask_len : Nat) (sizes : List Nat) (h : Blocks) : Int × Table × Blocks :=
  let (ret,ptr,h) := diag_mask_init granted mask_len h
  if ret ≠ 0 then (ret,⟨ptr,[]⟩,h)
  else
    let (err,entries,h) := create_table granted sizes h
    (err,⟨ptr,entries⟩,h)

def diag_msg_mask_init (granted : Nat → Bool) : Blocks → Int × Table × Blocks := table_init granted MSG_MASK_SIZE msg_sizes

def diag_build_time_mask_init (granted : Nat → Bool) : Blocks → Int × Table × Blocks := table_init granted MSG_MASK_SIZE msg_sizes

def diag_log_mask_init (granted : Nat → Bool) : Blocks → Int × Table × Blocks := table_init granted LOG_MASK_SIZE log_sizes

def diag_event_mask_init (granted : Nat → Bool) : Blocks → Int × Option Nat × Blocks := diag_mask_init granted EVENT_MASK_SIZE

/-! ## Exit -/

/-- The entries first, and then their table. -/
def table_exit (table : Table) (h : Blocks) : Except Fault Blocks :=
  if table.ptr = none then .ok h else exec free h table.entries >>= fun h => free h table.ptr

def diag_masks_exit (tables : Tables) (h : Blocks) : Except Fault Blocks := do
  let h ← table_exit tables.msg_mask h
  let h ← table_exit tables.msg_bt_mask h
  let h ← table_exit tables.log_mask h
  free h tables.event_mask

/-- What is initialised after a failure stays as it was. -/
def diag_masks_init (granted : Nat → Bool) (h : Blocks) : Except Fault (Int × Tables × Blocks) :=
  let failed (tables : Tables) (h : Blocks) : Except Fault (Int × Tables × Blocks) :=
    (fun h => (-ENOMEM,tables,h)) <$> diag_masks_exit tables h
  let (ret,msg_mask,h) := diag_msg_mask_init granted h
  let tables := { Tables.null with msg_mask := msg_mask }
  if ret ≠ 0 then failed tables h
  else
    let (ret,msg_bt_mask,h) := diag_build_time_mask_init granted h
    let tables := { tables with msg_bt_mask := msg_bt_mask }
    if ret ≠ 0 then failed tables h
    else
      let (ret,log_mask,h) := diag_log_mask_init granted h
      let tables := { tables with log_mask := log_mask }
      if ret ≠ 0 then failed tables h
      else
        let (ret,event_mask,h) := diag_event_mask_init granted h
        let tables := { tables with event_mask := event_mask }
        if ret ≠ 0 then failed tables h else .ok (0,tables,h)

/-! ## One sequence of blocks -/

/-- All blocks, in the order in which they are asked for. -/
def sizes : List Nat := (MSG_MASK_SIZE :: msg_sizes) ++ (MSG_MASK_SIZE :: msg_sizes) ++ (LOG_MASK_SIZE :: log_sizes) ++ [EVENT_MASK_SIZE]

def Table.pointers (table : Table) : List (Option Nat) := table.ptr :: table.entries

def Tables.pointers (tables : Tables) : List (Option Nat) :=
  tables.msg_mask.pointers ++ tables.msg_bt_mask.pointers ++ tables.log_mask.pointers ++ [tables.event_mask]

/-- Entries are behind a table. -/
def Table.Placed (table : Table) : Prop := table.ptr = none → table.entries = []

section
variable {granted : Nat → Bool} {h t : Blocks}

/-- The pointers are those that the blocks get, apart from some that are NULL. -/
structure Fills (granted : Nat → Bool) (sizes : List Nat) (h : Blocks) (ptrs : List (Option Nat)) (done : Bool) (t : Blocks) :
    Prop where
  done : (mallocs granted sizes h).1 = done
  heap : (mallocs granted sizes h).2.2 = t
  ptrs : ptrs.filterMap id = (mallocs granted sizes h).2.1.filterMap id

theorem Fills.append {mid : Blocks} {xs ys : List Nat} {ptrs more : List (Option Nat)} {done : Bool}
    (first : Fills granted xs h ptrs true mid) (second : Fills granted ys mid more done t) :
    Fills granted (xs ++ ys) h (ptrs ++ more) done t := by
  have whole := @mallocs_append granted xs ys h
  rw [if_pos first.done,first.heap] at whole
  refine ⟨?_,?_,?_⟩
  · rw [whole,second.done]
  · rw [whole,second.heap]
  · rw [whole,List.filterMap_append,List.filterMap_append,first.ptrs,second.ptrs]

/-- What is behind a refused block is not asked for. -/
theorem Fills.stop {xs : List Nat} {ptrs more : List (Option Nat)} (first : Fills granted xs h ptrs false t) (ys : List Nat)
    (null : more.filterMap id = []) : Fills granted (xs ++ ys) h (ptrs ++ more) false t := by
  have refused : (ys.map (fun _ => (none : Option Nat))).filterMap id = [] := by simp
  have whole := @mallocs_append granted xs ys h
  rw [if_neg (by simp [first.done]),first.heap] at whole
  refine ⟨?_,?_,?_⟩
  · rw [whole]
  · rw [whole]
  · rw [whole,List.filterMap_append,List.filterMap_append,first.ptrs,null,refused]

/-- A table is asked for as its block and the blocks of its entries. -/
theorem table_init_fills (granted : Nat → Bool) (mask_len : Nat) (sizes : List Nat) (h : Blocks) :
    ∃ table done t, table_init granted mask_len sizes h = (if done then 0 else -ENOMEM,table,t) ∧ table.Placed ∧
      Fills granted (mask_len :: sizes) h table.pointers done t := by
  cases first : granted h.calls with
  | false =>
    refine ⟨⟨none,[]⟩,false,⟨h.calls + 1,h.live⟩,?_,(fun _ => rfl),?_,?_,?_⟩
    · simp [table_init,diag_mask_init,malloc,first,ENOMEM]
    · simp [mallocs,malloc,first]
    · simp [mallocs,malloc,first]
    · simp [mallocs,malloc,first,Table.pointers]
  | true =>
    refine ⟨⟨some h.calls,(mallocs granted sizes ⟨h.calls + 1,h.live ++ [(h.calls,mask_len)]⟩).2.1⟩,_,_,?_,
      (by rintro ⟨⟩),rfl,rfl,?_⟩
    · simp [table_init,diag_mask_init,create_table,malloc,mallocs,first]
    · simp [mallocs,malloc,first,Table.pointers]

theorem event_init_fills (granted : Nat → Bool) (h : Blocks) :
    ∃ ptr done t, diag_event_mask_init granted h = (if done then 0 else -ENOMEM,ptr,t) ∧
      Fills granted [EVENT_MASK_SIZE] h [ptr] done t := by
  cases first : granted h.calls with
  | false =>
    refine ⟨none,false,⟨h.calls + 1,h.live⟩,?_,?_,?_,?_⟩
    · simp [diag_event_mask_init,diag_mask_init,malloc,first]
    · simp [mallocs,malloc,first]
    · simp [mallocs,malloc,first]
    · simp [mallocs,malloc,first]
  | true =>
    refine ⟨some h.calls,true,⟨h.calls + 1,h.live ++ [(h.calls,EVENT_MASK_SIZE)]⟩,?_,?_,?_,?_⟩
    · simp [diag_event_mask_init,diag_mask_init,malloc,first]
    · simp [mallocs,malloc,first]
    · simp [mallocs,malloc,first]
    · simp [mallocs,malloc,first]

/-- The pointers in the order in which they are freed. -/
def Tables.freed (tables : Tables) : List (Option Nat) :=
  (tables.msg_mask.entries ++ [tables.msg_mask.ptr]) ++ (tables.msg_bt_mask.entries ++ [tables.msg_bt_mask.ptr]) ++
    (tables.log_mask.entries ++ [tables.log_mask.ptr]) ++ [tables.event_mask]

theorem Table.Placed.exit {table : Table} (placed : table.Placed) (h : Blocks) :
    table_exit table h = exec free h (table.entries ++ [table.ptr]) := by
  unfold table_exit
  split_ifs with null
  · rw [placed null,null]
    rfl
  · rw [exec_append]
    cases exec free h table.entries with
    | error fault => rfl
    | ok left =>
      rw [ok_bind,ok_bind,exec_cons]
      cases free left table.ptr <;> rfl

structure Tables.Placed (tables : Tables) : Prop where
  msg_mask : tables.msg_mask.Placed
  msg_bt_mask : tables.msg_bt_mask.Placed
  log_mask : tables.log_mask.Placed

theorem Tables.Placed.exit {tables : Tables} (placed : tables.Placed) (h : Blocks) :
    diag_masks_exit tables h = exec free h tables.freed := by
  rw [diag_masks_exit,Tables.freed,exec_append,exec_append,exec_append,placed.msg_mask.exit]
  cases exec free h (tables.msg_mask.entries ++ [tables.msg_mask.ptr]) with
  | error fault => rfl
  | ok first =>
    rw [ok_bind,ok_bind,placed.msg_bt_mask.exit]
    cases exec free first (tables.msg_bt_mask.entries ++ [tables.msg_bt_mask.ptr]) with
    | error fault => rfl
    | ok second =>
      rw [ok_bind,ok_bind,placed.log_mask.exit]
      cases exec free second (tables.log_mask.entries ++ [tables.log_mask.ptr]) with
      | error fault => rfl
      | ok third =>
        rw [ok_bind,ok_bind,exec_cons]
        cases free third tables.event_mask <;> rfl

theorem freed_perm (tables : Tables) : tables.freed.Perm tables.pointers := by
  have table (t : Table) : (t.entries ++ [t.ptr]).Perm t.pointers := List.perm_append_singleton _ _
  exact (((table _).append (table _)).append (table _)).append (.refl _)

/-- The initialisation asks for one sequence of blocks; when one is refused, it
    frees what there is. -/
theorem masks_init_fills (granted : Nat → Bool) (h : Blocks) :
    ∃ tables done t, Fills granted sizes h tables.pointers done t ∧ tables.Placed ∧
      diag_masks_init granted h =
        if done then .ok (0,tables,t) else (fun t => (-ENOMEM,tables,t)) <$> diag_masks_exit tables t := by
  have nomem : -ENOMEM ≠ 0 := by decide
  have null : Table.null.Placed := fun _ => rfl
  unfold diag_masks_init diag_msg_mask_init diag_build_time_mask_init diag_log_mask_init
  obtain ⟨msg_mask,done,t,ran,msg_placed,msg⟩ := table_init_fills granted MSG_MASK_SIZE msg_sizes h
  rw [ran]
  cases done with
  | false =>
    refine ⟨{ Tables.null with msg_mask := msg_mask },false,t,?_,⟨msg_placed,null,null⟩,if_pos nomem⟩
    exact ((msg.stop _ rfl).stop _ rfl).stop _ rfl
  | true =>
    obtain ⟨msg_bt_mask,done,t,ran,bt_placed,bt⟩ := table_init_fills granted MSG_MASK_SIZE msg_sizes t
    dsimp only
    rw [if_pos rfl,if_neg (not_not.mpr rfl),ran]
    cases done with
    | false =>
      refine ⟨{ Tables.null with msg_mask := msg_mask, msg_bt_mask := msg_bt_mask },false,t,?_,⟨msg_placed,bt_placed,null⟩,
        if_pos nomem⟩
      exact ((msg.append bt).stop _ rfl).stop _ rfl
    | true =>
      obtain ⟨log_mask,done,t,ran,log_placed,log⟩ := table_init_fills granted LOG_MASK_SIZE log_sizes t
      dsimp only
      rw [if_pos rfl,if_neg (not_not.mpr rfl),ran]
      cases done with
      | false =>
        refine ⟨⟨msg_mask,msg_bt_mask,log_mask,none⟩,false,t,?_,⟨msg_placed,bt_placed,log_placed⟩,if_pos nomem⟩
        exact ((msg.append bt).append log).stop _ rfl
      | true =>
        obtain ⟨event_mask,done,t,ran,event⟩ := event_init_fills granted t
        dsimp only
        rw [if_pos rfl,if_neg (not_not.mpr rfl),ran]
        refine ⟨⟨msg_mask,msg_bt_mask,log_mask,event_mask⟩,done,t,((msg.append bt).append log).append event,
          ⟨msg_placed,bt_placed,log_placed⟩,?_⟩
        cases done with
        | false => exact if_pos nomem
        | true => exact if_neg (not_not.mpr rfl)

end

/-- Whichever of the 70 allocations are refused: when none is, every pointer is to
    a live block of its own, of the size asked for; when one is, exactly what was
    allocated is freed, each block once, and no pointer is to a live block. -/
theorem masks_init_balanced (granted : Nat → Bool) {h : Blocks} (valid : Valid h) :
    ∃ ret tables t, diag_masks_init granted h = .ok (ret,tables,t) ∧
      ((∀ k, k < 70 → granted (h.calls + k) = true) → ret = 0 ∧ tables.pointers.filterMap id = List.range' h.calls 70 ∧
        t.live = h.live ++ (List.range' h.calls 70).zip sizes) ∧
      ((∃ k, k < 70 ∧ granted (h.calls + k) = false) → ret = -ENOMEM ∧ t.live = h.live ∧
        ∀ addr, some addr ∈ tables.pointers → addr ∉ t.live.map Prod.fst) := by
  have count : sizes.length = 70 := by decide
  obtain ⟨tables,done,t,fills,placed,ran⟩ := masks_init_fills granted h
  obtain ⟨k,got,all⟩ := @mallocs_got granted sizes h
  rw [fills.heap] at got
  rw [fills.done,count] at all
  have pointers : tables.pointers.filterMap id = List.range' h.calls k := by
    rw [fills.ptrs,got.ptrs,List.filterMap_append]
    simp [List.filterMap_map]
  have most := got.most
  rw [count] at most
  cases done with
  | true =>
    have whole : k = 70 := all.mp rfl
    subst whole
    refine ⟨0,tables,t,ran,?_,?_⟩
    · intro _
      refine ⟨rfl,pointers,?_⟩
      rw [got.live,← count,List.take_length]
    · rintro ⟨j,below,refused⟩
      cases (got.first j below).symm.trans refused
  | false =>
    have short : k < 70 := by
      have other : k ≠ 70 := fun whole => nomatch all.mpr whole
      omega
    have freed : exec free t tables.freed = .ok { t with live := h.live } := by
      refine freed_back valid got.most got.live ?_
      rw [← pointers]
      exact (freed_perm tables).filterMap id
    rw [placed.exit,freed] at ran
    refine ⟨-ENOMEM,tables,{ t with live := h.live },ran,?_,?_⟩
    · intro granted_all
      cases (granted_all k short).symm.trans (got.refused (by omega))
    · intro _
      refine ⟨rfl,rfl,?_⟩
      intro addr member listed
      have address : addr ∈ List.range' h.calls k := by
        rw [← pointers,List.mem_filterMap]
        exact ⟨_,member,rfl⟩
      obtain ⟨block,live,rfl⟩ := List.mem_map.mp listed
      have below := valid block live
      have above := (List.mem_range'_1.mp address).1
      omega

/-- The 30th allocation is refused, of the build-time masks. -/
theorem thirtieth_refused : ∃ ret tables t, diag_masks_init (fun k => k ≠ 29) ⟨0,[]⟩ = .ok (ret,tables,t) ∧ ret = -ENOMEM ∧
    t.live = [] ∧ ∀ addr, some addr ∈ tables.pointers → addr ∉ t.live.map Prod.fst := by
  obtain ⟨ret,tables,t,ran,_,refused⟩ := masks_init_balanced (fun k => k ≠ 29) (h := ⟨0,[]⟩) (fun _ member => nomatch member)
  exact ⟨ret,tables,t,ran,refused ⟨29,by decide,by decide⟩⟩

end DiagRouter.MasksMemory

import DiagRouter.Lib.FirstSeen
import DiagRouter.DiagIdTable

/-!
# Ids of names

Whether every name gets an id and keeps it. Requests of versions 1 and 2 are
numbered by the counter, but a look-up sets the counter back to the id it finds,
so a new name is only taken when the newest one was asked for last.
-/
namespace DiagRouter.DiagIdNames
open DiagRouter.Lib.Memory DiagRouter.Lib.Words DiagRouter.Lib.CString DiagRouter.Lib.Runs DiagRouter.Lib.FirstSeen
open DiagRouter.Handlers DiagRouter.Cntl DiagRouter.DiagIdTable

/-- A well-formed request of version 1 or 2. -/
structure Asks (packet : IdPacket) (name : List UInt8) : Prop where
  version : le32At packet.memory 8 = DIAG_ID_VERSION_1 ∨ le32At packet.memory 8 = DIAG_ID_VERSION_2
  whole : ¬ TooShort packet
  named : request_name packet = .ok name
  short : name.length < 250

/-- The name is answered with the id it was answered with before, or else with
    a fresh one, under which it is added to the table. -/
structure Assigned (state after : Answers) (name : List UInt8) (diag_id : UInt32) : Prop where
  answer : after.given = state.given ++ [(name,diag_id)]
  again : ∀ answer ∈ state.given, answer.1 = name → diag_id = answer.2
  fresh : name ∉ state.given.map Prod.fst →
    diag_id ∉ state.given.map Prod.snd ∧ diag_id_exists diag_id state.ids.diag_ids = false ∧
      ∃ item, after.ids.diag_ids = state.ids.diag_ids ++ [item] ∧ item_process_name item = name ∧
        diag_id = (item_diag_id item).toUInt32

def Assigns (state : Answers) (packet : IdPacket) : Prop :=
  ∃ name after diag_id, request_name packet = .ok name ∧ answer_step state packet = .ok after ∧
    Assigned state after name diag_id

/-- A name was seen before, or the name before it is the newest one. -/
def Follows (earlier : List (List UInt8)) (name : List UInt8) : Prop :=
  name ∈ earlier ∨ earlier.getLast? = earlier.eraseDups.getLast?

/-- Each new name comes first or right after a request for the newest name. -/
def NewAfterNewest : (earlier names : List (List UInt8)) → Prop
  | _, [] => True
  | earlier, name :: names => Follows earlier name ∧ NewAfterNewest (earlier ++ [name]) names

/-! ## What an orderly run leaves -/

/-- Names are numbered from 2 in the order of their first occurrence. -/
def number (earlier : List (List UInt8)) (name : List UInt8) : Nat := earlier.eraseDups.idxOf name + 2

def table (base : Nat) (names : List (List UInt8)) : List DiagIdTbl :=
  names.mapIdx (fun i name => entry (UInt8.ofNat (base + i)) name)

/-- The table and the answers number the names, and the counter is at the number
    of the last one. -/
structure Numbered (earlier : List (List UInt8)) (state : Answers) : Prop where
  text : ∀ name ∈ earlier, 0 ∉ name ∧ name.length < 250
  entries : state.ids.diag_ids = table 2 earlier.eraseDups
  given : state.given = earlier.map (fun name => (name,UInt32.ofNat (number earlier name)))
  counter : state.ids.diag_id = UInt32.ofNat ((earlier.getLast?.map (number earlier)).getD 1)

theorem numbered_init : Numbered [] no_answers := by
  refine ⟨by simp,?_,?_,?_⟩
  · simp [no_answers,no_diag_ids,table]
  · simp [no_answers]
  · simp [no_answers,no_diag_ids,DIAG_ID_APPS]

theorem number_lt {earlier : List (List UInt8)} {name : List UInt8} (seen : name ∈ earlier) :
    number earlier name < earlier.eraseDups.length + 2 :=
  Nat.add_lt_add_right (List.idxOf_lt_length_of_mem (List.mem_eraseDups.mpr seen)) 2

section
variable {base : Nat} {names : List (List UInt8)} {name : List UInt8}

theorem table_cons (first : List UInt8) : table base (first :: names) = entry (UInt8.ofNat base) first :: table (base + 1) names := by
  have shifted : (fun (i : Nat) name => entry (UInt8.ofNat (base + (i + 1))) name) =
      fun i name => entry (UInt8.ofNat (base + 1 + i)) name := by
    funext i name
    rw [Nat.add_right_comm,Nat.add_assoc]
  simp only [table,List.mapIdx_cons,Nat.add_zero,shifted]

theorem table_concat (last : List UInt8) :
    table base (names ++ [last]) = table base names ++ [entry (UInt8.ofNat (base + names.length)) last] := List.mapIdx_concat

theorem mem_table {item : DiagIdTbl} :
    item ∈ table base names ↔ ∃ i, ∃ inside : i < names.length, entry (UInt8.ofNat (base + i)) names[i] = item := by
  simp [table,List.mem_mapIdx]

/-- A name is found under its number. -/
theorem find_table (text : ∀ name ∈ names, 0 ∉ name ∧ name.length < 250) (seen : name ∈ names) :
    find_diag_id name (table base names) = some (UInt8.ofNat (base + names.idxOf name)) := by
  induction names generalizing base with
  | nil => cases seen
  | cons first names ih =>
    obtain ⟨⟨clean,short⟩,others⟩ := List.forall_mem_cons.mp text
    have whole := entry_whole_name (UInt8.ofNat base) clean (by omega)
    rw [table_cons]
    by_cases same : first = name
    · subst same
      simp [find_diag_id,whole]
    · have later := (List.mem_cons.mp seen).resolve_left (fun equal => same equal.symm)
      have number := @ih (base + 1) others later
      rw [find_diag_id] at number ⊢
      rw [List.find?_cons_of_neg (by simpa [whole] using same),number,List.idxOf_cons_ne names same]
      congr 2
      omega

theorem find_table_none (text : ∀ name ∈ names, 0 ∉ name ∧ name.length < 250) (new : name ∉ names) :
    find_diag_id name (table base names) = none := by
  rw [find_none_iff]
  intro member
  obtain ⟨item,present,same⟩ := List.mem_map.mp member
  obtain ⟨i,inside,rfl⟩ := mem_table.mp present
  obtain ⟨clean,short⟩ := text names[i] (List.getElem_mem inside)
  rw [entry_whole_name _ clean (by omega)] at same
  exact new (same ▸ List.getElem_mem inside)

/-- The ids in use are the numbers of the names. -/
theorem exists_table {diag_id : UInt32} (few : base + names.length ≤ 256) :
    diag_id_exists diag_id (table base names) = true ↔ base ≤ diag_id.toNat ∧ diag_id.toNat < base + names.length := by
  rw [exists_iff]
  constructor
  · rintro ⟨item,present,rfl⟩
    obtain ⟨i,inside,rfl⟩ := mem_table.mp present
    rw [entry_diag_id,UInt8.toNat_toUInt32,UInt8.toNat_ofNat']
    omega
  · rintro ⟨low,high⟩
    refine ⟨_,mem_table.mpr ⟨diag_id.toNat - base,by omega,rfl⟩,?_⟩
    rw [entry_diag_id]
    apply UInt32.toNat_inj.mp
    rw [UInt8.toNat_toUInt32,UInt8.toNat_ofNat']
    omega

end

/-! ## One request -/

theorem old_version {memory : Nat → UInt8} (version : le32At memory 8 = DIAG_ID_VERSION_1 ∨ le32At memory 8 = DIAG_ID_VERSION_2) :
    ¬ le32At memory 8 ≥ DIAG_ID_VERSION_3 := by
  rcases version with one | two
  · rw [one]; decide
  · rw [two]; decide

section
variable {earlier : List (List UInt8)} {state : Answers} {packet : IdPacket} {name : List UInt8}

theorem answer_step_asks (asks : Asks packet name) (state : Answers) :
    answer_step state packet = .ok (answered packet.memory name state) := by
  rw [answer_step_eq asks.whole,asks.named]
  rfl

theorem Numbered.names (numbered : Numbered earlier state) : ∀ name ∈ earlier.eraseDups, 0 ∉ name ∧ name.length < 250 :=
  fun name member => numbered.text name (List.mem_eraseDups.mp member)

theorem Numbered.given_names (numbered : Numbered earlier state) : state.given.map Prod.fst = earlier := by
  rw [numbered.given,List.map_map]
  exact List.map_id'' (fun _ => rfl) earlier

/-- The answers keep their numbers when a name follows. -/
theorem Numbered.given_concat (numbered : Numbered earlier state) (name : List UInt8) :
    state.given ++ [(name,UInt32.ofNat (number (earlier ++ [name]) name))] =
      (earlier ++ [name]).map (fun old => (old,UInt32.ofNat (number (earlier ++ [name]) old))) := by
  rw [numbered.given,List.map_append,List.map_singleton]
  congr 1
  apply List.map_congr_left
  intro old seen
  rw [number,number,idxOf_eraseDups_concat seen]

theorem text_concat (numbered : Numbered earlier state) (asks : Asks packet name) :
    ∀ old ∈ earlier ++ [name], 0 ∉ old ∧ old.length < 250 := by
  intro old member
  rcases List.mem_append.mp member with seen | last
  · exact numbered.text old seen
  · obtain rfl := List.mem_singleton.mp last
    exact ⟨request_text asks.named,asks.short⟩

/-- A name that was seen before is answered with its number. -/
theorem known_step (numbered : Numbered earlier state) (few : earlier.eraseDups.length < 200) (asks : Asks packet name)
    (seen : name ∈ earlier) :
    Assigns state packet ∧ Numbered (earlier ++ [name]) (answered packet.memory name state) := by
  have small := number_lt seen
  have kept : number (earlier ++ [name]) name = number earlier name := by rw [number,number,idxOf_eraseDups_concat seen]
  have found : find_diag_id name state.ids.diag_ids = some (UInt8.ofNat (number earlier name)) := by
    rw [numbered.entries,find_table numbered.names (List.mem_eraseDups.mpr seen),number,Nat.add_comm]
  have word : (UInt8.ofNat (number earlier name)).toUInt32 = UInt32.ofNat (number earlier name) := by
    apply UInt32.toNat_inj.mp
    rw [UInt8.toNat_toUInt32,UInt8.toNat_ofNat',UInt32.toNat_ofNat']
    omega
  have after : answered packet.memory name state =
      ⟨{ state.ids with diag_id := UInt32.ofNat (number earlier name) },
        state.given ++ [(name,UInt32.ofNat (number earlier name))]⟩ := by
    rw [answered,local_known found,word]
  constructor
  · refine ⟨name,_,UInt32.ofNat (number earlier name),asks.named,answer_step_asks asks state,by rw [after],?_,?_⟩
    · intro answer member same
      rw [numbered.given] at member
      obtain ⟨old,_,rfl⟩ := List.mem_map.mp member
      dsimp only at same ⊢
      rw [same]
    · intro new
      rw [numbered.given_names] at new
      exact absurd seen new
  · rw [after]
    refine ⟨text_concat numbered asks,?_,?_,?_⟩
    · rw [eraseDups_seen seen]
      exact numbered.entries
    · rw [← kept]
      exact numbered.given_concat name
    · simp [kept]

/-- The number that the counter has for a new name. -/
theorem next_number (numbered : Numbered earlier state) (few : earlier.eraseDups.length < 200) (asks : Asks packet name) :
    (next_diag_id packet.memory state.ids).toNat = (earlier.getLast?.map (number earlier)).getD 1 + 1 := by
  rw [next_diag_id,if_neg (old_version asks.version),numbered.counter,UInt32.toNat_add,UInt32.toNat_ofNat',UInt32.toNat_one]
  cases last : earlier.getLast? with
  | none => rfl
  | some old =>
    have small := number_lt (List.mem_of_getLast? last)
    simp only [Option.map_some,Option.getD_some]
    omega

/-- The number after the last name's is past all others when that name is the
    newest. -/
theorem last_number (earlier : List (List UInt8)) :
    (earlier.getLast?.map (number earlier)).getD 1 < earlier.eraseDups.length + 2 ∧
      ((earlier.getLast?.map (number earlier)).getD 1 = earlier.eraseDups.length + 1 ↔
        earlier.getLast? = earlier.eraseDups.getLast?) := by
  cases last : earlier.getLast? with
  | none =>
    rw [List.getLast?_eq_none_iff] at last
    subst last
    simp
  | some old =>
    have small := number_lt (List.mem_of_getLast? last)
    have newest := last_number_iff last
    rw [last] at newest
    rw [← newest]
    simp only [Option.map_some,Option.getD_some]
    rw [number] at small ⊢
    exact ⟨small,by omega⟩

/-- The next number is taken, unless the newest name came last. -/
theorem turned_down_iff (numbered : Numbered earlier state) (few : earlier.eraseDups.length < 200) (asks : Asks packet name) :
    TurnedDown packet.memory name state.ids ↔ earlier.getLast? ≠ earlier.eraseDups.getLast? := by
  have next := next_number numbered few asks
  obtain ⟨small,newest⟩ := last_number earlier
  have low : 1 ≤ (earlier.getLast?.map (number earlier)).getD 1 := by
    cases earlier.getLast? with
    | none => exact Nat.le_refl 1
    | some old => exact Nat.le_add_left 1 _
  have byte : (next_diag_id packet.memory state.ids).toUInt8 ≠ 0 := by
    intro zero
    have value := congrArg UInt8.toNat zero
    rw [UInt32.toNat_toUInt8,UInt8.toNat_zero] at value
    omega
  have short := asks.short
  rw [TurnedDown,numbered.entries,exists_table (by omega),ne_eq,← newest]
  constructor
  · rintro (taken | zero | wrapped)
    · omega
    · exact absurd zero byte
    · omega
  · intro older
    left
    omega

/-- A new name after the newest one is added under the next number. -/
theorem new_step (numbered : Numbered earlier state) (few : earlier.eraseDups.length < 200) (asks : Asks packet name)
    (new : name ∉ earlier) (newest : earlier.getLast? = earlier.eraseDups.getLast?) :
    Assigns state packet ∧ Numbered (earlier ++ [name]) (answered packet.memory name state) := by
  have taken := (not_congr (turned_down_iff numbered few asks)).mpr (not_not_intro newest)
  have missing : find_diag_id name state.ids.diag_ids = none := by
    rw [numbered.entries]
    exact find_table_none numbered.names (fun member => new (List.mem_eraseDups.mp member))
  have distinct : (earlier ++ [name]).eraseDups = earlier.eraseDups ++ [name] := eraseDups_new new
  have absent : name ∉ earlier.eraseDups := fun member => new (List.mem_eraseDups.mp member)
  have last : number (earlier ++ [name]) name = earlier.eraseDups.length + 2 := by
    rw [number,distinct,List.idxOf_append,if_neg absent,List.idxOf_cons_self,Nat.zero_add]
  have next : next_diag_id packet.memory state.ids = UInt32.ofNat (number (earlier ++ [name]) name) := by
    apply UInt32.toNat_inj.mp
    rw [next_number numbered few asks,(last_number earlier).2.mpr newest,last,UInt32.toNat_ofNat']
    omega
  have byte : (next_diag_id packet.memory state.ids).toUInt8 = UInt8.ofNat (2 + earlier.eraseDups.length) := by
    apply UInt8.toNat_inj.mp
    rw [next,last,UInt32.toNat_toUInt8,UInt32.toNat_ofNat',UInt8.toNat_ofNat']
    omega
  have small : (next_diag_id packet.memory state.ids).toNat < 256 := by
    rw [next,last,UInt32.toNat_ofNat']
    omega
  have after : answered packet.memory name state =
      ⟨⟨table 2 (earlier ++ [name]).eraseDups,next_diag_id packet.memory state.ids⟩,
        state.given ++ [(name,next_diag_id packet.memory state.ids)]⟩ := by
    rw [answered,local_added missing taken,distinct,table_concat,← numbered.entries,byte]
  constructor
  · refine ⟨name,_,next_diag_id packet.memory state.ids,asks.named,answer_step_asks asks state,by rw [after],?_,?_⟩
    · intro answer member same
      rw [← numbered.given_names] at new
      exact absurd (same ▸ List.mem_map_of_mem member) new
    · intro _
      simp only [TurnedDown,not_or,Bool.not_eq_true] at taken
      refine ⟨?_,taken.1,entry (next_diag_id packet.memory state.ids).toUInt8 name,?_,?_,?_⟩
      · rw [numbered.given,List.map_map]
        intro member
        obtain ⟨old,seen,same⟩ := List.mem_map.mp member
        have below := number_lt seen
        have value := congrArg UInt32.toNat same
        rw [next,last] at value
        simp only [Function.comp,UInt32.toNat_ofNat'] at value
        omega
      · rw [after,distinct,table_concat,← numbered.entries,byte]
      · exact entry_whole_name _ (request_text asks.named) (by have short := asks.short; omega)
      · rw [entry_diag_id,small_word.mpr small]
  · rw [after]
    refine ⟨text_concat numbered asks,rfl,?_,?_⟩
    · rw [next]
      exact numbered.given_concat name
    · rw [next]
      simp

/-- A new name after an old one is turned down: its number is taken. -/
theorem late_step (numbered : Numbered earlier state) (few : earlier.eraseDups.length < 200) (asks : Asks packet name)
    (new : name ∉ earlier) (older : earlier.getLast? ≠ earlier.eraseDups.getLast?) : ¬ Assigns state packet := by
  have missing : find_diag_id name state.ids.diag_ids = none := by
    rw [numbered.entries]
    exact find_table_none numbered.names (fun member => new (List.mem_eraseDups.mp member))
  have down := (turned_down_iff numbered few asks).mpr older
  have step := answer_step_asks asks state
  rintro ⟨other,after,diag_id,_,again,assigned⟩
  rw [step,answered,local_turned_down missing down] at again
  cases again
  have length := congrArg List.length assigned.answer
  simp at length

theorem assigns_iff (numbered : Numbered earlier state) (few : earlier.eraseDups.length < 200) (asks : Asks packet name) :
    Assigns state packet ↔ Follows earlier name := by
  by_cases seen : name ∈ earlier
  · exact ⟨fun _ => .inl seen,fun _ => (known_step numbered few asks seen).1⟩
  · by_cases newest : earlier.getLast? = earlier.eraseDups.getLast?
    · exact ⟨fun _ => .inr newest,fun _ => (new_step numbered few asks seen newest).1⟩
    · refine ⟨fun assigns => absurd assigns (late_step numbered few asks seen newest),?_⟩
      rintro (old | last)
      · exact absurd old seen
      · exact absurd last newest

theorem follows_numbered (numbered : Numbered earlier state) (few : earlier.eraseDups.length < 200)
    (asks : Asks packet name) (follows : Follows earlier name) :
    Numbered (earlier ++ [name]) (answered packet.memory name state) := by
  by_cases seen : name ∈ earlier
  · exact (known_step numbered few asks seen).2
  · exact (new_step numbered few asks seen (follows.resolve_left seen)).2

end

/-! ## Runs -/

theorem assigns_run_iff {earlier : List (List UInt8)} {state : Answers} {packets : List IdPacket}
    {names : List (List UInt8)} (asks : List.Forall₂ Asks packets names) (numbered : Numbered earlier state)
    (few : (earlier ++ names).dropLast.eraseDups.length < 200) :
    Meets answer_step Assigns state packets ↔ NewAfterNewest earlier names := by
  induction asks generalizing earlier state with
  | nil => exact Iff.rfl
  | @cons packet name packets names first _ ih =>
    have before : earlier.eraseDups.length < 200 := by
      have shorter : (earlier ++ name :: names).dropLast = earlier ++ (name :: names).dropLast := by
        rw [List.dropLast_append_of_ne_nil (by simp)]
      rw [shorter] at few
      exact Nat.lt_of_le_of_lt (eraseDups_length_append_le earlier _) few
    have step := answer_step_asks first state
    rw [Meets,NewAfterNewest,assigns_iff numbered before first]
    refine and_congr_right (fun follows => ?_)
    have after := follows_numbered numbered before first follows
    rw [step]
    have rest := ih after (by rwa [List.append_assoc])
    rw [← rest]
    constructor
    · exact fun each => each _ rfl
    · rintro meets t same
      cases same
      exact meets

/-- From the empty table, while fewer than 200 names have been seen: every
    request is answered, an old name with its id and a new one with a fresh id,
    exactly when each new name comes first or right after the newest one. -/
theorem ids_available_iff {packets : List IdPacket} {names : List (List UInt8)} (asks : List.Forall₂ Asks packets names)
    (few : names.dropLast.eraseDups.length < 200) :
    Meets answer_step Assigns no_answers packets ↔ NewAfterNewest [] names :=
  assigns_run_iff asks numbered_init few

/-- A version 1 request. -/
theorem diag_id_packet_asks {name : List UInt8} (text : 0 ∉ name) (short : name.length < 250) :
    Asks (diag_id_packet 1 0 name) name := by
  obtain ⟨front,size,spelled⟩ : ∃ front : List UInt8, front.length = 16 ∧
      (diag_id_packet 1 0 name).memory = place (front ++ name ++ [0]) (fun _ => 0) := by
    refine ⟨le32 DIAG_CNTL_CMD_DIAG_ID ++ le32 (UInt32.ofNat (le32 1 ++ le32 0 ++ name ++ [0]).length) ++ le32 1 ++ le32 0,
      by simp,?_⟩
    simp only [diag_id_packet,List.append_assoc]
  have version := le32At_place (le32 DIAG_CNTL_CMD_DIAG_ID ++ le32 (UInt32.ofNat (le32 1 ++ le32 0 ++ name ++ [0]).length))
    (le32 0 ++ name ++ [0]) 1 (fun _ => 0)
  simp only [List.length_append,le32_length,← List.append_assoc] at version
  have plain : is_v2 (diag_id_packet 1 0 name).peripheral.features (diag_id_packet 1 0 name).memory = false := by
    simp [is_v2,diag_id_packet,plain_peripheral]
  refine ⟨.inl ?_,?_,?_,short⟩
  · simp only [diag_id_packet,← List.append_assoc]
    exact version
  · rw [TooShort,diag_id_size,plain]
    simp [diag_id_packet]
    omega
  · rw [request_name,process_name,process_name_at,plain,spelled]
    refine c_string_ok_iff.mpr ⟨by unfold ADDRESS_SPACE; omega,text,?_,?_⟩
    · have found := span_place front name [0] (fun _ => 0)
      rwa [size] at found
    · have ended : (front ++ name ++ [0])[16 + name.length]? = some 0 := by
        rw [List.getElem?_append_right (by simp [size])]
        simp [size]
      change (front ++ name ++ [0])[16 + name.length]?.getD 0 = 0
      rw [ended]
      rfl

theorem ids_available_iff_two :
    Meets answer_step Assigns no_answers [diag_id_packet 1 0 [0x41],diag_id_packet 1 0 [0x42]] ↔
      NewAfterNewest [] [[0x41],[0x42]] :=
  ids_available_iff (.cons (diag_id_packet_asks (by decide) (by decide)) (.cons (diag_id_packet_asks (by decide) (by decide)) .nil))
    (by decide)

/-- Four requests by A, B, A and C: C is not answered. -/
theorem name_after_old_name_unanswered :
    ¬ Meets answer_step Assigns no_answers
      [diag_id_packet 1 0 [0x41],diag_id_packet 1 0 [0x42],diag_id_packet 1 0 [0x41],diag_id_packet 1 0 [0x43]] := by
  have asks : ∀ letter : UInt8, letter ≠ 0 → Asks (diag_id_packet 1 0 [letter]) [letter] := by
    intro letter nonzero
    exact diag_id_packet_asks (by simpa using nonzero.symm) (by simp)
  intro meets
  have ordered := (assigns_run_iff (.cons (asks 0x41 (by decide)) (.cons (asks 0x42 (by decide)) (.cons (asks 0x41 (by decide))
    (.cons (asks 0x43 (by decide)) .nil)))) numbered_init (by decide)).mp meets
  obtain ⟨_,_,_,late,_⟩ := ordered
  exact absurd late (by simp [Follows]; decide)

end DiagRouter.DiagIdNames

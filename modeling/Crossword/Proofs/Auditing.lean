import Crossword.Audit
import Crossword.Proofs.Linking
import Crossword.Proofs.Stroke

/-!
What an audit checks. Each check passes exactly if a condition on the puzzle holds, and
the report is clean exactly if all of them do (`Sound`, `report_eq_clean_iff`). The walk
along a chain lists the clues of the chain, if the links join them as neighbours
(`chainFrom_eq_ok`).
-/
namespace Crossword.Audit

/-- The puzzle agrees with itself. -/
structure Sound (p : Puzzle) : Prop where
  width : (p.board.columns.length : Int) = p.board.width
  height : ∀ column ∈ p.board.columns, (column.length : Int) = p.board.height
  light : ∀ c ∈ p.board.columns.flatten, (p.cell c).light = true → ∃ d, ((p.cell c).slot d).clue.isSome = true
  rows : ∀ i ∈ p.board.clues, ∀ r, (((p.clue i).row r).length : Int) = (p.clue i).length
  revealed : ∀ i ∈ p.board.clues, ((p.clue i).revealed.length : Int) = (p.clue i).length
  crossings : ∀ c ∈ p.board.lightCells, ∀ across down, (p.cell c).across.clue = some across →
    (p.cell c).down.clue = some down → ∀ r, ∃ a d,
      letterAt ((p.clue across).row r) (p.cell c).across.letter = .ok a ∧
        letterAt ((p.clue down).row r) (p.cell c).down.letter = .ok d ∧ Agree a d
  labels : ∀ i ∈ p.board.clues, ∀ c, (p.clue i).cells.head? = some c → (p.cell c).label = some (p.clue i).label
  chains : ∀ i ∈ p.board.clues, ∃ head chain, (p.clue i).links.head = some head ∧ chainFrom p head = .ok chain ∧
    i ∈ chain ∧ ∀ j ∈ chain, (p.clue j).links.head = some head
  heads : ∀ d, p.board.heads d = (p.board.laid d).filter p.isHead

section
variable {α β ε : Type} {p : Puzzle}

/-! ### Checks in order -/

theorem bind_eq_ok_iff {check : Except ε α} {next : α → Except ε β} {b : β} :
    (check >>= next) = .ok b ↔ ∃ a, check = .ok a ∧ next a = .ok b := by
  cases check <;> simp [Bind.bind,Except.bind]

theorem then_eq_ok_iff {check : Except ε Unit} {next : Except ε β} {b : β} :
    (check >>= fun _ => next) = .ok b ↔ check = .ok () ∧ next = .ok b := by
  rw [bind_eq_ok_iff]
  exact ⟨fun ⟨_,now,later⟩ => ⟨now,later⟩,fun ⟨now,later⟩ => ⟨(),now,later⟩⟩

theorem forM_eq_ok_iff {items : List α} {check : α → Except ε Unit} :
    items.forM check = .ok () ↔ ∀ item ∈ items, check item = .ok () := by
  induction items with
  | nil => exact iff_of_true rfl (by simp)
  | cons item rest ih =>
    show (check item >>= fun _ => rest.forM check) = _ ↔ _
    rw [then_eq_ok_iff,List.forall_mem_cons,ih]

theorem ensure_eq_ok_iff {holds : Bool} {finding : AuditFault} : ensure holds finding = .ok () ↔ holds = true := by
  cases holds <;> simp [ensure]

/-- A check passes or reports a finding; it does not stop at anything else. -/
def Reports (check : Except Fault α) : Prop := (∃ a, check = .ok a) ∨ ∃ finding, check = .error (.audit finding)

theorem reports_ensure (holds : Bool) (finding : AuditFault) : Reports (ensure holds finding) := by
  cases holds with
  | true => exact .inl ⟨(),rfl⟩
  | false => exact .inr ⟨finding,rfl⟩

theorem reports_bind {check : Except Fault α} {next : α → Except Fault β} (first : Reports check)
    (later : ∀ a, check = .ok a → Reports (next a)) : Reports (check >>= next) := by
  rcases first with ⟨a,passed⟩ | ⟨finding,failed⟩
  · have last := later a passed
    subst passed
    exact last
  · subst failed
    exact .inr ⟨finding,rfl⟩

theorem reports_forM {items : List α} {check : α → Except Fault Unit} (each : ∀ item ∈ items, Reports (check item)) :
    Reports (items.forM check) := by
  induction items with
  | nil => exact .inl ⟨(),rfl⟩
  | cons item rest ih =>
    obtain ⟨now,later⟩ := List.forall_mem_cons.mp each
    exact reports_bind now fun _ _ => ih later

/-! ### The checks one by one -/

theorem checkCellCount_eq_ok_iff : checkCellCount p = .ok () ↔
    (p.board.columns.length : Int) = p.board.width ∧
      ∀ column ∈ p.board.columns, (column.length : Int) = p.board.height := by
  simp [checkCellCount,ensure_eq_ok_iff]

theorem checkLight_eq_ok_iff : checkLight p = .ok () ↔ ∀ c ∈ p.board.columns.flatten, (p.cell c).light = true →
    ∃ d, ((p.cell c).slot d).clue.isSome = true := by
  simp only [checkLight,forM_eq_ok_iff,ensure_eq_ok_iff]
  refine forall₂_congr fun c _ => ?_
  have some_direction : (∃ d, ((p.cell c).slot d).clue.isSome = true) ↔
      (p.cell c).across.clue.isSome = true ∨ (p.cell c).down.clue.isSome = true := by
    constructor
    · rintro ⟨d,found⟩
      cases d with
      | across => exact .inl found
      | down => exact .inr found
    · rintro (found | found)
      · exact ⟨.across,found⟩
      · exact ⟨.down,found⟩
  rw [some_direction]
  cases (p.cell c).light <;> simp

theorem checkRows_eq_ok_iff : checkRows p = .ok () ↔ ∀ i ∈ p.board.clues,
    (∀ r, (((p.clue i).row r).length : Int) = (p.clue i).length) ∧
      ((p.clue i).revealed.length : Int) = (p.clue i).length := by
  simp only [checkRows,forM_eq_ok_iff,then_eq_ok_iff,ensure_eq_ok_iff,beq_iff_eq]
  refine forall₂_congr fun i _ => ?_
  constructor
  · rintro ⟨answer,solution,revealed⟩
    refine ⟨fun r => ?_,revealed⟩
    cases r with
    | answer => exact answer
    | solution => exact solution
  · rintro ⟨rows,revealed⟩
    exact ⟨rows .answer,rows .solution,revealed⟩

theorem checkShared_eq_ok_iff {c : CellId} {across down : ClueId} {r : Row} : checkShared p c across down r = .ok () ↔
    ∃ a d, letterAt ((p.clue across).row r) (p.cell c).across.letter = .ok a ∧
      letterAt ((p.clue down).row r) (p.cell c).down.letter = .ok d ∧ Agree a d := by
  simp only [checkShared,bind_eq_ok_iff,ensure_eq_ok_iff]
  constructor
  · rintro ⟨a,first,d,second,same⟩
    exact ⟨a,d,first,second,by simpa [Agree,or_assoc] using same⟩
  · rintro ⟨a,d,first,second,same⟩
    exact ⟨a,first,d,second,by simpa [Agree,or_assoc] using same⟩

theorem checkCrossings_eq_ok_iff : checkCrossings p = .ok () ↔ ∀ c ∈ p.board.lightCells, ∀ across down,
    (p.cell c).across.clue = some across → (p.cell c).down.clue = some down → ∀ r, ∃ a d,
      letterAt ((p.clue across).row r) (p.cell c).across.letter = .ok a ∧
        letterAt ((p.clue down).row r) (p.cell c).down.letter = .ok d ∧ Agree a d := by
  simp only [checkCrossings,forM_eq_ok_iff]
  refine forall₂_congr fun c _ => ?_
  cases (p.cell c).across.clue with
  | none => simp
  | some across =>
    cases (p.cell c).down.clue with
    | none => simp
    | some down =>
      simp only [then_eq_ok_iff,checkShared_eq_ok_iff]
      constructor
      · rintro ⟨answer,solution⟩ _ _ ⟨⟩ ⟨⟩ r
        cases r with
        | answer => exact answer
        | solution => exact solution
      · intro all
        exact ⟨all _ _ rfl rfl .answer,all _ _ rfl rfl .solution⟩

theorem checkLabels_eq_ok_iff : checkLabels p = .ok () ↔ ∀ i ∈ p.board.clues, ∀ c,
    (p.clue i).cells.head? = some c → (p.cell c).label = some (p.clue i).label := by
  simp only [checkLabels,forM_eq_ok_iff]
  refine forall₂_congr fun i _ => ?_
  cases (p.clue i).cells with
  | nil => simp
  | cons first rest => simp [ensure_eq_ok_iff]

theorem checkChain_eq_ok_iff {i : ClueId} : checkChain p i = .ok () ↔ ∃ head chain,
    (p.clue i).links.head = some head ∧ chainFrom p head = .ok chain ∧ i ∈ chain ∧
      ∀ j ∈ chain, (p.clue j).links.head = some head := by
  unfold checkChain
  cases (p.clue i).links.head with
  | none => simp
  | some head =>
    rw [bind_eq_ok_iff]
    simp only [then_eq_ok_iff,forM_eq_ok_iff,ensure_eq_ok_iff,beq_iff_eq,List.contains_iff_mem]
    constructor
    · rintro ⟨chain,found,member,same⟩
      exact ⟨head,chain,rfl,found,member,same⟩
    · rintro ⟨_,chain,⟨⟩,found,member,same⟩
      exact ⟨chain,found,member,same⟩

theorem check_eq_ok_iff : check p = .ok () ↔ Sound p := by
  simp only [check,checkChains,checkHeads,then_eq_ok_iff,forM_eq_ok_iff,checkCellCount_eq_ok_iff,checkLight_eq_ok_iff,
    checkRows_eq_ok_iff,checkCrossings_eq_ok_iff,checkLabels_eq_ok_iff,checkChain_eq_ok_iff,ensure_eq_ok_iff,beq_iff_eq]
  constructor
  · rintro ⟨⟨width,height⟩,light,rows,crossings,labels,chains,across,down⟩
    refine ⟨width,height,light,fun i member => (rows i member).1,fun i member => (rows i member).2,crossings,labels,
      chains,fun d => ?_⟩
    cases d with
    | across => exact across
    | down => exact down
  · intro sound
    exact ⟨⟨sound.width,sound.height⟩,sound.light,fun i member => ⟨sound.rows i member,sound.revealed i member⟩,
      sound.crossings,sound.labels,sound.chains,sound.heads .across,sound.heads .down⟩

/-- The report is clean exactly if the puzzle agrees with itself. -/
theorem report_eq_clean_iff : report p = .ok Report.clean ↔ Sound p := by
  rw [← check_eq_ok_iff]
  unfold report
  split
  · next passed => simp [passed]
  · next finding failed => simp [failed,Report.of,Report.clean]
  · next fault _ failed => simp [failed]

/-! ### Walking along a chain -/

theorem walk_eq_ok {chain before after : List ClueId} {h i : ClueId} {unvisited : List ClueId}
    (neighbours : ∀ before i after, chain = before ++ i :: after →
      (p.clue i).links.previous = before.getLast? ∧ (p.clue i).links.next = after.head?)
    (distinct : chain.Nodup) (split : chain = before ++ i :: after) (open_ : ∀ j ∈ i :: after, j ∈ unvisited) :
    walk p h unvisited before.getLast? (some i) = .ok (i :: after) := by
  -- The clues walked so far are closed; the rest of the chain stays open, since none comes twice.
  induction after generalizing before i unvisited with
  | nil =>
    obtain ⟨previous,next⟩ := neighbours before i [] split
    rw [walk,dif_pos (open_ i List.mem_cons_self),previous,next]
    simp [walk]
  | cons j rest ih =>
    obtain ⟨previous,next⟩ := neighbours before i (j :: rest) split
    have apart : i ∉ j :: rest := by
      rw [split] at distinct
      exact (List.nodup_cons.mp (List.nodup_append.mp distinct).2.1).1
    have onward : walk p h (unvisited.erase i) (some i) (some j) = .ok (j :: rest) := by
      have last : (before ++ [i]).getLast? = some i := by simp
      rw [← last]
      refine ih (by simp [split]) fun k member => ?_
      refine (List.mem_erase_of_ne ?_).mpr (open_ k (List.mem_cons_of_mem _ member))
      rintro rfl
      exact apart member
    rw [walk,dif_pos (open_ i List.mem_cons_self),previous,next]
    simp [onward]

theorem chainFrom_eq_ok {h : ClueId} {tails : List ClueId}
    (neighbours : ∀ before i after, h :: tails = before ++ i :: after →
      (p.clue i).links.previous = before.getLast? ∧ (p.clue i).links.next = after.head?)
    (distinct : (h :: tails).Nodup) (present : ∀ i ∈ h :: tails, i < p.clues.size) :
    chainFrom p h = .ok (h :: tails) :=
  walk_eq_ok neighbours distinct (List.nil_append _).symm fun i member => List.mem_range.mpr (present i member)

end

end Crossword.Audit

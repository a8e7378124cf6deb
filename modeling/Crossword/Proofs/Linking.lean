import Crossword.Proofs.Joining
import Crossword.Proofs.Outcome

/-!
When the clues of a board can be linked. While clues are linked one after the other,
a clue is either in one of the chains joined so far or stands alone (`Linked`), and
the next chain goes through exactly if its clues all stand alone (`Joinable`). Over a
whole run this comes to a condition on the references which does not depend on the
order of the clues (`Linkable`, `allJoinable_iff_linkable`).
-/
namespace Crossword
open Edit Chain

/-- The clue lists of the board hold different clues of the puzzle. -/
structure DistinctClues (p : Puzzle) : Prop where
  distinct : p.board.clues.Nodup
  present : ∀ i ∈ p.board.clues, i < p.clues.size

/-- The clues that a clue names in its label, as far as they are found. -/
def targets (p : Puzzle) (i : ClueId) : List ClueId := (p.clue i).references.filterMap p.resolve?

/-- A clue with the clues that it names. -/
def chainOf (p : Puzzle) (i : ClueId) : List ClueId := i :: targets p i

/-- The clue names others in its label. -/
def Opens (p : Puzzle) (i : ClueId) : Prop := (p.clue i).references ≠ []

/-- The references make chains: each names a clue of the board, no clue is named twice,
    and a clue that is named names no others. -/
structure Linkable (p : Puzzle) : Prop where
  resolved : ∀ i ∈ p.board.clues, ∀ reference ∈ (p.clue i).references, ∃ j, p.resolve? reference = some j
  once : (p.board.clues.flatMap (targets p)).Nodup
  leaf : ∀ i ∈ p.board.clues, ∀ j ∈ targets p i, (p.clue j).references = []

/-- The clue is in a chain that one of the clues done opens. -/
def Bound (p : Puzzle) (done : List ClueId) (i : ClueId) : Prop := ∃ h ∈ done, Opens p h ∧ i ∈ chainOf p h

/-- The clue can open a chain after the others. -/
structure Joinable (p : Puzzle) (done : List ClueId) (i : ClueId) : Prop where
  resolved : ∀ reference ∈ (p.clue i).references, ∃ j, p.resolve? reference = some j
  distinct : (chainOf p i).Nodup
  apart : ∀ j ∈ chainOf p i, ¬ Bound p done j

/-- Every clue that opens a chain can do so after those before it. -/
def AllJoinable (p : Puzzle) (done rest : List ClueId) : Prop :=
  InTurn (fun before i => Opens p i → Joinable p before i) done rest

/-- The puzzle in which the chains of the clues done have been joined. Here and below
    `p` is the puzzle before any clue was linked. -/
structure Linked (p : Puzzle) (done : List ClueId) (q : Puzzle) : Prop where
  same : SameButLinks p q
  alone : ∀ i ∈ p.board.clues, ¬ Bound p done i → (q.clue i).links = (p.clue i).aloneLinks i
  tied : ∀ h ∈ done, Opens p h → ∀ i ∈ chainOf p h, Tied p (chainOf p h) i (q.clue i).links
  some_target : ∀ h ∈ done, Opens p h → targets p h ≠ []

section
variable {p q : Puzzle} {h i j : ClueId} {done rest chain found : List ClueId} {reference : Reference}

/-! ### References -/

theorem resolve?_mem (resolves : p.resolve? reference = some j) : j ∈ p.board.clues := by
  have member := List.mem_of_find?_eq_some resolves
  unfold Board.cluesFor at member
  split at member
  · next d _ =>
    cases d with
    | across => exact List.mem_append_left _ member
    | down => exact List.mem_append_right _ member
  · exact member

theorem mem_targets : j ∈ targets p i ↔ ∃ reference ∈ (p.clue i).references, p.resolve? reference = some j := by
  simp [targets]

theorem targets_subset (named : j ∈ targets p i) : j ∈ p.board.clues := by
  obtain ⟨_,_,resolves⟩ := mem_targets.mp named
  exact resolve?_mem resolves

theorem opens_of_target (named : j ∈ targets p i) : Opens p i := by
  obtain ⟨_,member,_⟩ := mem_targets.mp named
  exact List.ne_nil_of_mem member

theorem targets_ne_nil (opens : Opens p i)
    (resolved : ∀ reference ∈ (p.clue i).references, ∃ j, p.resolve? reference = some j) : targets p i ≠ [] := by
  obtain ⟨reference,member⟩ := List.exists_mem_of_ne_nil _ opens
  obtain ⟨j,resolves⟩ := resolved reference member
  exact List.ne_nil_of_mem (mem_targets.mpr ⟨reference,member,resolves⟩)

/-- What one more clue adds to the clues in chains. -/
theorem bound_concat : Bound p (done ++ [i]) j ↔ Bound p done j ∨ Opens p i ∧ j ∈ chainOf p i := by
  constructor
  · rintro ⟨h,member,opens,inside⟩
    rcases List.mem_append.mp member with earlier | here
    · exact .inl ⟨h,earlier,opens,inside⟩
    · cases List.mem_singleton.mp here
      exact .inr ⟨opens,inside⟩
  · rintro (⟨h,earlier,opens,inside⟩ | ⟨opens,inside⟩)
    · exact ⟨h,List.mem_append_left _ earlier,opens,inside⟩
    · exact ⟨i,by simp,opens,inside⟩

/-! ### One condition for all orders -/

/-- The chains of two clues have no clue in common, whichever of the two comes first. -/
theorem AllJoinable.apart (all : AllJoinable p [] p.board.clues) (one : i ∈ p.board.clues) (other : j ∈ p.board.clues)
    (different : i ≠ j) (opens : Opens p i) (opens' : Opens p j) (k : ClueId) (inside : k ∈ chainOf p i) :
    k ∉ chainOf p j := by
  have inTurn : InTurn (fun before b => ∀ a ∈ before, Opens p a → Opens p b → ∀ k ∈ chainOf p a, k ∉ chainOf p b) []
      p.board.clues := by
    intro before b after split a earlier first second k inside bound
    exact (all before b after split second).apart k bound ⟨a,earlier,first,inside⟩
  refine inTurn.symmetric ?_ one other different opens opens' k inside
  intro a b apart first second k inside bound
  exact apart second first k bound inside

theorem AllJoinable.joinable (all : AllJoinable p [] p.board.clues) (member : i ∈ p.board.clues) (opens : Opens p i) :
    ∃ done, Joinable p done i := by
  obtain ⟨before,after,split⟩ := List.append_of_mem member
  exact ⟨_,all before i after split opens⟩

theorem linkable_of_allJoinable (distinct : p.board.clues.Nodup) (all : AllJoinable p [] p.board.clues) :
    Linkable p where
  resolved i member reference named := by
    obtain ⟨_,joins⟩ := all.joinable member (List.ne_nil_of_mem named)
    exact joins.resolved reference named
  once := by
    refine List.nodup_flatMap.mpr ⟨?_,?_⟩
    · intro i member
      by_cases opens : Opens p i
      · obtain ⟨_,joins⟩ := all.joinable member opens
        exact (List.nodup_cons.mp joins.distinct).2
      · simp [targets,not_not.mp opens]
    · refine List.Pairwise.imp_of_mem (fun one other different k first second => ?_) distinct
      exact all.apart one other different (opens_of_target first) (opens_of_target second) k
        (List.mem_cons_of_mem _ first) (List.mem_cons_of_mem _ second)
  leaf i member j named := by
    by_contra opens
    obtain ⟨_,joins⟩ := all.joinable member (opens_of_target named)
    have different : i ≠ j := by
      rintro rfl
      exact (List.nodup_cons.mp joins.distinct).1 named
    exact all.apart member (targets_subset named) different (opens_of_target named) opens j
      (List.mem_cons_of_mem _ named) List.mem_cons_self

theorem allJoinable_of_linkable (distinct : p.board.clues.Nodup) (linkable : Linkable p) :
    AllJoinable p [] p.board.clues := by
  intro before i after split opens
  have member : i ∈ p.board.clues := by simp [split]
  have once := linkable.once
  rw [split] at once distinct
  refine ⟨linkable.resolved i member,?_,?_⟩
  · refine List.nodup_cons.mpr ⟨fun named => opens (linkable.leaf i member i named),?_⟩
    exact (List.nodup_flatMap.mp linkable.once).1 i member
  · rintro j inside ⟨h,earlier,opens',bound⟩
    have earlier : h ∈ before := by simpa using earlier
    have member' : h ∈ p.board.clues := by simp [split,earlier]
    rcases List.mem_cons.mp inside with rfl | named
    · rcases List.mem_cons.mp bound with rfl | named
      · exact (List.nodup_append.mp distinct).2.2 _ earlier _ List.mem_cons_self rfl
      · exact opens (linkable.leaf h member' _ named)
    · rcases List.mem_cons.mp bound with rfl | named'
      · exact opens' (linkable.leaf i member _ named)
      · have disjoint := (List.nodup_flatMap.mp once).2
        exact (List.pairwise_append.mp disjoint).2.2 h earlier i List.mem_cons_self named' named

/-- The condition that a run checks clue by clue is one on the references alone. -/
theorem allJoinable_iff_linkable (distinct : p.board.clues.Nodup) :
    AllJoinable p [] p.board.clues ↔ Linkable p :=
  ⟨linkable_of_allJoinable distinct,allJoinable_of_linkable distinct⟩

/-! ### Gathering a chain -/

theorem isTaken_eq_false_iff : isTaken q chain j = false ↔
    j ∉ chain ∧ q.isHead j = true ∧ (q.clue j).links.tails = [] := by
  simp [isTaken,and_assoc]

theorem gather_eq_ok_iff {references : List Reference} (distinct : chain.Nodup) :
    gather q h chain references = .ok found ↔
      (∀ reference ∈ references, ∃ j, q.resolve? reference = some j) ∧
        (chain ++ references.filterMap q.resolve?).Nodup ∧
        (∀ j ∈ references.filterMap q.resolve?, q.isHead j = true ∧ (q.clue j).links.tails = []) ∧
        chain ++ references.filterMap q.resolve? = found := by
  induction references generalizing chain with
  | nil => simp [gather,distinct]
  | cons reference rest ih =>
    unfold gather
    cases resolves : q.resolve? reference with
    | none => simp [resolves]
    | some j =>
      simp only [List.filterMap_cons,resolves,List.forall_mem_cons,Option.some.injEq,exists_eq',true_and]
      cases taken : isTaken q chain j with
      | true =>
        simp only [if_true,reduceCtorEq,false_iff]
        rintro ⟨_,distinct',⟨⟨head,tails⟩,_⟩,_⟩
        have apart : j ∉ chain := fun member => (List.nodup_append.mp distinct').2.2 j member j List.mem_cons_self rfl
        have free : isTaken q chain j = false := isTaken_eq_false_iff.mpr ⟨apart,head,tails⟩
        rw [taken] at free
        cases free
      | false =>
        obtain ⟨outside,free⟩ := isTaken_eq_false_iff.mp taken
        have distinct' : (chain ++ [j]).Nodup := by
          simpa [List.nodup_append] using ⟨distinct,fun k member same => outside (same ▸ member)⟩
        simp [ih distinct',free]

/-! ### Joining one chain after others -/

namespace Linked

/-- A clue that has not been done yet is its own head, and is not the head of others,
    exactly if it is in none of the chains. -/
theorem free_iff (linked : Linked p done q) (member : j ∈ p.board.clues) :
    (q.isHead j = true ∧ (q.clue j).links.tails = []) ↔ ¬ Bound p done j := by
  constructor
  · -- The first clue of a chain has tails, and the others have it as their head.
    rintro ⟨head,tails⟩ ⟨h,earlier,opens,inside⟩
    have tied := linked.tied h earlier opens j inside
    by_cases first : h = j
    · subst first
      have := (tied.first rfl).1
      rw [tails] at this
      exact linked.some_target h earlier opens this.symm
    · rw [Puzzle.isHead,tied.head] at head
      exact first (by simpa [chainOf] using head)
  · intro free
    simp [Puzzle.isHead,linked.alone j member free,Clue.aloneLinks]

theorem isHead_iff (linked : Linked p done q) (member : j ∈ p.board.clues) (fresh : j ∉ done) :
    q.isHead j = true ↔ ¬ Bound p done j := by
  constructor
  · rintro head ⟨h,earlier,opens,inside⟩
    have tied := linked.tied h earlier opens j inside
    rw [Puzzle.isHead,tied.head] at head
    have same : h = j := by simpa [chainOf] using head
    exact fresh (same ▸ earlier)
  · intro free
    exact ((linked.free_iff member).mpr free).1

theorem present (linked : Linked p done q) (clues : DistinctClues p) (member : j ∈ p.board.clues) :
    j < q.clues.size := linked.same.size ▸ clues.present j member

/-- A clue that names no others leaves the chains as they are. -/
theorem skip (linked : Linked p done q) (closed : ¬ Opens p i) : Linked p (done ++ [i]) q where
  same := linked.same
  alone j member free := linked.alone j member fun bound => free (bound_concat.mpr (.inl bound))
  tied h member opens := by
    rcases List.mem_append.mp member with earlier | here
    · exact linked.tied h earlier opens
    · cases List.mem_singleton.mp here
      exact absurd opens closed
  some_target h member opens := by
    rcases List.mem_append.mp member with earlier | here
    · exact linked.some_target h earlier opens
    · cases List.mem_singleton.mp here
      exact absurd opens closed

theorem mem_clues_of_chain (member : i ∈ p.board.clues) (inside : j ∈ chainOf p i) : j ∈ p.board.clues := by
  rcases List.mem_cons.mp inside with rfl | named
  · exact member
  · exact targets_subset named

/-- Joining the clues of one more chain. -/
theorem join (linked : Linked p done q) (clues : DistinctClues p) (member : i ∈ p.board.clues) (opens : Opens p i)
    (joins : Joinable p done i) : Linked p (done ++ [i]) (join i (chainOf p i) q) where
  same := linked.same.trans sameButLinks_join
  alone j member' free := by
    rw [bound_concat,not_or,not_and] at free
    have untouched : (Chain.join i (chainOf p i) q).clue j = q.clue j := clue_join_outside joins.distinct
      (fun k inside => linked.present clues (mem_clues_of_chain member inside)) (free.2 opens)
    rw [untouched]
    exact linked.alone j member' free.1
  tied h member' opens' j inside := by
    have present : ∀ k ∈ chainOf p i, k < q.clues.size :=
      fun k inside => linked.present clues (mem_clues_of_chain member inside)
    rcases List.mem_append.mp member' with earlier | here
    · have outside : j ∉ chainOf p i := fun within => joins.apart j within ⟨h,earlier,opens',inside⟩
      have untouched : (Chain.join i (chainOf p i) q).clue j = q.clue j :=
        clue_join_outside joins.distinct present outside
      rw [untouched]
      exact linked.tied h earlier opens' j inside
    · cases List.mem_singleton.mp here
      exact tied_join linked.same joins.distinct present inside
        (linked.alone j (mem_clues_of_chain member inside) (joins.apart j inside))
  some_target h member' opens' := by
    rcases List.mem_append.mp member' with earlier | here
    · exact linked.some_target h earlier opens'
    · cases List.mem_singleton.mp here
      exact targets_ne_nil opens joins.resolved

/-- A clue that opens a chain is linked if its clues stand alone, and else refused. -/
theorem linkClue_outcome (linked : Linked p done q) (member : i ∈ p.board.clues) (fresh : i ∉ done)
    (opens : Opens p i) :
    (Joinable p done i ∧ (linkClue i).Gives q () (Chain.join i (chainOf p i) q)) ∨
      (¬ Joinable p done i ∧ ∃ cause r, (linkClue i).Stops q (.link cause) r) := by
  have opened : (q.clue i).references.isEmpty = false := by
    rw [linked.same.references]
    exact List.isEmpty_eq_false_iff.mpr opens
  have gathered : ∀ found, gather q i [i] (q.clue i).references = .ok found ↔
      (∀ reference ∈ (p.clue i).references, ∃ j, p.resolve? reference = some j) ∧ (chainOf p i).Nodup ∧
        (∀ j ∈ targets p i, ¬ Bound p done j) ∧ chainOf p i = found := by
    intro found
    rw [gather_eq_ok_iff (List.nodup_singleton i),linked.same.references,linked.same.resolve?]
    exact and_congr_right fun _ => and_congr_right fun _ => and_congr_left fun _ =>
      forall₂_congr fun j named => linked.free_iff (targets_subset named)
  -- A clue that is no head any more has been named before; one that is may still name a bound clue.
  by_cases head : q.isHead i = true
  · have apart := (linked.isHead_iff member fresh).mp head
    cases made : gather q i [i] (q.clue i).references with
    | ok chain =>
      obtain ⟨resolved,distinct,free,rfl⟩ := (gathered chain).mp made
      refine .inl ⟨⟨resolved,distinct,List.forall_mem_cons.mpr ⟨apart,free⟩⟩,?_⟩
      simp only [linkClue,gives_bind,gives_read]
      refine ⟨_,q,⟨rfl,rfl⟩,?_⟩
      simp only [id_eq,opened,head,Bool.not_true,Bool.false_eq_true,if_false,linkChain,gives_bind]
      exact ⟨_,q,gives_judge.mpr ⟨made,rfl⟩,(),_,gives_change.mpr rfl,_,_,gives_read.mpr ⟨rfl,rfl⟩,gives_enter.mpr rfl⟩
    | error cause =>
      refine .inr ⟨?_,cause,q,?_⟩
      · intro joins
        have all := (gathered (chainOf p i)).mpr ⟨joins.resolved,joins.distinct,
          fun j named => joins.apart j (List.mem_cons_of_mem _ named),rfl⟩
        rw [made] at all
        cases all
      · simp only [linkClue,stops_bind,gives_read,not_stops_read,false_or]
        refine ⟨_,q,⟨rfl,rfl⟩,?_⟩
        simp only [id_eq,opened,head,Bool.not_true,Bool.false_eq_true,if_false,linkChain,stops_bind]
        exact .inl (stops_judge.mpr ⟨⟨cause,made,rfl⟩,rfl⟩)
  · refine .inr ⟨fun joins => head ((linked.isHead_iff member fresh).mpr (joins.apart i List.mem_cons_self)),?_⟩
    refine ⟨.tailWithTails (q.clue i).id ((q.clue i).links.head.map fun j => (q.clue j).id),q,?_⟩
    simp only [linkClue,stops_bind,gives_read,not_stops_read,false_or]
    refine ⟨_,q,⟨rfl,rfl⟩,?_⟩
    simp [opened,head]

theorem linkClue_closed (linked : Linked p done q) (closed : ¬ Opens p i) : (linkClue i).Gives q () q := by
  have none : (q.clue i).references.isEmpty = true := by
    rw [linked.same.references]
    exact List.isEmpty_iff.mpr (not_not.mp closed)
  simp only [linkClue,gives_bind,gives_read]
  refine ⟨_,q,⟨rfl,rfl⟩,?_⟩
  simp [none]

/-! ### A run of clues -/

theorem linkClues_outcome (linked : Linked p [] q) (clues : DistinctClues p) :
    (AllJoinable p [] p.board.clues ∧ ∃ r, (p.board.clues.forM linkClue).Gives q () r ∧ Linked p p.board.clues r) ∨
      (¬ AllJoinable p [] p.board.clues ∧ ∃ cause r, (p.board.clues.forM linkClue).Stops q (.link cause) r) := by
  have step : ∀ {done i q}, Linked p done q → i ∈ p.board.clues ∧ i ∉ done →
      ((Opens p i → Joinable p done i) ∧ ∃ r, (linkClue i).Gives q () r ∧ Linked p (done ++ [i]) r) ∨
        (¬ (Opens p i → Joinable p done i) ∧
          ∃ fault r, (∃ cause, fault = .link cause) ∧ (linkClue i).Stops q fault r) := by
    rintro done i q linked ⟨member,fresh⟩
    by_cases opens : Opens p i
    · rcases linked.linkClue_outcome member fresh opens with ⟨joins,gives⟩ | ⟨refused,cause,r,stops⟩
      · exact .inl ⟨fun _ => joins,_,gives,linked.join clues member opens joins⟩
      · exact .inr ⟨fun joins => refused (joins opens),_,r,⟨cause,rfl⟩,stops⟩
    · exact .inl ⟨fun opens' => absurd opens' opens,q,linked.linkClue_closed opens,linked.skip opens⟩
  have fresh : InTurn (fun done i => i ∈ p.board.clues ∧ i ∉ done) [] p.board.clues := by
    intro before i after split
    have distinct := clues.distinct
    rw [split] at distinct
    exact ⟨by simp [split],fun earlier => (List.nodup_append.mp distinct).2.2 i earlier i List.mem_cons_self rfl⟩
  rcases forM_outcome step linked fresh with all | ⟨before,i,after,_,_,r,split,refused,⟨cause,rfl⟩,_,_,stops,_⟩
  · exact .inl all
  · exact .inr ⟨fun all => refused (all before i after split),cause,r,stops⟩

end Linked

theorem linked_detached (clues : DistinctClues p) :
    ∃ q, (p.board.clues.forM fun i => Edit.change (detach i)).Gives p () q ∧ Linked p [] q := by
  refine ⟨_,gives_forM_change.mpr rfl,?_,?_,?_,?_⟩
  · exact (SameButLinks.refl p).foldl_updateClue
      (f := fun i clue => { clue with links := clue.aloneLinks i }) (fun _ _ => rfl) _
  · intro i member _
    show ((p.board.clues.foldl (fun q j => q.updateClue j fun clue => { clue with links := clue.aloneLinks j }) p).clue
      i).links = _
    rw [clue_foldl_updateClue clues.distinct clues.present,if_pos member]
  · intro h member
    cases member
  · intro h member
    cases member

theorem link_outcome (clues : DistinctClues p) :
    (Linkable p ∧ ∃ r, link.Gives p () (noteHeads r) ∧ Linked p p.board.clues r) ∨
      (¬ Linkable p ∧ ∃ cause r, link.Stops p (.link cause) r) := by
  obtain ⟨q,detached,linked⟩ := linked_detached clues
  rw [← allJoinable_iff_linkable clues.distinct]
  rcases linked.linkClues_outcome clues with ⟨all,r,gives,last⟩ | ⟨refused,cause,r,stops⟩
  · refine .inl ⟨all,r,?_,last⟩
    simp only [link,gives_bind]
    exact ⟨_,p,gives_read.mpr ⟨rfl,rfl⟩,(),q,detached,(),r,gives,gives_change.mpr rfl⟩
  · refine .inr ⟨refused,cause,r,?_⟩
    simp only [link,stops_bind]
    exact .inr ⟨_,p,gives_read.mpr ⟨rfl,rfl⟩,.inr ⟨(),q,detached,.inl stops⟩⟩

/-- Linking goes through exactly if the references make chains, in whatever order the
    clues and their references come, and else stops at a fault of linking. -/
theorem link_gives_iff_linkable (p : Puzzle) (clues : DistinctClues p) :
    ((∃ q, link.Gives p () q) ↔ Linkable p) ∧ (¬ Linkable p ↔ ∃ cause q, link.Stops p (.link cause) q) := by
  rcases link_outcome clues with ⟨linkable,r,gives,_⟩ | ⟨refused,cause,r,stops⟩
  · refine ⟨iff_of_true ⟨_,gives⟩ linkable,iff_of_false (not_not.mpr linkable) ?_⟩
    rintro ⟨cause,q,stops⟩
    exact not_stops_of_gives gives stops
  · refine ⟨iff_of_false ?_ refused,iff_of_true refused ⟨cause,r,stops⟩⟩
    rintro ⟨q,gives⟩
    exact not_stops_of_gives gives stops

/-- An answer that begins in the second clue across and runs on in the clue down and
    then in the first clue across. -/
def relay : Puzzle :=
  { Puzzle.empty with
    clues := #[{ (default : Clue) with number := 3, wordLengths := [2] },
      { (default : Clue) with number := 1, wordLengths := [4], references := [⟨2,some .down⟩,⟨3,none⟩] },
      { (default : Clue) with number := 2, wordLengths := [1,5] }]
    board := { Board.fresh 0 ⟨0,0⟩ with across := [0,1], down := [2] } }

theorem distinctClues_relay : DistinctClues relay := ⟨by decide,by decide⟩

theorem linkable_relay : DistinctClues relay ∧ Linkable relay :=
  ⟨distinctClues_relay,
    (link_gives_iff_linkable relay distinctClues_relay).1.mp ⟨_,gives_of_isSome (by decide +kernel)⟩⟩

end

end Crossword

import Crossword.Proofs.Chains
import Mathlib.Data.List.Induction

/-!
What the head of a chain says of all its clues: the cells that they take up, each one once, and
their labels, put together as one (`Sums`). It is said when the chain is joined, and what the
clues say by then is what they say in the end. Joining a further chain leaves it alone, since no
clue is in two chains (`Summed.join`), so that it holds after all chains have been joined
(`link_gives_summed`).
-/
namespace Crossword
open Edit Chain

/-- The cells of clues one after the other, with those that occur more than once. -/
def cellsAlong (p : Puzzle) (chain : List ClueId) : List CellId := chain.flatMap fun i => (p.clue i).cells

/-- The links say of a chain which cells it takes up and what its label is. -/
structure Sums (p : Puzzle) (chain : List ClueId) (links : Links) : Prop where
  flatCells : links.flatCells = some (cellsAlong p chain).eraseDups
  label : links.label = List.intercalate [','] (chain.map fun i => (p.clue i).label)

/-- Of the clues done, those that open a chain say what it is. -/
def Summed (p : Puzzle) (done : List ClueId) (q : Puzzle) : Prop :=
  ∀ h ∈ done, Opens p h → Sums p (chainOf p h) (q.clue h).links

section
variable {p q r : Puzzle} {h i : ClueId} {done rest chain tails : List ClueId} {links : Links}

/-! ### Lists without repetitions -/

theorem eraseDups_concat {α : Type} [DecidableEq α] (xs : List α) (x : α) :
    (xs ++ [x]).eraseDups = if x ∈ xs then xs.eraseDups else xs.eraseDups ++ [x] := by
  rw [List.eraseDups_append]
  by_cases member : x ∈ xs
  · simp [List.removeAll,member]
  · simp [List.removeAll,member,List.eraseDups_cons]

/-- What is left stands in the order in which it occurs first. -/
theorem pairwise_eraseDups {α : Type} [DecidableEq α] (xs : List α) :
    xs.eraseDups.Pairwise fun a b => xs.idxOf a < xs.idxOf b := by
  induction xs using List.reverseRecOn with
  | nil => simp
  | append_singleton xs x ih =>
    have kept : xs.eraseDups.Pairwise fun a b => (xs ++ [x]).idxOf a < (xs ++ [x]).idxOf b := by
      refine List.Pairwise.imp_of_mem (fun one other earlier => ?_) ih
      rwa [List.idxOf_append_of_mem (List.mem_eraseDups.mp one),List.idxOf_append_of_mem (List.mem_eraseDups.mp other)]
    rw [eraseDups_concat]
    split
    · exact kept
    · next fresh =>
      refine List.pairwise_append.mpr ⟨kept,List.pairwise_singleton _ _,fun a one b other => ?_⟩
      have member := List.mem_eraseDups.mp one
      obtain rfl := List.mem_singleton.mp other
      rw [List.idxOf_append_of_mem member,List.idxOf_append_of_notMem fresh]
      have := List.idxOf_lt_length_of_mem member
      omega

theorem nodup_eraseDups {α : Type} [DecidableEq α] (xs : List α) : xs.eraseDups.Nodup :=
  (pairwise_eraseDups xs).imp fun earlier same => by simp [same] at earlier

theorem eraseDups_of_nodup {α : Type} [DecidableEq α] {xs : List α} (distinct : xs.Nodup) : xs.eraseDups = xs := by
  induction xs using List.reverseRecOn with
  | nil => rfl
  | append_singleton xs x ih =>
    obtain ⟨front,-,apart⟩ := List.nodup_append.mp distinct
    have fresh : x ∉ xs := fun member => apart x member x (by simp) rfl
    rw [eraseDups_concat,if_neg fresh,ih front]

/-! ### Joining chain after chain -/

/-- The head of a chain just joined says what it is. -/
theorem sums_join (same : SameButLinks p q) (distinct : (h :: tails).Nodup) (present : ∀ j ∈ h :: tails, j < q.clues.size) :
    Sums p (h :: tails) ((join h (h :: tails) q).clue h).links := by
  have tied := same.trans (sameButLinks_tie h none (h :: tails) q)
  have cells := tied.kept Clue.cells fun _ => rfl
  have label := tied.kept Clue.label fun _ => rfl
  rw [clue_join distinct present,if_pos rfl]
  exact ⟨by simp only [relink,summary,cellsAlong,cells],by simp only [relink,summary,label]⟩

namespace Summed

/-- A chain that is joined later has no clue of the chains joined before. -/
theorem join (summed : Summed p done q) (linked : Linked p done q) (clues : DistinctClues p)
    (member : i ∈ p.board.clues) (joins : Joinable p done i) : Summed p (done ++ [i]) (Chain.join i (chainOf p i) q) := by
  have present : ∀ j ∈ chainOf p i, j < q.clues.size :=
    fun j inside => linked.present clues (Linked.mem_clues_of_chain member inside)
  intro h member' opens
  rcases List.mem_append.mp member' with earlier | here
  · have outside : h ∉ chainOf p i := fun within => joins.apart h within ⟨h,earlier,opens,List.mem_cons_self⟩
    have untouched : (Chain.join i (chainOf p i) q).clue h = q.clue h := clue_join_outside joins.distinct present outside
    rw [untouched]
    exact summed h earlier opens
  · cases List.mem_singleton.mp here
    exact sums_join linked.same joins.distinct present

theorem skip (summed : Summed p done q) (closed : ¬ Opens p i) : Summed p (done ++ [i]) q := by
  intro h member opens
  rcases List.mem_append.mp member with earlier | here
  · exact summed h earlier opens
  · cases List.mem_singleton.mp here
    exact absurd opens closed

/-- While clues are linked one after the other, the heads of the chains joined so far say what they
    are. -/
theorem run (summed : Summed p done q) (linked : Linked p done q) (clues : DistinctClues p)
    (split : p.board.clues = done ++ rest) (gives : (rest.forM linkClue).Gives q () r) :
    Summed p p.board.clues r ∧ Linked p p.board.clues r := by
  induction rest generalizing done q with
  | nil =>
    rw [List.append_nil] at split
    obtain ⟨_,rfl⟩ := gives_pure.mp gives
    exact ⟨split ▸ summed,split ▸ linked⟩
  | cons i rest ih =>
    obtain ⟨m,now,later⟩ := gives_forM_cons.mp gives
    have member : i ∈ p.board.clues := by simp [split]
    have fresh : i ∉ done := by
      have distinct := clues.distinct
      rw [split] at distinct
      exact fun earlier => (List.nodup_append.mp distinct).2.2 i earlier i List.mem_cons_self rfl
    have split : p.board.clues = (done ++ [i]) ++ rest := by rw [split,List.append_assoc]; rfl
    by_cases opens : Opens p i
    · rcases linked.linkClue_outcome member fresh opens with ⟨joins,gives'⟩ | ⟨_,_,_,stops⟩
      · obtain ⟨_,rfl⟩ := gives_unique now gives'
        exact ih (summed.join linked clues member joins) (linked.join clues member opens joins) split later
      · exact absurd stops (not_stops_of_gives now)
    · obtain ⟨_,rfl⟩ := gives_unique now (linked.linkClue_closed opens)
      exact ih (summed.skip opens) (linked.skip opens) split later

end Summed

/-! ### After linking -/

/-- A clue that stands alone says what it is itself. -/
theorem sums_alone (once : (p.clue i).cells.Nodup) : Sums p [i] ((p.clue i).aloneLinks i) where
  flatCells := by simp [cellsAlong,Clue.aloneLinks,eraseDups_of_nodup once]
  label := by simp [Clue.aloneLinks]

theorem Sums.congr (sums : Sums p chain links) (same : SameButLinks p q) : Sums q chain links where
  flatCells := by simp only [sums.flatCells,cellsAlong,same.kept Clue.cells fun _ => rfl]
  label := by simp only [sums.label,same.kept Clue.label fun _ => rfl]

/-- Once all clues have been linked, every clue that no other names says what its chain is. -/
theorem Linked.sums (linked : Linked p p.board.clues q) (summed : Summed p p.board.clues q)
    (once : ∀ i ∈ p.board.clues, (p.clue i).cells.Nodup) (head : h ∈ p.board.clues) (unnamed : Unnamed p h) :
    Sums p (h :: (q.clue h).links.tails) (q.clue h).links := by
  rw [linked.chain_eq head unnamed]
  by_cases opens : Opens p h
  · exact summed h head opens
  · have single : targets p h = [] := by simp [targets,not_not.mp opens]
    rw [linked.alone h head (unnamed.free opens),chainOf,single]
    exact sums_alone (once h head)

/-- After linking has gone through, every head says what its chain is. -/
theorem link_gives_summed (clues : DistinctClues p) (once : ∀ i ∈ p.board.clues, (p.clue i).cells.Nodup)
    (gives : link.Gives p () q) (head : h ∈ q.board.clues) (isHead : q.isHead h = true) :
    Sums q (h :: (q.clue h).links.tails) (q.clue h).links := by
  obtain ⟨linkable,-⟩ := link_gives_linked clues gives
  obtain ⟨m,detached,linked⟩ := linked_detached clues
  simp only [link,gives_bind,gives_read] at gives
  obtain ⟨_,_,⟨rfl,rfl⟩,_,m',again,_,r,joined,noted⟩ := gives
  obtain ⟨_,rfl⟩ := gives_unique detached again
  obtain rfl := gives_change.mp noted
  have none : Summed p [] m := fun _ member => absurd member List.not_mem_nil
  obtain ⟨summed,last⟩ := none.run linked clues rfl joined
  have member : h ∈ p.board.clues := by
    rw [← last.same.board]
    exact head
  -- Noting the heads on the board leaves the clues as they are.
  have sums := (last.sums summed once member ((last.isHead_iff_unnamed linkable member).mp isHead)).congr last.same
  exact ⟨sums.flatCells,sums.label⟩

end

end Crossword

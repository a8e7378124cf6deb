import Crossword.Proofs.Showing
import Crossword.Proofs.Summing
import Mathlib.Data.Set.Card

/-!
The cells of an answer. What the head of a chain says of its cells lists every cell that a clue of
the chain covers once, where the chain comes to it first, even if clues of the chain cross or lie
over each other (`Flattened`). In a compiled puzzle the clues list the cells on the places that
they cover (`Built.mem_cells_iff`), the chains take every clue, and the light cells are those of
the clues; so the heads have between them just the light cells (`compile_flattened`).
-/
namespace Crossword
open Edit Chain Placement

/-- A clue of the chain covers the place. -/
def CoveredBy (p : Puzzle) (chain : List ClueId) (place : Place) : Prop :=
  ∃ i ∈ chain, ∃ d, i ∈ p.board.laid d ∧ (⟨d,i⟩ : Laying).Covers p place

/-- The list has each cell of the clues once, in the order in which they come to it first. It begins
    with the cells of the first clue, and has as many cells as there are places covered. -/
structure Flattened (p : Puzzle) (chain : List ClueId) (flat : List CellId) : Prop where
  once : flat.Nodup
  cells : ∀ c, c ∈ flat ↔ ∃ i ∈ chain, c ∈ (p.clue i).cells
  covered : ∀ place, CoveredBy p chain place → ∃ c ∈ flat, p.board.cellAt? place.1 place.2 = some c
  covering : ∀ c ∈ flat, ∃ place, CoveredBy p chain place ∧ p.board.cellAt? place.1 place.2 = some c
  order : flat.Pairwise fun a b => (cellsAlong p chain).idxOf a < (cellsAlong p chain).idxOf b
  front : ∀ h ∈ chain.head?, (p.clue h).cells <+: flat
  count : flat.length = {place | CoveredBy p chain place}.ncard

section
variable {g : Ground} {across down : List ClueId} {o p q : Puzzle} {chain : List ClueId} {place : Place} {l : Laying}
  {d : Direction} {h i : ClueId} {c : CellId}

theorem Board.mem_clues {b : Board} : i ∈ b.clues ↔ ∃ d, i ∈ b.laid d := by
  rw [Board.clues,List.mem_append]
  constructor
  · rintro (member | member)
    · exact ⟨.across,member⟩
    · exact ⟨.down,member⟩
  · rintro ⟨d,member⟩
    cases d with
    | across => exact .inl member
    | down => exact .inr member

theorem mem_cellsAlong : c ∈ cellsAlong p chain ↔ ∃ i ∈ chain, c ∈ (p.clue i).cells := List.mem_flatMap

namespace Built
variable (built : Built g across down o p q)
include built

theorem covers_iff : l.Covers q place ↔ ∃ s ∈ l.strokes o, s.place o = place := by
  have outlines : SameOutlines q o := built.outline
  rw [outlines.covers,← built.placed.laid.sameOutlines.covers,built.placed.laid.covers_iff]

theorem inside_of_covers (laid : l ∈ acrossThenDown across down) (covers : l.Covers q place) : g.Inside place := by
  obtain ⟨s,stroke,rfl⟩ := built.covers_iff.mp covers
  exact built.inside laid stroke

/-- A clue lists the cells on the places that it covers. -/
theorem mem_cells_iff (laid : l ∈ acrossThenDown across down) :
    c ∈ (q.clue l.clue).cells ↔ ∃ place, l.Covers q place ∧ g.cellOn place = c := by
  rw [built.cells_strokes laid,List.mem_map]
  constructor
  · rintro ⟨s,stroke,rfl⟩
    exact ⟨_,built.covers_iff.mpr ⟨s,stroke,rfl⟩,rfl⟩
  · rintro ⟨place,covers,rfl⟩
    obtain ⟨s,stroke,rfl⟩ := built.covers_iff.mp covers
    exact ⟨s,stroke,rfl⟩

theorem nodup_cells (member : i ∈ q.board.clues) : (q.clue i).cells.Nodup := by
  obtain ⟨l,laid,rfl⟩ := built.mem_clues.mp member
  have kept : (q.clue l.clue).cells = (p.clue l.clue).cells :=
    (congrArg Clue.cells (built.only.same.clue l.clue) :)
  rw [kept]
  exact (built.placed.spans built.run laid).distinct

/-- The light cells are the cells of the clues. -/
theorem mem_lightCells : c ∈ q.board.lightCells ↔ ∃ i ∈ q.board.clues, c ∈ (q.clue i).cells := by
  rw [built.lightCells,litCells,List.mem_filter]
  constructor
  · rintro ⟨inside,light⟩
    obtain ⟨place,on,rfl⟩ := built.mem_columns.mp inside
    obtain ⟨s,member,rfl⟩ := (built.marked on).light.mp light
    obtain ⟨l,laid,stroke⟩ := mem_strokesOf.mp (List.mem_reverse.mp member)
    refine ⟨l.clue,built.mem_clues.mpr ⟨l,laid,rfl⟩,?_⟩
    exact (built.mem_cells_iff laid).mpr ⟨_,built.covers_iff.mpr ⟨s,stroke,rfl⟩,rfl⟩
  · rintro ⟨i,member,within⟩
    obtain ⟨l,laid,rfl⟩ := built.mem_clues.mp member
    obtain ⟨place,covers,rfl⟩ := (built.mem_cells_iff laid).mp within
    have on := built.inside_of_covers laid covers
    obtain ⟨s,stroke,here⟩ := built.covers_iff.mp covers
    refine ⟨built.mem_columns.mpr ⟨place,on,rfl⟩,(built.marked on).light.mpr ⟨s,?_,here⟩⟩
    exact List.mem_reverse.mpr (mem_strokesOf.mpr ⟨l,laid,stroke⟩)

/-! ### Chains -/

theorem inside_of_coveredBy (covered : CoveredBy q chain place) : g.Inside place := by
  obtain ⟨i,_,d,laid,covers⟩ := covered
  exact built.inside_of_covers (built.mem_laid_iff.mp laid) covers

/-- The cells of a chain are those on the places that it covers. -/
theorem mem_cellsAlong_iff (clues : ∀ i ∈ chain, i ∈ q.board.clues) :
    c ∈ cellsAlong q chain ↔ ∃ place, CoveredBy q chain place ∧ g.cellOn place = c := by
  rw [mem_cellsAlong]
  constructor
  · rintro ⟨i,member,within⟩
    obtain ⟨l,laid,rfl⟩ := built.mem_clues.mp (clues i member)
    obtain ⟨place,covers,on⟩ := (built.mem_cells_iff laid).mp within
    exact ⟨place,⟨l.clue,member,l.direction,built.mem_laid laid rfl,covers⟩,on⟩
  · rintro ⟨place,⟨i,member,d,laid,covers⟩,on⟩
    exact ⟨i,member,(built.mem_cells_iff (built.mem_laid_iff.mp laid)).mpr ⟨place,covers,on⟩⟩

/-- As many cells as places, since no two places have the same cell. -/
theorem length_flat (clues : ∀ i ∈ chain, i ∈ q.board.clues) :
    (cellsAlong q chain).eraseDups.length = {place | CoveredBy q chain place}.ncard := by
  have cells : ((cellsAlong q chain).eraseDups.toFinset : Set CellId) = g.cellOn '' {place | CoveredBy q chain place} := by
    ext c
    simp [built.mem_cellsAlong_iff clues]
  have injective : Set.InjOn g.cellOn {place | CoveredBy q chain place} := fun one first other second same =>
    Ground.cellOn_inj (built.inside_of_coveredBy first) (built.inside_of_coveredBy second) same
  calc (cellsAlong q chain).eraseDups.length
      = (cellsAlong q chain).eraseDups.toFinset.card := (List.toFinset_card_of_nodup (nodup_eraseDups _)).symm
    _ = (g.cellOn '' {place | CoveredBy q chain place}).ncard := by rw [← cells,Set.ncard_coe_finset]
    _ = {place | CoveredBy q chain place}.ncard := injective.ncard_image

theorem flattened (clues : ∀ i ∈ chain, i ∈ q.board.clues) : Flattened q chain (cellsAlong q chain).eraseDups where
  once := nodup_eraseDups _
  cells c := List.mem_eraseDups.trans mem_cellsAlong
  covered place covers := by
    have found := Ground.cellAt?_inside built.columns (built.inside_of_coveredBy covers)
    exact ⟨_,List.mem_eraseDups.mpr ((built.mem_cellsAlong_iff clues).mpr ⟨place,covers,rfl⟩),found⟩
  covering c member := by
    obtain ⟨place,covers,rfl⟩ := (built.mem_cellsAlong_iff clues).mp (List.mem_eraseDups.mp member)
    exact ⟨place,covers,Ground.cellAt?_inside built.columns (built.inside_of_coveredBy covers)⟩
  order := pairwise_eraseDups _
  front h first := by
    obtain ⟨tails,rfl⟩ := List.head?_eq_some_iff.mp first
    rw [cellsAlong,List.flatMap_cons,List.eraseDups_append,
      eraseDups_of_nodup (built.nodup_cells (clues h List.mem_cons_self))]
    exact List.prefix_append _ _
  count := built.length_flat clues

/-- The head of a chain says which cells the chain takes up. -/
theorem sums (head : h ∈ q.board.clues) (isHead : q.isHead h = true) :
    Sums q (h :: (q.clue h).links.tails) (q.clue h).links := by
  refine link_gives_summed (distinctClues_placed built.run built.placed) (fun i member => ?_) built.linked head isHead
  rw [← built.only.same.clues] at member
  have kept : (q.clue i).cells = (p.clue i).cells := (congrArg Clue.cells (built.only.same.clue i) :)
  exact kept ▸ built.nodup_cells member

end Built

/-- The chains of the heads take every clue of the board and no others. -/
theorem Chained.mem_clues_iff (chained : Chained p q) : i ∈ q.board.clues ↔
    ∃ h ∈ q.board.clues, q.isHead h = true ∧ i ∈ h :: (q.clue h).links.tails := by
  rw [← chained.partition.mem_iff,List.mem_flatMap]
  simp only [List.mem_filter,and_assoc]

theorem Chained.mem_heads_iff (chained : Chained p q) : (∃ d, h ∈ q.board.heads d) ↔ h ∈ q.board.clues ∧ q.isHead h = true := by
  simp only [chained.heads,List.mem_filter,exists_and_right,Board.mem_clues]

/-- In every compiled puzzle, the head of a chain lists the cells of the clues of the chain: each
    one once, in the order in which the chain comes to it first, and so many as there are places
    that the chain covers. The cells that some head lists are the light cells. -/
theorem compile_flattened (definition : Datum) (config : Config) (p : Puzzle)
    (compiled : (Puzzle.compile definition config).1 = .ok p) :
    (∀ d, ∀ h ∈ p.board.heads d, ∃ flat, (p.clue h).links.flatCells = some flat ∧
      Flattened p (h :: (p.clue h).links.tails) flat) ∧
    ∀ c, (∃ d, ∃ h ∈ p.board.heads d, ∃ flat, (p.clue h).links.flatCells = some flat ∧ c ∈ flat) ↔
      c ∈ p.board.lightCells := by
  obtain ⟨g,across,down,o,m,built⟩ := compile_built compiled
  have chained := built.chained
  have flat : ∀ d, ∀ h ∈ p.board.heads d, ∃ flat, (p.clue h).links.flatCells = some flat ∧
      Flattened p (h :: (p.clue h).links.tails) flat := by
    intro d h listed
    obtain ⟨head,isHead⟩ := chained.mem_heads_iff.mp ⟨d,listed⟩
    refine ⟨_,(built.sums head isHead).flatCells,built.flattened fun i inside => ?_⟩
    exact chained.mem_clues_iff.mpr ⟨h,head,isHead,inside⟩
  refine ⟨flat,fun c => ?_⟩
  rw [built.mem_lightCells]
  constructor
  · rintro ⟨d,h,listed,cells,lists,member⟩
    obtain ⟨_,lists',flattened⟩ := flat d h listed
    cases lists.symm.trans lists'
    obtain ⟨head,isHead⟩ := chained.mem_heads_iff.mp ⟨d,listed⟩
    obtain ⟨i,inside,within⟩ := (flattened.cells c).mp member
    exact ⟨i,chained.mem_clues_iff.mpr ⟨h,head,isHead,inside⟩,within⟩
  · rintro ⟨i,member,within⟩
    obtain ⟨h,head,isHead,inside⟩ := chained.mem_clues_iff.mp member
    obtain ⟨d,listed⟩ := chained.mem_heads_iff.mpr ⟨head,isHead⟩
    obtain ⟨cells,lists,flattened⟩ := flat d h listed
    exact ⟨d,h,listed,cells,lists,(flattened.cells c).mpr ⟨i,inside,within⟩⟩

/-- The row and the column that it runs on in cross, and so have three cells between them. -/
theorem flattened_corner : ∃ p flat, (Puzzle.compile corner {}).1 = .ok p ∧ 0 ∈ p.board.heads .across ∧
    (p.clue 0).links.tails = [2] ∧ (p.clue 0).links.flatCells = some flat ∧ flat.length = 3 ∧ Flattened p [0,2] flat := by
  obtain ⟨p,compiled⟩ := exists_of_compiles corner {} (by decide +kernel)
  have links : (Puzzle.compile corner {}).1.toOption.map (fun p => (p.board.heads .across,(p.clue 0).links.tails,
      (p.clue 0).links.flatCells.map List.length)) = some ([0,1],[2],some 3) := by decide +kernel
  rw [compiled] at links
  simp only [Except.toOption,Option.map_some,Option.some.injEq,Prod.mk.injEq] at links
  obtain ⟨heads,tails,size⟩ := links
  have head : 0 ∈ p.board.heads .across := by simp [heads]
  obtain ⟨flat,lists,flattened⟩ := (compile_flattened corner {} p compiled).1 .across 0 head
  rw [tails] at flattened
  rw [lists] at size
  exact ⟨p,flat,compiled,head,tails,lists,by simpa using size,flattened⟩

end

end Crossword

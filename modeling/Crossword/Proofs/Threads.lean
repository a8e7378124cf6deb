import Crossword.Proofs.Walking

/-!
A link that leads elsewhere. Along the links of a puzzle that agrees with itself the clues
lead to each other (`Threaded`). Once one link of one clue leads to another clue or to
none, the clue is no longer in a whole chain or the one that it led to is not, since all
other links are as they were (`Diverted`, `Threaded.not_sound_setLead`).
-/
namespace Crossword
open Audit Chain

/-- A link from a clue to another one. -/
inductive Thread where
  | head
  | previous
  | next
  deriving DecidableEq, Repr

/-- Where a link leads. -/
def Links.lead (l : Links) : Thread → Option ClueId
  | .head => l.head
  | .previous => l.previous
  | .next => l.next

/-- The links with one of them leading elsewhere. -/
def Links.setLead (t : Thread) (target : Option ClueId) (l : Links) : Links :=
  match t with
  | .head => { l with head := target }
  | .previous => { l with previous := target }
  | .next => { l with next := target }

/-- Along the links of the clues on a board one comes to clues on the board, and back. -/
structure Threaded (p : Puzzle) : Prop where
  head : ∀ i ∈ p.board.clues, ∀ h, (p.clue i).links.head = some h → h ∈ p.board.clues
  first : ∀ i ∈ p.board.clues, (p.clue i).links.previous = none ↔ (p.clue i).links.head = some i
  previous : ∀ i ∈ p.board.clues, ∀ k, (p.clue i).links.previous = some k → k ∈ p.board.clues ∧
    (p.clue k).links.next = some i ∧ (p.clue k).links.head = (p.clue i).links.head
  next : ∀ i ∈ p.board.clues, ∀ j, (p.clue i).links.next = some j → j ∈ p.board.clues ∧
    (p.clue j).links.previous = some i

section
variable {p q : Puzzle} {i j h : ClueId} {chain : List ClueId}

/-- All links lead where they did, but for one of the clue. -/
structure Diverted (p q : Puzzle) (i : ClueId) (t : Thread) (target : Option ClueId) : Prop where
  here : (q.clue i).links.lead t = target
  elsewhere : ∀ k u, k ≠ i ∨ u ≠ t → (q.clue k).links.lead u = (p.clue k).links.lead u

theorem Links.lead_setLead (t u : Thread) (target : Option ClueId) (l : Links) :
    (l.setLead t target).lead u = if u = t then target else l.lead u := by
  cases t <;> cases u <;> rfl

theorem diverted_setLead {t : Thread} {target : Option ClueId} (present : i < p.clues.size) :
    Diverted p (p.updateClue i (relink (Links.setLead t target))) i t target where
  here := by
    rw [Puzzle.clue_updateClue _ _ present,if_pos rfl,relink,Links.lead_setLead,if_pos rfl]
  elsewhere k u apart := by
    rw [Puzzle.clue_updateClue _ _ present]
    split
    · next same => rw [relink,Links.lead_setLead,if_neg (apart.resolve_left (not_not.mpr same.symm))]
    · rfl

namespace Threaded
variable {target : Option ClueId} (threaded : Threaded p) (laid : i ∈ p.board.clues)
include threaded laid

/-- A clue of a whole chain has no other head than before: it is the first of the chain, or
    the clue before it still has its old head. -/
theorem head_eq (diverted : Diverted p q i .head target) (whole : Whole q h chain) (member : i ∈ chain) :
    (p.clue i).links.head = target := by
  have previous : (q.clue i).links.previous = (p.clue i).links.previous :=
    diverted.elsewhere i .previous (.inr (by decide))
  have shared : target = some h := diverted.here.symm.trans (whole.shared i member)
  rw [shared]
  rcases whole.back member with ⟨rfl,none⟩ | ⟨k,within,apart,back,_⟩
  · exact (threaded.first i laid).mp (previous.symm.trans none)
  · have kept : (q.clue k).links.head = (p.clue k).links.head := diverted.elsewhere k .head (.inl apart)
    rw [← (threaded.previous i laid k (previous.symm.trans back)).2.2,← kept]
    exact whole.shared k within

/-- A clue of a whole chain has no other clue before it: the chain does not leave the board,
    and on the board the links to the next are as they were. -/
theorem previous_eq (diverted : Diverted p q i .previous target) (whole : Whole q h chain) (member : i ∈ chain) :
    (p.clue i).links.previous = target := by
  have next : ∀ k, (q.clue k).links.next = (p.clue k).links.next :=
    fun k => diverted.elsewhere k .next (.inr (by decide))
  have head : (q.clue i).links.head = (p.clue i).links.head := diverted.elsewhere i .head (.inr (by decide))
  have headed : (p.clue i).links.head = some h := head.symm.trans (whole.shared i member)
  have here : (q.clue i).links.previous = target := diverted.here
  rcases whole.back member with ⟨rfl,none⟩ | ⟨k,within,_,back,on⟩
  · rw [← here,none]
    exact (threaded.first i laid).mpr headed
  · have inside : k ∈ p.board.clues := by
      refine whole.subset (fun e laid' j on' => ?_) (threaded.head i laid h headed) within
      rw [next] at on'
      exact (threaded.next e laid' j on').1
    rw [next] at on
    rw [← here,back]
    exact (threaded.next k inside i on).2

/-- A clue has no other clue after it, if all clues lie in whole chains: the one after it
    points back at it alone, and no other one does. -/
theorem next_eq (diverted : Diverted p q i .next target)
    (whole : ∀ j ∈ p.board.clues, ∃ h chain, Whole q h chain ∧ j ∈ chain)
    (apart : ∀ j, target = some j → j ∉ p.board.clues → (p.clue j).links.previous ≠ some i) :
    (p.clue i).links.next = target := by
  have previous : ∀ k, (q.clue k).links.previous = (p.clue k).links.previous :=
    fun k => diverted.elsewhere k .previous (.inr (by decide))
  have here : (q.clue i).links.next = target := diverted.here
  cases old : (p.clue i).links.next with
  | some j =>
    obtain ⟨inside,points⟩ := threaded.next i laid j old
    obtain ⟨h,chain,chained,member⟩ := whole j inside
    rw [← previous] at points
    rcases chained.back member with ⟨_,none⟩ | ⟨k,_,_,back,on⟩
    · rw [points] at none
      cases none
    · rw [points] at back
      cases back
      exact on.symm.trans here
  | none =>
    cases leads : target with
    | none => rfl
    | some j =>
      obtain ⟨h,chain,chained,member⟩ := whole i laid
      have points := (chained.onward member (here.trans leads)).2
      rw [previous] at points
      by_cases inside : j ∈ p.board.clues
      · rw [(threaded.previous j inside i points).2.1] at old
        cases old
      · exact absurd points (apart j leads inside)

/-- Once a link of a clue leads elsewhere, the chains are not all whole. -/
theorem not_sound_setLead {t : Thread} (present : i < p.clues.size) (other : target ≠ (p.clue i).links.lead t)
    (apart : t = .next → ∀ j, target = some j → j ∉ p.board.clues → (p.clue j).links.previous ≠ some i) :
    ¬ Sound (p.updateClue i (relink (Links.setLead t target))) := by
  intro sound
  have diverted : Diverted p (p.updateClue i (relink (Links.setLead t target))) i t target := diverted_setLead present
  have whole : ∀ j ∈ p.board.clues, ∃ h chain, Whole (p.updateClue i (relink (Links.setLead t target))) h chain ∧
      j ∈ chain := fun j inside => sound.whole inside
  obtain ⟨h,chain,chained,member⟩ := whole i laid
  refine other ?_
  cases t with
  | head => exact (threaded.head_eq laid diverted chained member).symm
  | previous => exact (threaded.previous_eq laid diverted chained member).symm
  | next => exact (threaded.next_eq laid diverted whole (apart rfl)).symm

end Threaded

end

end Crossword

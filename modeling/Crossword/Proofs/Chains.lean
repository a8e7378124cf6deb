import Crossword.Proofs.Linking
import Mathlib.Logic.Function.Iterate

/-!
What linking leaves behind. The heads are the clues that no other clue names
(`Linked.isHead_iff_unnamed`), and the chains that they head take every clue of the
board once (`Linked.partition`); along each chain the links join neighbours, so that
going on from any clue comes to an end. A head lists the lengths of all words of its
chain as decimal numerals in parentheses (`Enumeration.shown_text`).
-/
namespace Crossword
open Edit Chain

/-- The clue that the link to the next leads to. -/
def following (q : Puzzle) (found : Option ClueId) : Option ClueId := found.bind fun i => (q.clue i).links.next

/-- The chains of a puzzle that has been linked. Only links differ from the puzzle
    before, and the heads of each direction are noted in the order of its clues. -/
structure Chained (p q : Puzzle) : Prop where
  unlinked : ∀ i, (q.clue i).unlinked = (p.clue i).unlinked
  laid : ∀ d, q.board.laid d = p.board.laid d
  heads : ∀ d, q.board.heads d = (q.board.laid d).filter q.isHead
  partition : ((q.board.clues.filter q.isHead).flatMap fun h => h :: (q.clue h).links.tails).Perm q.board.clues
  tails : ∀ h ∈ q.board.clues, q.isHead h = true →
    (q.clue h).links.tails.map some = (q.clue h).references.map q.resolve?
  enumeration : ∀ h ∈ q.board.clues, q.isHead h = true → String.ofList (q.clue h).links.enumeration =
    let lengths := (h :: (q.clue h).links.tails).flatMap fun i => (q.clue i).wordLengths
    "(" ++ ",".intercalate (lengths.map toString) ++ ")"
  links : ∀ h ∈ q.board.clues, q.isHead h = true → ∀ before i after,
    h :: (q.clue h).links.tails = before ++ i :: after →
      (q.clue i).links.head = some h ∧ (q.clue i).links.previous = before.getLast? ∧
        (q.clue i).links.next = after.head?
  ends : ∀ i ∈ q.board.clues, ∃ n, (following q)^[n] (some i) = none
  others : ∀ i ∈ q.board.clues, q.isHead i = false →
    (q.clue i).links.tails = [] ∧ (q.clue i).links.enumeration = [] ∧ (q.clue i).links.flatCells = none

/-! ### Lengths as they are listed -/

theorem Text.shown_ofInt (n : Int) : (Text.ofInt n).shown = toString n := by
  cases n with
  | ofNat n => rfl
  | negSucc n =>
    refine String.toList_inj.mp ?_
    simp [Text.ofInt,Text.ofNat,Text.shown,toString,Int.repr]

theorem Enumeration.shown_text (lengths : List Int) :
    (Enumeration.text lengths).shown = "(" ++ ",".intercalate (lengths.map toString) ++ ")" := by
  have numerals : (lengths.map toString).map String.toList = lengths.map Text.ofInt := by
    rw [List.map_map]
    refine List.map_congr_left fun n _ => ?_
    rw [Function.comp_apply,← Text.shown_ofInt,Text.shown,String.toList_ofList]
  refine String.toList_inj.mp ?_
  rw [Text.shown,String.toList_ofList,String.toList_append,String.toList_append,String.toList_intercalate,numerals]
  rfl

section
variable {p q : Puzzle} {h i j : ClueId}

theorem Chained.enumeration_eq (chained : Chained p q) (member : h ∈ q.board.clues) (head : q.isHead h = true) :
    (q.clue h).links.enumeration =
      Enumeration.text ((h :: (q.clue h).links.tails).flatMap fun i => (q.clue i).wordLengths) :=
  String.ofList_injective ((chained.enumeration h member head).trans (Enumeration.shown_text _).symm)

/-! ### Heads and chains -/

/-- The clue is named by no clue of the board. -/
def Unnamed (p : Puzzle) (i : ClueId) : Prop := ∀ h ∈ p.board.clues, i ∉ targets p h

/-- A clue that names none and that none names is in no chain of several clues. -/
theorem Unnamed.free (unnamed : Unnamed p i) (closed : ¬ Opens p i) : ¬ Bound p p.board.clues i := by
  rintro ⟨h,member,opens,bound⟩
  rcases List.mem_cons.mp bound with rfl | named
  · exact closed opens
  · exact unnamed h member named

/-- A clue that stands alone is a chain by itself. -/
theorem tied_alone : Tied p [i] i ((p.clue i).aloneLinks i) where
  head := rfl
  neighbours before after split := by
    cases before with
    | nil =>
      cases split
      exact ⟨rfl,rfl⟩
    | cons j rest => simp at split
  first _ := by simp [Clue.aloneLinks]
  later other := absurd rfl other

namespace Linkable
variable (linkable : Linkable p) (distinct : p.board.clues.Nodup)
include linkable

theorem unnamed_of_opens (opens : Opens p i) : Unnamed p i :=
  fun h member named => opens (linkable.leaf h member i named)

/-- A clue is the first of its chain or is named by the first. -/
theorem mem_chain (member : i ∈ p.board.clues) : ∃ h ∈ p.board.clues, Unnamed p h ∧ i ∈ chainOf p h := by
  by_cases unnamed : Unnamed p i
  · exact ⟨i,member,unnamed,List.mem_cons_self⟩
  · simp only [Unnamed,not_forall,not_not] at unnamed
    obtain ⟨h,head,named⟩ := unnamed
    exact ⟨h,head,linkable.unnamed_of_opens (opens_of_target named),List.mem_cons_of_mem _ named⟩

theorem nodup_chain (member : i ∈ p.board.clues) : (chainOf p i).Nodup := by
  refine List.nodup_cons.mpr ⟨?_,(List.nodup_flatMap.mp linkable.once).1 i member⟩
  intro named
  exact linkable.unnamed_of_opens (opens_of_target named) i member named

include distinct

/-- The chains of different heads have no clue in common. -/
theorem disjoint_chains (one : h ∈ p.board.clues) (other : j ∈ p.board.clues) (different : h ≠ j)
    (unnamed : Unnamed p h) (unnamed' : Unnamed p j) (inside : i ∈ chainOf p h) : i ∉ chainOf p j := by
  intro inside'
  rcases List.mem_cons.mp inside with rfl | named
  · rcases List.mem_cons.mp inside' with same | named'
    · exact different same
    · exact unnamed j other named'
  · rcases List.mem_cons.mp inside' with rfl | named'
    · exact unnamed' h one named
    · have apart := (allJoinable_of_linkable distinct linkable).apart one other different (opens_of_target named)
        (opens_of_target named') i inside
      exact apart inside'

end Linkable

namespace Linked
variable (linked : Linked p p.board.clues q) (linkable : Linkable p)
include linked

/-- Every clue of a chain is tied into it, also where the chain is one clue. -/
theorem tied_of_unnamed (head : h ∈ p.board.clues) (unnamed : Unnamed p h) (inside : i ∈ chainOf p h) :
    Tied p (chainOf p h) i (q.clue i).links := by
  by_cases opens : Opens p h
  · exact linked.tied h head opens i inside
  · -- Its head keeps the links that it was detached with.
    have single : targets p h = [] := by simp [targets,not_not.mp opens]
    rw [chainOf,single] at inside ⊢
    cases List.mem_singleton.mp inside
    rw [linked.alone h head (unnamed.free opens)]
    exact tied_alone

theorem chain_eq (head : h ∈ p.board.clues) (unnamed : Unnamed p h) :
    h :: (q.clue h).links.tails = chainOf p h := by
  rw [((linked.tied_of_unnamed head unnamed List.mem_cons_self).first rfl).1]
  rfl

include linkable

theorem isHead_iff_unnamed (member : i ∈ p.board.clues) : q.isHead i = true ↔ Unnamed p i := by
  obtain ⟨h,head,unnamed,inside⟩ := linkable.mem_chain member
  rw [Puzzle.isHead,(linked.tied_of_unnamed head unnamed inside).head]
  rcases List.mem_cons.mp inside with rfl | named
  · exact iff_of_true (by simp [chainOf]) unnamed
  · refine iff_of_false (fun same => ?_) fun free => free h head named
    have same : h = i := by simpa [chainOf] using same
    subst same
    exact unnamed h head named

/-- The chains take every clue of the board, and each one once. -/
theorem partition (distinct : p.board.clues.Nodup) :
    ((p.board.clues.filter q.isHead).flatMap fun h => h :: (q.clue h).links.tails).Perm p.board.clues := by
  have heads : ∀ {h}, h ∈ p.board.clues.filter q.isHead ↔ h ∈ p.board.clues ∧ Unnamed p h := by
    intro h
    rw [List.mem_filter]
    exact and_congr_right fun member => linked.isHead_iff_unnamed linkable member
  have chains : ((p.board.clues.filter q.isHead).flatMap fun h => h :: (q.clue h).links.tails) =
      (p.board.clues.filter q.isHead).flatMap (chainOf p) :=
    List.flatMap_congr fun h member => linked.chain_eq (heads.mp member).1 (heads.mp member).2
  rw [chains]
  refine (List.perm_ext_iff_of_nodup ?_ distinct).mpr fun i => ?_
  · refine List.nodup_flatMap.mpr ⟨?_,?_⟩
    · intro h member
      exact linkable.nodup_chain (heads.mp member).1
    · refine List.Pairwise.imp_of_mem (fun one other different i first second => ?_) (distinct.filter _)
      exact linkable.disjoint_chains distinct (heads.mp one).1 (heads.mp other).1 different (heads.mp one).2
        (heads.mp other).2 first second
  · rw [List.mem_flatMap]
    constructor
    · rintro ⟨h,member,inside⟩
      exact mem_clues_of_chain (heads.mp member).1 inside
    · intro member
      obtain ⟨h,head,unnamed,inside⟩ := linkable.mem_chain member
      exact ⟨h,heads.mpr ⟨head,unnamed⟩,inside⟩

theorem tails_eq (head : h ∈ p.board.clues) (unnamed : Unnamed p h) :
    (q.clue h).links.tails.map some = (p.clue h).references.map p.resolve? := by
  have chain := List.cons.inj (linked.chain_eq head unnamed)
  rw [chain.2,targets]
  have resolved := linkable.resolved h head
  generalize (p.clue h).references = references at resolved ⊢
  induction references with
  | nil => rfl
  | cons reference rest ih =>
    obtain ⟨j,found⟩ := resolved reference List.mem_cons_self
    simp only [List.filterMap_cons,found,List.map_cons]
    rw [ih fun r member => resolved r (List.mem_cons_of_mem _ member)]

theorem ends (member : i ∈ p.board.clues) : ∃ n, (following q)^[n] (some i) = none := by
  obtain ⟨h,head,unnamed,inside⟩ := linkable.mem_chain member
  obtain ⟨before,after,split⟩ := List.append_of_mem inside
  -- One step for each clue that follows in the chain, and one off its end.
  refine ⟨after.length + 1,?_⟩
  clear inside member
  induction after generalizing i before with
  | nil =>
    have tied := linked.tied_of_unnamed head unnamed (by simp [split] : i ∈ chainOf p h)
    simp [following,(tied.neighbours before [] split).2]
  | cons j rest ih =>
    have tied := linked.tied_of_unnamed head unnamed (by simp [split] : i ∈ chainOf p h)
    rw [List.length_cons,Function.iterate_succ_apply]
    have step : following q (some i) = some j := (tied.neighbours before (j :: rest) split).2
    rw [step]
    exact ih (before ++ [i]) (by simp [split])

end Linked

theorem link_gives_linked (clues : DistinctClues p) (gives : link.Gives p () q) :
    Linkable p ∧ ∃ r, Linked p p.board.clues r ∧ noteHeads r = q := by
  rcases link_outcome clues with ⟨linkable,r,gives',linked⟩ | ⟨_,_,_,stops⟩
  · exact ⟨linkable,r,linked,(gives_unique gives' gives).2⟩
  · exact absurd stops (not_stops_of_gives gives)

theorem Linked.chained (linked : Linked p p.board.clues q) (linkable : Linkable p) (distinct : p.board.clues.Nodup) :
    Chained p (noteHeads q) := by
  have clues : (noteHeads q).board.clues = p.board.clues := by
    rw [← linked.same.board]
    rfl
  have resolve : (noteHeads q).resolve? = p.resolve? := by
    rw [← linked.same.resolve?]
    rfl
  have heads : ∀ {h}, h ∈ p.board.clues → (noteHeads q).isHead h = true → Unnamed p h :=
    fun member head => (linked.isHead_iff_unnamed linkable member).mp head
  constructor
  case unlinked => exact linked.same.clue
  case laid =>
    intro d
    rw [← linked.same.board]
    cases d <;> rfl
  case heads =>
    intro d
    cases d <;> rfl
  case partition =>
    rw [clues]
    exact linked.partition linkable distinct
  case tails =>
    rw [clues,resolve]
    intro h member head
    have references : ((noteHeads q).clue h).references = (p.clue h).references := linked.same.references h
    rw [references]
    exact linked.tails_eq linkable member (heads member head)
  case enumeration =>
    rw [clues]
    intro h member head
    have chain : h :: ((noteHeads q).clue h).links.tails = chainOf p h :=
      linked.chain_eq member (heads member head)
    have lengths : ∀ i, ((noteHeads q).clue i).wordLengths = (p.clue i).wordLengths := linked.same.wordLengths
    have listed : ((noteHeads q).clue h).links.enumeration =
        Enumeration.text ((chainOf p h).flatMap fun i => (p.clue i).wordLengths) :=
      ((linked.tied_of_unnamed member (heads member head) List.mem_cons_self).first rfl).2
    simp only [chain,lengths]
    rw [listed]
    exact Enumeration.shown_text _
  case links =>
    rw [clues]
    intro h member head before i after split
    have chain : h :: ((noteHeads q).clue h).links.tails = chainOf p h :=
      linked.chain_eq member (heads member head)
    rw [chain] at split
    have tied := linked.tied_of_unnamed member (heads member head) (by simp [split] : i ∈ chainOf p h)
    exact ⟨tied.head,tied.neighbours before after split⟩
  case ends =>
    rw [clues]
    intro i member
    exact linked.ends linkable member
  case others =>
    rw [clues]
    intro i member tail
    obtain ⟨h,head,unnamed,inside⟩ := linkable.mem_chain member
    refine (linked.tied_of_unnamed head unnamed inside).later fun first => ?_
    have same : h = i := by simpa [chainOf] using first
    subst same
    have head' : (noteHeads q).isHead h = true := (linked.isHead_iff_unnamed linkable member).mpr unnamed
    rw [tail] at head'
    cases head'

/-- After linking has gone through, the clues of the board are in chains as the labels of
    their heads name them. -/
theorem link_gives_chained (p q : Puzzle) (clues : DistinctClues p) (gives : link.Gives p () q) : Chained p q := by
  obtain ⟨linkable,r,linked,rfl⟩ := link_gives_linked clues gives
  exact linked.chained linkable clues.distinct

theorem link_relay : DistinctClues relay ∧ Chained relay (link.run relay).puzzle ∧
    ((link.run relay).puzzle.clue 1).links.tails = [2,0] ∧
    ((link.run relay).puzzle.clue 1).links.enumeration = "(4,1,5,2)".toList :=
  ⟨distinctClues_relay,link_gives_chained relay _ distinctClues_relay (gives_of_isSome (by decide +kernel)),
    by decide +kernel,by decide +kernel⟩

end

end Crossword

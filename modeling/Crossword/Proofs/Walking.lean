import Crossword.Proofs.Auditing
import Mathlib.Data.List.Induction
import Mathlib.Logic.Relation

/-!
Walks along links that may lead anywhere. A walk lists clues exactly if the links join
them as neighbours from its head to the last one (`chainFrom_eq_ok_iff`), so that the check on
chains passes exactly if every clue lies in a whole chain and the heads are noted
(`Whole`). It takes turns until it meets no clue, a clue that has come before or one that
does not point back (`Turn`), and since no clue comes twice there is an end to them
(`walk_turns`).
-/
namespace Crossword.Audit

/-- The clues make a chain that begins with the head: none comes twice, each one points at
    the clue before it and at the one after it and at nothing where there is none, and all
    have this head. -/
structure Whole (p : Puzzle) (head : ClueId) (chain : List ClueId) : Prop where
  first : chain.head? = some head
  distinct : chain.Nodup
  neighbours : ∀ before i after, chain = before ++ i :: after →
    (p.clue i).links.previous = before.getLast? ∧ (p.clue i).links.next = after.head?
  shared : ∀ i ∈ chain, (p.clue i).links.head = some head

/-- Where a walk stands: the clues that it has come along, and the one ahead of it. -/
structure Stand where
  walked : List ClueId
  ahead : Option ClueId

/-- A walk goes on past the clue ahead, if that one is new and points back at the last
    one. -/
inductive Turn (p : Puzzle) : Stand → Stand → Prop
  | on {walked : List ClueId} {i : ClueId} (fresh : i ∉ walked)
      (back : (p.clue i).links.previous = walked.getLast?) :
      Turn p ⟨walked,some i⟩ ⟨walked ++ [i],(p.clue i).links.next⟩

/-- What is said of a walk that does not go on: it has come to the end of a chain, or the
    clue ahead has come before or does not point back. -/
def verdict (p : Puzzle) (head : ClueId) (s : Stand) : Except Fault (List ClueId) :=
  match s.ahead with
  | none => .ok s.walked
  | some i =>
    if i ∈ s.walked then .error (.audit (.cyclic (p.clue head).id))
    else .error (.audit (.brokenPrevious (p.clue i).id))

section
variable {p : Puzzle} {head i j : ClueId} {unvisited chain walked : List ClueId} {previous ahead : Option ClueId}

/-! ### What a walk lists -/

theorem walk_sound (distinct : unvisited.Nodup) (found : walk p head unvisited previous ahead = .ok chain) :
    chain.head? = ahead ∧ chain.Nodup ∧ (∀ i ∈ chain, i ∈ unvisited) ∧
      ∀ before i after, chain = before ++ i :: after →
        (p.clue i).links.previous = (before.getLast? <|> previous) ∧ (p.clue i).links.next = after.head? := by
  fun_induction walk p head unvisited previous ahead generalizing chain with
  | case1 unvisited previous =>
    cases found
    exact ⟨rfl,List.nodup_nil,by simp,by simp⟩
  | case2 => cases found
  | case3 unvisited previous i present back rest later ih =>
    cases found
    obtain ⟨first,distinct',inside,neighbours⟩ := ih (distinct.erase i) later
    have apart : i ∉ rest := fun member => (List.Nodup.not_mem_erase distinct) (inside i member)
    have back : (p.clue i).links.previous = previous := by simpa using back
    refine ⟨rfl,List.nodup_cons.mpr ⟨apart,distinct'⟩,?_,?_⟩
    · intro j member
      rcases List.mem_cons.mp member with rfl | behind
      · exact present
      · exact List.mem_of_mem_erase (inside j behind)
    · intro before j after split
      cases before with
      | nil =>
        cases split
        exact ⟨back,first.symm⟩
      | cons k between =>
        cases split
        obtain ⟨previous',next⟩ := neighbours between j after rfl
        refine ⟨?_,next⟩
        rw [previous']
        cases between <;> simp [List.getLast?_cons]
  | case4 => cases found
  | case5 => cases found

/-- A walk lists the clues from its head on exactly if the links join them as neighbours. -/
theorem chainFrom_eq_ok_iff : chainFrom p head = .ok chain ↔ chain.head? = some head ∧ chain.Nodup ∧
    (∀ i ∈ chain, i < p.clues.size) ∧ ∀ before i after, chain = before ++ i :: after →
      (p.clue i).links.previous = before.getLast? ∧ (p.clue i).links.next = after.head? := by
  constructor
  · intro found
    obtain ⟨first,distinct,inside,neighbours⟩ := walk_sound List.nodup_range found
    refine ⟨first,distinct,fun i member => List.mem_range.mp (inside i member),fun before i after split => ?_⟩
    simpa using neighbours before i after split
  · rintro ⟨first,distinct,present,neighbours⟩
    cases chain with
    | nil => cases first
    | cons h tails =>
      cases first
      exact chainFrom_eq_ok neighbours distinct present

/-! ### Whole chains -/

theorem whole_iff_chainFrom : Whole p head chain ↔
    chainFrom p head = .ok chain ∧ ∀ i ∈ chain, (p.clue i).links.head = some head := by
  rw [chainFrom_eq_ok_iff]
  constructor
  · intro whole
    -- A number that no clue has leads to no head, so that such a number is in no whole chain.
    have present : ∀ i ∈ chain, i < p.clues.size := by
      intro i member
      by_contra outside
      have shared := whole.shared i member
      rw [Puzzle.clue_outside outside] at shared
      cases shared
    exact ⟨⟨whole.first,whole.distinct,present,whole.neighbours⟩,whole.shared⟩
  · rintro ⟨⟨first,distinct,_,neighbours⟩,shared⟩
    exact ⟨first,distinct,neighbours,shared⟩

theorem chains_of_whole (whole : Whole p head chain) (member : i ∈ chain) : ∃ head chain,
    (p.clue i).links.head = some head ∧ chainFrom p head = .ok chain ∧ i ∈ chain ∧
      ∀ j ∈ chain, (p.clue j).links.head = some head := by
  obtain ⟨found,shared⟩ := whole_iff_chainFrom.mp whole
  exact ⟨head,chain,shared i member,found,member,shared⟩

theorem checkChain_eq_ok_iff_whole : checkChain p i = .ok () ↔ ∃ head chain, Whole p head chain ∧ i ∈ chain := by
  rw [checkChain_eq_ok_iff]
  constructor
  · rintro ⟨head,chain,_,found,member,shared⟩
    exact ⟨head,chain,whole_iff_chainFrom.mpr ⟨found,shared⟩,member⟩
  · rintro ⟨head,chain,whole,member⟩
    exact chains_of_whole whole member

namespace Whole
variable {head' : ClueId} {chain' : List ClueId}

theorem unique (whole : Whole p head chain) (other : Whole p head chain') : chain = chain' := by
  have found := (whole_iff_chainFrom.mp whole).1
  rw [(whole_iff_chainFrom.mp other).1] at found
  exact (Except.ok.inj found).symm

/-- A clue of two whole chains has the heads of both, so that they are one chain. -/
theorem eq_or_disjoint (whole : Whole p head chain) (other : Whole p head' chain') :
    chain = chain' ∨ chain.Disjoint chain' := by
  by_cases common : ∃ i ∈ chain, i ∈ chain'
  · obtain ⟨i,member,member'⟩ := common
    have same : some head = some head' := (whole.shared i member).symm.trans (other.shared i member')
    cases same
    exact .inl (whole.unique other)
  · exact .inr fun i member member' => common ⟨i,member,member'⟩

/-- A chain is as whole in another puzzle that has the same clues in it. -/
theorem congr {q : Puzzle} (whole : Whole p head chain) (same : ∀ i ∈ chain, q.clue i = p.clue i) :
    Whole q head chain where
  first := whole.first
  distinct := whole.distinct
  neighbours before i after split := by
    rw [same i (by simp [split])]
    exact whole.neighbours before i after split
  shared i member := by
    rw [same i member]
    exact whole.shared i member

theorem head_mem (whole : Whole p head chain) : head ∈ chain := List.mem_of_head? whole.first

theorem start (whole : Whole p head chain) : (p.clue head).links.previous = none := by
  obtain ⟨rest,rfl⟩ := List.head?_eq_some_iff.mp whole.first
  exact (whole.neighbours [] head rest rfl).1

/-- A clue of a chain is the first one, or the clue before it points at it. -/
theorem back (whole : Whole p head chain) (member : i ∈ chain) :
    (i = head ∧ (p.clue i).links.previous = none) ∨
      ∃ k ∈ chain, k ≠ i ∧ (p.clue i).links.previous = some k ∧ (p.clue k).links.next = some i := by
  obtain ⟨before,after,split⟩ := List.append_of_mem member
  have previous := (whole.neighbours before i after split).1
  rcases List.eq_nil_or_concat before with rfl | ⟨front,k,rfl⟩
  · have first := whole.first
    rw [split] at first
    exact .inl ⟨Option.some.inj first,previous⟩
  · have split' : chain = front ++ k :: i :: after := by simp [split]
    have distinct := whole.distinct
    rw [split'] at distinct
    have apart := (List.nodup_cons.mp (List.nodup_append.mp distinct).2.1).1
    refine .inr ⟨k,by simp [split'],?_,by simpa using previous,(whole.neighbours front k (i :: after) split').2⟩
    rintro rfl
    exact apart List.mem_cons_self

/-- The clue after one of a chain is in the chain, and points back. -/
theorem onward (whole : Whole p head chain) (member : i ∈ chain) (on : (p.clue i).links.next = some j) :
    j ∈ chain ∧ (p.clue j).links.previous = some i := by
  obtain ⟨before,after,split⟩ := List.append_of_mem member
  rw [(whole.neighbours before i after split).2] at on
  obtain ⟨rest,rfl⟩ := List.head?_eq_some_iff.mp on
  have split' : chain = (before ++ [i]) ++ j :: rest := by simp [split]
  refine ⟨by simp [split],?_⟩
  rw [(whole.neighbours (before ++ [i]) j rest split').1]
  simp

/-- A chain stays among clues that the links to the next do not lead out of. -/
theorem subset (whole : Whole p head chain) {among : List ClueId}
    (closed : ∀ i ∈ among, ∀ j, (p.clue i).links.next = some j → j ∈ among) (first : head ∈ among)
    (member : i ∈ chain) : i ∈ among := by
  obtain ⟨before,after,split⟩ := List.append_of_mem member
  induction before using List.reverseRecOn generalizing i after with
  | nil =>
    have start := whole.first
    rw [split] at start
    exact Option.some.inj start ▸ first
  | append_singleton front k ih =>
    have split' : chain = front ++ k :: i :: after := by simp [split]
    have inside : k ∈ among := ih (by simp [split']) (i :: after) split'
    exact closed k inside i (whole.neighbours front k (i :: after) split').2

end Whole

/-- In a puzzle that agrees with itself every clue lies in a whole chain. -/
theorem Sound.whole (sound : Sound p) (member : i ∈ p.board.clues) : ∃ head chain, Whole p head chain ∧ i ∈ chain := by
  obtain ⟨head,chain,_,found,inside,shared⟩ := sound.chains i member
  exact ⟨head,chain,whole_iff_chainFrom.mpr ⟨found,shared⟩,inside⟩

/-! ### What a check on chains can come to -/

theorem reports_walk : Reports (walk p head unvisited previous ahead) := by
  fun_induction walk p head unvisited previous ahead with
  | case1 => exact .inl ⟨_,rfl⟩
  | case2 => exact .inr ⟨_,rfl⟩
  | case3 => exact .inl ⟨_,rfl⟩
  | case4 unvisited previous i present back fault later ih =>
    rcases ih with ⟨rest,found⟩ | ⟨finding,failed⟩
    · rw [later] at found
      cases found
    · rw [later] at failed
      cases failed
      exact .inr ⟨finding,rfl⟩
  | case5 => exact .inr ⟨_,rfl⟩

theorem reports_checkChain : Reports (checkChain p i) := by
  unfold checkChain
  split
  · exact .inr ⟨_,rfl⟩
  · refine reports_bind reports_walk fun chain _ => reports_bind (reports_ensure _ _) fun _ _ => ?_
    exact reports_forM fun j _ => reports_ensure _ _

theorem reports_checkChains : Reports (checkChains p) := by
  refine reports_bind (reports_forM fun i _ => reports_checkChain) fun _ _ => ?_
  exact reports_bind (reports_ensure _ _) fun _ _ => reports_ensure _ _

/-! ### Turn by turn -/

/-- A walk is over once it does not go on from where it stands. -/
def Stand.Over (p : Puzzle) (s : Stand) : Prop := ∀ t, ¬ Turn p s t

theorem over_none : Stand.Over p ⟨walked,none⟩ := by
  rintro t ⟨⟩

theorem over_of_mem (come : i ∈ walked) : Stand.Over p ⟨walked,some i⟩ := by
  rintro t ⟨fresh,_⟩
  exact fresh come

theorem over_of_ne (astray : (p.clue i).links.previous ≠ walked.getLast?) : Stand.Over p ⟨walked,some i⟩ := by
  rintro t ⟨_,back⟩
  exact astray back

theorem walk_on (present : i ∈ unvisited) (back : (p.clue i).links.previous = previous) :
    walk p head unvisited previous (some i) =
      (walk p head (unvisited.erase i) (some i) (p.clue i).links.next).map (i :: ·) := by
  rw [walk,dif_pos present]
  simp only [back,bne_self_eq_false,Bool.false_eq_true,if_false]
  cases walk p head (unvisited.erase i) (some i) (p.clue i).links.next <;> rfl

/-- The turns of a walk come to an end, where the verdict is what the walk gives. Those
    still to come are at most as many as the clues that have not come yet. -/
theorem walk_turns (inside : ∀ i j, (p.clue i).links.next = some j → j < p.clues.size) {unvisited walked : List ClueId}
    {ahead : Option ClueId} (distinct : unvisited.Nodup) (left : ∀ i, i ∈ unvisited ↔ i < p.clues.size ∧ i ∉ walked)
    (known : ∀ i, ahead = some i → i < p.clues.size) :
    ∃ s, Relation.ReflTransGen (Turn p) ⟨walked,ahead⟩ s ∧ s.Over p ∧
      s.walked.length ≤ walked.length + unvisited.length ∧
        (walk p head unvisited walked.getLast? ahead).map (walked ++ ·) = verdict p head s := by
  cases ahead with
  | none =>
    refine ⟨⟨walked,none⟩,.refl,over_none,Nat.le_add_right _ _,?_⟩
    simp [walk,verdict,Except.map]
  | some i =>
    by_cases present : i ∈ unvisited
    · have new : i ∉ walked := ((left i).mp present).2
      by_cases back : (p.clue i).links.previous = walked.getLast?
      · have left' : ∀ j, j ∈ unvisited.erase i ↔ j < p.clues.size ∧ j ∉ walked ++ [i] := by
          intro j
          rw [distinct.mem_erase_iff,left]
          simp only [List.mem_append,List.mem_singleton,not_or]
          tauto
        obtain ⟨s,turns,ended,short,same⟩ := walk_turns inside (distinct.erase i) left' (inside i)
        refine ⟨s,.head (.on new back) turns,ended,?_,?_⟩
        · have length := List.length_erase_of_mem present
          have some_left := List.length_pos_of_mem present
          rw [List.length_append,List.length_singleton] at short
          omega
        · rw [walk_on present back,← same,List.getLast?_concat]
          cases walk p head (unvisited.erase i) (some i) (p.clue i).links.next <;> simp [Except.map]
      · refine ⟨⟨walked,some i⟩,.refl,over_of_ne back,Nat.le_add_right _ _,?_⟩
        simp [walk,verdict,Except.map,present,back,new]
    · have come : i ∈ walked := by
        by_contra new
        exact present ((left i).mpr ⟨known i rfl,new⟩)
      refine ⟨⟨walked,some i⟩,.refl,over_of_mem come,Nat.le_add_right _ _,?_⟩
      simp [walk,verdict,Except.map,present,come]
termination_by unvisited.length
decreasing_by
  rw [List.length_erase_of_mem present]
  exact Nat.sub_lt (List.length_pos_of_mem present) Nat.one_pos

theorem chainFrom_turns (inside : ∀ i j, (p.clue i).links.next = some j → j < p.clues.size)
    (known : head < p.clues.size) :
    ∃ s, Relation.ReflTransGen (Turn p) ⟨[],some head⟩ s ∧ s.Over p ∧ s.walked.length ≤ p.clues.size ∧
      chainFrom p head = verdict p head s := by
  have left : ∀ i, i ∈ List.range p.clues.size ↔ i < p.clues.size ∧ i ∉ ([] : List ClueId) := by simp
  have all : ∃ s, Relation.ReflTransGen (Turn p) ⟨[],some head⟩ s ∧ s.Over p ∧
      s.walked.length ≤ ([] : List ClueId).length + (List.range p.clues.size).length ∧
        (walk p head (List.range p.clues.size) none (some head)).map ([] ++ ·) = verdict p head s :=
    walk_turns inside List.nodup_range left fun i found => Option.some.inj found ▸ known
  obtain ⟨s,turns,ended,short,same⟩ := all
  refine ⟨s,turns,ended,by simpa using short,?_⟩
  rw [← same,chainFrom]
  cases walk p head (List.range p.clues.size) none (some head) <;> rfl

/-- The check on chains passes exactly if every clue of the board lies in a whole chain and
    the heads of each direction are noted, and else reports a finding; whole chains are the
    same or have no clue in common. Wherever the links lead, a walk from a clue is over
    after at most as many turns as there are clues, and gives what is said where it stands
    then. -/
theorem checkChains_iff_whole (p : Puzzle) :
    (checkChains p = .ok () ↔
      (∀ i ∈ p.board.clues, ∃ head chain, Whole p head chain ∧ i ∈ chain) ∧
        ∀ d, p.board.heads d = (p.board.laid d).filter p.isHead) ∧
      (checkChains p ≠ .ok () → ∃ finding, checkChains p = .error (.audit finding)) ∧
      (∀ head chain head' chain', Whole p head chain → Whole p head' chain' →
        chain = chain' ∨ chain.Disjoint chain') ∧
      ((∀ i j, (p.clue i).links.next = some j → j < p.clues.size) → ∀ head < p.clues.size,
        ∃ s, Relation.ReflTransGen (Turn p) ⟨[],some head⟩ s ∧ s.Over p ∧ s.walked.length ≤ p.clues.size ∧
          chainFrom p head = verdict p head s) := by
  refine ⟨?_,?_,fun _ _ _ _ whole other => whole.eq_or_disjoint other,?_⟩
  · simp only [checkChains,checkHeads,then_eq_ok_iff,forM_eq_ok_iff,checkChain_eq_ok_iff_whole,ensure_eq_ok_iff,
      beq_iff_eq]
    refine and_congr_right fun _ => ⟨?_,fun heads => ⟨heads .across,heads .down⟩⟩
    rintro ⟨across,down⟩ d
    cases d with
    | across => exact across
    | down => exact down
  · intro failed
    rcases reports_checkChains (p := p) with ⟨_,passed⟩ | finding
    · exact absurd passed failed
    · exact finding
  · intro inside head known
    exact chainFrom_turns inside known

/-- Three clues, of which the second follows the first. -/
def pair : Puzzle :=
  { Puzzle.empty with
    clues := #[{ (default : Clue) with links := { head := some 0, next := some 1 } },
      { (default : Clue) with links := { head := some 0, previous := some 0 } },
      { (default : Clue) with links := { head := some 2 } }]
    board := { Board.fresh 0 ⟨0,0⟩ with across := [1,0], down := [2], acrossHeads := [0], downHeads := [2] } }

/-- The same clues, but the second one leads back to the first. -/
def ring : Puzzle := pair.updateClue 1 fun clue => { clue with links := { clue.links with next := some 0 } }

theorem checkChains_pair :
    (∃ chain chain', Whole pair 0 chain ∧ Whole pair 2 chain' ∧ (chain = chain' ∨ chain.Disjoint chain')) ∧
      (∃ finding, checkChains ring = .error (.audit finding)) ∧
      ∃ s, Relation.ReflTransGen (Turn ring) ⟨[],some 0⟩ s ∧ s.Over ring ∧ s.walked.length ≤ 3 ∧
        chainFrom ring 0 = verdict ring 0 s := by
  have chain : chainFrom pair 0 = .ok [0,1] := by cbv
  have chain' : chainFrom pair 2 = .ok [2] := by cbv
  have whole : Whole pair 0 [0,1] := whole_iff_chainFrom.mpr ⟨chain,by decide⟩
  have whole' : Whole pair 2 [2] := whole_iff_chainFrom.mpr ⟨chain',by decide⟩
  have cyclic : checkChains ring = .error (.audit (.cyclic [])) := by cbv
  have failed : checkChains ring ≠ .ok () := by
    rw [cyclic]
    simp
  have inside : ∀ i j, (ring.clue i).links.next = some j → j < ring.clues.size := by
    intro i j leads
    by_cases known : i < ring.clues.size
    · have all : ∀ i < ring.clues.size, ∀ j ∈ (ring.clue i).links.next, j < ring.clues.size := by decide
      exact all i known j leads
    · rw [Puzzle.clue_outside known] at leads
      cases leads
  obtain ⟨_,finding,_,turns⟩ := checkChains_iff_whole ring
  exact ⟨⟨_,_,whole,whole',(checkChains_iff_whole pair).2.2.1 _ _ _ _ whole whole'⟩,finding failed,
    turns inside 0 (by decide)⟩

end

end Crossword.Audit

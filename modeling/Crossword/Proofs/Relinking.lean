import Crossword.Proofs.Linking

/-!
Linking looks at no links that there were before. Every clue of the board is detached
first, and from then on two runs on puzzles that differ in links alone go abreast: they
have the same clues on the board at every step (`Abreast`, `linkClue_abreast`). So a
puzzle may be linked again, after whatever has become of its links, and comes out the
same (`link_forgets`).
-/
namespace Crossword
open Edit Chain

/-- Two puzzles that differ at most in how clues are linked: in the links of clues and in
    the heads noted. -/
structure SameButChains (p q : Puzzle) : Prop where
  board : q.board = { p.board with acrossHeads := q.board.acrossHeads, downHeads := q.board.downHeads }
  cells : q.cells = p.cells
  size : q.clues.size = p.clues.size
  clue : ∀ i, (q.clue i).unlinked = (p.clue i).unlinked

/-- Nothing has changed but links of clues on the board. -/
structure OnlyLinks (p q : Puzzle) : Prop where
  same : SameButLinks p q
  outside : ∀ i, i ∉ p.board.clues → q.clue i = p.clue i

/-- Nothing has changed but links of clues on the board and the heads noted. -/
structure OnlyChains (p q : Puzzle) : Prop where
  same : SameButChains p q
  outside : ∀ i, i ∉ p.board.clues → q.clue i = p.clue i

/-- Two runs side by side. Since each of them began, nothing has changed but links of
    clues on the board, and these clues are the same in both. -/
structure Abreast (a b p q : Puzzle) : Prop where
  left : OnlyLinks a p
  right : OnlyLinks b q
  clue : ∀ i ∈ a.board.clues, p.clue i = q.clue i

section
variable {a b p q : Puzzle} {h i j : ClueId} {chain found : List ClueId}

/-! ### Puzzles that differ in how they are linked -/

theorem Puzzle.ext_of_clue (size : q.clues.size = p.clues.size) (clue : ∀ i, q.clue i = p.clue i)
    (cells : q.cells = p.cells) (board : q.board = p.board) : q = p := by
  have clues : q.clues = p.clues := by
    refine Array.ext size fun i short short' => ?_
    have same := clue i
    simpa [Puzzle.clue,Array.getD_eq_getD_getElem?,short,short'] using same
  cases p
  cases q
  simp_all

namespace SameButChains

theorem refl (p : Puzzle) : SameButChains p p := ⟨rfl,rfl,rfl,fun _ => rfl⟩

theorem laid (same : SameButChains p q) (d : Direction) : q.board.laid d = p.board.laid d := by
  rw [same.board]
  cases d <;> rfl

theorem clues (same : SameButChains p q) : q.board.clues = p.board.clues := by
  rw [same.board]
  rfl

theorem resolve? (same : SameButChains p q) : q.resolve? = p.resolve? := by
  funext reference
  have number : ∀ i, (q.clue i).number = (p.clue i).number := fun i => (congrArg Clue.number (same.clue i) :)
  have candidates : q.board.cluesFor reference.direction = p.board.cluesFor reference.direction := by
    cases reference.direction with
    | none => exact same.clues
    | some d => exact same.laid d
  simp only [Puzzle.resolve?,candidates,number]

end SameButChains

namespace OnlyLinks

theorem refl (p : Puzzle) : OnlyLinks p p := ⟨.refl p,fun _ _ => rfl⟩

theorem updateClue (only : OnlyLinks p q) (member : i ∈ p.board.clues) {f : Clue → Clue}
    (links : ∀ c, (f c).unlinked = c.unlinked) : OnlyLinks p (q.updateClue i f) where
  same := only.same.updateClue links
  outside j apart := by
    have other : i ≠ j := by
      rintro rfl
      exact apart member
    rw [Puzzle.clue_updateClue_eq_ite,if_neg fun here => other here.1]
    exact only.outside j apart

end OnlyLinks

/-! ### Two runs side by side -/

namespace Abreast
variable (start : SameButChains a b)
include start

theorem updateClue (abreast : Abreast a b p q) (member : i ∈ a.board.clues) {f g : Clue → Clue}
    (links : ∀ c, (f c).unlinked = c.unlinked) (links' : ∀ c, (g c).unlinked = c.unlinked)
    (same : f (p.clue i) = g (q.clue i)) : Abreast a b (p.updateClue i f) (q.updateClue i g) where
  left := abreast.left.updateClue member links
  right := abreast.right.updateClue (start.clues ▸ member) links'
  clue j member' := by
    have size : p.clues.size = q.clues.size := by
      rw [abreast.left.same.size,abreast.right.same.size,start.size]
    rw [Puzzle.clue_updateClue_eq_ite,Puzzle.clue_updateClue_eq_ite,size]
    split
    · next here =>
      obtain ⟨rfl,_⟩ := here
      exact same
    · exact abreast.clue j member'

/-- What does not look at links is the same of every clue, on the board or not. -/
theorem kept {α : Type} (abreast : Abreast a b p q) (f : Clue → α) (blind : ∀ c : Clue, f c.unlinked = f c)
    (i : ClueId) : f (p.clue i) = f (q.clue i) := by
  rw [← blind,abreast.left.same.clue,← start.clue,← abreast.right.same.clue,blind]

theorem resolve? (abreast : Abreast a b p q) : p.resolve? = q.resolve? := by
  rw [abreast.left.same.resolve?,abreast.right.same.resolve?,start.resolve?]

omit start in
theorem isTaken (abreast : Abreast a b p q) (member : i ∈ a.board.clues) : isTaken p chain i = isTaken q chain i := by
  simp only [Chain.isTaken,Puzzle.isHead,abreast.clue i member]

theorem foldl_updateClue (abreast : Abreast a b p q) {f : ClueId → Clue → Clue}
    (links : ∀ i c, (f i c).unlinked = c.unlinked) {ids : List ClueId} (inside : ∀ i ∈ ids, i ∈ a.board.clues) :
    Abreast a b (ids.foldl (fun r i => r.updateClue i (f i)) p) (ids.foldl (fun r i => r.updateClue i (f i)) q) := by
  induction ids generalizing p q with
  | nil => exact abreast
  | cons i rest ih =>
    obtain ⟨member,inside⟩ := List.forall_mem_cons.mp inside
    exact ih (abreast.updateClue start member (links i) (links i) (by rw [abreast.clue i member])) inside

theorem gather (abreast : Abreast a b p q) (references : List Reference) :
    gather p h chain references = gather q h chain references := by
  have id : ∀ i, (p.clue i).id = (q.clue i).id := abreast.kept start Clue.id fun _ => rfl
  induction references generalizing chain with
  | nil => rfl
  | cons reference rest ih =>
    unfold Chain.gather
    rw [abreast.resolve? start,id]
    cases resolves : q.resolve? reference with
    | none => rfl
    | some i =>
      have member : i ∈ a.board.clues := by
        rw [← abreast.resolve? start] at resolves
        rw [← abreast.left.same.board]
        exact resolve?_mem resolves
      simp only [abreast.isTaken member,id,ih]

theorem tie (abreast : Abreast a b p q) (inside : ∀ i ∈ chain, i ∈ a.board.clues) (previous : Option ClueId) :
    Abreast a b (tie h previous chain p) (tie h previous chain q) := by
  induction chain generalizing previous p q with
  | nil => exact abreast
  | cons i rest ih =>
    obtain ⟨member,inside⟩ := List.forall_mem_cons.mp inside
    refine ih (abreast.updateClue start member (unlinked_relink _) (unlinked_relink _) ?_) inside (some i)
    rw [abreast.clue i member]

theorem summary (abreast : Abreast a b p q) : summary p chain = summary q chain := by
  have cells : ∀ i, (p.clue i).cells = (q.clue i).cells := abreast.kept start Clue.cells fun _ => rfl
  have lengths : ∀ i, (p.clue i).wordLengths = (q.clue i).wordLengths :=
    abreast.kept start Clue.wordLengths fun _ => rfl
  have label : ∀ i, (p.clue i).label = (q.clue i).label := abreast.kept start Clue.label fun _ => rfl
  funext links
  simp only [Chain.summary,cells,lengths,label]

theorem join (abreast : Abreast a b p q) (head : h ∈ a.board.clues) (inside : ∀ i ∈ chain, i ∈ a.board.clues) :
    Abreast a b (join h chain p) (join h chain q) := by
  have tied := abreast.tie start (h := h) inside none
  have headed := tied.updateClue start head (unlinked_relink (Chain.summary (Chain.tie h none chain p) chain))
    (unlinked_relink (Chain.summary (Chain.tie h none chain q) chain))
    (by rw [tied.clue h head,tied.summary start])
  exact headed.foldl_updateClue start (f := fun _ => relink follow) (fun _ => unlinked_relink follow)
    fun i member => inside i (List.mem_of_mem_drop member)

omit start in
theorem gathered_inside (abreast : Abreast a b p q) (member : h ∈ a.board.clues) {references : List Reference}
    (made : Chain.gather p h [h] references = .ok found) : ∀ i ∈ found, i ∈ a.board.clues := by
  obtain ⟨_,_,_,rfl⟩ := (gather_eq_ok_iff (List.nodup_singleton h)).mp made
  intro i inside
  rcases List.mem_append.mp inside with here | named
  · exact List.mem_singleton.mp here ▸ member
  · obtain ⟨reference,_,resolves⟩ := List.mem_filterMap.mp named
    exact abreast.left.same.board ▸ resolve?_mem resolves

theorem linkChain (abreast : Abreast a b p q) (member : h ∈ a.board.clues) :
    Alike (Abreast a b) ((linkChain h).run p) ((linkChain h).run q) := by
  have same : Chain.gather p h [h] (p.clue h).references = Chain.gather q h [h] (q.clue h).references := by
    rw [abreast.gather start,abreast.clue h member]
  refine alike_bind (alike_judge abreast same) fun chain m n made abreast' => ?_
  have inside := abreast.gathered_inside member (gives_judge.mp made).1
  refine alike_bind (alike_change (abreast'.join start member inside)) fun _ m' n' _ joined => ?_
  have id : ∀ i, (m'.clue i).id = (n'.clue i).id := joined.kept start Clue.id fun _ => rfl
  rw [run_read_bind,run_read_bind]
  simp only [id_eq,id]
  exact alike_enter joined

/-- Linking one clue does not tell two runs apart. -/
theorem linkClue (abreast : Abreast a b p q) (member : i ∈ a.board.clues) :
    Alike (Abreast a b) ((linkClue i).run p) ((linkClue i).run q) := by
  have id : ∀ i, (p.clue i).id = (q.clue i).id := abreast.kept start Clue.id fun _ => rfl
  unfold Chain.linkClue
  rw [run_read_bind,run_read_bind]
  simp only [id_eq,Puzzle.isHead,abreast.clue i member,id]
  by_cases closed : (q.clue i).references.isEmpty = true
  · simp only [closed,if_true]
    exact alike_pure abreast
  · by_cases head : ((q.clue i).links.head == some i) = true
    · simp only [closed,head,Bool.not_true,Bool.false_eq_true,if_false]
      exact abreast.linkChain start member
    · simp only [closed,head,Bool.not_false,Bool.false_eq_true,if_false,if_true]
      exact alike_stop abreast

end Abreast

/-! ### Clues detached -/

/-- The puzzle with all clues of the board detached. -/
def detached (p : Puzzle) : Puzzle := p.board.clues.foldl (fun q i => detach i q) p

/-- The clue as it is once it is detached. -/
def Clue.alone (i : ClueId) (c : Clue) : Clue := { c with links := c.aloneLinks i }

theorem clue_foldl_detach (ids : List ClueId) (j : ClueId) : (ids.foldl (fun q i => detach i q) p).clue j =
    if j ∈ ids ∧ j < p.clues.size then (p.clue j).alone j else p.clue j := by
  induction ids generalizing p with
  | nil => simp
  | cons i rest ih =>
    have size : (detach i p).clues.size = p.clues.size := Puzzle.size_clues_updateClue p i _
    have step : (detach i p).clue j = if i = j ∧ i < p.clues.size then (p.clue j).alone j else p.clue j := by
      rw [detach,Puzzle.clue_updateClue_eq_ite]
      split
      · next here => rw [here.1]; rfl
      · rfl
    rw [List.foldl_cons,ih,size,step]
    by_cases here : i = j
    · subst here
      by_cases inside : i < p.clues.size
      · simp [inside,Clue.alone,Clue.aloneLinks]
      · simp [inside]
    · simp [here,Ne.symm here]

theorem abreast_detached (start : SameButChains a b) : Abreast a b (detached a) (detached b) := by
  have only : ∀ p : Puzzle, OnlyLinks p (detached p) := by
    intro p
    refine ⟨(SameButLinks.refl p).foldl_updateClue (f := fun i clue => clue.alone i) (fun _ _ => rfl) _,?_⟩
    intro i apart
    rw [detached,clue_foldl_detach,if_neg fun here => apart here.1]
  refine ⟨only a,only b,fun i member => ?_⟩
  have alone : ∀ c : Clue, c.alone i = c.unlinked.alone i := fun _ => rfl
  rw [detached,detached,clue_foldl_detach,clue_foldl_detach,start.clues,start.size]
  by_cases inside : i < a.clues.size
  · rw [if_pos ⟨member,inside⟩,if_pos ⟨member,inside⟩,alone,alone (b.clue i),start.clue]
  · rw [if_neg fun here => inside here.2,if_neg fun here => inside here.2,Puzzle.clue_outside inside,
      Puzzle.clue_outside (start.size ▸ inside)]

/-! ### Whole runs -/

/-- The run that links the clues of the board once they are detached. -/
def linkDetached (p : Puzzle) : Outcome Unit := (p.board.clues.forM linkClue).run (detached p)

theorem run_link : link.run p =
    ((p.board.clues.forM linkClue) >>= fun _ => Edit.change noteHeads).run (detached p) := by
  have first : (p.board.clues.forM fun i => Edit.change (detach i)).run p = ⟨.ok (),detached p,[]⟩ := run_forM_change
  rw [link,run_read_bind,run_bind_ok (congrArg Outcome.result first),first]
  rfl

theorem run_link_ok (gives : (linkDetached p).result = .ok ()) :
    link.run p = ⟨.ok (),noteHeads (linkDetached p).puzzle,(linkDetached p).journal⟩ := by
  rw [run_link,run_bind_ok gives,run_change]
  simp only [List.append_nil]
  rfl

theorem run_link_error {fault : Fault} (stops : (linkDetached p).result = .error fault) :
    link.run p = ⟨.error fault,(linkDetached p).puzzle,(linkDetached p).journal⟩ := by
  rw [run_link,run_bind_error stops]
  rfl

theorem linkDetached_alike (start : SameButChains a b) : Alike (Abreast a b) (linkDetached a) (linkDetached b) := by
  unfold linkDetached
  rw [start.clues]
  exact alike_forM (fun i member m n abreast => abreast.linkClue start member) (abreast_detached start)

theorem OnlyLinks.onlyChains (only : OnlyLinks p q) : OnlyChains p q where
  same := ⟨by rw [only.same.board],only.same.cells,only.same.size,only.same.clue⟩
  outside := only.outside

theorem OnlyLinks.noteHeads (only : OnlyLinks p q) : OnlyChains p (noteHeads q) where
  same := ⟨by simp only [Chain.noteHeads,Puzzle.board_updateBoard,only.same.board],only.same.cells,only.same.size,
    only.same.clue⟩
  outside := only.outside

/-- Two runs of linking on puzzles that differ in how they are linked. -/
theorem link_alike (start : SameButChains a b) :
    Alike (fun m n => OnlyChains a m ∧ OnlyChains b n ∧ ∀ i ∈ a.board.clues, m.clue i = n.clue i) (link.run a)
      (link.run b) := by
  have both := linkDetached_alike start
  cases result : (linkDetached a).result with
  | ok =>
    rw [run_link_ok result,run_link_ok (both.result ▸ result)]
    exact ⟨rfl,both.journal,both.puzzle.left.noteHeads,both.puzzle.right.noteHeads,both.puzzle.clue⟩
  | error fault =>
    rw [run_link_error result,run_link_error (both.result ▸ result)]
    exact ⟨rfl,both.journal,both.puzzle.left.onlyChains,both.puzzle.right.onlyChains,both.puzzle.clue⟩

theorem link_onlyChains (p : Puzzle) : OnlyChains p (link.run p).puzzle :=
  (link_alike (SameButChains.refl p)).puzzle.1

theorem heads_of_link_ok (gives : (link.run p).result = .ok ()) (d : Direction) :
    (link.run p).puzzle.board.heads d = (p.board.laid d).filter (link.run p).puzzle.isHead := by
  have only := (linkDetached_alike (SameButChains.refl p)).puzzle.left
  cases result : (linkDetached p).result with
  | ok =>
    rw [run_link_ok result,← only.same.board]
    cases d <;> rfl
  | error fault =>
    rw [run_link_error result] at gives
    cases gives

theorem board_of_link_error {fault : Fault} (stops : (link.run p).result = .error fault) :
    (link.run p).puzzle.board = p.board := by
  have only := (linkDetached_alike (SameButChains.refl p)).puzzle.left
  cases result : (linkDetached p).result with
  | ok =>
    rw [run_link_ok result] at stops
    cases stops
  | error fault' =>
    rw [run_link_error result]
    exact only.same.board

theorem heads_eq_of_link_ok (start : SameButChains p q) (gives : (link.run p).result = .ok ()) (d : Direction) :
    (link.run q).puzzle.board.heads d = (link.run p).puzzle.board.heads d := by
  have both := link_alike start
  rw [heads_of_link_ok gives,heads_of_link_ok (both.result ▸ gives),start.laid]
  refine List.filter_congr fun i member => ?_
  have inside : i ∈ p.board.clues := by
    cases d with
    | across => exact List.mem_append_left _ member
    | down => exact List.mem_append_right _ member
  rw [Puzzle.isHead,Puzzle.isHead,both.puzzle.2.2 i inside]

/-- A puzzle that has been linked, with success or without, is linked already. -/
theorem run_link_again (p : Puzzle) : link.run (link.run p).puzzle = link.run p := by
  have only := link_onlyChains p
  have both := link_alike only.same
  have only' := both.puzzle.2.1
  have board : (link.run (link.run p).puzzle).puzzle.board = (link.run p).puzzle.board := by
    cases result : (link.run p).result with
    | ok =>
      have across := heads_eq_of_link_ok only.same result .across
      have down := heads_eq_of_link_ok only.same result .down
      simp only [Board.heads] at across down
      rw [only'.same.board,across,down]
    | error fault => exact board_of_link_error (both.result ▸ result)
  have puzzle : (link.run (link.run p).puzzle).puzzle = (link.run p).puzzle := by
    refine Puzzle.ext_of_clue only'.same.size (fun i => ?_) only'.same.cells board
    by_cases inside : i ∈ p.board.clues
    · exact (both.puzzle.2.2 i inside).symm
    · exact only'.outside i (only.same.clues ▸ inside)
  calc link.run (link.run p).puzzle
      = ⟨(link.run (link.run p).puzzle).result,(link.run (link.run p).puzzle).puzzle,
          (link.run (link.run p).puzzle).journal⟩ := rfl
    _ = ⟨(link.run p).result,(link.run p).puzzle,(link.run p).journal⟩ := by
      rw [← both.result,puzzle,← both.journal]
    _ = link.run p := rfl

/-- Linking looks at no links and no heads that there were before: two puzzles that differ
    in these alone are linked with the same result, the same entries and the same links for
    the clues on the board. The heads noted are the same then, or stay as they were if
    linking stops. Nothing else changes, and to link again changes nothing. -/
theorem link_forgets (p q : Puzzle) (start : SameButChains p q) :
    (link.run q).result = (link.run p).result ∧ (link.run q).journal = (link.run p).journal ∧
      (∀ i ∈ p.board.clues, (link.run q).puzzle.clue i = (link.run p).puzzle.clue i) ∧
      ((link.run p).result = .ok () → ∀ d, (link.run q).puzzle.board.heads d = (link.run p).puzzle.board.heads d) ∧
      (∀ fault, (link.run p).result = .error fault → ∀ d,
        (link.run p).puzzle.board.heads d = p.board.heads d ∧ (link.run q).puzzle.board.heads d = q.board.heads d) ∧
      OnlyChains p (link.run p).puzzle ∧ OnlyChains q (link.run q).puzzle ∧
      link.run (link.run p).puzzle = link.run p := by
  have both := link_alike start
  obtain ⟨only,only',same⟩ := both.puzzle
  refine ⟨both.result.symm,both.journal.symm,fun i member => (same i member).symm,heads_eq_of_link_ok start,?_,only,
    only',run_link_again p⟩
  intro fault stops d
  rw [board_of_link_error stops,board_of_link_error (both.result ▸ stops)]
  exact ⟨rfl,rfl⟩

/-- The puzzle with a clue tied to others and a head noted that need not be one. -/
def tangle (p : Puzzle) : Puzzle :=
  (p.updateClue 2 <| relink fun links => { links with head := some 0, next := some 2, tails := [1,1] }).updateBoard
    fun board => { board with downHeads := [0] }

theorem sameButChains_tangle (p : Puzzle) : SameButChains p (tangle p) where
  board := rfl
  cells := rfl
  size := Puzzle.size_clues_updateClue p 2 _
  clue := ((SameButLinks.refl p).updateClue (unlinked_relink _)).clue

/-- The relay with a last reference that leads nowhere. -/
def brokenRelay : Puzzle := relay.updateClue 1 fun clue => { clue with references := [⟨2,some .down⟩,⟨9,none⟩] }

theorem link_tangle :
    ((link.run (tangle relay)).result = .ok () ∧
        ∀ d, (link.run (tangle relay)).puzzle.board.heads d = (link.run relay).puzzle.board.heads d) ∧
      ∃ fault, (link.run (tangle brokenRelay)).result = .error fault ∧
        ∀ d, (link.run (tangle brokenRelay)).puzzle.board.heads d = (tangle brokenRelay).board.heads d := by
  have gives : (link.run relay).result = .ok () := (gives_of_isSome (by decide +kernel)).1
  obtain ⟨fault,stops⟩ : ∃ fault, (link.run brokenRelay).result = .error fault := by
    have refused : (link.run brokenRelay).result.toOption.isSome = false := by decide +kernel
    cases result : (link.run brokenRelay).result with
    | ok => simp [result,Except.toOption] at refused
    | error fault => exact ⟨fault,rfl⟩
  obtain ⟨same,_,_,heads,_⟩ := link_forgets relay (tangle relay) (sameButChains_tangle relay)
  obtain ⟨same',_,_,_,kept,_⟩ := link_forgets brokenRelay (tangle brokenRelay) (sameButChains_tangle brokenRelay)
  exact ⟨⟨same.trans gives,heads gives⟩,fault,same'.trans stops,fun d => (kept fault stops d).2⟩

end

end Crossword

import Crossword.Proofs.Halting

/-!
Laying whole clues, one after the other. A clue goes through exactly if none of its
letters falls outside the ground and none of its strokes clashes with a stroke of a
clue laid before (`place_gives`, `place_stops`); a run of clues stops at the first one
that is faulty in this sense (`layAll_outcome`).
-/
namespace Crossword
open Edit Placement

/-- A clue to be laid in a direction. -/
structure Laying where
  direction : Direction
  clue : ClueId
  deriving DecidableEq, Repr

namespace Laying

/-- The strokes of a clue in the order of its letters. -/
def strokes (o : Puzzle) (l : Laying) : List Stroke :=
  (List.range (o.clue l.clue).length.toNat).map fun k => ⟨l.direction,l.clue,k⟩

/-- The place that a clue starts on. -/
def start (o : Puzzle) (l : Laying) : Place := (o.clue l.clue).spot l.direction 0

/-- Two clues cannot both be laid: strokes of theirs are not compatible. -/
def Clashes (o : Puzzle) (l m : Laying) : Prop := ∃ s ∈ l.strokes o, ∃ t ∈ m.strokes o, ¬ s.Compatible o t

/-- The clue cannot be laid after the others: it runs out of the ground or clashes with
    one of them. -/
def Faulty (g : Ground) (o : Puzzle) (before : List Laying) (l : Laying) : Prop :=
  (∃ s ∈ l.strokes o, ¬ g.Inside (s.place o)) ∨ ∃ m ∈ before, m.Clashes o l

/-- The clue stops at one of its letters: those before it are laid, and then this one stops. -/
def StopsAt (p : Puzzle) (l : Laying) (k : Nat) (fault : Fault) (q : Puzzle) : Prop :=
  ∃ m, (layLetters l.direction l.clue 0 k).Gives (p.updateBoard fun board => board.addLaid l.direction l.clue) () m ∧
    (layLetter l.direction l.clue k).Stops m fault q

end Laying

/-- The strokes of clues in the order in which they are made. -/
def strokesOf (o : Puzzle) (steps : List Laying) : List Stroke := steps.flatMap (Laying.strokes o)

/-- Lays clues one after the other. -/
def layAll (steps : List Laying) : Edit Unit := steps.forM fun l => place l.direction l.clue

section
variable {g : Ground} {o p q : Puzzle} {trail : List Stroke} {s t : Stroke} {l m : Laying} {steps : List Laying}

theorem mem_strokes : s ∈ l.strokes o ↔
    s.direction = l.direction ∧ s.clue = l.clue ∧ (s.letter : Int) < (o.clue l.clue).length := by
  simp only [Laying.strokes,List.mem_map,List.mem_range]
  constructor
  · rintro ⟨k,short,rfl⟩
    exact ⟨rfl,rfl,by simp only; omega⟩
  · rintro ⟨direction,clue,short⟩
    exact ⟨s.letter,by omega,by rw [← direction,← clue]⟩

/-- Each letter of a clue has a place of its own. -/
theorem eq_of_mem_strokes (one : s ∈ l.strokes o) (other : t ∈ l.strokes o) (same : s.place o = t.place o) : s = t := by
  obtain ⟨direction,clue,_⟩ := mem_strokes.mp one
  obtain ⟨direction',clue',_⟩ := mem_strokes.mp other
  have letter : s.letter = t.letter := by
    by_contra differ
    exact Stroke.place_ne (direction.trans direction'.symm) (clue.trans clue'.symm) differ same
  cases s
  cases t
  simp_all

theorem mem_strokesOf : s ∈ strokesOf o steps ↔ ∃ l ∈ steps, s ∈ l.strokes o := List.mem_flatMap

/-- Of different clues each one lies over the cells of its own strokes. -/
theorem cellsOf_strokesOf (distinct : (steps.map (·.clue)).Nodup) (member : l ∈ steps) :
    cellsOf g o (strokesOf o steps).reverse l.clue = (l.strokes o).map fun s => g.cellOn (s.place o) := by
  have own : (strokesOf o steps).filter (fun s => s.clue = l.clue) = l.strokes o := by
    induction steps with
    | nil => cases member
    | cons m rest ih =>
      obtain ⟨apart,distinct⟩ := List.nodup_cons.mp distinct
      have split : strokesOf o (m :: rest) = m.strokes o ++ strokesOf o rest := rfl
      rw [split,List.filter_append]
      rcases List.mem_cons.mp member with rfl | later
      · have all : (l.strokes o).filter (fun s => s.clue = l.clue) = l.strokes o :=
          List.filter_eq_self.mpr fun s stroke => decide_eq_true (mem_strokes.mp stroke).2.1
        have none : (strokesOf o rest).filter (fun s => s.clue = l.clue) = [] := by
          refine List.filter_eq_nil_iff.mpr fun s stroke same => apart ?_
          obtain ⟨n,laid,stroke⟩ := mem_strokesOf.mp stroke
          have clue : n.clue = l.clue := (mem_strokes.mp stroke).2.1.symm.trans (of_decide_eq_true same)
          exact List.mem_map.mpr ⟨n,laid,clue⟩
        rw [all,none,List.append_nil]
      · have none : (m.strokes o).filter (fun s => s.clue = l.clue) = [] := by
          refine List.filter_eq_nil_iff.mpr fun s stroke same => apart ?_
          have clue : l.clue = m.clue := (of_decide_eq_true same).symm.trans (mem_strokes.mp stroke).2.1
          exact List.mem_map.mpr ⟨l,later,clue⟩
        rw [none,List.nil_append,ih distinct later]
  simp only [cellsOf,List.filter_reverse,List.map_reverse,List.reverse_reverse,own]

/-! ### The letters of one clue -/

/-- The letters of a clue from one on, the newest stroke first. -/
def strokesFrom (l : Laying) (k more : Nat) : List Stroke :=
  ((List.range' k more).map fun n => (⟨l.direction,l.clue,n⟩ : Stroke)).reverse

theorem strokesFrom_succ (l : Laying) (k more : Nat) :
    strokesFrom l k (more + 1) ++ trail = strokesFrom l (k + 1) more ++ ⟨l.direction,l.clue,k⟩ :: trail := by
  simp [strokesFrom,List.range'_succ]

/-- All letters of a clue from one on can be laid after the trail. -/
structure ReadyFrom (g : Ground) (o : Puzzle) (trail : List Stroke) (l : Laying) (k more : Nat) : Prop where
  inside : ∀ n, k ≤ n → n < k + more → g.Inside ((⟨l.direction,l.clue,n⟩ : Stroke).place o)
  known : l.clue < o.clues.size
  fit : (o.clue l.clue).Fit
  short : ((k + more : Nat) : Int) ≤ (o.clue l.clue).length
  fresh : ∀ t ∈ trail, t.clue = l.clue → t.direction = l.direction ∧ t.letter < k

namespace ReadyFrom
variable {k more : Nat}

theorem head (ready : ReadyFrom g o trail l k (more + 1)) : Ready g o trail ⟨l.direction,l.clue,k⟩ where
  inside := ready.inside k (Nat.le_refl _) (by omega)
  known := ready.known
  fit := ready.fit
  letter := by
    have := ready.short
    simp only
    omega
  fresh t member same := by
    obtain ⟨direction,earlier⟩ := ready.fresh t member same
    exact ⟨direction,Nat.ne_of_lt earlier⟩

theorem tail (ready : ReadyFrom g o trail l k (more + 1)) :
    ReadyFrom g o (⟨l.direction,l.clue,k⟩ :: trail) l (k + 1) more where
  inside n low high := ready.inside n (by omega) (by omega)
  known := ready.known
  fit := ready.fit
  short := by
    have := ready.short
    omega
  fresh t member same := by
    rcases List.mem_cons.mp member with rfl | older
    · exact ⟨rfl,Nat.lt_succ_self k⟩
    · obtain ⟨direction,earlier⟩ := ready.fresh t older same
      exact ⟨direction,Nat.lt_succ_of_lt earlier⟩

theorem front {first : Nat} (ready : ReadyFrom g o trail l k (first + more)) : ReadyFrom g o trail l k first where
  inside n low high := ready.inside n low (by omega)
  known := ready.known
  fit := ready.fit
  short := by
    have := ready.short
    omega
  fresh := ready.fresh

/-- Once the first letters are laid, the others are ready. -/
theorem back {first : Nat} (ready : ReadyFrom g o trail l k (first + more)) :
    ReadyFrom g o (strokesFrom l k first ++ trail) l (k + first) more := by
  induction first generalizing k trail with
  | zero => simpa [strokesFrom] using ready
  | succ first ih =>
    rw [Nat.add_right_comm] at ready
    rw [strokesFrom_succ,Nat.add_left_comm,Nat.add_comm first]
    exact ih ready.tail

end ReadyFrom

/-- The letters of a clue from one on are compatible with a trail. -/
def CompatibleFrom (o : Puzzle) (trail : List Stroke) (l : Laying) (k more : Nat) : Prop :=
  ∀ n, k ≤ n → n < k + more → ∀ t ∈ trail, t.Compatible o ⟨l.direction,l.clue,n⟩

/-- Letters of one clue never clash, so the letter just laid changes nothing for those
    that follow. -/
theorem compatibleFrom_succ {k more : Nat} : CompatibleFrom o trail l k (more + 1) ↔
    (∀ t ∈ trail, t.Compatible o ⟨l.direction,l.clue,k⟩) ∧
      CompatibleFrom o (⟨l.direction,l.clue,k⟩ :: trail) l (k + 1) more := by
  constructor
  · intro all
    refine ⟨all k (Nat.le_refl _) (by omega),?_⟩
    intro n low high t member
    rcases List.mem_cons.mp member with rfl | older
    · exact Stroke.compatible_of_ne (Stroke.place_ne rfl rfl (by simp only; omega))
    · exact all n (by omega) (by omega) t older
  · rintro ⟨first,rest⟩ n low high t member
    rcases Nat.eq_or_lt_of_le low with rfl | later
    · exact first t member
    · exact rest n later (by omega) t (List.mem_cons_of_mem _ member)

theorem layLetters_gives {more k : Nat} (laid : Laid g o trail p) (ready : ReadyFrom g o trail l k more)
    (compatible : CompatibleFrom o trail l k more) :
    ∃ q, (layLetters l.direction l.clue k more).Gives p () q ∧ q.board = p.board ∧
      Laid g o (strokesFrom l k more ++ trail) q := by
  induction more generalizing k trail p with
  | zero => exact ⟨p,by simp [layLetters],rfl,laid⟩
  | succ more ih =>
    obtain ⟨now,later⟩ := compatibleFrom_succ.mp compatible
    obtain ⟨r,first,board,laid'⟩ := laid.layLetter_gives ready.head now
    obtain ⟨q,rest,board',laid''⟩ := ih laid' ready.tail later
    refine ⟨q,?_,board'.trans board,by rw [strokesFrom_succ]; exact laid''⟩
    simp only [layLetters,gives_bind]
    exact ⟨(),r,first,rest⟩

theorem layLetters_stops {more k : Nat} (laid : Laid g o trail p) (ready : ReadyFrom g o trail l k more)
    (clash : ¬ CompatibleFrom o trail l k more) :
    ∃ cause q, (layLetters l.direction l.clue k more).Stops p (.coherence cause) q := by
  induction more generalizing k trail p with
  | zero => exact absurd (fun n low high => by omega) clash
  | succ more ih =>
    rw [compatibleFrom_succ,not_and] at clash
    simp only [layLetters,stops_bind]
    by_cases now : ∀ t ∈ trail, t.Compatible o ⟨l.direction,l.clue,k⟩
    · obtain ⟨r,first,_,laid'⟩ := laid.layLetter_gives ready.head now
      obtain ⟨cause,q,stops⟩ := ih laid' ready.tail (clash now)
      exact ⟨cause,q,.inr ⟨(),r,first,stops⟩⟩
    · obtain ⟨cause,q,stops,_⟩ := laid.layLetter_halts ready.head now
      exact ⟨cause,q,.inl stops⟩

/-- Letters that are laid in turn stop at one of them once those before it are laid. -/
theorem layLetters_stops_iff {d : Direction} {i : ClueId} {k more : Nat} {fault : Fault} : (layLetters d i k more).Stops p fault q ↔
    ∃ n m, n < more ∧ (layLetters d i k n).Gives p () m ∧ (layLetter d i (k + n)).Stops m fault q := by
  induction more generalizing k p with
  | zero => simp [layLetters]
  | succ more ih =>
    simp only [layLetters,stops_bind,ih]
    constructor
    · rintro (now | ⟨_,m,first,n,r,short,gives,stops⟩)
      · exact ⟨0,p,by omega,by simp [layLetters],now⟩
      · refine ⟨n + 1,r,by omega,?_,by rwa [Nat.add_right_comm] at stops⟩
        simp only [layLetters,gives_bind]
        exact ⟨(),m,first,gives⟩
    · rintro ⟨n,r,short,gives,stops⟩
      cases n with
      | zero =>
        simp only [layLetters,gives_pure,true_and] at gives
        subst gives
        exact .inl stops
      | succ n =>
        simp only [layLetters,gives_bind] at gives
        obtain ⟨_,m,first,gives⟩ := gives
        exact .inr ⟨(),m,first,n,r,by omega,gives,by rwa [Nat.add_right_comm]⟩

/-- Letters that have been laid have left their strokes. -/
theorem laid_of_layLetters {more k : Nat} (laid : Laid g o trail p) (ready : ReadyFrom g o trail l k more)
    (gives : (layLetters l.direction l.clue k more).Gives p () q) : Laid g o (strokesFrom l k more ++ trail) q := by
  by_cases compatible : CompatibleFrom o trail l k more
  · obtain ⟨r,gives',_,laid'⟩ := layLetters_gives laid ready compatible
    obtain ⟨_,rfl⟩ := gives_unique gives gives'
    exact laid'
  · obtain ⟨_,_,stops⟩ := layLetters_stops laid ready compatible
    exact absurd stops (not_stops_of_gives gives)

/-! ### One clue -/

theorem checkBounds_eq_ok_iff {b : Bounds} {c : Clue} {d : Direction} (fit : c.Fit) :
    checkBounds b c d = .ok () ↔
      ∀ k : Nat, (k : Int) < c.length → b.contains (c.spot d k).1 (c.spot d k).2 = true := by
  have positive := fit.length_pos
  have contains : ∀ x y, b.contains x y = true ↔ (0 ≤ x ∧ x < b.width) ∧ 0 ≤ y ∧ y < b.height := by
    intro x y
    simp [Bounds.contains,and_assoc]
  unfold checkBounds
  by_cases starts : b.contains c.x c.y = true
  · have inside := (contains _ _).mp starts
    cases d with
    | across =>
      simp only [starts,Bool.not_true,if_false,Clue.spot,contains,Bool.false_eq_true]
      constructor
      · intro checked k short
        split at checked
        · cases checked
        · omega
      · intro all
        have last := all (c.length.toNat - 1) (by omega)
        rw [if_neg (by omega)]
    | down =>
      simp only [starts,Bool.not_true,if_false,Clue.spot,contains,Bool.false_eq_true]
      constructor
      · intro checked k short
        split at checked
        · cases checked
        · omega
      · intro all
        have last := all (c.length.toNat - 1) (by omega)
        rw [if_neg (by omega)]
  · simp only [starts,Bool.not_false,if_true]
    refine iff_of_false (by simp) fun all => starts ?_
    have first := all 0 positive
    cases d <;> simpa [Clue.spot] using first

/-- A clue that goes through keeps to the bounds, and its letters are laid. -/
theorem place_gives_iff {d : Direction} {i : ClueId} : (place d i).Gives p () q ↔
    checkBounds p.board.bounds (p.clue i) d = .ok () ∧
      (layLetters d i 0 (p.clue i).length.toNat).Gives (p.updateBoard fun board => board.addLaid d i) () q := by
  simp only [place,gives_bind,gives_judge,gives_change,gives_read,gives_enter]
  constructor
  · rintro ⟨_,_,⟨checked,rfl⟩,_,_,rfl,_,_,⟨rfl,rfl⟩,_,_,letters,_,_,⟨_,rfl⟩,rfl⟩
    exact ⟨checked,letters⟩
  · rintro ⟨checked,letters⟩
    exact ⟨(),p,⟨checked,rfl⟩,(),_,rfl,_,_,⟨rfl,rfl⟩,(),q,letters,_,q,⟨rfl,rfl⟩,rfl⟩

/-- A clue stops if it breaks the bounds, and else where its letters stop. -/
theorem place_stops_iff {d : Direction} {i : ClueId} {fault : Fault} : (place d i).Stops p fault q ↔
    (∃ cause, checkBounds p.board.bounds (p.clue i) d = .error cause ∧ .bounds cause = fault ∧ p = q) ∨
      checkBounds p.board.bounds (p.clue i) d = .ok () ∧
        (layLetters d i 0 (p.clue i).length.toNat).Stops (p.updateBoard fun board => board.addLaid d i) fault q := by
  simp only [place,stops_bind,stops_judge,not_stops_change,not_stops_read,not_stops_enter,gives_judge,gives_change,
    gives_read,false_or,and_false,exists_false,or_false]
  constructor
  · rintro (⟨⟨cause,broken,rfl⟩,rfl⟩ | ⟨_,_,⟨checked,rfl⟩,_,_,rfl,_,_,⟨rfl,rfl⟩,letters⟩)
    · exact .inl ⟨cause,broken,rfl,rfl⟩
    · exact .inr ⟨checked,letters⟩
  · rintro (⟨cause,broken,rfl,rfl⟩ | ⟨checked,letters⟩)
    · exact .inl ⟨⟨cause,broken,rfl⟩,rfl⟩
    · exact .inr ⟨(),p,⟨checked,rfl⟩,(),_,rfl,_,_,⟨rfl,rfl⟩,letters⟩

/-- A clue that keeps to the bounds stops at one of its letters, once those before it are laid. -/
theorem place_stops_at_iff {fault : Fault} : (place l.direction l.clue).Stops p fault q ↔
    (∃ cause, checkBounds p.board.bounds (p.clue l.clue) l.direction = .error cause ∧ .bounds cause = fault ∧ p = q) ∨
      checkBounds p.board.bounds (p.clue l.clue) l.direction = .ok () ∧
        ∃ k : Nat, (k : Int) < (p.clue l.clue).length ∧ l.StopsAt p k fault q := by
  rw [place_stops_iff,layLetters_stops_iff]
  refine or_congr_right (and_congr_right fun _ => exists_congr fun k => ?_)
  simp only [Nat.zero_add,Laying.StopsAt]
  constructor
  · rintro ⟨m,short,gives,stops⟩
    exact ⟨by omega,m,gives,stops⟩
  · rintro ⟨short,m,gives,stops⟩
    exact ⟨m,by omega,gives,stops⟩

/-- The puzzle after clues have been laid one after the other on a board just
    opened. -/
structure Placed (g : Ground) (o : Puzzle) (done : List Laying) (p : Puzzle) : Prop where
  laid : Laid g o (strokesOf o done).reverse p
  clues : ∀ d, p.board.laid d = (done.filter fun l => l.direction = d).map (·.clue)

/-- The clue is a compiled one that has not been laid before. -/
structure Laying.New (o : Puzzle) (done : List Laying) (l : Laying) : Prop where
  known : l.clue < o.clues.size
  fit : (o.clue l.clue).Fit
  fresh : ∀ m ∈ done, m.clue ≠ l.clue

theorem placed_nil (opened : g.Opened o) : Placed g o [] o where
  laid := laid_nil opened
  clues d := by cases d <;> simp [opened.board,Board.fresh,Board.laid]

theorem Laid.addLaid (laid : Laid g o trail p) (d : Direction) (i : ClueId) :
    Laid g o trail (p.updateBoard fun board => board.addLaid d i) where
  opened := laid.opened
  drawn := laid.drawn
  board := by
    rw [Puzzle.board_updateBoard,laid.board]
    cases d <;> rfl
  room := laid.room
  known := laid.known
  marked := laid.marked
  clue := laid.clue
  length := laid.length
  waiting := laid.waiting
  answered s member := ⟨(laid.answered s member).keeps,(laid.answered s member).agrees,(laid.answered s member).current⟩

theorem checkBounds_laid (laid : Laid g o trail p) (fit : (o.clue l.clue).Fit) :
    checkBounds p.board.bounds (p.clue l.clue) l.direction = .ok () ↔ ∀ s ∈ l.strokes o, g.Inside (s.place o) := by
  have bounds : p.board.bounds = g.bounds := by
    rw [laid.board,laid.opened.board]
    rfl
  have same : checkBounds g.bounds (p.clue l.clue) l.direction = checkBounds g.bounds (o.clue l.clue) l.direction := by
    rw [laid.clue]
    rfl
  rw [bounds,same,checkBounds_eq_ok_iff fit]
  constructor
  · intro all s member
    obtain ⟨direction,clue,short⟩ := mem_strokes.mp member
    have inside := all s.letter short
    rw [← direction,← clue] at inside
    exact inside
  · intro all k short
    exact all ⟨l.direction,l.clue,k⟩ (mem_strokes.mpr ⟨rfl,rfl,short⟩)

theorem compatibleFrom_zero {done : List Laying} :
    CompatibleFrom o (strokesOf o done).reverse l 0 (o.clue l.clue).length.toNat ↔ ∀ m ∈ done, ¬ m.Clashes o l := by
  constructor
  · rintro all m member ⟨s,stroke,t,own,clash⟩
    obtain ⟨direction,clue,short⟩ := mem_strokes.mp own
    have fits := all t.letter (Nat.zero_le _) (by omega) s (List.mem_reverse.mpr (mem_strokesOf.mpr ⟨m,member,stroke⟩))
    rw [← direction,← clue] at fits
    exact clash fits
  · intro none n _ high t member
    obtain ⟨m,laidBefore,stroke⟩ := mem_strokesOf.mp (List.mem_reverse.mp member)
    by_contra clash
    exact none m laidBefore ⟨t,stroke,_,mem_strokes.mpr ⟨rfl,rfl,by simp only; omega⟩,clash⟩

section
variable {done : List Laying}

theorem readyFrom_zero (fresh : l.New o done) (inside : ∀ s ∈ l.strokes o, g.Inside (s.place o)) :
    ReadyFrom g o (strokesOf o done).reverse l 0 (o.clue l.clue).length.toNat where
  inside n _ high := inside _ (mem_strokes.mpr ⟨rfl,rfl,by simp only; omega⟩)
  known := fresh.known
  fit := fresh.fit
  short := by
    have := fresh.fit.length_pos
    omega
  fresh t member same := by
    obtain ⟨m,laidBefore,stroke⟩ := mem_strokesOf.mp (List.mem_reverse.mp member)
    obtain ⟨_,clue,_⟩ := mem_strokes.mp stroke
    exact absurd (clue.symm.trans same) (fresh.fresh m laidBefore)

/-- Of a clue that keeps to the bounds, a letter is ready to be laid once those before it are. -/
theorem Placed.arrives {k : Nat} (placed : Placed g o done p) (fresh : l.New o done)
    (checked : checkBounds p.board.bounds (p.clue l.clue) l.direction = .ok ()) (short : (k : Int) < (p.clue l.clue).length)
    (gives : (layLetters l.direction l.clue 0 k).Gives (p.updateBoard fun board => board.addLaid l.direction l.clue) () q) :
    Laid g o (strokesFrom l 0 k ++ (strokesOf o done).reverse) q ∧
      Ready g o (strokesFrom l 0 k ++ (strokesOf o done).reverse) ⟨l.direction,l.clue,k⟩ := by
  have length := placed.laid.length_eq l.clue
  obtain ⟨more,count⟩ : ∃ more, (o.clue l.clue).length.toNat = k + (more + 1) :=
    ⟨(o.clue l.clue).length.toNat - (k + 1),by omega⟩
  have ready := readyFrom_zero fresh ((checkBounds_laid placed.laid fresh.fit).mp checked)
  rw [count] at ready
  refine ⟨laid_of_layLetters (placed.laid.addLaid l.direction l.clue) ready.front gives,?_⟩
  simpa using ready.back.head

private theorem strokesOf_concat : (strokesOf o (done ++ [l])).reverse =
    strokesFrom l 0 (o.clue l.clue).length.toNat ++ (strokesOf o done).reverse := by
  simp [strokesOf,strokesFrom,Laying.strokes,List.range_eq_range']

theorem place_gives (placed : Placed g o done p) (fresh : l.New o done) (sound : ¬ l.Faulty g o done) :
    ∃ q, (place l.direction l.clue).Gives p () q ∧ Placed g o (done ++ [l]) q := by
  simp only [Laying.Faulty,not_or,not_exists,not_and,not_not] at sound
  obtain ⟨inside,apart⟩ := sound
  have laid := placed.laid.addLaid l.direction l.clue
  obtain ⟨q,gives,board,laid'⟩ := layLetters_gives laid (readyFrom_zero fresh inside) (compatibleFrom_zero.mpr apart)
  refine ⟨q,?_,?_,?_⟩
  · rw [place_gives_iff,placed.laid.length_eq]
    exact ⟨(checkBounds_laid placed.laid fresh.fit).mpr inside,gives⟩
  · rw [strokesOf_concat]
    exact laid'
  · intro d
    rw [board,Puzzle.board_updateBoard]
    have before := placed.clues d
    by_cases along : l.direction = d
    · subst along
      cases way : l.direction <;> rw [way] at before <;> simp_all [Board.laid,Board.addLaid]
    · have other : (p.board.addLaid l.direction l.clue).laid d = p.board.laid d := by
        cases way : l.direction <;> cases d <;> simp_all [Board.laid,Board.addLaid]
      rw [other,before]
      simp [along]

theorem place_stops (placed : Placed g o done p) (fresh : l.New o done) (faulty : l.Faulty g o done) :
    ∃ fault q, (place l.direction l.clue).Stops p fault q := by
  by_cases inside : ∀ s ∈ l.strokes o, g.Inside (s.place o)
  · have clash : ¬ ∀ m ∈ done, ¬ m.Clashes o l := by
      rcases faulty with ⟨s,member,outside⟩ | ⟨m,member,clash⟩
      · exact absurd (inside s member) outside
      · exact fun apart => apart m member clash
    obtain ⟨cause,q,stops⟩ := layLetters_stops (placed.laid.addLaid l.direction l.clue) (readyFrom_zero fresh inside)
      (mt compatibleFrom_zero.mp clash)
    refine ⟨.coherence cause,q,?_⟩
    rw [place_stops_iff,placed.laid.length_eq]
    exact .inr ⟨(checkBounds_laid placed.laid fresh.fit).mpr inside,stops⟩
  · cases checked : checkBounds p.board.bounds (p.clue l.clue) l.direction with
    | ok => exact absurd ((checkBounds_laid placed.laid fresh.fit).mp checked) inside
    | error cause =>
      exact ⟨.bounds cause,p,place_stops_iff.mpr (.inl ⟨cause,checked,rfl,rfl⟩)⟩

end

/-! ### A run of clues -/

/-- No clue of the list is faulty after the clues before it. -/
def Faultless (g : Ground) (o : Puzzle) (done rest : List Laying) : Prop :=
  InTurn (fun before l => ¬ l.Faulty g o before) done rest

/-- All clues of the list can be laid, each after those before it. -/
def AllNew (o : Puzzle) (done rest : List Laying) : Prop := InTurn (fun before l => l.New o before) done rest

theorem layAll_outcome {done rest : List Laying} (placed : Placed g o done p) (fresh : AllNew o done rest) :
    (Faultless g o done rest ∧ ∃ q, (layAll rest).Gives p () q ∧ Placed g o (done ++ rest) q) ∨
      ∃ before l after q fault r, rest = before ++ l :: after ∧ l.Faulty g o (done ++ before) ∧
        (layAll before).Gives p () q ∧ (place l.direction l.clue).Stops q fault r ∧ (layAll rest).Stops p fault r ∧
          Faultless g o done before := by
  have step : ∀ {done l p}, Placed g o done p → l.New o done →
      (¬ l.Faulty g o done ∧ ∃ q, (place l.direction l.clue).Gives p () q ∧ Placed g o (done ++ [l]) q) ∨
        (¬ ¬ l.Faulty g o done ∧ ∃ fault q, True ∧ (place l.direction l.clue).Stops p fault q) := by
    intro done l p placed now
    by_cases faulty : l.Faulty g o done
    · obtain ⟨fault,r,stops⟩ := place_stops placed now faulty
      exact .inr ⟨not_not.mpr faulty,fault,r,trivial,stops⟩
    · exact .inl ⟨faulty,place_gives placed now faulty⟩
  rcases forM_outcome step placed fresh with done_ | ⟨before,l,after,q,fault,r,split,faulty,_,rest⟩
  · exact .inl done_
  · exact .inr ⟨before,l,after,q,fault,r,split,not_not.mp faulty,rest⟩

/-- A run that goes through leaves the puzzle after all its clues, and none was faulty. -/
theorem placed_of_layAll {done rest : List Laying} (placed : Placed g o done p) (fresh : AllNew o done rest)
    (gives : (layAll rest).Gives p () q) : Faultless g o done rest ∧ Placed g o (done ++ rest) q := by
  rcases layAll_outcome placed fresh with ⟨faultless,r,gives',placed'⟩ | ⟨_,_,_,_,_,_,_,_,_,_,stops,_⟩
  · obtain ⟨_,rfl⟩ := gives_unique gives gives'
    exact ⟨faultless,placed'⟩
  · exact absurd stops (not_stops_of_gives gives)

/-! ### Across clues, then those down -/

/-- The run that lays the clues across before those down. -/
def acrossThenDown (across down : List ClueId) : List Laying :=
  across.map (Laying.mk .across) ++ down.map (Laying.mk .down)

/-- The puzzle with its light cells noted. -/
def noteLight (p : Puzzle) : Puzzle := p.updateBoard fun board => { board with lightCells := litCells p }

theorem assemble_gives_iff {across down : List ClueId} : (assemble across down).Gives p () q ↔
    ∃ r, (layAll (acrossThenDown across down)).Gives p () r ∧ noteLight r = q := by
  simp only [assemble,layAll,acrossThenDown,gives_bind,gives_change,gives_read,gives_enter,gives_forM_append,
    gives_forM_map]
  constructor
  · rintro ⟨_,m,first,_,r,second,_,_,rfl,_,_,⟨_,rfl⟩,rfl⟩
    exact ⟨r,⟨m,first,second⟩,rfl⟩
  · rintro ⟨r,⟨m,first,second⟩,rfl⟩
    exact ⟨(),m,first,(),r,second,(),_,rfl,_,_,⟨rfl,rfl⟩,rfl⟩

theorem assemble_stops_iff {across down : List ClueId} {fault : Fault} : (assemble across down).Stops p fault q ↔
    (layAll (acrossThenDown across down)).Stops p fault q := by
  simp only [assemble,layAll,acrossThenDown,stops_bind,gives_change,not_stops_change,not_stops_read,not_stops_enter,
    stops_forM_append,stops_forM_map,gives_forM_map]
  constructor
  · rintro (now | ⟨_,m,first,later | ⟨_,_,_,never | ⟨_,_,_,never | ⟨_,_,_,never⟩⟩⟩⟩)
    · exact .inl now
    · exact .inr ⟨m,first,later⟩
    · exact never.elim
    · exact never.elim
    · exact never.elim
  · rintro (now | ⟨m,first,later⟩)
    · exact .inl now
    · exact .inr ⟨(),m,first,.inl later⟩

end

end Crossword

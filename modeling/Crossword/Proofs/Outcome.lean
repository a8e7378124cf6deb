import Crossword.Edit

/-!
What an edit does to a puzzle: it gives a value or stops at a fault, never both,
and leaves a puzzle either way. Both relations are taken apart step by step along
the way the edit is put together, so that later modules never look into the
sequencing itself. Two runs are set side by side in the same way (`Alike`): if no
step tells two related puzzles apart, neither does a sequence of steps.
-/
namespace Crossword.Edit
variable {α β : Type}

/-- On one puzzle the edit gives a value and leaves another puzzle. -/
def Gives (e : Edit α) (p : Puzzle) (value : α) (q : Puzzle) : Prop :=
  (e.run p).result = .ok value ∧ (e.run p).puzzle = q

/-- On one puzzle the edit stops at a fault and leaves another puzzle. -/
def Stops (e : Edit α) (p : Puzzle) (fault : Fault) (q : Puzzle) : Prop :=
  (e.run p).result = .error fault ∧ (e.run p).puzzle = q

theorem gives_or_stops (e : Edit α) (p : Puzzle) :
    (∃ value q, e.Gives p value q) ∨ ∃ fault q, e.Stops p fault q := by
  cases result : (e.run p).result with
  | ok value => exact .inl ⟨value,_,result,rfl⟩
  | error fault => exact .inr ⟨fault,_,result,rfl⟩

theorem gives_of_isSome {e : Edit Unit} {p : Puzzle} (ran : (e.run p).result.toOption.isSome = true) :
    e.Gives p () (e.run p).puzzle := by
  cases result : (e.run p).result with
  | ok value => exact ⟨result,rfl⟩
  | error fault => simp [result,Except.toOption] at ran

theorem stops_of_isNone {e : Edit Unit} {p : Puzzle} (ran : (e.run p).result.toOption.isNone = true) :
    ∃ fault, e.Stops p fault (e.run p).puzzle := by
  cases result : (e.run p).result with
  | ok value => simp [result,Except.toOption] at ran
  | error fault => exact ⟨fault,result,rfl⟩

theorem not_stops_of_gives {e : Edit α} {p q r : Puzzle} {value : α} {fault : Fault}
    (gives : e.Gives p value q) : ¬ e.Stops p fault r := by
  rintro ⟨stopped,_⟩
  rw [gives.1] at stopped
  cases stopped

theorem gives_unique {e : Edit α} {p q r : Puzzle} {a b : α} (one : e.Gives p a q) (other : e.Gives p b r) :
    a = b ∧ q = r := by
  obtain ⟨result,rfl⟩ := one
  obtain ⟨result',rfl⟩ := other
  rw [result] at result'
  cases result'
  exact ⟨rfl,rfl⟩

theorem stops_unique {e : Edit α} {p q r : Puzzle} {a b : Fault} (one : e.Stops p a q) (other : e.Stops p b r) :
    a = b ∧ q = r := by
  obtain ⟨result,rfl⟩ := one
  obtain ⟨result',rfl⟩ := other
  rw [result] at result'
  cases result'
  exact ⟨rfl,rfl⟩

/-! ### Single steps -/

@[simp] theorem gives_pure {value b : α} {p q : Puzzle} :
    (pure value : Edit α).Gives p b q ↔ value = b ∧ p = q := by
  simp [Gives]

@[simp] theorem not_stops_pure {value : α} {fault : Fault} {p q : Puzzle} :
    ¬ (pure value : Edit α).Stops p fault q := by
  simp [Stops]

@[simp] theorem gives_read {f : Puzzle → α} {value : α} {p q : Puzzle} :
    (read f).Gives p value q ↔ f p = value ∧ p = q := by
  simp [Gives]

@[simp] theorem not_stops_read {f : Puzzle → α} {fault : Fault} {p q : Puzzle} :
    ¬ (read f).Stops p fault q := by
  simp [Stops]

@[simp] theorem gives_change {f : Puzzle → Puzzle} {value : Unit} {p q : Puzzle} :
    (change f).Gives p value q ↔ f p = q := by
  simp [Gives]

@[simp] theorem not_stops_change {f : Puzzle → Puzzle} {fault : Fault} {p q : Puzzle} :
    ¬ (change f).Stops p fault q := by
  simp [Stops]

@[simp] theorem not_gives_stop {fault : Fault} {value : α} {p q : Puzzle} :
    ¬ (stop fault : Edit α).Gives p value q := by
  simp [Gives]

@[simp] theorem stops_stop {fault cause : Fault} {p q : Puzzle} :
    (stop fault : Edit α).Stops p cause q ↔ fault = cause ∧ p = q := by
  simp [Stops]

@[simp] theorem gives_enter {level : Level} {message : String} {value : Unit} {p q : Puzzle} :
    (enter level message).Gives p value q ↔ p = q := by
  simp [Gives]

@[simp] theorem not_stops_enter {level : Level} {message : String} {fault : Fault} {p q : Puzzle} :
    ¬ (enter level message).Stops p fault q := by
  simp [Stops]

section
variable {ε : Type} {cause : ε → Fault}

@[simp] theorem gives_ofExcept {found : Except ε α} {value : α} {p q : Puzzle} :
    (ofExcept cause found).Gives p value q ↔ found = .ok value ∧ p = q := by
  cases found with
  | ok a => simp [ofExcept,Gives,run,done]
  | error fault => simp [ofExcept,Gives]

@[simp] theorem stops_ofExcept {found : Except ε α} {fault : Fault} {p q : Puzzle} :
    (ofExcept cause found).Stops p fault q ↔ (∃ e, found = .error e ∧ cause e = fault) ∧ p = q := by
  cases found with
  | ok a => simp [ofExcept,Stops,run,done]
  | error e => simp [ofExcept,Stops]

@[simp] theorem gives_judge {f : Puzzle → Except ε α} {value : α} {p q : Puzzle} :
    (judge cause f).Gives p value q ↔ f p = .ok value ∧ p = q :=
  gives_ofExcept

@[simp] theorem stops_judge {f : Puzzle → Except ε α} {fault : Fault} {p q : Puzzle} :
    (judge cause f).Stops p fault q ↔ (∃ e, f p = .error e ∧ cause e = fault) ∧ p = q :=
  stops_ofExcept

end

/-! ### Steps in order -/

theorem gives_bind {e : Edit α} {next : α → Edit β} {p r : Puzzle} {b : β} :
    (e >>= next).Gives p b r ↔ ∃ a q, e.Gives p a q ∧ (next a).Gives q b r := by
  cases result : (e.run p).result with
  | error fault =>
    rw [Gives,run_bind_error result]
    constructor
    · rintro ⟨stopped,_⟩
      cases stopped
    · rintro ⟨a,q,gives,_⟩
      rw [gives.1] at result
      cases result
  | ok a =>
    rw [Gives,run_bind_ok result]
    constructor
    · rintro ⟨last,left⟩
      exact ⟨a,_,⟨result,rfl⟩,last,left⟩
    · rintro ⟨a',q,⟨first,rfl⟩,last⟩
      rw [result] at first
      cases first
      exact last

theorem stops_bind {e : Edit α} {next : α → Edit β} {p r : Puzzle} {fault : Fault} :
    (e >>= next).Stops p fault r ↔
      e.Stops p fault r ∨ ∃ a q, e.Gives p a q ∧ (next a).Stops q fault r := by
  cases result : (e.run p).result with
  | error found =>
    rw [Stops,run_bind_error result]
    constructor
    · rintro ⟨stopped,left⟩
      cases stopped
      exact .inl ⟨result,left⟩
    · rintro (⟨stopped,left⟩ | ⟨a,q,gives,_⟩)
      · rw [result] at stopped
        cases stopped
        exact ⟨rfl,left⟩
      · rw [gives.1] at result
        cases result
  | ok a =>
    rw [Stops,run_bind_ok result]
    constructor
    · rintro ⟨stopped,left⟩
      exact .inr ⟨a,_,⟨result,rfl⟩,stopped,left⟩
    · rintro (⟨stopped,_⟩ | ⟨a',q,⟨first,rfl⟩,last⟩)
      · rw [result] at stopped
        cases stopped
      · rw [result] at first
        cases first
        exact last

/-- What comes after an edit matters only where the edit can lead. -/
theorem run_bind_congr {e : Edit α} {next last : α → Edit β} {p : Puzzle}
    (same : ∀ a q, e.Gives p a q → (next a).run q = (last a).run q) : (e >>= next).run p = (e >>= last).run p := by
  cases result : (e.run p).result with
  | error fault => rw [run_bind_error result,run_bind_error result]
  | ok a => rw [run_bind_ok result,run_bind_ok result,same a _ ⟨result,rfl⟩]

theorem andThen_assoc {γ : Type} (e : Edit α) (next : α → Edit β) (last : β → Edit γ) :
    (e >>= next) >>= last = e >>= fun a => next a >>= last := by
  funext p
  show andThen (andThen e next) last p = andThen e (fun a => andThen (next a) last) p
  unfold andThen
  obtain ⟨result,q,entries⟩ := e p
  cases result with
  | error fault => rfl
  | ok a =>
    simp only
    obtain ⟨result,r,more⟩ := next a q
    cases result with
    | error fault => rfl
    | ok b =>
      simp only
      obtain ⟨result,t,most⟩ := last b r
      simp [List.append_assoc]

/-! ### Steps for the items of a list -/

section
variable {each : α → Edit Unit} {p q : Puzzle} {fault : Fault}

@[simp] theorem gives_forM_nil : (List.forM [] each).Gives p () q ↔ p = q := by
  simp [List.forM]

@[simp] theorem not_stops_forM_nil : ¬ (List.forM [] each).Stops p fault q := by
  simp [List.forM]

theorem gives_forM_cons {a : α} {rest : List α} :
    (List.forM (a :: rest) each).Gives p () q ↔ ∃ m, (each a).Gives p () m ∧ (rest.forM each).Gives m () q := by
  show (each a >>= fun _ => rest.forM each).Gives p () q ↔ _
  rw [gives_bind]
  constructor
  · rintro ⟨_,m,first,last⟩
    exact ⟨m,first,last⟩
  · rintro ⟨m,first,last⟩
    exact ⟨(),m,first,last⟩

theorem stops_forM_cons {a : α} {rest : List α} :
    (List.forM (a :: rest) each).Stops p fault q ↔
      (each a).Stops p fault q ∨ ∃ m, (each a).Gives p () m ∧ (rest.forM each).Stops m fault q := by
  show (each a >>= fun _ => rest.forM each).Stops p fault q ↔ _
  rw [stops_bind]
  constructor
  · rintro (now | ⟨_,m,first,last⟩)
    · exact .inl now
    · exact .inr ⟨m,first,last⟩
  · rintro (now | ⟨m,first,last⟩)
    · exact .inl now
    · exact .inr ⟨(),m,first,last⟩

theorem gives_forM_append {front back : List α} :
    ((front ++ back).forM each).Gives p () q ↔ ∃ m, (front.forM each).Gives p () m ∧ (back.forM each).Gives m () q := by
  induction front generalizing p with
  | nil => simp
  | cons a rest ih =>
    simp only [List.cons_append,gives_forM_cons,ih]
    constructor
    · rintro ⟨m,first,n,middle,last⟩
      exact ⟨n,⟨m,first,middle⟩,last⟩
    · rintro ⟨n,⟨m,first,middle⟩,last⟩
      exact ⟨m,first,n,middle,last⟩

theorem stops_forM_append {front back : List α} :
    ((front ++ back).forM each).Stops p fault q ↔
      (front.forM each).Stops p fault q ∨ ∃ m, (front.forM each).Gives p () m ∧ (back.forM each).Stops m fault q := by
  induction front generalizing p with
  | nil => simp
  | cons a rest ih =>
    simp only [List.cons_append,gives_forM_cons,stops_forM_cons,ih]
    constructor
    · rintro (now | ⟨m,first,middle | ⟨n,middle,last⟩⟩)
      · exact .inl (.inl now)
      · exact .inl (.inr ⟨m,first,middle⟩)
      · exact .inr ⟨n,⟨m,first,middle⟩,last⟩
    · rintro ((now | ⟨m,first,middle⟩) | ⟨n,⟨m,first,middle⟩,last⟩)
      · exact .inl now
      · exact .inr ⟨m,first,.inl middle⟩
      · exact .inr ⟨m,first,.inr ⟨n,middle,last⟩⟩

/-- A run that stops has gone through some items and stops at the next. -/
theorem stops_forM_iff {items : List α} : (items.forM each).Stops p fault q ↔
    ∃ before a after m, items = before ++ a :: after ∧ (before.forM each).Gives p () m ∧ (each a).Stops m fault q := by
  constructor
  · intro stops
    induction items generalizing p with
    | nil => exact absurd stops not_stops_forM_nil
    | cons a rest ih =>
      rcases stops_forM_cons.mp stops with now | ⟨m,first,later⟩
      · exact ⟨[],a,rest,p,rfl,gives_forM_nil.mpr rfl,now⟩
      · obtain ⟨before,b,after,n,rfl,gives,stops⟩ := ih later
        exact ⟨a :: before,b,after,n,rfl,gives_forM_cons.mpr ⟨m,first,gives⟩,stops⟩
  · rintro ⟨before,a,after,m,rfl,gives,stops⟩
    exact stops_forM_append.mpr (.inr ⟨m,gives,stops_forM_cons.mpr (.inl stops)⟩)

theorem stops_forM_map {γ : Type} {f : γ → α} {items : List γ} :
    ((items.map f).forM each).Stops p fault q ↔ (items.forM fun item => each (f item)).Stops p fault q := by
  induction items generalizing p with
  | nil => simp
  | cons item rest ih => simp only [List.map_cons,stops_forM_cons,ih]

theorem gives_forM_map {γ : Type} {f : γ → α} {items : List γ} :
    ((items.map f).forM each).Gives p () q ↔ (items.forM fun item => each (f item)).Gives p () q := by
  induction items generalizing p with
  | nil => simp
  | cons item rest ih => simp only [List.map_cons,gives_forM_cons,ih]

theorem run_forM_change {f : α → Puzzle → Puzzle} {items : List α} :
    (items.forM fun item => change (f item)).run p = ⟨.ok (),items.foldl (fun r item => f item r) p,[]⟩ := by
  induction items generalizing p with
  | nil => rfl
  | cons item rest ih =>
    show (change (f item) >>= fun _ => rest.forM fun item => change (f item)).run p = _
    rw [run_bind_ok (show ((change (f item)).run p).result = .ok () from rfl),run_change,ih]
    rfl

theorem gives_forM_change {f : α → Puzzle → Puzzle} {items : List α} :
    (items.forM fun item => change (f item)).Gives p () q ↔ items.foldl (fun r item => f item r) p = q := by
  induction items generalizing p with
  | nil => simp
  | cons item rest ih => simp only [gives_forM_cons,gives_change,exists_eq_left',List.foldl_cons,ih]

end

/-! ### Items in turn -/

/-- Every item of the rest has the property after the items done and those before it. -/
def InTurn (property : List α → α → Prop) (done rest : List α) : Prop :=
  ∀ before item after, rest = before ++ item :: after → property (done ++ before) item

section
variable {property : List α → α → Prop} {done rest : List α} {item : α}

theorem inTurn_nil : InTurn property done [] := by
  intro before item after same
  simp at same

theorem inTurn_cons :
    InTurn property done (item :: rest) ↔ property done item ∧ InTurn property (done ++ [item]) rest := by
  constructor
  · intro all
    refine ⟨by simpa using all [] item rest rfl,fun before other after same => ?_⟩
    simpa using all (item :: before) other after (by simp [same])
  · rintro ⟨now,all⟩ before other after same
    cases before with
    | nil =>
      cases same
      simpa using now
    | cons first before =>
      cases same
      simpa using all before other after rfl

/-- What holds between every item and those before it holds between any two, if it is
    symmetric. -/
theorem InTurn.symmetric {related : α → α → Prop} (symm : ∀ {a b}, related a b → related b a)
    (inTurn : InTurn (fun before b => ∀ a ∈ before, related a b) [] rest) {a b : α} (one : a ∈ rest) (other : b ∈ rest)
    (different : a ≠ b) : related a b := by
  obtain ⟨before,after,split⟩ := List.append_of_mem one
  rw [split] at other
  rcases List.mem_append.mp other with earlier | here
  · exact symm (inTurn before a after split b earlier)
  · rcases List.mem_cons.mp here with same | behind
    · exact absurd same.symm different
    · obtain ⟨between,last,split'⟩ := List.append_of_mem behind
      exact inTurn (before ++ a :: between) b last (by rw [split,split']; simp) a (by simp)

/-- A run over items of which each one passes or stops: it gives a puzzle exactly if all
    of them pass in turn, and else stops at the first that does not. -/
theorem forM_outcome {each : α → Edit Unit} {invariant : List α → Puzzle → Prop} {ready passes : List α → α → Prop}
    {caused : Fault → Prop}
    (step : ∀ {done item p}, invariant done p → ready done item →
      (passes done item ∧ ∃ q, (each item).Gives p () q ∧ invariant (done ++ [item]) q) ∨
        (¬ passes done item ∧ ∃ fault q, caused fault ∧ (each item).Stops p fault q))
    {p : Puzzle} (holds : invariant done p) (waiting : InTurn ready done rest) :
    (InTurn passes done rest ∧ ∃ q, (rest.forM each).Gives p () q ∧ invariant (done ++ rest) q) ∨
      ∃ before item after q fault r, rest = before ++ item :: after ∧ ¬ passes (done ++ before) item ∧ caused fault ∧
        (before.forM each).Gives p () q ∧ (each item).Stops q fault r ∧ (rest.forM each).Stops p fault r ∧
          InTurn passes done before := by
  induction rest generalizing done p with
  | nil => exact .inl ⟨inTurn_nil,p,by simp,by simpa using holds⟩
  | cons item rest ih =>
    obtain ⟨now,waiting⟩ := inTurn_cons.mp waiting
    rcases step holds now with ⟨pass,m,gives,holds'⟩ | ⟨refused,fault,r,cause,stops⟩
    · rcases ih holds' waiting with
        ⟨all,q,gives',last⟩ | ⟨before,other,after,q,fault,r,same,refused,cause,some_,stops,rest',all⟩
      · exact .inl ⟨inTurn_cons.mpr ⟨pass,all⟩,q,gives_forM_cons.mpr ⟨m,gives,gives'⟩,by simpa using last⟩
      · refine .inr ⟨item :: before,other,after,q,fault,r,by simp [same],by simpa using refused,cause,?_,stops,?_,?_⟩
        · exact gives_forM_cons.mpr ⟨m,gives,some_⟩
        · exact stops_forM_cons.mpr (.inr ⟨m,gives,rest'⟩)
        · exact inTurn_cons.mpr ⟨pass,all⟩
    · refine .inr ⟨[],item,rest,p,fault,r,rfl,by simpa using refused,cause,by simp,stops,?_,inTurn_nil⟩
      exact stops_forM_cons.mpr (.inl stops)

end

/-! ### Two runs side by side -/

/-- Two outcomes that differ at most in the puzzles they leave, and those are related. -/
structure Alike (related : Puzzle → Puzzle → Prop) (one other : Outcome α) : Prop where
  result : one.result = other.result
  journal : one.journal = other.journal
  puzzle : related one.puzzle other.puzzle

section
variable {related : Puzzle → Puzzle → Prop} {p q : Puzzle}

theorem run_read_bind {f : Puzzle → α} {next : α → Edit β} : (read f >>= next).run p = (next (f p)).run p := by
  rw [run_bind_ok (show ((read f).run p).result = .ok (f p) from rfl)]
  rfl

theorem alike_pure {value : α} (same : related p q) :
    Alike related ((pure value : Edit α).run p) ((pure value : Edit α).run q) :=
  ⟨rfl,rfl,same⟩

theorem alike_stop {fault : Fault} (same : related p q) :
    Alike related ((stop fault : Edit α).run p) ((stop fault : Edit α).run q) :=
  ⟨rfl,rfl,same⟩

theorem alike_change {f g : Puzzle → Puzzle} (same : related (f p) (g q)) :
    Alike related ((change f).run p) ((change g).run q) :=
  ⟨rfl,rfl,same⟩

theorem alike_enter {level : Level} {message : String} (same : related p q) :
    Alike related ((enter level message).run p) ((enter level message).run q) :=
  ⟨rfl,rfl,same⟩

theorem alike_judge {ε : Type} {cause : ε → Fault} {f : Puzzle → Except ε α} (same : related p q) (found : f p = f q) :
    Alike related ((judge cause f).run p) ((judge cause f).run q) := by
  cases result : f p with
  | ok value =>
    rw [run_judge_ok result,run_judge_ok (found ▸ result)]
    exact ⟨rfl,rfl,same⟩
  | error fault =>
    rw [run_judge_error result,run_judge_error (found ▸ result)]
    exact ⟨rfl,rfl,same⟩

theorem alike_bind {e e' : Edit α} {next next' : α → Edit β} (first : Alike related (e.run p) (e'.run q))
    (later : ∀ a m n, e.Gives p a m → related m n → Alike related ((next a).run m) ((next' a).run n)) :
    Alike related ((e >>= next).run p) ((e' >>= next').run q) := by
  cases result : (e.run p).result with
  | error fault =>
    rw [run_bind_error result,run_bind_error (first.result ▸ result)]
    exact ⟨rfl,first.journal,first.puzzle⟩
  | ok a =>
    have last := later a _ _ ⟨result,rfl⟩ first.puzzle
    rw [run_bind_ok result,run_bind_ok (first.result ▸ result)]
    exact ⟨last.result,by rw [first.journal,last.journal],last.puzzle⟩

theorem alike_forM {each each' : α → Edit Unit} {items : List α}
    (step : ∀ item ∈ items, ∀ m n, related m n → Alike related ((each item).run m) ((each' item).run n))
    (same : related p q) : Alike related ((items.forM each).run p) ((items.forM each').run q) := by
  induction items generalizing p q with
  | nil => exact alike_pure same
  | cons item rest ih =>
    refine alike_bind (step item List.mem_cons_self p q same) fun _ m n _ related' => ?_
    exact ih (fun other member => step other (List.mem_cons_of_mem _ member)) related'

end

end Crossword.Edit

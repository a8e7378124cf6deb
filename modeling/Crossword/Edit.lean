import Crossword.Fault
import Crossword.Journal
import Crossword.Puzzle

/-!
# Edits

An edit works on a puzzle step by step and may stop at a fault. What it has
changed by then stays changed, and what it has entered into the journal stays
there; only the steps that would have followed are missing.
-/
namespace Crossword

/-- What an edit leaves: its result or the fault it stopped at, the puzzle as it
is then, and the entries made. -/
structure Outcome (α : Type) where
  result : Except Fault α
  puzzle : Puzzle
  journal : List Entry

/-- Work on a puzzle. -/
def Edit (α : Type) : Type := Puzzle → Outcome α

namespace Edit
variable {α β : Type}

/-- The outcome of an edit on a puzzle. -/
def run (e : Edit α) (p : Puzzle) : Outcome α := e p

/-- Nothing is done. -/
def done (value : α) : Edit α := fun p => ⟨.ok value, p, []⟩

/-- One edit after another: the second runs on what the first leaves, unless the
first has stopped. -/
def andThen (e : Edit α) (next : α → Edit β) : Edit β := fun p =>
  match e p with
  | ⟨.error fault, after, entries⟩ => ⟨.error fault, after, entries⟩
  | ⟨.ok value, after, entries⟩ =>
    match next value after with
    | ⟨result, last, more⟩ => ⟨result, last, entries ++ more⟩

instance : Monad Edit where
  pure := done
  bind := andThen

/-- Looks at the puzzle. -/
def read (f : Puzzle → α) : Edit α := fun p => ⟨.ok (f p), p, []⟩

/-- Changes the puzzle. -/
def change (f : Puzzle → Puzzle) : Edit Unit := fun p => ⟨.ok (), f p, []⟩

/-- Stops at a fault. -/
def stop (fault : Fault) : Edit α := fun p => ⟨.error fault, p, []⟩

/-- Goes on with a value, or stops at the fault there is instead. -/
def ofExcept {ε : Type} (cause : ε → Fault) : Except ε α → Edit α
  | .ok value => done value
  | .error fault => stop (cause fault)

/-- Looks at the puzzle and goes on with what is found there, or stops at the
fault found instead. -/
def judge {ε : Type} (cause : ε → Fault) (f : Puzzle → Except ε α) : Edit α := fun p =>
  ofExcept cause (f p) p

/-- Makes an entry in the journal. -/
def enter (level : Level) (message : String) : Edit Unit := fun p => ⟨.ok (), p, [⟨level, message⟩]⟩

/-! ## Outcomes -/

@[simp] theorem run_pure (value : α) (p : Puzzle) : (pure value : Edit α).run p = ⟨.ok value, p, []⟩ := rfl

@[simp] theorem run_read (f : Puzzle → α) (p : Puzzle) : (read f).run p = ⟨.ok (f p), p, []⟩ := rfl

@[simp] theorem run_change (f : Puzzle → Puzzle) (p : Puzzle) : (change f).run p = ⟨.ok (), f p, []⟩ := rfl

@[simp] theorem run_stop (fault : Fault) (p : Puzzle) : (stop fault : Edit α).run p = ⟨.error fault, p, []⟩ := rfl

@[simp] theorem run_enter (level : Level) (message : String) (p : Puzzle) :
    (enter level message).run p = ⟨.ok (), p, [⟨level, message⟩]⟩ := rfl

theorem run_judge_ok {ε : Type} {cause : ε → Fault} {f : Puzzle → Except ε α} {p : Puzzle} {value : α}
    (h : f p = .ok value) : (judge cause f).run p = ⟨.ok value, p, []⟩ := by
  show ofExcept cause (f p) p = _
  rw [h]
  rfl

theorem run_judge_error {ε : Type} {cause : ε → Fault} {f : Puzzle → Except ε α} {p : Puzzle} {fault : ε}
    (h : f p = .error fault) : (judge cause f).run p = ⟨.error (cause fault), p, []⟩ := by
  show ofExcept cause (f p) p = _
  rw [h]
  rfl

theorem run_bind_ok {e : Edit α} {next : α → Edit β} {p : Puzzle} {value : α}
    (h : (e.run p).result = .ok value) :
    (e >>= next).run p =
      ⟨((next value).run (e.run p).puzzle).result, ((next value).run (e.run p).puzzle).puzzle,
        (e.run p).journal ++ ((next value).run (e.run p).puzzle).journal⟩ := by
  show andThen e next p = _
  unfold andThen run at *
  generalize e p = outcome at *
  obtain ⟨result, after, entries⟩ := outcome
  cases h
  rfl

theorem run_bind_error {e : Edit α} {next : α → Edit β} {p : Puzzle} {fault : Fault}
    (h : (e.run p).result = .error fault) :
    (e >>= next).run p = ⟨.error fault, (e.run p).puzzle, (e.run p).journal⟩ := by
  show andThen e next p = _
  unfold andThen run at *
  generalize e p = outcome at *
  obtain ⟨result, after, entries⟩ := outcome
  cases h
  rfl

end Edit

end Crossword

import Crossword.Draft
import Crossword.Proofs.Auditing

/-!
What it means for a clue specification to be read. The checks run in an order of their own;
together they come to a condition on what the table holds under each name (`Reads`,
`read_eq_ok_iff`).
-/
namespace Crossword
open Audit

/-- What a table holds where it is read as a specification: each field under its name, and
    nothing else. -/
structure ClueSpec.Reads (entries : List (Datum × Datum)) (s : ClueSpec) : Prop where
  x : Datum.lookup? ClueField.x.name entries = some (.whole s.x)
  y : Datum.lookup? ClueField.y.name entries = some (.whole s.y)
  clue : Datum.lookup? ClueField.clue.name entries = some (.text s.clue)
  answer : Datum.lookup? ClueField.answer.name entries = s.answer.map .text
  solution : Datum.lookup? ClueField.solution.name entries = s.solution.map .text
  revealed : Datum.lookup? ClueField.revealed.name entries = s.revealed.map .text
  expected : ∀ key ∈ entries.map (·.1), ∃ field : ClueField, key = .text field.name

namespace ClueSpec
variable {entries : List (Datum × Datum)} {field : ClueField} {s : ClueSpec}

theorem present_eq_ok_iff {value : Datum} :
    present entries field = .ok value ↔ Datum.lookup? field.name entries = some value := by
  unfold present
  cases Datum.lookup? field.name entries <;> simp

theorem integer_eq_ok_iff {value : Datum} {n : Int} : integer field value = .ok n ↔ value = .whole n := by
  cases value <;> simp [integer]

theorem text_eq_ok_iff {value : Datum} {t : Text} : text field value = .ok t ↔ value = .text t := by
  cases value <;> simp [text]

theorem optionalText_eq_ok_iff {given : Option Text} :
    optionalText entries field = .ok given ↔ Datum.lookup? field.name entries = given.map .text := by
  unfold optionalText
  cases found : Datum.lookup? field.name entries with
  | none => cases given <;> simp
  | some value =>
    cases read : text field value with
    | error fault =>
      have other : ∀ t, value ≠ .text t := fun t same => by simp [same,text] at read
      cases given <;> simp [Except.map,read,other]
    | ok t =>
      rw [text_eq_ok_iff.mp read]
      cases given <;> simp [text,Except.map]

theorem isField_iff {key : Datum} : isField key = true ↔ ∃ field : ClueField, key = .text field.name := by
  have all : ∀ field : ClueField, field ∈ requiredFields ++ optionalFields := fun field => by cases field <;> decide
  have named : ∀ name, key.isText name = true ↔ key = .text name := fun name => by
    cases key <;> simp [Datum.isText]
  simp only [isField,List.any_eq_true,named]
  exact ⟨fun ⟨field,_,same⟩ => ⟨field,same⟩,fun ⟨field,same⟩ => ⟨field,all field,same⟩⟩

theorem ofEntries_eq_ok_iff {d : Direction} : ofEntries entries d = .ok s ↔ Reads entries s ∧ s.direction = d := by
  simp only [ofEntries,bind_eq_ok_iff,present_eq_ok_iff,integer_eq_ok_iff,text_eq_ok_iff,optionalText_eq_ok_iff]
  constructor
  · rintro ⟨_,x,_,y,_,clue,x',rfl,y',rfl,clue',rfl,answer,given,solution,given',revealed,given'',rest⟩
    split at rest
    · next none =>
      cases rest
      refine ⟨⟨x,y,clue,given,given',given'',?_⟩,rfl⟩
      simpa [isField_iff] using none
    · cases rest
  · rintro ⟨reads,rfl⟩
    refine ⟨_,reads.x,_,reads.y,_,reads.clue,_,rfl,_,rfl,_,rfl,_,reads.answer,_,reads.solution,_,reads.revealed,?_⟩
    rw [if_pos]
    · rfl
    · simpa [isField_iff] using reads.expected

theorem read_eq_ok_iff {spec : Datum} {across : Bool} :
    read spec (.truth across) = .ok s ↔
      ∃ entries, spec = .table entries ∧ Reads entries s ∧ s.direction = directionOf across := by
  cases spec <;> simp [read,ofEntries_eq_ok_iff]

end ClueSpec

/-- A table that is read as the specification: the required fields, and of the others those
    that are given. -/
def ClueSpec.entries (s : ClueSpec) : List (Datum × Datum) :=
  [(.text ClueField.x.name,.whole s.x),(.text ClueField.y.name,.whole s.y),(.text ClueField.clue.name,.text s.clue)]
    ++ (s.answer.map fun t => (.text ClueField.answer.name,.text t)).toList
    ++ (s.solution.map fun t => (.text ClueField.solution.name,.text t)).toList
    ++ (s.revealed.map fun t => (.text ClueField.revealed.name,.text t)).toList

theorem ClueSpec.reads_entries (s : ClueSpec) : Reads s.entries s := by
  obtain ⟨x,y,clue,answer,solution,revealed,direction⟩ := s
  cases answer <;> cases solution <;> cases revealed <;>
    exact ⟨rfl,rfl,rfl,rfl,rfl,rfl,by simp [entries]⟩

/-- Whether a clue runs across has to be said by a truth value. -/
theorem ClueSpec.truth_of_read {spec across : Datum} {s : ClueSpec} (reads : ClueSpec.read spec across = .ok s) :
    ∃ b, across = .truth b := by
  cases across with
  | truth b => exact ⟨b,rfl⟩
  | _ => cases spec <;> cases reads

/-- A clue string is read if it has the shape and its label and its enumeration are read. -/
theorem Wording.read_eq_ok_iff {clue : Text} {w : Wording} : Wording.read clue = .ok w ↔
    ClueParts.ofText? clue = some w.parts ∧ Label.read w.parts.label clue = .ok w.label ∧
      Enumeration.read w.parts.enumeration clue = .ok w.words ∧ w.text = Text.strip w.parts.text := by
  obtain ⟨parts,label,text,words⟩ := w
  simp only [Wording.read,ClueParts.read]
  constructor
  · intro given
    split at given
    · cases given
    · next found =>
      split at given
      · cases given
      · next named =>
        split at given
        · cases given
        · next counted =>
          cases given
          split at found
          · next shape =>
            cases found
            exact ⟨shape,named,counted,rfl⟩
          · cases found
  · rintro ⟨shape,named,counted,rfl⟩
    simp only [shape,named,counted]

theorem Draft.read_eq_ok_iff {spec across : Datum} {draft : Draft} :
    Draft.read spec across = .ok draft ↔
      ClueSpec.read spec across = .ok draft.spec ∧ Wording.read draft.spec.clue = .ok draft.wording := by
  obtain ⟨own,wording⟩ := draft
  constructor
  · intro made
    unfold Draft.read at made
    split at made
    · cases made
    · next reads =>
      split at made
      · cases made
      · next words =>
        cases made
        exact ⟨reads,words⟩
  · rintro ⟨reads,words⟩
    simp only [Draft.read,reads,words]

end Crossword

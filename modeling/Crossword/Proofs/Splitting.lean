import Crossword.Wording
import Crossword.Proofs.Scanning

/-!
The shape of clue strings. A clue string is split at its first period and at its last opening
parenthesis, and it has to end in a closing one. It has this shape exactly if it can be put
together from three parts of which the first has no period and the last no opening
parenthesis; then there is one way only to do so (`splits_iff_joined`).
-/
namespace Crossword

/-- The parts of a clue string, put together again. -/
def ClueParts.joined (p : ClueParts) : Text := p.label ++ '.' :: (p.text ++ '(' :: (p.enumeration ++ [')']))

/-- The text is put together from the parts, and neither a period in the label nor an opening
    parenthesis in the enumeration hides where they meet. -/
structure ClueParts.Partition (p : ClueParts) (s : Text) : Prop where
  joined : p.joined = s
  period : '.' ∉ p.label
  parenthesis : '(' ∉ p.enumeration

section
variable {s text enumeration clue : Text} {parts parts' : ClueParts} {c : Char}

/-- A run that stops at a character stops where the text has it first. -/
theorem breaks_at (c : Char) (s : Text) : Breaks (· != c) (c :: s) := breaks_cons (by simp)

theorem all_ne_of_not_mem (none : c ∉ s) : ∀ d ∈ s, (d != c) = true := by
  intro d member
  rw [bne_iff_ne]
  rintro rfl
  exact none member

/-- What is left where a run stops at a character begins with it. -/
theorem eq_of_dropWhile_ne (c d : Char) (stops : s.dropWhile (· != c) = d :: text) : d = c := by
  have other : (d != c) = false := breaks_dropWhile (· != c) s d (by rw [stops]; rfl)
  simpa using other

theorem splitLastParenthesis?_eq_some_iff :
    splitLastParenthesis? s = some (text,enumeration) ↔ s = text ++ '(' :: enumeration ∧ '(' ∉ enumeration := by
  have whole : s.reverse.takeWhile (· != '(') ++ s.reverse.dropWhile (· != '(') = s.reverse :=
    List.takeWhile_append_dropWhile
  constructor
  · intro split
    unfold splitLastParenthesis? at split
    cases stops : s.reverse.dropWhile (· != '(') with
    | nil =>
      rw [stops] at split
      cases split
    | cons d before =>
      rw [stops] at split
      cases split
      rw [eq_of_dropWhile_ne '(' d stops] at stops
      rw [stops] at whole
      have parts := congrArg List.reverse whole
      rw [List.reverse_append,List.reverse_cons,List.reverse_reverse,List.append_assoc] at parts
      refine ⟨parts.symm,fun member => ?_⟩
      have inside := List.mem_takeWhile_imp (List.mem_reverse.mp member)
      exact absurd inside (by decide)
  · rintro ⟨rfl,none⟩
    have reversed : (text ++ '(' :: enumeration).reverse = enumeration.reverse ++ '(' :: text.reverse := by simp
    have all : ∀ d ∈ enumeration.reverse, (d != '(') = true :=
      all_ne_of_not_mem fun member => none (List.mem_reverse.mp member)
    rw [splitLastParenthesis?,reversed,dropWhile_run all (breaks_at _ _),takeWhile_run all (breaks_at _ _)]
    simp only [List.reverse_reverse]

/-- Behind the first period a text is split at its last opening parenthesis, if it ends in a
    closing one. -/
theorem ofText?_eq_some_iff : ClueParts.ofText? clue = some parts ↔ parts.Partition (Text.strip clue) := by
  obtain ⟨label,text,enumeration⟩ := parts
  unfold ClueParts.ofText?
  generalize Text.strip clue = s
  have whole : s.takeWhile (· != '.') ++ s.dropWhile (· != '.') = s := List.takeWhile_append_dropWhile
  constructor
  · intro found
    cases stops : s.dropWhile (· != '.') with
    | nil => simp [stops] at found
    | cons d body =>
      simp only [stops] at found
      split at found
      · next closed =>
        split at found
        · cases found
        · next split =>
          cases found
          obtain ⟨front,none⟩ := splitLastParenthesis?_eq_some_iff.mp split
          have ending : body.dropLast ++ [')'] = body := List.dropLast_append_getLast? _ closed
          rw [eq_of_dropWhile_ne '.' d stops] at stops
          refine ⟨?_,fun member => absurd (List.mem_takeWhile_imp member) (by decide),none⟩
          rw [stops,← ending,front] at whole
          simpa [ClueParts.joined] using whole
      · cases found
  · rintro ⟨rfl,period,parenthesis⟩
    have all : ∀ d ∈ label, (d != '.') = true := all_ne_of_not_mem period
    have body : text ++ '(' :: (enumeration ++ [')']) = (text ++ '(' :: enumeration) ++ [')'] := by simp
    simp only [ClueParts.joined,dropWhile_run all (breaks_at _ _),takeWhile_run all (breaks_at _ _)]
    rw [body,List.getLast?_concat,if_pos rfl,List.dropLast_concat,
      splitLastParenthesis?_eq_some_iff.mpr ⟨rfl,parenthesis⟩]

theorem ClueParts.read_eq_ok_iff : ClueParts.read clue = .ok parts ↔ parts.Partition (Text.strip clue) := by
  rw [← ofText?_eq_some_iff,ClueParts.read]
  cases ClueParts.ofText? clue <;> simp

/-- The same text can be put together in one way only. -/
theorem ClueParts.Partition.unique (one : parts.Partition (Text.strip clue)) (other : parts'.Partition (Text.strip clue)) :
    parts = parts' :=
  Option.some.inj ((ofText?_eq_some_iff.mpr one).symm.trans (ofText?_eq_some_iff.mpr other))

/-- A clue string is split exactly if, without the white space around it, it can be put together
    from three parts that show where they meet. It is split into these parts, and no other three
    make the same text. Every other clue string is refused for its shape. -/
theorem splits_iff_joined (clue : Text) :
    (∀ parts, ClueParts.read clue = .ok parts ↔ parts.Partition (Text.strip clue)) ∧
      (∀ parts parts' : ClueParts, parts.Partition (Text.strip clue) → parts'.Partition (Text.strip clue) →
        parts = parts') ∧
      ((¬ ∃ parts : ClueParts, parts.Partition (Text.strip clue)) → ClueParts.read clue = .error (.pattern clue)) := by
  refine ⟨fun _ => ClueParts.read_eq_ok_iff,fun _ _ => ClueParts.Partition.unique,fun none => ?_⟩
  cases shape : ClueParts.ofText? clue with
  | none => rw [ClueParts.read,shape]
  | some parts => exact absurd ⟨parts,ofText?_eq_some_iff.mp shape⟩ none

/-- A text may have periods and parentheses of its own; without a period before the parentheses
    there is no shape. -/
theorem splits_nested :
    ClueParts.read " 9. Oh (well). Go (4) ".toList = .ok ⟨"9".toList," Oh (well). Go ".toList,"4".toList⟩ ∧
      ¬ ∃ parts : ClueParts, parts.Partition (Text.strip "Go (4.)".toList) := by
  refine ⟨((splits_iff_joined _).1 _).mpr ⟨by decide +kernel,by decide,by decide⟩,?_⟩
  rintro ⟨parts,partition⟩
  have refused : ClueParts.read "Go (4.)".toList = .error (.pattern "Go (4.)".toList) := by decide +kernel
  rw [((splits_iff_joined _).1 parts).mpr partition] at refused
  cases refused

end

end Crossword

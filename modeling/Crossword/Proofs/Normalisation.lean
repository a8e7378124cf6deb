import Crossword.Proofs.Compiled

/-!
Letters that have been normalised already. Upper-casing leaves letters and blanks as they are
(`upper_of_writable`), so that a row made from an answer is made the same once more
(`answerRow_of_writable`). The letters of a solution are found again in its row, in which blanks
stand for none (`solutionLetters_orBlanks`). An answer and a solution pick the same letters from a
text: those of the solution are the row of the answer without its blanks, if it has room for the
whole text (`rows_normal`).
-/
namespace Crossword

/-- The character is a letter or a blank, as a row may hold it. -/
def Writable (c : Char) : Prop := letterOrBlank c = c

section
variable {c : Char} {row : Text} {given : Option Text} {m n : Nat}

theorem writable_blank : Writable blank := rfl

theorem writable_of_isLetter (letter : isLetter c = true) : Writable c := if_pos letter

theorem writable_letterOrBlank (c : Char) : Writable (letterOrBlank c) := by
  by_cases letter : isLetter c = true
  · rw [letterOrBlank,if_pos letter]
    exact writable_of_isLetter letter
  · rw [letterOrBlank,if_neg letter]
    exact writable_blank

theorem isLetter_or_blank_of_writable (writable : Writable c) : isLetter c = true ∨ c = blank := by
  by_cases letter : isLetter c = true
  · exact .inl letter
  · rw [Writable,letterOrBlank,if_neg letter] at writable
    exact .inr writable.symm

theorem isLetter_iff : isLetter c = true ↔ 'A' ≤ c ∧ c ≤ 'Z' := by
  rw [isLetter,Bool.and_eq_true,decide_eq_true_eq,decide_eq_true_eq]

/-- Letters and blanks stand before all characters that upper-casing changes. -/
theorem toNat_lt_of_writable (writable : Writable c) : c.toNat < 0x61 := by
  rcases isLetter_or_blank_of_writable writable with letter | rfl
  · have high : c.toNat ≤ 'Z'.toNat := (isLetter_iff.mp letter).2
    exact Nat.lt_of_le_of_lt high (by decide)
  · decide

/-! ### Upper case -/

theorem moved_before {run : Unicode.Run} {runs : List Unicode.Run} {code : Nat} (before : code < run.first) :
    Unicode.moved (run :: runs) code = code := if_pos before

theorem special_before {key code : Nat} {codes : List Nat} {rest : List (Nat × List Nat)} (before : code < key) :
    Unicode.special ((key,codes) :: rest) code = none := if_pos before

theorem upperChar_of_writable (writable : Writable c) : Unicode.upperChar c = [c] := by
  have before := toNat_lt_of_writable writable
  have special : Unicode.special Unicode.upperSpecial c.toNat = none :=
    special_before (Nat.lt_trans before (by decide))
  have moved : Unicode.moved Unicode.upperRuns c.toNat = c.toNat := moved_before before
  simp only [Unicode.upperChar,special,moved,Char.ofNat_toNat]

theorem upper_of_writable (writable : ∀ c ∈ row, Writable c) : Unicode.upper row = row := by
  have single : row.flatMap Unicode.upperChar = row.flatMap fun c => [c] :=
    List.flatMap_congr fun c member => upperChar_of_writable (writable c member)
  rw [Unicode.upper,single,List.flatMap_singleton']

/-! ### Rows -/

theorem writable_answerRow (given : Option Text) (length : Int) : ∀ c ∈ answerRow given length, Writable c := by
  intro c member
  unfold answerRow at member
  have unfilled : ∀ n, c ∈ List.replicate n blank → Writable c := by
    intro n member
    rw [List.eq_of_mem_replicate member]
    exact writable_blank
  split at member
  · exact unfilled _ member
  · exact unfilled _ member
  · rcases List.mem_append.mp member with own | filled
    · have mapped : ∀ (n : Int) (letters : Text), c ∈ clip n letters → c ∈ letters := by
        intro n letters clipped
        unfold clip at clipped
        split at clipped <;> exact List.mem_of_mem_take clipped
      obtain ⟨a,_,rfl⟩ := List.mem_map.mp (mapped _ _ own)
      exact writable_letterOrBlank a
    · exact unfilled _ filled

/-- A row of letters and blanks is the row made from it. -/
theorem answerRow_of_writable (writable : ∀ c ∈ row, Writable c) : answerRow (some row) row.length = row := by
  have same : answerLetters (some row) = row := by
    rw [answerLetters,Option.getD_some,upper_of_writable writable]
    exact (List.map_congr_left writable).trans (List.map_id _)
  rw [answerRow_eq,same,List.take_length,Nat.sub_self,List.replicate_zero,List.append_nil]

/-- A shorter row shows the front of a longer one. -/
theorem take_answerRow (given : Option Text) (short : m ≤ n) : (answerRow given n).take m = answerRow given m := by
  have room : min (m - min n (answerLetters given).length) (n - (answerLetters given).length) =
      m - (answerLetters given).length := by omega
  rw [answerRow_eq,answerRow_eq,List.take_append,List.take_take,min_eq_left short,List.take_replicate,
    List.length_take,room]

/-! ### Letters of a solution -/

theorem isLetter_of_mem_solutionLetters (member : c ∈ solutionLetters given) : isLetter c = true :=
  (List.mem_filter.mp member).2

/-- Letters are left as they are. -/
theorem solutionLetters_of_isLetter (letters : ∀ c ∈ row, isLetter c = true) : solutionLetters (some row) = row := by
  rw [solutionLetters,Option.getD_some,upper_of_writable fun c member => writable_of_isLetter (letters c member)]
  exact List.filter_eq_self.mpr letters

/-- A row of blanks has no letters. -/
theorem solutionLetters_blanks (length : Int) : solutionLetters (some (blanks length)) = [] := by
  have unfilled : ∀ c ∈ blanks length, c = blank := fun c => List.eq_of_mem_replicate
  have writable : ∀ c ∈ blanks length, Writable c := by
    intro c member
    rw [unfilled c member]
    exact writable_blank
  rw [solutionLetters,Option.getD_some,upper_of_writable writable]
  refine List.filter_eq_nil_iff.mpr fun c member => ?_
  rw [unfilled c member]
  decide

/-- The letters of a solution are found again in its row. -/
theorem solutionLetters_orBlanks (given : Option Text) (length : Nat) :
    solutionLetters (some (Draft.orBlanks (solutionLetters given) length)) = solutionLetters given := by
  unfold Draft.orBlanks
  split
  · next none => rw [none,solutionLetters_blanks]
  · exact solutionLetters_of_isLetter fun _ => isLetter_of_mem_solutionLetters

theorem solutionLetters_append (text other : Text) :
    solutionLetters (some (text ++ other)) = solutionLetters (some text) ++ solutionLetters (some other) := by
  simp only [solutionLetters,Option.getD_some,Unicode.upper,List.flatMap_append,List.filter_append]

/-- What is no letter becomes a blank in an answer and is left out of a solution. -/
theorem filter_answerLetters (given : Option Text) :
    (answerLetters given).filter (· ≠ blank) = solutionLetters given := by
  have filled : (fun c => decide (c ≠ blank)) ∘ letterOrBlank = isLetter := by
    funext c
    rw [Function.comp_apply,letterOrBlank]
    split
    · next letter =>
      have other : c ≠ blank := by
        rintro rfl
        cases letter
      rw [letter,decide_eq_true other]
    · next other => simpa using other
  have letters : ∀ c ∈ solutionLetters given, letterOrBlank c = c :=
    fun c member => writable_of_isLetter (isLetter_of_mem_solutionLetters member)
  rw [answerLetters,List.filter_map,filled]
  exact (List.map_congr_left letters).trans (List.map_id _)

/-- With room for the whole text, the letters of the answer are those of the solution. -/
theorem filter_answerRow (room : (Unicode.upper (given.getD [])).length ≤ n) :
    (answerRow given n).filter (· ≠ blank) = solutionLetters given := by
  have whole : (answerLetters given).length ≤ n := by rwa [answerLetters,List.length_map]
  rw [answerRow_eq,List.take_of_length_le whole,List.filter_append,filter_answerLetters,List.filter_replicate]
  simp

end

end Crossword

import Crossword.Proofs.Drafting
import Mathlib.Algebra.BigOperators.Ring.Finset
import Mathlib.Algebra.Order.BigOperators.Group.List
import Mathlib.Algebra.Order.Group.Int

/-!
Where the words of an answer end. A letter ends a word before the last exactly if the lengths of
the words up to this one come to the letters up to that one (`endingWord?_eq_some_iff`), so that
along the letters of an answer the words before the last end one after the other
(`filterMap_endingWord?`). The letters that end a word are then known without looking for them:
they are as many as the words before the last, each one further on and none the last letter
(`endingWord?_settled`). In an enumeration as it is laid out, the word that ends is the one after
which a run of separators stands (`Layout.ends_iff`).
-/
namespace Crossword.Enumeration

/-- The letters that the words before the last end with, in the order of the words. -/
def wordEnds (lengths : List Int) : List Int :=
  (List.range (lengths.length - 1)).map fun word => (lengths.take (word + 1)).sum - 1

/-- In a text laid out as an enumeration, a word before the last ends with the letter that comes
    after so many letters of the answer, and the separators after it print the mark. -/
def Layout.Ends (l : Layout) (k : Nat) (mark : Text) : Prop :=
  ∃ before i after, l.lead.items = before ++ i :: after ∧ k + 1 = ((before ++ [i]).map fun j => j.word.length).sum ∧
    i.word.terminator = mark

section
variable {lengths : List Int} {letter : Int} {word fewer more k : Nat} {mark : Text}

/-! ### By the lengths of the words -/

theorem sum_take_pos (word : Nat) (positive : ∀ n ∈ lengths, 0 < n) (some_word : lengths ≠ []) :
    0 < (lengths.take (word + 1)).sum :=
  List.sum_pos _ (fun n member => positive n (List.mem_of_mem_take member)) (by simpa using some_word)

/-- More words have more letters. -/
theorem sum_take_lt (positive : ∀ n ∈ lengths, 0 < n) (less : fewer < more) (inside : more ≤ lengths.length) :
    (lengths.take fewer).sum < (lengths.take more).sum := by
  have between : 0 < ((lengths.take more).drop fewer).sum := by
    refine List.sum_pos _ (fun n member => positive n (List.mem_of_mem_take (List.mem_of_mem_drop member))) ?_
    refine List.ne_nil_of_length_pos ?_
    rw [List.length_drop,List.length_take]
    omega
  have whole := List.sum_take_add_sum_drop (lengths.take more) fewer
  rw [List.take_take,min_eq_left less.le] at whole
  omega

theorem endingFrom_eq_some_iff (positive : ∀ n ∈ lengths, 0 < n) (start : 0 ≤ letter) :
    endingFrom letter lengths = some word ↔ word + 1 < lengths.length ∧ letter + 1 = (lengths.take (word + 1)).sum := by
  induction lengths generalizing letter word with
  | nil => simp [endingFrom]
  | cons length rest ih =>
    obtain ⟨_,later⟩ := List.forall_mem_cons.mp positive
    rw [endingFrom,List.take_succ_cons,List.sum_cons,List.length_cons,Nat.add_lt_add_iff_right]
    by_cases inside : letter < length
    · -- The letter is one of the first word, and with any other word the lengths come to more.
      rw [if_pos inside]
      cases word with
      | zero =>
        rw [List.take_zero,List.sum_nil,List.length_pos_iff]
        split
        · next ends => exact iff_of_true rfl ⟨ends.2,by omega⟩
        · next other =>
          refine iff_of_false (by simp) ?_
          rintro ⟨more,same⟩
          exact other ⟨by omega,more⟩
      | succ w =>
        refine iff_of_false (by split <;> simp) ?_
        rintro ⟨short,same⟩
        have more := sum_take_pos w later (List.ne_nil_of_length_pos (by omega))
        omega
    · rw [if_neg inside,Option.map_eq_some_iff]
      cases word with
      | zero =>
        refine iff_of_false (by simp) ?_
        rintro ⟨_,same⟩
        rw [List.take_zero,List.sum_nil] at same
        omega
      | succ w =>
        simp only [Nat.add_right_cancel_iff,exists_eq_right]
        rw [ih later (by omega)]
        exact and_congr_right fun _ => by omega

/-- A letter ends a word before the last exactly if the lengths up to this word come to the
    letters up to it. -/
theorem endingWord?_eq_some_iff (positive : ∀ n ∈ lengths, 0 < n) :
    endingWord? letter lengths = some word ↔ word + 1 < lengths.length ∧ letter + 1 = (lengths.take (word + 1)).sum := by
  rw [endingWord?]
  by_cases before : letter < 0
  · rw [if_pos before]
    refine iff_of_false (by simp) ?_
    rintro ⟨short,same⟩
    have more := sum_take_pos word positive (List.ne_nil_of_length_pos (by omega))
    omega
  · rw [if_neg before]
    exact endingFrom_eq_some_iff positive (by omega)

/-- The letters that end a word before the last are letters of the answer, and not its last
    one. -/
theorem bounds_of_endingWord? (positive : ∀ n ∈ lengths, 0 < n) (ends : endingWord? letter lengths = some word) :
    0 ≤ letter ∧ letter + 1 < lengths.sum := by
  obtain ⟨short,total⟩ := (endingWord?_eq_some_iff positive).mp ends
  have front := sum_take_pos word positive (List.ne_nil_of_length_pos (by omega))
  have whole := sum_take_lt positive short le_rfl
  rw [List.take_length] at whole
  omega

theorem filterMap_endingFrom (positive : ∀ n ∈ lengths, 0 < n) :
    ((List.range lengths.sum.toNat).filterMap fun k : Nat => endingFrom k lengths) =
      List.range (lengths.length - 1) := by
  induction lengths with
  | nil => rfl
  | cons length rest ih =>
    obtain ⟨first,later⟩ := List.forall_mem_cons.mp positive
    obtain ⟨before,same⟩ : ∃ before : Nat, length = before + 1 := ⟨length.toNat - 1,by omega⟩
    have total : (length :: rest).sum.toNat = (before + 1) + rest.sum.toNat := by
      have rest_nonneg : 0 ≤ rest.sum := List.sum_nonneg fun n member => (later n member).le
      rw [List.sum_cons]
      omega
    have early : (List.range before).filterMap (fun k : Nat => endingFrom k (length :: rest)) = [] := by
      refine List.filterMap_eq_nil_iff.mpr fun k member => ?_
      have inside := List.mem_range.mp member
      rw [endingFrom,if_pos (by omega),if_neg fun ends => by omega]
    have last : endingFrom before (length :: rest) = if rest = [] then none else some 0 := by
      rw [endingFrom,if_pos (by omega)]
      by_cases alone : rest = []
      · rw [if_pos alone,if_neg fun ends => ends.2 alone]
      · rw [if_neg alone,if_pos ⟨by omega,alone⟩]
    have behind (k : Nat) :
        endingFrom ((before + 1 + k : Nat) : Int) (length :: rest) = (endingFrom k rest).map (· + 1) := by
      rw [endingFrom,if_neg (by omega)]
      congr 2
      omega
    rw [total,List.range_add,List.range_succ,List.filterMap_append,List.filterMap_append,early,List.filterMap_map]
    simp only [Function.comp_def,behind,← List.map_filterMap,ih later,List.filterMap_cons,last]
    cases rest with
    | nil => rfl
    | cons next others => simp [List.range_succ_eq_map]

/-- Along the letters of an answer all words but the last end, one after the other. -/
theorem filterMap_endingWord? (positive : ∀ n ∈ lengths, 0 < n) :
    ((List.range lengths.sum.toNat).filterMap fun k : Nat => endingWord? k lengths) =
      List.range (lengths.length - 1) := by
  have start (k : Nat) : endingWord? k lengths = endingFrom k lengths := if_neg (by omega)
  simp only [start]
  exact filterMap_endingFrom positive

/-! ### All word ends of an answer -/

theorem length_wordEnds (lengths : List Int) : (wordEnds lengths).length = lengths.length - 1 := by
  rw [wordEnds,List.length_map,List.length_range]

theorem getElem?_wordEnds_eq_some_iff : (wordEnds lengths)[word]? = some letter ↔
    word + 1 < lengths.length ∧ letter + 1 = (lengths.take (word + 1)).sum := by
  rw [wordEnds,List.getElem?_map]
  by_cases short : word + 1 < lengths.length
  · rw [List.getElem?_range (by omega),Option.map_some,Option.some_inj]
    exact ⟨fun same => ⟨short,by omega⟩,fun same => by omega⟩
  · rw [List.getElem?_eq_none (by rw [List.length_range]; omega),Option.map_none]
    exact iff_of_false (by simp) fun same => short same.1

/-- The words before the last end at their places in the list of word ends. -/
theorem getElem?_wordEnds_iff_endingWord? (positive : ∀ n ∈ lengths, 0 < n) :
    (wordEnds lengths)[word]? = some letter ↔ endingWord? letter lengths = some word := by
  rw [getElem?_wordEnds_eq_some_iff,endingWord?_eq_some_iff positive]

theorem isWordEnd_iff_mem (positive : ∀ n ∈ lengths, 0 < n) :
    isWordEnd letter lengths = true ↔ letter ∈ wordEnds lengths := by
  rw [isWordEnd,Option.isSome_iff_exists,List.mem_iff_getElem?]
  exact exists_congr fun word => (getElem?_wordEnds_iff_endingWord? positive).symm

/-- Each word ends further on than those before it. -/
theorem pairwise_wordEnds (positive : ∀ n ∈ lengths, 0 < n) : (wordEnds lengths).Pairwise (· < ·) := by
  rw [wordEnds,List.pairwise_map]
  refine List.pairwise_lt_range.imp_of_mem fun {before after} _ inside less => ?_
  have later := List.mem_range.mp inside
  have shorter := sum_take_lt positive (Nat.succ_lt_succ less) (by omega)
  exact Int.sub_lt_sub_right shorter 1

/-- A letter ends a word before the last exactly if the lengths up to this word come to the
    letters up to it, and ends none if there is no such word. So as many letters end a word as
    there are words before the last, one for each of them and in their order; no place before the
    answer is among them, nor its last letter or a place behind it. -/
theorem endingWord?_settled (lengths : List Int) (positive : ∀ n ∈ lengths, 0 < n) :
    (∀ letter,
      (∀ word, endingWord? letter lengths = some word ↔
        word + 1 < lengths.length ∧ letter + 1 = (lengths.take (word + 1)).sum) ∧
      (endingWord? letter lengths = none ↔
        ¬ ∃ word, word + 1 < lengths.length ∧ letter + 1 = (lengths.take (word + 1)).sum) ∧
      (isWordEnd letter lengths = true ↔ letter ∈ wordEnds lengths) ∧
      (isWordEnd letter lengths = true → 0 ≤ letter ∧ letter ≤ lengths.sum - 2)) ∧
    (wordEnds lengths).length = lengths.length - 1 ∧ (wordEnds lengths).Pairwise (· < ·) ∧
    ∀ word letter, (wordEnds lengths)[word]? = some letter ↔ endingWord? letter lengths = some word := by
  refine ⟨fun letter => ⟨fun word => endingWord?_eq_some_iff positive,?_,isWordEnd_iff_mem positive,?_⟩,
    length_wordEnds lengths,pairwise_wordEnds positive,fun _ _ => getElem?_wordEnds_iff_endingWord? positive⟩
  · simp only [← endingWord?_eq_some_iff positive]
    exact Option.eq_none_iff_forall_ne_some.trans not_exists.symm
  · intro ends
    obtain ⟨word,found⟩ := Option.isSome_iff_exists.mp ends
    have bounds := bounds_of_endingWord? positive found
    omega

theorem isWordEnd_fourWords : (∀ n ∈ [(1 : Int),2,3,4], 0 < n) ∧
    ∀ letter, isWordEnd letter [1,2,3,4] = true ↔ letter = 0 ∨ letter = 2 ∨ letter = 5 := by
  have positive : ∀ n ∈ [(1 : Int),2,3,4], 0 < n := by decide
  refine ⟨positive,fun letter => ?_⟩
  obtain ⟨ends,-⟩ := endingWord?_settled [1,2,3,4] positive
  rw [(ends letter).2.2.1]
  simp [wordEnds,List.range_succ]

/-! ### By the layout of the enumeration -/

theorem Item.terminator_ne_nil (i : Item) : i.word.terminator ≠ [] := by
  rw [Item.word]
  split
  · exact List.cons_ne_nil _ _
  · next mark => simpa using mark

theorem Layout.length_pos (l : Layout) : ∀ n ∈ l.words.map fun word => (word.length : Int), 0 < n := by
  simp only [words,List.map_append,List.map_map,List.map_cons,List.map_nil,List.forall_mem_append,
    List.forall_mem_map,List.forall_mem_singleton]
  exact ⟨fun i _ => Int.natCast_pos.mpr i.positive,Int.natCast_pos.mpr l.last.positive⟩

/-- The mark of a word before the last is the one of its separators. -/
theorem Layout.getElem?_terminators (l : Layout) (short : word + 1 < l.words.length) :
    ∃ i, l.lead.items[word]? = some i ∧ (l.words.map Word.terminator)[word]? = some i.word.terminator := by
  have inside : word < l.lead.items.length := by
    simp only [words,List.length_append,List.length_map,List.length_cons,List.length_nil] at short
    omega
  refine ⟨l.lead.items[word],List.getElem?_eq_getElem inside,?_⟩
  rw [List.getElem?_map,words,List.getElem?_append_left (by simpa using inside)]
  simp [inside]

/-- A word before the last ends with a letter exactly if the lengths say so, and then its mark is
    printed there. -/
theorem Layout.ends_iff (l : Layout) : l.Ends k mark ↔
    ∃ word, endingWord? k (l.words.map fun word => (word.length : Int)) = some word ∧
      (l.words.map Word.terminator)[word]? = some mark := by
  have sums {before after : List Item} {i : Item} (split : l.lead.items = before ++ i :: after) :
      ((l.words.map fun word => (word.length : Int)).take (before.length + 1)).sum =
        (((before ++ [i]).map fun j => j.word.length).sum : Nat) := by
    have front : l.words.take (before.length + 1) = (before ++ [i]).map Item.word := by
      rw [words,split,List.append_cons before i after,List.map_append,List.append_assoc,List.take_left' (by simp)]
    rw [← List.map_take,front,Nat.cast_list_sum,List.map_map,List.map_map]
    rfl
  simp only [endingWord?_eq_some_iff l.length_pos,List.length_map]
  constructor
  · rintro ⟨before,i,after,split,total,same⟩
    have short : before.length + 1 < l.words.length := by simp [words,split]
    refine ⟨before.length,⟨short,?_⟩,?_⟩
    · rw [sums split,← total]
      rfl
    · obtain ⟨j,found,printed⟩ := l.getElem?_terminators short
      obtain rfl : i = j := by simpa [split] using found
      rw [printed,same]
  · rintro ⟨word,⟨short,total⟩,same⟩
    obtain ⟨i,found,printed⟩ := l.getElem?_terminators short
    obtain ⟨inside,rfl⟩ := List.getElem?_eq_some_iff.mp found
    have split : l.lead.items = l.lead.items.take word ++ l.lead.items[word] :: l.lead.items.drop (word + 1) := by
      simp
    have front : (l.lead.items.take word).length = word := List.length_take_of_le inside.le
    have counted := sums split
    rw [front,← total] at counted
    exact ⟨_,_,_,split,Int.ofNat_inj.mp counted,Option.some.inj (printed.symm.trans same)⟩

end

end Crossword.Enumeration

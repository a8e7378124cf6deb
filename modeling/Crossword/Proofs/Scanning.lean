import Crossword.Label
import Mathlib.Data.List.DropRight

/-!
Scanning a text for a run of characters of one kind. A scanner takes just the run if what
follows does not go on with a character of the kind (`takeWhile_run`, `dropWhile_run`). A
numeral is a run of digits that reads as the number it was written for
(`digitsValue_ofNat`), and white space around a text that has none of its own at either
end is all that stripping takes off (`strip_surrounded`).
-/
namespace Crossword

/-- A run of characters of the kind breaks off at the text: it does not begin with one. -/
def Breaks (kind : Char → Bool) (s : Text) : Prop := ∀ c, s.head? = some c → kind c = false

section
variable {kind : Char → Bool} {run run' rest rest' s before after : Text} {c : Char} {n : Nat}

/-! ### Runs -/

theorem breaks_nil : Breaks kind [] := by
  intro c first
  cases first

theorem breaks_cons (other : kind c = false) : Breaks kind (c :: rest) := by
  rintro _ ⟨⟩
  exact other

theorem Breaks.append (breaks : Breaks kind s) (some_char : s ≠ []) : Breaks kind (s ++ rest) := by
  cases s with
  | nil => exact absurd rfl some_char
  | cons c s => exact breaks_cons (breaks c rfl)

theorem Breaks.mono {other : Char → Bool} (breaks : Breaks kind s) (narrower : ∀ c, other c = true → kind c = true) :
    Breaks other s := by
  intro c first
  refine Bool.eq_false_iff.mpr fun same => ?_
  exact Bool.eq_false_iff.mp (breaks c first) (narrower c same)

theorem Breaks.front (breaks : Breaks kind (s ++ rest)) : Breaks kind s := by
  cases s with
  | nil => exact breaks_nil
  | cons c s => exact breaks_cons (breaks c rfl)

theorem Breaks.dropWhile_front {other : Char → Bool} (breaks : Breaks kind ((s ++ rest).dropWhile other)) :
    Breaks kind (s.dropWhile other) := by
  rw [List.dropWhile_append] at breaks
  split at breaks
  · next empty =>
    rw [List.isEmpty_iff.mp empty]
    exact breaks_nil
  · exact breaks.front

theorem breaks_dropWhile (kind : Char → Bool) (s : Text) : Breaks kind (s.dropWhile kind) := by
  induction s with
  | nil => exact breaks_nil
  | cons c s ih =>
    cases same : kind c with
    | true => rwa [List.dropWhile_cons_of_pos same]
    | false =>
      rw [List.dropWhile_cons_of_neg (by simp [same])]
      exact breaks_cons same

theorem dropWhile_breaks (breaks : Breaks kind s) : s.dropWhile kind = s := by
  cases s with
  | nil => rfl
  | cons c s => exact List.dropWhile_cons_of_neg (by simp [breaks c rfl])

theorem takeWhile_breaks (breaks : Breaks kind s) : s.takeWhile kind = [] := by
  cases s with
  | nil => rfl
  | cons c s => exact List.takeWhile_cons_of_neg (by simp [breaks c rfl])

theorem breaks_of_takeWhile (none : s.takeWhile kind = []) : Breaks kind s := by
  intro c first
  obtain ⟨rest,rfl⟩ := List.head?_eq_some_iff.mp first
  by_contra same
  rw [List.takeWhile_cons_of_pos (by simpa using same)] at none
  cases none

theorem takeWhile_run (all : ∀ c ∈ run, kind c = true) (breaks : Breaks kind rest) :
    (run ++ rest).takeWhile kind = run := by
  rw [List.takeWhile_append_of_pos all,takeWhile_breaks breaks,List.append_nil]

theorem dropWhile_run (all : ∀ c ∈ run, kind c = true) (breaks : Breaks kind rest) :
    (run ++ rest).dropWhile kind = rest := by
  rw [List.dropWhile_append_of_pos all,dropWhile_breaks breaks]

/-- Where a run breaks off is settled by the text. -/
theorem run_unique (all : ∀ c ∈ run, kind c = true) (breaks : Breaks kind rest)
    (all' : ∀ c ∈ run', kind c = true) (breaks' : Breaks kind rest') (same : run ++ rest = run' ++ rest') :
    run = run' ∧ rest = rest' := by
  have runs := takeWhile_run all breaks
  rw [same,takeWhile_run all' breaks'] at runs
  subst runs
  exact ⟨rfl,List.append_cancel_left same⟩

/-! ### Digits and numerals -/

theorem isDigit_iff : Text.isDigit c = true ↔ 48 ≤ c.toNat ∧ c.toNat ≤ 57 := by
  rw [Text.isDigit,Bool.and_eq_true,decide_eq_true_iff,decide_eq_true_iff]
  exact Iff.rfl

theorem isSpace_of_isDigit (digit : Text.isDigit c = true) : Unicode.isSpace c = false := by
  obtain ⟨low,high⟩ := isDigit_iff.mp digit
  simp only [Unicode.isSpace,Unicode.spaceIntervals,Unicode.within]
  rw [if_neg (by omega),if_neg (by omega),if_neg (by omega),if_neg (by omega),if_pos (by omega)]

theorem isAlphanumeric_of_isDigit (digit : Text.isDigit c = true) : Unicode.isAlphanumeric c = true := by
  obtain ⟨low,high⟩ := isDigit_iff.mp digit
  -- The digits are the first interval of the table.
  have first : Unicode.isAlphanumeric c =
      if c.toNat < 48 then false else if c.toNat ≤ 57 then true else Unicode.within Unicode.alphanumeric.tail c.toNat :=
    rfl
  rw [first,if_neg (by omega),if_pos high]

theorem mem_of_within {intervals : List (Nat × Nat)} {code : Nat} (inside : Unicode.within intervals code = true) :
    ∃ interval ∈ intervals, interval.1 ≤ code ∧ code ≤ interval.2 := by
  induction intervals with
  | nil => cases inside
  | cons interval rest ih =>
    simp only [Unicode.within] at inside
    split at inside
    · cases inside
    · split at inside
      · next low high => exact ⟨interval,List.mem_cons_self,Nat.le_of_not_lt low,high⟩
      · obtain ⟨other,member,bounds⟩ := ih inside
        exact ⟨other,List.mem_cons_of_mem _ member,bounds⟩

/-- White space is no letter or number. -/
theorem isAlphanumeric_of_isSpace (space : Unicode.isSpace c = true) : Unicode.isAlphanumeric c = false := by
  have none : ∀ interval ∈ Unicode.spaceIntervals, ∀ code ∈ List.range' interval.1 (interval.2 + 1 - interval.1),
      Unicode.within Unicode.alphanumeric code = false := by decide +kernel
  obtain ⟨interval,member,low,high⟩ := mem_of_within space
  exact none interval member _ (List.mem_range'_1.mpr (by omega))

theorem isDigit_of_mem_ofNat (member : c ∈ Text.ofNat n) : Text.isDigit c = true :=
  Nat.isDigit_of_mem_toDigits (by decide) (by decide) member

theorem ofNat_ne_nil : Text.ofNat n ≠ [] := Nat.toDigits_ne_nil

theorem digitsValue_ofNat (n : Nat) : Text.digitsValue (Text.ofNat n) = n :=
  Nat.ofDigitChars_toDigits (by decide) (by decide)

/-- A numeral does not begin with what no digit is. -/
theorem breaks_ofNat (none : ∀ c, Text.isDigit c = true → kind c = false) : Breaks kind (Text.ofNat n ++ rest) := by
  have breaks : Breaks kind (Text.ofNat n) := fun c first => none c (isDigit_of_mem_ofNat (List.mem_of_head? first))
  exact breaks.append ofNat_ne_nil

/-! ### White space around a text -/

theorem stripEnd_eq (s : Text) : Text.stripEnd s = s.rdropWhile Unicode.isSpace := rfl

theorem strip_surrounded (spaces : ∀ c ∈ before ++ after, Unicode.isSpace c = true) (some_char : s ≠ [])
    (first : Breaks Unicode.isSpace s) (last : Breaks Unicode.isSpace s.reverse) :
    Text.strip (before ++ s ++ after) = s := by
  have start : Text.stripStart (before ++ s ++ after) = s ++ after := by
    rw [List.append_assoc]
    exact dropWhile_run (fun c member => spaces c (List.mem_append_left _ member)) (first.append some_char)
  have finish : (s ++ after).reverse.dropWhile Unicode.isSpace = s.reverse := by
    rw [List.reverse_append]
    exact dropWhile_run (fun c member => spaces c (List.mem_append_right _ (List.mem_reverse.mp member))) last
  rw [Text.strip,start,Text.stripEnd,finish,List.reverse_reverse]

theorem strip_strip (s : Text) : Text.strip (Text.strip s) = Text.strip s := by
  set u := Text.stripStart s with uIs
  have breaks : Breaks Unicode.isSpace u := breaks_dropWhile _ s
  -- Stripping the end takes a prefix, which begins as before.
  have start : Text.stripStart (Text.stripEnd u) = Text.stripEnd u := by
    refine dropWhile_breaks fun c first => breaks c ?_
    obtain ⟨spaces,whole⟩ := List.rdropWhile_prefix Unicode.isSpace (l := u)
    rw [stripEnd_eq] at first
    rw [← whole,List.head?_append,first,Option.some_or]
  have finish : Text.stripEnd (Text.stripEnd u) = Text.stripEnd u := by
    rw [stripEnd_eq,stripEnd_eq]
    exact List.rdropWhile_idempotent _ u
  rw [Text.strip,Text.strip,← uIs,start,finish]

end

end Crossword

import Crossword.Proofs.Fencing

/-!
Emphasis line by line. A fence holds no line break and content stays on its line, so that the
search for a span finds in the first line of a text what it finds in that line alone
(`Rule.span?_line`). Each rule therefore takes the lines of a text one by one, and so do all of
them together (`render_line_by_line`).
-/
namespace Crossword.Emphasis

section
variable {r : Rule} {s after back : Text}

theorem rules_marker_ne (known : r ∈ rules) : r.marker ≠ '\n' := by
  revert r
  decide

/-! ### Searching up to a line break -/

theorem Rule.afterFence?_line (other : r.marker ≠ '\n') (s back : Text) :
    r.afterFence? (s ++ '\n' :: back) = (r.afterFence? s).map (· ++ '\n' :: back) := by
  refine Option.ext fun after => ?_
  rw [afterFence?_eq_some_iff,Option.map_eq_some_iff]
  simp only [afterFence?_eq_some_iff]
  constructor
  · intro text
    rcases List.append_eq_append_iff.mp text with ⟨rest,fenced,tail⟩ | ⟨rest,whole,tail⟩
    · cases rest with
      | nil => exact ⟨[],by simpa using fenced.symm,tail⟩
      | cons c rest =>
        -- The fence would run over the line break.
        obtain ⟨rfl,-⟩ := List.cons.inj tail
        have inside : '\n' ∈ r.fence := by simp [fenced]
        exact absurd (List.eq_of_mem_replicate inside).symm other
    · exact ⟨rest,whole,tail.symm⟩
  · rintro ⟨rest,rfl,rfl⟩
    rw [List.append_assoc]

theorem Rule.content?_line (other : r.marker ≠ '\n') (s back : Text) :
    r.content? (s ++ '\n' :: back) = (r.content? s).map fun (content,after) => (content,after ++ '\n' :: back) := by
  induction s with
  | nil => rfl
  | cons c rest ih =>
    rw [List.cons_append,Rule.content?,Rule.content?]
    by_cases line : c = '\n'
    · rw [if_pos line,if_pos line]
      rfl
    by_cases marker : c = r.marker
    · simp only [if_neg line,if_pos marker,ih,Option.map_map]
      rfl
    · simp only [if_neg line,if_neg marker,afterFence?_line other]
      cases r.afterFence? rest with
      | some after => rfl
      | none =>
        simp only [Option.map_none,ih,Option.map_map]
        rfl

theorem Rule.span?_line (other : r.marker ≠ '\n') (s back : Text) :
    r.span? (s ++ '\n' :: back) = (r.span? s).map fun (content,after) => (content,after ++ '\n' :: back) := by
  rw [Rule.span?,Rule.span?,afterFence?_line other]
  cases r.afterFence? s with
  | none => rfl
  | some body =>
    have front : (body ++ '\n' :: back).head? = some r.marker ↔ body.head? = some r.marker := by
      cases body with
      | nil => simpa using other.symm
      | cons c body => rfl
    simp only [Option.map_some,front,content?_line other]
    split <;> rfl

/-! ### Rendering lines -/

/-- What a rule makes of the lines before a line break does not depend on what follows it. -/
theorem Rule.apply_line (other : r.marker ≠ '\n') (s back : Text) :
    r.apply (s ++ '\n' :: back) = r.apply s ++ '\n' :: r.apply back := by
  fun_induction Rule.pieces r s with
  | case1 s content after found ih =>
    have later : r.span? (s ++ '\n' :: back) = some (content,after ++ '\n' :: back) := by
      rw [span?_line other,found]
      rfl
    rw [apply_of_span? later,apply_of_span? found,ih]
    simp only [List.append_assoc]
  | case2 =>
    rw [List.nil_append,apply_cons (span?_cons other.symm),apply_nil]
    rfl
  | case3 c rest none_found ih =>
    have later : r.span? (c :: (rest ++ '\n' :: back)) = none := by
      rw [← List.cons_append,span?_line other,none_found]
      rfl
    rw [List.cons_append,apply_cons later,apply_cons none_found,ih]
    rfl

theorem applyEach_line {order : List Rule} (others : ∀ r ∈ order, r.marker ≠ '\n') (s back : Text) :
    applyEach order (s ++ '\n' :: back) = applyEach order s ++ '\n' :: applyEach order back := by
  induction order generalizing s back with
  | nil => rfl
  | cons r order ih =>
    obtain ⟨other,others⟩ := List.forall_mem_cons.mp others
    show applyEach order (r.apply (s ++ '\n' :: back)) = _
    rw [Rule.apply_line other,ih others]
    rfl

theorem render_line (s back : Text) : render (s ++ '\n' :: back) = render s ++ '\n' :: render back :=
  applyEach_line (fun _ => rules_marker_ne) s back

theorem render_lines (lines : List Text) :
    render (List.intercalate ['\n'] lines) = List.intercalate ['\n'] (lines.map render) := by
  induction lines with
  | nil => simp [render,rules,Rule.apply_nil]
  | cons line rest ih =>
    cases rest with
    | nil => simp
    | cons next rest =>
      have split (l m : Text) (more : List Text) :
          List.intercalate ['\n'] (l :: m :: more) = l ++ '\n' :: List.intercalate ['\n'] (m :: more) := by
        simp [List.intercalate]
      rw [split,render_line,ih]
      simp only [List.map_cons,split]

/-- Rendering goes line by line, and so does each rule by itself: what stands before a line
    break and what stands after it are rendered each on its own. So the lines of a rendered text
    are the rendered lines, and whatever one line holds, the others come out the same. -/
theorem render_line_by_line :
    (∀ a b, render (a ++ '\n' :: b) = render a ++ '\n' :: render b) ∧
      (∀ r ∈ rules, ∀ a b, r.apply (a ++ '\n' :: b) = r.apply a ++ '\n' :: r.apply b) ∧
      ∀ lines, render (List.intercalate ['\n'] lines) = List.intercalate ['\n'] (lines.map render) :=
  ⟨render_line,fun _ known => Rule.apply_line (rules_marker_ne known),render_lines⟩

/-- A fence that nothing closes on its own line stays as it is, also where the next line begins
    or ends with a fence, and the spans of the other lines are tagged. -/
theorem render_line_by_line_unclosed :
    (⟨'*',.italic⟩ : Rule) ∈ rules ∧ (⟨'*',.italic⟩ : Rule).apply "*a\n*b* *".toList =
        "*a".toList ++ '\n' :: "<span class=\"cw-italic\">b</span> *".toList ∧
      render "a **\n__b__\n** c".toList = "a **\n<span class=\"cw-bold\">b</span>\n** c".toList := by
  obtain ⟨-,each,lines⟩ := render_line_by_line
  refine ⟨by decide,?_,?_⟩
  · have split := each ⟨'*',.italic⟩ (by decide) "*a".toList "*b* *".toList
    exact split.trans (by decide +kernel)
  · have split := lines ["a **".toList,"__b__".toList,"** c".toList]
    exact split.trans (by decide +kernel)

end

end Crossword.Emphasis

import Crossword.Emphasis
import Mathlib.Data.List.Basic

/-!
How a rule of emphasis takes a text apart. A span is a fence, content that has no marker at
either end and stays on its line, and a fence again (`Rule.Begins`). A rule looks for the
earliest place where a span begins and there for the shortest content, and goes on behind that
span until no span is left (`Rule.Parted`); this takes every text apart in one way only, and
what the rule makes of the text is the same parts with tags for fences
(`apply_leftmost_shortest`).
-/
namespace Crossword.Emphasis

/-- The characters that fences are made of. -/
def IsMarker (c : Char) : Prop := c = '*' ∨ c = '_'

instance : DecidablePred IsMarker := fun c => inferInstanceAs (Decidable (c = '*' ∨ c = '_'))

/-! ### Spans -/

/-- The text begins with content and a fence after it: the content is not empty, stays on its
    line and does not end with a marker. -/
structure Rule.Closes (r : Rule) (s content after : Text) : Prop where
  text : s = content ++ (r.fence ++ after)
  some_content : content ≠ []
  one_line : '\n' ∉ content
  back : content.getLast? ≠ some r.marker

/-- The text begins with a span: behind a fence stands content that does not begin with a
    marker, and the fence that closes it. -/
structure Rule.Begins (r : Rule) (s content after : Text) : Prop where
  text : s = r.fence ++ (content ++ (r.fence ++ after))
  some_content : content ≠ []
  one_line : '\n' ∉ content
  front : content.head? ≠ some r.marker
  back : content.getLast? ≠ some r.marker

/-- No span begins anywhere in the text. -/
def Rule.Bare (r : Rule) (s : Text) : Prop :=
  ∀ gap t content after, s = gap ++ t → ¬ r.Begins t content after

/-- A span and what stands before it. -/
structure Stretch where
  gap : Text
  content : Text

/-- The stretch as it is written. -/
def Rule.written (r : Rule) (x : Stretch) : Text := x.gap ++ (r.fence ++ (x.content ++ r.fence))

/-- The stretch with tags for its fences. -/
def Rule.marked (r : Rule) (x : Stretch) : Text := x.gap ++ (r.weight.openTag ++ (x.content ++ closeTag))

/-- The text begins with this stretch: no span begins before its span, and no span that begins
    at the same place has shorter content. -/
structure Rule.Leads (r : Rule) (s : Text) (x : Stretch) (after : Text) : Prop where
  found : ∃ t, s = x.gap ++ t ∧ r.Begins t x.content after
  earliest : ∀ gap t content rest, s = gap ++ t → r.Begins t content rest → x.gap.length ≤ gap.length
  shortest : ∀ gap t content rest, s = gap ++ t → r.Begins t content rest → gap.length = x.gap.length →
    x.content.length ≤ content.length

/-- The text taken apart: stretch after stretch from the front, and a rest that has no span. -/
inductive Rule.Parted (r : Rule) : Text → List Stretch → Text → Prop
  | rest {s : Text} : r.Bare s → r.Parted s [] s
  | stretch {s after rest : Text} {x : Stretch} {more : List Stretch} :
      r.Leads s x after → r.Parted after more rest → r.Parted s (x :: more) rest

/-- The rules run one after the other, each on what those before it have left. -/
def applyEach (order : List Rule) (s : Text) : Text := order.foldl (fun text rule => rule.apply text) s

section
variable {r : Rule} {s t content content' after after' rest rest' : Text} {c : Char} {x x' : Stretch}
  {stretches stretches' : List Stretch}

/-! ### Markers and tags -/

theorem IsMarker.not_mem_openTag (known : IsMarker c) (w : Weight) : c ∉ w.openTag := by
  rcases known with rfl | rfl <;> cases w <;> decide

theorem IsMarker.not_mem_closeTag (known : IsMarker c) : c ∉ closeTag := by
  rcases known with rfl | rfl <;> decide

theorem line_not_mem_openTag (w : Weight) : '\n' ∉ w.openTag := by
  cases w <;> decide

theorem line_not_mem_closeTag : '\n' ∉ closeTag := by decide

/-! ### Fences -/

theorem Rule.length_fence (r : Rule) : r.fence.length = r.weight.size := List.length_replicate

theorem Rule.fence_eq_cons (r : Rule) : r.fence = r.marker :: List.replicate (r.weight.size - 1) r.marker := by
  obtain ⟨marker,weight⟩ := r
  cases weight <;> rfl

theorem Rule.afterFence?_eq_some_iff : r.afterFence? s = some after ↔ s = r.fence ++ after := by
  unfold Rule.afterFence?
  constructor
  · intro found
    split at found
    · next fenced =>
      cases found
      rw [← r.length_fence]
      exact (List.prefix_iff_eq_append.mp (List.isPrefixOf_iff_prefix.mp fenced)).symm
    · cases found
  · rintro rfl
    have fenced : r.fence.isPrefixOf (r.fence ++ after) = true :=
      List.isPrefixOf_iff_prefix.mpr (List.prefix_append _ _)
    rw [if_pos fenced,← r.length_fence,List.drop_left]

theorem Rule.afterFence?_cons (other : c ≠ r.marker) : r.afterFence? (c :: rest) = none := by
  cases found : r.afterFence? (c :: rest) with
  | none => rfl
  | some after =>
    rw [afterFence?_eq_some_iff,fence_eq_cons] at found
    exact absurd (List.cons.inj found).1 other

/-! ### The shortest content -/

/-- Content is one character before a fence, or a character before shorter content. -/
theorem Rule.closes_cons_iff : r.Closes (c :: rest) content after ↔
    c ≠ '\n' ∧ (content = [c] ∧ c ≠ r.marker ∧ r.afterFence? rest = some after ∨
      ∃ inner, content = c :: inner ∧ r.Closes rest inner after) := by
  constructor
  · rintro ⟨text,some_content,one_line,back⟩
    cases content with
    | nil => exact absurd rfl some_content
    | cons d inner =>
      obtain ⟨rfl,tail⟩ := List.cons.inj text
      refine ⟨fun same => one_line (same ▸ List.mem_cons_self),?_⟩
      cases inner with
      | nil => exact .inl ⟨rfl,fun same => back (congrArg some same),afterFence?_eq_some_iff.mpr tail⟩
      | cons e inner =>
        rw [List.getLast?_cons_cons] at back
        have inside : '\n' ∉ e :: inner := fun member => one_line (List.mem_cons_of_mem _ member)
        exact .inr ⟨e :: inner,rfl,tail,List.cons_ne_nil _ _,inside,back⟩
  · rintro ⟨inside,⟨rfl,other,fenced⟩ | ⟨inner,rfl,text,some_content,one_line,back⟩⟩
    · refine ⟨congrArg (c :: ·) (afterFence?_eq_some_iff.mp fenced),List.cons_ne_nil _ _,?_,?_⟩
      · simpa using inside.symm
      · simpa using other
    · refine ⟨congrArg (c :: ·) text,List.cons_ne_nil _ _,?_,?_⟩
      · simpa using ⟨inside.symm,one_line⟩
      · rwa [List.getLast?_cons_of_ne_nil some_content]

/-- The content that is found closes, and no shorter one does; none is found where none closes. -/
theorem Rule.content?_settled (r : Rule) (s : Text) :
    match r.content? s with
    | none => ∀ content after, ¬ r.Closes s content after
    | some (content,after) => r.Closes s content after ∧
        ∀ content' after', r.Closes s content' after' → content.length ≤ content'.length := by
  induction s with
  | nil =>
    rintro content after ⟨text,some_content,-,-⟩
    exact some_content (List.append_eq_nil_iff.mp text.symm).1
  | cons c rest ih =>
    unfold Rule.content?
    by_cases line : c = '\n'
    · rw [if_pos line]
      exact fun content after closes => (closes_cons_iff.mp closes).1 line
    rw [if_neg line]
    cases single : if c = r.marker then none else r.afterFence? rest with
    | some after =>
      -- The first character alone is content, and no content is shorter.
      have other : c ≠ r.marker := fun same => by rw [if_pos same] at single; cases single
      rw [if_neg other] at single
      refine ⟨closes_cons_iff.mpr ⟨line,.inl ⟨rfl,other,single⟩⟩,fun content' after' closes => ?_⟩
      exact List.length_pos_iff.mpr closes.some_content
    | none =>
      have longer : ∀ {content after}, r.Closes (c :: rest) content after →
          ∃ inner, content = c :: inner ∧ r.Closes rest inner after := by
        intro content after closes
        rcases (closes_cons_iff.mp closes).2 with ⟨-,other,fenced⟩ | inner
        · rw [if_neg other,fenced] at single
          cases single
        · exact inner
      cases found : r.content? rest with
      | none =>
        rw [found] at ih
        intro content after closes
        obtain ⟨inner,-,closes⟩ := longer closes
        exact ih inner after closes
      | some pair =>
        obtain ⟨content,after⟩ := pair
        rw [found] at ih
        refine ⟨closes_cons_iff.mpr ⟨line,.inr ⟨content,rfl,ih.1⟩⟩,fun content' after' closes => ?_⟩
        obtain ⟨inner,rfl,within⟩ := longer closes
        exact Nat.succ_le_succ (ih.2 inner after' within)

theorem Rule.begins_iff : r.Begins s content after ↔
    ∃ body, r.afterFence? s = some body ∧ body.head? ≠ some r.marker ∧ r.Closes body content after := by
  constructor
  · rintro ⟨text,some_content,one_line,front,back⟩
    refine ⟨_,afterFence?_eq_some_iff.mpr text,?_,rfl,some_content,one_line,back⟩
    rwa [List.head?_append_of_ne_nil _ some_content]
  · rintro ⟨body,fenced,front,rfl,some_content,one_line,back⟩
    rw [List.head?_append_of_ne_nil _ some_content] at front
    exact ⟨afterFence?_eq_some_iff.mp fenced,some_content,one_line,front,back⟩

/-- The span that is found begins the text, and none with shorter content does; none is found
    where none begins. -/
theorem Rule.span?_settled (r : Rule) (s : Text) :
    match r.span? s with
    | none => ∀ content after, ¬ r.Begins s content after
    | some (content,after) => r.Begins s content after ∧
        ∀ content' after', r.Begins s content' after' → content.length ≤ content'.length := by
  unfold Rule.span?
  cases fenced : r.afterFence? s with
  | none =>
    intro content after begins
    obtain ⟨body,found,-,-⟩ := begins_iff.mp begins
    rw [fenced] at found
    cases found
  | some body =>
    have closes : ∀ {content after}, r.Begins s content after →
        body.head? ≠ some r.marker ∧ r.Closes body content after := by
      intro content after begins
      obtain ⟨body',found,front,closes⟩ := begins_iff.mp begins
      obtain rfl := Option.some.inj (fenced.symm.trans found)
      exact ⟨front,closes⟩
    by_cases front : body.head? = some r.marker
    · simp only [if_pos front]
      exact fun content after begins => (closes begins).1 front
    · simp only [if_neg front]
      have settled := r.content?_settled body
      cases found : r.content? body with
      | none =>
        rw [found] at settled
        exact fun content after begins => settled content after (closes begins).2
      | some pair =>
        rw [found] at settled
        exact ⟨begins_iff.mpr ⟨body,fenced,front,settled.1⟩,
          fun content' after' begins => settled.2 content' after' (closes begins).2⟩

theorem Rule.begins_of_span? (found : r.span? s = some (content,after)) : r.Begins s content after := by
  have settled := r.span?_settled s
  rw [found] at settled
  exact settled.1

theorem Rule.not_begins_of_span? (none_found : r.span? s = none) : ¬ r.Begins s content after := by
  have settled := r.span?_settled s
  rw [none_found] at settled
  exact settled content after

/-! ### The pieces of a text -/

theorem Rule.pieces_nil (r : Rule) : r.pieces [] = [] := by
  rw [Rule.pieces]
  split
  · next _ _ found => exact absurd (r.length_span? found) (Nat.not_lt_zero _)
  · rfl

theorem Rule.pieces_of_span? (found : r.span? s = some (content,after)) :
    r.pieces s = .span content :: r.pieces after := by
  rw [Rule.pieces]
  split
  · next _ _ found' =>
    rw [found] at found'
    cases found'
    rfl
  · next none_found =>
    rw [found] at none_found
    cases none_found

theorem Rule.pieces_cons (none_found : r.span? (c :: rest) = none) :
    r.pieces (c :: rest) = .plain c :: r.pieces rest := by
  rw [Rule.pieces]
  split
  · next _ _ found =>
    rw [none_found] at found
    cases found
  · rfl

theorem Rule.span?_cons (other : c ≠ r.marker) : r.span? (c :: rest) = none := by
  rw [Rule.span?,afterFence?_cons other]

theorem Rule.pieces_unmarked (unmarked : ∀ c ∈ s, c ≠ r.marker) (rest : Text) :
    r.pieces (s ++ rest) = s.map .plain ++ r.pieces rest := by
  induction s with
  | nil => rfl
  | cons c s ih =>
    obtain ⟨other,unmarked⟩ := List.forall_mem_cons.mp unmarked
    rw [List.cons_append,pieces_cons (span?_cons other),ih unmarked]
    rfl

theorem Rule.apply_nil (r : Rule) : r.apply [] = [] := by rw [Rule.apply,pieces_nil,List.flatMap_nil]

theorem Rule.apply_of_span? (found : r.span? s = some (content,after)) :
    r.apply s = r.weight.openTag ++ (content ++ (closeTag ++ r.apply after)) := by
  rw [Rule.apply,pieces_of_span? found,List.flatMap_cons,Rule.tagged,List.append_assoc,List.append_assoc]
  rfl

theorem Rule.apply_cons (none_found : r.span? (c :: rest) = none) : r.apply (c :: rest) = c :: r.apply rest := by
  rw [Rule.apply,pieces_cons none_found]
  rfl

theorem Rule.apply_unmarked (unmarked : ∀ c ∈ s, c ≠ r.marker) (rest : Text) :
    r.apply (s ++ rest) = s ++ r.apply rest := by
  rw [Rule.apply,pieces_unmarked unmarked,List.flatMap_append,List.flatMap_map]
  exact congrArg (· ++ r.apply rest) (List.flatMap_singleton' s)

/-! ### Taking a text apart -/

theorem Rule.Begins.length_lt (begins : r.Begins s content after) : after.length < s.length := by
  have positive := List.length_pos_iff.mpr begins.some_content
  rw [begins.text]
  simp only [List.length_append]
  omega

theorem Rule.bare_nil (r : Rule) : r.Bare [] := by
  intro gap t content after text begins
  have short := begins.length_lt
  rw [(List.append_eq_nil_iff.mp text.symm).2] at short
  exact absurd short (Nat.not_lt_zero _)

/-- A character before which no span begins belongs to the gap behind it. -/
theorem Rule.Leads.cons (leads : r.Leads rest x after)
    (none_here : ∀ content after, ¬ r.Begins (c :: rest) content after) :
    r.Leads (c :: rest) ⟨c :: x.gap,x.content⟩ after := by
  have behind : ∀ {gap t content after}, c :: rest = gap ++ t → r.Begins t content after →
      ∃ gap', gap = c :: gap' ∧ rest = gap' ++ t := by
    intro gap t content after text begins
    cases gap with
    | nil => exact absurd (text ▸ begins) (none_here content after)
    | cons d gap =>
      obtain ⟨rfl,tail⟩ := List.cons.inj text
      exact ⟨gap,rfl,tail⟩
  obtain ⟨⟨t,text,begins⟩,earliest,shortest⟩ := leads
  refine ⟨⟨t,congrArg (c :: ·) text,begins⟩,?_,?_⟩
  · intro gap t content rest text begins
    obtain ⟨gap,rfl,tail⟩ := behind text begins
    exact Nat.succ_le_succ (earliest gap t content rest tail begins)
  · intro gap t content rest text begins same
    obtain ⟨gap,rfl,tail⟩ := behind text begins
    exact shortest gap t content rest tail begins (Nat.succ.inj same)

theorem Rule.Bare.cons (bare : r.Bare rest) (none_here : ∀ content after, ¬ r.Begins (c :: rest) content after) :
    r.Bare (c :: rest) := by
  intro gap t content after text begins
  cases gap with
  | nil => exact none_here content after (text ▸ begins)
  | cons d gap => exact bare gap t content after (List.cons.inj text).2 begins

theorem Rule.leads_of_span? (found : r.span? s = some (content,after)) : r.Leads s ⟨[],content⟩ after := by
  have settled := r.span?_settled s
  rw [found] at settled
  refine ⟨⟨s,rfl,settled.1⟩,fun _ _ _ _ _ _ => Nat.zero_le _,?_⟩
  intro gap t content' rest text begins same
  rw [List.length_eq_zero_iff.mp same,List.nil_append] at text
  exact settled.2 content' rest (text ▸ begins)

/-- Every text can be taken apart, and what the rule makes of it is these parts with tags. -/
theorem Rule.exists_parted (r : Rule) (s : Text) :
    ∃ stretches rest, r.Parted s stretches rest ∧ r.apply s = stretches.flatMap r.marked ++ rest := by
  unfold Rule.apply
  fun_induction Rule.pieces r s with
  | case1 s content after found ih =>
    obtain ⟨stretches,rest,parted,applied⟩ := ih
    refine ⟨⟨[],content⟩ :: stretches,rest,.stretch (leads_of_span? found) parted,?_⟩
    rw [List.flatMap_cons,List.flatMap_cons,applied]
    simp only [Rule.tagged,Rule.marked,List.nil_append,List.append_assoc]
  | case2 => exact ⟨[],[],.rest r.bare_nil,rfl⟩
  | case3 c rest none_found ih =>
    obtain ⟨stretches,last,parted,applied⟩ := ih
    have none_here : ∀ content after, ¬ r.Begins (c :: rest) content after :=
      fun _ _ => not_begins_of_span? none_found
    rw [List.flatMap_cons,applied]
    cases parted with
    | rest bare => exact ⟨[],c :: rest,.rest (bare.cons none_here),rfl⟩
    | @stretch _ after _ x more leads parted =>
      exact ⟨⟨c :: x.gap,x.content⟩ :: more,last,.stretch (leads.cons none_here) parted,rfl⟩

theorem Rule.Parted.written (parted : r.Parted s stretches rest) : s = stretches.flatMap r.written ++ rest := by
  induction parted with
  | rest => rfl
  | @stretch s after rest x more leads _ ih =>
    obtain ⟨t,text,begins⟩ := leads.found
    rw [List.flatMap_cons,text,begins.text,ih]
    simp only [Rule.written,List.append_assoc]

theorem Rule.Parted.bare (parted : r.Parted s stretches rest) : r.Bare rest := by
  induction parted with
  | rest bare => exact bare
  | stretch _ _ ih => exact ih

/-- The earliest place and the shortest content settle a stretch and what comes after it. -/
theorem Rule.Leads.unique (one : r.Leads s x after) (other : r.Leads s x' after') : x = x' ∧ after = after' := by
  obtain ⟨⟨t,text,begins⟩,earliest,shortest⟩ := one
  obtain ⟨⟨t',text',begins'⟩,earliest',shortest'⟩ := other
  have same : x.gap.length = x'.gap.length :=
    Nat.le_antisymm (earliest _ _ _ _ text' begins') (earliest' _ _ _ _ text begins)
  obtain ⟨gap,rfl⟩ := List.append_inj (text.symm.trans text') same
  have length : x.content.length = x'.content.length :=
    Nat.le_antisymm (shortest _ _ _ _ text' begins' same.symm) (shortest' _ _ _ _ text begins same)
  have bodies := List.append_cancel_left (begins.text.symm.trans begins'.text)
  obtain ⟨content,ends⟩ := List.append_inj bodies length
  obtain ⟨g,k⟩ := x
  cases gap
  cases content
  exact ⟨rfl,List.append_cancel_left ends⟩

theorem Rule.Parted.unique (one : r.Parted s stretches rest) (other : r.Parted s stretches' rest') :
    stretches' = stretches ∧ rest' = rest := by
  induction one generalizing stretches' with
  | rest bare =>
    cases other with
    | rest => exact ⟨rfl,rfl⟩
    | stretch leads =>
      obtain ⟨t,text,begins⟩ := leads.found
      exact absurd begins (bare _ _ _ _ text)
  | stretch leads _ ih =>
    cases other with
    | rest bare =>
      obtain ⟨t,text,begins⟩ := leads.found
      exact absurd begins (bare _ _ _ _ text)
    | stretch leads' parted =>
      obtain ⟨rfl,rfl⟩ := leads.unique leads'
      obtain ⟨rfl,rfl⟩ := ih parted
      exact ⟨rfl,rfl⟩

/-- Every text is taken apart in just one way into stretches, each of them up to the earliest
    place where a span begins and with the shortest content there, and a rest in which no span
    begins. The rule puts tags in the place of these fences and keeps all else, so that it leaves
    a text without spans as it is. -/
theorem apply_leftmost_shortest (r : Rule) (s : Text) :
    ∃ stretches rest, r.Parted s stretches rest ∧
      (∀ stretches' rest', r.Parted s stretches' rest' → stretches' = stretches ∧ rest' = rest) ∧
      s = stretches.flatMap r.written ++ rest ∧ r.Bare rest ∧
      r.apply s = stretches.flatMap r.marked ++ rest ∧ (r.Bare s → r.apply s = s) := by
  obtain ⟨stretches,rest,parted,applied⟩ := r.exists_parted s
  refine ⟨stretches,rest,parted,fun _ _ => parted.unique,parted.written,parted.bare,applied,fun bare => ?_⟩
  obtain ⟨rfl,rfl⟩ := parted.unique (.rest bare)
  exact applied

/-- Behind a long run of markers the search goes on where the last fence ended. -/
theorem apply_leftmost_longRun : ∃ stretches rest,
    (⟨'*',.bold⟩ : Rule).Parted "**a ***b*** c**".toList stretches rest ∧
      stretches.flatMap (⟨'*',.bold⟩ : Rule).marked ++ rest =
        "<span class=\"cw-bold\">a </span>*b*<span class=\"cw-bold\"> c</span>".toList := by
  obtain ⟨stretches,rest,parted,_,_,_,applied,_⟩ := apply_leftmost_shortest ⟨'*',.bold⟩ "**a ***b*** c**".toList
  exact ⟨stretches,rest,parted,applied.symm.trans (by decide +kernel)⟩

end

end Crossword.Emphasis

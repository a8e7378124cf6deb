import Crossword.Proofs.Fencing

/-!
Two rules on one text. What a rule makes of a text is laid out place by place: a character stays,
or some text stands there instead (`Rule.changes`). A rule that looks for one marker does not see
what a rule with another marker changes, since tags hold no markers and no tag is empty
(`apply_veiled`). So the changes of both can be laid over each other in either order, the rules
commute, and all that counts for the whole rendering is the order within each family of rules
(`render_interleaved`).
-/
namespace Crossword.Emphasis

/-! ### Places -/

/-- A place of a text: the character that stands there, and what is put there unless it stays. -/
structure Place where
  was : Char
  now : Option Text

namespace Place

/-- What stands at the place in the end. -/
def text (p : Place) : Text := p.now.getD [p.was]

/-- The place of a character that stays. -/
def stay (c : Char) : Place := ⟨c,none⟩

/-- One change of a place laid over another one. -/
def overlay (new old : Place) : Place := ⟨old.was,new.now.or old.now⟩

/-- The text before any change. -/
def before (places : List Place) : Text := places.map was

/-- The text with all changes. -/
def after (places : List Place) : Text := places.flatMap text

end Place

open Place

/-- The places of a fence in whose stead a tag stands. -/
def Rule.fencePlaces (r : Rule) (tag : Text) : List Place :=
  ⟨r.marker,some tag⟩ :: List.replicate (r.weight.size - 1) ⟨r.marker,some []⟩

/-- The places of a piece. -/
def Rule.places (r : Rule) : Piece → List Place
  | .plain c => [stay c]
  | .span content => r.fencePlaces r.weight.openTag ++ (content.map stay ++ r.fencePlaces closeTag)

/-- The places of a text and what the rule puts there. -/
def Rule.changes (r : Rule) (s : Text) : List Place := (r.pieces s).flatMap r.places

/-- The rule looks past the character. -/
def Rule.Ignores (r : Rule) (c : Char) : Prop := c ≠ r.marker ∧ c ≠ '\n'

/-- Something is written here, and the rule looks past all of it. -/
structure Rule.Overlooks (r : Rule) (s : Text) : Prop where
  some_text : s ≠ []
  ignored : ∀ c ∈ s, r.Ignores c

/-- The rule does not see these changes: they come in blocks that it looks past, before and
    after the change. -/
inductive Rule.Veiled (r : Rule) : List Place → Prop
  | nil : r.Veiled []
  | char {places : List Place} (c : Char) : r.Veiled places → r.Veiled (stay c :: places)
  | block {places : List Place} (changed : List Place) :
      r.Overlooks (before changed) → r.Overlooks (after changed) → r.Veiled places → r.Veiled (changed ++ places)

/-- Searching before and after the changes finds the same content and the same rest behind the
    fence that closes it, or nothing both times. -/
def Rule.SameSpan (r : Rule) (lead places : List Place) (found found' : Option (Text × Text)) : Prop :=
  (∃ content rest, places = lead ++ (content ++ (r.fence.map stay ++ rest)) ∧ r.Veiled rest ∧
    found = some (before content,before rest) ∧ found' = some (after content,after rest)) ∨
  found = none ∧ found' = none

section
variable {r q : Rule} {s content rest : Text} {c : Char} {p : Place} {places places' : List Place}

@[simp]
theorem before_append (places places' : List Place) : before (places ++ places') = before places ++ before places' :=
  List.map_append

@[simp]
theorem after_append (places places' : List Place) : after (places ++ places') = after places ++ after places' :=
  List.flatMap_append

@[simp]
theorem before_cons (p : Place) (places : List Place) : before (p :: places) = p.was :: before places := rfl

@[simp]
theorem after_cons (p : Place) (places : List Place) : after (p :: places) = p.text ++ after places := rfl

@[simp]
theorem before_stay (s : Text) : before (s.map stay) = s := by
  rw [before,List.map_map]
  exact List.map_id s

@[simp]
theorem after_stay (s : Text) : after (s.map stay) = s := by
  rw [after,List.flatMap_map]
  exact List.flatMap_singleton' s

@[simp]
theorem Rule.before_fencePlaces (r : Rule) (tag : Text) : before (r.fencePlaces tag) = r.fence := by
  rw [Rule.fencePlaces,before_cons,before,List.map_replicate,← Rule.fence_eq_cons]

@[simp]
theorem Rule.after_fencePlaces (r : Rule) (tag : Text) : after (r.fencePlaces tag) = tag := by
  have none_left : after (List.replicate (r.weight.size - 1) ⟨r.marker,some []⟩) = [] :=
    List.flatMap_eq_nil_iff.mpr fun p member => by rw [List.eq_of_mem_replicate member]; rfl
  rw [Rule.fencePlaces,after_cons,none_left,List.append_nil]
  rfl

/-! ### The changes of a rule -/

theorem Rule.changes_nil (r : Rule) : r.changes [] = [] := by rw [Rule.changes,pieces_nil,List.flatMap_nil]

theorem Rule.changes_of_span? {after : Text} (found : r.span? s = some (content,after)) :
    r.changes s =
      r.fencePlaces r.weight.openTag ++ (content.map stay ++ (r.fencePlaces closeTag ++ r.changes after)) := by
  rw [Rule.changes,pieces_of_span? found,List.flatMap_cons,Rule.places,List.append_assoc,List.append_assoc]
  rfl

theorem Rule.changes_cons (none_found : r.span? (c :: rest) = none) :
    r.changes (c :: rest) = stay c :: r.changes rest := by
  rw [Rule.changes,pieces_cons none_found]
  rfl

theorem Rule.changes_unmarked (unmarked : ∀ c ∈ s, c ≠ r.marker) (rest : Text) :
    r.changes (s ++ rest) = s.map stay ++ r.changes rest := by
  rw [Rule.changes,pieces_unmarked unmarked,List.flatMap_append,List.flatMap_map]
  exact congrArg (· ++ r.changes rest) (List.map_eq_flatMap).symm

theorem Rule.before_changes (r : Rule) (s : Text) : before (r.changes s) = s := by
  unfold Rule.changes
  fun_induction Rule.pieces r s with
  | case1 s content after found ih =>
    rw [List.flatMap_cons,before_append,ih,(begins_of_span? found).text]
    simp [Rule.places]
  | case2 => rfl
  | case3 c rest none_found ih =>
    rw [List.flatMap_cons,before_append,ih]
    rfl

theorem Rule.after_changes (r : Rule) (s : Text) : after (r.changes s) = r.apply s := by
  rw [after,Rule.changes,List.flatMap_assoc]
  refine List.flatMap_congr fun piece _ => ?_
  change after (r.places piece) = r.tagged piece
  cases piece with
  | plain c => rfl
  | span content => simp [Rule.places,Rule.tagged]

/-- Only markers are changed. -/
theorem Rule.now_eq_none_or_was (member : p ∈ r.changes s) : p.now = none ∨ p.was = r.marker := by
  obtain ⟨piece,-,member⟩ := List.mem_flatMap.mp member
  have of_fence : ∀ tag, p ∈ r.fencePlaces tag → p.was = r.marker := by
    intro tag member
    rcases List.mem_cons.mp member with rfl | member
    · rfl
    · rw [List.eq_of_mem_replicate member]
  cases piece with
  | plain c =>
    rw [List.mem_singleton.mp member]
    exact .inl rfl
  | span content =>
    rcases List.mem_append.mp member with opening | inside
    · exact .inr (of_fence _ opening)
    · rcases List.mem_append.mp inside with inside | closing
      · obtain ⟨c,-,rfl⟩ := List.mem_map.mp inside
        exact .inl rfl
      · exact .inr (of_fence _ closing)

/-! ### What a rule looks past -/

theorem Rule.Overlooks.head?_append (overlooks : r.Overlooks s) (rest : Text) : (s ++ rest).head? ≠ some r.marker := by
  intro same
  cases s with
  | nil => exact overlooks.some_text rfl
  | cons c s => exact (overlooks.ignored c List.mem_cons_self).1 (Option.some.inj same)

/-- Content goes on through what the rule looks past, and may end right behind it. -/
theorem Rule.content?_overlooked (overlooks : r.Overlooks s) (rest : Text) :
    r.content? (s ++ rest) =
      match r.afterFence? rest with
      | some after => some (s,after)
      | none => (r.content? rest).map fun (content,after) => (s ++ content,after) := by
  obtain ⟨some_text,ignored⟩ := overlooks
  induction s with
  | nil => exact absurd rfl some_text
  | cons c s ih =>
    obtain ⟨⟨other,line⟩,ignored⟩ := List.forall_mem_cons.mp ignored
    rw [List.cons_append,Rule.content?,if_neg line,if_neg other]
    cases s with
    | nil => rfl
    | cons d s =>
      have unfenced : r.afterFence? (d :: s ++ rest) = none := afterFence?_cons (ignored d List.mem_cons_self).1
      rw [unfenced,ih (List.cons_ne_nil _ _) ignored]
      cases r.afterFence? rest with
      | some after => rfl
      | none => cases r.content? rest <;> rfl

/-! ### Changes that a rule does not see -/

/-- A run of markers stands at the front of the text both before and after the changes, or
    neither time. -/
theorem Rule.Veiled.markers (veiled : r.Veiled places) (n : Nat) :
    (∃ rest, places = List.replicate n (stay r.marker) ++ rest ∧ r.Veiled rest) ∨
      (∀ rest, before places ≠ List.replicate n r.marker ++ rest) ∧
        ∀ rest, after places ≠ List.replicate n r.marker ++ rest := by
  -- The induction is on the run: a block ends it, as it does not begin with a marker either time.
  induction n generalizing places with
  | zero => exact .inl ⟨places,rfl,veiled⟩
  | succ n ih =>
    have unmarked : ∀ {s}, r.Overlooks s → ∀ t rest, s ++ t ≠ List.replicate (n + 1) r.marker ++ rest := by
      intro s overlooks t rest same
      exact overlooks.head?_append t (by rw [same]; rfl)
    cases veiled with
    | nil => exact .inr ⟨fun _ => List.cons_ne_nil _ _ ∘ Eq.symm,fun _ => List.cons_ne_nil _ _ ∘ Eq.symm⟩
    | @char places c veiled =>
      by_cases marker : c = r.marker
      · rcases ih veiled with ⟨rest,text,veiled⟩ | ⟨unfenced,unfenced'⟩
        · exact .inl ⟨rest,by rw [text,marker]; rfl,veiled⟩
        · exact .inr ⟨fun rest same => unfenced rest (List.cons.inj same).2,
            fun rest same => unfenced' rest (List.cons.inj same).2⟩
      · exact .inr ⟨fun rest same => marker (List.cons.inj same).1,fun rest same => marker (List.cons.inj same).1⟩
    | @block places changed old new veiled =>
      rw [before_append,after_append]
      exact .inr ⟨unmarked old _,unmarked new _⟩

/-- A fence is found at the front of both texts, with the same places behind it, or of neither. -/
theorem Rule.Veiled.afterFence? (veiled : r.Veiled places) :
    (∃ rest, places = r.fence.map stay ++ rest ∧ r.Veiled rest ∧
      r.afterFence? (before places) = some (before rest) ∧ r.afterFence? (after places) = some (after rest)) ∨
    r.afterFence? (before places) = none ∧ r.afterFence? (after places) = none := by
  rcases veiled.markers r.weight.size with ⟨rest,text,veiled⟩ | ⟨unfenced,unfenced'⟩
  · have fenced : places = r.fence.map stay ++ rest := by rw [text,Rule.fence,List.map_replicate]
    refine .inl ⟨rest,fenced,veiled,?_,?_⟩
    · rw [afterFence?_eq_some_iff,fenced,before_append,before_stay]
    · rw [afterFence?_eq_some_iff,fenced,after_append,after_stay]
  · exact .inr ⟨Option.eq_none_iff_forall_ne_some.mpr fun _ found => unfenced _ (afterFence?_eq_some_iff.mp found),
      Option.eq_none_iff_forall_ne_some.mpr fun _ found => unfenced' _ (afterFence?_eq_some_iff.mp found)⟩

theorem Rule.Veiled.head?_iff (veiled : r.Veiled places) :
    (before places).head? = some r.marker ↔ (after places).head? = some r.marker := by
  cases veiled with
  | nil => rfl
  | char => rfl
  | block changed old new veiled =>
    rw [before_append,after_append]
    exact iff_of_false (old.head?_append _) (new.head?_append _)

/-- Places in front of what is searched belong to the content. -/
theorem Rule.SameSpan.grow {found found' : Option (Text × Text)} (same : r.SameSpan [] places found found')
    (more : List Place) : r.SameSpan [] (more ++ places)
      (found.map fun (content,rest) => (before more ++ content,rest))
      (found'.map fun (content,rest) => (after more ++ content,rest)) := by
  rcases same with ⟨content,rest,rfl,veiled,rfl,rfl⟩ | ⟨rfl,rfl⟩
  · refine .inl ⟨more ++ content,rest,?_,veiled,?_,?_⟩
    · simp only [List.nil_append,List.append_assoc]
    · rw [before_append]
      rfl
    · rw [after_append]
      rfl
  · exact .inr ⟨rfl,rfl⟩

/-- The shortest content that closes is made of the same places in both texts. -/
theorem Rule.Veiled.content? (veiled : r.Veiled places) :
    r.SameSpan [] places (r.content? (before places)) (r.content? (after places)) := by
  -- The induction is on the blocks: whether content may end behind one hangs on what follows alone.
  induction veiled with
  | nil => exact .inr ⟨rfl,rfl⟩
  | @char places c veiled ih =>
    change r.SameSpan [] _ (r.content? (c :: before places)) (r.content? (c :: after places))
    unfold Rule.content?
    by_cases line : c = '\n'
    · rw [if_pos line,if_pos line]
      exact .inr ⟨rfl,rfl⟩
    rw [if_neg line,if_neg line]
    by_cases marker : c = r.marker
    · rw [if_pos marker,if_pos marker]
      exact ih.grow [stay c]
    rw [if_neg marker,if_neg marker]
    rcases veiled.afterFence? with ⟨rest,rfl,veiled,found,found'⟩ | ⟨unfenced,unfenced'⟩
    · rw [found,found']
      exact .inl ⟨[stay c],rest,rfl,veiled,rfl,rfl⟩
    · rw [unfenced,unfenced']
      exact ih.grow [stay c]
  | @block places changed old new veiled ih =>
    rw [before_append,after_append,content?_overlooked old,content?_overlooked new]
    rcases veiled.afterFence? with ⟨rest,rfl,veiled,found,found'⟩ | ⟨unfenced,unfenced'⟩
    · rw [found,found']
      exact .inl ⟨changed,rest,rfl,veiled,rfl,rfl⟩
    · rw [unfenced,unfenced']
      exact ih.grow changed

/-- The span at the front of both texts, if there is one, is made of the same places. -/
theorem Rule.Veiled.span? (veiled : r.Veiled places) :
    r.SameSpan (r.fence.map stay) places (r.span? (before places)) (r.span? (after places)) := by
  unfold Rule.span?
  rcases veiled.afterFence? with ⟨body,rfl,veiled,found,found'⟩ | ⟨unfenced,unfenced'⟩
  · rw [found,found']
    by_cases front : (before body).head? = some r.marker
    · simp only [if_pos front,if_pos (veiled.head?_iff.mp front)]
      exact .inr ⟨rfl,rfl⟩
    · simp only [if_neg front,if_neg (front ∘ veiled.head?_iff.mpr)]
      rcases veiled.content? with ⟨content,rest,rfl,veiled,closed,closed'⟩ | unclosed
      · exact .inl ⟨content,rest,rfl,veiled,closed,closed'⟩
      · exact .inr unclosed
  · rw [unfenced,unfenced']
    exact .inr ⟨rfl,rfl⟩

/-! ### Changes laid over each other -/

theorem overlay_stay (places : List Place) : List.zipWith overlay ((before places).map stay) places = places := by
  induction places with
  | nil => rfl
  | cons p places ih =>
    rw [before_cons,List.map_cons,List.zipWith_cons_cons,ih]
    rfl

theorem Rule.after_overlay_fencePlaces (r : Rule) (tag : Text) :
    after (List.zipWith overlay (r.fencePlaces tag) (r.fence.map stay)) = tag := by
  have same : List.zipWith overlay (r.fencePlaces tag) (r.fence.map stay) = r.fencePlaces tag := by
    rw [Rule.fence_eq_cons,Rule.fencePlaces,List.map_cons,List.map_replicate,List.zipWith_cons_cons,
      List.zipWith_replicate,Nat.min_self]
    rfl
  rw [same,after_fencePlaces]

theorem Rule.length_fencePlaces (r : Rule) (tag : Text) : (r.fencePlaces tag).length = r.fence.length := by
  rw [← before_fencePlaces r tag,before,List.length_map]

/-- On a text with changes that it does not see a rule does what it does on the text before them,
    and these changes stay. -/
theorem Rule.apply_veiled (veiled : r.Veiled places) :
    r.apply (after places) = after (List.zipWith overlay (r.changes (before places)) places) := by
  -- The induction is on the length: behind a span and behind a block the places go on shorter.
  induction length : places.length using Nat.strongRecOn generalizing places with
  | ind n ih =>
  subst length
  rcases veiled.span? with ⟨content,rest,rfl,inner,found,found'⟩ | ⟨none_found,none_found'⟩
  · have shorter : rest.length < (r.fence.map stay ++ (content ++ (r.fence.map stay ++ rest))).length := by
      simp only [List.length_append,List.length_map,Rule.fence_eq_cons,List.length_cons]
      omega
    rw [apply_of_span? found',changes_of_span? found,
      List.zipWith_append (by rw [length_fencePlaces,List.length_map]),
      List.zipWith_append (by rw [before,List.length_map,List.length_map]),
      List.zipWith_append (by rw [length_fencePlaces,List.length_map]),overlay_stay]
    simp only [after_append,after_overlay_fencePlaces,ih _ shorter inner rfl]
  · cases veiled with
    | nil =>
      change r.apply [] = after (List.zipWith overlay (r.changes []) [])
      rw [apply_nil,changes_nil]
      rfl
    | @char places c veiled =>
      have none_here : r.span? (c :: before places) = none := none_found
      have none_here' : r.span? (c :: after places) = none := none_found'
      change r.apply (c :: after places) = after (List.zipWith overlay (r.changes (c :: before places)) _)
      rw [apply_cons none_here',changes_cons none_here,ih _ (Nat.lt_succ_self _) veiled rfl]
      rfl
    | @block places changed old new veiled =>
      have shorter : places.length < (changed ++ places).length := by
        have some_place : changed ≠ [] := fun none => old.some_text (by rw [none]; rfl)
        have positive := List.length_pos_iff.mpr some_place
        rw [List.length_append]
        omega
      rw [before_append,after_append,apply_unmarked fun c member => (new.ignored c member).1,
        changes_unmarked fun c member => (old.ignored c member).1,
        List.zipWith_append (by rw [before,List.length_map,List.length_map]),overlay_stay,after_append,
        ih _ shorter veiled rfl]

/-! ### Rules with different markers -/

theorem Rule.Veiled.append_stay (veiled : r.Veiled places) (s : Text) : r.Veiled (s.map stay ++ places) := by
  induction s with
  | nil => exact veiled
  | cons c s ih => exact ih.char c

theorem Rule.overlooks_openTag (known : IsMarker r.marker) (w : Weight) : r.Overlooks w.openTag := by
  refine ⟨by cases w <;> decide,fun c member => ⟨?_,?_⟩⟩
  · rintro rfl
    exact known.not_mem_openTag w member
  · rintro rfl
    exact line_not_mem_openTag w member

theorem Rule.overlooks_closeTag (known : IsMarker r.marker) : r.Overlooks closeTag := by
  refine ⟨by decide,fun c member => ⟨?_,?_⟩⟩
  · rintro rfl
    exact known.not_mem_closeTag member
  · rintro rfl
    exact line_not_mem_closeTag member

/-- A rule does not see the changes of a rule with the other marker. -/
theorem Rule.veiled_changes (known : IsMarker r.marker) (ignored : r.Ignores q.marker) (s : Text) :
    r.Veiled (q.changes s) := by
  have fenced : ∀ {tag places}, r.Overlooks tag → r.Veiled places → r.Veiled (q.fencePlaces tag ++ places) := by
    intro tag places overlooks veiled
    refine .block _ ⟨?_,?_⟩ ?_ veiled
    · rw [before_fencePlaces,fence_eq_cons]
      exact List.cons_ne_nil _ _
    · rw [before_fencePlaces]
      intro c member
      rwa [List.eq_of_mem_replicate member]
    · rwa [after_fencePlaces]
  unfold Rule.changes
  induction q.pieces s with
  | nil => exact .nil
  | cons piece pieces ih =>
    rw [List.flatMap_cons]
    cases piece with
    | plain c => exact ih.char c
    | span content =>
      rw [Rule.places,List.append_assoc,List.append_assoc]
      exact fenced (overlooks_openTag known _) ((fenced (overlooks_closeTag known) ih).append_stay content)

/-- Changes of different characters never meet in one place, so that it does not matter which of
    them are laid over the others. -/
theorem zipWith_overlay_comm {m m' : Char} (apart : m ≠ m') (same : before places = before places')
    (changed : ∀ p ∈ places, p.now = none ∨ p.was = m) (changed' : ∀ p ∈ places', p.now = none ∨ p.was = m') :
    List.zipWith overlay places places' = List.zipWith overlay places' places := by
  induction places generalizing places' with
  | nil => rw [List.zipWith_nil_left,List.zipWith_nil_right]
  | cons p places ih =>
    cases places' with
    | nil => rfl
    | cons p' places' =>
      obtain ⟨here,rest⟩ := List.cons.inj same
      obtain ⟨once,changed⟩ := List.forall_mem_cons.mp changed
      obtain ⟨once',changed'⟩ := List.forall_mem_cons.mp changed'
      rw [List.zipWith_cons_cons,List.zipWith_cons_cons,ih rest changed changed']
      congr 1
      obtain ⟨was,now⟩ := p
      obtain ⟨was',now'⟩ := p'
      cases here
      rcases once with rfl | rfl
      · simp [overlay]
      rcases once' with rfl | rfl
      · simp [overlay]
      · exact absurd rfl apart

/-- A rule does to a text with the changes of a rule with the other marker what it does to the
    text without them. -/
theorem Rule.apply_apply (known : IsMarker r.marker) (ignored : r.Ignores q.marker) (s : Text) :
    r.apply (q.apply s) = after (List.zipWith overlay (r.changes s) (q.changes s)) := by
  rw [← after_changes q s,apply_veiled (veiled_changes known ignored s),before_changes]

theorem Rule.apply_comm (asterisk : r.marker = '*') (underscore : q.marker = '_') (s : Text) :
    r.apply (q.apply s) = q.apply (r.apply s) := by
  have ignored : r.Ignores q.marker := by rw [Rule.Ignores,asterisk,underscore]; decide
  have ignored' : q.Ignores r.marker := by rw [Rule.Ignores,asterisk,underscore]; decide
  rw [apply_apply (.inl asterisk) ignored,apply_apply (.inr underscore) ignored',
    zipWith_overlay_comm ignored.1.symm ((before_changes r s).trans (before_changes q s).symm)
      (fun _ => now_eq_none_or_was) fun _ => now_eq_none_or_was]

/-! ### Families of rules -/

/-- The rules of one marker, from the longest fence to the shortest. -/
def family (marker : Char) : List Rule := [⟨marker,.boldItalic⟩,⟨marker,.bold⟩,⟨marker,.italic⟩]

/-- The order runs through both lists of rules, each of which stays in its own order. -/
inductive Interleaves : List Rule → List Rule → List Rule → Prop
  | done : Interleaves [] [] []
  | first {first second order : List Rule} (r : Rule) :
      Interleaves first second order → Interleaves (r :: first) second (r :: order)
  | second {first second order : List Rule} (r : Rule) :
      Interleaves first second order → Interleaves first (r :: second) (r :: order)

theorem applyEach_apply {order : List Rule} (comm : ∀ r ∈ order, ∀ s, r.apply (q.apply s) = q.apply (r.apply s))
    (s : Text) : applyEach order (q.apply s) = q.apply (applyEach order s) := by
  induction order generalizing s with
  | nil => rfl
  | cons r order ih =>
    obtain ⟨here,comm⟩ := List.forall_mem_cons.mp comm
    change applyEach order (r.apply (q.apply s)) = q.apply (applyEach order (r.apply s))
    rw [here,ih comm]

/-- Where the rules of two lists commute, either list may run as a whole before the other. -/
theorem Interleaves.applyEach {first second order : List Rule} (interleaves : Interleaves first second order)
    (comm : ∀ r ∈ first, ∀ q ∈ second, ∀ s, r.apply (q.apply s) = q.apply (r.apply s)) (s : Text) :
    applyEach order s = applyEach second (applyEach first s) := by
  induction interleaves generalizing s with
  | done => rfl
  | first r _ ih => exact ih (fun r member => comm r (List.mem_cons_of_mem _ member)) (r.apply s)
  | @second first second order q _ ih =>
    have later := ih (fun r member q inside => comm r member q (List.mem_cons_of_mem _ inside)) (q.apply s)
    rw [applyEach_apply fun r member => comm r member q List.mem_cons_self] at later
    exact later

theorem family_comm : ∀ r ∈ family '*', ∀ q ∈ family '_', ∀ s, r.apply (q.apply s) = q.apply (r.apply s) := by
  have marked : ∀ m, ∀ r ∈ family m, r.marker = m := by
    intro m r member
    simp only [family,List.mem_cons,List.not_mem_nil,or_false] at member
    rcases member with rfl | rfl | rfl <;> rfl
  exact fun r member q member' => Rule.apply_comm (marked _ r member) (marked _ q member')

theorem interleaves_rules : Interleaves (family '*') (family '_') rules :=
  .first _ (.second _ (.first _ (.second _ (.first _ (.second _ .done)))))

/-- A rule for asterisks and a rule for underscores commute on every text. So all emphasis is
    tagged also by the rules for asterisks followed by the rules for underscores, and by the rules
    in any order that goes from the longest fence to the shortest within either family. -/
theorem render_interleaved :
    (∀ (v w : Weight) (s : Text),
      (⟨'*',v⟩ : Rule).apply ((⟨'_',w⟩ : Rule).apply s) = (⟨'_',w⟩ : Rule).apply ((⟨'*',v⟩ : Rule).apply s)) ∧
      (∀ s, render s = applyEach (family '_') (applyEach (family '*') s)) ∧
      ∀ order, Interleaves (family '*') (family '_') order → ∀ s, applyEach order s = render s := by
  have whole : ∀ s, render s = applyEach (family '_') (applyEach (family '*') s) :=
    interleaves_rules.applyEach family_comm
  refine ⟨fun v w => Rule.apply_comm rfl rfl,whole,fun order interleaves s => ?_⟩
  rw [whole,interleaves.applyEach family_comm]

/-- Spans of both markers may overlap without one being inside the other. -/
theorem render_interleaved_overlapping :
    Interleaves (family '*') (family '_') (family '_' ++ family '*') ∧
      applyEach (family '_' ++ family '*') "a *b _c* d_".toList = render "a *b _c* d_".toList ∧
      render "a *b _c* d_".toList =
        "a <span class=\"cw-italic\">b <span class=\"cw-italic\">c</span> d</span>".toList := by
  have interleaves : Interleaves (family '*') (family '_') (family '_' ++ family '*') :=
    .second _ (.second _ (.second _ (.first _ (.first _ (.first _ .done)))))
  exact ⟨interleaves,render_interleaved.2.2 _ interleaves _,by decide +kernel⟩

end

end Crossword.Emphasis

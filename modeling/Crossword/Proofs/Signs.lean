import Crossword.Proofs.Fencing

/-!
Tagged text read sign by sign: a sign is one of the four tags or a single character. A text in
which every `<` belongs to a tag has just one spelling in signs, and reading it from left to right
finds that one (`signs_spell`). A rule of emphasis never cuts a tag in two, so that what it does to
a text it does to the signs: fences go, tags come, and all other signs stay (`Rule.exists_tags`).
-/
namespace Crossword.Emphasis

/-- A sign of tagged text. -/
inductive Sign where
  | opening (w : Weight)
  | closing
  | letter (c : Char)
  deriving DecidableEq

/-- The text of a sign. -/
def Sign.text : Sign → Text
  | .opening w => w.openTag
  | .closing => closeTag
  | .letter c => [c]

/-- The signs that are tags. -/
def Sign.tags : List Sign := [.opening .boldItalic,.opening .bold,.opening .italic,.closing]

/-- The text of a sequence of signs. -/
def spell (signs : List Sign) : Text := signs.flatMap Sign.text

/-- A text read from left to right: a tag where one stands, and a single character elsewhere. -/
def signs : Text → List Sign
  | [] => []
  | c :: rest =>
    match Sign.tags.find? (fun tag => tag.text.isPrefixOf (c :: rest)) with
    | some tag => tag :: signs (rest.drop (tag.text.length - 1))
    | none => .letter c :: signs rest
termination_by s => s.length

/-- No sign but a tag begins with `<`. -/
def Clean (signs : List Sign) : Prop := .letter '<' ∉ signs

/-- Whether a piece is a span. -/
def Piece.isSpan : Piece → Bool
  | .plain _ => false
  | .span _ => true

/-- The number of tag pairs that the rule puts into a text. -/
def Rule.pairs (r : Rule) (s : Text) : Nat := (r.pieces s).countP Piece.isSpan

/-- The rule puts so many tag pairs into the first sequence of signs and makes it the second: each
    pair takes the place of two fences, and all other signs stay. -/
inductive Rule.Tags (r : Rule) : List Sign → List Sign → Nat → Prop
  | done : r.Tags [] [] 0
  | sign {old new : List Sign} {n : Nat} (x : Sign) : r.Tags old new n → r.Tags (x :: old) (x :: new) n
  | span {old new : List Sign} {n : Nat} (content : List Sign) : r.Tags old new n →
      r.Tags (r.fence.map .letter ++ (content ++ (r.fence.map .letter ++ old)))
        (.opening r.weight :: (content ++ .closing :: new)) (n + 1)

section
variable {r : Rule} {s rest front back content after : Text} {c d m : Char} {old new : List Sign} {n : Nat}

@[simp]
theorem spell_nil : spell [] = [] := rfl

@[simp]
theorem spell_cons (x : Sign) (signs : List Sign) : spell (x :: signs) = x.text ++ spell signs := rfl

@[simp]
theorem spell_append (signs signs' : List Sign) : spell (signs ++ signs') = spell signs ++ spell signs' :=
  List.flatMap_append

@[simp]
theorem spell_letters (s : Text) : spell (s.map .letter) = s := by
  rw [spell,List.flatMap_map]
  exact List.flatMap_singleton' s

/-! ### Reading signs -/

/-- A tag begins with the one `<` that it has. -/
theorem exists_tail_of_mem_tags {tag : Sign} (member : tag ∈ Sign.tags) :
    ∃ tail, tag.text = '<' :: tail ∧ '<' ∉ tail := by
  simp only [Sign.tags,List.mem_cons,List.not_mem_nil,or_false] at member
  rcases member with rfl | rfl | rfl | rfl
  all_goals exact ⟨_,rfl,by decide⟩

theorem mem_tags_or_letter (x : Sign) : x ∈ Sign.tags ∨ ∃ c, x = .letter c := by
  cases x with
  | opening w => cases w <;> exact .inl (by decide)
  | closing => exact .inl (by decide)
  | letter c => exact .inr ⟨c,rfl⟩

theorem signs_letter (other : c ≠ '<') (rest : Text) : signs (c :: rest) = .letter c :: signs rest := by
  have no_tag : Sign.tags.find? (fun tag => tag.text.isPrefixOf (c :: rest)) = none := by
    rw [List.find?_eq_none]
    intro tag member
    obtain ⟨tail,text,-⟩ := exists_tail_of_mem_tags member
    rw [text,List.isPrefixOf_cons_cons,Bool.and_eq_true,not_and]
    exact fun same => absurd (eq_of_beq same).symm other
  rw [signs,no_tag]

theorem signs_tag {tag : Sign} (member : tag ∈ Sign.tags) (rest : Text) :
    signs (tag.text ++ rest) = tag :: signs rest := by
  have found : Sign.tags.find? (fun other => other.text.isPrefixOf (tag.text ++ rest)) = some tag := by
    simp only [Sign.tags,List.mem_cons,List.not_mem_nil,or_false] at member
    rcases member with rfl | rfl | rfl | rfl <;> rfl
  obtain ⟨tail,text,-⟩ := exists_tail_of_mem_tags member
  rw [text] at found ⊢
  rw [List.cons_append] at found ⊢
  rw [signs,found]
  simp [text]

/-- Reading finds the signs that a text is spelled with, if only tags have a `<`. -/
theorem signs_spell (clean : Clean old) : signs (spell old) = old := by
  induction old with
  | nil => rw [spell_nil,signs]
  | cons x old ih =>
    obtain ⟨other,others⟩ := not_or.mp (mt List.mem_cons.mpr clean)
    rw [spell_cons]
    rcases mem_tags_or_letter x with tag | ⟨c,rfl⟩
    · rw [signs_tag tag,ih others]
    · have here : c ≠ '<' := fun same => other (congrArg Sign.letter same.symm)
      change signs (c :: spell old) = _
      rw [signs_letter here,ih others]

theorem ne_of_mem_tag {tag : Sign} (known : IsMarker m) (member : tag ∈ Sign.tags) : ∀ c ∈ tag.text, c ≠ m := by
  rintro c inside rfl
  cases tag with
  | opening w => exact known.not_mem_openTag w inside
  | closing => exact known.not_mem_closeTag inside
  | letter d => simp [Sign.tags] at member

/-! ### Cutting a text between signs -/

theorem front_eq_nil (text : [c] = front ++ d :: back) : front = [] := by
  cases front with
  | nil => rfl
  | cons e front =>
    exact absurd (List.cons.inj text).2.symm (List.append_ne_nil_of_right_ne_nil _ (List.cons_ne_nil _ _))

/-- A character that signs only begin with stands at the front of a sign wherever it stands. -/
theorem exists_signs_of_spell (leads : ∀ x ∈ old, ∀ u v, x.text = u ++ d :: v → u = [])
    (text : spell old = front ++ d :: back) :
    ∃ before behind, old = before ++ behind ∧ spell before = front ∧ spell behind = d :: back := by
  induction old generalizing front with
  | nil => exact absurd text.symm (List.append_ne_nil_of_right_ne_nil _ (List.cons_ne_nil _ _))
  | cons x old ih =>
    obtain ⟨here,leads⟩ := List.forall_mem_cons.mp leads
    rcases List.append_eq_append_iff.mp text with ⟨more,rfl,inside⟩ | ⟨more,split,ends⟩
    · obtain ⟨before,behind,rfl,spelled,found⟩ := ih leads inside
      exact ⟨x :: before,behind,rfl,by rw [spell_cons,spelled],found⟩
    · cases more with
      | nil =>
        rw [List.append_nil] at split
        exact ⟨[x],old,rfl,by rw [spell_cons,split,spell_nil,List.append_nil],ends.symm⟩
      | cons e more =>
        obtain ⟨rfl,-⟩ := List.cons.inj ends
        obtain rfl := here front more split
        exact ⟨[],x :: old,rfl,rfl,text⟩

/-- In signs of which only tags have a `<`, each `<` begins a tag. -/
theorem Clean.exists_tag (clean : Clean old) (text : spell old = front ++ '<' :: back) :
    ∃ before tag behind, old = before ++ tag :: behind ∧ tag ∈ Sign.tags ∧ spell before = front ∧
      tag.text ++ spell behind = '<' :: back := by
  have leads : ∀ x ∈ old, ∀ u v, x.text = u ++ '<' :: v → u = [] := by
    intro x member u v text
    rcases mem_tags_or_letter x with tag | ⟨c,rfl⟩
    · obtain ⟨tail,first,single⟩ := exists_tail_of_mem_tags tag
      cases u with
      | nil => rfl
      | cons c u =>
        rw [first] at text
        have inside : '<' ∈ tail := by
          rw [(List.cons.inj text).2]
          exact List.mem_append_right _ List.mem_cons_self
        exact absurd inside single
    · exact front_eq_nil text
  obtain ⟨before,behind,rfl,spelled,found⟩ := exists_signs_of_spell leads text
  cases behind with
  | nil => cases found
  | cons x behind =>
    refine ⟨before,x,behind,rfl,?_,spelled,found⟩
    rcases mem_tags_or_letter x with tag | ⟨c,rfl⟩
    · exact tag
    · obtain ⟨rfl,-⟩ := List.cons.inj found
      exact absurd (List.mem_append_right _ List.mem_cons_self) clean

/-- A marker is a sign of its own. -/
theorem leads_of_marker (known : IsMarker m) (x : Sign) {u v : Text} (text : x.text = u ++ m :: v) : u = [] := by
  have inside : m ∈ x.text := by
    rw [text]
    exact List.mem_append_right _ List.mem_cons_self
  cases x with
  | opening w => exact absurd inside (known.not_mem_openTag w)
  | closing => exact absurd inside known.not_mem_closeTag
  | letter c => exact front_eq_nil text

/-- A run of markers at the front of a text is a run of letters. -/
theorem exists_behind_markers (known : IsMarker m) (text : spell old = List.replicate n m ++ rest) :
    ∃ behind, old = (List.replicate n m).map .letter ++ behind ∧ spell behind = rest := by
  induction n generalizing old with
  | zero => exact ⟨old,rfl,text⟩
  | succ n ih =>
    cases old with
    | nil => cases text
    | cons x old =>
      rcases mem_tags_or_letter x with tag | ⟨c,rfl⟩
      · obtain ⟨tail,first,-⟩ := exists_tail_of_mem_tags tag
        have other : '<' ≠ m := ne_of_mem_tag known tag _ (by rw [first]; exact List.mem_cons_self)
        rw [spell_cons,first] at text
        exact absurd (List.cons.inj text).1 other
      · obtain ⟨rfl,more⟩ := List.cons.inj text
        obtain ⟨behind,rfl,spelled⟩ := ih more
        exact ⟨behind,rfl,spelled⟩

/-- A span of the text is a span of the signs: its fences are letters, and its content is made of
    whole signs. -/
theorem Rule.Begins.exists_signs (known : IsMarker r.marker) (begins : r.Begins (spell old) content after) :
    ∃ inner behind, old = r.fence.map .letter ++ (inner ++ (r.fence.map .letter ++ behind)) ∧
      spell inner = content ∧ spell behind = after := by
  obtain ⟨body,rfl,text⟩ := exists_behind_markers known begins.text
  have closing : spell body = content ++ r.marker :: (List.replicate (r.weight.size - 1) r.marker ++ after) := by
    rw [text,fence_eq_cons]
    rfl
  obtain ⟨inner,rest,rfl,spelled,fenced⟩ := exists_signs_of_spell (fun x _ _ _ => leads_of_marker known x) closing
  have fence : spell rest = r.fence ++ after := by
    rw [fenced,fence_eq_cons]
    rfl
  obtain ⟨behind,rfl,ends⟩ := exists_behind_markers known fence
  exact ⟨inner,behind,rfl,spelled,ends⟩

/-! ### A rule on signs -/

theorem Rule.pairs_of_span? (found : r.span? s = some (content,after)) : r.pairs s = r.pairs after + 1 := by
  rw [Rule.pairs,pieces_of_span? found,List.countP_cons_of_pos rfl]
  rfl

theorem Rule.pairs_cons (none_found : r.span? (c :: rest) = none) : r.pairs (c :: rest) = r.pairs rest := by
  rw [Rule.pairs,pieces_cons none_found,List.countP_cons_of_neg Bool.false_ne_true]
  rfl

theorem Rule.pairs_unmarked (unmarked : ∀ c ∈ s, c ≠ r.marker) (rest : Text) :
    r.pairs (s ++ rest) = r.pairs rest := by
  induction s with
  | nil => rfl
  | cons c s ih =>
    obtain ⟨other,unmarked⟩ := List.forall_mem_cons.mp unmarked
    rw [List.cons_append,pairs_cons (span?_cons other),ih unmarked]

/-- What a rule makes of spelled signs is spelled by the signs with tag pairs for fences. -/
theorem Rule.exists_tags (known : IsMarker r.marker) (old : List Sign) :
    ∃ new, r.apply (spell old) = spell new ∧ r.Tags old new (r.pairs (spell old)) := by
  -- The induction is on the length: behind a span the signs go on shorter.
  induction length : old.length using Nat.strongRecOn generalizing old with
  | ind n ih =>
  subst length
  cases found : r.span? (spell old) with
  | some pair =>
    obtain ⟨content,after⟩ := pair
    obtain ⟨inner,behind,rfl,rfl,rfl⟩ := (begins_of_span? found).exists_signs known
    have shorter :
        behind.length < (r.fence.map Sign.letter ++ (inner ++ (r.fence.map Sign.letter ++ behind))).length := by
      simp only [List.length_append,List.length_map,Rule.fence_eq_cons,List.length_cons]
      omega
    obtain ⟨new,applied,tags⟩ := ih _ shorter behind rfl
    refine ⟨.opening r.weight :: (inner ++ .closing :: new),?_,?_⟩
    · rw [apply_of_span? found,applied]
      simp [Sign.text]
    · rw [pairs_of_span? found]
      exact tags.span inner
  | none =>
    cases old with
    | nil => exact ⟨[],apply_nil r,by rw [spell_nil,Rule.pairs,pieces_nil]; exact .done⟩
    | cons x old =>
      obtain ⟨new,applied,tags⟩ := ih _ (Nat.lt_succ_self _) old rfl
      refine ⟨x :: new,?_⟩
      rcases mem_tags_or_letter x with tag | ⟨c,rfl⟩
      · have unmarked := ne_of_mem_tag known tag
        rw [spell_cons,apply_unmarked unmarked,pairs_unmarked unmarked,applied]
        exact ⟨rfl,tags.sign x⟩
      · have none_here : r.span? (c :: spell old) = none := found
        change r.apply (c :: spell old) = _ ∧ r.Tags _ _ (r.pairs (c :: spell old))
        rw [apply_cons none_here,pairs_cons none_here,applied]
        exact ⟨rfl,tags.sign _⟩

end

end Crossword.Emphasis

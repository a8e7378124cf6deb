import Crossword.Proofs.Signs

/-!
What tagging keeps. Each rule puts its tags in pairs around whole signs, so that the tags of a
rendered text are balanced and none of them ends up inside another (`render_balanced`). All that
goes are fences, two for every pair of tags: without its tags the rendered text is the given one
less these markers (`render_loses_fences`).
-/
namespace Crossword.Emphasis

/-- How far a sign leads into spans: an opening tag one further, a closing tag one back. -/
def Sign.step : Sign → Int
  | .opening _ => 1
  | .closing => -1
  | .letter _ => 0

/-- The number of spans that are open behind the signs. -/
def depth : List Sign → Int
  | [] => 0
  | x :: signs => x.step + depth signs

/-- The character that a sign stands for, if it is no tag. -/
def Sign.letter? : Sign → Option Char
  | .letter c => some c
  | _ => none

/-- The signs without the tags. -/
def letters (signs : List Sign) : Text := signs.filterMap Sign.letter?

/-- A text without the tags in it. -/
def untagged (s : Text) : Text := letters (signs s)

/-- The tag pairs that rules put into a text as they run one after the other, each given by its
    rule. -/
def inserted : List Rule → Text → List Rule
  | [], _ => []
  | r :: order, s => List.replicate (r.pairs s) r ++ inserted order (r.apply s)

/-- How often the character stands in the fences that tag pairs have taken the place of: two
    fences to a pair. -/
def fenceMarkers (c : Char) : List Rule → Nat
  | [] => 0
  | r :: pairs => (if r.marker = c then 2 * r.fence.length else 0) + fenceMarkers c pairs

/-- Rules for asterisks or underscores have run one after the other over the signs, and these are
    their tag pairs. -/
inductive Passes : List Sign → List Sign → List Rule → Prop
  | done (signs : List Sign) : Passes signs signs []
  | pass {r : Rule} {old between new : List Sign} {n : Nat} {pairs : List Rule} : IsMarker r.marker →
      r.Tags old between n → Passes between new pairs → Passes old new (List.replicate n r ++ pairs)

section
variable {r : Rule} {s : Text} {c : Char} {old between new : List Sign} {n : Nat} {order pairs : List Rule}

theorem exists_passes (known : ∀ r ∈ order, IsMarker r.marker) (old : List Sign) :
    ∃ new, applyEach order (spell old) = spell new ∧ Passes old new (inserted order (spell old)) := by
  induction order generalizing old with
  | nil => exact ⟨old,rfl,.done old⟩
  | cons r order ih =>
    obtain ⟨here,known⟩ := List.forall_mem_cons.mp known
    obtain ⟨between,applied,tags⟩ := r.exists_tags here old
    obtain ⟨new,run,passes⟩ := ih known between
    refine ⟨new,?_,?_⟩
    · change applyEach order (r.apply (spell old)) = spell new
      rw [applied,run]
    · rw [inserted,applied]
      exact .pass here tags passes

theorem rules_known : ∀ r ∈ rules, IsMarker r.marker := by decide

/-! ### Letters -/

theorem Rule.Tags.mem_of_letter (tags : r.Tags old new n) (member : .letter c ∈ new) : .letter c ∈ old := by
  induction tags with
  | done => exact member
  | sign x _ ih =>
    rcases List.mem_cons.mp member with rfl | member
    · exact List.mem_cons_self
    · exact List.mem_cons_of_mem _ (ih member)
  | span content _ ih =>
    rcases List.mem_cons.mp member with same | member
    · cases same
    rcases List.mem_append.mp member with inside | member
    · exact List.mem_append_right _ (List.mem_append_left _ inside)
    rcases List.mem_cons.mp member with same | member
    · cases same
    · exact List.mem_append_right _ (List.mem_append_right _ (List.mem_append_right _ (ih member)))

theorem Passes.clean (passes : Passes old new pairs) (clean : Clean old) : Clean new := by
  induction passes with
  | done => exact clean
  | pass _ tags _ ih => exact ih fun member => clean (tags.mem_of_letter member)

/-- A text without `<` is rendered to signs of which only tags have one. -/
theorem exists_rendered (plain : '<' ∉ s) :
    ∃ new, render s = spell new ∧ signs (render s) = new ∧ Clean new ∧
      Passes (s.map .letter) new (inserted rules s) := by
  obtain ⟨new,run,passes⟩ := exists_passes rules_known (s.map .letter)
  rw [spell_letters] at run passes
  have clean : Clean new := by
    refine passes.clean fun member => ?_
    obtain ⟨c,inside,same⟩ := List.mem_map.mp member
    cases same
    exact plain inside
  have rendered : render s = spell new := run
  exact ⟨new,rendered,by rw [rendered,signs_spell clean],clean,passes⟩

/-! ### Depth -/

theorem depth_append (signs signs' : List Sign) : depth (signs ++ signs') = depth signs + depth signs' := by
  induction signs with
  | nil => rw [List.nil_append,depth,Int.zero_add]
  | cons x signs ih => rw [List.cons_append,depth,depth,ih,Int.add_assoc]

theorem depth_letters (s : Text) : depth (s.map .letter) = 0 := by
  induction s with
  | nil => rfl
  | cons c s ih => rw [List.map_cons,depth,ih]; rfl

/-- The second sequence of signs leads no further out than the first: none of its fronts does, and
    both end at the same depth. -/
structure Within (old new : List Sign) : Prop where
  fronts : ∀ front, front <+: new → ∃ front', front' <+: old ∧ depth front' ≤ depth front
  ends : depth new = depth old

theorem Within.trans (one : Within old between) (other : Within between new) : Within old new := by
  refine ⟨fun front leads => ?_,other.ends.trans one.ends⟩
  obtain ⟨front',leads',lower⟩ := other.fronts front leads
  obtain ⟨front'',leads'',lower'⟩ := one.fronts front' leads'
  exact ⟨front'',leads'',Int.le_trans lower' lower⟩

/-- A rule opens and closes each of its spans around signs that were there. -/
theorem Rule.Tags.within (tags : r.Tags old new n) : Within old new := by
  induction tags with
  | done => exact ⟨fun front leads => ⟨front,leads,Int.le_refl _⟩,rfl⟩
  | sign x _ ih =>
    refine ⟨fun front leads => ?_,congrArg (x.step + ·) ih.ends⟩
    rcases List.prefix_cons_iff.mp leads with rfl | ⟨front,rfl,more⟩
    · exact ⟨[],List.nil_prefix,Int.le_refl _⟩
    · obtain ⟨front',leads',lower⟩ := ih.fronts front more
      exact ⟨x :: front',List.cons_prefix_cons.mpr ⟨rfl,leads'⟩,Int.add_le_add_left lower x.step⟩
  | @span old new n content _ ih =>
    have fence := depth_letters r.fence
    refine ⟨fun front leads => ?_,?_⟩
    · rcases List.prefix_cons_iff.mp leads with rfl | ⟨front,rfl,opened⟩
      · exact ⟨[],List.nil_prefix,Int.le_refl _⟩
      rcases List.prefix_or_prefix_of_prefix opened (List.prefix_append content _) with inside | ⟨more,rfl⟩
      · -- The front ends within the content, which lay one span further out before.
        have leads' := inside.trans (List.prefix_append content (r.fence.map .letter ++ old))
        refine ⟨r.fence.map .letter ++ front,(List.prefix_append_right_inj _).mpr leads',?_⟩
        simp only [depth_append,depth,fence,Sign.step]
        omega
      rcases List.prefix_cons_iff.mp ((List.prefix_append_right_inj content).mp opened) with rfl | ⟨front,rfl,closed⟩
      · refine ⟨r.fence.map .letter ++ content,(List.prefix_append_right_inj _).mpr (List.prefix_append _ _),?_⟩
        simp only [depth_append,depth,fence,Sign.step]
        omega
      · -- Behind the closing tag the fronts go on as they do without the span.
        obtain ⟨front',leads',lower⟩ := ih.fronts front closed
        refine ⟨r.fence.map .letter ++ (content ++ (r.fence.map .letter ++ front')),?_,?_⟩
        · simpa only [List.prefix_append_right_inj] using leads'
        · simp only [depth_append,depth,fence,Sign.step]
          omega
    · simp only [depth_append,depth,fence,ih.ends,Sign.step]
      omega

theorem Passes.within (passes : Passes old new pairs) : Within old new := by
  induction passes with
  | done => exact ⟨fun front leads => ⟨front,leads,Int.le_refl _⟩,rfl⟩
  | pass _ tags _ ih => exact tags.within.trans ih

/-- In what is rendered from a text without `<` the tags are balanced: from left to right no more
    of them close than have opened, and in the end all are closed. No tag is inside another, as
    every `<` begins a tag of its own. -/
theorem render_balanced (s : Text) (plain : '<' ∉ s) :
    (∀ front, front <+: signs (render s) → 0 ≤ depth front) ∧ depth (signs (render s)) = 0 ∧
      ∀ front back, render s = front ++ '<' :: back → ∃ before tag behind,
        signs (render s) = before ++ tag :: behind ∧ tag ∈ Sign.tags ∧ spell before = front ∧
          tag.text ++ spell behind = '<' :: back := by
  obtain ⟨new,rendered,read,clean,passes⟩ := exists_rendered plain
  rw [read]
  refine ⟨fun front leads => ?_,?_,fun front back text => ?_⟩
  · obtain ⟨front',⟨more,leads'⟩,lower⟩ := passes.within.fronts front leads
    obtain ⟨t,u,-,rfl,-⟩ := List.map_eq_append_iff.mp leads'.symm
    rwa [depth_letters] at lower
  · rw [passes.within.ends,depth_letters]
  · exact clean.exists_tag (rendered.symm.trans text)

/-- The tags of overlapping spans are balanced too. -/
theorem render_balanced_overlapping : '<' ∉ "**a *b** c*".toList ∧ depth (signs (render "**a *b** c*".toList)) = 0 ∧
    render "**a *b** c*".toList = "<span class=\"cw-bold\">a <span class=\"cw-italic\">b</span> c</span>".toList :=
  ⟨by decide,(render_balanced _ (by decide)).2.1,by decide +kernel⟩

/-! ### What is lost -/

@[simp]
theorem letters_append (signs signs' : List Sign) : letters (signs ++ signs') = letters signs ++ letters signs' :=
  List.filterMap_append

@[simp]
theorem letters_letters (s : Text) : letters (s.map .letter) = s := by
  rw [letters,List.filterMap_map]
  exact List.filterMap_some

theorem count_letters (s : Text) (tag : Sign) (other : ∀ c, tag ≠ .letter c) : (s.map Sign.letter).count tag = 0 := by
  rw [List.count_eq_zero]
  intro member
  obtain ⟨c,-,same⟩ := List.mem_map.mp member
  exact other c same.symm

theorem fenceMarkers_append (c : Char) (pairs pairs' : List Rule) :
    fenceMarkers c (pairs ++ pairs') = fenceMarkers c pairs + fenceMarkers c pairs' := by
  induction pairs with
  | nil => rw [List.nil_append,fenceMarkers,Nat.zero_add]
  | cons r pairs ih => rw [List.cons_append,fenceMarkers,fenceMarkers,ih,Nat.add_assoc]

/-- From the first signs to the second some markers go and these tag pairs come, with which all
    that is different can be accounted for. -/
structure Accounts (old new : List Sign) (pairs : List Rule) : Prop where
  sublist : (letters new).Sublist (letters old)
  others : (letters new).filter (fun c => ¬ IsMarker c) = (letters old).filter (fun c => ¬ IsMarker c)
  count : ∀ c, (letters old).count c = (letters new).count c + fenceMarkers c pairs
  openings : ∀ w, new.count (.opening w) = old.count (.opening w) + pairs.countP (·.weight = w)
  closings : new.count .closing = old.count .closing + pairs.length

theorem Accounts.refl (signs : List Sign) : Accounts signs signs [] where
  sublist := List.Sublist.refl _
  others := rfl
  count _ := rfl
  openings _ := rfl
  closings := rfl

theorem Accounts.trans {pairs' : List Rule} (one : Accounts old between pairs) (other : Accounts between new pairs') :
    Accounts old new (pairs ++ pairs') where
  sublist := other.sublist.trans one.sublist
  others := other.others.trans one.others
  count c := by rw [one.count,other.count,fenceMarkers_append]; omega
  openings w := by rw [other.openings,one.openings,List.countP_append]; omega
  closings := by rw [other.closings,one.closings,List.length_append]; omega

theorem Accounts.sign (accounts : Accounts old new pairs) (x : Sign) : Accounts (x :: old) (x :: new) pairs := by
  have split : ∀ signs, letters (x :: signs) = letters [x] ++ letters signs := fun signs => letters_append [x] signs
  refine ⟨?_,?_,fun c => ?_,fun w => ?_,?_⟩
  · rw [split old,split new]
    exact accounts.sublist.append_left _
  · rw [split old,split new,List.filter_append,List.filter_append,accounts.others]
  · rw [split old,split new,List.count_append,List.count_append,accounts.count]
    omega
  · rw [List.count_cons,List.count_cons,accounts.openings]
    omega
  · rw [List.count_cons,List.count_cons,accounts.closings]
    omega

theorem Accounts.span (known : IsMarker r.marker) (accounts : Accounts old new pairs) (content : List Sign) :
    Accounts (r.fence.map .letter ++ (content ++ (r.fence.map .letter ++ old)))
      (.opening r.weight :: (content ++ .closing :: new)) (r :: pairs) := by
  have before : letters (r.fence.map .letter ++ (content ++ (r.fence.map .letter ++ old))) =
      r.fence ++ (letters content ++ (r.fence ++ letters old)) := by simp
  have behind : letters (.opening r.weight :: (content ++ .closing :: new)) = letters content ++ letters new :=
    letters_append content (.closing :: new)
  refine ⟨?_,?_,fun c => ?_,fun w => ?_,?_⟩
  · rw [before,behind]
    exact ((accounts.sublist.trans (List.sublist_append_right _ _)).append_left _).trans (List.sublist_append_right _ _)
  · have fence : r.fence.filter (fun c => ¬ IsMarker c) = [] := by
      rw [List.filter_eq_nil_iff]
      intro c member
      rw [List.eq_of_mem_replicate member]
      simpa using known
    rw [before,behind]
    simp only [List.filter_append,fence,List.nil_append,accounts.others]
  · have fence : r.fence.count c = if r.marker = c then r.fence.length else 0 := by
      rw [Rule.fence,List.count_replicate,List.length_replicate]
      simp only [beq_iff_eq]
    rw [before,behind]
    simp only [List.count_append,fence,accounts.count,fenceMarkers]
    split <;> omega
  · have fence := count_letters r.fence (.opening w) fun _ => Sign.noConfusion
    simp only [List.count_append,List.count_cons,fence,accounts.openings,List.countP_cons,beq_iff_eq,Sign.opening.injEq,
      reduceCtorEq,if_false,decide_eq_true_eq]
    omega
  · have fence := count_letters r.fence .closing fun _ => Sign.noConfusion
    simp only [List.count_append,List.count_cons,fence,accounts.closings,List.length_cons,beq_iff_eq,reduceCtorEq,
      if_true,if_false]
    omega

theorem Rule.Tags.accounts (known : IsMarker r.marker) (tags : r.Tags old new n) :
    Accounts old new (List.replicate n r) := by
  induction tags with
  | done => exact .refl []
  | sign x _ ih => exact ih.sign x
  | span content _ ih => exact ih.span known content

theorem Passes.accounts (passes : Passes old new pairs) : Accounts old new pairs := by
  induction passes with
  | done signs => exact .refl signs
  | pass known tags _ ih => exact (tags.accounts known).trans ih

/-- Without its tags what is rendered from a text without `<` is this text with some asterisks and
    underscores left out and nothing else changed. Of either marker so many are left out as stand
    in the fences of the tag pairs that the rules put in, and these pairs are all the tags there
    are. -/
theorem render_loses_fences (s : Text) (plain : '<' ∉ s) :
    (untagged (render s)).Sublist s ∧
      (untagged (render s)).filter (fun c => ¬ IsMarker c) = s.filter (fun c => ¬ IsMarker c) ∧
      (∀ c, s.count c = (untagged (render s)).count c + fenceMarkers c (inserted rules s)) ∧
      (∀ w, (signs (render s)).count (.opening w) = (inserted rules s).countP (·.weight = w)) ∧
      (signs (render s)).count .closing = (inserted rules s).length := by
  obtain ⟨new,-,read,-,passes⟩ := exists_rendered plain
  obtain ⟨sublist,others,count,openings,closings⟩ := passes.accounts
  rw [letters_letters] at sublist others count
  rw [untagged,read]
  refine ⟨sublist,others,count,fun w => ?_,?_⟩
  · rw [openings,count_letters s _ fun _ => Sign.noConfusion,Nat.zero_add]
  · rw [closings,count_letters s _ fun _ => Sign.noConfusion,Nat.zero_add]

/-- Markers that fence nothing stay. -/
theorem render_loses_unpaired : '<' ∉ "***a* _b*".toList ∧ untagged (render "***a* _b*".toList) = "**a _b*".toList ∧
    "***a* _b*".toList.count '*' = (untagged (render "***a* _b*".toList)).count '*' + 2 := by
  have pairs : fenceMarkers '*' (inserted rules "***a* _b*".toList) = 2 := by decide +kernel
  refine ⟨by decide,by decide +kernel,?_⟩
  rw [← pairs]
  exact (render_loses_fences _ (by decide)).2.2.1 '*'

end

end Crossword.Emphasis

import Crossword.Enumeration
import Crossword.Proofs.Scanning

/-!
The texts that are enumerations. An enumeration may be laid out in many ways (`Layout`): with
white space before it, with leading zeros, and with any run of separators after a word. Reading
accepts just these texts, each of which is laid out in one way only, and of any other it leaves
what it stops at (`Stops`): a word that is missing or zero, a character that is no separator, or
marks with no word after them (`reads_just_enumerations`).
-/
namespace Crossword.Enumeration

/-! ### Layouts -/

/-- The length of a word as it stands in a text: a run of digits that is not zero. -/
@[ext]
structure Numeral where
  digits : Text
  all_digits : ∀ c ∈ digits, Text.isDigit c = true
  positive : 0 < Text.digitsValue digits

/-- A word before the last as it stands in a text: its length, and some separators after it. -/
@[ext]
structure Item extends Numeral where
  run : Text
  some_separator : run ≠ []
  separators : ∀ c ∈ run, isSeparator c = true

/-- What stands before a word: white space, and the words before it. -/
@[ext]
structure Lead where
  before : Text
  items : List Item
  spaces : ∀ c ∈ before, Unicode.isSpace c = true

/-- A text taken apart as an enumeration: the words before the last, the last one, and after it
    nothing but periods and white space. -/
@[ext]
structure Layout where
  lead : Lead
  last : Numeral
  ending : Text
  periods : ∀ c ∈ ending, c = '.' ∨ Unicode.isSpace c = true

/-- The text of a word and its separators. -/
def Item.text (i : Item) : Text := i.digits ++ i.run

/-- The word that stands so: after it are printed its separators without their white space, or
    a blank if they are nothing else. -/
def Item.word (i : Item) : Word :=
  ⟨Text.digitsValue i.digits,
    if i.run.all Unicode.isSpace then [' '] else i.run.filter fun c => !Unicode.isSpace c⟩

/-- The text before a word. -/
def Lead.text (l : Lead) : Text := l.before ++ l.items.flatMap Item.text

/-- The text that is laid out so. -/
def Layout.text (l : Layout) : Text := l.lead.text ++ (l.last.digits ++ l.ending)

/-- The words that are laid out so: after the last only its periods are printed. -/
def Layout.words (l : Layout) : List Word :=
  l.lead.items.map Item.word ++ [⟨Text.digitsValue l.last.digits,l.ending.filter (· == '.')⟩]

/-- A word should begin here: before the first one all white space is taken off, and before a
    later one all separators, after which something is left. -/
def Lead.Reaches (l : Lead) (s : Text) : Prop :=
  l.items = [] ∧ Breaks Unicode.isSpace s ∨ l.items ≠ [] ∧ s ≠ [] ∧ Breaks isSeparator s

/-- Reading the text as an enumeration stops at the residual. -/
inductive Stops (s residual : Text) : Prop
  /-- A word is missing or zero. -/
  | word (lead : Lead) : s = lead.text ++ residual → lead.Reaches residual →
      Text.digitsValue (residual.takeWhile Text.isDigit) = 0 → Stops s residual
  /-- A length is followed by a character that is no digit and no separator. -/
  | foreign (lead : Lead) (n : Numeral) (c : Char) (rest : Text) : s = lead.text ++ (n.digits ++ residual) →
      residual = c :: rest → Text.isDigit c = false → isSeparator c = false → Stops s residual
  /-- The text ends in separators that are more than periods and white space. -/
  | marks (lead : Lead) (n : Numeral) : s = lead.text ++ (n.digits ++ residual) →
      (∀ c ∈ residual, isSeparator c = true) → ',' ∈ residual ∨ '-' ∈ residual → Stops s residual

/-! ### Words -/

section
variable {n m : Numeral} {i : Item} {items items' : List Item} {lead : Lead} {l l' : Layout}
  {source run run' next rest rest' s residual clue : Text} {c : Char}

theorem isSeparator_of_isDigit (digit : Text.isDigit c = true) : isSeparator c = false := by
  obtain ⟨low,high⟩ := isDigit_iff.mp digit
  have other (d : Char) (outside : d.toNat < 48) : (c == d) = false :=
    beq_false_of_ne fun same => by rw [same] at low; omega
  simp [isSeparator,isSpace_of_isDigit digit,other ',' (by decide),other '-' (by decide),other '.' (by decide)]

theorem breaks_run (separators : ∀ c ∈ run, isSeparator c = true) : Breaks Text.isDigit run := by
  intro c first
  by_contra digit
  have separator := separators c (List.mem_of_head? first)
  rw [isSeparator_of_isDigit (by simpa using digit)] at separator
  cases separator

theorem Numeral.digits_ne_nil (n : Numeral) : n.digits ≠ [] := by
  intro none
  have positive := n.positive
  rw [none] at positive
  exact absurd positive (by decide)

theorem Numeral.breaks {kind : Char → Bool} (none : ∀ c, Text.isDigit c = true → kind c = false) :
    Breaks kind (n.digits ++ rest) :=
  Breaks.append (fun c first => none c (n.all_digits c (List.mem_of_head? first))) n.digits_ne_nil

theorem marks_eq_nil_iff : marks run = [] ↔ run.all Unicode.isSpace = true := by
  simp [marks]

theorem parting_eq (i : Item) : parting i.run = i.word.terminator := by
  simp only [parting,marks_eq_nil_iff,Item.word]
  rfl

/-- A word is read off its length and the separators after it. -/
theorem readWords_numeral (source : Text) (separators : ∀ c ∈ run, isSeparator c = true)
    (ends : Breaks Text.isDigit (run ++ next)) (breaks : Breaks isSeparator next) :
    readWords source (n.digits ++ (run ++ next)) =
      if next = [] then
        if (marks run).all (· == '.') then .ok [⟨Text.digitsValue n.digits,marks run⟩]
        else .error (.enumeration source (run ++ next))
      else if run = [] then .error (.enumeration source (run ++ next))
      else (readWords source next).map (⟨Text.digitsValue n.digits,parting run⟩ :: ·) := by
  rw [readWords]
  simp only [takeWhile_run n.all_digits ends,dropWhile_run n.all_digits ends,takeWhile_run separators breaks,
    dropWhile_run separators breaks,if_neg n.positive.ne']
  cases readWords source next <;> rfl

theorem readWords_item (some_next : next ≠ []) (breaks : Breaks isSeparator next) :
    readWords source (i.text ++ next) = (readWords source next).map (i.word :: ·) := by
  have ends : Breaks Text.isDigit (i.run ++ next) := (breaks_run i.separators).append i.some_separator
  rw [Item.text,List.append_assoc,readWords_numeral source i.separators ends breaks,if_neg some_next,
    if_neg i.some_separator,parting_eq]
  rfl

theorem Lead.reaches_numeral : lead.Reaches (n.digits ++ rest) := by
  by_cases first : lead.items = []
  · exact .inl ⟨first,Numeral.breaks fun _ => isSpace_of_isDigit⟩
  · exact .inr ⟨first,by simp [n.digits_ne_nil],Numeral.breaks fun _ => isSeparator_of_isDigit⟩

/-- Words begin with digits. -/
theorem breaks_items {kind : Char → Bool} (none : ∀ c, Text.isDigit c = true → kind c = false)
    (breaks : items = [] → Breaks kind next) : Breaks kind (items.flatMap Item.text ++ next) := by
  cases items with
  | nil => exact breaks rfl
  | cons i items =>
    rw [List.flatMap_cons,Item.text,List.append_assoc,List.append_assoc]
    exact Numeral.breaks none

/-- The words before a word are read one by one. -/
theorem readWords_items (reaches : items ≠ [] → next ≠ [] ∧ Breaks isSeparator next) :
    readWords source (items.flatMap Item.text ++ next) = (readWords source next).map (items.map Item.word ++ ·) := by
  induction items with
  | nil =>
    rw [List.flatMap_nil,List.nil_append]
    cases readWords source next <;> rfl
  | cons i items ih =>
    obtain ⟨some_next,breaks⟩ := reaches (List.cons_ne_nil _ _)
    have later : Breaks isSeparator (items.flatMap Item.text ++ next) :=
      breaks_items (fun _ => isSeparator_of_isDigit) fun _ => breaks
    rw [List.flatMap_cons,List.append_assoc,readWords_item (List.append_ne_nil_of_right_ne_nil _ some_next) later,
      ih fun _ => ⟨some_next,breaks⟩]
    cases readWords source next <;> rfl

/-! ### Reading -/

/-- Reading comes to what stands after the words in front. -/
theorem read_append (reaches : lead.Reaches s) :
    read (lead.text ++ s) clue =
      (readWords (reportedSource clue (lead.text ++ s)) s).map (lead.items.map Item.word ++ ·) := by
  have breaks : Breaks Unicode.isSpace (lead.items.flatMap Item.text ++ s) :=
    breaks_items (fun _ => isSpace_of_isDigit) fun first => (reaches.resolve_right fun later => later.1 first).2
  have start : Text.stripStart (lead.text ++ s) = lead.items.flatMap Item.text ++ s := by
    rw [Lead.text,List.append_assoc]
    exact dropWhile_run lead.spaces breaks
  rw [read,start,readWords_items fun later => (reaches.resolve_left fun first => later first.1).2]

theorem isSeparator_of_ending (l : Layout) (member : c ∈ l.ending) : isSeparator c = true := by
  rcases l.periods c member with rfl | space
  · decide
  · simp [isSeparator,space]

theorem marks_ending (l : Layout) : marks l.ending = l.ending.filter (· == '.') := by
  refine List.filter_congr fun c member => ?_
  rcases l.periods c member with rfl | space
  · decide
  · have other : c ≠ '.' := by
      rintro rfl
      exact absurd space (by decide)
    simp [space,other]

theorem read_layout (l : Layout) (clue : Text) : read l.text clue = .ok l.words := by
  have separators : ∀ c ∈ l.ending, isSeparator c = true := fun _ => isSeparator_of_ending l
  have ends : Breaks Text.isDigit (l.ending ++ []) := by
    rw [List.append_nil]
    exact breaks_run separators
  have periods : (marks l.ending).all (· == '.') = true := by simp [marks_ending]
  have last := readWords_numeral (n := l.last) (reportedSource clue l.text) separators ends breaks_nil
  rw [if_pos rfl,if_pos periods,List.append_nil,marks_ending] at last
  rw [Layout.text] at last ⊢
  rw [read_append Lead.reaches_numeral,last]
  rfl

theorem read_stops (stops : Stops s residual) :
    read s clue = .error (.enumeration (reportedSource clue s) residual) := by
  cases stops with
  | word lead whole reaches zero =>
    subst whole
    rw [read_append reaches,readWords]
    simp only [if_pos zero]
    rfl
  | foreign lead n c rest whole first digit separator =>
    subst whole first
    have breaks : Breaks isSeparator (c :: rest) := breaks_cons separator
    have ends : Breaks Text.isDigit ([] ++ c :: rest) := breaks_cons digit
    have stops := readWords_numeral (n := n) (reportedSource clue (lead.text ++ (n.digits ++ c :: rest)))
      (List.forall_mem_nil _) ends breaks
    rw [if_neg (List.cons_ne_nil _ _),if_pos rfl,List.nil_append] at stops
    rw [read_append Lead.reaches_numeral,stops]
    rfl
  | marks lead n whole separators mark =>
    subst whole
    have ends : Breaks Text.isDigit (residual ++ []) := by
      rw [List.append_nil]
      exact breaks_run separators
    have other : ¬ (marks residual).all (· == '.') = true := by
      intro all
      have period (c : Char) (member : c ∈ residual) (seen : Unicode.isSpace c = false) : c = '.' := by
        simpa using List.all_eq_true.mp all c (List.mem_filter.mpr ⟨member,by simp [seen]⟩)
      rcases mark with comma | hyphen
      · exact absurd (period ',' comma (by decide)) (by decide)
      · exact absurd (period '-' hyphen (by decide)) (by decide)
    have stops := readWords_numeral (n := n) (reportedSource clue (lead.text ++ (n.digits ++ residual))) separators ends
      breaks_nil
    rw [if_pos rfl,if_neg other,List.append_nil] at stops
    rw [read_append Lead.reaches_numeral,stops]
    rfl

/-! ### Layout or stop -/

/-- The lead with one more word. -/
def Lead.concat (l : Lead) (i : Item) : Lead where
  before := l.before
  items := l.items ++ [i]
  spaces := l.spaces

theorem Lead.text_concat (l : Lead) (i : Item) : (l.concat i).text = l.text ++ i.text := by
  simp [text,concat]

theorem exists_layout (lead : Lead) (n : Numeral) (separators : ∀ c ∈ run, isSeparator c = true)
    (plain : ¬ (',' ∈ run ∨ '-' ∈ run)) : ∃ l : Layout, l.text = lead.text ++ (n.digits ++ run) := by
  refine ⟨⟨lead,n,run,fun c member => ?_⟩,rfl⟩
  rw [not_or] at plain
  have comma : c ≠ ',' := fun same => plain.1 (same ▸ member)
  have hyphen : c ≠ '-' := fun same => plain.2 (same ▸ member)
  simpa [isSeparator,comma,hyphen] using separators c member

/-- Where a word should begin, the text either goes on to the end of an enumeration or is
    stopped at. -/
theorem layout_or_stops_from (lead : Lead) (s : Text) (reaches : lead.Reaches s) :
    (∃ l : Layout, l.text = lead.text ++ s) ∨ ∃ residual, Stops (lead.text ++ s) residual := by
  by_cases zero : Text.digitsValue (s.takeWhile Text.isDigit) = 0
  · exact .inr ⟨s,.word lead rfl reaches zero⟩
  · let n : Numeral := ⟨s.takeWhile Text.isDigit,fun c => List.mem_takeWhile_imp,Nat.pos_of_ne_zero zero⟩
    set behind := s.dropWhile Text.isDigit with behindIs
    have whole : n.digits ++ behind = s := List.takeWhile_append_dropWhile
    have parts : behind.takeWhile isSeparator ++ behind.dropWhile isSeparator = behind :=
      List.takeWhile_append_dropWhile
    have separators : ∀ c ∈ behind.takeWhile isSeparator, isSeparator c = true := fun c => List.mem_takeWhile_imp
    cases left : behind.dropWhile isSeparator with
    | nil =>
      rw [left,List.append_nil] at parts
      rw [parts] at separators
      rw [← whole]
      by_cases mark : ',' ∈ behind ∨ '-' ∈ behind
      · exact .inr ⟨behind,.marks lead n rfl separators mark⟩
      · exact .inl (exists_layout lead n separators mark)
    | cons c rest =>
      have other : isSeparator c = false := breaks_dropWhile isSeparator behind c (by rw [left]; rfl)
      by_cases parted : behind.takeWhile isSeparator = []
      · rw [parted,left,List.nil_append] at parts
        have digit : Text.isDigit c = false := breaks_dropWhile Text.isDigit s c (by rw [← behindIs,← parts]; rfl)
        rw [← whole]
        exact .inr ⟨behind,.foreign lead n c rest rfl parts.symm digit other⟩
      · let i : Item := ⟨n,behind.takeWhile isSeparator,parted,separators⟩
        have next : (lead.concat i).Reaches (c :: rest) :=
          .inr ⟨by simp [Lead.concat],List.cons_ne_nil _ _,breaks_cons other⟩
        have shorter : (c :: rest).length < s.length := by
          have digit := List.length_pos_iff.mpr n.digits_ne_nil
          rw [← whole,← parts,left,List.length_append,List.length_append]
          omega
        have same : (lead.concat i).text ++ c :: rest = lead.text ++ s := by
          rw [Lead.text_concat,Item.text,List.append_assoc,List.append_assoc,← left,parts,whole]
        have later := layout_or_stops_from (lead.concat i) (c :: rest) next
        rwa [same] at later
termination_by s.length

theorem layout_or_stops (s : Text) : (∃ l : Layout, l.text = s) ∨ ∃ residual, Stops s residual := by
  let lead : Lead := ⟨s.takeWhile Unicode.isSpace,[],fun c => List.mem_takeWhile_imp⟩
  have whole : lead.text ++ s.dropWhile Unicode.isSpace = s := by
    simp [lead,Lead.text]
  have found := layout_or_stops_from lead (s.dropWhile Unicode.isSpace) (.inl ⟨rfl,breaks_dropWhile _ _⟩)
  rwa [whole] at found

/-! ### One layout -/

theorem Numeral.unique (breaks : Breaks Text.isDigit rest) (breaks' : Breaks Text.isDigit rest')
    (same : n.digits ++ rest = m.digits ++ rest') : n = m ∧ rest = rest' := by
  obtain ⟨digits,behind⟩ := run_unique n.all_digits breaks m.all_digits breaks' same
  exact ⟨Numeral.ext digits,behind⟩

theorem Item.breaks (i : Item) : Breaks Text.isDigit (i.run ++ rest) :=
  (breaks_run i.separators).append i.some_separator

/-- No further word stands in the separators after the last one. -/
theorem last_ne_item (separators : ∀ c ∈ run, isSeparator c = true)
    (same : n.digits ++ run = (i :: items).flatMap Item.text ++ (m.digits ++ rest')) : False := by
  rw [List.flatMap_cons,Item.text,List.append_assoc,List.append_assoc] at same
  obtain ⟨-,behind⟩ := Numeral.unique (m := i.toNumeral) (breaks_run separators) i.breaks same
  obtain ⟨c,member⟩ := List.exists_mem_of_ne_nil _ m.digits_ne_nil
  have separator := separators c (by simp [behind,member])
  rw [isSeparator_of_isDigit (m.all_digits c member)] at separator
  cases separator

theorem words_unique (separators : ∀ c ∈ run, isSeparator c = true) (separators' : ∀ c ∈ run', isSeparator c = true)
    (same : items.flatMap Item.text ++ (n.digits ++ run) = items'.flatMap Item.text ++ (m.digits ++ run')) :
    items = items' ∧ n = m ∧ run = run' := by
  have digits {items : List Item} {n : Numeral} {s : Text} :
      Breaks isSeparator (items.flatMap Item.text ++ (n.digits ++ s)) :=
    breaks_items (fun _ => isSeparator_of_isDigit) fun _ => Numeral.breaks fun _ => isSeparator_of_isDigit
  induction items generalizing items' with
  | nil =>
    cases items' with
    | nil => exact ⟨rfl,Numeral.unique (breaks_run separators) (breaks_run separators') same⟩
    | cons i' items' => exact (last_ne_item separators same).elim
  | cons i items ih =>
    cases items' with
    | nil => exact (last_ne_item separators' same.symm).elim
    | cons i' items' =>
      simp only [List.flatMap_cons,Item.text,List.append_assoc] at same
      obtain ⟨lengths,behind⟩ := Numeral.unique (n := i.toNumeral) (m := i'.toNumeral) i.breaks i'.breaks same
      obtain ⟨runs,behind⟩ := run_unique i.separators digits i'.separators digits behind
      obtain ⟨rfl,lasts⟩ := ih behind
      exact ⟨by rw [Item.ext (congrArg Numeral.digits lengths) runs],lasts⟩

theorem Layout.unique (same : l.text = l'.text) : l = l' := by
  have digits {items : List Item} {n : Numeral} {s : Text} :
      Breaks Unicode.isSpace (items.flatMap Item.text ++ (n.digits ++ s)) :=
    breaks_items (fun _ => isSpace_of_isDigit) fun _ => Numeral.breaks fun _ => isSpace_of_isDigit
  simp only [text,Lead.text,List.append_assoc] at same
  obtain ⟨before,behind⟩ := run_unique l.lead.spaces digits l'.lead.spaces digits same
  obtain ⟨items,last,ending⟩ :=
    words_unique (fun _ => isSeparator_of_ending l) (fun _ => isSeparator_of_ending l') behind
  exact Layout.ext (Lead.ext before items) last ending

theorem read_eq_ok_iff {words : List Word} : read s clue = .ok words ↔ ∃ l : Layout, l.text = s ∧ l.words = words := by
  constructor
  · intro given
    rcases layout_or_stops s with ⟨l,rfl⟩ | ⟨residual,stops⟩
    · rw [read_layout,Except.ok.injEq] at given
      exact ⟨l,rfl,given⟩
    · rw [read_stops stops] at given
      cases given
  · rintro ⟨l,rfl,rfl⟩
    exact read_layout l clue

theorem read_eq_error_iff {fault : GrammarFault} : read s clue = .error fault ↔
    ∃ residual, fault = .enumeration (reportedSource clue s) residual ∧ Stops s residual := by
  constructor
  · intro refused
    rcases layout_or_stops s with ⟨l,rfl⟩ | ⟨residual,stops⟩
    · rw [read_layout] at refused
      cases refused
    · rw [read_stops stops,Except.error.injEq] at refused
      exact ⟨residual,refused.symm,stops⟩
  · rintro ⟨residual,rfl,stops⟩
    exact read_stops stops

/-- Reading accepts just the texts that are laid out as enumerations, and gives the words that
    stand in them. A text is laid out in one way only. Every other text is refused, and the
    report quotes what reading stops at, beside the clue that is given, or else the text itself. -/
theorem reads_just_enumerations (s clue : Text) :
    (∀ words, read s clue = .ok words ↔ ∃ l : Layout, l.text = s ∧ l.words = words) ∧
      (∀ l l' : Layout, l.text = s → l'.text = s → l = l') ∧
      (∀ fault, read s clue = .error fault ↔
        ∃ residual, fault = .enumeration (reportedSource clue s) residual ∧ Stops s residual) ∧
      ∀ fault, read s clue = .error fault → ∃ residual, Stops s residual ∧
        fault.message = "'" ++ String.ofList (if clue = [] then s else clue) ++ "' Error in <lengthText> near <"
          ++ String.ofList residual ++ ">" := by
  refine ⟨fun _ => read_eq_ok_iff,fun _ _ one other => Layout.unique (one.trans other.symm),
    fun _ => read_eq_error_iff,fun fault refused => ?_⟩
  obtain ⟨residual,rfl,stops⟩ := read_eq_error_iff.mp refused
  exact ⟨residual,stops,rfl⟩

/-- An enumeration is read through any separators; a word of no letters, a character that is no
    separator and a comma at the end are stopped at. -/
theorem reads_spacedWords :
    (∃ l : Layout, l.text = " 05, 3  4. .".toList ∧ l.words = [⟨5,[',']⟩,⟨3,[' ']⟩,⟨4,['.','.']⟩]) ∧
      Stops "2,0-1".toList "0-1".toList ∧ Stops "3,4b,7".toList "b,7".toList ∧ Stops "2,3,".toList ",".toList := by
  have given : read " 05, 3  4. .".toList [] = .ok [⟨5,[',']⟩,⟨3,[' ']⟩,⟨4,['.','.']⟩] := by decide +kernel
  have stops (s residual : Text) (refused : read s [] = .error (.enumeration s residual)) : Stops s residual := by
    obtain ⟨other,same,stops⟩ := ((reads_just_enumerations s []).2.2.1 _).mp refused
    cases same
    exact stops
  exact ⟨((reads_just_enumerations _ []).1 _).mp given,stops _ _ (by decide +kernel),stops _ _ (by decide +kernel),
    stops _ _ (by decide +kernel)⟩

end

end Crossword.Enumeration

import Crossword.Proofs.Scanning

/-!
The texts that are labels. A label may be laid out in many ways (`Layout`): with white space
around it, with leading zeros, and with whatever is no letter or number between its segments.
Reading accepts just these texts, each of which is laid out in one way only, and of any other
it leaves what comes after the longest label that it begins with (`reads_just_labels`).
-/
namespace Crossword.Label

/-! ### Layouts -/

/-- A segment as it stands in a text: a run of digits, and the letter of a direction if one
    is named. -/
@[ext]
structure Mention where
  digits : Text
  direction : Option Direction
  some_digit : digits ≠ []
  all_digits : ∀ c ∈ digits, Text.isDigit c = true

/-- What stands between two segments: no letter and no number, and not white space alone. -/
@[ext]
structure Separator where
  text : Text
  unread : ∀ c ∈ text, Unicode.isAlphanumeric c = false
  mark : ∃ c ∈ text, Unicode.isSpace c = false

/-- A text taken apart as a label: white space, a segment, more segments with a separator
    before each, and white space. -/
@[ext]
structure Layout where
  before : Text
  head : Mention
  tails : List (Separator × Mention)
  after : Text
  spaces_before : ∀ c ∈ before, Unicode.isSpace c = true
  spaces_after : ∀ c ∈ after, Unicode.isSpace c = true

/-- The segment that a mention stands for. -/
def Mention.segment (m : Mention) : Segment := ⟨Text.digitsValue m.digits,m.direction⟩

/-- The text of a mention. -/
def Mention.text (m : Mention) : Text := m.digits ++ m.segment.suffix

/-- The text of the segments after the first, with their separators. -/
def tailsText (tails : List (Separator × Mention)) : Text := tails.flatMap fun t => t.1.text ++ t.2.text

/-- The text that is laid out so. -/
def Layout.text (l : Layout) : Text := l.before ++ (l.head.text ++ (tailsText l.tails ++ l.after))

/-- The label that is laid out so. -/
def Layout.label (l : Layout) : Label := ⟨l.head.segment,l.tails.map (·.2.segment)⟩

/-- The segment mentioned last. -/
def Layout.last (l : Layout) : Mention := (l.tails.map (·.2)).getLastD l.head

/-- What a text leaves after the longest label that it begins with; if it begins with none,
    the whole text. -/
def Leaves (s residual : Text) : Prop :=
  (∃ l : Layout, s = l.text ++ residual ∧ ∀ other : Layout, other.text <+: s → other.text.length ≤ l.text.length) ∨
    residual = s ∧ ∀ l : Layout, ¬ l.text <+: s

/-! ### Segments -/

section
variable {m m' : Mention} {sep sep' : Separator} {tails tails' : List (Separator × Mention)} {l l' : Layout}
  {source rest rest' s residual clue : Text} {c : Char}

/-- The characters that a mention would go on with: more digits, or the letter of a direction
    if it names none yet. -/
def Mention.goesOn (m : Mention) (c : Char) : Bool := m.direction.isNone && (Text.isDigit c || c == 'a' || c == 'd')

theorem Mention.breaks (breaks : Breaks Unicode.isAlphanumeric rest) : Breaks m.goesOn rest := by
  refine breaks.mono fun c more => ?_
  simp only [goesOn,Bool.and_eq_true,Bool.or_eq_true,beq_iff_eq] at more
  rcases more.2 with (digit | rfl) | rfl
  · exact isAlphanumeric_of_isDigit digit
  · decide
  · decide

theorem Mention.breaks_digits (breaks : Breaks m.goesOn rest) : Breaks Text.isDigit (m.segment.suffix ++ rest) := by
  obtain ⟨digits,direction,_,_⟩ := m
  cases direction with
  | some direction => cases direction <;> exact breaks_cons (by decide)
  | none => exact breaks.mono fun c digit => by simp [goesOn,digit]

theorem Mention.takeDirection_suffix (breaks : Breaks m.goesOn rest) :
    takeDirection (m.segment.suffix ++ rest) = (m.direction,rest) := by
  obtain ⟨digits,direction,_,_⟩ := m
  cases direction with
  | some direction => cases direction <;> rfl
  | none =>
    change takeDirection rest = (none,rest)
    unfold takeDirection
    split
    · exact absurd (breaks 'a' rfl) (by simp [goesOn])
    · exact absurd (breaks 'd' rfl) (by simp [goesOn])
    · rfl

/-- A mention is read in full where the text does not go on with it. -/
theorem Mention.takeSegment?_text (breaks : Breaks m.goesOn rest) :
    takeSegment? (m.text ++ rest) = some (m.segment,Text.stripStart rest) := by
  have digits : (m.text ++ rest).takeWhile Text.isDigit = m.digits := by
    rw [text,List.append_assoc]
    exact takeWhile_run m.all_digits (breaks_digits breaks)
  have behind : (m.text ++ rest).dropWhile Text.isDigit = m.segment.suffix ++ rest := by
    rw [text,List.append_assoc]
    exact dropWhile_run m.all_digits (breaks_digits breaks)
  simp only [takeSegment?,digits,behind,if_neg m.some_digit,takeDirection_suffix breaks]
  rfl

theorem Mention.breaks_text {kind : Char → Bool} (none : ∀ c, Text.isDigit c = true → kind c = false) :
    Breaks kind (m.text ++ rest) := by
  rw [text,List.append_assoc]
  exact Breaks.append (fun c first => none c (m.all_digits c (List.mem_of_head? first))) m.some_digit

/-- Where a text begins with a digit it mentions a segment. -/
theorem exists_mention (digit : s.takeWhile Text.isDigit ≠ []) :
    ∃ (m : Mention) (rest : Text), s = m.text ++ rest ∧ Breaks m.goesOn rest := by
  have whole : s = s.takeWhile Text.isDigit ++ s.dropWhile Text.isDigit := List.takeWhile_append_dropWhile.symm
  have all : ∀ c ∈ s.takeWhile Text.isDigit, Text.isDigit c = true := fun c => List.mem_takeWhile_imp
  by_cases letter : ∃ (d : Direction) (rest : Text), s.dropWhile Text.isDigit = d.suffix ++ rest
  · obtain ⟨d,rest,behind⟩ := letter
    rw [behind,← List.append_assoc] at whole
    exact ⟨⟨_,some d,digit,all⟩,rest,whole,fun _ _ => rfl⟩
  · refine ⟨⟨_,none,digit,all⟩,s.dropWhile Text.isDigit,?_,fun c first => ?_⟩
    · simp [Mention.text,Mention.segment,Segment.suffix]
    · obtain ⟨rest,behind⟩ := List.head?_eq_some_iff.mp first
      have across : c ≠ 'a' := by
        rintro rfl
        exact letter ⟨.across,rest,behind⟩
      have down : c ≠ 'd' := by
        rintro rfl
        exact letter ⟨.down,rest,behind⟩
      simp [Mention.goesOn,across,down,breaks_dropWhile Text.isDigit s c first]

/-! ### Separators -/

theorem Separator.isSeparator_of_mem (sep : Separator) (member : c ∈ sep.text) : isSeparator c = true := by
  simp [isSeparator,sep.unread c member]

theorem Separator.breaks : Breaks Unicode.isAlphanumeric (sep.text ++ rest) := by
  obtain ⟨c,member,_⟩ := sep.mark
  exact Breaks.append (fun c first => sep.unread c (List.mem_of_head? first)) (List.ne_nil_of_mem member)

/-- The white space that a separator begins with is not all of it. -/
theorem Separator.stripStart_ne_nil : Text.stripStart sep.text ≠ [] := by
  obtain ⟨c,member,seen⟩ := sep.mark
  intro none
  rw [Bool.eq_false_iff] at seen
  exact seen (List.dropWhile_eq_nil_iff.mp none c member)

theorem Separator.stripStart_append : Text.stripStart (sep.text ++ rest) = Text.stripStart sep.text ++ rest := by
  unfold Text.stripStart
  rw [List.dropWhile_append,if_neg]
  rw [List.isEmpty_iff]
  exact sep.stripStart_ne_nil

/-- One more segment is read off its separator and its mention. -/
theorem readTails_mention (breaks : Breaks m.goesOn rest) :
    readTails source (Text.stripStart (sep.text ++ (m.text ++ rest))) =
      (readTails source (Text.stripStart rest)).map (m.segment :: ·) := by
  have separators : ∀ c ∈ Text.stripStart sep.text, isSeparator c = true := fun c member =>
    sep.isSeparator_of_mem ((List.dropWhile_suffix _).mem member)
  have digits : Breaks isSeparator (m.text ++ rest) :=
    Mention.breaks_text fun c digit => by simp [isSeparator,isAlphanumeric_of_isDigit digit]
  rw [Separator.stripStart_append,readTails,if_neg (by simp [sep.stripStart_ne_nil]),
    takeWhile_run separators digits,if_neg sep.stripStart_ne_nil]
  split
  · next missing =>
    rw [dropWhile_run separators digits,Mention.takeSegment?_text breaks] at missing
    cases missing
  · next found =>
    rw [dropWhile_run separators digits,Mention.takeSegment?_text breaks] at found
    cases found
    cases readTails source (Text.stripStart rest) <;> rfl

/-- The tails are read one by one, and then what follows them. -/
theorem readTails_tails (source : Text) (breaks : Breaks ((tails.map (·.2)).getLastD m).goesOn rest) :
    Breaks m.goesOn (tailsText tails ++ rest) ∧
      readTails source (Text.stripStart (tailsText tails ++ rest)) =
        (readTails source (Text.stripStart rest)).map (tails.map (·.2.segment) ++ ·) := by
  induction tails generalizing m with
  | nil =>
    refine ⟨breaks,?_⟩
    rw [tailsText,List.flatMap_nil,List.nil_append]
    cases readTails source (Text.stripStart rest) <;> rfl
  | cons t tails ih =>
    obtain ⟨sep,next⟩ := t
    rw [List.map_cons,List.getLastD_cons] at breaks
    obtain ⟨after,later⟩ := ih breaks
    have whole : tailsText ((sep,next) :: tails) ++ rest = sep.text ++ (next.text ++ (tailsText tails ++ rest)) := by
      simp [tailsText]
    rw [whole]
    refine ⟨Mention.breaks Separator.breaks,?_⟩
    rw [readTails_mention after,later]
    cases readTails source (Text.stripStart rest) <;> rfl

/-! ### Reading -/

/-- Nothing of the text can be read after a label: it is neither empty nor spaced, and it
    does not begin with a separator and a digit. -/
def Stuck (s : Text) : Prop :=
  s ≠ [] ∧ Breaks Unicode.isSpace s ∧ (Breaks isSeparator s ∨ Breaks Text.isDigit (s.dropWhile isSeparator))

theorem Stuck.front (stuck : Stuck (s ++ rest)) (some_char : s ≠ []) : Stuck s :=
  ⟨some_char,stuck.2.1.front,stuck.2.2.imp Breaks.front Breaks.dropWhile_front⟩

theorem readTails_stuck (stuck : Stuck s) : readTails source s = .error (.label source s) := by
  obtain ⟨some_char,_,stuck⟩ := stuck
  rw [readTails,if_neg some_char]
  split
  · rfl
  · next separated =>
    have digit : Breaks Text.isDigit (s.dropWhile isSeparator) :=
      stuck.resolve_left fun breaks => separated (takeWhile_breaks breaks)
    have missing : takeSegment? (s.dropWhile isSeparator) = none := by simp [takeSegment?,takeWhile_breaks digit]
    split
    · rfl
    · next found =>
      rw [missing] at found
      cases found

theorem stripStart_append (l : Layout) (rest : Text) :
    Text.stripStart (l.text ++ rest) = l.head.text ++ (tailsText l.tails ++ (l.after ++ rest)) := by
  have whole : l.text ++ rest = l.before ++ (l.head.text ++ (tailsText l.tails ++ (l.after ++ rest))) := by
    simp [Layout.text]
  rw [whole]
  exact dropWhile_run l.spaces_before (Mention.breaks_text fun _ => isSpace_of_isDigit)

/-- After a layout that the rest of the text does not go on with, reading comes to the rest. -/
theorem read_append (breaks : Breaks l.last.goesOn (l.after ++ rest)) (spaced : Breaks Unicode.isSpace rest) :
    read (l.text ++ rest) clue = (readTails (reportedSource clue (l.text ++ rest)) rest).map fun more =>
      ⟨l.head.segment,l.tails.map (·.2.segment) ++ more⟩ := by
  obtain ⟨head,tails⟩ := readTails_tails (reportedSource clue (l.text ++ rest)) breaks
  have finish : Text.stripStart (l.after ++ rest) = rest := dropWhile_run l.spaces_after spaced
  rw [finish] at tails
  simp only [read,stripStart_append,Mention.takeSegment?_text head,tails]
  cases readTails (reportedSource clue (l.text ++ rest)) rest <;> rfl

theorem breaks_spaces (spaces : ∀ c ∈ s, Unicode.isSpace c = true) : Breaks Unicode.isAlphanumeric s := fun c first =>
  isAlphanumeric_of_isSpace (spaces c (List.mem_of_head? first))

theorem read_layout (l : Layout) (clue : Text) : read l.text clue = .ok l.label := by
  have ends : Breaks l.last.goesOn (l.after ++ []) := by
    rw [List.append_nil]
    exact Mention.breaks (breaks_spaces l.spaces_after)
  have given : read (l.text ++ []) clue = _ := read_append ends breaks_nil
  rw [List.append_nil,readTails,if_pos rfl] at given
  simpa [Except.map,Layout.label] using given

theorem read_stuck (breaks : Breaks l.last.goesOn (l.after ++ rest)) (stuck : Stuck rest) :
    read (l.text ++ rest) clue = .error (.label (reportedSource clue (l.text ++ rest)) rest) := by
  rw [read_append breaks stuck.2.1,readTails_stuck stuck]
  rfl

theorem read_headless (headless : Breaks Text.isDigit (Text.stripStart s)) :
    read s clue = .error (.label (reportedSource clue s) s) := by
  simp [read,takeSegment?,takeWhile_breaks headless]

/-! ### The longest label -/

/-- The layout with one more segment. The white space that stood after it is to be part of the
    new separator. -/
def Layout.concat (l : Layout) (sep : Separator) (m : Mention) (after : Text)
    (spaces : ∀ c ∈ after, Unicode.isSpace c = true) : Layout where
  before := l.before
  head := l.head
  tails := l.tails ++ [(sep,m)]
  after := after
  spaces_before := l.spaces_before
  spaces_after := spaces

/-- A separator that begins after some white space. -/
theorem exists_separator (spaces : ∀ c ∈ rest, Unicode.isSpace c = true) (spaced : Breaks Unicode.isSpace s)
    (separated : s.takeWhile isSeparator ≠ []) : ∃ sep : Separator, sep.text = rest ++ s.takeWhile isSeparator := by
  refine ⟨⟨rest ++ s.takeWhile isSeparator,?_,?_⟩,rfl⟩
  · intro c member
    rcases List.mem_append.mp member with space | inside
    · exact isAlphanumeric_of_isSpace (spaces c space)
    · simpa [isSeparator] using List.mem_takeWhile_imp inside
  · obtain ⟨c,run,first⟩ := List.exists_cons_of_ne_nil separated
    have begins : s.head? = some c := by
      rw [← List.takeWhile_append_dropWhile (p := isSeparator) (l := s),first]
      rfl
    exact ⟨c,List.mem_append_right _ (by simp [first]),spaced c begins⟩

/-- A layout can be carried on through the text that follows it until nothing is left or
    nothing more can be read. -/
theorem exists_longest (l : Layout) (s : Text) (breaks : Breaks l.last.goesOn (l.after ++ s))
    (spaced : Breaks Unicode.isSpace s) : ∃ (longest : Layout) (rest : Text), longest.text ++ rest = l.text ++ s ∧
      Breaks longest.last.goesOn (longest.after ++ rest) ∧ (rest = [] ∨ Stuck rest) := by
  by_cases stops : s = [] ∨ Stuck s
  · exact ⟨l,s,rfl,breaks,stops⟩
  · rw [not_or] at stops
    obtain ⟨some_char,more⟩ := stops
    have separated : s.takeWhile isSeparator ≠ [] := fun none =>
      more ⟨some_char,spaced,.inl (breaks_of_takeWhile none)⟩
    have digit : (s.dropWhile isSeparator).takeWhile Text.isDigit ≠ [] := fun none =>
      more ⟨some_char,spaced,.inr (breaks_of_takeWhile none)⟩
    obtain ⟨sep,between⟩ := exists_separator l.spaces_after spaced separated
    obtain ⟨m,next,mentioned,ends⟩ := exists_mention digit
    have whole : s = s.takeWhile isSeparator ++ (m.text ++ next) := by
      rw [← mentioned,List.takeWhile_append_dropWhile]
    have parts : next.takeWhile Unicode.isSpace ++ next.dropWhile Unicode.isSpace = next :=
      List.takeWhile_append_dropWhile
    have shorter : (next.dropWhile Unicode.isSpace).length < s.length := by
      have separator := List.length_pos_iff.mpr separated
      have lengths := congrArg List.length whole
      have dropped : (next.dropWhile Unicode.isSpace).length ≤ next.length := (List.dropWhile_suffix _).length_le
      simp only [List.length_append] at lengths
      omega
    let longer : Layout := l.concat sep m (next.takeWhile Unicode.isSpace) fun _ => List.mem_takeWhile_imp
    have follows : Breaks longer.last.goesOn (longer.after ++ next.dropWhile Unicode.isSpace) := by
      simpa [longer,Layout.last,Layout.concat,parts] using ends
    obtain ⟨longest,rest,same,ending⟩ := exists_longest longer _ follows (breaks_dropWhile _ _)
    refine ⟨longest,rest,?_,ending⟩
    rw [same,whole]
    simp [longer,Layout.text,Layout.concat,tailsText,between,parts]
termination_by s.length

/-- A text that begins with no label begins with no digit, once its white space is taken off. -/
theorem not_prefix_of_headless (headless : Breaks Text.isDigit (Text.stripStart s)) (l : Layout) : ¬ l.text <+: s := by
  rintro ⟨rest,rfl⟩
  obtain ⟨c,digits,first⟩ := List.exists_cons_of_ne_nil l.head.some_digit
  have digit := l.head.all_digits c (by simp [first])
  rw [stripStart_append,Mention.text,first] at headless
  rw [headless c rfl] at digit
  cases digit

theorem leaves_of_stuck (breaks : Breaks l.last.goesOn (l.after ++ rest)) (stuck : Stuck rest) :
    Leaves (l.text ++ rest) rest := by
  refine .inl ⟨l,rfl,fun other begins => ?_⟩
  by_contra longer
  -- A longer label would take some of the rest with it, which reading does not.
  obtain ⟨more,same⟩ := List.prefix_of_prefix_length_le (List.prefix_append l.text rest) begins (by omega)
  rw [← same,List.prefix_append_right_inj] at begins
  obtain ⟨left,rfl⟩ := begins
  have some_char : more ≠ [] := by
    rintro rfl
    simp [← same] at longer
  have breaks : Breaks l.last.goesOn (l.after ++ more) := by
    rw [← List.append_assoc] at breaks
    exact breaks.front
  have given := read_layout other []
  rw [← same,read_stuck breaks (stuck.front some_char)] at given
  cases given

/-! ### One layout -/

theorem Mention.unique (breaks : Breaks m.goesOn rest) (breaks' : Breaks m'.goesOn rest')
    (same : m.text ++ rest = m'.text ++ rest') : m = m' ∧ rest = rest' := by
  rw [text,text,List.append_assoc,List.append_assoc] at same
  obtain ⟨digits,behind⟩ := run_unique m.all_digits (breaks_digits breaks) m'.all_digits (breaks_digits breaks') same
  have direction := takeDirection_suffix breaks
  rw [behind,takeDirection_suffix breaks',Prod.mk.injEq] at direction
  exact ⟨Mention.ext digits direction.1.symm,direction.2.symm⟩

theorem Separator.unique (digits : Breaks isSeparator rest) (digits' : Breaks isSeparator rest')
    (same : sep.text ++ rest = sep'.text ++ rest') : sep = sep' ∧ rest = rest' := by
  obtain ⟨texts,behind⟩ :=
    run_unique (fun _ => sep.isSeparator_of_mem) digits (fun _ => sep'.isSeparator_of_mem) digits' same
  exact ⟨Separator.ext texts,behind⟩

theorem breaks_tailsText (breaks : Breaks Unicode.isAlphanumeric rest) :
    Breaks Unicode.isAlphanumeric (tailsText tails ++ rest) := by
  cases tails with
  | nil => exact breaks
  | cons t tails =>
    rw [tailsText,List.flatMap_cons,List.append_assoc,List.append_assoc]
    exact Separator.breaks

/-- Tails are no white space. -/
theorem tailsText_ne_spaces {t : Separator × Mention} (spaces : ∀ c ∈ rest, Unicode.isSpace c = true)
    (same : rest = tailsText (t :: tails) ++ rest') : False := by
  obtain ⟨c,member,seen⟩ := t.1.mark
  have space := spaces c (by simp [same,tailsText,member])
  rw [seen] at space
  cases space

theorem tails_unique (spaces : ∀ c ∈ rest, Unicode.isSpace c = true) (spaces' : ∀ c ∈ rest', Unicode.isSpace c = true)
    (same : tailsText tails ++ rest = tailsText tails' ++ rest') : tails = tails' ∧ rest = rest' := by
  have digits {m : Mention} {s : Text} : Breaks isSeparator (m.text ++ s) :=
    Mention.breaks_text fun c digit => by simp [isSeparator,isAlphanumeric_of_isDigit digit]
  induction tails generalizing tails' with
  | nil =>
    cases tails' with
    | nil => exact ⟨rfl,same⟩
    | cons t' tails' => exact (tailsText_ne_spaces spaces same).elim
  | cons t tails ih =>
    cases tails' with
    | nil => exact (tailsText_ne_spaces spaces' same.symm).elim
    | cons t' tails' =>
      simp only [tailsText,List.flatMap_cons,List.append_assoc] at same
      obtain ⟨separators,behind⟩ := Separator.unique digits digits same
      obtain ⟨mentions,behind⟩ := Mention.unique (Mention.breaks (breaks_tailsText (breaks_spaces spaces)))
        (Mention.breaks (breaks_tailsText (breaks_spaces spaces'))) behind
      obtain ⟨later,after⟩ := ih behind
      exact ⟨by rw [Prod.ext separators mentions,later],after⟩

theorem Layout.unique (same : l.text = l'.text) : l = l' := by
  have digits {m : Mention} {s : Text} : Breaks Unicode.isSpace (m.text ++ s) :=
    Mention.breaks_text fun _ => isSpace_of_isDigit
  obtain ⟨before,behind⟩ := run_unique l.spaces_before digits l'.spaces_before digits same
  obtain ⟨head,behind⟩ := Mention.unique (Mention.breaks (breaks_tailsText (breaks_spaces l.spaces_after)))
    (Mention.breaks (breaks_tailsText (breaks_spaces l'.spaces_after))) behind
  obtain ⟨tails,after⟩ := tails_unique l.spaces_after l'.spaces_after behind
  exact Layout.ext before head tails after

/-- A text is a label, or the longest label that it begins with is followed by something that
    cannot be read, or it begins with none. -/
theorem layout_or_stuck (s : Text) : (∃ l : Layout, l.text = s) ∨
    (∃ (l : Layout) (rest : Text), l.text ++ rest = s ∧ Breaks l.last.goesOn (l.after ++ rest) ∧ Stuck rest) ∨
      Breaks Text.isDigit (Text.stripStart s) := by
  by_cases headless : (Text.stripStart s).takeWhile Text.isDigit = []
  · exact .inr (.inr (breaks_of_takeWhile headless))
  · obtain ⟨m,next,mentioned,ends⟩ := exists_mention headless
    have parts : next.takeWhile Unicode.isSpace ++ next.dropWhile Unicode.isSpace = next :=
      List.takeWhile_append_dropWhile
    have whole : s.takeWhile Unicode.isSpace ++ Text.stripStart s = s := List.takeWhile_append_dropWhile
    let first : Layout :=
      ⟨s.takeWhile Unicode.isSpace,m,[],next.takeWhile Unicode.isSpace,fun _ => List.mem_takeWhile_imp,
        fun _ => List.mem_takeWhile_imp⟩
    have follows : Breaks first.last.goesOn (first.after ++ next.dropWhile Unicode.isSpace) := by
      simpa [first,Layout.last,parts] using ends
    obtain ⟨l,rest,same,breaks,finished⟩ := exists_longest first _ follows (breaks_dropWhile _ _)
    have same : l.text ++ rest = s := by
      rw [same]
      conv_rhs => rw [← whole,mentioned,← parts]
      simp [first,Layout.text,tailsText]
    rcases finished with rfl | stuck
    · exact .inl ⟨l,by rw [← same,List.append_nil]⟩
    · exact .inr (.inl ⟨l,rest,same,breaks,stuck⟩)

theorem read_eq_ok_iff {label : Label} : read s clue = .ok label ↔ ∃ l : Layout, l.text = s ∧ l.label = label := by
  constructor
  · intro given
    rcases layout_or_stuck s with ⟨l,rfl⟩ | ⟨l,rest,rfl,breaks,stuck⟩ | headless
    · rw [read_layout,Except.ok.injEq] at given
      exact ⟨l,rfl,given⟩
    · rw [read_stuck breaks stuck] at given
      cases given
    · rw [read_headless headless] at given
      cases given
  · rintro ⟨l,rfl,rfl⟩
    exact read_layout l clue

/-- Reading accepts just the texts that are laid out as labels, and gives the segments that
    stand in them. A text is laid out in one way only. Of a text that is no label the report
    quotes what comes after the longest label that the text begins with, beside the clue that is
    given, or else the text itself. -/
theorem reads_just_labels (s clue : Text) :
    (∀ label, read s clue = .ok label ↔ ∃ l : Layout, l.text = s ∧ l.label = label) ∧
      (∀ l l' : Layout, l.text = s → l'.text = s → l = l') ∧
      ((¬ ∃ l : Layout, l.text = s) → ∃ residual,
        read s clue = .error (.label (reportedSource clue s) residual) ∧ Leaves s residual ∧
          (GrammarFault.label (reportedSource clue s) residual).message =
            "'" ++ String.ofList (if clue = [] then s else clue) ++ "' Error in <labelText> near <"
              ++ String.ofList residual ++ ">") := by
  refine ⟨fun label => read_eq_ok_iff,fun l l' one other => Layout.unique (one.trans other.symm),fun none => ?_⟩
  rcases layout_or_stuck s with laid | ⟨l,rest,rfl,breaks,stuck⟩ | headless
  · exact absurd laid none
  · exact ⟨rest,read_stuck breaks stuck,leaves_of_stuck breaks stuck,rfl⟩
  · exact ⟨s,read_headless headless,.inr ⟨rfl,not_prefix_of_headless headless⟩,rfl⟩

/-- A label with a leading zero is read through any separators; where a segment follows on another
    with nothing between them, it is left. -/
theorem reads_spacedLabel :
    (∃ l : Layout, l.text = " 09 ;3a&4d ".toList ∧ l.label = ⟨⟨9,none⟩,[⟨3,some .across⟩,⟨4,some .down⟩]⟩) ∧
      read "9a3".toList [] = .error (.label "9a3".toList ['3']) ∧ Leaves "9a3".toList ['3'] ∧
      (GrammarFault.label "9a3".toList ['3']).message = "'9a3' Error in <labelText> near <3>" := by
  have given : read " 09 ;3a&4d ".toList [] = .ok ⟨⟨9,none⟩,[⟨3,some .across⟩,⟨4,some .down⟩]⟩ := by decide +kernel
  have refused : read "9a3".toList [] = .error (.label "9a3".toList ['3']) := by decide +kernel
  obtain ⟨reads,-,leaves⟩ := reads_just_labels "9a3".toList []
  have none : ¬ ∃ l : Layout, l.text = "9a3".toList := by
    rintro ⟨l,laid⟩
    rw [(reads l.label).mpr ⟨l,laid,rfl⟩] at refused
    cases refused
  obtain ⟨residual,same,left,reported⟩ := leaves none
  rw [refused] at same
  cases same
  exact ⟨((reads_just_labels _ []).1 _).mp given,refused,left,reported.trans rfl⟩

end

end Crossword.Label

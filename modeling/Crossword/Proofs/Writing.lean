import Crossword.Wording
import Crossword.Proofs.Enumerating
import Crossword.Proofs.Labelling
import Crossword.Proofs.Splitting

/-!
The clue strings that read back as what they were written from. A label is written as
its segments with commas between them and an enumeration as its words, each with what is
printed after it. What an enumeration reads as is always listed in this way (`Listed`), so
reading undoes writing and whatever was read can be written again
(`Wording.reads_written`).
-/
namespace Crossword

/-! ### Written forms -/

/-- A label as it is written: its segments with a comma between each two. -/
def Label.written (l : Label) : Text := List.intercalate [','] (l.segments.map Label.Segment.text)

namespace Enumeration

/-- Words as they are written: the length of each and what is printed after it. -/
def written (words : List Word) : Text := words.flatMap fun word => Text.ofNat word.length ++ word.terminator

/-- What may stand printed between two words: a blank, or some commas, hyphens and
    periods. -/
def Parts (mark : Text) : Prop := mark = [' '] ∨ mark ≠ [] ∧ ∀ c ∈ mark, c = ',' ∨ c = '-' ∨ c = '.'

/-- The words of an enumeration. None of them is empty, each two are parted, and after
    the last only periods stand. -/
inductive Listed : List Word → Prop
  | last {word : Word} : 0 < word.length → (∀ c ∈ word.terminator, c = '.') → Listed [word]
  | more {word : Word} {rest : List Word} :
      0 < word.length → Parts word.terminator → Listed rest → Listed (word :: rest)

end Enumeration

/-- The clue string with the label, the text and the words. -/
def Wording.written (label : Label) (text : Text) (words : List Word) : Text :=
  label.written ++ '.' :: (text ++ '(' :: (Enumeration.written words ++ [')']))

/-! ### Labels -/

namespace Label
variable {segment : Segment} {l : Label} {c : Char}

/-- The segments after the first as they are written. -/
def writtenTails (segments : List Segment) : Text := segments.flatMap fun segment => ',' :: segment.text

theorem written_eq (l : Label) : l.written = l.head.text ++ writtenTails l.tails := by
  obtain ⟨head,tails⟩ := l
  unfold written segments
  induction tails generalizing head with
  | nil => simp [writtenTails]
  | cons next tails ih =>
    have later := ih next
    simp only [List.map_cons] at later ⊢
    rw [List.intercalate_cons_cons,later]
    simp [writtenTails]

/-- A segment as it is written. -/
def Segment.mention (segment : Segment) : Mention where
  digits := Text.ofNat segment.number
  direction := segment.direction
  some_digit := ofNat_ne_nil
  all_digits _ := isDigit_of_mem_ofNat

/-- A comma as it is written between two segments. -/
def comma : Separator where
  text := [',']
  unread := List.forall_mem_singleton.mpr (by decide)
  mark := ⟨',',List.mem_singleton_self _,by decide⟩

/-- A written label has a layout without white space. -/
def layout (l : Label) : Layout where
  before := []
  head := l.head.mention
  tails := l.tails.map fun segment => (comma,segment.mention)
  after := []
  spaces_before := List.forall_mem_nil _
  spaces_after := List.forall_mem_nil _

theorem segment_mention (segment : Segment) : segment.mention.segment = segment := by
  simp [Mention.segment,Segment.mention,digitsValue_ofNat]

theorem text_mention (segment : Segment) : segment.mention.text = segment.text := by
  rw [Mention.text,segment_mention]
  rfl

theorem text_layout (l : Label) : l.layout.text = l.written := by
  simp [written_eq,writtenTails,layout,Layout.text,tailsText,text_mention,comma,List.flatMap_map]

theorem label_layout (l : Label) : l.layout.label = l := by
  simp [layout,Layout.label,segment_mention,Function.comp_def]

theorem read_written (l : Label) (clue : Text) : read l.written clue = .ok l := by
  rw [← text_layout,read_layout,label_layout]

theorem not_period_of_mem_text (member : c ∈ segment.text) : c ≠ '.' := by
  rcases List.mem_append.mp member with digit | letter
  · rintro rfl
    exact absurd (isDigit_of_mem_ofNat digit) (by decide)
  · obtain ⟨number,direction⟩ := segment
    cases direction with
    | none => cases letter
    | some direction =>
      cases direction <;>
      · rw [List.mem_singleton.mp letter]
        decide

/-- No period stands in a label, so that the first one in a clue string ends it. -/
theorem not_period_of_mem_written (member : c ∈ l.written) : c ≠ '.' := by
  rw [written_eq] at member
  rcases List.mem_append.mp member with first | later
  · exact not_period_of_mem_text first
  · obtain ⟨segment,-,inside⟩ := List.mem_flatMap.mp later
    rcases List.mem_cons.mp inside with rfl | inside
    · decide
    · exact not_period_of_mem_text inside

end Label

/-! ### Enumerations -/

namespace Enumeration
variable {words : List Word} {mark : Text} {c : Char}

theorem Listed.letterCount_pos (listed : Listed words) : 0 < letterCount words := by
  cases listed <;>
  · simp only [letterCount]
    omega

theorem isSeparator_of_parts (parts : Parts mark) (member : c ∈ mark) : isSeparator c = true := by
  rcases parts with rfl | ⟨-,all⟩
  · rw [List.mem_singleton.mp member]
    decide
  · rcases all c member with rfl | rfl | rfl <;> decide

theorem parting_of_parts (parts : Parts mark) : parting mark = mark := by
  rcases parts with rfl | ⟨some_mark,all⟩
  · rfl
  · have kept : marks mark = mark := List.filter_eq_self.mpr fun c member => by
      rcases all c member with rfl | rfl | rfl <;> decide
    rw [parting,kept,if_neg some_mark]

theorem ne_nil_of_parts (parts : Parts mark) : mark ≠ [] := by
  rcases parts with rfl | ⟨some_mark,-⟩
  · exact List.cons_ne_nil _ _
  · exact some_mark

/-- No parenthesis stands in an enumeration, so that the last one in a clue string opens
    it. -/
theorem not_parenthesis_of_mem_written (listed : Listed words) (member : c ∈ written words) : c ≠ '(' := by
  rintro rfl
  obtain ⟨word,inside,member⟩ := List.mem_flatMap.mp member
  rcases List.mem_append.mp member with digit | mark
  · exact absurd (isDigit_of_mem_ofNat digit) (by decide)
  · induction listed with
    | last _ periods =>
      rw [List.mem_singleton.mp inside] at mark
      exact absurd (periods _ mark) (by decide)
    | more _ parts _ ih =>
      rcases List.mem_cons.mp inside with rfl | inside
      · exact absurd (isSeparator_of_parts parts mark) (by decide)
      · exact ih (List.mem_flatMap.mpr ⟨word,inside,List.mem_append_right _ mark⟩) inside

/-- The length of a word as it is written. -/
def numeral (word : Word) (positive : 0 < word.length) : Numeral where
  digits := Text.ofNat word.length
  all_digits _ := isDigit_of_mem_ofNat
  positive := by rwa [digitsValue_ofNat]

/-- Listed words have a layout in which they stand as they are written. -/
theorem exists_layout_of_listed (listed : Listed words) :
    ∃ l : Layout, l.lead.before = [] ∧ l.text = written words ∧ l.words = words := by
  induction listed with
  | @last word positive periods =>
    have kept : word.terminator.filter (· == '.') = word.terminator := List.filter_eq_self.mpr fun c member => by
      rw [periods c member]; rfl
    refine ⟨⟨⟨[],[],by simp⟩,numeral word positive,word.terminator,fun c member => .inl (periods c member)⟩,rfl,?_,?_⟩
    · simp [Layout.text,Lead.text,numeral,written]
    · simp [Layout.words,numeral,digitsValue_ofNat,kept]
  | @more word rest positive parts listed ih =>
    obtain ⟨l,before,text,words⟩ := ih
    let i : Item := ⟨numeral word positive,word.terminator,ne_nil_of_parts parts,fun _ => isSeparator_of_parts parts⟩
    have itself : i.word = word := by
      have terminator : i.word.terminator = word.terminator := (parting_eq i).symm.trans (parting_of_parts parts)
      have length : i.word.length = word.length := digitsValue_ofNat word.length
      cases word
      exact congrArg₂ Word.mk length terminator
    refine ⟨⟨⟨[],i :: l.lead.items,by simp⟩,l.last,l.ending,l.periods⟩,rfl,?_,?_⟩
    · simp only [written,List.flatMap_cons] at text ⊢
      rw [← text]
      simp [Layout.text,Lead.text,before,Item.text,i,numeral]
    · simp only [Layout.words,List.map_cons,itself,List.cons_append]
      exact congrArg (word :: ·) words

/-! ### What reading gives -/

theorem parts_parting {run : Text} (separators : ∀ c ∈ run, isSeparator c = true) : Parts (parting run) := by
  unfold parting
  split
  · exact .inl rfl
  · next some_mark =>
    refine .inr ⟨some_mark,fun c member => ?_⟩
    obtain ⟨inside,seen⟩ := List.mem_filter.mp member
    have seen : Unicode.isSpace c = false := by simpa using seen
    simpa [isSeparator,seen,or_assoc] using separators c inside

theorem Item.parts (i : Item) : Parts i.word.terminator := by
  rw [← parting_eq]
  exact parts_parting i.separators

theorem listed_layout (l : Layout) : Listed l.words := by
  obtain ⟨⟨before,items,_⟩,last,ending,periods⟩ := l
  simp only [Layout.words]
  induction items with
  | nil => exact .last last.positive fun c member => by simpa using (List.mem_filter.mp member).2
  | cons i items ih => exact .more i.positive i.parts ih

theorem read_written (listed : Listed words) (clue : Text) : read (written words) clue = .ok words := by
  obtain ⟨l,_,text,same⟩ := exists_layout_of_listed listed
  rw [← text,read_layout,same]

theorem listed_of_read {s clue : Text} (read : read s clue = .ok words) : Listed words := by
  obtain ⟨l,_,rfl⟩ := read_eq_ok_iff.mp read
  exact listed_layout l

end Enumeration

/-! ### Clue strings -/

namespace Wording
variable {label : Label} {text clue before after : Text} {words : List Word} {w : Wording}

theorem strip_written (spaces : ∀ c ∈ before ++ after, Unicode.isSpace c = true) :
    Text.strip (before ++ written label text words ++ after) = written label text words := by
  refine strip_surrounded spaces (by simp [written]) ?_ ?_
  · rw [written,Label.written_eq,Label.Segment.text,List.append_assoc,List.append_assoc]
    exact breaks_ofNat fun _ => isSpace_of_isDigit
  · have last : written label text words =
        (label.written ++ '.' :: (text ++ '(' :: Enumeration.written words)) ++ [')'] := by simp [written]
    rw [last,List.reverse_append]
    exact breaks_cons (by decide)

theorem read_written (listed : Enumeration.Listed words) (spaces : ∀ c ∈ before ++ after, Unicode.isSpace c = true) :
    read (before ++ written label text words ++ after) =
      .ok ⟨⟨label.written,text,Enumeration.written words⟩,label,Text.strip text,words⟩ := by
  have shape : ClueParts.ofText? (before ++ written label text words ++ after) =
      some ⟨label.written,text,Enumeration.written words⟩ :=
    ofText?_eq_some_iff.mpr ⟨(strip_written spaces).symm,fun period => Label.not_period_of_mem_written period rfl,
      fun parenthesis => Enumeration.not_parenthesis_of_mem_written listed parenthesis rfl⟩
  simp only [read,ClueParts.read,shape,Label.read_written,Enumeration.read_written listed]

theorem listed_of_read (given : read clue = .ok w) : Enumeration.Listed w.words ∧ Text.strip w.text = w.text := by
  unfold Wording.read at given
  split at given
  · cases given
  · next parts _ =>
    split at given
    · cases given
    · split at given
      · cases given
      · next listed =>
        cases given
        exact ⟨Enumeration.listed_of_read listed,strip_strip parts.text⟩

/-- Reading undoes writing: whatever the label and the text of a clue are and whatever
    white space stands around it, the clue string reads as what it was written from. And
    what any clue string reads as can be written and reads as the same again. -/
theorem reads_written :
    (∀ (label : Label) (text : Text) (words : List Word) (before after : Text),
      Enumeration.Listed words → (∀ c ∈ before ++ after, Unicode.isSpace c = true) →
        read (before ++ written label text words ++ after) =
          .ok ⟨⟨label.written,text,Enumeration.written words⟩,label,Text.strip text,words⟩) ∧
      ∀ (clue : Text) (w : Wording), read clue = .ok w →
        Enumeration.Listed w.words ∧
          read (written w.label w.text w.words) =
            .ok ⟨⟨w.label.written,w.text,Enumeration.written w.words⟩,w.label,w.text,w.words⟩ := by
  refine ⟨fun label text words before after listed spaces => read_written listed spaces,fun clue w given => ?_⟩
  obtain ⟨listed,stripped⟩ := listed_of_read given
  have again : read ([] ++ written w.label w.text w.words ++ []) = _ := read_written listed (by simp)
  rw [List.nil_append,List.append_nil,stripped] at again
  exact ⟨listed,again⟩

/-- A label of three clues. -/
def threeSegments : Label := ⟨⟨9,none⟩,[⟨3,some .across⟩,⟨4,some .down⟩]⟩

/-- An enumeration of three words, the last of them followed by periods. -/
def threeWords : List Word := [⟨5,[',']⟩,⟨3,[' ']⟩,⟨4,['.','.']⟩]

/-- A text with a parenthesis, a period and a line break of its own is read between its
    label and its enumeration; and a clue string that is spaced more freely reads as one that
    is written anew. -/
theorem reads_grandFinale :
    (Enumeration.Listed threeWords ∧
      read "\t9,3a,4d. Grand (finale.\nOh(5,3 4..)\n".toList =
        .ok ⟨⟨"9,3a,4d".toList," Grand (finale.\nOh".toList,"5,3 4..".toList⟩,threeSegments,
          "Grand (finale.\nOh".toList,threeWords⟩) ∧
      read "09 ;3a&4d .Grand finale ( 05, 3  4. .)".toList =
        .ok ⟨⟨"09 ;3a&4d ".toList,"Grand finale ".toList," 05, 3  4. .".toList⟩,threeSegments,
          "Grand finale".toList,threeWords⟩ ∧
      read "9,3a,4d.Grand finale(5,3 4..)".toList =
        .ok ⟨⟨"9,3a,4d".toList,"Grand finale".toList,"5,3 4..".toList⟩,threeSegments,
          "Grand finale".toList,threeWords⟩ := by
  have listed : Enumeration.Listed threeWords :=
    .more (by decide) (.inr (by simp)) (.more (by decide) (.inl rfl) (.last (by decide) (by simp)))
  have spaced : read "09 ;3a&4d .Grand finale ( 05, 3  4. .)".toList =
      .ok ⟨⟨"09 ;3a&4d ".toList,"Grand finale ".toList," 05, 3  4. .".toList⟩,threeSegments,
        "Grand finale".toList,threeWords⟩ := by decide +kernel
  have around : ∀ c ∈ ['\t'] ++ ['\n'], Unicode.isSpace c = true :=
    List.forall_mem_cons.mpr ⟨by decide,List.forall_mem_singleton.mpr (by decide)⟩
  exact ⟨⟨listed,reads_written.1 threeSegments " Grand (finale.\nOh".toList threeWords ['\t'] ['\n'] listed around⟩,
    spaced,(reads_written.2 _ _ spaced).2⟩

end Wording

end Crossword

import Crossword.Text

/-!
# Emphasis

Clue text may mark words as italic, bold or both by fences of one, two or three
asterisks or underscores. A fenced span becomes a tagged one. The rules run
from the longest fence to the shortest, since a short fence would otherwise eat
part of a long one, and each rule runs over the whole text that the rules before
it have left.
-/
namespace Crossword.Emphasis

/-- How strongly a span is emphasised. -/
inductive Weight where
  | boldItalic
  | bold
  | italic
  deriving DecidableEq, Repr

/-- The number of markers in a fence. -/
def Weight.size : Weight → Nat
  | .boldItalic => 3
  | .bold => 2
  | .italic => 1

/-- The tag that a span of this weight begins with. -/
def Weight.openTag : Weight → Text
  | .boldItalic => "<span class=\"cw-bold cw-italic\">".toList
  | .bold => "<span class=\"cw-bold\">".toList
  | .italic => "<span class=\"cw-italic\">".toList

/-- The tag that every span ends with. -/
def closeTag : Text := "</span>".toList

/-- A rule of emphasis: the marker that its fences are made of and the weight
that they stand for. -/
structure Rule where
  marker : Char
  weight : Weight
  deriving DecidableEq, Repr

/-- The rules in the order in which they run. -/
def rules : List Rule :=
  [⟨'*', .boldItalic⟩, ⟨'_', .boldItalic⟩, ⟨'*', .bold⟩, ⟨'_', .bold⟩, ⟨'*', .italic⟩, ⟨'_', .italic⟩]

/-- The fence of a rule. -/
def Rule.fence (r : Rule) : Text := List.replicate r.weight.size r.marker

/-! ## Spans -/

/-- What follows the fence at the start of a text, if one stands there. -/
def Rule.afterFence? (r : Rule) (s : Text) : Option Text :=
  if r.fence.isPrefixOf s then some (s.drop r.weight.size) else none

/-- The shortest content that a closing fence follows, and what comes after that
fence. Content is not empty, stays on its line and does not end with a marker. -/
def Rule.content? (r : Rule) : Text → Option (Text × Text)
  | [] => none
  | c :: rest =>
    if c = '\n' then none
    else
      match if c = r.marker then none else r.afterFence? rest with
      | some after => some ([c], after)
      | none => (r.content? rest).map fun (content, after) => (c :: content, after)

/-- The content of the span that a text begins with, and what comes after the
span. Content does not begin with a marker. -/
def Rule.span? (r : Rule) (s : Text) : Option (Text × Text) :=
  match r.afterFence? s with
  | none => none
  | some body => if body.head? = some r.marker then none else r.content? body

theorem Rule.length_afterFence? {r : Rule} {s after : Text} (h : r.afterFence? s = some after) :
    after.length ≤ s.length := by
  unfold Rule.afterFence? at h
  split at h
  · cases h; simp
  · cases h

theorem Rule.length_content? {r : Rule} {s content after : Text}
    (h : r.content? s = some (content, after)) : after.length < s.length := by
  induction s generalizing content with
  | nil => simp [Rule.content?] at h
  | cons c rest ih =>
    unfold Rule.content? at h
    split at h
    · cases h
    · split at h
      · next found =>
        split at found
        · cases found
        · cases h
          have := Rule.length_afterFence? found
          simp; omega
      · obtain ⟨⟨content', after'⟩, inner, same⟩ := Option.map_eq_some_iff.1 h
        cases same
        have := ih inner
        simp; omega

theorem Rule.length_span? {r : Rule} {s content after : Text}
    (h : r.span? s = some (content, after)) : after.length < s.length := by
  unfold Rule.span? at h
  split at h
  · cases h
  · next body fenced =>
    split at h
    · cases h
    · have := Rule.length_afterFence? fenced
      have := Rule.length_content? h
      omega

/-! ## Tagging -/

/-- A text under one rule is made of characters that stay and of spans. -/
inductive Piece where
  | plain (c : Char)
  | span (content : Text)
  deriving DecidableEq, Repr

/-- The pieces of a text: the earliest span, with the shortest content, comes
first, and the search goes on behind it. -/
def Rule.pieces (r : Rule) (s : Text) : List Piece :=
  match _spanned : r.span? s with
  | some (content, after) => .span content :: r.pieces after
  | none =>
    match s with
    | [] => []
    | c :: rest => .plain c :: r.pieces rest
termination_by s.length
decreasing_by
  · exact Rule.length_span? _spanned
  · simp

/-- The text that stands for a piece: a span stands between tags. -/
def Rule.tagged (r : Rule) : Piece → Text
  | .plain c => [c]
  | .span content => r.weight.openTag ++ content ++ closeTag

/-- The text with every span of one rule tagged. -/
def Rule.apply (r : Rule) (s : Text) : Text := (r.pieces s).flatMap r.tagged

/-- The text with all emphasis tagged. Markers that fence nothing stay. -/
def render (s : Text) : Text := rules.foldl (fun text rule => rule.apply text) s

end Crossword.Emphasis

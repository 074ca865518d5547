import StackTape.Text.Basic

namespace StackTape

/-!
# Lines of a text

A line ends at a line feed or at the end of the text.  The line feed is not part
of the line, nor is one carriage return directly before it; a carriage return
that no line feed follows stays.  A text that ends with a line feed has no empty
line after it.
-/

namespace Text

/-- A line's content, given the text before its line feed. -/
def dropCarriageReturn (line : Text) : Text :=
  if line.getLast? = some '\r' then line.dropLast else line

/-- Cut at every line feed; the last piece is what no line feed follows. -/
def splitAtFeeds : Text → List Text × Text
  | [] =>
      ([], [])
  | c :: rest =>
      let (ended, pending) := splitAtFeeds rest
      if c = '\n' then
        ([] :: ended, pending)
      else
        match ended with
        | [] =>
            ([], c :: pending)
        | first :: others =>
            ((c :: first) :: others, pending)

/-- The lines of a text. -/
def lines (text : Text) : List Text :=
  let (ended, pending) := splitAtFeeds text
  ended.map dropCarriageReturn ++ (if pending = [] then [] else [pending])

@[simp] theorem lines_nil :
    lines [] = [] :=
  rfl

/-- A text without a line feed is its only line. -/
theorem splitAtFeeds_eq_of_not_mem
    {text : Text}
    (noFeed : '\n' ∉ text) :
    splitAtFeeds text = ([], text) := by
  induction text with
  | nil =>
      rfl
  | cons c rest inductionHypothesis =>
      simp only [List.mem_cons, not_or] at noFeed
      simp [splitAtFeeds, inductionHypothesis noFeed.2, Ne.symm noFeed.1]

/-- Cutting goes on behind a line feed as if the text started there. -/
theorem splitAtFeeds_append_feed
    {line : Text}
    (noFeed : '\n' ∉ line)
    (rest : Text) :
    splitAtFeeds (line ++ '\n' :: rest) =
      (line :: (splitAtFeeds rest).1, (splitAtFeeds rest).2) := by
  induction line with
  | nil =>
      simp [splitAtFeeds]
  | cons c others inductionHypothesis =>
      simp only [List.mem_cons, not_or] at noFeed
      simp [splitAtFeeds, inductionHypothesis noFeed.2, Ne.symm noFeed.1]

/-- The first line of a text that holds a line feed. -/
theorem lines_append_feed
    {line : Text}
    (noFeed : '\n' ∉ line)
    (rest : Text) :
    lines (line ++ '\n' :: rest) = dropCarriageReturn line :: lines rest := by
  simp [lines, splitAtFeeds_append_feed noFeed]

/-- A nonempty text without a line feed is one line. -/
theorem lines_of_not_mem
    {text : Text}
    (noFeed : '\n' ∉ text)
    (nonempty : text ≠ []) :
    lines text = [text] := by
  simp [lines, splitAtFeeds_eq_of_not_mem noFeed, nonempty]

end Text

end StackTape

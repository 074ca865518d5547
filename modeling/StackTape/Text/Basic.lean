namespace StackTape

/-!
# Texts

Programs, input lines and outputs are texts.  Every position, length and index
counts characters, so a text is simply its list of characters.
-/

/-- A text, one entry per character. -/
abbrev Text := List Char

namespace Text

/-- How many bytes the text takes as UTF-8. -/
def utf8Size (text : Text) : Nat :=
  text.foldr (fun c size => c.utf8Size + size) 0

@[simp] theorem utf8Size_append
    (first second : Text) :
    utf8Size (first ++ second) = utf8Size first + utf8Size second := by
  induction first with
  | nil =>
      simp [utf8Size]
  | cons c rest inductionHypothesis =>
      simp only [utf8Size, List.cons_append, List.foldr_cons]
        at inductionHypothesis ⊢
      omega

end Text

end StackTape

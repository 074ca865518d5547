import StackTape.Text.Basic

namespace StackTape

/-!
# Concealed brackets

Brackets inside literals must not take part in the nesting of a program.  Six code
points that are no characters of any text stand in for them: each bracket has its
stand-in, and disclosing a stand-in gives the bracket back.
-/

namespace Source

/-- The brackets that structure a program. -/
def isBracket (c : Char) : Bool :=
  c == '(' || c == ')' || c == '[' || c == ']' || c == '\x7b' || c == '\x7d'

/-- The stand-in of a bracket. -/
def standIn? : Char → Option Char
  | '(' =>
      some '\uFDD0'
  | ')' =>
      some '\uFDD1'
  | '[' =>
      some '\uFDD2'
  | ']' =>
      some '\uFDD3'
  | '\x7b' =>
      some '\uFDD4'
  | '\x7d' =>
      some '\uFDD5'
  | _ =>
      none

/-- The bracket's stand-in, any other character unchanged. -/
def conceal (c : Char) : Char :=
  (standIn? c).getD c

/-- The bracket that a stand-in stands for, any other character unchanged. -/
def disclose : Char → Char
  | '\uFDD0' =>
      '('
  | '\uFDD1' =>
      ')'
  | '\uFDD2' =>
      '['
  | '\uFDD3' =>
      ']'
  | '\uFDD4' =>
      '\x7b'
  | '\uFDD5' =>
      '\x7d'
  | c =>
      c

/-- Exactly the brackets have stand-ins. -/
theorem isSome_standIn?
    (c : Char) :
    (standIn? c).isSome = isBracket c := by
  unfold standIn?
  split <;> simp_all [isBracket]

/-- A concealed character is never a bracket. -/
@[simp] theorem isBracket_conceal
    (c : Char) :
    isBracket (conceal c) = false := by
  unfold conceal standIn?
  split <;> first | rfl | simp_all [isBracket]

/-- Concealing leaves a character that is no bracket alone. -/
theorem conceal_of_not_isBracket
    {c : Char}
    (plain : isBracket c = false) :
    conceal c = c := by
  have none : standIn? c = none := by
    rw [← Option.not_isSome_iff_eq_none, isSome_standIn?, plain]
    decide
  simp [conceal, none]

@[simp] theorem conceal_conceal
    (c : Char) :
    conceal (conceal c) = conceal c :=
  conceal_of_not_isBracket (isBracket_conceal c)

/-- Disclosing gives a concealed bracket back. -/
theorem disclose_conceal_of_isBracket
    {c : Char}
    (bracket : isBracket c = true) :
    disclose (conceal c) = c := by
  simp only [isBracket, Bool.or_eq_true, beq_iff_eq] at bracket
  rcases bracket with (((((rfl | rfl) | rfl) | rfl) | rfl) | rfl) <;> rfl

end Source

end StackTape

import StackTape.Cell.Basic

namespace StackTape

/-!
# The backup

Every invocation has one place beside its stacks, for one cell or for a copy of a
whole stack.
-/

/-- What an invocation has set aside. -/
inductive Backup where
  | empty
  | cell (kept : Cell)
  /-- A copy of a stack, bottom first. -/
  | column (kept : List Cell)
  deriving DecidableEq

namespace Backup

instance : Inhabited Backup :=
  ⟨empty⟩

/-- The text that names representations as well. -/
def inspect : Backup → String
  | .empty =>
      "Empty"
  | .cell kept =>
      let shown := kept.inspect
      s!"Value({shown})"
  | .column kept =>
      let shown := String.intercalate ", " (kept.map Cell.inspect)
      s!"Snapshot([{shown}])"

end Backup

end StackTape

import StackTape.Text.Shapeless

namespace StackTape

/-!
# Quoted texts

A message that shows a piece of input shows it between double quotes.  A quote, a
backslash and the usual control characters have escapes of two characters; every
other character without a shape of its own is shown by its code in hexadecimal.  Where
the input is a path, an apostrophe is escaped like a quote.
-/

namespace Text

/-- A character as it is shown between double quotes. -/
def quotedCharacter (c : Char) : Text :=
  if c = '"' then
    ['\\', '"']
  else if c = '\\' then
    ['\\', '\\']
  else if c = '\t' then
    ['\\', 't']
  else if c = '\r' then
    ['\\', 'r']
  else if c = '\n' then
    ['\\', 'n']
  else if c = '\x00' then
    ['\\', '0']
  else if isShapeless c then
    ['\\', 'u', '\x7b'] ++ Nat.toDigits 16 c.toNat ++ ['\x7d']
  else
    [c]

/-- The text between double quotes. -/
def quoted (text : Text) : Text :=
  ['"'] ++ text.flatMap quotedCharacter ++ ['"']

/-- A path between double quotes; an apostrophe in it has an escape, too. -/
def quotedPath (path : Text) : Text :=
  let shown := fun c => if c = '\'' then ['\\', c] else quotedCharacter c
  ['"'] ++ path.flatMap shown ++ ['"']

end Text

end StackTape

import StackTape.Text.Basic

namespace StackTape

/-!
# Opcodes

Every instruction is one character.  Most instructions are tasks: they work on the
current stack, the input and the output alone.  The others move the cursor, the look
along the tape, or what is set aside.  A character outside the table does nothing,
and a function bound to a character shadows its opcode.
-/

/-- An instruction on the current stack, the input and the output. -/
inductive Task where
  | digit (value : Nat)
  | readLine
  | readNumber
  | writeCharacter
  | writeNumber
  | reverse
  | add
  | subtract
  | multiply
  | divide
  | modulo
  | power
  | less
  | greater
  | equal
  | duplicate
  | pop
  | not
  | swap
  | random
  | length
  | countCharacters
  | splitDigits
  | joinDigits
  | sort
  | negate
  | index
  | range
  | wait
  | swapAt
  | increment
  | decrement
  | contains
  deriving DecidableEq, Repr

/-- What an instruction character stands for. -/
inductive Opcode where
  | task (task : Task)
  | number
  | string
  | character
  | loopStart
  | loopEnd
  | leaveLoops
  | define
  | load
  | store
  | moveLeft
  | moveRight
  | terminate
  deriving DecidableEq, Repr

namespace Task

/-- The task of a character. -/
def ofChar? (c : Char) : Option Task :=
  if c.isDigit then
    some (.digit (c.toNat - '0'.toNat))
  else
    match c with
    | 'i' => some .readLine
    | 'n' => some .readNumber
    | 'o' => some .writeCharacter
    | 'u' => some .writeNumber
    | 'r' => some .reverse
    | '+' => some .add
    | '-' => some .subtract
    | '*' => some .multiply
    | '/' => some .divide
    | '%' => some .modulo
    | '^' => some .power
    | 'L' => some .less
    | 'G' => some .greater
    | '=' => some .equal
    | ':' => some .duplicate
    | 'p' => some .pop
    | '!' => some .not
    | 'f' => some .swap
    | '?' => some .random
    | 'y' => some .length
    | 'c' => some .countCharacters
    | 'S' => some .splitDigits
    | 'J' => some .joinDigits
    | 'a' => some .sort
    | 'N' => some .negate
    | 'I' => some .index
    | 'R' => some .range
    | 'w' => some .wait
    | 'W' => some .swapAt
    | '\x60' => some .increment
    | ',' => some .decrement
    | '~' => some .contains
    | _ => none

end Task

namespace Opcode

/-- The opcode of a character; none for a character that does nothing. -/
def ofChar? : Char → Option Opcode
  | '(' => some .number
  | '"' => some .string
  | '\'' => some .character
  | '[' => some .loopStart
  | ']' => some .loopEnd
  | '$' => some .leaveLoops
  | '\x7b' => some .define
  | 'l' => some .load
  | 's' => some .store
  | '<' => some .moveLeft
  | '>' => some .moveRight
  | ';' => some .terminate
  | c => (Task.ofChar? c).map .task

end Opcode

end StackTape

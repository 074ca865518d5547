import StackTape.Decimal.Real

namespace StackTape

/-!
# Arguments of the command line

The arguments are read from left to right.  Flags of one letter may be clustered; an
option's value is attached to it, with or without an equals sign, or is the next
argument, which must then not look like a flag.  The first mistake decides, as does a
request for the version or for help that comes before any mistake.
-/

namespace CommandLine

/-- What a run from the command line is asked to do. -/
structure Options where
  file : Text
  /-- Log everything and announce every output. -/
  debug : Bool
  /-- Wait for a line before each further instruction. -/
  slow : Bool
  /-- The program's whole input. -/
  input : Option Text
  /-- Seconds between two instructions. -/
  time : Option Binary64
  /-- Tell how long the run took. -/
  timeit : Bool
  /-- Answer every read with an empty line. -/
  noInput : Bool
  deriving DecidableEq

/-- What the arguments ask for. -/
inductive Request where
  | run (options : Options)
  | version
  | help
  /-- The arguments make no sense. -/
  | misuse
  deriving DecidableEq

/-- The options that have a value. -/
inductive ValueOption where
  | input
  | time
  deriving DecidableEq

/-- The options that have none. -/
inductive Flag where
  | debug
  | slow
  | timeit
  | noInput
  | help
  | version
  deriving DecidableEq

/-- What an option's name stands for. -/
inductive OptionKind where
  | flag (flag : Flag)
  | value (option : ValueOption)
  deriving DecidableEq

/-- The options of one letter. -/
def short? : Char → Option OptionKind
  | 'd' => some (.flag .debug)
  | 's' => some (.flag .slow)
  | 'i' => some (.value .input)
  | 't' => some (.value .time)
  | 'h' => some (.flag .help)
  | 'V' => some (.flag .version)
  | _ => none

/-- The names of options behind two hyphens. -/
def longNames : List (String × OptionKind) :=
  [("debug", .flag .debug),
    ("slow", .flag .slow),
    ("input", .value .input),
    ("time", .value .time),
    ("timeit", .flag .timeit),
    ("no-input", .flag .noInput),
    ("help", .flag .help),
    ("version", .flag .version)]

/-- The option behind two hyphens. -/
def long? (name : Text) : Option OptionKind :=
  (longNames.find? fun (known, _) => known.toList = name).map fun (_, kind) =>
    kind

/-- The arguments read so far. -/
structure Draft where
  file : Option Text
  debug : Bool
  slow : Bool
  input : Option Text
  time : Option Binary64
  timeit : Bool
  noInput : Bool
  /-- The option whose value is the next argument. -/
  awaiting : Option ValueOption
  /-- Whether everything that follows names the file. -/
  filesOnly : Bool

namespace Draft

/-- Before the first argument. -/
def blank : Draft where
  file := none
  debug := false
  slow := false
  input := none
  time := none
  timeit := false
  noInput := false
  awaiting := none
  filesOnly := false

/-- Take a flag; none may be repeated. -/
def takeFlag
    (draft : Draft) : Flag → Except Request Draft
  | .debug =>
      if draft.debug then .error .misuse else .ok { draft with debug := true }
  | .slow =>
      if draft.slow then .error .misuse else .ok { draft with slow := true }
  | .timeit =>
      if draft.timeit then .error .misuse else .ok { draft with timeit := true }
  | .noInput =>
      if draft.noInput then .error .misuse else .ok { draft with noInput := true }
  | .help =>
      .error .help
  | .version =>
      .error .version

/-- Take the value of an option; none may be repeated. -/
def takeValue
    (draft : Draft)
    (value : Text) : ValueOption → Except Request Draft
  | .input =>
      if draft.input.isSome then
        .error .misuse
      else
        .ok { draft with input := some value, awaiting := none }
  | .time =>
      match draft.time, Decimal.real? value with
      | none, some seconds =>
          .ok { draft with time := some seconds, awaiting := none }
      | _, _ =>
          .error .misuse

/-- Take the path of the file; there is one, and it is not empty. -/
def takeFile
    (draft : Draft)
    (path : Text) : Except Request Draft :=
  if draft.file.isSome ∨ path = [] then
    .error .misuse
  else
    .ok { draft with file := some path }

/-- Take clustered options of one letter. -/
def takeCluster : Draft → Text → Except Request Draft
  | draft, [] =>
      .ok draft
  | draft, letter :: rest =>
      match short? letter with
      | none =>
          .error .misuse
      | some (.flag flag) =>
          match draft.takeFlag flag with
          | .error request =>
              .error request
          | .ok after =>
              takeCluster after rest
      | some (.value option) =>
          match rest with
          | [] =>
              .ok { draft with awaiting := some option }
          | '=' :: value =>
              draft.takeValue value option
          | value =>
              draft.takeValue value option

/-- Take an option behind two hyphens. -/
def takeLong
    (draft : Draft)
    (body : Text) : Except Request Draft :=
  let name := body.takeWhile (· != '=')
  let attached := (body.dropWhile (· != '=')).drop 1
  let hasAttached := body.contains '='
  match long? name with
  | none =>
      .error .misuse
  | some (.flag flag) =>
      if hasAttached then .error .misuse else draft.takeFlag flag
  | some (.value option) =>
      if hasAttached then
        draft.takeValue attached option
      else
        .ok { draft with awaiting := some option }

/-- Whether an argument cannot be the value of the option before it. -/
def looksLikeFlag : Text → Bool
  | '-' :: _ :: _ =>
      true
  | _ =>
      false

/-- Take the next argument. -/
def take
    (draft : Draft)
    (argument : Text) : Except Request Draft :=
  match draft.awaiting with
  | some option =>
      if looksLikeFlag argument then
        .error .misuse
      else
        draft.takeValue argument option
  | none =>
      if draft.filesOnly then
        draft.takeFile argument
      else
        match argument with
        | ['-', '-'] =>
            .ok { draft with filesOnly := true }
        | '-' :: '-' :: body =>
            draft.takeLong body
        | '-' :: letter :: rest =>
            draft.takeCluster (letter :: rest)
        | path =>
            draft.takeFile path

/-- What the arguments ask for once all are read. -/
def request (draft : Draft) : Request :=
  match draft.file, draft.awaiting with
  | some file, none =>
      .run
        { file := file
          debug := draft.debug
          slow := draft.slow
          input := draft.input
          time := draft.time
          timeit := draft.timeit
          noInput := draft.noInput }
  | _, _ =>
      .misuse

end Draft

/-- What the arguments ask for. -/
def readArguments (arguments : List Text) : Request :=
  match arguments.foldlM Draft.take .blank with
  | .ok draft =>
      draft.request
  | .error request =>
      request

end CommandLine

end StackTape

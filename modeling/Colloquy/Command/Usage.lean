import Colloquy.Text.Split

/-!
# Command Lines

How a list of arguments is read, whatever the program. A command takes options, each with one
value, and words; or it takes options and then a subcommand, which takes the rest of the line.
Every command knows the flag for help, and a command with subcommands the word for it.

An option's value may be attached with an equals sign or be the next argument. An option that
waits for its value takes any argument that does not look like an option itself, the name of a
subcommand included. Two dashes alone end options and subcommands for good.

An option is only settled when the next option or word is met or the line ends: that is when a
missing value, an empty path or a repetition is found out. What is wrong with an argument that
means nothing at all is found out at once, and a subcommand is read to its end before the option
in front of it is settled.

## Main definitions

* `UsageError`: What is wrong with a command line.
* `OptionShape`, `CommandShape`: The options, words and subcommands of a command.
* `CommandProgress`: What has been read of a command so far.
* `CommandLine`: The options and words of a command, and of its subcommand.
* `CommandShape.read`: The command line that arguments are.
-/

namespace Colloquy

/-- What is wrong with a command line. Being asked for help counts. -/
inductive UsageError where
  | help
  | missingEverything
  | missingSubcommand
  | missingArgument
  | unknownSubcommand
  | unknownArgument
  | surplusValue
  | badValue
  | conflict
  deriving DecidableEq, Repr

/-- An option of a command. A path may not be empty. -/
structure OptionShape where
  name : String
  isPath : Bool := false
  isRequired : Bool := false
  deriving DecidableEq, Repr

/-- The options, words and subcommands of a command. Options in `rivals` exclude a word. -/
inductive CommandShape where
  | leaf (name : String) (options : List OptionShape) (words : Nat) (required : Nat)
      (rivals : List String)
  | branch (name : String) (options : List OptionShape) (children : List CommandShape)
  deriving Repr

namespace CommandShape

/-- The name of a command. -/
def name : CommandShape → String
  | .leaf name .. => name
  | .branch name .. => name

/-- The options of a command. -/
def options : CommandShape → List OptionShape
  | .leaf _ options .. => options
  | .branch _ options _ => options

/-- The subcommands of a command. -/
def children : CommandShape → List CommandShape
  | .leaf .. => []
  | .branch _ _ children => children

/-- The number of words that a command takes. -/
def words : CommandShape → Nat
  | .leaf _ _ words .. => words
  | .branch .. => 0

/-- The number of words that a command needs. -/
def required : CommandShape → Nat
  | .leaf _ _ _ required _ => required
  | .branch .. => 0

/-- The options that exclude a word. -/
def rivals : CommandShape → List String
  | .leaf _ _ _ _ rivals => rivals
  | .branch .. => []

/-- The subcommand of a name. -/
def child? (shape : CommandShape) (name : String) : Option CommandShape :=
  shape.children.find? (·.name = name)

/-- The option of a name. -/
def option? (shape : CommandShape) (name : String) : Option OptionShape :=
  shape.options.find? (·.name = name)

/-- Whether a word is a subcommand of a command, the one for help included. -/
def knows (shape : CommandShape) (word : String) : Bool :=
  !shape.children.isEmpty && (word = "help" || (shape.child? word).isSome)

end CommandShape

/-- What has been read of a command: the options that are settled, the one that is not, with its
    value if it has met one, and the words. -/
structure CommandProgress where
  settled : List (String × String) := []
  waiting : Option (OptionShape × Option String) := none
  words : List String := []

namespace CommandProgress

/-- One more option settled. -/
def settle (progress : CommandProgress) (option : OptionShape) (value : String) :
    Except UsageError CommandProgress :=
  if progress.settled.any (·.1 = option.name) then .error .conflict
  else if option.isPath && value.isEmpty then .error .badValue
  else .ok { progress with settled := progress.settled ++ [(option.name, value)] }

/-- The option that was not settled yet, settled. -/
def finish (progress : CommandProgress) : Except UsageError CommandProgress :=
  match progress.waiting with
  | none => .ok progress
  | some (_, none) => .error .badValue
  | some (option, some value) => { progress with waiting := none }.settle option value

/-- The option that waits for its value, if one does. -/
def awaiting (progress : CommandProgress) : Option OptionShape :=
  match progress.waiting with
  | some (option, none) => some option
  | _ => none

/-- One more word, if the command takes one more. -/
def addWord (progress : CommandProgress) (shape : CommandShape) (word : String) (literal : Bool) :
    Except UsageError CommandProgress :=
  if progress.words.length < shape.words then
    progress.finish.map fun progress => { progress with words := progress.words ++ [word] }
  else if shape.children.isEmpty || (literal && shape.knows word) then .error .unknownArgument
  else .error .unknownSubcommand

/-- What an argument does that starts with two dashes, given what stands behind them. -/
def addLong (progress : CommandProgress) (shape : CommandShape) (body : String) :
    Except UsageError CommandProgress :=
  let (name, attached) := match splitOnce? '=' body.toList with
    | some (name, value) => (String.ofList name, some (String.ofList value))
    | none => (body, none)
  -- The flag for help takes no value, and an option before it is settled first.
  if name = "help" then
    if attached.isSome then .error .surplusValue
    else match progress.finish with
      | .ok _ => .error .help
      | .error error => .error error
  else match shape.option? name, attached with
    | none, _ => .error .unknownArgument
    | some option, some value => do (← progress.finish).settle option value
    | some option, none => do pure { (← progress.finish) with waiting := some (option, none) }

/-- What an argument does that starts with one dash, given what stands behind it. -/
def addShort (progress : CommandProgress) (body : List Char) : Except UsageError CommandProgress :=
  if body.head? = some 'h' then
    match progress.finish with
    | .ok _ => .error .help
    | .error error => .error error
  else .error .unknownArgument

/-- What an argument does that is neither a subcommand nor two dashes alone. -/
def add (progress : CommandProgress) (shape : CommandShape) (argument : String) :
    Except UsageError CommandProgress :=
  match argument.toList with
  | '-' :: '-' :: body => progress.addLong shape (String.ofList body)
  | '-' :: c :: body => progress.addShort (c :: body)
  | _ =>
    match progress.awaiting with
    | some option => .ok { progress with waiting := some (option, some argument) }
    | none => progress.addWord shape argument false

/-- Nothing, if a command has what it needs. -/
def check (progress : CommandProgress) (shape : CommandShape) : Except UsageError Unit :=
  if !shape.children.isEmpty then
    .error (if progress.settled.isEmpty then .missingEverything else .missingSubcommand)
  else if !progress.words.isEmpty && progress.settled.any (shape.rivals.contains ·.1) then
    .error .conflict
  else if progress.words.length < shape.required ||
      shape.options.any (fun option =>
        option.isRequired && !progress.settled.any (·.1 = option.name)) then
    .error .missingArgument
  else .ok ()

end CommandProgress

/-- The options and words of a command, and the line of its subcommand if it has one. -/
inductive CommandLine where
  | mk (name : String) (options : List (String × String)) (words : List String)
      (subcommand : Option CommandLine)
  deriving Repr

namespace CommandLine

/-- The name of the command. -/
def name : CommandLine → String
  | .mk name .. => name

/-- The value of an option. -/
def option? : CommandLine → String → Option String
  | .mk _ options .., name => options.lookup name

/-- A word of the command. -/
def word? : CommandLine → Nat → Option String
  | .mk _ _ words _, index => words[index]?

/-- The line of the subcommand. -/
def subcommand? : CommandLine → Option CommandLine
  | .mk _ _ _ subcommand => subcommand

end CommandLine

namespace CommandShape

/-- What the words behind the word for help ask for. -/
def helpOn : CommandShape → List String → UsageError
  | _, [] => .help
  | shape, word :: rest =>
    match shape.child? word with
    | some child => helpOn child rest
    | none =>
      if shape.knows word && rest.isEmpty then .help else .unknownSubcommand

/-- A command line without a subcommand, at its end. -/
def conclude (shape : CommandShape) (progress : CommandProgress) :
    Except UsageError CommandLine := do
  let progress ← progress.finish
  progress.check shape
  pure (.mk shape.name progress.settled progress.words none)

/-- The command line that words alone are, behind two dashes. -/
def readWords (shape : CommandShape) : CommandProgress → List String →
    Except UsageError CommandLine
  | progress, [] => shape.conclude progress
  | progress, word :: rest => do shape.readWords (← progress.addWord shape word true) rest

/-- The command line that arguments are, given what has been read of the command. -/
def readFrom : CommandShape → CommandProgress → List String → Except UsageError CommandLine
  | shape, progress, [] => shape.conclude progress
  | shape, progress, argument :: rest =>
    if progress.awaiting.isNone && shape.knows argument then
      match shape.child? argument with
      -- Only the word for help is known without a shape of its own.
      | none => .error (shape.helpOn rest)
      | some child => do
        let line ← readFrom child {} rest
        -- The option in front of the subcommand is settled only now.
        let progress ← progress.finish
        pure (.mk shape.name progress.settled [] (some line))
    else if argument = "--" then shape.readWords progress rest
    else do readFrom shape (← progress.add shape argument) rest

/-- The command line that arguments are. -/
def read (shape : CommandShape) (arguments : List String) : Except UsageError CommandLine :=
  shape.readFrom {} arguments

end CommandShape

end Colloquy

import VisualNovel.Command.Player

/-!
# Command lines

A command line names a command, with options before or behind its operand. An option has a long name
and may have a letter; letters may stand together, and a value may stand behind its option or be
part of it. No option may be given twice. A line is read from left to right up to its first fault;
help and the version are printed as soon as they are asked for, whatever stands behind.
-/

namespace VisualNovel

/-- The names of the commands. -/
inductive CommandName where
  /-- Play a game. -/
  | play
  /-- Check content. -/
  | check
  /-- List saved games. -/
  | saves
  /-- Delete saved games. -/
  | delete
  deriving DecidableEq

/-- The options that take a value. -/
inductive Setting where
  /-- The content directory. -/
  | directory
  /-- The story unit to begin with. -/
  | story
  /-- The directory of save files. -/
  | saves
  /-- The slot of the game to go on with. -/
  | load
  deriving DecidableEq

namespace Setting

/-- The long name of an option. -/
def name : Setting → String
  | .directory => "dir"
  | .story => "story"
  | .saves => "saves"
  | .load => "load"

end Setting

namespace CommandName

/-- The names in the order in which they are listed. -/
def all : List CommandName := [.play, .check, .saves, .delete]

/-- The word that names a command. -/
def word : CommandName → String
  | .play => "play"
  | .check => "check"
  | .saves => "saves"
  | .delete => "delete"

/-- The command that a word names. -/
def ofWord? (word : String) : Option CommandName :=
  all.find? fun name => name.word = word

theorem ofWord?_word (name : CommandName) : ofWord? name.word = some name := by
  cases name <;> decide

/-- The options of a command that take a value. -/
def settings : CommandName → List Setting
  | .play => [.directory, .story, .saves, .load]
  | .check => [.directory]
  | .saves => [.directory, .saves]
  | .delete => [.directory, .saves]

end CommandName

/-- What help is asked for about. -/
inductive HelpTopic where
  /-- The program. -/
  | program
  /-- A command. -/
  | command (name : CommandName)
  /-- The request for help. -/
  | help
  deriving DecidableEq

/-- A command with what was given for it. -/
inductive Command where
  /-- Play the game of a content directory. -/
  | play (directory : String) (saves : Option String) (options : PlayOptions)
  /-- Check a content directory. -/
  | check (directory : String)
  /-- List saved games. -/
  | saves (directory : String) (saves : Option String)
  /-- Delete the saved games of a slot. -/
  | delete (directory : String) (saves : Option String) (slot : Nat)
  /-- Print how the program or a command is used. -/
  | help (topic : HelpTopic)
  /-- Print the version of the program, in the name of a command if it was asked for there. -/
  | version (name : Option CommandName)
  deriving DecidableEq

/-- Why a command line was refused. -/
inductive UsageError where
  /-- No command is named. -/
  | noCommand
  /-- There is no such command. -/
  | unknownCommand (name : String)
  /-- There is no such option, or no operand is expected. -/
  | unexpected (argument : String)
  /-- An option or operand has no value. -/
  | missingValue (name : String)
  /-- The value is no slot number. -/
  | invalidSlot (text : String)
  /-- An option is given twice. -/
  | repeated (name : String)
  deriving DecidableEq

namespace UsageError

/-- The wording of an error. -/
def message : UsageError → String
  | .noCommand => "a command is required: play, check, saves or delete"
  | .unknownCommand name => "unrecognized subcommand '" ++ name ++ "'"
  | .unexpected argument => "unexpected argument '" ++ argument ++ "' found"
  | .missingValue name => "a value is required for '" ++ name ++ "' but none was supplied"
  | .invalidSlot text => "invalid value '" ++ text ++ "' for a slot"
  | .repeated name => "the argument '" ++ name ++ "' cannot be used multiple times"

end UsageError

/-- What was given on a command line so far. -/
structure Given where
  /-- Whether debug output is asked for. -/
  verbose : Bool
  /-- The content directory. -/
  directory : Option String
  /-- The story unit to begin with. -/
  story : Option String
  /-- The directory of save files. -/
  saves : Option String
  /-- The slot of the game to go on with. -/
  load : Option Nat
  /-- The slot among the operands. -/
  slot : Option Nat
  deriving DecidableEq

namespace Given

/-- Nothing was given. -/
def nothing : Given := ⟨false, none, none, none, none, none⟩

/-- Reads the path of an option; it may not be empty. -/
def readPath (setting : Setting) (text : String) : Except UsageError String :=
  if text.isEmpty then .error (.missingValue ("--" ++ setting.name)) else .ok text

/-- Reads the number of a slot. It may have a sign, and the only number with a minus is zero. -/
def readSlot (text : String) : Except UsageError Nat :=
  let slot? :=
    match text.toList with
    | '-' :: digits => (Text.digits? digits).filter (· = 0)
    | characters => Text.boundedNumeral? SaveFile.slotBound characters
  match slot? with
  | some slot => .ok slot
  | none => .error (.invalidSlot text)

/-- Whether an option that takes a value was given. -/
def has (given : Given) : Setting → Bool
  | .directory => given.directory.isSome
  | .story => given.story.isSome
  | .saves => given.saves.isSome
  | .load => given.load.isSome

/-- Takes an option with its value into account. -/
def set (given : Given) (setting : Setting) (value : String) : Except UsageError Given :=
  if given.has setting then .error (.repeated ("--" ++ setting.name))
  else
    match setting with
    | .directory => (readPath setting value).map fun path => { given with directory := some path }
    | .story => .ok { given with story := some value }
    | .saves => (readPath setting value).map fun path => { given with saves := some path }
    | .load => (readSlot value).map fun slot => { given with load := some slot }

/-- Takes the request for debug output into account. -/
def setVerbose (given : Given) : Except UsageError Given :=
  if given.verbose then .error (.repeated "--verbose") else .ok { given with verbose := true }

/-- Takes an operand of a command into account. -/
def addOperand (given : Given) (name : CommandName) (text : String) : Except UsageError Given :=
  if name = .delete && given.slot.isNone then
    (readSlot text).map fun slot => { given with slot := some slot }
  else .error (.unexpected text)

/-- The command of a name with what was given for it. -/
def toCommand (given : Given) (name : CommandName) : Except UsageError Command :=
  let directory := given.directory.getD "."
  match name, given.slot with
  | .play, _ => .ok (.play directory given.saves ⟨given.story, given.load⟩)
  | .check, _ => .ok (.check directory)
  | .saves, _ => .ok (.saves directory given.saves)
  | .delete, some slot => .ok (.delete directory given.saves slot)
  | .delete, none => .error (.missingValue "<SLOT>")

end Given

namespace Command

/-- Why the reading of a command line ends before its end. -/
inductive Ending where
  /-- The line has a fault. -/
  | refused (error : UsageError)
  /-- Help or the version is asked for. -/
  | answered (command : Command)

/-- The request for help behind the name of a command, or without one. -/
def helpOn : Option CommandName → Command
  | none => .help .program
  | some name => .help (.command name)

/-- Whether a command, or the program itself, has an option. -/
def allows (name : Option CommandName) (setting : Setting) : Bool :=
  name.any (·.settings.contains setting)

/-- Reads letters that stand together. What follows the letter of an option is its value; an option
with nothing behind it waits for its value. -/
def readLetters (name : Option CommandName) (argument : String) :
    List Char → Given → Except Ending (Given × Option Setting)
  | [], given => .ok (given, none)
  | letter :: rest, given =>
    if letter = 'h' then .error (.answered (helpOn name))
    else if letter = 'V' then .error (.answered (.version name))
    else if letter = 'v' then do
      let given ← given.setVerbose.mapError .refused
      readLetters name argument rest given
    else if letter = 'd' && allows name .directory then
      match rest with
      | [] => .ok (given, some .directory)
      | '=' :: value => do
        let given ← (given.set .directory (String.ofList value)).mapError .refused
        return (given, none)
      | value => do
        let given ← (given.set .directory (String.ofList value)).mapError .refused
        return (given, none)
    else .error (.refused (.unexpected argument))

/-- Reads an option by its long name, perhaps with its value behind an equality sign. An option
without its value waits for it. -/
def readLong (name : Option CommandName) (argument : String) (characters : List Char)
    (given : Given) : Except Ending (Given × Option Setting) :=
  let isNameCharacter (character : Char) : Bool := character ≠ '='
  let word := String.ofList (characters.takeWhile isNameCharacter)
  let setting? := [Setting.directory, .story, .saves, .load].find? fun setting =>
    setting.name = word && allows name setting
  match setting?, characters.dropWhile isNameCharacter with
  | some setting, [] => .ok (given, some setting)
  | some setting, _ :: value => do
    let given ← (given.set setting (String.ofList value)).mapError .refused
    return (given, none)
  | none, [] =>
    if word = "help" then .error (.answered (helpOn name))
    else if word = "version" then .error (.answered (.version name))
    else if word = "verbose" then do
      let given ← given.setVerbose.mapError .refused
      return (given, none)
    else .error (.refused (.unexpected argument))
  | none, _ :: _ => .error (.refused (.unexpected argument))

/-- Whether an argument can be the value of the option before it. -/
def isValue (argument : String) : Bool :=
  argument = "-" || !argument.startsWith "-"

/-- Reads an argument behind the name of a command. The option that it may end with waits for its
value. -/
def readArgument (name : CommandName) (argument : String) (given : Given) :
    Except Ending (Given × Option Setting) :=
  match argument.toList with
  | '-' :: '-' :: characters => readLong (some name) argument characters given
  | '-' :: letter :: letters => readLetters (some name) argument (letter :: letters) given
  | _ => ((given.addOperand name argument).map (·, none)).mapError .refused

/-- Reads the arguments behind the name of a command. Two dashes end the options. -/
def readArguments (name : CommandName) : List String → Given → Except Ending Given
  | [], given => .ok given
  | argument :: arguments, given =>
    if argument = "--" then
      (arguments.foldlM (fun given text => Given.addOperand given name text) given).mapError
        .refused
    else do
      match ← readArgument name argument given, arguments with
      | (given, none), arguments => readArguments name arguments given
      | (given, some setting), value :: rest =>
        if isValue value then
          let given ← (given.set setting value).mapError .refused
          readArguments name rest given
        else .error (.refused (.missingValue ("--" ++ setting.name)))
      | (_, some setting), [] => .error (.refused (.missingValue ("--" ++ setting.name)))

/-- Reads what follows the word `help`. -/
def readTopic : List String → Except Ending Command
  | [] => .ok (.help .program)
  | word :: rest =>
    match CommandName.ofWord? word, rest with
    | _, extra :: _ => .error (.refused (.unknownCommand extra))
    | some name, [] => .ok (.help (.command name))
    | none, [] =>
      if word = "help" then .ok (.help .help) else .error (.refused (.unknownCommand word))

/-- Reads a command line; flags may stand before the name of the command. -/
def readLine : List String → Given → Except Ending Command
  | [], _ => .error (.refused .noCommand)
  | argument :: arguments, given =>
    match CommandName.ofWord? argument with
    | some name => do
      let given ← readArguments name arguments .nothing
      (given.toCommand name).mapError .refused
    | none =>
      if argument = "help" then readTopic arguments
      else
        match argument.toList with
        | ['-', '-'] => .error (.refused ((arguments.head?.map .unexpected).getD .noCommand))
        | '-' :: '-' :: characters => do
          let (given, _) ← readLong none argument characters given
          readLine arguments given
        | '-' :: letter :: letters => do
          let (given, _) ← readLetters none argument (letter :: letters) given
          readLine arguments given
        | _ => .error (.refused (.unknownCommand argument))

/-- The command of a command line. -/
def ofArguments (arguments : List String) : Except UsageError Command :=
  match readLine arguments .nothing with
  | .ok command => .ok command
  | .error (.answered command) => .ok command
  | .error (.refused error) => .error error

end Command

end VisualNovel

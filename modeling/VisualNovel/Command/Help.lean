import VisualNovel.Command.Arguments

/-!
# Help

A page of help says what a command is for and how it is written, and lists what may be given. Each
list has two columns, and the second one begins two blanks behind the widest entry of the first.
-/

namespace VisualNovel

/-- A page of help. -/
structure HelpPage where
  /-- What the command is for. -/
  about : String
  /-- How the command is written. -/
  usage : String
  /-- The lists of the page: a heading, with entries and what they mean. -/
  lists : List (String × List (String × String))

namespace HelpPage

/-- The lines of a list with its heading. -/
def listLines (heading : String) (rows : List (String × String)) : List String :=
  let width := (rows.map fun row => row.1.length).foldl max 0
  (heading ++ ":") :: rows.map fun (entry, meaning) =>
    "  " ++ entry ++ String.ofList (List.replicate (width - entry.length + 2) ' ') ++ meaning

/-- The lines of a page. -/
def lines (page : HelpPage) : List String :=
  [page.about, "", "Usage: " ++ page.usage] ++
    page.lists.flatMap fun (heading, rows) => "" :: listLines heading rows

end HelpPage

namespace Setting

/-- An option in a page of help, with its meaning. -/
def helpRow : Setting → String × String
  | .directory =>
    ("-d, --dir <DIR>", "Content directory (default: current directory) [default: .]")
  | .story =>
    ("    --story <STORY>", "Story unit to start in (default: from novel.json, else \"start\")")
  | .saves => ("    --saves <SAVES>", "Save directory (default: <dir>/saves)")
  | .load => ("    --load <LOAD>", "Load this save slot instead of starting a new game")

end Setting

namespace CommandName

/-- What a command is for. -/
def about : CommandName → String
  | .play => "Play a content directory in the terminal"
  | .check => "Validate story units, goto targets, rules and configuration"
  | .saves => "List save slots"
  | .delete => "Delete a save slot"

end CommandName

namespace HelpTopic

/-- What the request for help is for. -/
def aboutHelp : String := "Print this message or the help of the given subcommand(s)"

/-- The options of a command, and those that every command has: the options with letters first. -/
def optionRows (settings : List Setting) : List (String × String) :=
  let (lettered, others) := settings.partition (· = .directory)
  lettered.map Setting.helpRow ++ [("-v, --verbose", "Log debug output to stderr")] ++
    others.map Setting.helpRow ++
    [("-h, --help", "Print help"), ("-V, --version", "Print version")]

/-- The page on a topic. -/
def page : HelpTopic → HelpPage
  | .program =>
    { about := "Novella: play and check visual novel content"
      usage := "nv [OPTIONS] <COMMAND>"
      lists := [
        ("Commands", CommandName.all.map (fun name => (name.word, name.about)) ++
          [("help", aboutHelp)]),
        ("Options", optionRows [])] }
  | .command name =>
    let operands := if name = .delete then [("<SLOT>", "Slot number")] else []
    { about := name.about
      usage := " ".intercalate (["nv", name.word, "[OPTIONS]"] ++ operands.map (·.1))
      lists := (if operands.isEmpty then [] else [("Arguments", operands)]) ++
        [("Options", optionRows name.settings)] }
  | .help =>
    { about := aboutHelp
      usage := "nv help [COMMAND]..."
      lists := [("Arguments", [("[COMMAND]...", "Print help for the subcommand(s)")])] }

end HelpTopic

namespace Command

/-- The line that names the program, or the command that its version was asked from. -/
def versionLine (name : Option CommandName) : String :=
  (match name with
  | none => "nv"
  | some name => "nv-" ++ name.word) ++ " 0.1.0"

end Command

end VisualNovel

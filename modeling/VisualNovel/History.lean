import VisualNovel.Json.Fields

/-!
# The history log

The log keeps the newest lines that were shown, up to a limit of at least one. An addition to a
full log drops the oldest line.
-/

namespace VisualNovel

/-- What a line in the log was. -/
inductive LineKind where
  /-- A line with a speaker. -/
  | dialogue
  /-- A line without a speaker. -/
  | narration
  /-- A title card. -/
  | titles
  deriving DecidableEq

/-- A line as it was shown. -/
structure HistoryEntry where
  /-- What the line was. -/
  kind : LineKind
  /-- The name of the speaker; empty for narration and titles. -/
  speaker : String
  /-- The text, without placeholders. -/
  text : String
  /-- The step that showed the line. -/
  step : Option Nat
  deriving DecidableEq

/-- The newest lines, oldest first. -/
structure History where
  /-- The lines, oldest first. -/
  entries : List HistoryEntry
  /-- The greatest number of lines. -/
  limit : Nat
  deriving DecidableEq

namespace LineKind

/-- The name of the kind in documents. -/
def name : LineKind → String
  | .dialogue => "dialogue"
  | .narration => "narration"
  | .titles => "titles"

/-- All kinds. -/
def all : List LineKind := [.dialogue, .narration, .titles]

end LineKind

namespace HistoryEntry

/-- A line with a speaker. -/
def dialogue (speaker text : String) : HistoryEntry := ⟨.dialogue, speaker, text, none⟩

/-- A line without a speaker. -/
def narration (text : String) : HistoryEntry := ⟨.narration, "", text, none⟩

/-- A title card. -/
def titles (text : String) : HistoryEntry := ⟨.titles, "", text, none⟩

/-- The line with the step that showed it. -/
def atStep (line : HistoryEntry) (step : Nat) : HistoryEntry := { line with step := some step }

end HistoryEntry

namespace History

/-- The limit when none is given. -/
def defaultLimit : Nat := 100

/-- A log without lines; a limit of zero counts as one. -/
def new (limit : Nat) : History := ⟨[], max limit 1⟩

/-- Adds a line and drops the oldest one of a full log. -/
def push (history : History) (line : HistoryEntry) : History :=
  let kept := if history.entries.length = history.limit then history.entries.drop 1
    else history.entries
  { history with entries := kept ++ [line] }

/-- The log without lines. -/
def clear (history : History) : History := { history with entries := [] }

/-- The log of other lines, added one by one. -/
def replace (history : History) (lines : List HistoryEntry) : History :=
  lines.foldl push history.clear

/-- The newest line. -/
def last? (history : History) : Option HistoryEntry := history.entries.getLast?

@[simp] theorem limit_push (history : History) (line : HistoryEntry) :
    (history.push line).limit = history.limit := rfl

end History

end VisualNovel

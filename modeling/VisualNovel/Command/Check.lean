import VisualNovel.Command.Basic

/-!
# Checking content

A check loads every story unit of a content directory and looks for jumps that lead nowhere, and
reads the configuration and the rules.
-/

namespace VisualNovel

/-- What is wrong with the content of a directory. -/
inductive Problem where
  /-- A story unit cannot be loaded. -/
  | content (cause : ContentError)
  /-- A step jumps to a target that is neither a label nor a unit. -/
  | lostTarget (unitId : String) (step : Nat) (target : String)
  /-- The configuration cannot be read. -/
  | configuration (cause : SessionError)
  /-- The file of rules is refused. -/
  | rules (path : String) (cause : RuleError)
  deriving DecidableEq

namespace Problem

/-- The wording of a problem. -/
def message : Problem → String
  | .content cause => cause.message
  | .lostTarget unitId step target =>
    unitId ++ " step " ++ toString step ++ ": goto target \"" ++ target ++
      "\" is neither a label nor a unit"
  | .configuration cause => cause.message
  | .rules path cause => path ++ ": " ++ cause.message

end Problem

/-- The result of a check. -/
structure Inspection where
  /-- The number of story units. -/
  units : Nat
  /-- The number of steps in those that can be loaded. -/
  steps : Nat
  /-- What is wrong. -/
  problems : List Problem
  deriving DecidableEq

namespace Inspection

/-- The jumps of a unit that lead to none of its labels and none of the known units. -/
def lostTargets (known : List String) (id : String) (story : StoryUnit) : List Problem :=
  story.gotoTargets.filterMap fun (step, target) =>
    if (story.labelIndex? target).isNone && !known.contains target then
      some (.lostTarget id step target)
    else none

/-- The number of steps of a unit and what is wrong with it. -/
def inspectUnit (content : Content) (known : List String) (id : String) : Nat × List Problem :=
  match content.storyUnit id with
  | .error cause => (0, [.content cause])
  | .ok story => (story.steps.length, lostTargets known id story)

/-- What is wrong with the configuration. -/
def configurationProblems (disk : Disk) (directory : String) : List Problem :=
  match Configuration.load disk directory with
  | .error cause => [.configuration cause]
  | .ok _ => []

/-- What is wrong with the rules; a file that cannot be read counts as absent. -/
def ruleProblems (disk : Disk) (directory : String) : List Problem :=
  let path := Disk.join directory Session.rulesFileName
  match disk.readText path with
  | .error _ => []
  | .ok content =>
    match Rule.parseAll (σ := Stage) content with
    | .error cause => [.rules path cause]
    | .ok _ => []

/-- Checks a content directory; there has to be a story unit. -/
def ofDirectory (disk : Disk) (directory : String) : Except CommandError Inspection :=
  let content := contentAt disk directory
  match content.storyUnitIds with
  | .error cause => .error (.session (.story (.content cause)))
  | .ok [] => .error (.noUnits (Disk.join directory "story"))
  | .ok ids =>
    let inspected := ids.map (inspectUnit content ids)
    .ok {
      units := ids.length
      steps := inspected.foldl (fun steps inspection => steps + inspection.1) 0
      problems := inspected.flatMap Prod.snd ++ configurationProblems disk directory ++
        ruleProblems disk directory }

/-- The report of a check. -/
def report (inspection : Inspection) : Report :=
  if inspection.problems.isEmpty then
    .success ["  All checks passed.", "  " ++ toString inspection.units ++ " story units, " ++
      toString inspection.steps ++ " steps"]
  else
    .failure (.problems inspection.problems.length)
      (inspection.problems.map fun problem => "  ✗ " ++ problem.message)

end Inspection

/-- The command that checks a content directory. -/
def checkCommand (disk : Disk) (directory : String) : Report :=
  match Inspection.ofDirectory disk directory with
  | .error error => .failure error []
  | .ok inspection => inspection.report

end VisualNovel

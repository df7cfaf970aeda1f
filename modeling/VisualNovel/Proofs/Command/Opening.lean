import VisualNovel.Proofs.Command.Checking
import VisualNovel.Proofs.Disk.Directories
import VisualNovel.Proofs.Rules.Registering

/-!
# Opening what a check has passed

A check reads the configuration as the opening of a session does, and it reads the file of rules. But
it does not register the rules, which has conditions of its own on their identifiers. So a directory
that passes a check is opened exactly when its rules are well named.
-/

namespace VisualNovel

/-! ## Rules that are refused -/

/-- What a refusal says of the identifiers of the rules. -/
def RuleError.Blames (ids : List String) : RuleError → Prop
  | .missingId => ∃ id ∈ ids, (Text.trimmed id).isEmpty = true
  | .duplicateId id => 1 < ids.count id
  | .malformed => False

theorem RuleError.Blames.append {cause : RuleError} {ids : List String} (blames : cause.Blames ids)
    (later : List String) : cause.Blames (ids ++ later) := by
  cases cause with
  | missingId =>
      obtain ⟨id, member, blank⟩ := blames
      exact ⟨id, List.mem_append_left _ member, blank⟩
  | duplicateId id =>
      have twice : 1 < ids.count id := blames
      simp only [RuleError.Blames, List.count_append]
      omega
  | malformed => exact blames

namespace RuleEngine

variable {σ : Type} {engine : RuleEngine σ} {rule : Rule σ} {rules : List (Rule σ)}
variable {cause : RuleError}

/-- A rule is refused for its identifier, which is blank or in use. -/
theorem register_error (refused : engine.register rule = .error cause) :
    cause.Blames (engine.rules.map Rule.id ++ [rule.id]) := by
  simp only [register] at refused
  split at refused
  · rename_i blank
    cases refused
    exact ⟨rule.id, by simp, blank⟩
  · split at refused
    · rename_i used
      cases refused
      have known : rule.id ∈ engine.rules.map Rule.id := by
        by_contra free
        rw [rule?_eq_none.2 free] at used
        cases used
      have present := List.count_pos_iff.2 known
      simp only [RuleError.Blames, List.count_append, List.count_singleton_self]
      omega
    · cases refused

theorem WellNamed.empty : WellNamed (RuleEngine.empty : RuleEngine σ).rules where
  distinct := List.nodup_nil
  visible := by simp [RuleEngine.empty]

/-- Rules that are well named give no reason for a refusal. -/
theorem WellNamed.not_blames (named : WellNamed rules) : ¬cause.Blames (rules.map Rule.id) := by
  intro blames
  cases cause with
  | missingId =>
      obtain ⟨id, member, blank⟩ := blames
      obtain ⟨rule, listed, rfl⟩ := List.mem_map.1 member
      rw [named.visible rule listed] at blank
      cases blank
  | duplicateId id => exact Nat.not_le.2 blames (List.nodup_iff_count.1 named.distinct id)
  | malformed => exact blames

/-- Rules are registered all, as if they had never fired, or one of them is refused for its
identifier. -/
theorem registerAll_ok_or_error (rules : List (Rule σ)) (engine : RuleEngine σ) :
    registerAll rules engine =
        ({ engine with rules := engine.rules ++ rules.map Rule.withoutStatistics }, .ok ()) ∨
      ∃ grown cause, registerAll rules engine = (grown, .error cause) ∧
        cause.Blames ((engine.rules ++ rules).map Rule.id) := by
  induction rules generalizing engine with
  | nil => simp [registerAll]
  | cons rule rules ih =>
      simp only [registerAll]
      split
      · rename_i grown registered
        obtain ⟨-, -, rfl⟩ := register_ok_iff.1 registered
        have rest := ih { engine with rules := engine.rules ++ [rule.withoutStatistics] }
        simpa [Rule.withoutStatistics] using rest
      · rename_i cause refused
        refine .inr ⟨engine, cause, rfl, ?_⟩
        have blames := (register_error refused).append (rules.map Rule.id)
        simpa using blames

end RuleEngine

/-! ## Directories that pass -/

variable {disk : Disk} {directory : String}

/-- The rules of a directory: those in its file of rules, and none without such a file. -/
inductive HasRules (disk : Disk) (directory : String) : List (Rule Stage) → Prop where
  | absent :
      disk.readText (Disk.join directory Session.rulesFileName) = .error .notFound →
      HasRules disk directory []
  | listed {content : String} {rules : List (Rule Stage)} :
      disk.readText (Disk.join directory Session.rulesFileName) = .ok content →
      Rule.parseAll content = .ok rules → HasRules disk directory rules

theorem configurationProblems_eq_nil :
    Inspection.configurationProblems disk directory = [] ↔
      ∃ configuration, Configuration.load disk directory = .ok configuration := by
  simp only [Inspection.configurationProblems]
  split
  · rename_i failed
    simp [failed]
  · rename_i configuration loaded
    simp [loaded]

/-- What stands at the path of an entry is found through a directory. -/
theorem isDirectory_of_entries {name : String} {entries : Dict DiskNode} (plain : Disk.IsPlain name)
    (proper : directory ≠ "") (found : disk.entries (Disk.join directory name) = .ok entries) :
    disk.isDirectory directory = true := by
  cases located : disk.locate (Disk.join directory name) with
  | error cause =>
      simp only [Disk.entries, Disk.node, located] at found
      cases found
  | ok place =>
      obtain ⟨location, held, lists⟩ := Disk.lists_of_locate_join plain proper located
      simp only [Disk.isDirectory]
      rw [Disk.node_of_located lists.located, lists.found]
      rfl

/-- A directory with a story unit is a directory. -/
theorem isDirectory_of_storyUnitIds (proper : directory ≠ "")
    (filled : (ContentDirectory.mk disk directory).storyUnitIds ≠ []) :
    disk.isDirectory directory = true := by
  have plain : Disk.IsPlain "story" := by constructor <;> decide
  simp only [ContentDirectory.storyUnitIds] at filled
  split at filled
  · rename_i entries found
    exact isDirectory_of_entries plain proper found
  · exact absurd rfl filled

theorem loadRules_eq (session : Session) (directory : String) {rules : List (Rule Stage)}
    (held : HasRules disk directory rules) :
    (session.loadRules disk directory) =
      ((session.registerRules rules).1.map fun _ => rules.length,
        (session.registerRules rules).2) := by
  simp only [Session.loadRules]
  cases held with
  | absent missing =>
      rw [missing]
      rfl
  | listed read parsed =>
      rw [read]
      dsimp only
      rw [parsed]

/-- A directory that passes a check has rules, when their file can be read. -/
theorem hasRules_of_passed (sound : Inspection.ruleProblems disk directory = [])
    (readable : ∀ cause, disk.readText (Disk.join directory Session.rulesFileName) = .error cause →
      cause = .notFound) : ∃ rules, HasRules disk directory rules := by
  simp only [Inspection.ruleProblems] at sound
  split at sound
  · rename_i cause failed
    rw [readable cause failed] at failed
    exact ⟨[], .absent failed⟩
  · rename_i content read
    split at sound
    · cases sound
    · rename_i rules parsed
      exact ⟨rules, .listed read parsed⟩

/-- A directory that passes a check, and whose file of rules can be read if there is one, is opened
exactly when its rules are well named. Then all of them are registered. Otherwise the opening fails
for a blank identifier or one that is there twice, and for nothing else. -/
theorem openSession_of_passed (passed : (checkCommand disk directory).exitCode = 0)
    (proper : directory ≠ "")
    (readable : ∀ cause, disk.readText (Disk.join directory Session.rulesFileName) = .error cause →
      cause = .notFound) (saves : Option String) :
    ∃ rules, HasRules disk directory rules ∧
      ((∃ session, openSession disk directory saves = .ok session) ↔
        RuleEngine.WellNamed rules) ∧
      (∀ session, openSession disk directory saves = .ok session →
        session.rules.rules = rules.map Rule.withoutStatistics) ∧
      ∀ error, openSession disk directory saves = .error error →
        ∃ cause, error = .session (.rule cause) ∧ cause.Blames (rules.map Rule.id) := by
  obtain ⟨filled, -, configured, sound⟩ := checkCommand_passed passed
  obtain ⟨configuration, loaded⟩ := configurationProblems_eq_nil.1 configured
  obtain ⟨rules, held⟩ := hasRules_of_passed sound readable
  refine ⟨rules, held, ?_⟩
  have standing := isDirectory_of_storyUnitIds proper filled
  simp only [openSession, standing, loaded, loadRules_eq _ _ held, Session.registerRules,
    Session.new]
  rcases RuleEngine.registerAll_ok_or_error rules .empty with taken | ⟨grown, cause, refused, blames⟩
  · have named := RuleEngine.WellNamed.registerAll RuleEngine.WellNamed.empty rules
    rw [taken] at named ⊢
    have original : RuleEngine.WellNamed rules :=
      named.ids (by simp [RuleEngine.empty, Rule.withoutStatistics, Function.comp_def])
    refine ⟨⟨fun _ => original, fun _ => ⟨_, rfl⟩⟩, ?_, ?_⟩
    · rintro session ⟨⟩
      rfl
    · rintro error ⟨⟩
  · rw [refused]
    refine ⟨⟨?_, ?_⟩, ?_, ?_⟩
    · rintro ⟨session, ⟨⟩⟩
    · intro named
      exact absurd blames named.not_blames
    · rintro session ⟨⟩
    · rintro error ⟨⟩
      exact ⟨cause, rfl, blames⟩

/-- A file of rules with two rules of one identifier. -/
def twinRules : String :=
  (Json.array [.object [("id", .text "intro")], .object [("id", .text "intro")]]).compact

/-- A disk with a game that has these rules. -/
def twinDisk : Disk where
  tree := .directory [("game", .directory [
    ("story", .directory [("start.json", .file (some (unitText [⟨none, .back⟩])))]),
    ("rules.json", .file (some twinRules))])]
  current := []

theorem twinDisk_ids : (ContentDirectory.mk twinDisk "game").storyUnitIds = ["start"] := by
  refine ContentDirectory.storyUnitIds_of_listed ?_ (by decide)
  simp only [Disk.entries, Disk.node, Disk.locate_eq]
  decide +kernel

theorem twinDisk_passes : (checkCommand twinDisk "game").exitCode = 0 := by
  simp only [checkCommand, Inspection.ofDirectory, contentAt, ContentDirectory.toContent,
    twinDisk_ids, List.map_cons, List.map_nil, Inspection.inspectUnit, ContentDirectory.storyUnit,
    ContentDirectory.readDocument, ContentDirectory.readOptional, Inspection.configurationProblems,
    Configuration.load, Inspection.ruleProblems, Disk.readText, Disk.node, Disk.locate_eq]
  decide +kernel

theorem twinDisk_reads :
    twinDisk.readText (Disk.join "game" Session.rulesFileName) = .ok twinRules := by
  simp only [Disk.readText, Disk.node, Disk.locate_eq]
  decide +kernel

theorem twinDisk_rules {rules : List (Rule Stage)} (held : HasRules twinDisk "game" rules) :
    rules.map Rule.id = ["intro", "intro"] := by
  have ids : (Rule.parseAll (σ := Stage) twinRules).toOption.map (List.map Rule.id) =
      some ["intro", "intro"] := by
    decide +kernel
  cases held with
  | absent missing =>
      rw [twinDisk_reads] at missing
      cases missing
  | listed read parsed =>
      rw [twinDisk_reads] at read
      cases read
      rw [parsed] at ids
      exact Option.some.inj ids

/-- The directory passes, and its opening fails for the identifier of its two rules. -/
theorem openSession_of_passed_twins :
    (checkCommand twinDisk "game").exitCode = 0 ∧
      openSession twinDisk "game" none = .error (.session (.rule (.duplicateId "intro"))) := by
  have readable : ∀ cause,
      twinDisk.readText (Disk.join "game" Session.rulesFileName) = .error cause →
        cause = .notFound := by
    rintro cause failed
    rw [twinDisk_reads] at failed
    cases failed
  obtain ⟨rules, held, opens, -, fails⟩ :=
    openSession_of_passed twinDisk_passes (by decide) readable none
  refine ⟨twinDisk_passes, ?_⟩
  have ids := twinDisk_rules held
  cases outcome : openSession twinDisk "game" none with
  | ok session =>
      have named := (opens.1 ⟨session, outcome⟩).distinct
      rw [ids] at named
      exact absurd named (by decide)
  | error error =>
      obtain ⟨cause, rfl, blames⟩ := fails error outcome
      rw [ids] at blames
      cases cause with
      | missingId =>
          obtain ⟨id, member, blank⟩ := blames
          obtain rfl : id = "intro" := by simpa using member
          exact absurd blank (by decide)
      | duplicateId id =>
          have listed : id ∈ ["intro", "intro"] :=
            List.count_pos_iff.1 (Nat.zero_lt_of_lt blames)
          obtain rfl : id = "intro" := by simpa using listed
          rfl
      | malformed => exact blames.elim

end VisualNovel

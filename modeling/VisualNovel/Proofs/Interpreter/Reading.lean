import VisualNovel.Proofs.Interpreter.Coherence
import VisualNovel.Proofs.Interpreter.Resuming
import VisualNovel.Proofs.State.Contents

/-!
# Reading a line in parts

A line is read by advances, between which other lines may be injected and dismissed, and the story
may be saved and resumed in another interpreter. However it is read, its assignments are applied
once and in order, it joins the log once, and each advance but the last shows one part.
-/

namespace VisualNovel

namespace Dialogue

/-- The assignments of a line and of its first parts, in order. -/
def assignments (line : Dialogue) (shown : Nat) : List String :=
  line.assignment.toList ++ (line.parts.take shown).filterMap DialoguePart.assignment

/-- Whether the log has gained an entry for each injected line, in order, and one for the line once
all parts are shown. -/
def Logged (line : Dialogue) (step shown : Nat) (injected gained : List HistoryEntry) : Prop :=
  if shown < line.parts.length then gained = injected
  else ∃ earlier entry later, line.IsLogged step entry ∧ injected = earlier ++ later ∧
    gained = earlier ++ entry :: later

variable {line : Dialogue} {step shown : Nat} {injected gained : List HistoryEntry}

theorem assignments_succ {part : DialoguePart}
    (found : line.parts[shown]? = some part) :
    line.assignments (shown + 1) = line.assignments shown ++ part.assignment.toList := by
  simp only [assignments]
  rw [List.take_add_one, found, List.filterMap_append, ← List.append_assoc]
  cases assignment : part.assignment <;> simp [assignment]

/-- The log of a line gains the line with its last part. -/
theorem Logged.succ {entry : HistoryEntry} (logged : line.Logged step shown injected gained)
    (below : shown < line.parts.length) (own : line.IsLogged step entry) :
    line.Logged step (shown + 1) injected
      (if shown + 1 < line.parts.length then gained else gained ++ [entry]) := by
  simp only [Logged] at logged ⊢
  rw [if_pos below] at logged
  subst logged
  split
  · rfl
  · exact ⟨gained, entry, [], own, (List.append_nil _).symm, rfl⟩

/-- The log of a line gains each injected line. -/
theorem Logged.snoc (logged : line.Logged step shown injected gained) (entry : HistoryEntry) :
    line.Logged step shown (injected ++ [entry]) (gained ++ [entry]) := by
  simp only [Logged] at logged ⊢
  split
  · rename_i below
    rw [if_pos below] at logged
    rw [logged]
  · rename_i all
    rw [if_neg all] at logged
    obtain ⟨earlier, own, later, isOwn, rfl, rfl⟩ := logged
    exact ⟨earlier, own, later ++ [entry], isOwn, by simp, by simp⟩

end Dialogue

namespace Interpreter

variable {content : Content} {settings : StorySettings} {line : Dialogue}
variable {fresh interpreter : Interpreter}

/-- The entry of the log for a line that is said. -/
def spoken (interpreter : Interpreter) (character : Option String) (text : String) :
    HistoryEntry :=
  let rendered := interpreter.state.substitute text
  let entry : HistoryEntry :=
    match character with
    | some id => .dialogue (interpreter.displayName id) rendered
    | none => .narration rendered
  entry.atStep interpreter.step

/-- An interpreter in the course of a run, about to perform a line for the first time. -/
structure BeforeLine (content : Content) (settings : StorySettings) (line : Dialogue)
    (interpreter : Interpreter) : Prop where
  sound : interpreter.Sound content settings
  current : interpreter.currentKind? = some (.dialogue line)
  done : interpreter.continuations = []
  fresh : interpreter.restoring = false
  room : 0 < settings.maxAutoSteps

/-- Whether the next advance leaves the step: no injected line is on screen, and nothing of the line
is left. -/
def isRead (interpreter : Interpreter) : Bool :=
  interpreter.continuations.isEmpty

/-- The ways to read a line up to the advance that leaves its step. The number counts the advances
that did not dismiss an injected line, and the list holds the entries of injected lines. -/
inductive Reading (content : Content) (settings : StorySettings) (line : Dialogue)
    (fresh : Interpreter) : Interpreter → Nat → List HistoryEntry → Prop where
  | began :
      Reading content settings line fresh ((fresh.showDialogue line).2.wait .dialogue).after 0 []
  | advanced {interpreter : Interpreter} {advances : Nat} {injected : List HistoryEntry} :
      Reading content settings line fresh interpreter advances injected →
      interpreter.isInterrupted = false → interpreter.isRead = false →
      Reading content settings line fresh interpreter.advance.after (advances + 1) injected
  | dismissed {interpreter : Interpreter} {advances : Nat} {injected : List HistoryEntry} :
      Reading content settings line fresh interpreter advances injected →
      interpreter.isInterrupted = true →
      Reading content settings line fresh interpreter.advance.after advances injected
  | injected {interpreter : Interpreter} {advances : Nat} {injected : List HistoryEntry}
      (character : Option String) (text : String) :
      Reading content settings line fresh interpreter advances injected →
      Reading content settings line fresh (interpreter.inject character text).after advances
        (injected ++ [interpreter.spoken character text])
  | resumed {interpreter other : Interpreter} {snapshot : Snapshot} {advances : Nat}
      {injected : List HistoryEntry} :
      Reading content settings line fresh interpreter advances injected →
      interpreter.snapshot = .ok snapshot → other.Sound content settings →
      interpreter.state.SameContents other.state →
      Reading content settings line fresh (other.resumeFrom snapshot).after advances injected

/-- What holds while a line is read. -/
structure Read (content : Content) (settings : StorySettings) (line : Dialogue)
    (fresh interpreter : Interpreter) (shown : Nat) (injected : List HistoryEntry) : Prop where
  sound : interpreter.Sound content settings
  story : interpreter.story = fresh.story
  step : interpreter.step = fresh.step
  settled : interpreter.restoring = false
  status : interpreter.status = .dialogue
  bounded : shown ≤ line.parts.length
  stack : ∃ covers, interpreter.continuations = covers ++ line.left shown ∧
    ∀ entry ∈ covers, ∃ screen, entry = .interjection screen .dialogue
  state : ((line.assignments shown).foldl StateTree.assigned fresh.state).SameContents
    interpreter.state
  log : ∃ gained, interpreter.history.entries =
      History.newest fresh.history.limit (fresh.history.entries ++ gained) ∧
    line.Logged fresh.step shown injected gained

/-! ## What each way of reading keeps -/

theorem assignOptional_state (interpreter : Interpreter) (expression : Option String) :
    (interpreter.assignOptional expression).state =
      expression.toList.foldl StateTree.assigned interpreter.state := by
  cases expression <;> rfl

/-- A line that was performed for the first time has its own assignment applied. -/
theorem BeforeLine.read (before : BeforeLine content settings line fresh) :
    Read content settings line fresh ((fresh.showDialogue line).2.wait .dialogue).after 0 [] := by
  have sound : (fresh.showDialogue line).2.Sound content settings :=
    before.sound.evolves (showDialogue_evolves (fun _ => trivial) fresh line :
      Evolves (fun _ => True) fresh _)
  obtain ⟨screen, entry, lined, logged, same⟩ := showDialogue_fresh before.fresh line
  have backstage := assignOptional_backstage fresh line.assignment
  have bounded : fresh.history.Bounded := before.sound.history
  rw [same] at sound ⊢
  refine ⟨sound, backstage.story, backstage.step, rfl, rfl, Nat.zero_le _, ?_, ?_, ?_⟩
  · refine ⟨[], ?_, by simp⟩
    change line.left 0 ++ fresh.continuations = _
    rw [before.done]
    simp
  · change StateTree.SameContents _ (fresh.assignOptional line.assignment).state
    rw [assignOptional_state]
    simp [Dialogue.assignments, StateTree.SameContents.refl]
  · change ∃ gained, (if line.parts.length = 0 then fresh.history.push entry
      else fresh.history).entries = _ ∧ _
    split
    · rename_i single
      refine ⟨[entry], bounded.push_entries entry, ?_⟩
      simp only [Dialogue.Logged]
      rw [single, if_neg (Nat.lt_irrefl _)]
      exact ⟨[], entry, [], logged, rfl, rfl⟩
    · rename_i several
      refine ⟨[], by rw [List.append_nil, History.newest_of_le bounded.within], ?_⟩
      unfold Dialogue.Logged
      rw [if_pos (Nat.pos_of_ne_zero several)]

variable {shown : Nat} {injected : List HistoryEntry}

theorem Read.currentKind? (read : Read content settings line fresh interpreter shown injected)
    (current : fresh.currentKind? = some (.dialogue line)) :
    interpreter.currentKind? = some (.dialogue line) := by
  simp only [Interpreter.currentKind?, Interpreter.currentStep?] at current ⊢
  rw [read.story, read.step]
  exact current

/-- What is left when no injected line is on screen. -/
theorem Read.uncovered (read : Read content settings line fresh interpreter shown injected)
    (top : interpreter.isInterrupted = false) : interpreter.continuations = line.left shown := by
  obtain ⟨covers, stack, all⟩ := read.stack
  cases covers with
  | nil => exact stack
  | cons cover covers =>
      obtain ⟨screen, rfl⟩ := all cover (List.mem_cons_self ..)
      simp only [isInterrupted] at top
      rw [stack] at top
      cases top

theorem Read.unread (read : Read content settings line fresh interpreter shown injected)
    (top : interpreter.isInterrupted = false) (unread : interpreter.isRead = false) :
    shown < line.parts.length := by
  have left := read.uncovered top
  simp only [Dialogue.left] at left
  split at left
  · assumption
  · simp only [isRead] at unread
    rw [left] at unread
    cases unread

/-- An advance that dismisses an injected line changes nothing but the screen. -/
theorem Read.dismissed (read : Read content settings line fresh interpreter shown injected)
    (top : interpreter.isInterrupted = true) :
    Read content settings line fresh interpreter.advance.after shown injected := by
  obtain ⟨covers, stack, all⟩ := read.stack
  cases covers with
  | nil =>
      simp only [isInterrupted] at top
      rw [stack] at top
      simp only [Dialogue.left] at top
      split at top <;> cases top
  | cons cover covers =>
      obtain ⟨screen, rfl⟩ := all cover (List.mem_cons_self ..)
      rw [List.cons_append] at stack
      rw [advance_uncover stack]
      exact { read with
        status := rfl
        stack := ⟨covers, rfl, fun entry member => all entry (List.mem_cons_of_mem _ member)⟩ }

/-- The logs of sound interpreters have one limit. -/
theorem Sound.limit_eq {other : Interpreter} (sound : interpreter.Sound content settings)
    (sameSound : other.Sound content settings) :
    other.history.limit = interpreter.history.limit :=
  (World.Sound.limit sameSound).trans (World.Sound.limit sound).symm

/-- The log of what is read, after one more entry. -/
theorem Read.push_entries (read : Read content settings line fresh interpreter shown injected)
    (sound : fresh.Sound content settings) {gained : List HistoryEntry} (entry : HistoryEntry)
    (log : interpreter.history.entries =
      History.newest fresh.history.limit (fresh.history.entries ++ gained)) :
    (interpreter.history.push entry).entries =
      History.newest fresh.history.limit (fresh.history.entries ++ (gained ++ [entry])) := by
  have bounded : interpreter.history.Bounded := World.Sound.history read.sound
  rw [bounded.push_entries, sound.limit_eq read.sound, log, History.newest_append,
    List.append_assoc]

/-- An advance shows the next part, as long as one is left. -/
theorem Read.advance_eq (read : Read content settings line fresh interpreter shown injected)
    (top : interpreter.isInterrupted = false) (below : shown < line.parts.length) :
    interpreter.advance = { interpreter with continuations := [] }.showPart shown := by
  have left := read.uncovered top
  simp only [Dialogue.left] at left
  rw [if_pos below] at left
  simp only [advance]
  rw [left, read.status]
  rfl

theorem Read.advanced (read : Read content settings line fresh interpreter shown injected)
    (before : BeforeLine content settings line fresh)
    (top : interpreter.isInterrupted = false) (below : shown < line.parts.length) :
    Read content settings line fresh interpreter.advance.after (shown + 1) injected := by
  have sound : interpreter.advance.after.Sound content settings :=
    read.sound.evolves (advance_evolves (fun _ => trivial) interpreter :
      Evolves (fun _ => True) interpreter _)
  have current : { interpreter with continuations := [] }.currentKind? = some (.dialogue line) :=
    read.currentKind? before.current
  obtain ⟨part, screen, entry, found, -, own, same⟩ := showPart_eq current below
  have backstage := assignOptional_backstage { interpreter with continuations := [] }
    part.assignment
  obtain ⟨gained, log, logged⟩ := read.log
  rw [read.advance_eq top below, same] at sound ⊢
  refine ⟨sound, backstage.story.trans read.story, backstage.step.trans read.step, ?_, rfl, below,
    ?_, ?_, ?_⟩
  · change (Interpreter.assignOptional { interpreter with continuations := [] }
      part.assignment).restoring = false
    cases part.assignment <;> exact read.settled
  · refine ⟨[], ?_, by simp⟩
    change line.left (shown + 1) ++ [] = _
    simp
  · change StateTree.SameContents _ (Interpreter.assignOptional
      { interpreter with continuations := [] } part.assignment).state
    rw [assignOptional_state, Dialogue.assignments_succ found, List.foldl_append]
    exact StateTree.foldl_assigned_contents _ read.state
  · refine ⟨_, ?_, logged.succ below (read.step ▸ own)⟩
    change (if shown + 1 < line.parts.length then interpreter.history
      else interpreter.history.push entry).entries = _
    split
    · exact log
    · exact read.push_entries before.sound entry log

theorem Read.inject (read : Read content settings line fresh interpreter shown injected)
    (before : BeforeLine content settings line fresh) (character : Option String)
    (text : String) :
    Read content settings line fresh (interpreter.inject character text).after shown
      (injected ++ [interpreter.spoken character text]) := by
  have sound : (interpreter.inject character text).after.Sound content settings :=
    read.sound.evolves (say_evolves interpreter character text :
      Evolves (fun _ => True) interpreter _)
  obtain ⟨covers, stack, all⟩ := read.stack
  obtain ⟨gained, log, logged⟩ := read.log
  have pushed : (interpreter.inject character text).after.history =
      interpreter.history.push (interpreter.spoken character text) := by
    cases character <;> rfl
  refine { read with sound, status := rfl, stack := ?_, log := ?_ }
  · refine ⟨.interjection interpreter.screen interpreter.status :: covers, ?_, ?_⟩
    · change _ :: interpreter.continuations = _
      rw [stack]
      rfl
    · intro entry member
      rcases List.mem_cons.1 member with rfl | old
      · exact ⟨interpreter.screen, by rw [read.status]⟩
      · exact all entry old
  · refine ⟨_, ?_, logged.snoc _⟩
    rw [pushed]
    exact read.push_entries before.sound _ log

/-! ## Saving and resuming in the middle of a line -/

/-- The next part is found under injected lines. -/
theorem nextPart?_eq {covers : List Continuation}
    (all : ∀ entry ∈ covers, ∃ screen, entry = .interjection screen .dialogue) (line : Dialogue)
    (shown : Nat) :
    (covers ++ line.left shown).findSome? Continuation.nextPart? =
      if shown < line.parts.length then some shown else none := by
  induction covers with
  | nil =>
      simp only [Dialogue.left]
      split <;> rfl
  | cons cover covers ih =>
      obtain ⟨screen, rfl⟩ := all cover (List.mem_cons_self ..)
      exact ih fun entry member => all entry (List.mem_cons_of_mem _ member)

/-- A snapshot knows how many parts are shown. -/
theorem Read.shownParts?_eq (read : Read content settings line fresh interpreter shown injected)
    (before : BeforeLine content settings line fresh) :
    min (interpreter.shownParts?.getD 0) line.parts.length = shown := by
  have current : interpreter.currentStep?.map Step.kind = some (.dialogue line) :=
    read.currentKind? before.current
  obtain ⟨covers, stack, all⟩ := read.stack
  have bounded := read.bounded
  simp only [shownParts?]
  rw [current, stack]
  dsimp only
  rw [nextPart?_eq all]
  split
  · rename_i single
    have none_left : line.parts.length = 0 := by simpa using single
    simp only [Option.getD_none]
    omega
  · split <;> simp only [Option.getD_some, Option.getD_none] <;> omega

theorem Read.resumed {other : Interpreter} {snapshot : Snapshot}
    (read : Read content settings line fresh interpreter shown injected)
    (before : BeforeLine content settings line fresh)
    (saved : interpreter.snapshot = .ok snapshot) (sound : other.Sound content settings)
    (same : interpreter.state.SameContents other.state) :
    Read content settings line fresh (other.resumeFrom snapshot).after shown injected := by
  have current := read.currentKind? before.current
  simp only [Interpreter.currentKind?] at current
  obtain ⟨step, found, kind⟩ := Option.map_eq_some_iff.1 current
  simp only [currentStep?] at found
  obtain ⟨story, running, position⟩ := Option.bind_eq_some_iff.1 found
  have taken := snapshot_eq running saved
  have place : snapshot.step = interpreter.step := by rw [taken]
  have kept : (other.resumeFrom snapshot).after.Sound content settings :=
    sound.evolves (resumeFrom_evolves (fun _ => trivial) other snapshot :
      Evolves (fun _ => True) other _)
  obtain ⟨source, delivered, named⟩ := read.sound.delivered running
  have waits : step.kind.pause? = some .dialogue := by
    rw [kind]
    rfl
  obtain ⟨units, screen, restoreParts, resumed⟩ := sound.resumeFrom_suspended before.room delivered
    named (by rw [taken]) (place ▸ position) waits
  rw [resumed] at kept ⊢
  refine ⟨kept, ?_, ?_, rfl, rfl, read.bounded, ?_, ?_, ?_⟩
  · exact running.symm.trans read.story
  · change min snapshot.step story.steps.length = fresh.step
    rw [place, Nat.min_eq_left (Nat.le_of_lt (step?_lt position))]
    exact read.step
  · refine ⟨[], ?_, by simp⟩
    change step.kind.left (snapshot.dialoguePart.getD 0) = line.left shown
    rw [kind, taken]
    simp only [StepKind.left]
    rw [read.shownParts?_eq before]
  · exact read.state.trans same
  · obtain ⟨gained, log, logged⟩ := read.log
    refine ⟨gained, ?_, logged⟩
    have bounded : interpreter.history.Bounded := World.Sound.history read.sound
    have target : other.history.Bounded := World.Sound.history sound
    change (other.history.replace (snapshot.history.getD _)).entries = _
    rw [target.replace_entries, read.sound.limit_eq sound, taken]
    change History.newest _ interpreter.history.entries = _
    rw [History.newest_of_le bounded.within]
    exact log

/-! ## The whole reading -/

/-- Whatever is read of a line keeps what was read before. -/
theorem Reading.read (before : BeforeLine content settings line fresh)
    (reading : Reading content settings line fresh interpreter shown injected) :
    Read content settings line fresh interpreter shown injected := by
  induction reading with
  | began => exact before.read
  | advanced reading top unread ih => exact ih.advanced before top (ih.unread top unread)
  | dismissed reading top ih => exact ih.dismissed top
  | injected character text reading ih => exact ih.inject before character text
  | resumed reading saved sound same ih => exact ih.resumed before saved sound same

theorem Sound.round {dispatched next : Nat} {start after : Interpreter}
    (sound : start.Sound content settings) (round : Round dispatched start next after) :
    after.Sound content settings :=
  sound.evolves (round_evolves (fun _ => trivial) round : Evolves (fun _ => True) start after)

/-- A run that does not restore and stops at a line performs it for the first time, so every reading
begins in such a run. -/
theorem run_beforeLine {start : Interpreter} (sound : start.Sound content settings)
    (idle : start.Idle) (fresh : start.restoring = false)
    (stopped : start.run.result = .ok .dialogue)
    (current : start.run.after.currentKind? = some (.dialogue line)) :
    ∃ reached, BeforeLine content settings line reached ∧
      start.run = (reached.showDialogue line).2.wait .dialogue := by
  revert stopped current
  apply run_induction
    (fun _ reached => reached.Sound content settings ∧ reached.Idle ∧ reached.restoring = false)
    fun outcome => outcome.result = .ok .dialogue →
      outcome.after.currentKind? = some (.dialogue line) →
      ∃ reached, BeforeLine content settings line reached ∧
        outcome = (reached.showDialogue line).2.wait .dialogue
  · rintro dispatched reached next after ⟨sound, idle, fresh⟩ round
    exact ⟨sound.round round, idle.round round, round.fresh fresh⟩
  · rintro dispatched reached outcome ⟨sound, idle, fresh⟩ ending stopped current
    cases ending with
    | completed => cases stopped
    | limited => cases stopped
    | failed same => cases stopped
    | @paused story step status after running found below pause =>
        cases pause with
        | @dialogue shown kind =>
            have position : reached.currentKind? = some (.dialogue shown) := by
              simp only [Interpreter.currentKind?, currentStep?]
              rw [running, Option.bind_some, found, ← kind]
              rfl
            obtain ⟨screen, entry, -, -, same⟩ := showDialogue_fresh fresh shown
            have standing := (assignOptional_backstage reached shown.assignment).toStanding
            rw [same] at current
            have equal := (standing.currentKind?.trans position).symm.trans current
            cases equal
            refine ⟨reached, ⟨sound, position, idle.continuations, fresh, ?_⟩, rfl⟩
            rw [← show reached.settings = settings from sound.limits]
            omega
        | titles kind fresh => cases stopped
        | input kind => cases stopped
        | choice kind => cases stopped
  · exact ⟨sound, idle, fresh⟩

/-- A line is read once. An advance on the way to its end shows a part and stays at the step. When
the next advance leaves the step, each part took one advance, the assignments of the line and of its
parts were applied once and in order, and the log gained the line once among the injected lines. -/
theorem reading_once {advances : Nat} {injected : List HistoryEntry}
    (before : BeforeLine content settings line fresh)
    (reading : Reading content settings line fresh interpreter advances injected) :
    (interpreter.isInterrupted = false → interpreter.isRead = false →
      interpreter.advance.result = .ok .dialogue ∧
        interpreter.advance.after.story = interpreter.story ∧
        interpreter.advance.after.step = interpreter.step) ∧
    (interpreter.isRead = true →
      interpreter.advance = interpreter.stepForward ∧
        advances = line.parts.length ∧
        ((line.assignment.toList ++ line.parts.filterMap DialoguePart.assignment).foldl
          StateTree.assigned fresh.state).SameContents interpreter.state ∧
        ∃ earlier entry later, line.IsLogged fresh.step entry ∧ injected = earlier ++ later ∧
          interpreter.history.entries = History.newest fresh.history.limit
            (fresh.history.entries ++ (earlier ++ entry :: later))) := by
  have read := reading.read before
  constructor
  · intro top unread
    have below := read.unread top unread
    have current : { interpreter with continuations := [] }.currentKind? = some (.dialogue line) :=
      read.currentKind? before.current
    obtain ⟨part, screen, entry, -, -, -, same⟩ := showPart_eq current below
    have backstage := assignOptional_backstage { interpreter with continuations := [] }
      part.assignment
    rw [read.advance_eq top below, same]
    exact ⟨rfl, backstage.story, backstage.step⟩
  · intro finished
    have nothing : interpreter.continuations = [] := by simpa [isRead] using finished
    have top : interpreter.isInterrupted = false := by
      simp only [isInterrupted]
      rw [nothing]
      rfl
    have left := read.uncovered top
    rw [nothing] at left
    have all : advances = line.parts.length := by
      have bounded := read.bounded
      simp only [Dialogue.left] at left
      split at left
      · cases left
      · omega
    subst all
    refine ⟨?_, rfl, ?_, ?_⟩
    · simp only [advance]
      rw [nothing, read.status]
    · have state := read.state
      simp only [Dialogue.assignments] at state
      rw [List.take_length] at state
      exact state
    · obtain ⟨gained, log, logged⟩ := read.log
      simp only [Dialogue.Logged] at logged
      rw [if_neg (Nat.lt_irrefl _)] at logged
      obtain ⟨earlier, entry, later, own, split, rfl⟩ := logged
      exact ⟨earlier, entry, later, own, split, log⟩

/-- A line with an assignment, and a part with another one. -/
def countedLine : Dialogue :=
  ⟨none, "One", some "global.count = 1", [⟨" and two", some "global.count += 1"⟩]⟩

/-- Content whose only unit holds the counted line. -/
def countedContent : Content :=
  (Library.empty.addUnit ⟨"start", [⟨none, .dialogue countedLine⟩]⟩).toContent

/-- The interpreter in front of the counted line. -/
def countedStart : Interpreter :=
  { ((Interpreter.new countedContent .standard).fetchUnit "start").2 with
    story := some ⟨"start", [⟨none, .dialogue countedLine⟩]⟩ }

theorem countedStart_before : BeforeLine countedContent .standard countedLine countedStart where
  sound := by
    have fetched : Fetched countedContent [] "start" ⟨"start", [⟨none, .dialogue countedLine⟩]⟩
        [("start", ⟨"start", [⟨none, .dialogue countedLine⟩]⟩)] := .loaded rfl rfl
    exact (new_sound countedContent .standard).evolves
      (fetched.evolves : Evolves (fun _ => True) (.new countedContent .standard) countedStart)
  current := rfl
  done := rfl
  fresh := rfl
  room := by decide

/-- The counted line, read with a resume behind its first half and an injected line. -/
theorem reading_once_counted :
    ∃ interpreter entry,
      BeforeLine countedContent .standard countedLine countedStart ∧
      Reading countedContent .standard countedLine countedStart interpreter 1 [entry] ∧
      interpreter.isRead = true ∧ interpreter.advance = interpreter.stepForward ∧
      (["global.count = 1", "global.count += 1"].foldl StateTree.assigned
        countedStart.state).SameContents interpreter.state := by
  let first := ((countedStart.showDialogue countedLine).2.wait .dialogue).after
  have opened : Reading countedContent .standard countedLine countedStart first 0 [] := .began
  have sound : first.Sound countedContent .standard := (opened.read countedStart_before).sound
  obtain ⟨snapshot, saved⟩ : ∃ snapshot, first.snapshot = .ok snapshot := ⟨_, rfl⟩
  have resumed := opened.resumed saved sound (.refl first.state)
  have covered := resumed.injected none "Wait."
  have dismissed := covered.dismissed rfl
  cases saved
  have advanced := dismissed.advanced rfl rfl
  obtain ⟨leaves, -, state, -⟩ := (reading_once countedStart_before advanced).2 rfl
  exact ⟨_, _, countedStart_before, advanced, rfl, leaves, state⟩

end Interpreter

end VisualNovel

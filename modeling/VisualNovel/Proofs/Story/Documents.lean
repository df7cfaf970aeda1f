import VisualNovel.Proofs.Json.Settled

/-!
# Story units as documents

Every part of a story is read from its document as it was written, up to durations that are not
finite, which the text shows as absent values. Steps and actions tell their kind apart: they are taken
apart in canonical form, and the fields behind the kind are those of its record.
-/

namespace VisualNovel

open Json (Carries Fields optionalMember)

variable {document : Json}

/-! ## Parts of a step -/

theorem AudioCue.ofJson?_carries {cue : AudioCue}
    (carries : Carries AudioCue.fieldNames document cue.toMembers) :
    AudioCue.ofJson? document = some cue := by
  obtain ⟨fields, found, looked⟩ := carries.recordFields?
  have file := looked "file" (by decide)
  have looping := looked "loop" (by decide)
  have stream := looked "stream" (by decide)
  simp [toMembers, List.lookup_cons, List.lookup_append] at file looping stream
  rw [AudioCue.ofJson?, found]
  simp only [Option.bind_eq_bind, Option.bind_some]
  rw [Fields.required?_of_lookup file, Fields.optional?_bool_of_lookup looping,
    Fields.optional?_text_of_lookup stream]
  rfl

theorem DialoguePart.ofJson?_settled (part : DialoguePart) :
    DialoguePart.ofJson? part.toJson.settled = some part := by
  have distinct : ((("text", Json.text part.text) ::
      optionalMember "variable" Json.text part.assignment).map Prod.fst).Nodup :=
    ((Json.names_optionalMember ..).cons_cons "text").nodup (by decide)
  obtain ⟨fields, found, looked⟩ :=
    (Json.settled_carries distinct ["text", "variable"]).recordFields?
  have text := looked "text" (by decide)
  have assignment := looked "variable" (by decide)
  simp [List.lookup_cons] at text assignment
  rw [DialoguePart.ofJson?, DialoguePart.toJson, found]
  simp only [Option.bind_eq_bind, Option.bind_some]
  rw [Fields.orDefault?_of_lookup text, Fields.optional?_text_of_lookup assignment]
  rfl

/-- The parts of a line are a field that is left out when there are none. -/
theorem Dialogue.toMembers_eq (line : Dialogue) :
    line.toMembers = optionalMember "character" Json.text line.character ++
      [("text", .text line.text)] ++ optionalMember "variable" Json.text line.assignment ++
      optionalMember "steps" (fun parts => .array (parts.map DialoguePart.toJson))
        (if line.parts.isEmpty then none else some line.parts) := by
  simp only [toMembers]
  cases line.parts <;> rfl

theorem Dialogue.ofJson?_carries {line : Dialogue}
    (carries : Carries ["character", "text", "variable", "steps"] document line.toMembers) :
    Dialogue.ofJson? document = some line := by
  obtain ⟨fields, found, looked⟩ := carries.recordFields?
  have character := looked "character" (by decide)
  have text := looked "text" (by decide)
  have assignment := looked "variable" (by decide)
  have parts := looked "steps" (by decide)
  rw [toMembers_eq] at character text assignment parts
  simp [List.lookup_cons, List.lookup_append, -List.isEmpty_iff] at character text assignment parts
  have read : fields.orDefault? "steps" [] (Json.listOf? DialoguePart.ofJson?) = some line.parts :=
    Fields.orDefault?_list_of_lookup parts
      (Json.listOf?_settled fun part _ => DialoguePart.ofJson?_settled part)
  rw [Dialogue.ofJson?, found]
  simp only [Option.bind_eq_bind, Option.bind_some]
  rw [Fields.optional?_text_of_lookup character, Fields.orDefault?_of_lookup text,
    Fields.optional?_text_of_lookup assignment, read]
  rfl

theorem Titles.ofJson?_carries {card : Titles}
    (carries : Carries Titles.fieldNames document card.toMembers) :
    Titles.ofJson? document = some { card with duration := card.duration.filter Float.isFinite } := by
  obtain ⟨fields, found, looked⟩ := carries.recordFields?
  have text := looked "text" (by decide)
  have duration := looked "duration" (by decide)
  have effectStart := looked "effect-start" (by decide)
  have effect := looked "effect" (by decide)
  have effectEnd := looked "effect-end" (by decide)
  have typewriter := looked "typewriter" (by decide)
  have assignment := looked "variable" (by decide)
  simp [toMembers, List.lookup_cons, List.lookup_append] at text duration effectStart effect
  simp [toMembers, List.lookup_cons, List.lookup_append] at effectEnd typewriter assignment
  rw [Titles.ofJson?, found]
  simp only [Option.bind_eq_bind, Option.bind_some]
  rw [Fields.orDefault?_of_lookup text, Fields.optional?_float_of_lookup duration,
    Fields.optional?_text_of_lookup effectStart, Fields.optional?_text_of_lookup effect,
    Fields.optional?_text_of_lookup effectEnd, Fields.orDefault?_of_lookup typewriter,
    Fields.optional?_text_of_lookup assignment]
  rfl

/-- An action with one field, a text, is taken apart into its kind and the field. -/
theorem ChoiceAction.tagged?_single {kind name : String} (known : kind ∈ kindNames)
    (other : name ≠ "type") (value : String) :
    ∃ rest fields, Json.tagged? kindNames true
        (Json.object [("type", .text kind), (name, .text value)]).settled = some (kind, rest) ∧
      Json.recordFields? [name] rest = some fields ∧
      fields.required? name Json.text? = some value := by
  have distinct : (([("type", Json.text kind), (name, Json.text value)]).map Prod.fst).Nodup := by
    simp [Ne.symm other]
  obtain ⟨rest, tagged, kept⟩ := (Json.settled_carries distinct ["type", name]).tagged?
    (List.mem_cons_self ..) rfl known true
  have alone : Carries [name] rest [("type", Json.text kind), (name, Json.text value)] := by
    apply kept
    intro only listed
    rw [List.mem_singleton.1 listed]
    exact ⟨List.mem_cons_of_mem _ (List.mem_cons_self ..), other⟩
  obtain ⟨fields, found, read⟩ := alone.single other
  exact ⟨rest, fields, tagged, found, read⟩

theorem ChoiceAction.ofJson?_settled (action : ChoiceAction) :
    ChoiceAction.ofJson? action.toJson.settled = some action := by
  cases action with
  | dialogue speaker content =>
      have distinct : (([("type", Json.text "dialogue")] ++
          optionalMember "character" Json.text speaker ++
            [("text", Json.text content)]).map Prod.fst).Nodup := by
        cases speaker <;> simp [optionalMember]
      obtain ⟨rest, tagged, kept⟩ := (Json.settled_carries distinct
        ["type", "character", "text"]).tagged? (by decide) rfl
          (show "dialogue" ∈ kindNames by decide) true
      obtain ⟨fields, found, looked⟩ := (kept ["character", "text"] (by decide)).recordFields?
      have character := looked "character" (by decide)
      have text := looked "text" (by decide)
      simp [List.lookup_cons, List.lookup_append] at character text
      rw [ChoiceAction.ofJson?, toJson, tagged]
      simp only [Option.bind_eq_bind, Option.bind_some, ofKind?]
      rw [found, Option.bind_some, Fields.optional?_text_of_lookup character, Option.bind_some,
        Fields.orDefault?_of_lookup text]
      rfl
  | goto target =>
      obtain ⟨rest, fields, tagged, found, read⟩ := tagged?_single
        (show "goto" ∈ kindNames by decide) (show "target" ≠ "type" by decide) target
      rw [ChoiceAction.ofJson?, toJson, tagged]
      simp only [Option.bind_eq_bind, Option.bind_some, ofKind?]
      rw [found, Option.bind_some, read]
      rfl
  | «show» character =>
      obtain ⟨rest, fields, tagged, found, read⟩ := tagged?_single
        (show "show" ∈ kindNames by decide) (show "character" ≠ "type" by decide) character
      rw [ChoiceAction.ofJson?, toJson, tagged]
      simp only [Option.bind_eq_bind, Option.bind_some, ofKind?]
      rw [found, Option.bind_some, read]
      rfl
  | hide character =>
      obtain ⟨rest, fields, tagged, found, read⟩ := tagged?_single
        (show "hide" ∈ kindNames by decide) (show "character" ≠ "type" by decide) character
      rw [ChoiceAction.ofJson?, toJson, tagged]
      simp only [Option.bind_eq_bind, Option.bind_some, ofKind?]
      rw [found, Option.bind_some, read]
      rfl

theorem ChoiceOption.ofJson?_settled (option : ChoiceOption) :
    ChoiceOption.ofJson? option.toJson.settled = some option := by
  have distinct : ((("text", Json.text option.text) ::
      optionalMember "actions" (fun actions => .array (actions.map ChoiceAction.toJson))
        option.actions).map Prod.fst).Nodup :=
    ((Json.names_optionalMember ..).cons_cons "text").nodup (by decide)
  obtain ⟨fields, found, looked⟩ :=
    (Json.settled_carries distinct ["text", "actions"]).recordFields?
  have text := looked "text" (by decide)
  have actions := looked "actions" (by decide)
  simp [List.lookup_cons] at text actions
  have read : fields.optional? "actions" (Json.listOf? ChoiceAction.ofJson?) =
      some option.actions := by
    apply Fields.optional?_of_lookup actions
    intro actions
    exact congrArg (Option.map some)
      (Json.listOf?_settled fun action _ => ChoiceAction.ofJson?_settled action)
  rw [ChoiceOption.ofJson?, ChoiceOption.toJson, found]
  simp only [Option.bind_eq_bind, Option.bind_some]
  rw [Fields.orDefault?_of_lookup text, read]
  rfl

theorem Choice.ofJson?_carries {choice : Choice}
    (carries : Carries ["text", "speaker", "options"] document choice.toMembers) :
    Choice.ofJson? document = some choice := by
  obtain ⟨fields, found, looked⟩ := carries.recordFields?
  have text := looked "text" (by decide)
  have speaker := looked "speaker" (by decide)
  have options := looked "options" (by decide)
  simp [toMembers, List.lookup_cons, List.lookup_append] at text speaker options
  have read : fields.orDefault? "options" [] (Json.listOf? ChoiceOption.ofJson?) =
      some choice.options := by
    rw [Fields.orDefault?_of_lookup options]
    exact Json.listOf?_settled fun option _ => ChoiceOption.ofJson?_settled option
  rw [Choice.ofJson?, found]
  simp only [Option.bind_eq_bind, Option.bind_some]
  rw [Fields.optional?_text_of_lookup text, Fields.optional?_text_of_lookup speaker, read]
  rfl

/-! ## Steps -/

namespace StepKind

/-- The fields that a step has beside its label and its kind. -/
def fieldNames : StepKind → List String
  | .scene _ => ["scene"]
  | .show _ => ["character"]
  | .hide _ => ["character"]
  | .play _ _ => AudioCue.fieldNames
  | .stopStream _ => ["stream"]
  | .stopAllStreams => []
  | .dialogue _ => ["character", "text", "variable", "steps"]
  | .titles _ => Titles.fieldNames
  | .input _ _ => ["variable", "text"]
  | .choice _ => ["text", "speaker", "options"]
  | .goto _ => ["target"]
  | .back => []
  | .finish => []
  | .assign _ => ["variable"]

/-- What a text shows of a step: a duration that is not finite is lost. -/
def plain : StepKind → StepKind
  | .titles card => .titles { card with duration := card.duration.filter Float.isFinite }
  | kind => kind

theorem fieldNames_distinct (kind : StepKind) : ("id" :: "type" :: kind.fieldNames).Nodup := by
  cases kind <;> exact of_decide_eq_true rfl

theorem type_notMem_fieldNames (kind : StepKind) : "type" ∉ kind.fieldNames :=
  (List.nodup_cons.1 (List.nodup_cons.1 kind.fieldNames_distinct).2).1

/-- The fields of a step of a known kind are read as they were written. -/
theorem ofKind?_carries {kind : StepKind} (typed : ∀ expression, kind ≠ .assign expression)
    (carries : Carries kind.fieldNames document kind.toMembers) :
    ofKind? kind.name document = some kind.plain := by
  have apart := kind.type_notMem_fieldNames
  cases kind with
  | scene id =>
      obtain ⟨fields, found, looked⟩ := carries.recordFields?
      have scene := looked "scene" (List.mem_cons_self ..)
      simp [toMembers, List.lookup_cons] at scene
      simp only [fieldNames] at found
      simp only [ofKind?, name, Option.bind_eq_bind]
      rw [found, Option.bind_some, Fields.optional?_text_of_lookup scene]
      rfl
  | «show» character =>
      obtain ⟨fields, found, read⟩ := carries.single (by decide)
      simp only [ofKind?, name, Option.bind_eq_bind]
      rw [found, Option.bind_some, read]
      rfl
  | hide character =>
      obtain ⟨fields, found, read⟩ := carries.single (by decide)
      simp only [ofKind?, name, Option.bind_eq_bind]
      rw [found, Option.bind_some, read]
      rfl
  | play channel cue =>
      have cue := AudioCue.ofJson?_carries (carries.untagged apart)
      cases channel <;> simp only [ofKind?, name, StreamKind.name, cue] <;> rfl
  | stopStream stream =>
      obtain ⟨fields, found, read⟩ := carries.single (by decide)
      simp only [ofKind?, name, Option.bind_eq_bind]
      rw [found, Option.bind_some, read]
      rfl
  | stopAllStreams =>
      obtain ⟨fields, found, -⟩ := carries.recordFields?
      exact congrArg (Option.map fun _ => StepKind.stopAllStreams) found
  | dialogue line =>
      have line := Dialogue.ofJson?_carries (carries.untagged apart)
      simp only [ofKind?, name, line]
      rfl
  | titles card =>
      have card := Titles.ofJson?_carries (carries.untagged apart)
      simp only [ofKind?, name, card]
      rfl
  | input path text =>
      obtain ⟨fields, found, looked⟩ := carries.recordFields?
      have path := looked "variable" (List.mem_cons_self ..)
      have text := looked "text" (List.mem_cons_of_mem _ (List.mem_cons_self ..))
      simp [toMembers, List.lookup_cons, List.lookup_append] at path text
      simp only [fieldNames] at found
      simp only [ofKind?, name, Option.bind_eq_bind]
      rw [found, Option.bind_some, Fields.optional?_text_of_lookup path, Option.bind_some,
        Fields.optional?_text_of_lookup text]
      rfl
  | choice offer =>
      have offer := Choice.ofJson?_carries (carries.untagged apart)
      simp only [ofKind?, name, offer]
      rfl
  | goto target =>
      obtain ⟨fields, found, read⟩ := carries.single (by decide)
      simp only [ofKind?, name, Option.bind_eq_bind]
      rw [found, Option.bind_some, read]
      rfl
  | back =>
      obtain ⟨fields, found, -⟩ := carries.recordFields?
      exact congrArg (Option.map fun _ => StepKind.back) found
  | finish =>
      obtain ⟨fields, found, -⟩ := carries.recordFields?
      exact congrArg (Option.map fun _ => StepKind.finish) found
  | assign expression => exact absurd rfl (typed expression)

/-! ## Names of members -/

theorem names_toMembers (kind : StepKind) :
    (kind.toMembers.map Prod.fst).Sublist ("type" :: kind.fieldNames) := by
  cases kind with
  | scene id => exact (Json.names_optionalMember ..).cons_cons "type"
  | «show» character => exact List.Sublist.refl _
  | hide character => exact List.Sublist.refl _
  | play channel cue =>
      simp only [toMembers, AudioCue.toMembers, List.map_append, List.map_cons]
      have names := ((Json.names_optionalMember "loop" Json.bool cue.looping).cons_cons
        "file").append (Json.names_optionalMember "stream" Json.text cue.stream)
      exact names.cons_cons "type"
  | stopStream stream => exact List.Sublist.refl _
  | stopAllStreams => exact List.Sublist.refl _
  | dialogue line =>
      simp only [toMembers, List.map_append]
      rw [Dialogue.toMembers_eq]
      simp only [List.map_append]
      exact (((((Json.names_optionalMember ..).append (List.Sublist.refl ["text"])).append
        (Json.names_optionalMember ..)).append (Json.names_optionalMember ..))).cons_cons "type"
  | titles card =>
      simp only [toMembers, Titles.toMembers, List.map_append]
      exact ((((((List.Sublist.refl ["text"]).append (Json.names_optionalMember ..)).append
        (Json.names_optionalMember ..)).append (Json.names_optionalMember ..)).append
        (Json.names_optionalMember ..)).append (List.Sublist.refl ["typewriter"])).append
        (Json.names_optionalMember ..) |>.cons_cons "type"
  | input path text =>
      simp only [toMembers, List.map_append]
      exact ((Json.names_optionalMember ..).cons_cons "type").append (Json.names_optionalMember ..)
  | choice offer =>
      simp only [toMembers, Choice.toMembers, List.map_append]
      exact (((Json.names_optionalMember ..).append (Json.names_optionalMember ..)).append
        (List.Sublist.refl ["options"])).cons_cons "type"
  | goto target => exact List.Sublist.refl _
  | back => exact List.Sublist.refl _
  | finish => exact List.Sublist.refl _
  | assign expression => exact List.sublist_cons_self "type" ["variable"]

theorem lookup_type {kind : StepKind} (typed : ∀ expression, kind ≠ .assign expression) :
    kind.toMembers.lookup "type" = some (.text kind.name) := by
  cases kind with
  | assign expression => exact absurd rfl (typed expression)
  | _ => rfl

theorem name_mem_kindNames {kind : StepKind} (typed : ∀ expression, kind ≠ .assign expression) :
    kind.name ∈ kindNames := by
  cases kind with
  | assign expression => exact absurd rfl (typed expression)
  | play channel cue => cases channel <;> exact of_decide_eq_true rfl
  | _ => exact of_decide_eq_true rfl

/-- No kind that is named is that of an assignment. -/
theorem ofKind?_typed {name : String} {kind : StepKind} (read : ofKind? name document = some kind)
    (expression : String) : kind ≠ .assign expression := by
  intro same
  subst same
  simp only [ofKind?] at read
  split at read <;> simp [Option.bind_eq_some_iff] at read

end StepKind

namespace Step

/-- What a text shows of a step. -/
def plain (step : Step) : Step := { step with kind := step.kind.plain }

theorem names_members (step : Step) :
    ((optionalMember "id" Json.text step.label ++ step.kind.toMembers).map Prod.fst).Nodup := by
  rw [List.map_append]
  exact ((Json.names_optionalMember ..).append step.kind.names_toMembers).nodup
    step.kind.fieldNames_distinct

theorem lookup_members (step : Step) {name : String} (other : name ≠ "id") :
    (optionalMember "id" Json.text step.label ++ step.kind.toMembers).lookup name =
      step.kind.toMembers.lookup name := by
  rw [List.lookup_append, Json.lookup_optionalMember, if_neg other, Option.none_or]

theorem lookup_label (step : Step) :
    (optionalMember "id" Json.text step.label ++ step.kind.toMembers).lookup "id" =
      step.label.map Json.text := by
  have absent : "id" ∉ step.kind.toMembers.map Prod.fst := by
    intro listed
    exact (List.nodup_cons.1 step.kind.fieldNames_distinct).1
      (step.kind.names_toMembers.subset listed)
  rw [List.lookup_append, Json.lookup_optionalMember, if_pos rfl, Dict.lookup_eq_none absent,
    Option.or_none]

theorem labelOf_settled (label : Option String) :
    labelOf ((label.map Json.text).map Json.settled) = label := by
  cases label <;> rfl

/-- The kind of a step is read from the canonical form of its members. -/
theorem kindOf?_carries {step : Step} {others : Fields}
    (carries : Carries ("id" :: "type" :: step.kind.fieldNames) (.object others)
      (optionalMember "id" Json.text step.label ++ step.kind.toMembers)) :
    kindOf? others = some step.kind.plain := by
  obtain ⟨_, shape, -, -, looked⟩ := id carries
  cases shape
  have tag := looked "type" (List.mem_cons_of_mem _ (List.mem_cons_self ..))
  rw [step.lookup_members (by decide)] at tag
  rw [kindOf?]
  by_cases typed : ∀ expression, step.kind ≠ .assign expression
  · have named := StepKind.lookup_type typed
    rw [named] at tag
    obtain ⟨rest, tagged, kept⟩ := carries.tagged?
      (List.mem_cons_of_mem _ (List.mem_cons_self ..))
      ((step.lookup_members (by decide)).trans named) (StepKind.name_mem_kindNames typed) true
    have distinct := List.nodup_cons.1 step.kind.fieldNames_distinct
    have fields : Carries step.kind.fieldNames rest step.kind.toMembers := by
      apply (kept step.kind.fieldNames ?_).congr fun _ listed => listed
      · intro name listed
        apply step.lookup_members
        intro same
        subst same
        exact distinct.1 (List.mem_cons_of_mem _ listed)
      · intro name listed
        refine ⟨List.mem_cons_of_mem _ (List.mem_cons_of_mem _ listed), ?_⟩
        intro same
        subst same
        exact step.kind.type_notMem_fieldNames listed
    rw [tag, tagged]
    exact StepKind.ofKind?_carries typed fields
  · obtain ⟨expression, assigns⟩ := Classical.not_forall.1 typed
    have assigns := Classical.not_not.1 assigns
    have written := looked "variable" (by
      rw [assigns]
      exact of_decide_eq_true rfl)
    rw [step.lookup_members (by decide), assigns] at written
    rw [assigns] at tag ⊢
    rw [tag]
    change (others.lookup "variable").bind _ = _
    rw [written]
    rfl

theorem ofJson?_written (step : Step) : ofJson? step.toJson.written = some step.plain := by
  have carries := Json.settled_carries step.names_members ("id" :: "type" :: step.kind.fieldNames)
  obtain ⟨others, shape, -, -, looked⟩ := id carries
  rw [shape] at carries
  rw [Step.ofJson?, Json.canonical?_written, toJson, shape]
  simp only [Option.bind_eq_bind, Option.bind_some]
  rw [kindOf?_carries carries, looked "id" (List.mem_cons_self ..), lookup_label, labelOf_settled]
  rfl

/-- An object with a member `type` is never read as an assignment. -/
theorem ofJson?_typed {members : Fields} (typed : "type" ∈ members.map Prod.fst) {step : Step}
    (read : ofJson? (.object members) = some step) (expression : String) :
    step.kind ≠ .assign expression := by
  simp only [ofJson?, Json.canonical?] at read
  cases canonical : Json.canonicalMembers? members with
  | none =>
      rw [canonical] at read
      cases read
  | some others =>
      rw [canonical] at read
      simp only [Option.map_some, Option.bind_eq_bind, Option.bind_some] at read
      obtain ⟨kind, found, same⟩ := Option.bind_eq_some_iff.1 read
      cases same
      have tagged : ((Dict.ofPairs others).lookup "type").isSome = true := by
        rw [← Json.canonicalMembers?_names canonical] at typed
        rw [Dict.lookup_eq_get?, ← Dict.mem_keys]
        exact Dict.mem_keys_union.2 (.inr typed)
      rw [kindOf?, if_pos tagged] at found
      obtain ⟨⟨name, rest⟩, -, read⟩ := Option.bind_eq_some_iff.1 found
      exact StepKind.ofKind?_typed read expression

end Step

/-! ## Units -/

namespace Step

/-- The duration of a title card. -/
def duration? (step : Step) : Option Float :=
  match step.kind with
  | .titles card => card.duration
  | _ => none

theorem plain_eq_self_iff (step : Step) :
    step.plain = step ↔ ∀ duration, step.duration? = some duration → duration.isFinite = true := by
  obtain ⟨label, kind⟩ := step
  cases kind with
  | titles card =>
      obtain ⟨text, duration, rest⟩ := card
      cases duration with
      | none => simp [plain, StepKind.plain, duration?]
      | some duration => simp [plain, StepKind.plain, duration?, Option.filter]
  | _ => simp [plain, StepKind.plain, duration?]

end Step

namespace StoryUnit

/-- The durations of the title cards of a unit. -/
def durations (story : StoryUnit) : List Float :=
  story.steps.filterMap Step.duration?

/-- What a text shows of a unit. -/
def plain (story : StoryUnit) : StoryUnit := { story with steps := story.steps.map Step.plain }

theorem ofJson?_written (story : StoryUnit) : ofJson? story.toJson.written = some story.plain := by
  have steps : Json.listOf? Step.ofJson? (Json.array (story.steps.map Step.toJson)).written =
      some (story.steps.map Step.plain) :=
    Json.listOf?_written fun step _ => step.ofJson?_written
  change ofJson? (.object [("id", .text story.id),
    ("steps", (Json.array (story.steps.map Step.toJson)).written)]) = _
  rw [ofJson?, Json.recordFields?_members, Json.knownMembers?_eq (by simp) (by simp)]
  simp only [Option.bind_eq_bind, Option.bind_some]
  rw [Fields.orDefault?_cons_self, Json.text?_text, Option.bind_some,
    Fields.orDefault?_cons_of_ne _ _ _ _ (by decide), Fields.orDefault?_cons_self, steps]
  rfl

theorem plain_eq_self_iff (story : StoryUnit) :
    story.plain = story ↔ ∀ duration ∈ story.durations, duration.isFinite = true := by
  have each : story.steps.map Step.plain = story.steps ↔ ∀ step ∈ story.steps, step.plain = step := by
    nth_rewrite 2 [← List.map_id story.steps]
    exact List.map_inj_left
  obtain ⟨id, steps⟩ := story
  simp only [plain, StoryUnit.mk.injEq, true_and]
  rw [each]
  simp only [Step.plain_eq_self_iff, durations, List.mem_filterMap]
  constructor
  · intro finite duration ⟨step, listed, lasts⟩
    exact finite step listed duration lasts
  · intro finite step listed duration lasts
    exact finite duration ⟨step, listed, lasts⟩

end StoryUnit

end VisualNovel

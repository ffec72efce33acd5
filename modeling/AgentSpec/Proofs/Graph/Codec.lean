import AgentSpec.Graph.Decode
import AgentSpec.Proofs.Json.Codec

/-!
Entities are read back from the values that they were written as.
-/
namespace AgentSpec

open Reader (Reads)

theorem FieldReference.reads_toJson (r : FieldReference) :
    FieldReference.read.Reads r.toJson r := by
  refine .record fun g o hg => ?_
  have hmodel := hg.required 0 "model" (by simp) (.string r.model)
  have hfield : g.withDefault 1 "field" idField Reader.string = .ok r.field :=
    hg.withDefault 1 "field" (by simp [Reads.string])
  have hcardinality : g.withDefault 2 "cardinality" .one Cardinality.read = .ok r.cardinality := by
    refine hg.withDefault 2 "cardinality" ?_
    have hread : Cardinality.read.Reads (.string r.cardinality.toText) r.cardinality :=
      .choiceOf (by cases r.cardinality <;> decide) (by decide)
    simpa using hread
  rw [hmodel, hfield, hcardinality]
  rfl

theorem Field.reads_toJson (f : Field) : Field.read.Reads f.toJson f := by
  refine .record fun g o hg => ?_
  have hname := hg.required 0 "name" (by simp) (.string f.name)
  have htitle := hg.required 1 "title" (by simp) (.string f.title)
  have htype : g.required 2 "type" FieldType.read = .ok f.type :=
    hg.required 2 "type" (by simp) (.choiceOf (by cases f.type <;> decide) (by decide))
  have hrequired : g.withDefault 3 "required" false Reader.bool = .ok f.required :=
    hg.withDefault 3 "required" (by simp [Reads.bool])
  have hreference : g.optional 4 "reference" FieldReference.read = .ok f.reference :=
    hg.optional 4 "reference" (by simp) FieldReference.reads_toJson (fun _ => Json.noConfusion)
  have hvalues : g.optional 5 "enumValues" Reader.strings = .ok f.enumValues :=
    hg.optional 5 "enumValues" (by simp) Reads.strings (fun _ => Json.noConfusion)
  have hdescription : g.optional 6 "description" Reader.string = .ok f.description :=
    hg.optional 6 "description" (by simp) Reads.string (fun _ => Json.noConfusion)
  have hderived : g.withDefault 7 "derived" false Reader.bool = .ok f.derived := by
    refine hg.withDefault 7 "derived" ?_
    cases f.derived <;> simp [Reads.bool]
  rw [hname, htitle, htype, hrequired, hreference, hvalues, hdescription, hderived]
  rfl

theorem Form.reads_toJson (f : Form) : Form.read.Reads f.toJson f := by
  refine .record fun g o hg => ?_
  have hname := hg.required 0 "name" (by simp) (.string f.name)
  have htitle := hg.required 1 "title" (by simp) (.string f.title)
  have hkind : g.required 2 "kind" FormKind.read = .ok f.kind :=
    hg.required 2 "kind" (by simp) (.choiceOf (by cases f.kind <;> decide) (by decide))
  have hfields : g.withDefault 3 "fields" [] Reader.strings = .ok f.fields :=
    hg.withDefault 3 "fields" (by simp [Reads.strings])
  rw [hname, htitle, hkind, hfields]
  rfl

theorem Connection.reads_toJson (c : Connection) : Connection.read.Reads c.toJson c := by
  refine .record fun g o hg => ?_
  have hprovider := hg.required 0 "provider" (by simp) (.string c.provider)
  have htitle := hg.required 1 "title" (by simp) (.string c.title)
  have hscopes := hg.required 2 "scopes" (by simp) (.strings c.scopes)
  have hfield := hg.required 3 "fieldName" (by simp) (.string c.fieldName)
  rw [hprovider, htitle, hscopes, hfield]
  rfl

theorem StepConfig.lookup_readAs (k : StepKind) :
    (StepKind.all.map fun k => (k.toText, readAs k)).lookup k.toText = some (readAs k) := by
  cases k <;> rfl

theorem StepConfig.reads_toJson (c : StepConfig) : StepConfig.read.Reads c.toJson c := by
  cases c with
  | reasoning prompt model =>
    have htag : Json.member (members (.reasoning prompt model)) "kind" =
        some (.string StepKind.reasoning.toText) := by simp [members]
    have hform := lookup_readAs .reasoning
    rw [readAs, readReasoning] at hform
    refine .tagged htag hform fun g o hg => ?_
    have hprompt := hg.required 0 "prompt" (by simp [members]) (.string prompt)
    have hmodel : g.optional 1 "model" Reader.string = .ok model :=
      hg.optional 1 "model" (by simp [members]) Reads.string (fun _ => Json.noConfusion)
    rw [hprompt, hmodel]
    rfl
  | webSearch query maxResults =>
    have htag : Json.member (members (.webSearch query maxResults)) "kind" =
        some (.string StepKind.webSearch.toText) := by simp [members]
    have hform := lookup_readAs .webSearch
    rw [readAs, readWebSearch] at hform
    refine .tagged htag hform fun g o hg => ?_
    have hquery := hg.required 0 "query" (by simp [members]) (.string query)
    have hmax : g.optional 1 "maxResults" Reader.nat32 = .ok maxResults :=
      hg.optional 1 "maxResults" (by simp [members]) Reads.nat32 (fun _ => Json.noConfusion)
    rw [hquery, hmax]
    rfl
  | customCode code dependencies envVars =>
    have htag : Json.member (members (.customCode code dependencies envVars)) "kind" =
        some (.string StepKind.customCode.toText) := by simp [members]
    have hform := lookup_readAs .customCode
    rw [readAs, readCustomCode] at hform
    refine .tagged htag hform fun g o hg => ?_
    have hcode : g.optional 0 "code" Reader.string = .ok code :=
      hg.optional 0 "code" (by simp [members]) Reads.string (fun _ => Json.noConfusion)
    have hdependencies : g.withDefault 1 "dependencies" [] Reader.strings = .ok dependencies :=
      hg.withDefault 1 "dependencies" (by simp [members, Reads.strings])
    have henv : g.withDefault 2 "envVars" [] Reader.strings = .ok envVars :=
      hg.withDefault 2 "envVars" (by simp [members, Reads.strings])
    rw [hcode, hdependencies, henv]
    rfl
  | imageGeneration prompt aspectRatio =>
    have htag : Json.member (members (.imageGeneration prompt aspectRatio)) "kind" =
        some (.string StepKind.imageGeneration.toText) := by simp [members]
    have hform := lookup_readAs .imageGeneration
    rw [readAs, readImageGeneration] at hform
    refine .tagged htag hform fun g o hg => ?_
    have hprompt := hg.required 0 "prompt" (by simp [members]) (.string prompt)
    have hratio : g.optional 1 "aspectRatio" Reader.string = .ok aspectRatio :=
      hg.optional 1 "aspectRatio" (by simp [members]) Reads.string (fun _ => Json.noConfusion)
    rw [hprompt, hratio]
    rfl

theorem Model.reads_toJson (m : Model) : Model.read.Reads m.toJson m := by
  refine .record fun g o hg => ?_
  have hname := hg.required 0 "name" (by simp [members]) (.string m.name)
  have hfields : g.withDefault 1 "fields" [] (Reader.list Field.read) = .ok m.fields := by
    refine hg.withDefault 1 "fields" ?_
    simp [members, Reads.list Field.reads_toJson]
  have hdisplay : g.optional 2 "displayFields" Reader.strings = .ok m.displayFields :=
    hg.optional 2 "displayFields" (by simp [members]) Reads.strings (fun _ => Json.noConfusion)
  have hforms : g.withDefault 3 "forms" [] (Reader.list Form.read) = .ok m.forms := by
    refine hg.withDefault 3 "forms" ?_
    cases hf : m.forms with
    | nil => simp [members, hf]
    | cons form rest => simp [members, hf, Reads.list Form.reads_toJson]
  rw [hname, hfields, hdisplay, hforms]
  rfl

theorem Model.name_of_mem_members {m : Model} {e : String × Json} (h : e ∈ m.members) :
    e.1 ∈ ["name", "fields", "displayFields", "forms"] := by
  simp only [members, List.mem_append, List.mem_cons, List.not_mem_nil, or_false] at h
  rcases h with ((rfl | rfl) | h) | h
  · simp
  · simp
  · simp [Json.name_of_mem_optional h]
  · by_cases hf : m.forms.isEmpty
    · rw [if_pos hf] at h
      cases h
    · rw [if_neg hf] at h
      simp [List.mem_singleton.mp h]

/-- The names of all members that configurations have. -/
def StepConfig.memberNames : List String :=
  ["kind", "prompt", "model", "query", "maxResults", "code", "dependencies", "envVars",
    "aspectRatio"]

theorem StepConfig.name_of_mem_members {c : StepConfig} {e : String × Json} (h : e ∈ c.members) :
    e.1 ∈ memberNames := by
  cases c with
  | reasoning prompt model =>
    simp only [members, List.mem_append, List.mem_cons, List.not_mem_nil, or_false] at h
    rcases h with (rfl | rfl) | h
    · simp [memberNames]
    · simp [memberNames]
    · simp [memberNames, Json.name_of_mem_optional h]
  | webSearch query maxResults =>
    simp only [members, List.mem_append, List.mem_cons, List.not_mem_nil, or_false] at h
    rcases h with (rfl | rfl) | h
    · simp [memberNames]
    · simp [memberNames]
    · simp [memberNames, Json.name_of_mem_optional h]
  | customCode code dependencies envVars =>
    simp only [members, List.mem_append, List.mem_cons, List.not_mem_nil, or_false] at h
    rcases h with (rfl | h) | rfl | rfl
    · simp [memberNames]
    · simp [memberNames, Json.name_of_mem_optional h]
    · simp [memberNames]
    · simp [memberNames]
  | imageGeneration prompt aspectRatio =>
    simp only [members, List.mem_append, List.mem_cons, List.not_mem_nil, or_false] at h
    rcases h with (rfl | rfl) | h
    · simp [memberNames]
    · simp [memberNames]
    · simp [memberNames, Json.name_of_mem_optional h]

/-- The names of all members that steps have. -/
def Step.memberNames : List String :=
  ["name", "description", "inputFields", "outputFields"] ++ StepConfig.memberNames

theorem Step.name_of_mem_members {s : Step} {e : String × Json} (h : e ∈ s.members) :
    e.1 ∈ memberNames := by
  unfold memberNames
  rcases List.mem_append.mp h with h | h
  · refine List.mem_append_left _ ?_
    simp only [List.mem_cons, List.not_mem_nil, or_false] at h
    rcases h with rfl | rfl | rfl | rfl <;> simp
  · exact List.mem_append_right _ (StepConfig.name_of_mem_members h)

theorem Step.reads_toJson (s : Step) : Step.read.Reads s.toJson s := by
  have hnames : ∀ n ∈ StepConfig.memberNames,
      n ∉ ["name", "description", "inputFields", "outputFields"] := by decide
  refine Reads.openRecord (f := Step.mk s.name s.description s.inputFields s.outputFields)
    (by simp) (fun e he => hnames _ (StepConfig.name_of_mem_members he)) (fun g o hg => ?_)
    s.config.reads_toJson
  have hname := hg.required 0 "name" (by simp) (.string s.name)
  have hdescription : g.withDefault 1 "description" "" Reader.string = .ok s.description :=
    hg.withDefault 1 "description" (by simp [Reads.string])
  have hinputs : g.withDefault 2 "inputFields" [] Reader.strings = .ok s.inputFields :=
    hg.withDefault 2 "inputFields" (by simp [Reads.strings])
  have houtputs : g.withDefault 3 "outputFields" [] Reader.strings = .ok s.outputFields :=
    hg.withDefault 3 "outputFields" (by simp [Reads.strings])
  rw [hname, hdescription, hinputs, houtputs]
  rfl

theorem Action.reads_toJson (a : Action) : Action.read.Reads a.toJson a := by
  refine .record fun g o hg => ?_
  have hname := hg.required 0 "name" (by simp) (.string a.name)
  have htitle := hg.required 1 "title" (by simp) (.string a.title)
  have hemoji : g.withDefault 2 "emoji" "" Reader.string = .ok a.emoji :=
    hg.withDefault 2 "emoji" (by simp [Reads.string])
  have hdescription : g.withDefault 3 "description" "" Reader.string = .ok a.description :=
    hg.withDefault 3 "description" (by simp [Reads.string])
  have htarget := hg.required 4 "targetModel" (by simp) (.string a.targetModel)
  have hsteps : g.withDefault 5 "steps" [] (Reader.list Step.read) = .ok a.steps := by
    refine hg.withDefault 5 "steps" ?_
    simpa using Reads.list Step.reads_toJson a.steps
  rw [hname, htitle, hemoji, hdescription, htarget, hsteps]
  rfl

/-- A query is read with the members of its objects in order, so it is read back if it has them
in order. -/
theorem ScheduleStep.reads_toJson {t : ScheduleStep} (h : t.query.canonical = t.query) :
    ScheduleStep.read.Reads t.toJson t := by
  refine .record fun g o hg => ?_
  have hmodel := hg.required 0 "modelName" (by simp [members]) (.string t.modelName)
  have hquery : g.withDefault 1 "query" (.object []) Reader.json = .ok t.query := by
    refine hg.withDefault 1 "query" ?_
    have hread : Reader.json.Reads t.query t.query := by
      have hjson := Reads.json t.query
      rwa [h] at hjson
    simpa [members] using hread
  have haction := hg.required 2 "actionName" (by simp [members]) (.string t.actionName)
  have horder : g.withDefault 3 "order" 0 Reader.nat32 = .ok t.order :=
    hg.withDefault 3 "order" (by simp [members, Reads.nat32])
  rw [hmodel, hquery, haction, horder]
  rfl

theorem Schedule.reads_toJson {c : Schedule}
    (h : ∀ t ∈ c.steps, t.query.canonical = t.query) : Schedule.read.Reads c.toJson c := by
  refine .record fun g o hg => ?_
  have hname := hg.required 0 "name" (by simp) (.string c.name)
  have hdescription : g.optional 1 "description" Reader.string = .ok c.description :=
    hg.optional 1 "description" (by simp) Reads.string (fun _ => Json.noConfusion)
  have hmode : g.required 2 "mode" ScheduleMode.read = .ok c.mode :=
    hg.required 2 "mode" (by simp) (.choiceOf (by cases c.mode <;> decide) (by decide))
  have hinterval : g.optional 3 "intervalHours" Reader.nat32 = .ok c.intervalHours :=
    hg.optional 3 "intervalHours" (by simp) Reads.nat32 (fun _ => Json.noConfusion)
  have hstatus : g.withDefault 4 "status" .active ScheduleStatus.read = .ok c.status := by
    refine hg.withDefault 4 "status" ?_
    have hread : ScheduleStatus.read.Reads (.string c.status.toText) c.status :=
      .choiceOf (by cases c.status <;> decide) (by decide)
    simpa using hread
  have hsteps : g.withDefault 5 "steps" [] (Reader.list ScheduleStep.read) = .ok c.steps := by
    refine hg.withDefault 5 "steps" ?_
    have hread : (Reader.list ScheduleStep.read).Reads (.ofList ScheduleStep.toJson c.steps)
        c.steps := Reads.list_of_mem fun t ht => ScheduleStep.reads_toJson (h t ht)
    simpa using hread
  rw [hname, hdescription, hmode, hinterval, hstatus, hsteps]
  rfl

theorem Graph.reads_toJson {g : Graph}
    (h : ∀ c ∈ g.schedules, ∀ t ∈ c.steps, t.query.canonical = t.query) :
    Graph.read.Reads g.toJson g := by
  refine .record fun given o hg => ?_
  have hroot : given.optional 0 "rootModel" Reader.string = .ok g.rootModel :=
    hg.optional 0 "rootModel" (by simp) Reads.string (fun _ => Json.noConfusion)
  have hmodels : given.withDefault 1 "models" [] (Reader.list Model.read) = .ok g.models := by
    refine hg.withDefault 1 "models" ?_
    simpa using Reads.list Model.reads_toJson g.models
  have hactions : given.withDefault 2 "actions" [] (Reader.list Action.read) = .ok g.actions := by
    refine hg.withDefault 2 "actions" ?_
    simpa using Reads.list Action.reads_toJson g.actions
  have hschedules :
      given.withDefault 3 "schedules" [] (Reader.list Schedule.read) = .ok g.schedules := by
    refine hg.withDefault 3 "schedules" ?_
    have hread : (Reader.list Schedule.read).Reads (.ofList Schedule.toJson g.schedules)
        g.schedules := Reads.list_of_mem fun c hc => Schedule.reads_toJson (h c hc)
    simpa using hread
  rw [hroot, hmodels, hactions, hschedules]
  rfl

end AgentSpec

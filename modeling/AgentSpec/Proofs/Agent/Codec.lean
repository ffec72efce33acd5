import AgentSpec.Agent.Decode
import AgentSpec.Agent.Encode
import AgentSpec.Agent.Request
import AgentSpec.Proofs.Graph.Codec

/-!
Requests and stored agents are read back from the values that they were written as.
-/
namespace AgentSpec

open Reader (Reads)

/-! ## Requests for new agents -/

theorem Feature.reads_toJson (f : Feature) : Feature.read.Reads f.toJson f := by
  refine .record fun g o hg => ?_
  have hdescription := hg.required 0 "description" (by simp) (.string f.description)
  have huser : g.withDefault 1 "userProvides" "" Reader.string = .ok f.userProvides :=
    hg.withDefault 1 "userProvides" (by simp [Reads.string])
  have hai : g.withDefault 2 "aiShould" "" Reader.string = .ok f.aiShould :=
    hg.withDefault 2 "aiShould" (by simp [Reads.string])
  rw [hdescription, huser, hai]
  rfl

/-- Every query of the source's graph has the members of its objects in order. -/
def Source.Canonical : Source → Prop
  | .graph g => ∀ c ∈ g.schedules, ∀ t ∈ c.steps, t.query.canonical = t.query
  | .features _ _ => True

theorem Source.reads_members {s : Source} (h : s.Canonical) :
    Source.read.Reads (.ofMembers s.members) s := by
  cases s with
  | graph g =>
    have htag : Json.member (members (.graph g)) "mode" = some (.string "graph") := by
      simp [members]
    refine .tagged htag rfl fun given o hg => ?_
    have hgraph := hg.required 0 "graph" (by simp [members]) (Graph.reads_toJson h)
    rw [hgraph]
    rfl
  | features wanted connections =>
    have htag : Json.member (members (.features wanted connections)) "mode" =
        some (.string "features") := by simp [members]
    refine .tagged htag rfl fun given o hg => ?_
    have hwanted : given.withDefault 0 "featureInputs" [] (Reader.list Feature.read) =
        .ok wanted := by
      refine hg.withDefault 0 "featureInputs" ?_
      simpa [members] using Reads.list Feature.reads_toJson wanted
    have hconnections : given.withDefault 1 "connections" [] Reader.strings = .ok connections :=
      hg.withDefault 1 "connections" (by simp [members, Reads.strings])
    rw [hwanted, hconnections]
    rfl

theorem CompileRequest.reads_toJson {r : CompileRequest} (h : r.source.Canonical) :
    CompileRequest.read.Reads r.toJson r := by
  have hshared : ∀ e ∈ r.source.members, e.1 ∉ ["name", "description", "ownerId"] := by
    cases r.source with
    | graph g => simp [Source.members]
    | features wanted connections => simp [Source.members]
  refine Reads.openRecord (f := CompileRequest.mk r.name r.description r.ownerId)
    (by simp) hshared (fun g o hg => ?_) (Source.reads_members h)
  have hname := hg.required 0 "name" (by simp) (.string r.name)
  have hdescription : g.withDefault 1 "description" "" Reader.string = .ok r.description :=
    hg.withDefault 1 "description" (by simp [Reads.string])
  have howner : g.withDefault 2 "ownerId" "" Reader.string = .ok r.ownerId :=
    hg.withDefault 2 "ownerId" (by simp [Reads.string])
  rw [hname, hdescription, howner]
  rfl

/-! ## Stored agents -/

/-- The text of the instant is read as the instant. -/
def Instant.ReadsBack (t : Instant) : Prop := ofRelaxed t.toText = .ok t

theorem Instant.reads_toJson {t : Instant} (h : t.ReadsBack) : Instant.read.Reads t.toJson t := by
  intro o
  have h : ofRelaxed t.toText = .ok t := h
  rw [Instant.toJson, Document.plain, Instant.read, h]
  rfl

theorem AgentRecord.reads_toJson {a : AgentRecord} (hc : a.createdAt.ReadsBack)
    (hu : a.updatedAt.ReadsBack) : AgentRecord.read.Reads a.toJson a := by
  refine .record fun g o hg => ?_
  have hid := hg.required 0 "id" (by simp) (.string a.id)
  have hname := hg.required 1 "name" (by simp) (.string a.name)
  have hdescription := hg.required 2 "description" (by simp) (.string a.description)
  have howner := hg.required 3 "ownerId" (by simp) (.string a.ownerId)
  have hroot : g.nullable 4 "rootModel" Reader.string = .ok a.rootModel :=
    hg.nullable 4 "rootModel" (by simp) Reads.string (fun _ => Json.noConfusion)
  have hconnections : g.required 5 "connections" (Reader.list Connection.read) =
      .ok a.connections :=
    hg.required 5 "connections" (by simp) (.list Connection.reads_toJson a.connections)
  have hcreated := hg.required 6 "createdAt" (by simp) (Instant.reads_toJson hc)
  have hupdated := hg.required 7 "updatedAt" (by simp) (Instant.reads_toJson hu)
  rw [hid, hname, hdescription, howner, hroot, hconnections, hcreated, hupdated]
  rfl

theorem StoredModel.reads_toJson (m : StoredModel) : StoredModel.read.Reads m.toJson m := by
  have hshared : ∀ e ∈ m.model.members, e.1 ∉ ["id"] := by
    have hnames : ∀ n ∈ ["name", "fields", "displayFields", "forms"], n ∉ ["id"] := by decide
    exact fun e he => hnames _ (Model.name_of_mem_members he)
  show StoredModel.read.Reads (.ofMembers ([("id", .string m.id)] ++ m.model.members)) m
  refine Reads.openRecord (f := StoredModel.mk m.id)
    (by simp) hshared (fun g o hg => ?_) m.model.reads_toJson
  have hid := hg.required 0 "id" (by simp) (.string m.id)
  rw [hid]
  rfl

theorem StoredStep.reads_toJson (s : StoredStep) : StoredStep.read.Reads s.toJson s := by
  have hshared : ∀ e ∈ s.step.members, e.1 ∉ ["id", "position", "executionReady"] := by
    have hnames : ∀ n ∈ Step.memberNames, n ∉ ["id", "position", "executionReady"] := by decide
    exact fun e he => hnames _ (Step.name_of_mem_members he)
  refine Reads.openRecord (f := StoredStep.mk s.id s.position s.ready)
    (by simp) hshared (fun g o hg => ?_) s.step.reads_toJson
  have hid := hg.required 0 "id" (by simp) (.string s.id)
  have hposition := hg.required 1 "position" (by simp) (.nat32 s.position)
  have hready := hg.required 2 "executionReady" (by simp) (.bool s.ready)
  rw [hid, hposition, hready]
  rfl

theorem StoredAction.reads_toJson (a : StoredAction) : StoredAction.read.Reads a.toJson a := by
  refine .record fun g o hg => ?_
  have hid := hg.required 0 "id" (by simp) (.string a.id)
  have hmodel := hg.required 1 "modelId" (by simp) (.string a.modelId)
  have hname := hg.required 2 "name" (by simp) (.string a.name)
  have htitle := hg.required 3 "title" (by simp) (.string a.title)
  have hemoji := hg.required 4 "emoji" (by simp) (.string a.emoji)
  have hdescription := hg.required 5 "description" (by simp) (.string a.description)
  have htarget := hg.required 6 "targetModel" (by simp) (.string a.targetModel)
  have hsteps := hg.required 7 "steps" (by simp) (.list StoredStep.reads_toJson a.steps)
  rw [hid, hmodel, hname, htitle, hemoji, hdescription, htarget, hsteps]
  rfl

theorem StoredTurn.reads_toJson {t : StoredTurn} (h : t.step.query.canonical = t.step.query) :
    StoredTurn.read.Reads t.toJson t := by
  have hshared : ∀ e ∈ t.step.members, e.1 ∉ ["id", "modelId", "actionId"] := by
    simp [ScheduleStep.members]
  refine Reads.openRecord (f := StoredTurn.mk t.id t.modelId t.actionId)
    (by simp) hshared (fun g o hg => ?_) (ScheduleStep.reads_toJson h)
  have hid := hg.required 0 "id" (by simp) (.string t.id)
  have hmodel := hg.required 1 "modelId" (by simp) (.string t.modelId)
  have haction := hg.required 2 "actionId" (by simp) (.string t.actionId)
  rw [hid, hmodel, haction]
  rfl

theorem StoredSchedule.reads_toJson {c : StoredSchedule}
    (h : ∀ t ∈ c.steps, t.step.query.canonical = t.step.query) :
    StoredSchedule.read.Reads c.toJson c := by
  refine .record fun g o hg => ?_
  have hid := hg.required 0 "id" (by simp) (.string c.id)
  have hname := hg.required 1 "name" (by simp) (.string c.name)
  have hdescription : g.nullable 2 "description" Reader.string = .ok c.description :=
    hg.nullable 2 "description" (by simp) Reads.string (fun _ => Json.noConfusion)
  have hmode : g.required 3 "mode" ScheduleMode.read = .ok c.mode :=
    hg.required 3 "mode" (by simp) (.choiceOf (by cases c.mode <;> decide) (by decide))
  have hinterval : g.nullable 4 "intervalHours" Reader.nat32 = .ok c.intervalHours :=
    hg.nullable 4 "intervalHours" (by simp) Reads.nat32 (fun _ => Json.noConfusion)
  have hstatus : g.required 5 "status" ScheduleStatus.read = .ok c.status :=
    hg.required 5 "status" (by simp) (.choiceOf (by cases c.status <;> decide) (by decide))
  have hturns : (Reader.list StoredTurn.read).Reads (.ofList StoredTurn.toJson c.steps) c.steps :=
    Reads.list_of_mem fun t ht => StoredTurn.reads_toJson (h t ht)
  have hsteps := hg.required 6 "steps" (by simp) hturns
  rw [hid, hname, hdescription, hmode, hinterval, hstatus, hsteps]
  rfl

/-- The instants of the agent read back, and every query has the members of its objects in order. -/
structure StoredGraph.Canonical (g : StoredGraph) : Prop where
  createdAt : g.agent.createdAt.ReadsBack
  updatedAt : g.agent.updatedAt.ReadsBack
  queries : ∀ c ∈ g.schedules, ∀ t ∈ c.steps, t.step.query.canonical = t.step.query

theorem StoredGraph.reads_toJson {g : StoredGraph} (h : g.Canonical) :
    StoredGraph.read.Reads g.toJson g := by
  refine .record fun given o hg => ?_
  have hagent := hg.required 0 "agent" (by simp) (AgentRecord.reads_toJson h.createdAt h.updatedAt)
  have hmodels := hg.required 1 "models" (by simp) (.list StoredModel.reads_toJson g.models)
  have hactions := hg.required 2 "actions" (by simp) (.list StoredAction.reads_toJson g.actions)
  have hlist : (Reader.list StoredSchedule.read).Reads (.ofList StoredSchedule.toJson g.schedules)
      g.schedules := Reads.list_of_mem fun c hc => StoredSchedule.reads_toJson (h.queries c hc)
  have hschedules := hg.required 3 "schedules" (by simp) hlist
  rw [hagent, hmodels, hactions, hschedules]
  rfl

end AgentSpec

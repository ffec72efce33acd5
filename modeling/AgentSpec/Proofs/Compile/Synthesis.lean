import AgentSpec.Compile.Run
import AgentSpec.Proofs.Enrich.Design

/-!
What is let through of the assistant's designs.

The answer is checked as a whole before anything of it is used, and only then are the credentials
taken off its workspace.  So what the check has approved of the workspace may be gone again: its name
field, the fields of its forms, all of its display fields.  Main statement: one question is asked,
and what is let through is the graph that was read with a plain workspace and a root
(`synthesis_lets_through`).
-/
namespace AgentSpec

namespace Model

/-- A workspace without credentials, which has a name and shows and asks for fields that it has. -/
structure Plain (m : Model) : Prop where
  named : m.hasField "name"
  noAccount : ∀ f ∈ m.fields, f.type ≠ .oauth
  noCredential : ∀ f ∈ m.fields, ∀ s ∈ Service.catalog, f.name ≠ s.fieldName
  displayFields : ∀ names, m.displayFields = some names → ∀ n ∈ names, m.hasField n
  forms : ∀ form ∈ m.forms, ∀ n ∈ form.fields, m.hasField n

/-- The new name field is no credential, since no service calls its field so. -/
theorem isCredential_nameField : nameField.isCredential = false := by decide

theorem plainFields_isCredential {m : Model} {f : Field} (hf : f ∈ m.plainFields) :
    f.isCredential = false := by
  unfold plainFields at hf
  simp only at hf
  split at hf
  · simpa using (List.mem_filter.mp hf).2
  · rcases List.mem_cons.mp hf with rfl | hf
    · exact isCredential_nameField
    · simpa using (List.mem_filter.mp hf).2

end Model

theorem Field.isCredential_eq_false {f : Field} :
    f.isCredential = false ↔ f.type ≠ .oauth ∧ ∀ s ∈ Service.catalog, f.name ≠ s.fieldName := by
  unfold isCredential Service.ofField?
  rw [Bool.or_eq_false_iff, beq_eq_false_iff_ne, Option.isSome_eq_false_iff, Option.isNone_iff_eq_none,
    List.find?_eq_none]
  refine and_congr_right fun _ => forall₂_congr fun s _ => ?_
  rw [beq_iff_eq]
  exact not_congr eq_comm

theorem Model.withoutCredentials_plain (m : Model) : m.withoutCredentials.Plain := by
  rw [withoutCredentials_eq]
  refine ⟨plainFields_name, fun f hf => ?_, fun f hf => ?_, fun names hnames n hn => ?_,
    fun form hform n hn => ?_⟩
  · exact (Field.isCredential_eq_false.mp (plainFields_isCredential hf)).1
  · exact (Field.isCredential_eq_false.mp (plainFields_isCredential hf)).2
  · obtain ⟨old, -, rfl⟩ := Option.map_eq_some_iff.mp hnames
    show m.plainFields.any (·.name == n)
    cases hkept : old.filter fun n => m.plainFields.any (·.name == n) with
    | nil =>
      rw [hkept] at hn
      rw [List.mem_singleton.mp hn]
      exact plainFields_name
    | cons k rest =>
      rw [hkept] at hn
      have hmem : n ∈ old.filter fun n => m.plainFields.any (·.name == n) := hkept ▸ hn
      exact (List.mem_filter.mp hmem).2
  · obtain ⟨old, -, rfl⟩ := List.mem_map.mp hform
    exact (List.mem_filter.mp hn).2

/-- The workspace that a graph gets if it has none. -/
theorem workspace_plain : (workspace []).Plain := by
  refine ⟨rfl, by decide, by decide, fun names hnames n hn => ?_, fun form hform => nomatch hform⟩
  cases hnames
  rw [List.mem_singleton.mp hn]
  rfl

namespace Graph

variable {read g : Graph}

/-- What is let through of a graph that was read. -/
structure Designed (read g : Graph) : Prop where
  checked : g.violations = []
  workspace : ∃ m, g.models.filter (·.name == workspaceName) = [m] ∧ m.Plain
  others : g.models.filter (·.name != workspaceName) = read.models.filter (·.name != workspaceName)
  actions : g.actions = read.actions
  schedules : g.schedules = read.schedules
  root : g.rootModel = read.rootModel.or read.defaultRoot?
  hasRoot : g.rootModel.isSome

/-- A change of the first model of a name leaves the models of other names. -/
theorem filter_changeModel {name : String} {change : Model → Model}
    (hname : ∀ m, (change m).name = m.name) :
    (g.changeModel name change).models.filter (·.name != name) =
      g.models.filter (·.name != name) := by
  unfold changeModel
  generalize g.models = models
  induction models with
  | nil => rfl
  | cons m rest ih =>
    unfold changeModel.go
    by_cases h : m.name == name
    · have hold : (m.name != name) = false := by simpa using h
      have hnew : ((change m).name != name) = false := by rw [hname, hold]
      rw [if_pos h, List.filter_cons, List.filter_cons, hold, hnew]
      rfl
    · rw [if_neg h, List.filter_cons, List.filter_cons]
      simp only [ih]

/-- Of distinct names only one model is changed. -/
theorem filter_changeModel_self {name : String} {change : Model → Model}
    (hname : ∀ m, (change m).name = m.name) (hd : (g.models.map (·.name)).Nodup)
    (hthere : (g.model? name).isSome) :
    ∃ m ∈ g.models, (g.changeModel name change).models.filter (·.name == name) = [change m] := by
  unfold changeModel
  unfold model? at hthere
  generalize g.models = models at hd hthere ⊢
  induction models with
  | nil => cases hthere
  | cons m rest ih =>
    obtain ⟨hm, hrest⟩ := List.nodup_cons.mp hd
    unfold changeModel.go
    by_cases h : m.name == name
    · have hnone : rest.filter (·.name == name) = [] := by
        rw [List.filter_eq_nil_iff]
        intro k hk hkname
        have hsame : k.name = m.name := (beq_iff_eq.mp hkname).trans (beq_iff_eq.mp h).symm
        exact hm (List.mem_map.mpr ⟨k, hk, hsame⟩)
      have hnew : ((change m).name == name) = true := by rw [hname, h]
      refine ⟨m, List.mem_cons_self, ?_⟩
      rw [if_pos h, List.filter_cons, hnone, if_pos hnew]
    · rw [List.find?_cons, Bool.eq_false_iff.mpr h] at hthere
      obtain ⟨k, hk, hfilter⟩ := ih hrest hthere
      refine ⟨k, List.mem_cons_of_mem _ hk, ?_⟩
      rw [if_neg h, List.filter_cons, if_neg h]
      exact hfilter

section PlainWorkspace

theorem withPlainWorkspace_actions : read.withPlainWorkspace.actions = read.actions := by
  unfold withPlainWorkspace
  split <;> rfl

theorem withPlainWorkspace_schedules : read.withPlainWorkspace.schedules = read.schedules := by
  unfold withPlainWorkspace
  split <;> rfl

theorem withPlainWorkspace_rootModel : read.withPlainWorkspace.rootModel = read.rootModel := by
  unfold withPlainWorkspace
  split <;> rfl

theorem withPlainWorkspace_others : read.withPlainWorkspace.models.filter (·.name != workspaceName) =
    read.models.filter (·.name != workspaceName) := by
  unfold withPlainWorkspace
  by_cases hthere : (read.model? workspaceName).isSome
  · rw [if_pos hthere]
    exact filter_changeModel fun m => by rw [Model.withoutCredentials_eq]
  · rw [if_neg hthere]
    show (read.models ++ [AgentSpec.workspace []]).filter _ = _
    rw [List.filter_append]
    exact List.append_nil _

theorem withPlainWorkspace_workspace (hd : (read.models.map (·.name)).Nodup) :
    ∃ m, read.withPlainWorkspace.models.filter (·.name == workspaceName) = [m] ∧ m.Plain := by
  unfold withPlainWorkspace
  by_cases hthere : (read.model? workspaceName).isSome
  · rw [if_pos hthere]
    have hname : ∀ m : Model, m.withoutCredentials.name = m.name := by
      intro m
      rw [Model.withoutCredentials_eq]
    obtain ⟨m, -, hm⟩ := filter_changeModel_self hname hd hthere
    exact ⟨_, hm, m.withoutCredentials_plain⟩
  · rw [if_neg hthere]
    refine ⟨_, ?_, workspace_plain⟩
    have hnone : read.models.filter (·.name == workspaceName) = [] := by
      rw [List.filter_eq_nil_iff]
      intro m hm hname
      exact hthere (List.find?_isSome.mpr ⟨m, hm, hname⟩)
    show (read.models ++ [AgentSpec.workspace []]).filter _ = _
    rw [List.filter_append, hnone]
    rfl

end PlainWorkspace

/-- The first model of another name is found among those of other names. -/
theorem defaultRoot?_eq_head (g : Graph) :
    g.defaultRoot? = (g.models.filter (·.name != workspaceName)).head?.map (·.name) := by
  rw [List.head?_filter]
  rfl

theorem defaultRoot?_isSome (h : ∃ m ∈ g.models, m.name ≠ workspaceName) :
    g.defaultRoot?.isSome := by
  obtain ⟨m, hm, hname⟩ := h
  unfold defaultRoot?
  rw [Option.isSome_map]
  exact List.find?_isSome.mpr ⟨m, hm, bne_iff_ne.mpr hname⟩

/-- An answer is let through if it can be read as a graph that passes the check and has a model of
its own. -/
theorem ofAnswer_eq_ok {answer : Json} : ofAnswer answer = .ok g ↔
    ∃ read, Reader.ofJson Graph.read answer = .ok read ∧ read.violations = [] ∧
      (∃ m ∈ read.models, m.name ≠ workspaceName) ∧ read.withPlainWorkspace.withRoot = g := by
  have hall (models : List Model) :
      ¬models.all (·.name == workspaceName) ↔ ∃ m ∈ models, m.name ≠ workspaceName := by
    simp
  unfold ofAnswer
  cases hread : Reader.ofJson Graph.read answer with
  | error refusal =>
    constructor
    · intro h
      cases h
    · rintro ⟨read, h, -⟩
      cases h
  | ok read =>
    rw [show ((Except.ok read : Except Refusal Graph).mapError SynthesisFault.undecodable) =
      .ok read from rfl]
    constructor
    · intro h
      obtain ⟨_, hok, h⟩ := bind_eq_ok.mp h
      cases hok
      obtain ⟨kept, hchecked, h⟩ := bind_eq_ok.mp h
      cases hc : AgentSpec.checked read.violations read with
      | error vs =>
        rw [hc] at hchecked
        cases hchecked
      | ok k =>
        rw [hc] at hchecked
        cases hchecked
        obtain ⟨hvs, rfl⟩ := checked_eq_ok hc
        simp only at h
        split at h
        · cases h
        · rename_i hother
          cases h
          exact ⟨read, rfl, hvs, (hall _).mp hother, rfl⟩
    · rintro ⟨_, hok, hvs, hother, rfl⟩
      cases hok
      have hc : AgentSpec.checked read.violations read = .ok read := by
        rw [hvs]
        rfl
      show ((AgentSpec.checked read.violations read).mapError SynthesisFault.badShape >>= _) = _
      rw [hc]
      show (if _ then _ else _) = _
      rw [if_neg ((hall _).mpr hother)]
      rfl

theorem designed (hvs : read.violations = []) (hother : ∃ m ∈ read.models, m.name ≠ workspaceName) :
    read.Designed read.withPlainWorkspace.withRoot := by
  have hshaped : read.Shaped := violations_eq_nil.mp hvs
  have hroot : read.withPlainWorkspace.withRoot.rootModel = read.rootModel.or read.defaultRoot? := by
    show (read.withPlainWorkspace.rootModel <|> read.withPlainWorkspace.defaultRoot?) = _
    rw [Option.orElse_eq_orElse, Option.orElse_eq_or, withPlainWorkspace_rootModel, defaultRoot?_eq_head,
      withPlainWorkspace_others, ← defaultRoot?_eq_head]
  refine ⟨violations_eq_nil.mpr hshaped.withPlainWorkspace.withRoot,
    withPlainWorkspace_workspace hshaped.modelNames, withPlainWorkspace_others,
    withPlainWorkspace_actions, withPlainWorkspace_schedules, hroot, ?_⟩
  rw [hroot, Option.isSome_or, defaultRoot?_isSome hother, Bool.or_true]

end Graph

/-- What becomes of a reply of the assistant. -/
structure Synthesized (reply : Except AssistantError Json) (result : Except SynthesisFault Graph) :
    Prop where
  /-- Nothing but these four conditions decides. -/
  passes : (∃ g, result = .ok g) ↔ ∃ answer read, reply = .ok answer ∧
    Reader.ofJson Graph.read answer = .ok read ∧ read.violations = [] ∧
    ∃ m ∈ read.models, m.name ≠ workspaceName
  designed : ∀ g, result = .ok g → ∃ answer read, reply = .ok answer ∧
    Reader.ofJson Graph.read answer = .ok read ∧ read.Designed g

/-- The graph of a reply. -/
def Graph.ofReply (reply : Except AssistantError Json) : Except SynthesisFault Graph :=
  match reply with
  | .error e => .error (.callFailed e)
  | .ok answer => ofAnswer answer

theorem Graph.ofReply_synthesized (reply : Except AssistantError Json) :
    Synthesized reply (ofReply reply) := by
  cases reply with
  | error e =>
    refine ⟨⟨?_, ?_⟩, fun g hg => nomatch hg⟩
    · rintro ⟨g, hg⟩
      cases hg
    · rintro ⟨answer, read, hok, -⟩
      cases hok
  | ok answer =>
    refine ⟨⟨?_, ?_⟩, fun g hg => ?_⟩
    · rintro ⟨g, hg⟩
      obtain ⟨read, hread, hvs, hother, -⟩ := ofAnswer_eq_ok.mp hg
      exact ⟨answer, read, rfl, hread, hvs, hother⟩
    · rintro ⟨_, read, hok, hread, hvs, hother⟩
      cases hok
      exact ⟨_, ofAnswer_eq_ok.mpr ⟨read, hread, hvs, hother, rfl⟩⟩
    · obtain ⟨read, hread, hvs, hother, rfl⟩ := ofAnswer_eq_ok.mp hg
      exact ⟨answer, read, rfl, hread, designed hvs hother⟩

namespace Compiler

variable {c : Compiler} {r : CompileRequest} {wanted : List Feature} {connections : List String}

/-- The services that a request for features may use. -/
def permittedFor (c : Compiler) (connections : List String) : List String :=
  if connections.isEmpty then c.settings.permittedConnections else connections

/-- One question is asked for the features of a request, and nothing else is done.  What is not let
through is reported as a fault of the synthesis. -/
theorem synthesis_lets_through (hc : c.designs) (hr : r.source = .features wanted connections)
    (env : Surroundings) (w : World) :
    let permitted := c.permittedFor connections
    let question := SynthesisRequest.ofFeatures r.name r.description wanted permitted
    ∃ result, Synthesized (env.design question) result ∧
      c.perform env (c.graphOf r) w =
        ((result.mapError .synthesis).map (·, some permitted),
          { w with designs := w.designs ++ [question] }) := by
  intro permitted question
  refine ⟨Graph.ofReply (env.design question), Graph.ofReply_synthesized _, ?_⟩
  have hpermitted : (if connections.isEmpty then c.settings.permittedConnections
      else connections) = permitted := rfl
  have hquestion : SynthesisRequest.ofFeatures r.name r.description wanted permitted = question :=
    rfl
  unfold perform graphOf
  rw [hr]
  simp only [hc, Bool.not_true, Bool.false_eq_true, if_false, hpermitted, hquestion, Program.run]
  cases hreply : env.design question with
  | error e => rfl
  | ok answer =>
    cases hanswer : Graph.ofAnswer answer with
    | error fault =>
      simp only [Graph.ofReply, hanswer]
      rfl
    | ok g =>
      simp only [Graph.ofReply, hanswer]
      rfl

section Witness

def designer : Compiler where
  designs := true

def postingRequest : CompileRequest where
  name := "Poster"
  description := "Posts ideas."
  ownerId := "ada"
  source := .features [] ["x"]

/-- A design whose workspace is named by an account and shows only another one. -/
def greedyDesign : Json :=
  .ofMembers [("models", .array [
    .ofMembers [
      ("name", .string "Workspace"),
      ("fields", .array [
        .ofMembers [("name", .string "name"), ("title", .string "Name"), ("type", .string "oauth")],
        .ofMembers
          [("name", .string "gmailAuth"), ("title", .string "Gmail"), ("type", .string "text")]]),
      ("displayFields", .array [.string "gmailAuth"])],
    .ofMembers [("name", .string "Idea"), ("fields", .array [])]])]

def greedySurroundings : Surroundings where
  name := fun _ _ => "agent-01"
  time := fun _ => ⟨20000, 43200, 0⟩
  design := fun _ => .ok greedyDesign
  code := fun _ => .ok ⟨"pass", [], []⟩

theorem synthesis_lets_through_greedyDesign :
    designer.designs = true ∧ postingRequest.source = .features [] ["x"] ∧
      ∃ g m, (designer.perform greedySurroundings (designer.graphOf postingRequest) {}).1 =
          .ok (g, some ["x"]) ∧
        g.rootModel = some "Idea" ∧ g.models.filter (·.name == workspaceName) = [m] ∧ m.Plain := by
  refine ⟨rfl, rfl, ?_⟩
  obtain ⟨result, hresult, hperform⟩ := synthesis_lets_through (c := designer) (r := postingRequest)
    rfl rfl greedySurroundings {}
  have hread : ∃ read, Reader.ofJson Graph.read greedyDesign = .ok read ∧ read.violations = [] ∧
      (∃ m ∈ read.models, m.name ≠ workspaceName) ∧
      read.rootModel.or read.defaultRoot? = some "Idea" := by
    refine ⟨_, rfl, ?_, ?_, ?_⟩ <;> decide +kernel
  obtain ⟨read, hread, hvs, hother, hroot⟩ := hread
  obtain ⟨g, rfl⟩ := hresult.passes.mpr ⟨greedyDesign, read, rfl, hread, hvs, hother⟩
  obtain ⟨_, _, hok, hread', hg⟩ := hresult.designed g rfl
  cases hok
  cases hread.symm.trans hread'
  obtain ⟨m, hm, hplain⟩ := hg.workspace
  exact ⟨g, m, congrArg Prod.fst hperform, hg.root.trans hroot, hm, hplain⟩

end Witness

end Compiler
end AgentSpec

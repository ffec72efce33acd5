import AgentSpec.Proofs.Compile.Soundness
import AgentSpec.Proofs.Store.Reached

/-!
The counts of a result are what the tables gained.

A run counts what it has stored from the replies, the derived fields from the completed graph and
from the fields kept beside it, and the connections from the record of the agent.  None of these is
the graph that the tables load.  The entities of the joined graph are those of both parts, so the
first counts add up.  For the fields there are two reasons: the names of stored models are distinct,
so the fields kept beside the graph go to one model each, and no model has a field of such a name, so
the tables drop none.  Main statement: `Compiler.counts_conserved`.
-/
namespace AgentSpec

/-! ## What a graph holds -/

/-- How much a stored graph holds. -/
def StoredGraph.counts (g : StoredGraph) : Counts where
  models := g.models.length
  actions := g.actions.length
  steps := (g.actions.flatMap (·.steps)).length
  schedules := g.schedules.length
  turns := (g.schedules.flatMap (·.steps)).length
  derivedFields := (g.models.flatMap (·.model.fields)).countP (·.derived)
  connections := g.agent.connections.length

/-- What is held where no agent is. -/
def Counts.zero : Counts := ⟨0, 0, 0, 0, 0, 0, 0⟩

/-- The counts tell what came between two states.  The connections are told as they are afterwards. -/
structure Counts.Tell (c before after : Counts) : Prop where
  models : before.models + c.models = after.models
  actions : before.actions + c.actions = after.actions
  steps : before.steps + c.steps = after.steps
  schedules : before.schedules + c.schedules = after.schedules
  turns : before.turns + c.turns = after.turns
  derivedFields : before.derivedFields + c.derivedFields = after.derivedFields
  connections : c.connections = after.connections

/-- An agent that was just made holds nothing. -/
theorem Counts.Tell.of_bare {c after : Counts} {record : AgentRecord}
    (h : c.Tell (StoredGraph.bare record).counts after) : c.Tell .zero after :=
  ⟨h.models, h.actions, h.steps, h.schedules, h.turns, h.derivedFields, h.connections⟩

theorem StoredGraph.Reorders.counts_eq {g h : StoredGraph} (hr : g.Reorders h) :
    g.counts = h.counts := by
  unfold counts
  rw [hr.agent, hr.models.length_eq, hr.actions.length_eq, hr.schedules.length_eq,
    (hr.actions.flatMap_right _).length_eq, (hr.schedules.flatMap_right _).length_eq,
    (hr.models.flatMap_right _).countP_eq]

/-! ## Fields that are kept beside a graph -/

/-- Of distinct names one is met. -/
theorem flatMap_ite_of_mem {names : List String} (hnames : names.Nodup) {name : String}
    (hname : name ∈ names) (as : List α) :
    (names.flatMap fun n => if name = n then as else []) = as := by
  induction names with
  | nil => cases hname
  | cons n rest ih =>
    obtain ⟨hn, hrest⟩ := List.nodup_cons.mp hnames
    rw [List.flatMap_cons]
    by_cases heq : name = n
    · have hnone : (rest.flatMap fun n => if name = n then as else []) = [] := by
        rw [List.flatMap_eq_nil_iff]
        intro m hm
        have hne : name ≠ m := by
          rintro rfl
          exact hn (heq ▸ hm)
        exact if_neg hne
      rw [if_pos heq, hnone, List.append_nil]
    · rw [if_neg heq, List.nil_append]
      exact ih hrest ((List.mem_cons.mp hname).resolve_left heq)

namespace Additions

theorem fieldsOf_cons {name : String} {fields : List Field} {rest : Additions}
    (hnew : name ∉ rest.map (·.1)) (n : String) :
    fieldsOf ((name, fields) :: rest) n = (if name = n then fields else []) ++ fieldsOf rest n := by
  unfold fieldsOf
  rw [Dictionary.lookup_cons]
  by_cases heq : name = n
  · have hnone : rest.lookup n = none := Dictionary.lookup_eq_none (heq ▸ hnew)
    rw [if_pos heq, if_pos heq.symm, hnone, Option.getD_some, Option.getD_none, List.append_nil]
  · rw [if_neg heq, if_neg (Ne.symm heq), List.nil_append]

/-- The fields for each of some distinct names are all fields, if no other name has any. -/
theorem flatMap_fieldsOf_perm {adds : Additions} {names : List String} (hnames : names.Nodup)
    (hkeys : (adds.map (·.1)).Nodup) (hin : ∀ add ∈ adds, add.1 ∈ names) :
    (names.flatMap adds.fieldsOf).Perm (adds.flatMap (·.2)) := by
  induction adds with
  | nil =>
    have hnone : names.flatMap (fieldsOf []) = [] := List.flatMap_eq_nil_iff.mpr fun _ _ => rfl
    rw [hnone]
    exact .refl _
  | cons add rest ih =>
    obtain ⟨name, fields⟩ := add
    obtain ⟨hname, hrest⟩ := List.nodup_cons.mp hkeys
    have hsplit : fieldsOf ((name, fields) :: rest) =
        fun n => (if name = n then fields else []) ++ fieldsOf rest n :=
      funext (fieldsOf_cons hname)
    have hone : (names.flatMap fun n => if name = n then fields else []) = fields :=
      flatMap_ite_of_mem hnames (hin _ List.mem_cons_self) fields
    have hparts := List.flatMap_append_perm names (fun n => if name = n then fields else [])
      (fieldsOf rest)
    rw [hone] at hparts
    rw [hsplit, List.flatMap_cons]
    exact hparts.symm.trans
      ((ih hrest fun add hadd => hin add (List.mem_cons_of_mem _ hadd)).append_left fields)

end Additions

namespace Program.Completed

variable {w : Weave} {coding : Bool} {e : Enriched} {existing : StoredGraph} {es : List Event}
  {saved : Saved} {appends : List (String × List Field)} {actions : List ActionEntry}
  {schedules : List ScheduleEntry} {d : Graph} {root : Option String}

variable (h : Completed w coding e.graph e.additions (.ofStored existing) es saved appends actions
    schedules)
  (hnames : (existing.models.map (·.model.name)).Nodup)
  (hd : Draft.Sound (existing.toGraph.rooted root) d ⟨e.graph, e.additions⟩)
  (hids : (existing.models.map (·.id)).Nodup)
include h hnames hd hids

/-- Stored models have their old fields and all that are kept beside the graph. -/
theorem fields_extended : ((existing.models.map (·.extended (writes es))).flatMap (·.model.fields)).Perm
    (existing.models.flatMap (·.model.fields) ++ e.additions.flatMap (·.2)) := by
  have hmodels : (existing.models.map (·.extended (writes es))).flatMap (·.model.fields) =
      existing.models.flatMap fun m => m.model.fields ++ e.additions.fieldsOf m.model.name := by
    rw [List.flatMap_map]
    exact List.flatMap_congr fun m hm =>
      congrArg (·.model.fields) (h.extended_eq hnames hd hids hm)
  have hadded : (existing.models.flatMap fun m => e.additions.fieldsOf m.model.name).Perm
      (e.additions.flatMap (·.2)) := by
    rw [← List.flatMap_map (fun m : StoredModel => m.model.name) e.additions.fieldsOf]
    refine Additions.flatMap_fieldsOf_perm hnames hd.sorted.nodup fun add hadd => ?_
    obtain ⟨m, hm, -⟩ := hd.additions add hadd
    obtain ⟨old, hold, rfl⟩ := List.mem_map.mp (List.mem_of_find?_eq_some hm)
    have hname : old.model.name = add.1 := by simpa using List.find?_some hm
    exact hname ▸ List.mem_map_of_mem hold
  rw [hmodels]
  exact (List.flatMap_append_perm _ _ _).symm.trans (hadded.append_left _)

/-- The counts of a run tell what the joined graph has beside the stored one. -/
theorem tell_joined (record : AgentRecord) :
    (Counts.ofSaved saved e.derivedFieldCount record.connections.length).Tell existing.counts
      ({ existing.joined (writes es) saved with agent := record } : StoredGraph).counts := by
  have hturns : ((saved.schedules.map (·.reread)).flatMap (·.steps)).length =
      (saved.schedules.flatMap (·.steps)).length := by
    simp [List.length_flatMap, StoredSchedule.reread, Function.comp_def]
  have hderived : (saved.models.flatMap (·.model.fields)).countP (·.derived) =
      e.graph.derivedFieldCount := by
    rw [Graph.derivedFieldCount, ← h.savedModels, List.flatMap_map]
  have hold := (h.fields_extended hnames hd hids).countP_eq (·.derived)
  rw [List.countP_append] at hold
  constructor
  · show _ = (existing.models.map (·.extended (writes es)) ++ saved.models).length
    rw [List.length_append, List.length_map]
    rfl
  · exact List.length_append.symm
  · show _ = ((existing.actions ++ saved.actions).flatMap (·.steps)).length
    rw [List.flatMap_append, List.length_append]
    rfl
  · show _ = (existing.schedules ++ saved.schedules.map (·.reread)).length
    rw [List.length_append, List.length_map]
    rfl
  · show _ = ((existing.schedules ++ saved.schedules.map (·.reread)).flatMap (·.steps)).length
    rw [List.flatMap_append, List.length_append, hturns]
    rfl
  · show (existing.models.flatMap (·.model.fields)).countP (·.derived) +
        (e.graph.derivedFieldCount + (e.additions.flatMap (·.2)).countP (·.derived)) =
      ((existing.models.map (·.extended (writes es)) ++ saved.models).flatMap
        (·.model.fields)).countP (·.derived)
    rw [List.flatMap_append, List.countP_append, hold, hderived]
    omega
  · rfl

end Program.Completed

/-! ## Results -/

namespace Compiler

variable {w : Weave} {c : Compiler} {es : List Event} {s s' : Store} {clock : List Instant}
  {o : Outcome}

theorem compile_counts {r : CompileRequest} (h : (c.compile r).Trace w es (.value o))
    (hf : s.Follows es clock s') (hs : s.Lawful) (hclock : ∀ t ∈ clock, t.Ordinary) :
    s.load o.agentId = .ok none ∧ (s'.ShallowFor o.agentId →
      ∃ g, s'.load o.agentId = .ok (some g) ∧ o.counts.Tell .zero g.counts) := by
  obtain ⟨d, permitted, e, first, t, record, es₁, saved, -, hg, he, hfounded, rfl⟩ :=
    compile_value h hf hs hclock
  refine ⟨hfounded.unknown, fun hq => ?_⟩
  obtain ⟨appends, actions, schedules, hc⟩ := Program.save_completed hfounded.saving
  have hsettled := hfounded.settled
  obtain ⟨k, hload, hk⟩ := Store.load_of_lists hsettled.after (hsettled.lists hq)
  have hjoined : k.counts = ((StoredGraph.bare record).joined (writes es₁) saved).counts := by
    rw [hk.counts_eq]
    exact (hc.grown_reorders hsettled ⟨rfl, .refl _, .refl _, .refl _⟩).counts_eq
  have hd : Draft.Sound ((StoredGraph.bare record).toGraph.rooted none) d.withRoot
      ⟨e.graph, e.additions⟩ := Graph.sound_of_enrich he hg.models hg.modelNames
  have hnames : ((StoredGraph.bare record).models.map (·.model.name)).Nodup := List.nodup_nil
  have hids : ((StoredGraph.bare record).models.map (·.id)).Nodup := List.nodup_nil
  have htell := (hc.tell_joined hnames hd hids record).of_bare
  refine ⟨k, hload, ?_⟩
  rw [hjoined]
  exact htell

theorem extend_counts {r : UpdateRequest} (h : (c.extend r).Trace w es (.value o))
    (hf : s.Follows es clock s') (hs : s.Lawful) (hclock : ∀ t ∈ clock, t.Ordinary) :
    ∃ old g, s.load o.agentId = .ok (some old) ∧ s'.load o.agentId = .ok (some g) ∧
      o.counts.Tell old.counts g.counts := by
  obtain ⟨existing, g, e, es₁, saved, mid, now, record, graph, hx, -, hnow, hu, hgraph, rfl⟩ :=
    extend_value h hf hs
  obtain ⟨appends, actions, schedules, hc⟩ := Program.save_completed hx.saving
  have hsettled := hx.settled
  obtain ⟨-, hlists⟩ := Store.updateAgent_lists
    (hsettled.lists (hx.shallowFor_of_load hu hgraph)) (hclock now hnow) hu
  have hid : record.id = r.agentId := Store.agentId_of_lists hlists
  obtain ⟨k, hload, hk⟩ := Store.load_of_lists (hsettled.after.updateAgent hu) hlists
  have hafter : s'.load r.agentId = .ok (some graph) := hid ▸ hgraph
  have hsame : graph = k := by
    rw [hload] at hafter
    cases hafter
    rfl
  have hagent : graph.agent.id = r.agentId := by
    rw [hsame, hk.agent]
    exact hid
  have hjoined : graph.counts =
      ({ existing.joined (writes es₁) saved with agent := record } : StoredGraph).counts := by
    have hr := hc.grown_reorders hsettled hx.order
    rw [hsame, hk.counts_eq]
    exact StoredGraph.Reorders.counts_eq ⟨rfl, hr.models, hr.actions, hr.schedules⟩
  have hd : Draft.Sound (existing.toGraph.rooted existing.agent.rootModel) r.delta
      ⟨e.graph, e.additions⟩ := by
    have hshaped := UpdateRequest.delta_shaped hx.request
    exact Graph.sound_of_enrich hx.enriched hshaped.models hshaped.modelNames
  have hids : (existing.models.map (·.id)).Nodup :=
    (hx.order.models.map _).nodup_iff.mp (hx.listed.nodup_modelIds hs)
  have htell := hc.tell_joined (hs.shows hx.loaded).modelNames hd hids record
  refine ⟨existing, graph, ?_, ?_, ?_⟩
  · exact (congrArg s.load hagent).trans hx.loaded
  · exact (congrArg s'.load hagent).trans hafter
  · rw [hjoined]
    exact htell

/-- The counts of a request that succeeds are conserved, whatever the order in which its parts were
stored: for each kind of entity the tables have as many more of the agent as its result says, and it
has as many connections.  An update reads its agent again before it succeeds; a compilation does not,
so here no query may be nested too deeply. -/
theorem counts_conserved (hf : s.Follows es clock s') (hs : s.Lawful)
    (hclock : ∀ t ∈ clock, t.Ordinary) :
    (∀ r, (c.compile r).Trace w es (.value o) → s.load o.agentId = .ok none ∧
      (s'.ShallowFor o.agentId →
        ∃ g, s'.load o.agentId = .ok (some g) ∧ o.counts.Tell .zero g.counts)) ∧
    ∀ r, (c.extend r).Trace w es (.value o) → ∃ old g, s.load o.agentId = .ok (some old) ∧
      s'.load o.agentId = .ok (some g) ∧ o.counts.Tell old.counts g.counts :=
  ⟨fun _ h => compile_counts h hf hs hclock, fun _ h => extend_counts h hf hs hclock⟩

/-- An agent is made, and then an output becomes a field of its model. -/
theorem counts_conserved_for_calls :
    ∃ o o', leadRun = (.ok o, leadRun.2) ∧ callRun = (.ok o', callRun.2) ∧
      o.counts = ⟨1, 0, 0, 0, 0, 0, 0⟩ ∧ o'.counts = ⟨0, 1, 1, 1, 1, 1, 0⟩ ∧
      (({} : Store).load o.agentId = .ok none ∧ leadRun.2.store.ShallowFor o.agentId ∧
        ∃ g, leadRun.2.store.load o.agentId = .ok (some g) ∧ o.counts.Tell .zero g.counts) ∧
      ∃ old g, leadRun.2.store.load o'.agentId = .ok (some old) ∧
        callRun.2.store.load o'.agentId = .ok (some g) ∧ o'.counts.Tell old.counts g.counts := by
  obtain ⟨o, hlead⟩ := leadRun_succeeds
  obtain ⟨o', hcall⟩ := callRun_succeeds
  have htime : ∀ n, (noonSurroundings.time n).Ordinary := fun _ => noon_ordinary
  have hcounts : leadRun.1.toOption.map (·.counts) = some ⟨1, 0, 0, 0, 0, 0, 0⟩ := by
    decide +kernel
  have hcounts' : callRun.1.toOption.map (·.counts) = some ⟨0, 1, 1, 1, 1, 1, 0⟩ := by
    decide +kernel
  rw [hlead] at hcounts
  rw [hcall] at hcounts'
  have hs : leadRun.2.store.Lawful := perform_lawful hlead Store.Lawful.empty
  obtain ⟨es, ht, hran⟩ := Program.run_trace (perform_eq_ok.mp hlead)
  obtain ⟨es', ht', hran'⟩ := Program.run_trace (perform_eq_ok.mp hcall)
  obtain ⟨clock, hf, hclock⟩ := hran.follows_ordinary htime
  obtain ⟨clock', hf', hclock'⟩ := hran'.follows_ordinary htime
  have hnone : leadRun.2.store.turns = [] := by decide +kernel
  have hq : leadRun.2.store.ShallowFor o.agentId := by
    intro c _ _ r hr
    rw [hnone] at hr
    cases hr
  obtain ⟨hbefore, hafter⟩ := (counts_conserved hf Store.Lawful.empty hclock).1 leadRequest ht
  exact ⟨o, o', hlead, hcall, Option.some.inj hcounts, Option.some.inj hcounts',
    ⟨hbefore, hq, hafter hq⟩, (counts_conserved hf' hs hclock').2 callAddition ht'⟩

/-- A compilation succeeds and counts a turn that is never loaded. -/
theorem counts_not_always_conserved :
    ¬∀ (c : Compiler) (env : Surroundings) (r : CompileRequest) (w w' : World) (o : Outcome),
      w.store.Lawful → (∀ n, (env.time n).Ordinary) → c.perform env (c.compile r) w = (.ok o, w') →
      ∃ g, w'.store.load o.agentId = .ok (some g) ∧ o.counts.Tell .zero g.counts := by
  intro hall
  obtain ⟨o, hdeep⟩ := deepRun_succeeds
  obtain ⟨g, hload, -⟩ := hall coder noonSurroundings deepRequest {} _ o Store.Lawful.empty
    (fun _ => noon_ordinary) hdeep
  have hid : deepRun.1.toOption.map (·.agentId) = some "xxxxxxxx" := by decide +kernel
  rw [hdeep] at hid
  have hid : o.agentId = "xxxxxxxx" := Option.some.inj hid
  rw [hid] at hload
  have hloaded := congrArg Except.toOption hload
  cases deepRun_unloadable.symm.trans hloaded

end Compiler
end AgentSpec

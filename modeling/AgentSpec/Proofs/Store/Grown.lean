import AgentSpec.Proofs.Graph.Codec
import AgentSpec.Proofs.Json.Depth
import AgentSpec.Proofs.Store.Lawful
import AgentSpec.Proofs.Trace.Writes

/-!
What the replies of a trace do to the tables.

A call is answered from the tables at a moment of its own, or it fails there and leaves them.  The
tables then grow by the rows of the confirmed writes, in their order, and the fields of a model grow
by those appended to it.  Main statement: `Follows.grown`.
-/
namespace AgentSpec

/-- The tables answer the calls of a trace one after the other, at the times of a clock. -/
inductive Store.Follows : Store → List Event → List Instant → Store → Prop
  | nil (s : Store) : Follows s [] [] s
  | answered {s s' : Store} {es clock} (t : Stamp) (c : StoreCall) :
    Follows (c.answer t s).2 es clock s' →
      Follows s (.replied c (c.answer t s).1 :: es) (t.now :: clock) s'
  | refused {s s' : Store} {es clock} (c : StoreCall) (e : StoreError) :
    Follows s es clock s' → Follows s (.replied c (.error e) :: es) clock s'
  | silent {s s' : Store} {x : Event} {es clock} : (∀ c r, x ≠ .replied c r) →
    Follows s es clock s' → Follows s (x :: es) clock s'

namespace Store.Follows

variable {s s' : Store} {es es' : List Event} {clock : List Instant}

theorem append_iff : Follows s (es ++ es') clock s' ↔
    ∃ before after mid, clock = before ++ after ∧ Follows s es before mid ∧
      Follows mid es' after s' := by
  constructor
  · intro h
    generalize hall : es ++ es' = all at h
    induction h generalizing es with
    | nil s =>
      obtain ⟨rfl, rfl⟩ := List.append_eq_nil_iff.mp hall
      exact ⟨[], [], s, rfl, .nil s, .nil s⟩
    | @answered s s' rest clock t c hrest ih =>
      cases es with
      | nil =>
        rw [List.nil_append] at hall
        exact ⟨[], _, s, rfl, .nil s, hall ▸ .answered t c hrest⟩
      | cons x es =>
        obtain ⟨rfl, hes⟩ := List.cons.inj hall
        obtain ⟨before, after, mid, rfl, h₁, h₂⟩ := ih hes
        exact ⟨t.now :: before, after, mid, rfl, .answered t c h₁, h₂⟩
    | @refused s s' rest clock c e hrest ih =>
      cases es with
      | nil =>
        rw [List.nil_append] at hall
        exact ⟨[], _, s, rfl, .nil s, hall ▸ .refused c e hrest⟩
      | cons x es =>
        obtain ⟨rfl, hes⟩ := List.cons.inj hall
        obtain ⟨before, after, mid, rfl, h₁, h₂⟩ := ih hes
        exact ⟨before, after, mid, rfl, .refused c e h₁, h₂⟩
    | @silent s s' y rest clock hy hrest ih =>
      cases es with
      | nil =>
        rw [List.nil_append] at hall
        exact ⟨[], _, s, rfl, .nil s, hall ▸ .silent hy hrest⟩
      | cons x es =>
        obtain ⟨rfl, hes⟩ := List.cons.inj hall
        obtain ⟨before, after, mid, rfl, h₁, h₂⟩ := ih hes
        exact ⟨before, after, mid, rfl, .silent hy h₁, h₂⟩
  · rintro ⟨before, after, mid, rfl, h₁, h₂⟩
    induction h₁ with
    | nil s => exact h₂
    | answered t c _ ih => exact .answered t c (ih h₂)
    | refused c e _ ih => exact .refused c e (ih h₂)
    | silent hx _ ih => exact .silent hx (ih h₂)

theorem lawful (h : Follows s es clock s') (hs : s.Lawful) : s'.Lawful := by
  induction h with
  | nil s => exact hs
  | answered t c _ ih => exact ih (hs.answer t c)
  | refused c e _ ih => exact ih hs
  | silent _ _ ih => exact ih hs

end Store.Follows

/-! ## Rows of writes -/

def ModelRow.undated (r : ModelRow) : ModelRow := { r with createdAt := "" }
def ActionRow.undated (r : ActionRow) : ActionRow := { r with createdAt := "" }
def StepRow.undated (r : StepRow) : StepRow := { r with createdAt := "" }
def ScheduleRow.undated (r : ScheduleRow) : ScheduleRow := { r with createdAt := "" }
def TurnRow.undated (r : TurnRow) : TurnRow := { r with createdAt := "" }

namespace Write

def agentRow? : Write → Option AgentRow
  | .agent _ record => some (.ofRecord record)
  | _ => none

/-- The row of a write, but for its time. -/
def modelRow? : Write → Option ModelRow
  | .model agentId m => some (.ofModel m.id "" agentId m.model)
  | _ => none

def actionRow? : Write → Option ActionRow
  | .action agentId id modelId a =>
    some (.ofAction id "" agentId modelId a)
  | _ => none

def stepRow? : Write → Option StepRow
  | .step actionId s =>
    some (.ofStep s.id "" actionId s.position s.step s.ready)
  | _ => none

def scheduleRow? : Write → Option ScheduleRow
  | .schedule agentId id c => some (.ofSchedule id "" agentId c)
  | _ => none

def turnRow? : Write → Option TurnRow
  | .turn scheduleId t =>
    some (.ofTurn t.id "" scheduleId t.modelId t.actionId t.step)
  | _ => none

/-- The fields that a write appends to a model. -/
def appended? (modelId : String) : Write → Option (List Field)
  | .fields id fs => if id = modelId then some fs else none
  | _ => none

end Write

/-- The lists of fields that were appended to a model, one after the other. -/
def appendedTo (modelId : String) (ws : List Write) : List (List Field) :=
  ws.filterMap (Write.appended? modelId)

theorem appendedTo_append (modelId : String) (ws ws' : List Write) :
    appendedTo modelId (ws ++ ws') = appendedTo modelId ws ++ appendedTo modelId ws' :=
  List.filterMap_append

theorem appendedTo_eq_nil {modelId : String} {ws : List Write}
    (h : ∀ fields, .fields modelId fields ∉ ws) : appendedTo modelId ws = [] := by
  rw [appendedTo, List.filterMap_eq_nil_iff]
  intro w hw
  cases w with
  | fields id fields =>
    by_cases heq : id = modelId
    · exact absurd (heq ▸ hw) (h fields)
    · exact if_neg heq
  | _ => rfl

/-! ## Fields of models -/

/-- The fields in a column. -/
abbrev Column.Holds (c : Column) (fields : List Field) : Prop :=
  c.read (Reader.list Field.read) = .ok fields

theorem Column.read_document {r : Reader α} {j : Json} {a : α} (h : r.Reads j a)
    (hdepth : j.depth ≤ Document.depthLimit) : (Column.document j).read r = .ok a := by
  rw [Column.read, if_pos hdepth, h.ofJson]
  rfl

theorem Column.ofFields_holds (fields : List Field) : (Column.ofFields fields).Holds fields := by
  refine read_document (.list Field.reads_toJson fields) ?_
  exact Nat.le_trans (Json.depth_ofList fun f _ => Field.depth_toJson f) (by decide)

namespace Store

theorem prefix_appendNew (old fields : List Field) : old <+: appendNew old fields := by
  unfold appendNew
  induction fields generalizing old with
  | nil => exact List.prefix_refl old
  | cons f rest ih =>
    rw [List.foldl_cons]
    by_cases h : old.any (·.name == f.name)
    · rw [if_pos h]
      exact ih old
    · rw [if_neg h]
      exact (List.prefix_append old [f]).trans (ih _)

theorem appendNew_eq_self {old fields : List Field}
    (h : (appendNew old fields).length = old.length) : appendNew old fields = old :=
  ((prefix_appendNew old fields).eq_of_length h.symm).symm

end Store

/-- The row of a model after some writes: its fields may have grown, all else is as it was. -/
structure ModelRow.Extended (ws : List Write) (r r' : ModelRow) : Prop where
  eq : r' = { r with fields := r'.fields }
  untouched : appendedTo r.id ws = [] → r'.fields = r.fields
  holds : ∀ old, r.fields.Holds old →
    r'.fields.Holds ((appendedTo r.id ws).foldl Store.appendNew old)

namespace ModelRow.Extended

variable {ws ws' : List Write} {r r' r'' : ModelRow}

theorem of_untouched (h : appendedTo r.id ws = []) : Extended ws r r :=
  ⟨rfl, fun _ => rfl, fun old hold => by rw [h]; exact hold⟩

theorem id_eq (h : Extended ws r r') : r'.id = r.id := by rw [h.eq]

theorem agentId_eq (h : Extended ws r r') : r'.agentId = r.agentId := by rw [h.eq]

theorem name_eq (h : Extended ws r r') : r'.name = r.name := by rw [h.eq]

theorem trans (h : Extended ws r r') (h' : Extended ws' r' r'') : Extended (ws ++ ws') r r'' := by
  refine ⟨?_, fun hnil => ?_, fun old hold => ?_⟩
  · rw [h'.eq, h.eq]
  · rw [appendedTo_append, List.append_eq_nil_iff] at hnil
    rw [h'.untouched (h.id_eq ▸ hnil.2), h.untouched hnil.1]
  · rw [appendedTo_append, List.foldl_append]
    have hnew := h'.holds _ (h.holds old hold)
    rw [h.id_eq] at hnew
    exact hnew

theorem eq_of_untouched (h : Extended ws r r') (hnil : appendedTo r.id ws = []) : r' = r := by
  rw [h.eq, h.untouched hnil]

end ModelRow.Extended

/-! ## Grown tables -/

namespace Store

/-- The tables after some writes that add rows and append fields. -/
structure Grown (ws : List Write) (s s' : Store) : Prop where
  agents : s'.agents = s.agents ++ ws.filterMap Write.agentRow?
  models : ∃ rows : List ModelRow, rows.map (·.undated) = ws.filterMap Write.modelRow? ∧
    List.Forall₂ (ModelRow.Extended ws) (s.models ++ rows) s'.models
  actions : ∃ rows : List ActionRow, rows.map (·.undated) = ws.filterMap Write.actionRow? ∧
    s'.actions = s.actions ++ rows
  steps : ∃ rows : List StepRow, rows.map (·.undated) = ws.filterMap Write.stepRow? ∧
    s'.steps = s.steps ++ rows
  schedules : ∃ rows : List ScheduleRow,
    rows.map (·.undated) = ws.filterMap Write.scheduleRow? ∧ s'.schedules = s.schedules ++ rows
  turns : ∃ rows : List TurnRow, rows.map (·.undated) = ws.filterMap Write.turnRow? ∧
    s'.turns = s.turns ++ rows
  targets : ∀ id fields, .fields id fields ∈ ws → s'.hasModel id

namespace Grown

variable {ws ws' : List Write} {s s' s'' : Store}

theorem extended_self {rows : List ModelRow} (h : ∀ r ∈ rows, appendedTo r.id ws = []) :
    List.Forall₂ (ModelRow.Extended ws) rows rows := by
  rw [List.forall₂_same]
  exact fun r hr => .of_untouched (h r hr)

theorem extended_append_nil {rows : List ModelRow} (h : ∀ r ∈ rows, appendedTo r.id ws = []) :
    List.Forall₂ (ModelRow.Extended ws) (rows ++ []) rows := by
  rw [List.append_nil]
  exact extended_self h

theorem refl (s : Store) : Grown [] s s := by
  exact ⟨(List.append_nil _).symm, ⟨[], rfl, extended_append_nil fun _ _ => rfl⟩,
    ⟨[], rfl, (List.append_nil _).symm⟩,
    ⟨[], rfl, (List.append_nil _).symm⟩, ⟨[], rfl, (List.append_nil _).symm⟩,
    ⟨[], rfl, (List.append_nil _).symm⟩, fun id fields h => absurd h List.not_mem_nil⟩

theorem modelIds (h : Grown ws s s') :
    ∃ ids, s'.models.map (·.id) = s.models.map (·.id) ++ ids := by
  obtain ⟨rows, -, hrows⟩ := h.models
  refine ⟨rows.map (·.id), ?_⟩
  rw [← List.map_append]
  exact (forall₂_map_eq (hrows.imp fun r r' he => he.id_eq.symm)).symm

theorem hasModel (h : Grown ws s s') {id : String} (hid : s.hasModel id) : s'.hasModel id := by
  obtain ⟨ids, hids⟩ := h.modelIds
  rw [hasModel_iff] at hid ⊢
  rw [hids]
  exact List.mem_append_left _ hid

/-- One after the other.  New rows of the second part are none that the first appends to, since
identifiers are distinct. -/
theorem trans (h : Grown ws s s') (h' : Grown ws' s' s'') (hs : s''.Lawful) :
    Grown (ws ++ ws') s s'' := by
  refine ⟨?_, ?_, ?_, ?_, ?_, ?_, ?_⟩
  · rw [h'.agents, h.agents, List.filterMap_append, List.append_assoc]
  · obtain ⟨rows, hrows, hext⟩ := h.models
    obtain ⟨rows', hrows', hext'⟩ := h'.models
    refine ⟨rows ++ rows', by rw [List.map_append, List.filterMap_append, hrows, hrows'], ?_⟩
    have hids : (s'.models.map (·.id) ++ rows'.map (·.id)).Nodup := by
      rw [← List.map_append, forall₂_map_eq (hext'.imp fun r r' he => he.id_eq.symm)]
      exact hs.modelIds
    have hself : List.Forall₂ (ModelRow.Extended ws) rows' rows' := by
      refine extended_self fun r hr => appendedTo_eq_nil fun fields hmem => ?_
      have hold := hasModel_iff.mp (h.targets r.id fields hmem)
      exact List.disjoint_of_nodup_append hids hold (List.mem_map_of_mem hr)
    rw [← List.append_assoc]
    refine forall₂_trans (s := ModelRow.Extended ws') ?_ hext' fun a b c => ModelRow.Extended.trans
    exact List.rel_append hext hself
  · obtain ⟨rows, hrows, hs'⟩ := h.actions
    obtain ⟨rows', hrows', hs''⟩ := h'.actions
    exact ⟨rows ++ rows', by rw [List.map_append, List.filterMap_append, hrows, hrows'],
      by rw [hs'', hs', List.append_assoc]⟩
  · obtain ⟨rows, hrows, hs'⟩ := h.steps
    obtain ⟨rows', hrows', hs''⟩ := h'.steps
    exact ⟨rows ++ rows', by rw [List.map_append, List.filterMap_append, hrows, hrows'],
      by rw [hs'', hs', List.append_assoc]⟩
  · obtain ⟨rows, hrows, hs'⟩ := h.schedules
    obtain ⟨rows', hrows', hs''⟩ := h'.schedules
    exact ⟨rows ++ rows', by rw [List.map_append, List.filterMap_append, hrows, hrows'],
      by rw [hs'', hs', List.append_assoc]⟩
  · obtain ⟨rows, hrows, hs'⟩ := h.turns
    obtain ⟨rows', hrows', hs''⟩ := h'.turns
    exact ⟨rows ++ rows', by rw [List.map_append, List.filterMap_append, hrows, hrows'],
      by rw [hs'', hs', List.append_assoc]⟩
  · intro id fields hmem
    rcases List.mem_append.mp hmem with hmem | hmem
    · exact h'.hasModel (h.targets id fields hmem)
    · exact h'.targets id fields hmem

/-! ### One call -/

section Calls

variable {t : Stamp} {agentId modelId actionId scheduleId : String}

theorem createAgent {a : NewAgent} {record : AgentRecord}
    (h : s.createAgent t a = .ok (record, s')) : Grown [.agent a record] s s' := by
  obtain ⟨-, rfl, -⟩ := createAgent_eq_ok h
  exact { refl s with
    agents := rfl
    models := ⟨[], rfl, extended_append_nil fun _ _ => rfl⟩
    targets := by simp }

theorem createModel {m : Model} (h : s.createModel t agentId m = .ok s') :
    Grown [.model agentId ⟨t.id, m⟩] s s' := by
  obtain ⟨rfl, -⟩ := createModel_eq_ok h
  exact { refl s with
    models := ⟨[.ofModel t.id t.now.toOffsetText agentId m], rfl, extended_self fun _ _ => rfl⟩
    targets := by simp }

theorem createAction {a : Action} (h : s.createAction t agentId modelId a = .ok s') :
    Grown [.action agentId t.id modelId a] s s' := by
  obtain ⟨rfl, -⟩ := createAction_eq_ok h
  exact { refl s with
    models := ⟨[], rfl, extended_append_nil fun _ _ => rfl⟩
    actions := ⟨[.ofAction t.id t.now.toOffsetText agentId modelId a], rfl, rfl⟩
    targets := by simp }

theorem createStep {position : UInt32} {step : Step} {ready : Bool}
    (h : s.createStep t actionId position step ready = .ok s') :
    Grown [.step actionId ⟨t.id, position, ready, step⟩] s s' := by
  obtain ⟨rfl, -⟩ := createStep_eq_ok h
  exact { refl s with
    models := ⟨[], rfl, extended_append_nil fun _ _ => rfl⟩
    steps := ⟨[.ofStep t.id t.now.toOffsetText actionId position step ready], rfl, rfl⟩
    targets := by simp }

theorem createSchedule {c : Schedule} (h : s.createSchedule t agentId c = .ok s') :
    Grown [.schedule agentId t.id c] s s' := by
  obtain ⟨rfl, -⟩ := createSchedule_eq_ok h
  exact { refl s with
    models := ⟨[], rfl, extended_append_nil fun _ _ => rfl⟩
    schedules := ⟨[.ofSchedule t.id t.now.toOffsetText agentId c], rfl, rfl⟩
    targets := by simp }

theorem createTurn {turn : ScheduleStep}
    (h : s.createTurn t scheduleId modelId actionId turn = .ok s') :
    Grown [.turn scheduleId ⟨t.id, modelId, actionId, turn⟩] s s' := by
  obtain ⟨rfl, -⟩ := createTurn_eq_ok h
  exact { refl s with
    models := ⟨[], rfl, extended_append_nil fun _ _ => rfl⟩
    turns := ⟨[.ofTurn t.id t.now.toOffsetText scheduleId modelId actionId turn], rfl, rfl⟩
    targets := by simp }

/-- The row that the fields are appended to is the only one of the model. -/
theorem appendFields {fields : List Field} (hs : s.Lawful)
    (h : s.appendFields modelId fields = .ok s') : Grown [.fields modelId fields] s s' := by
  obtain ⟨row, old, hrow, hold, h⟩ := appendFields_eq_ok h
  have hmem : row ∈ s.models := List.mem_of_find?_eq_some hrow
  have hid : row.id = modelId := by simpa using List.find?_some hrow
  have hhas : s.hasModel modelId := hasModel_iff.mpr (hid ▸ List.mem_map_of_mem hmem)
  have hself : appendedTo modelId [.fields modelId fields] = [fields] := by
    simp [appendedTo, Write.appended?]
  have hother {r : ModelRow} (hr : r.id ≠ modelId) :
      appendedTo r.id [.fields modelId fields] = [] := by
    simp [appendedTo, Write.appended?, hr.symm]
  have hunique {r : ModelRow} (hr : r ∈ s.models) (hr' : r.id = modelId) : r = row :=
    List.inj_on_of_nodup_map hs.modelIds hr hmem (hr'.trans hid.symm)
  rcases h with ⟨hlen, rfl⟩ | rfl
  · have hsame : appendNew old fields = old := appendNew_eq_self hlen
    refine { refl s' with models := ⟨[], rfl, ?_⟩, targets := ?_ }
    · rw [List.append_nil, List.forall₂_same]
      intro r hr
      by_cases hr' : r.id = modelId
      · refine ⟨rfl, fun _ => rfl, fun old' hold' => ?_⟩
        obtain rfl := hunique hr hr'
        cases hold.symm.trans hold'
        rw [hr', hself, List.foldl_cons, List.foldl_nil, hsame]
        exact hold
      · exact .of_untouched (hother hr')
    · intro id fs hfs
      cases List.mem_singleton.mp hfs
      exact hhas
  · refine { refl s with models := ⟨[], rfl, ?_⟩, targets := ?_ }
    · rw [List.append_nil, List.forall₂_map_right_iff, List.forall₂_same]
      intro r hr
      by_cases hr' : r.id = modelId
      · refine ⟨ModelRow.setFields_eq .., fun hnil => ?_, fun old' hold' => ?_⟩
        · rw [hr', hself] at hnil
          cases hnil
        · obtain rfl := hunique hr hr'
          cases hold.symm.trans hold'
          rw [hr', hself, ModelRow.setFields, if_pos hr']
          exact Column.ofFields_holds _
      · rw [ModelRow.setFields, if_neg hr']
        exact .of_untouched (hother hr')
    · intro id fs hfs
      cases List.mem_singleton.mp hfs
      rw [hasModel_iff, Lawful.map_key fun r => r.setFields_id _ _, ← hasModel_iff]
      exact hhas

end Calls

/-- What a call does to the tables is what its reply confirms. -/
theorem answer (hs : s.Lawful) (t : Stamp) (c : StoreCall)
    (hc : ∀ agentId change record,
      .change agentId change record ∉ (c.confirmed (c.answer t s).1).toList) :
    Grown (c.confirmed (c.answer t s).1).toList s (c.answer t s).2 := by
  cases c with
  | createAgent a =>
    simp only [StoreCall.answer]
    cases h : s.createAgent t a with
    | error e => exact refl s
    | ok p => exact createAgent h
  | updateAgent agentId change =>
    simp only [StoreCall.answer] at hc ⊢
    cases h : s.updateAgent t.now agentId change with
    | error e => exact refl s
    | ok p =>
      rw [h] at hc
      exact absurd List.mem_cons_self (hc agentId change p.1)
  | createModel agentId m =>
    simp only [StoreCall.answer]
    cases h : s.createModel t agentId m with
    | error e => exact refl s
    | ok s' => exact createModel h
  | appendFields modelId fields =>
    simp only [StoreCall.answer]
    cases h : s.appendFields modelId fields with
    | error e => exact refl s
    | ok s' => exact appendFields hs h
  | createAction agentId modelId a =>
    simp only [StoreCall.answer]
    cases h : s.createAction t agentId modelId a with
    | error e => exact refl s
    | ok s' => exact createAction h
  | createStep actionId position step ready =>
    simp only [StoreCall.answer]
    cases h : s.createStep t actionId position step ready with
    | error e => exact refl s
    | ok s' => exact createStep h
  | createSchedule agentId c =>
    simp only [StoreCall.answer]
    cases h : s.createSchedule t agentId c with
    | error e => exact refl s
    | ok s' => exact createSchedule h
  | createTurn scheduleId modelId actionId turn =>
    simp only [StoreCall.answer]
    cases h : s.createTurn t scheduleId modelId actionId turn with
    | error e => exact refl s
    | ok s' => exact createTurn h
  | loadGraph agentId =>
    simp only [StoreCall.answer]
    exact refl s

end Grown

/-- The tables grow by what the replies of a trace confirm. -/
theorem Follows.grown {s s' : Store} {es : List Event} {clock : List Instant}
    (h : s.Follows es clock s') (hs : s.Lawful)
    (hc : ∀ agentId change record, .change agentId change record ∉ writes es) :
    Grown (writes es) s s' := by
  induction h with
  | nil s => exact .refl s
  | @answered s s' es clock t c hrest ih =>
    have hsplit : writes (.replied c (c.answer t s).1 :: es) =
        (c.confirmed (c.answer t s).1).toList ++ writes es := writes_replied_cons ..
    rw [hsplit] at hc ⊢
    have hone := Grown.answer hs t c fun a ch r hmem => hc a ch r (List.mem_append_left _ hmem)
    have hlawful := hs.answer t c
    exact hone.trans (ih hlawful fun a ch r hmem => hc a ch r (List.mem_append_right _ hmem))
      (hrest.lawful hlawful)
  | @refused s s' es clock c e hrest ih =>
    have hsplit : writes (.replied c (.error e) :: es) = writes es := by
      rw [writes_replied_cons, StoreCall.confirmed_error]
      rfl
    rw [hsplit] at hc ⊢
    exact ih hs hc
  | @silent s s' x es clock hx hrest ih =>
    have hsplit : writes (x :: es) = writes es := writes_silent_cons hx
    rw [hsplit] at hc ⊢
    exact ih hs hc

end Store
end AgentSpec

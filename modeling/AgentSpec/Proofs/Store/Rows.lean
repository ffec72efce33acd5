import AgentSpec.Proofs.Store.Reading
import AgentSpec.Proofs.Time.Written

/-!
Rows are read back as what was written into them, whatever their time.
-/
namespace AgentSpec

namespace Cell

theorem readNat32_ofNat32 (column wanted : String) (n : UInt32) :
    (ofNat32 n).readNat32 column wanted = .ok n := by
  have hn : (n.toNat : Int) < twoTo 32 := by
    have htwo : twoTo 32 = 2 ^ 32 := rfl
    rw [htwo]
    exact_mod_cast n.toNat_lt
  refine bind_eq_ok.mpr ⟨n.toNat, rfl, ?_⟩
  rw [if_pos ⟨Int.natCast_nonneg _, hn⟩, Int.toNat_natCast, UInt32.ofNat_toNat]
  rfl

/-- A cell that is read as a natural number holds this number. -/
theorem eq_ofNat32 {column wanted : String} {c : Cell} {n : UInt32}
    (h : c.readNat32 column wanted = .ok n) : c = ofNat32 n := by
  obtain ⟨k, hk, hread⟩ := bind_eq_ok.mp h
  cases c with
  | int m =>
    cases hk
    by_cases hrange : 0 ≤ k ∧ k < twoTo 32
    · rw [if_pos hrange] at hread
      cases hread
      have htwo : (twoTo 32 : Int) = 2 ^ 32 := rfl
      have hlt : k.toNat < UInt32.size := by
        show k.toNat < 2 ^ 32
        omega
      rw [ofNat32, UInt32.toNat_ofNat_of_lt' hlt, Int.toNat_of_nonneg hrange.1]
    · rw [if_neg hrange] at hread
      cases hread
  | _ => cases hk

theorem readBool_ofBool (column wanted : String) (b : Bool) :
    (ofBool b).readBool column wanted = .ok b := by
  cases b <;> rfl

theorem le_ofNat32 (n m : UInt32) : (ofNat32 n).le (ofNat32 m) = decide (n ≤ m) := by
  show decide ((n.toNat : Int) ≤ m.toNat) = _
  rw [decide_eq_decide, UInt32.le_iff_toNat_le]
  omega

end Cell

namespace Column

theorem read_ofNames (names : List String) : (ofNames names).read Reader.strings = .ok names :=
  read_document (.strings names) (Nat.le_trans (Json.depth_strings names) (by decide))

theorem read_ofForms (forms : List Form) :
    (ofForms forms).read (Reader.list Form.read) = .ok forms := by
  refine read_document (.list Form.reads_toJson forms) ?_
  exact Nat.le_trans (Json.depth_ofList fun f _ => Form.depth_toJson f) (by decide)

theorem read_ofConnections (cs : List Connection) :
    (ofConnections cs).read (Reader.list Connection.read) = .ok cs := by
  refine read_document (.list Connection.reads_toJson cs) ?_
  exact Nat.le_trans (Json.depth_ofList fun c _ => Connection.depth_toJson c) (by decide)

theorem read_config (config : StepConfig) :
    (document config.toJson).read StepConfig.read = .ok config :=
  read_document config.reads_toJson (Nat.le_trans config.depth_toJson (by decide))

/-- A query is read back, but for its numbers, if it is not nested too deeply. -/
theorem read_ofQuery {j : Json} (h : j.depth ≤ Document.depthLimit) :
    (ofQuery j).read Reader.json = .ok j.asWritten.canonical := by
  rw [ofQuery, if_pos h]
  exact read_document (.json _) (by rwa [Json.depth_asWritten])

theorem shallow_ofQuery {j : Json} : (ofQuery j).Shallow ↔ j.depth ≤ Document.depthLimit := by
  by_cases h : j.depth ≤ Document.depthLimit
  · rw [ofQuery, if_pos h, Shallow, Json.depth_asWritten]
  · rw [ofQuery, if_neg h, Shallow]

end Column

namespace ModelRow

variable {ws : List Write} {r r' : ModelRow} {m : StoredModel}

theorem read_undated (r : ModelRow) : r.undated.read = r.read := rfl

theorem read_ofModel (id createdAt agentId : String) (m : Model) :
    (ofModel id createdAt agentId m).read = .ok ⟨id, m⟩ := by
  have hdisplay : (m.displayFields.map Column.ofNames).mapM (Column.read Reader.strings) =
      Except.ok m.displayFields := by
    cases m.displayFields with
    | none => rfl
    | some names =>
      rw [Option.map_some, Option.mapM_some, Column.read_ofNames names]
      rfl
  have hforms := Column.read_ofForms m.forms
  have hfields := Column.ofFields_holds m.fields
  exact bind_eq_ok.mpr ⟨_, hdisplay, bind_eq_ok.mpr ⟨_, hforms, bind_eq_ok.mpr ⟨_, hfields, rfl⟩⟩⟩

/-- What is read of a row, part by part. -/
theorem read_eq_ok : r.read = .ok m ↔ r.id = m.id ∧ r.name = m.model.name ∧
    r.displayFields.mapM (Column.read Reader.strings) = .ok m.model.displayFields ∧
    r.forms.read (Reader.list Form.read) = .ok m.model.forms ∧ r.fields.Holds m.model.fields := by
  unfold read
  rw [bind_eq_ok]
  constructor
  · rintro ⟨displayFields, hdisplay, h⟩
    obtain ⟨forms, hforms, h⟩ := bind_eq_ok.mp h
    obtain ⟨fields, hfields, h⟩ := bind_eq_ok.mp h
    cases h
    exact ⟨rfl, rfl, hdisplay, hforms, hfields⟩
  · obtain ⟨id, name, fields, displayFields, forms⟩ := m
    rintro ⟨rfl, rfl, hdisplay, hforms, hfields⟩
    exact ⟨_, hdisplay, bind_eq_ok.mpr ⟨_, hforms, bind_eq_ok.mpr ⟨_, hfields, rfl⟩⟩⟩

end ModelRow

/-- The model with the fields that some writes append to it. -/
def StoredModel.extended (ws : List Write) (m : StoredModel) : StoredModel :=
  { m with model.fields := (appendedTo m.id ws).foldl Store.appendNew m.model.fields }

theorem ModelRow.Extended.read {ws : List Write} {r r' : ModelRow} {m : StoredModel}
    (h : Extended ws r r') (hm : r.read = .ok m) : r'.read = .ok (m.extended ws) := by
  obtain ⟨hid, hname, hdisplay, hforms, hfields⟩ := ModelRow.read_eq_ok.mp hm
  rw [h.eq]
  refine ModelRow.read_eq_ok.mpr ⟨hid, hname, hdisplay, hforms, ?_⟩
  have hnew := h.holds _ hfields
  rw [hid] at hnew
  exact hnew

theorem StepRow.read_eq_ok {r : StepRow} {t : StoredStep} (h : r.read = .ok t) :
    r.id = t.id ∧ r.position.readNat32 "position" "i64" = .ok t.position := by
  obtain ⟨config, -, h⟩ := bind_eq_ok.mp h
  obtain ⟨position, hposition, h⟩ := bind_eq_ok.mp h
  obtain ⟨ready, -, h⟩ := bind_eq_ok.mp h
  obtain ⟨inputFields, -, h⟩ := bind_eq_ok.mp h
  obtain ⟨outputFields, -, h⟩ := bind_eq_ok.mp h
  cases h
  exact ⟨rfl, hposition⟩

theorem StepRow.read_ofStep (id createdAt actionId : String) (position : UInt32) (step : Step)
    (ready : Bool) :
    (ofStep id createdAt actionId position step ready).read = .ok ⟨id, position, ready, step⟩ := by
  refine bind_eq_ok.mpr ⟨_, Column.read_config _, bind_eq_ok.mpr ⟨_, Cell.readNat32_ofNat32 .., ?_⟩⟩
  refine bind_eq_ok.mpr ⟨_, Cell.readBool_ofBool .., ?_⟩
  exact bind_eq_ok.mpr ⟨_, Column.read_ofNames _, bind_eq_ok.mpr ⟨_, Column.read_ofNames _, rfl⟩⟩

/-- The turn with the query that its column is read as. -/
def StoredTurn.reread (t : StoredTurn) : StoredTurn :=
  { t with step.query := t.step.query.asWritten.canonical }

namespace Store

variable {s : Store}

/-- A turn is read with the names of the rows that it points to. -/
theorem readTurn_ofTurn {id createdAt scheduleId modelId actionId : String} {turn : ScheduleStep}
    {m : ModelRow} {a : ActionRow} (hquery : turn.query.depth ≤ Document.depthLimit)
    (hm : m.name = turn.modelName) (ha : a.name = turn.actionName) :
    readTurn (.ofTurn id createdAt scheduleId modelId actionId turn) m a =
      .ok (StoredTurn.reread ⟨id, modelId, actionId, turn⟩) := by
  refine bind_eq_ok.mpr ⟨_, Column.read_ofQuery hquery, bind_eq_ok.mpr ⟨_, Cell.readNat32_ofNat32 .., ?_⟩⟩
  rw [hm, ha]
  rfl

theorem readSchedule_ofSchedule {id createdAt agentId : String} {c : Schedule}
    {turns : List StoredTurn} (h : s.readTurns id = .ok turns) :
    s.readSchedule (.ofSchedule id createdAt agentId c) = .ok (.ofSchedule id c turns) := by
  have hhours : (c.intervalHours.map Cell.ofNat32).mapM (fun cell =>
      cell.readNat32 "interval_hours" "core::option::Option<i64>") = .ok c.intervalHours := by
    cases c.intervalHours with
    | none => rfl
    | some n =>
      rw [Option.map_some, Option.mapM_some, Cell.readNat32_ofNat32]
      rfl
  exact bind_eq_ok.mpr ⟨_, h, bind_eq_ok.mpr ⟨_, hhours, rfl⟩⟩

end Store

namespace AgentRow

variable {r : AgentRow} {a : AgentRecord}

theorem readInstant_of_ordinary {column : String} {t : Instant} (h : t.Ordinary) :
    Store.readInstant column t.toOffsetText = .ok t := by
  rw [Store.readInstant, h.ofText_toOffsetText]
  rfl

theorem read_ofRecord (hc : a.createdAt.Ordinary) (hu : a.updatedAt.Ordinary) :
    (ofRecord a).read = .ok a := by
  refine bind_eq_ok.mpr ⟨_, Column.read_ofConnections _, ?_⟩
  exact bind_eq_ok.mpr ⟨_, readInstant_of_ordinary hc,
    bind_eq_ok.mpr ⟨_, readInstant_of_ordinary hu, rfl⟩⟩

theorem read_eq_ok : r.read = .ok a ↔ r.id = a.id ∧ r.name = a.name ∧
    r.description = a.description ∧ r.ownerId = a.ownerId ∧ r.rootModel = a.rootModel ∧
    r.connections.read (Reader.list Connection.read) = .ok a.connections ∧
    Store.readInstant "created_at" r.createdAt = .ok a.createdAt ∧
    Store.readInstant "updated_at" r.updatedAt = .ok a.updatedAt := by
  unfold read
  rw [bind_eq_ok]
  constructor
  · rintro ⟨connections, hconnections, h⟩
    obtain ⟨createdAt, hcreated, h⟩ := bind_eq_ok.mp h
    obtain ⟨updatedAt, hupdated, h⟩ := bind_eq_ok.mp h
    cases h
    exact ⟨rfl, rfl, rfl, rfl, rfl, hconnections, hcreated, hupdated⟩
  · obtain ⟨id, name, description, ownerId, rootModel, connections, createdAt, updatedAt⟩ := a
    rintro ⟨rfl, rfl, rfl, rfl, rfl, hconnections, hcreated, hupdated⟩
    exact ⟨_, hconnections, bind_eq_ok.mpr ⟨_, hcreated, bind_eq_ok.mpr ⟨_, hupdated, rfl⟩⟩⟩

end AgentRow
end AgentSpec

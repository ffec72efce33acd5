import AgentSpec.Proofs.Enrich.Fields
import AgentSpec.Proofs.Store.Reached

/-!
The fields of a stored model as a log.

An append goes over its fields one by one and compares each with what it has so far, so what counts
of several appends is only the list of all their fields, one after the other.  That is the one law
of the log; the others are about lists: what is there stays in front, no name comes twice, what was
appended is not appended again, and the set of names does not depend on the order.  A run of any
calls between the appends changes nothing of this, since no other call touches the row of a model
that is there.  Main statement: `Journal.fields_form_log`.
-/
namespace AgentSpec

/-! ## Lists of fields -/

namespace Store

variable {old fields : List Field}

/-- Each field is compared with those before it too, so a name that is given twice is taken once. -/
theorem appendNew_nodup (h : (old.map (·.name)).Nodup) :
    ((appendNew old fields).map (·.name)).Nodup := by
  induction fields generalizing old with
  | nil => exact h
  | cons f rest ih =>
    show ((appendNew (if old.any (·.name == f.name) then old else old ++ [f]) rest).map _).Nodup
    by_cases htaken : old.any (·.name == f.name)
    · rw [if_pos htaken]
      exact ih h
    · rw [if_neg htaken]
      refine ih ?_
      have hnew : f.name ∉ old.map (·.name) := by simpa using htaken
      rw [List.map_append, List.map_singleton, ← List.concat_eq_append]
      exact h.concat hnew

/-- Nothing is appended of what is there by name. -/
theorem appendNew_of_held (h : ∀ f ∈ fields, f.name ∈ old.map (·.name)) :
    appendNew old fields = old := by
  induction fields with
  | nil => rfl
  | cons f rest ih =>
    have htaken : old.any (·.name == f.name) = true := by
      simpa using h f List.mem_cons_self
    show appendNew (if old.any (·.name == f.name) then old else old ++ [f]) rest = old
    rw [if_pos htaken]
    exact ih fun g hg => h g (List.mem_cons_of_mem _ hg)

end Store

/-! ## One append -/

namespace Store

variable {s : Store} {id : String} {row : ModelRow} {old mid new fields : List Field}

theorem setFields_setFields (id : String) (mid new : List Field) (r : ModelRow) :
    (r.setFields id mid).setFields id new = r.setFields id new := by
  unfold ModelRow.setFields
  by_cases h : r.id = id
  · rw [if_pos h, if_pos h, if_pos h]
  · rw [if_neg h, if_neg h]

/-- The tables with the fields of a model written anew, if there are more of them. -/
def grow (s : Store) (id : String) (old new : List Field) : Store :=
  if new.length = old.length then s
  else { s with models := s.models.map (ModelRow.setFields id new) }

/-- Growing twice is growing once. -/
theorem grow_grow (h : old <+: mid) (h' : mid <+: new) :
    (s.grow id old mid).grow id mid new = s.grow id old new := by
  have hle := h.length_le
  have hle' := h'.length_le
  unfold grow
  by_cases hmid : mid.length = old.length
  · rw [if_pos hmid, hmid]
  · rw [if_neg hmid]
    have hmore : new.length ≠ old.length := by omega
    rw [if_neg hmore]
    by_cases hnew : new.length = mid.length
    · rw [if_pos hnew, h'.eq_of_length hnew.symm]
    · rw [if_neg hnew, List.map_map]
      exact congrArg (fun models => { s with models })
        (List.map_congr_left fun r _ => setFields_setFields id mid new r)

theorem model?_setFields (s : Store) (id other : String) (new : List Field) :
    ({ s with models := s.models.map (ModelRow.setFields other new) } : Store).model? id =
      (s.model? id).map (ModelRow.setFields other new) := by
  unfold model?
  rw [List.find?_map]
  exact congrArg _ (congrArg (s.models.find? ·)
    (funext fun r => by rw [Function.comp_apply, r.setFields_id]))

/-- The row of the model after growing. -/
theorem model?_grow (hrow : s.model? id = some row) (hold : row.fields.Holds old)
    (h : old <+: new) : ∃ row', (s.grow id old new).model? id = some row' ∧
      row' = { row with fields := row'.fields } ∧ row'.fields.Holds new := by
  have hid : row.id = id := by simpa using List.find?_some hrow
  unfold grow
  by_cases hlen : new.length = old.length
  · rw [if_pos hlen]
    exact ⟨row, hrow, rfl, h.eq_of_length hlen.symm ▸ hold⟩
  · rw [if_neg hlen, model?_setFields, hrow]
    refine ⟨row.setFields id new, rfl, row.setFields_eq id new, ?_⟩
    rw [ModelRow.setFields, if_pos hid]
    exact Column.ofFields_holds new

/-- What an append does where the fields of the model are known. -/
theorem answer_appendFields (t : Stamp) (fields : List Field) (hrow : s.model? id = some row)
    (hold : row.fields.Holds old) : (StoreCall.appendFields id fields).answer t s =
      (.ok (), s.grow id old (appendNew old fields)) := by
  have hok : s.appendFields id fields = .ok (s.grow id old (appendNew old fields)) := by
    unfold appendFields
    simp only [hrow, show row.fields.read (Reader.list Field.read) = .ok old from hold]
    show (if _ then Except.ok s else _) = _
    unfold grow
    split <;> rfl
  show StoreCall.answer.settle s ((s.appendFields id fields).map ((), ·)) = _
  rw [hok]
  rfl

theorem answer_appendFields_missing (t : Stamp) (fields : List Field) (h : ¬s.hasModel id) :
    (StoreCall.appendFields id fields).answer t s = (.error (.notFound "Model" id), s) := by
  have hnone : s.model? id = none := by
    rw [model?, List.find?_eq_none]
    exact fun r hr heq => h (List.any_eq_true.mpr ⟨r, hr, heq⟩)
  have herror : s.appendFields id fields = .error (.notFound "Model" id) := by
    unfold appendFields
    rw [hnone]
    rfl
  show StoreCall.answer.settle s ((s.appendFields id fields).map ((), ·)) = _
  rw [herror]
  rfl

end Store

/-! ## Any calls -/

/-- The fields that a call means to append to a model. -/
def StoreCall.appendedTo (id : String) : StoreCall → List Field
  | .appendFields modelId fields => if modelId = id then fields else []
  | _ => []

/-- The fields that all calls mean to append to a model, one after the other. -/
def Journal.appendedTo (id : String) (k : Journal) : List Field :=
  k.flatMap fun e => e.call.appendedTo id

namespace Store

variable {s s' : Store} {t : Stamp} {id : String} {row : ModelRow} {old : List Field}

/-- Only appends touch rows of models that are there. -/
theorem Written.models {c : StoreCall} {v : c.Value} (h : Written t s c v s') :
    (∃ rows, s'.models = s.models ++ rows) ∨
      ∃ modelId fields new, c = .appendFields modelId fields ∧
        s' = { s with models := s.models.map (ModelRow.setFields modelId new) } := by
  cases h with
  | createModel => exact Or.inl ⟨_, rfl⟩
  | appendFields => exact Or.inr ⟨_, _, _, rfl, rfl⟩
  | _ => exact Or.inl ⟨[], (List.append_nil _).symm⟩

/-- A call that appends nothing to a model leaves its row. -/
theorem model?_answer_other {c : StoreCall} (hrow : s.model? id = some row)
    (hc : ∀ fields, c ≠ .appendFields id fields) : (c.answer t s).2.model? id = some row := by
  rcases answer_cases t s c with ⟨v, -, hwritten⟩ | ⟨e, -, hsame⟩
  · rcases hwritten.models with ⟨rows, hrows⟩ | ⟨modelId, fields, new, rfl, heq⟩
    · rw [model?, hrows, List.find?_append, ← model?, hrow, Option.some_or]
    · have hid : row.id = id := by simpa using List.find?_some hrow
      have hne : row.id ≠ modelId := fun h => hc fields (by rw [← h, hid])
      rw [heq, model?_setFields, hrow, Option.map_some, ModelRow.setFields, if_neg hne]
  · rw [hsame]
    exact hrow

theorem model?_answer (t : Stamp) (c : StoreCall) (hrow : s.model? id = some row)
    (hold : row.fields.Holds old) : ∃ row', (c.answer t s).2.model? id = some row' ∧
      row' = { row with fields := row'.fields } ∧
      row'.fields.Holds (appendNew old (c.appendedTo id)) := by
  by_cases hc : ∃ fields, c = .appendFields id fields
  · obtain ⟨fields, rfl⟩ := hc
    rw [answer_appendFields t fields hrow hold, StoreCall.appendedTo, if_pos rfl]
    exact model?_grow hrow hold (prefix_appendNew old fields)
  · have hnone : c.appendedTo id = [] := by
      cases c with
      | appendFields modelId fields => exact if_neg fun h => hc ⟨fields, by rw [h]⟩
      | _ => rfl
    rw [hnone]
    exact ⟨row, model?_answer_other hrow fun fields h => hc ⟨fields, h⟩, rfl, hold⟩

/-- After a run of calls the model has the fields of all its appends. -/
theorem model?_run (k : Journal) (hrow : s.model? id = some row) (hold : row.fields.Holds old) :
    ∃ row', (k.foldl JournalEntry.apply s).model? id = some row' ∧
      row' = { row with fields := row'.fields } ∧
      row'.fields.Holds (appendNew old (k.appendedTo id)) := by
  induction k generalizing s row old with
  | nil => exact ⟨row, hrow, rfl, hold⟩
  | cons e rest ih =>
    obtain ⟨row₁, hrow₁, heq₁, hold₁⟩ := model?_answer e.stamp e.call hrow hold
    obtain ⟨row₂, hrow₂, heq₂, hold₂⟩ := ih hrow₁ hold₁
    refine ⟨row₂, hrow₂, by rw [heq₂, heq₁], ?_⟩
    rw [Journal.appendedTo, List.flatMap_cons, appendNew_append]
    exact hold₂

theorem Written.models_readable {c : StoreCall} {v : c.Value} (h : Written t s c v s')
    (hs : ∀ r ∈ s.models, ∃ m, r.read = .ok m) : ∀ r ∈ s'.models, ∃ m, r.read = .ok m := by
  cases h with
  | createModel => exact Readable.concat hs ⟨_, ModelRow.read_ofModel ..⟩
  | @appendFields modelId fields new =>
    exact List.forall_mem_map.mpr fun r hr => Readable.setFields (hs r hr) modelId new
  | _ => exact hs

end Store

/-! ## Journals -/

namespace Journal

/-- Rows of models can be read, whatever the times in the journal are. -/
theorem exists_fields {j : Journal} {id : String} (hid : j.store.hasModel id) :
    ∃ row old, j.store.model? id = some row ∧ row.fields.Holds old := by
  have hreadable : ∀ r ∈ j.store.models, ∃ m, r.read = .ok m := by
    refine store_keeps (P := fun s => ∀ r ∈ s.models, ∃ m, r.read = .ok m)
      (List.forall_mem_nil _) fun e _ s hs => ?_
    rcases Store.answer_cases e.stamp s e.call with ⟨v, -, hwritten⟩ | ⟨_, -, hsame⟩
    · exact hwritten.models_readable hs
    · rw [hsame]
      exact hs
  obtain ⟨row, hrow, hmem, -⟩ := Store.exists_model? hid
  obtain ⟨m, hm⟩ := hreadable row hmem
  obtain ⟨-, -, -, -, hfields⟩ := ModelRow.read_eq_ok.mp hm
  exact ⟨row, m.model.fields, hrow, hfields⟩

/-- The fields of a model in the store that a journal leaves. -/
def FieldsAre (j : Journal) (id : String) (fields : List Field) : Prop :=
  ∃ row, j.store.model? id = some row ∧ row.fields.Holds fields

/-- Fields are appended to a model. -/
def appending (t : Stamp) (id : String) (fields : List Field) : JournalEntry :=
  ⟨t, .appendFields id fields⟩

/-- The laws of the fields of a model that is there. -/
structure LogsFields (j : Journal) (id : String) : Prop where
  /-- No append fails. -/
  succeeds : ∀ t fields, ((StoreCall.appendFields id fields).answer t j.store).1 = .ok ()
  /-- After any calls the old fields are in front, no name comes twice if none did, the field of a
  name is the first one of it, and all else of the model is as before. -/
  grows : ∃ row old, j.store.model? id = some row ∧ row.fields.Holds old ∧
    ∀ k : Journal, ∃ row' new, (j ++ k).store.model? id = some row' ∧ row'.fields.Holds new ∧
      row' = { row with fields := row'.fields } ∧ old <+: new ∧
      ((old.map (·.name)).Nodup → (new.map (·.name)).Nodup) ∧
      ∀ name, new.find? (·.name == name) =
        (old.find? (·.name == name)).or ((k.appendedTo id).find? (·.name == name))
  /-- Two appends are one of both lists. -/
  joins : ∀ t t' t'' fields more,
    (j ++ [appending t id fields, appending t' id more]).store =
      (j ++ [appending t'' id (fields ++ more)]).store
  /-- What was appended is not appended again, whatever was called in between. -/
  repeats : ∀ t t' fields (k : Journal),
    (j ++ appending t id fields :: k ++ [appending t' id fields]).store =
      (j ++ appending t id fields :: k).store
  /-- The same calls in another order leave the same names. -/
  commutes : ∀ k k' : Journal, (k.map (·.call)).Perm (k'.map (·.call)) → ∃ new new',
    (j ++ k).FieldsAre id new ∧ (j ++ k').FieldsAre id new' ∧
    ∀ name, name ∈ new.map (·.name) ↔ name ∈ new'.map (·.name)

theorem appendedTo_append (id : String) (k k' : Journal) :
    Journal.appendedTo id (k ++ k') = k.appendedTo id ++ k'.appendedTo id :=
  List.flatMap_append

theorem appendedTo_appending (t : Stamp) (id : String) (fields : List Field) :
    Journal.appendedTo id [appending t id fields] = fields := by
  show (if id = id then fields else []) ++ [] = fields
  rw [if_pos rfl, List.append_nil]

/-- The order of calls is the order of their fields. -/
theorem appendedTo_perm {k k' : Journal} (h : (k.map (·.call)).Perm (k'.map (·.call)))
    (id : String) : (k.appendedTo id).Perm (k'.appendedTo id) := by
  have hcalls (k : Journal) : k.appendedTo id = (k.map (·.call)).flatMap (·.appendedTo id) :=
    (List.flatMap_map ..).symm
  rw [hcalls, hcalls]
  exact h.flatMap_right _

variable {j : Journal} {id : String} {row : ModelRow} {old : List Field}

theorem fieldsAre_append (hrow : j.store.model? id = some row) (hold : row.fields.Holds old)
    (k : Journal) : ∃ row', (j ++ k).store.model? id = some row' ∧
      row' = { row with fields := row'.fields } ∧
      row'.fields.Holds (Store.appendNew old (k.appendedTo id)) := by
  rw [store_append]
  exact Store.model?_run k hrow hold

/-- The store after one more append. -/
theorem store_appending (hrow : j.store.model? id = some row) (hold : row.fields.Holds old)
    (t : Stamp) (fields : List Field) : (j ++ [appending t id fields]).store =
      j.store.grow id old (Store.appendNew old fields) := by
  rw [store_append]
  show ((StoreCall.appendFields id fields).answer t j.store).2 = _
  rw [Store.answer_appendFields t fields hrow hold]

theorem logsFields (hrow : j.store.model? id = some row) (hold : row.fields.Holds old) :
    j.LogsFields id := by
  refine ⟨fun t fields => ?_, ⟨row, old, hrow, hold, fun k => ?_⟩, ?_, ?_, fun k k' hperm => ?_⟩
  · rw [Store.answer_appendFields t fields hrow hold]
  · obtain ⟨row', hrow', heq, hnew⟩ := fieldsAre_append hrow hold k
    exact ⟨row', _, hrow', hnew, heq, Store.prefix_appendNew _ _, Store.appendNew_nodup,
      Store.find?_appendNew _ _⟩
  · intro t t' t'' fields more
    obtain ⟨row', hrow', -, hmid⟩ := fieldsAre_append hrow hold [appending t id fields]
    rw [appendedTo_appending] at hmid
    have hsplit : j ++ [appending t id fields, appending t' id more] =
        (j ++ [appending t id fields]) ++ [appending t' id more] := by
      rw [List.append_assoc, List.singleton_append]
    rw [hsplit, store_appending hrow' hmid, store_appending hrow hold, store_appending hrow hold,
      Store.grow_grow (Store.prefix_appendNew _ _) (Store.prefix_appendNew _ _),
      Store.appendNew_append]
  · intro t t' fields k
    obtain ⟨row', hrow', -, hnew⟩ := fieldsAre_append hrow hold (appending t id fields :: k)
    have hheld : ∀ f ∈ fields, f.name ∈ (Store.appendNew old
        (Journal.appendedTo id (appending t id fields :: k))).map (·.name) := by
      intro f hf
      rw [← List.singleton_append, appendedTo_append, appendedTo_appending]
      refine Store.mem_names_appendNew.mpr (Or.inr (List.mem_map_of_mem ?_))
      exact List.mem_append_left _ hf
    rw [store_appending hrow' hnew, Store.appendNew_of_held hheld]
    exact if_pos rfl
  · obtain ⟨row₁, hrow₁, -, hnew₁⟩ := fieldsAre_append hrow hold k
    obtain ⟨row₂, hrow₂, -, hnew₂⟩ := fieldsAre_append hrow hold k'
    refine ⟨_, _, ⟨row₁, hrow₁, hnew₁⟩, ⟨row₂, hrow₂, hnew₂⟩, fun name => ?_⟩
    rw [Store.mem_names_appendNew, Store.mem_names_appendNew,
      ((appendedTo_perm hperm id).map _).mem_iff]

/-- Whatever was called before: an append fails exactly if its model is not there, and then it
changes nothing, while the fields of a model that is there obey the laws of a log. -/
theorem fields_form_log (j : Journal) (id : String) :
    (∀ t fields, (∃ e, ((StoreCall.appendFields id fields).answer t j.store).1 = .error e) ↔
      ¬j.store.hasModel id) ∧
    (¬j.store.hasModel id → ∀ t fields, (StoreCall.appendFields id fields).answer t j.store =
      (.error (.notFound "Model" id), j.store)) ∧
    (j.store.hasModel id → j.LogsFields id) := by
  have hlog : j.store.hasModel id → j.LogsFields id := by
    intro hid
    obtain ⟨row, old, hrow, hold⟩ := exists_fields hid
    exact logsFields hrow hold
  refine ⟨fun t fields => ⟨?_, fun hmissing => ?_⟩, ?_, hlog⟩
  · rintro ⟨e, herror⟩ hid
    rw [(hlog hid).succeeds] at herror
    cases herror
  · rw [Store.answer_appendFields_missing t fields hmissing]
    exact ⟨_, rfl⟩
  · exact fun hmissing t fields => Store.answer_appendFields_missing t fields hmissing

section Leads

def phone : Field := .textField "phone" "Phone"

/-- One model, whose second field was given twice. -/
def leads : Journal :=
  [⟨⟨"agent-01", day⟩, .createAgent ⟨"Sales", "", "ada", none, []⟩⟩,
    ⟨⟨"model-01", day⟩,
      .createModel "agent-01" { name := "Lead", fields := [.textField "name" "Name"] }⟩,
    appending ⟨"", day⟩ "model-01" [phone, { phone with title := "Mobile" }]]

theorem fields_form_log_leads :
    leads.store.hasModel "model-01" ∧ leads.LogsFields "model-01" ∧
    leads.FieldsAre "model-01" [.textField "name" "Name", phone] ∧
    ¬leads.store.hasModel "model-02" ∧
    (StoreCall.appendFields "model-02" [phone]).answer ⟨"", day⟩ leads.store =
      (.error (.notFound "Model" "model-02"), leads.store) := by
  have hhas : leads.store.hasModel "model-01" := by decide +kernel
  have hmissing : ¬leads.store.hasModel "model-02" := by decide +kernel
  have hfields : leads.FieldsAre "model-01" [.textField "name" "Name", phone] :=
    ⟨_, rfl, Column.ofFields_holds _⟩
  exact ⟨hhas, (fields_form_log leads "model-01").2.2 hhas, hfields, hmissing,
    (fields_form_log leads "model-02").2.1 hmissing ⟨"", day⟩ [phone]⟩

end Leads

end Journal
end AgentSpec

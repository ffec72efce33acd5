import AgentSpec.Proofs.Store.Readable
import AgentSpec.Store.Journal

/-!
The states that calls can reach, and what a loaded graph shows of them.

A journal holds any calls with any stamps, those that were refused as well.  One call keeps the
tables lawful, so every journal leaves lawful tables, by induction on the journal.  Of lawful tables
a graph is loaded in which names are distinct and steps and turns stand in order, whatever the order
in which they were written; so a name stands for the same entity in the dictionaries of the graph,
where the last entry counts, and in a search for the first.  Main statement:
`Journal.store_lawful_and_shown`.
-/
namespace AgentSpec

/-! ## Keys within a parent -/

/-- Keys that are distinct within each owner. -/
theorem nodup_of_owner {owner : ρ → String} {key : ρ → β} {rows : List ρ}
    (h : (rows.map fun r => (owner r, key r)).Nodup) (id : String) :
    ((rows.filter (owner · == id)).map key).Nodup := by
  have hsub : (rows.filter (owner · == id)).Sublist rows := List.filter_sublist
  have hkeys : (rows.filter (owner · == id)).map (fun r => (owner r, key r)) =
      ((rows.filter (owner · == id)).map key).map (id, ·) := by
    rw [List.map_map]
    refine List.map_congr_left fun r hr => ?_
    exact congrArg (·, key r) (beq_iff_eq.mp (List.mem_filter.mp hr).2)
  have hnodup := h.sublist (hsub.map _)
  rw [hkeys] at hnodup
  exact hnodup.of_map _

/-- Rows that are sorted by a column of distinct numbers are read in ascending order. -/
theorem ascending_of_read {cell : ρ → Cell} {place : τ → UInt32} {read : ρ → Except StoreError τ}
    {rows : List ρ} {ts : List τ} (hread : ∀ r t, read r = .ok t → cell r = .ofNat32 (place t))
    (hnodup : (rows.map cell).Nodup)
    (h : (rows.mergeSort fun a b => (cell a).le (cell b)).mapM read = .ok ts) :
    ts.Pairwise fun t u => place t < place u := by
  have hrows := mapM_eq_ok.mp h
  have hle : ts.Pairwise fun t u => place t ≤ place u := by
    obtain ⟨us, hus, -⟩ := forall₂_perm hrows (List.mergeSort_perm rows _).symm
    have hsorted : List.Forall₂ (fun r t => read r = .ok t)
        (rows.mergeSort fun a b => (cell a).le (cell b))
        (us.mergeSort fun t u => place t ≤ place u) :=
      forall₂_mergeSort hus fun r t r' t' hr hr' => by
        rw [hread r t hr, hread r' t' hr', Cell.le_ofNat32]
    rw [mapM_eq_ok.mpr hsorted] at h
    rw [← Except.ok.inj h]
    exact pairwise_mergeSort_le place us
  have hne : ts.Pairwise fun t u => place t ≠ place u := by
    have hcells : (rows.mergeSort fun a b => (cell a).le (cell b)).map cell =
        (ts.map place).map Cell.ofNat32 := by
      rw [List.map_map]
      exact forall₂_map_eq (hrows.imp hread)
    have hdistinct : ((rows.mergeSort fun a b => (cell a).le (cell b)).map cell).Nodup :=
      ((List.mergeSort_perm rows _).map cell).nodup_iff.mpr hnodup
    rw [hcells] at hdistinct
    exact List.pairwise_map.mp hdistinct.of_map
  exact (hle.and hne).imp fun ⟨hle, hne⟩ => UInt32.lt_of_le_of_ne hle hne

/-! ## Loaded graphs -/

/-- A graph as the tables show it: names are distinct, steps and turns stand in order and none is
missing, and a name stands for one entity whichever way it is looked up. -/
structure StoredGraph.ShownBy (s : Store) (g : StoredGraph) : Prop where
  modelNames : (g.models.map (·.model.name)).Nodup
  actionNames : (g.actions.map (·.name)).Nodup
  scheduleNames : (g.schedules.map (·.name)).Nodup
  steps : ∀ a ∈ g.actions, a.steps.Pairwise (fun t u => t.position < u.position) ∧
    (a.steps.map (·.id)).Perm ((s.steps.filter (·.actionId == a.id)).map (·.id))
  turns : ∀ c ∈ g.schedules, c.steps.Pairwise (fun t u => t.step.order < u.step.order) ∧
    (c.steps.map (·.id)).Perm ((s.turns.filter (·.scheduleId == c.id)).map (·.id))
  modelIds : ∀ name, g.modelIds.lookup name = (g.model? name).map (·.id)
  actionIds : ∀ name, g.actionIds.lookup name = (g.action? name).map (·.id)

/-- Among distinct names the last entry of a name is the first one. -/
theorem lookup_ofList_eq_find? {name id : α → String} {as : List α} (h : (as.map name).Nodup)
    (n : String) : (Dictionary.ofList (as.map fun a => (name a, id a))).lookup n =
      (as.find? (name · == n)).map id := by
  have hnames : ((as.map fun a => (name a, id a)).map (·.1)).Nodup := by
    rw [List.map_map]
    exact h
  rw [Dictionary.lookup_ofList, Dictionary.lookup_reverse hnames]
  cases hfound : as.find? (name · == n) with
  | some a =>
    have hname : name a = n := by simpa using List.find?_some hfound
    refine Dictionary.lookup_of_mem hnames ?_
    rw [← hname]
    exact List.mem_map_of_mem (List.mem_of_find?_eq_some hfound)
  | none =>
    refine Dictionary.lookup_eq_none fun hmem => ?_
    obtain ⟨e, he, hn⟩ := List.mem_map.mp hmem
    obtain ⟨a, ha, rfl⟩ := List.mem_map.mp he
    exact List.find?_eq_none.mp hfound a ha (beq_iff_eq.mpr hn)

namespace Store

variable {s : Store}

theorem steps_of_read (hs : s.Lawful) {id : String} {ts : List StoredStep}
    (h : (s.stepsOf id).mapM StepRow.read = .ok ts) :
    ts.Pairwise (fun t u => t.position < u.position) ∧
      (ts.map (·.id)).Perm ((s.steps.filter (·.actionId == id)).map (·.id)) := by
  have hids : (s.stepsOf id).map (·.id) = ts.map (·.id) :=
    forall₂_map_eq ((mapM_eq_ok.mp h).imp fun r t hr => (StepRow.read_eq_ok hr).1)
  refine ⟨?_, ?_⟩
  · exact ascending_of_read (fun r t hr => Cell.eq_ofNat32 (StepRow.read_eq_ok hr).2)
      (nodup_of_owner hs.positions id) h
  · rw [← hids]
    exact (List.mergeSort_perm _ _).map _

theorem turns_of_read (hs : s.Lawful) {id : String} {ts : List StoredTurn}
    (h : s.readTurns id = .ok ts) :
    ts.Pairwise (fun t u => t.step.order < u.step.order) ∧
      (ts.map (·.id)).Perm ((s.turns.filter (·.scheduleId == id)).map (·.id)) := by
  rw [readTurns_eq hs] at h
  have hids : (s.turnsOf id).map (·.id) = ts.map (·.id) :=
    forall₂_map_eq ((mapM_eq_ok.mp h).imp fun r t hr => (readTurnOf_eq_ok hr).1)
  refine ⟨?_, ?_⟩
  · exact ascending_of_read (fun r t hr => Cell.eq_ofNat32 (readTurnOf_eq_ok hr).2.1)
      (nodup_of_owner hs.orders id) h
  · rw [← hids]
    exact (List.mergeSort_perm _ _).map _

/-- What is loaded from lawful tables is what they show. -/
theorem Lawful.shows (hs : s.Lawful) {id : String} {g : StoredGraph}
    (h : s.load id = .ok (some g)) : g.ShownBy s := by
  obtain ⟨k, hk, hg⟩ := lists_of_load hs h
  have hmodels : (g.models.map (·.model.name)).Nodup := by
    rw [← (hg.models.map (·.model.name)).nodup_iff]
    rw [← forall₂_map_eq (hk.models.imp fun r m hr => (ModelRow.read_eq_ok.mp hr).2.1)]
    exact nodup_of_owner hs.modelNames id
  have hactions : (g.actions.map (·.name)).Nodup := by
    rw [← (hg.actions.map (·.name)).nodup_iff]
    rw [← forall₂_map_eq (hk.actions.imp fun r a hr => (readActionOf_eq_ok hr).2.1)]
    exact nodup_of_owner hs.actionNames id
  have hschedules : (g.schedules.map (·.name)).Nodup := by
    rw [← (hg.schedules.map (·.name)).nodup_iff]
    rw [← forall₂_map_eq (hk.schedules.imp fun r c hr => (readSchedule_eq_ok hr).2.1)]
    exact nodup_of_owner hs.scheduleNames id
  refine ⟨hmodels, hactions, hschedules, fun a ha => ?_, fun c hc => ?_,
    lookup_ofList_eq_find? hmodels, lookup_ofList_eq_find? hactions⟩
  · obtain ⟨r, -, hr⟩ := forall₂_mem_right hk.actions (hg.actions.mem_iff.mpr ha)
    obtain ⟨hid, -, hsteps⟩ := readActionOf_eq_ok hr
    rw [← hid]
    exact steps_of_read hs hsteps
  · obtain ⟨r, -, hr⟩ := forall₂_mem_right hk.schedules (hg.schedules.mem_iff.mpr hc)
    obtain ⟨hid, -, hturns⟩ := readSchedule_eq_ok hr
    rw [← hid]
    exact turns_of_read hs hturns

end Store

/-! ## Journals -/

namespace Journal

/-- What the empty tables have and every call keeps, every journal leaves. -/
theorem store_keeps {P : Store → Prop} {j : Journal} (hempty : P {})
    (hcall : ∀ e ∈ j, ∀ s, P s → P (e.call.answer e.stamp s).2) : P j.store := by
  suffices h : ∀ s, P s → P (j.foldl JournalEntry.apply s) from h {} hempty
  induction j with
  | nil => exact fun s hs => hs
  | cons e rest ih =>
    intro s hs
    exact ih (fun e' he' => hcall e' (List.mem_cons_of_mem _ he')) _
      (hcall e List.mem_cons_self s hs)

theorem store_lawful (j : Journal) : j.store.Lawful :=
  store_keeps .empty fun e _ _ hs => hs.answer e.stamp e.call

theorem store_readable {j : Journal} (h : ∀ e ∈ j, e.stamp.now.Ordinary) : j.store.Readable :=
  store_keeps .empty fun e he _ hs => hs.answer (h e he) e.call

/-- Whatever was called: the tables are lawful, a call that is refused changes no agent, agents
that are there can be loaded if no query of theirs is nested too deeply, and what is loaded is what
the tables show. -/
theorem store_lawful_and_shown (j : Journal) :
    j.store.Lawful ∧
    (∀ (t : Stamp) (c : StoreCall) (e : StoreError), (c.answer t j.store).1 = .error e →
      ∀ id, (c.answer t j.store).2.load id = j.store.load id) ∧
    ((∀ e ∈ j, e.stamp.now.Ordinary) → ∀ id, j.store.hasAgent id → j.store.ShallowFor id →
      ∃ g, j.store.load id = .ok (some g)) ∧
    ∀ id g, j.store.load id = .ok (some g) → g.ShownBy j.store := by
  have hlawful := j.store_lawful
  refine ⟨hlawful, ?_, ?_, ?_⟩
  · intro t c e herror id
    rcases Store.answer_cases t j.store c with ⟨v, hok, -⟩ | ⟨-, -, hsame⟩
    · rw [herror] at hok
      cases hok
    · rw [hsame]
  · intro htime id hid hq
    exact (store_readable htime).exists_load_some hq hid
  · intro id g hload
    exact hlawful.shows hload

section Jumbled

def ringStep : Step := { name := "ring", config := .reasoning "Ring them up." none }

def ringAction : Action := { name := "ring", title := "Ring", targetModel := "Lead" }

def ringTurn (order : UInt32) : ScheduleStep := { modelName := "Lead", actionName := "ring", order }

def day : Instant := ⟨20000, 43200, 0⟩

/-- Rows in any order.  Three calls are refused: a name that is taken, a position that is taken and
a step of an action that is not there. -/
def jumbled : Journal :=
  [⟨⟨"agent-01", day⟩, .createAgent ⟨"Sales", "", "ada", none, []⟩⟩,
    ⟨⟨"model-01", day⟩, .createModel "agent-01" { name := "Lead" }⟩,
    ⟨⟨"model-02", day⟩, .createModel "agent-01" { name := "Lead" }⟩,
    ⟨⟨"action-01", day⟩, .createAction "agent-01" "model-01" ringAction⟩,
    ⟨⟨"step-001", day⟩, .createStep "action-01" 2 ringStep true⟩,
    ⟨⟨"step-002", day⟩, .createStep "action-01" 0 ringStep true⟩,
    ⟨⟨"step-003", day⟩, .createStep "action-01" 2 ringStep true⟩,
    ⟨⟨"step-004", day⟩, .createStep "action-02" 0 ringStep true⟩,
    ⟨⟨"schedule-01", day⟩, .createSchedule "agent-01" { name := "daily", mode := .recurring }⟩,
    ⟨⟨"turn-001", day⟩, .createTurn "schedule-01" "model-01" "action-01" (ringTurn 7)⟩,
    ⟨⟨"turn-002", day⟩, .createTurn "schedule-01" "model-01" "action-01" (ringTurn 1)⟩]

/-- A third step in the place of the second. -/
abbrev again : StoreCall := .createStep "action-01" 0 ringStep true

theorem store_lawful_and_shown_jumbled :
    jumbled.store.Lawful ∧
    (again.answer ⟨"step-005", day⟩ jumbled.store).1 =
      .error (.constraint (.unique "action_steps" ["action_id", "position"])) ∧
    (∀ id, (again.answer ⟨"step-005", day⟩ jumbled.store).2.load id = jumbled.store.load id) ∧
    jumbled.store.steps.map (·.id) = ["step-001", "step-002"] ∧
    ∃ g, jumbled.store.load "agent-01" = .ok (some g) ∧ g.ShownBy jumbled.store := by
  obtain ⟨hlawful, hrefused, hloads, hshown⟩ := store_lawful_and_shown jumbled
  have hagain : (again.answer ⟨"step-005", day⟩ jumbled.store).1 =
      .error (.constraint (.unique "action_steps" ["action_id", "position"])) := by
    decide +kernel
  have htime : ∀ e ∈ jumbled, e.stamp.now.Ordinary := by
    intro e he
    have hday : e.stamp.now = day := by
      revert e
      decide +kernel
    rw [hday]
    exact ⟨by decide, by decide, by decide⟩
  obtain ⟨g, hg⟩ := hloads htime "agent-01" (by decide +kernel) (by decide +kernel)
  exact ⟨hlawful, hagain, hrefused _ _ _ hagain, by decide +kernel, g, hg, hshown _ _ hg⟩

end Jumbled

end Journal
end AgentSpec

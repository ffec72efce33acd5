import AgentSpec.Compile.Persist
import AgentSpec.Proofs.Lists

/-!
Results that may be errors: one after the other, and lists of them.
-/
namespace AgentSpec

theorem bind_eq_ok {x : Except ε α} {f : α → Except ε β} {b : β} :
    x >>= f = .ok b ↔ ∃ a, x = .ok a ∧ f a = .ok b := by
  cases x with
  | error e =>
    constructor
    · intro h
      cases h
    · rintro ⟨a, ha, -⟩
      cases ha
  | ok a =>
    constructor
    · exact fun h => ⟨a, rfl, h⟩
    · rintro ⟨a', ha, h⟩
      cases ha
      exact h

theorem map_eq_ok {x : Except ε α} {f : α → β} {b : β} :
    x.map f = .ok b ↔ ∃ a, x = .ok a ∧ f a = b := by
  cases x with
  | error e =>
    constructor
    · intro h
      cases h
    · rintro ⟨a, h, -⟩
      cases h
  | ok a =>
    constructor
    · intro h
      cases h
      exact ⟨a, rfl, rfl⟩
    · rintro ⟨a', h, rfl⟩
      cases h
      rfl

theorem eq_ok_of_toOption {x : Except ε α} {a : α} (h : x.toOption = some a) : x = .ok a := by
  cases x with
  | ok b =>
    cases h
    rfl
  | error e => cases h

section MapM

variable {f : α → Except ε β}

theorem mapM_eq_ok {as : List α} {bs : List β} :
    as.mapM f = .ok bs ↔ List.Forall₂ (fun a b => f a = .ok b) as bs := by
  induction as generalizing bs with
  | nil =>
    rw [List.mapM_nil, List.forall₂_nil_left_iff]
    exact ⟨fun h => (Except.ok.inj h).symm, fun h => h ▸ rfl⟩
  | cons a as ih =>
    rw [List.mapM_cons]
    constructor
    · intro h
      cases hfa : f a with
      | error e =>
        rw [hfa] at h
        cases h
      | ok b =>
        cases hrest : as.mapM f with
        | error e =>
          rw [hfa, hrest] at h
          cases h
        | ok cs =>
          rw [hfa, hrest] at h
          cases h
          exact .cons hfa (ih.mp hrest)
    · intro h
      cases h with
      | cons hfa hrest => rw [hfa, ih.mpr hrest]; rfl

theorem exists_mapM {as : List α} (h : ∀ a ∈ as, ∃ b, f a = .ok b) : ∃ bs, as.mapM f = .ok bs := by
  obtain ⟨bs, hbs⟩ := exists_forall₂ h
  exact ⟨bs, mapM_eq_ok.mpr hbs⟩

theorem mapM_congr {g : α → Except ε β} {as : List α} (h : ∀ a ∈ as, f a = g a) :
    as.mapM f = as.mapM g := by
  induction as with
  | nil => rfl
  | cons a as ih =>
    rw [List.mapM_cons, List.mapM_cons, h a List.mem_cons_self,
      ih fun b hb => h b (List.mem_cons_of_mem _ hb)]

/-- Rows that come with something of their own are read like rows that it is looked up for. -/
theorem filterMap_mapM {p : α → Option γ} {g : γ → Except ε β} {as : List α}
    (h : ∀ a ∈ as, ∃ c, p a = some c ∧ g c = f a) : (as.filterMap p).mapM g = as.mapM f := by
  induction as with
  | nil => rfl
  | cons a as ih =>
    obtain ⟨c, hc, hg⟩ := h a List.mem_cons_self
    rw [List.filterMap_cons_some hc, List.mapM_cons, List.mapM_cons, hg,
      ih fun b hb => h b (List.mem_cons_of_mem _ hb)]

end MapM

/-! ## All values or all issues -/

section Gather

variable {f : α → Except (List Issue) β} {as : List α} {bs : List β}

theorem gather_map_eq_ok :
    gather (as.map f) = .ok bs ↔ List.Forall₂ (fun a b => f a = .ok b) as bs := by
  induction as generalizing bs with
  | nil =>
    rw [List.forall₂_nil_left_iff]
    exact ⟨fun h => (Except.ok.inj h).symm, fun h => h ▸ rfl⟩
  | cons a as ih =>
    rw [List.map_cons]
    constructor
    · intro h
      cases hfa : f a with
      | error issues =>
        rw [hfa, gather] at h
        cases hrest : gather (as.map f) with
        | ok cs => rw [hrest] at h; cases h
        | error more => rw [hrest] at h; cases h
      | ok b =>
        rw [hfa, gather] at h
        cases hrest : gather (as.map f) with
        | error more => rw [hrest] at h; cases h
        | ok cs =>
          rw [hrest] at h
          cases h
          exact .cons hfa (ih.mp hrest)
    · intro h
      cases h with
      | cons hfa hrest => rw [hfa, gather, ih.mpr hrest]; rfl

theorem exists_gather_map (h : ∀ a ∈ as, ∃ b, f a = .ok b) :
    ∃ bs, gather (as.map f) = .ok bs := by
  obtain ⟨bs, hbs⟩ := exists_forall₂ h
  exact ⟨bs, gather_map_eq_ok.mpr hbs⟩

end Gather

end AgentSpec

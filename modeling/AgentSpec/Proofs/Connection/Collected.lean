import AgentSpec.Enrich.Credential
import Mathlib.Data.List.Nodup
import Mathlib.Data.List.Perm.Basic

/-!
The services that custom code mentions, whatever the order of its steps.

They are collected step by step, each provider once, and then put in the order of the catalog.  As
providers and places differ in the catalog, that is the catalog without the services that no step
mentions (`Graph.mentionedServices_eq_filter`).
-/
namespace AgentSpec

namespace Service

variable {s t : Service} {services : List Service}

theorem eq_of_provider (hs : s ∈ catalog) (ht : t ∈ catalog) (h : s.provider = t.provider) :
    s = t := by
  have hcatalog : (catalog.map (·.provider)).Nodup := by decide
  exact List.inj_on_of_nodup_map hcatalog hs ht h

theorem catalog_pairwise_place : catalog.Pairwise (·.place < ·.place) := by decide

theorem eq_of_place (hs : s ∈ catalog) (ht : t ∈ catalog) (h : s.place = t.place) : s = t := by
  have hcatalog : (catalog.map place).Nodup := by decide
  exact List.inj_on_of_nodup_map hcatalog hs ht h

/-! ## Collecting -/

/-- Services of the catalog, none twice. -/
structure Collected (services : List Service) : Prop where
  known : ∀ s ∈ services, s ∈ catalog
  nodup : services.Nodup

theorem addOnce_eq (h : Collected services) (hs : s ∈ catalog) :
    addOnce services s = if s ∈ services then services else services ++ [s] := by
  have hany : services.any (·.provider == s.provider) ↔ s ∈ services := by
    rw [List.any_eq_true]
    constructor
    · rintro ⟨t, ht, hprovider⟩
      exact eq_of_provider (h.known t ht) hs (beq_iff_eq.mp hprovider) ▸ ht
    · exact fun hmem => ⟨s, hmem, beq_self_eq_true _⟩
  exact if_congr hany rfl rfl

theorem Collected.addOnce (h : Collected services) (hs : s ∈ catalog) :
    Collected (addOnce services s) := by
  rw [addOnce_eq h hs]
  by_cases hmem : s ∈ services
  · rw [if_pos hmem]
    exact h
  · rw [if_neg hmem]
    refine ⟨fun t ht => ?_, ?_⟩
    · rcases List.mem_append.mp ht with ht | ht
      · exact h.known t ht
      · exact List.mem_singleton.mp ht ▸ hs
    · rw [← List.concat_eq_append]
      exact h.nodup.concat hmem

theorem mem_addOnce (h : Collected services) (hs : s ∈ catalog) :
    t ∈ addOnce services s ↔ t ∈ services ∨ t = s := by
  rw [addOnce_eq h hs]
  by_cases hmem : s ∈ services
  · rw [if_pos hmem]
    exact ⟨Or.inl, fun ht => ht.elim id fun heq => heq ▸ hmem⟩
  · rw [if_neg hmem, List.mem_append, List.mem_singleton]

/-- What is collected from services of the catalog is all of them. -/
theorem foldl_addOnce {more : List Service} (h : Collected services)
    (hmore : ∀ s ∈ more, s ∈ catalog) : Collected (more.foldl addOnce services) ∧
      ∀ t, t ∈ more.foldl addOnce services ↔ t ∈ services ∨ t ∈ more := by
  induction more generalizing services with
  | nil => exact ⟨h, fun t => by simp⟩
  | cons s rest ih =>
    obtain ⟨hs, hrest⟩ := List.forall_mem_cons.mp hmore
    obtain ⟨hcollected, hmem⟩ := ih (h.addOnce hs) hrest
    refine ⟨hcollected, fun t => ?_⟩
    rw [List.foldl_cons, hmem, mem_addOnce h hs, List.mem_cons, or_assoc]

/-! ## Sorting -/

theorem perm_insertByPlace (s : Service) (services : List Service) :
    (insertByPlace s services).Perm (s :: services) := by
  induction services with
  | nil => exact .refl _
  | cons t rest ih =>
    unfold insertByPlace
    by_cases hlt : t.place < s.place
    · rw [if_pos hlt]
      exact (ih.cons t).trans (.swap s t rest)
    · rw [if_neg hlt]

theorem perm_sortedByPlace (services : List Service) : (sortedByPlace services).Perm services := by
  induction services with
  | nil => exact .refl _
  | cons s rest ih => exact (perm_insertByPlace s _).trans (ih.cons s)

theorem pairwise_insertByPlace (h : services.Pairwise (·.place < ·.place))
    (hs : ∀ t ∈ services, t.place ≠ s.place) :
    (insertByPlace s services).Pairwise (·.place < ·.place) := by
  induction services with
  | nil => exact List.pairwise_singleton _ _
  | cons t rest ih =>
    obtain ⟨ht, hrest⟩ := List.pairwise_cons.mp h
    obtain ⟨hne, hs⟩ := List.forall_mem_cons.mp hs
    unfold insertByPlace
    by_cases hlt : t.place < s.place
    · rw [if_pos hlt]
      refine List.pairwise_cons.mpr ⟨fun u hu => ?_, ih hrest hs⟩
      rcases List.mem_cons.mp ((perm_insertByPlace s rest).mem_iff.mp hu) with rfl | hu
      · exact hlt
      · exact ht u hu
    · rw [if_neg hlt]
      have hgt : s.place < t.place := by omega
      refine List.pairwise_cons.mpr ⟨fun u hu => ?_, h⟩
      rcases List.mem_cons.mp hu with rfl | hu
      · exact hgt
      · exact Nat.lt_trans hgt (ht u hu)

theorem pairwise_sortedByPlace (h : Collected services) :
    (sortedByPlace services).Pairwise (·.place < ·.place) := by
  induction services with
  | nil => exact .nil
  | cons s rest ih =>
    obtain ⟨hs, hknown⟩ := List.forall_mem_cons.mp h.known
    obtain ⟨hnot, hrest⟩ := List.nodup_cons.mp h.nodup
    refine pairwise_insertByPlace (ih ⟨hknown, hrest⟩) fun t ht hplace => hnot ?_
    have hmem : t ∈ rest := (perm_sortedByPlace rest).mem_iff.mp ht
    exact eq_of_place (hknown t hmem) hs hplace ▸ hmem

/-- Sorting leaves the catalog without the services that were not collected. -/
theorem sortedByPlace_eq_filter (h : Collected services) :
    sortedByPlace services = catalog.filter services.contains := by
  have hperm : (sortedByPlace services).Perm (catalog.filter services.contains) := by
    have hcatalog : catalog.Nodup := by decide
    refine (perm_sortedByPlace services).trans ?_
    refine (List.perm_ext_iff_of_nodup h.nodup (hcatalog.filter _)).mpr fun t => ?_
    rw [List.mem_filter, List.contains_iff_mem]
    exact ⟨fun ht => ⟨h.known t ht, ht⟩, And.right⟩
  refine hperm.eq_of_pairwise ?_ (pairwise_sortedByPlace h) (catalog_pairwise_place.filter _)
  intro a b _ _ hab hba
  omega

end Service

namespace Graph

/-- The services of the catalog that the description of some step with custom code mentions. -/
theorem mentionedServices_eq_filter (g : Graph) : g.mentionedServices =
    Service.catalog.filter fun s => g.codeDescriptions.any s.isMentioned := by
  have hfound : ∀ s ∈ g.codeDescriptions.flatMap Service.mentioned, s ∈ Service.catalog := by
    intro s hs
    obtain ⟨text, -, hs⟩ := List.mem_flatMap.mp hs
    exact (List.mem_filter.mp hs).1
  obtain ⟨hcollected, hmem⟩ := Service.foldl_addOnce ⟨List.forall_mem_nil _, .nil⟩ hfound
  unfold mentionedServices
  rw [Service.sortedByPlace_eq_filter hcollected]
  refine List.filter_congr fun s hs => ?_
  rw [Bool.eq_iff_iff, List.contains_iff_mem, hmem, List.mem_flatMap, List.any_eq_true]
  constructor
  · rintro (hnil | ⟨text, htext, hmentioned⟩)
    · cases hnil
    · exact ⟨text, htext, (List.mem_filter.mp hmentioned).2⟩
  · rintro ⟨text, htext, hmentioned⟩
    exact Or.inr ⟨text, htext, List.mem_filter.mpr ⟨hs, hmentioned⟩⟩

theorem mentionedServices_sublist (g : Graph) : g.mentionedServices.Sublist Service.catalog := by
  rw [mentionedServices_eq_filter]
  exact List.filter_sublist

end Graph
end AgentSpec

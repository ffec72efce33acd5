import AgentSpec.Graph.Encode
import AgentSpec.Json.Written
import AgentSpec.Proofs.Names

/-!
How deep written values are nested.

A query is any value, so nothing bounds its nesting; what is read of it again is nested as deep as it
was (`Json.depth_asWritten`).  All other values that are stored have a shape of their own, and the
shape bounds the nesting.
-/
namespace AgentSpec

namespace Json

mutual

theorem depth_asWritten : (j : Json) → j.asWritten.depth = j.depth
  | .null | .bool _ | .number _ | .string _ => rfl
  | .array items => by rw [asWritten, depth, depth, itemsDepth_asWritten items]
  | .object members => by rw [asWritten, depth, depth, membersDepth_asWritten members]

theorem itemsDepth_asWritten : (items : List Json) →
    itemsDepth (itemsAsWritten items) = itemsDepth items
  | [] => rfl
  | v :: rest => by
    rw [itemsAsWritten, itemsDepth, itemsDepth, depth_asWritten v, itemsDepth_asWritten rest]

theorem membersDepth_asWritten : (members : List (String × Json)) →
    membersDepth (membersAsWritten members) = membersDepth members
  | [] => rfl
  | (k, v) :: rest => by
    rw [membersAsWritten, membersDepth, membersDepth, depth_asWritten v,
      membersDepth_asWritten rest]

end

/-! ## Bounds -/

theorem itemsDepth_le {items : List Json} {n : Nat} (h : ∀ v ∈ items, v.depth ≤ n) :
    itemsDepth items ≤ n := by
  induction items with
  | nil => exact Nat.zero_le n
  | cons v rest ih =>
    obtain ⟨hv, hrest⟩ := List.forall_mem_cons.mp h
    exact Nat.max_le.mpr ⟨hv, ih hrest⟩

theorem membersDepth_le {members : List (String × Json)} {n : Nat}
    (h : ∀ p ∈ members, p.2.depth ≤ n) : membersDepth members ≤ n := by
  induction members with
  | nil => exact Nat.zero_le n
  | cons p rest ih =>
    obtain ⟨hp, hrest⟩ := List.forall_mem_cons.mp h
    exact Nat.max_le.mpr ⟨hp, ih hrest⟩

theorem depth_ofList {f : α → Json} {as : List α} {n : Nat} (h : ∀ a ∈ as, (f a).depth ≤ n) :
    (ofList f as).depth ≤ n + 1 := by
  rw [ofList, depth]
  exact Nat.succ_le_succ (itemsDepth_le (List.forall_mem_map.mpr h))

theorem depth_strings (names : List String) : (strings names).depth ≤ 1 :=
  depth_ofList fun _ _ => Nat.le_refl 0

/-- An object is nested deeper by one than the members that it was made of. -/
theorem depth_ofMembers {members : List (String × Json)} {n : Nat}
    (h : ∀ p ∈ members, p.2.depth ≤ n) : (ofMembers members).depth ≤ n + 1 := by
  rw [ofMembers, depth]
  exact Nat.succ_le_succ (membersDepth_le fun p hp => h p (Dictionary.mem_of_mem_ofList hp))

theorem depth_optional {name : String} {f : α → Json} {a : Option α} {n : Nat}
    (h : ∀ a, (f a).depth ≤ n) : ∀ p ∈ optional name f a, p.2.depth ≤ n := by
  cases a with
  | none => exact List.forall_mem_nil _
  | some a => exact List.forall_mem_singleton.mpr (h a)

end Json

/-! ## Entities -/

open Json (depth_ofList depth_ofMembers depth_optional depth_strings)

theorem FieldReference.depth_toJson (r : FieldReference) : r.toJson.depth ≤ 1 := by
  refine depth_ofMembers (n := 0) ?_
  simp [Json.depth]

theorem Field.depth_toJson (f : Field) : f.toJson.depth ≤ 2 := by
  refine depth_ofMembers (n := 1) (List.forall_mem_append.mpr ⟨List.forall_mem_append.mpr
    ⟨List.forall_mem_append.mpr ⟨List.forall_mem_append.mpr ⟨?_, ?_⟩, ?_⟩, ?_⟩, ?_⟩)
  · simp [Json.depth]
  · exact depth_optional FieldReference.depth_toJson
  · exact depth_optional depth_strings
  · exact depth_optional fun _ => Nat.zero_le 1
  · split <;> simp [Json.depth]

theorem Form.depth_toJson (f : Form) : f.toJson.depth ≤ 2 := by
  refine depth_ofMembers (n := 1) ?_
  simp [Json.depth, depth_strings]

theorem Connection.depth_toJson (c : Connection) : c.toJson.depth ≤ 2 := by
  refine depth_ofMembers (n := 1) ?_
  simp [Json.depth, depth_strings]

theorem StepConfig.depth_toJson (c : StepConfig) : c.toJson.depth ≤ 2 := by
  refine depth_ofMembers (n := 1) ?_
  have htext (name : String) (text : Option String) :
      ∀ p ∈ Json.optional name .string text, p.2.depth ≤ 1 :=
    depth_optional fun _ => Nat.zero_le 1
  have hnumber (name : String) (n : Option UInt32) :
      ∀ p ∈ Json.optional name .nat32 n, p.2.depth ≤ 1 :=
    depth_optional fun _ => Nat.zero_le 1
  cases c with
  | reasoning prompt model =>
    refine List.forall_mem_append.mpr ⟨?_, htext _ _⟩
    simp [Json.depth]
  | webSearch query maxResults =>
    refine List.forall_mem_append.mpr ⟨?_, hnumber _ _⟩
    simp [Json.depth]
  | customCode code dependencies envVars =>
    refine List.forall_mem_append.mpr ⟨List.forall_mem_append.mpr ⟨?_, htext _ _⟩, ?_⟩
    · simp [Json.depth]
    · simp [depth_strings]
  | imageGeneration prompt aspectRatio =>
    refine List.forall_mem_append.mpr ⟨?_, htext _ _⟩
    simp [Json.depth]

end AgentSpec

import AgentSpec.Dictionary
import AgentSpec.Proofs.Lists
import AgentSpec.Text.Names

/-!
Names and what stands under them.

A dictionary answers like the list of everything that was put into it, the last entry first; the
sorted lists of names that serve as candidates in messages have the members of the lists they were
made of.
-/
namespace AgentSpec

namespace Dictionary

variable {α : Type}

theorem lookup_cons (name other : String) (a : α) (d : Dictionary α) :
    List.lookup other ((name, a) :: d) = if other = name then some a else d.lookup other := by
  by_cases h : other = name
  · rw [if_pos h, List.lookup_cons, beq_iff_eq.mpr h]
  · rw [if_neg h, List.lookup_cons, beq_eq_false_iff_ne.mpr h]

theorem lookup_insert (name other : String) (a : α) (d : Dictionary α) :
    (d.insert name a).lookup other = if other = name then some a else d.lookup other := by
  induction d with
  | nil => exact lookup_cons ..
  | cons entry rest ih =>
    obtain ⟨head, b⟩ := entry
    unfold insert
    by_cases hlt : name < head
    · rw [if_pos hlt, lookup_cons]
    · rw [if_neg hlt]
      by_cases heq : name = head
      · rw [if_pos heq, lookup_cons, lookup_cons, ← heq]
        by_cases h : other = name
        · rw [if_pos h, if_pos h]
        · rw [if_neg h, if_neg h, if_neg h]
      · rw [if_neg heq, lookup_cons, lookup_cons, ih]
        by_cases h : other = head
        · rw [if_pos h, if_pos h, if_neg (h ▸ Ne.symm heq)]
        · rw [if_neg h, if_neg h]

/-- Of several entries with one name the last one counts, and all of them before those that were
there. -/
theorem lookup_foldl_insert (entries : List (String × α)) (d : Dictionary α) (name : String) :
    (entries.foldl (fun d e => d.insert e.1 e.2) d).lookup name =
      (entries.reverse.lookup name).or (d.lookup name) := by
  induction entries generalizing d with
  | nil => rfl
  | cons e rest ih =>
    obtain ⟨head, a⟩ := e
    rw [List.foldl_cons, ih, lookup_insert, List.reverse_cons, List.lookup_append, Option.or_assoc]
    congr 1
    rw [lookup_cons, List.lookup_nil]
    by_cases h : name = head
    · rw [if_pos h, if_pos h, Option.some_or]
    · rw [if_neg h, if_neg h, Option.none_or]

theorem lookup_ofList (entries : List (String × α)) (name : String) :
    (ofList entries).lookup name = entries.reverse.lookup name := by
  rw [ofList, lookup_foldl_insert, List.lookup_nil, Option.or_none]

theorem exists_lookup {entries : List (String × α)} {name : String}
    (h : name ∈ entries.map (·.1)) : ∃ a, entries.lookup name = some a := by
  induction entries with
  | nil => cases h
  | cons e rest ih =>
    obtain ⟨head, b⟩ := e
    by_cases heq : name = head
    · exact ⟨b, by rw [lookup_cons, if_pos heq]⟩
    · obtain ⟨a, ha⟩ := ih (List.mem_of_ne_of_mem heq h)
      exact ⟨a, by rw [lookup_cons, if_neg heq, ha]⟩

theorem exists_lookup_foldl_insert {entries : List (String × α)} {d : Dictionary α} {name : String}
    (h : name ∈ entries.map (·.1) ∨ ∃ a, d.lookup name = some a) :
    ∃ a, (entries.foldl (fun d e => d.insert e.1 e.2) d).lookup name = some a := by
  rw [lookup_foldl_insert]
  rcases h with h | ⟨a, ha⟩
  · rw [← List.mem_reverse, ← List.map_reverse] at h
    obtain ⟨a, ha⟩ := exists_lookup h
    exact ⟨a, by rw [ha, Option.some_or]⟩
  · rw [ha]
    cases entries.reverse.lookup name with
    | none => exact ⟨a, rfl⟩
    | some b => exact ⟨b, rfl⟩

theorem mem_of_lookup {entries : List (String × α)} {name : String} {a : α}
    (h : entries.lookup name = some a) : (name, a) ∈ entries := by
  obtain ⟨before, after, rfl, -⟩ := List.lookup_eq_some_iff.mp h
  exact List.mem_append_right _ List.mem_cons_self

/-- What is found was put in, or was there under a name that nothing was put in for. -/
theorem lookup_foldl_insert_cases {entries : List (String × α)} {d : Dictionary α} {name : String}
    {a : α} (h : (entries.foldl (fun d e => d.insert e.1 e.2) d).lookup name = some a) :
    (name, a) ∈ entries ∨ (name ∉ entries.map (·.1) ∧ d.lookup name = some a) := by
  rw [lookup_foldl_insert] at h
  cases hl : entries.reverse.lookup name with
  | some b =>
    rw [hl] at h
    cases h
    exact Or.inl (List.mem_reverse.mp (mem_of_lookup hl))
  | none =>
    rw [hl, Option.none_or] at h
    refine Or.inr ⟨fun hmem => ?_, h⟩
    rw [← List.mem_reverse, ← List.map_reverse] at hmem
    obtain ⟨b, hb⟩ := exists_lookup hmem
    rw [hl] at hb
    cases hb

theorem mem_names_iff {d : Dictionary α} {name : String} :
    name ∈ d.names ↔ ∃ a, d.lookup name = some a := by
  constructor
  · exact exists_lookup
  · rintro ⟨a, ha⟩
    exact List.mem_map_of_mem (mem_of_lookup ha)

theorem lookup_eq_none {d : Dictionary α} {name : String} (h : name ∉ d.names) :
    d.lookup name = none := by
  by_contra hsome
  exact h (mem_names_iff.mpr (Option.ne_none_iff_exists'.mp hsome))

theorem mem_names_foldl_insert {entries : List (String × α)} {d : Dictionary α} {name : String} :
    name ∈ names (entries.foldl (fun d e => d.insert e.1 e.2) d) ↔
      name ∈ d.names ∨ name ∈ entries.map (·.1) := by
  constructor
  · intro h
    obtain ⟨a, ha⟩ := mem_names_iff.mp h
    rcases lookup_foldl_insert_cases ha with hmem | ⟨-, hold⟩
    · exact Or.inr (List.mem_map_of_mem hmem)
    · exact Or.inl (mem_names_iff.mpr ⟨a, hold⟩)
  · intro h
    exact mem_names_iff.mpr (exists_lookup_foldl_insert (h.symm.imp_right mem_names_iff.mp))

/-- Where names are distinct, an entry is what is found under its name. -/
theorem lookup_of_mem {entries : List (String × α)} {name : String} {a : α}
    (hnames : (entries.map (·.1)).Nodup) (h : (name, a) ∈ entries) :
    entries.lookup name = some a := by
  obtain ⟨b, hb⟩ := exists_lookup (List.mem_map_of_mem h)
  rw [hb, Option.some.injEq]
  exact congrArg Prod.snd (List.inj_on_of_nodup_map hnames (mem_of_lookup hb) h rfl)

/-- Names stand in their order, none twice. -/
def Sorted (d : Dictionary α) : Prop := d.Pairwise fun a b => a.1 < b.1

theorem mem_insert {d : Dictionary α} {name : String} {a : α} {e : String × α}
    (h : e ∈ d.insert name a) : e = (name, a) ∨ e ∈ d := by
  induction d with
  | nil => exact Or.inl (List.mem_singleton.mp h)
  | cons head rest ih =>
    obtain ⟨other, b⟩ := head
    unfold insert at h
    by_cases hlt : name < other
    · rw [if_pos hlt] at h
      exact List.mem_cons.mp h
    · rw [if_neg hlt] at h
      by_cases heq : name = other
      · rw [if_pos heq] at h
        exact (List.mem_cons.mp h).imp_right (List.mem_cons_of_mem _)
      · rw [if_neg heq] at h
        rcases List.mem_cons.mp h with h | h
        · exact Or.inr (h ▸ List.mem_cons_self)
        · exact (ih h).imp_right (List.mem_cons_of_mem _)

theorem Sorted.insert {d : Dictionary α} (h : d.Sorted) (name : String) (a : α) :
    (d.insert name a).Sorted := by
  induction d with
  | nil => exact List.pairwise_singleton _ _
  | cons head rest ih =>
    obtain ⟨other, b⟩ := head
    obtain ⟨hhead, hrest⟩ := List.pairwise_cons.mp h
    unfold Dictionary.insert
    by_cases hlt : name < other
    · rw [if_pos hlt]
      refine List.pairwise_cons.mpr ⟨fun e he => ?_, h⟩
      rcases List.mem_cons.mp he with rfl | he
      · exact hlt
      · exact String.lt_trans hlt (hhead e he)
    · rw [if_neg hlt]
      by_cases heq : name = other
      · rw [if_pos heq]
        exact List.pairwise_cons.mpr ⟨heq ▸ hhead, hrest⟩
      · rw [if_neg heq]
        refine List.pairwise_cons.mpr ⟨fun e he => ?_, ih hrest⟩
        rcases mem_insert he with rfl | he
        · by_contra hgt
          exact heq (String.le_antisymm (String.not_lt.mp hgt) (String.not_lt.mp hlt))
        · exact hhead e he

theorem Sorted.nodup {d : Dictionary α} (h : d.Sorted) : (d.map (·.1)).Nodup := by
  rw [List.nodup_iff_pairwise_ne, List.pairwise_map]
  refine h.imp ?_
  intro a b hlt heq
  exact String.lt_irrefl b.1 (heq ▸ hlt)

theorem sorted_ofList (entries : List (String × α)) : (ofList entries).Sorted := by
  suffices h : ∀ d : Dictionary α, d.Sorted →
      Sorted (entries.foldl (fun d e => d.insert e.1 e.2) d) from h [] List.Pairwise.nil
  induction entries with
  | nil => exact fun d hd => hd
  | cons e rest ih => exact fun d hd => ih _ (hd.insert e.1 e.2)

/-- What was put in under a name that occurs once is found from either end. -/
theorem lookup_reverse {entries : List (String × α)} (h : (entries.map (·.1)).Nodup)
    (name : String) : entries.reverse.lookup name = entries.lookup name := by
  have hreverse : (entries.reverse.map (·.1)).Nodup := by
    rw [List.map_reverse]
    exact List.nodup_reverse.mpr h
  cases hl : entries.lookup name with
  | some a => exact lookup_of_mem hreverse (List.mem_reverse.mpr (mem_of_lookup hl))
  | none =>
    by_contra hsome
    obtain ⟨a, ha⟩ := Option.ne_none_iff_exists'.mp hsome
    rw [lookup_of_mem h (List.mem_reverse.mp (mem_of_lookup ha))] at hl
    cases hl

/-- Dictionaries that answer alike are the same. -/
theorem Sorted.ext {d d' : Dictionary α} (h : d.Sorted) (h' : d'.Sorted)
    (hl : ∀ name, d.lookup name = d'.lookup name) : d = d' := by
  have hmem {d d' : Dictionary α} (h : d.Sorted) (hl : ∀ name, d.lookup name = d'.lookup name)
      {e : String × α} (he : e ∈ d) : e ∈ d' := by
    apply mem_of_lookup
    rw [← hl]
    exact lookup_of_mem h.nodup he
  have hperm : List.Perm d d' := by
    refine (List.perm_ext_iff_of_nodup h.nodup.of_map h'.nodup.of_map).mpr fun e => ?_
    exact ⟨hmem h hl, hmem h' fun name => (hl name).symm⟩
  refine hperm.eq_of_pairwise ?_ h h'
  intro a b _ _ hab hba
  exact absurd (String.lt_trans hab hba) (String.lt_irrefl a.1)

theorem lookup_filter (p : String → Bool) (d : Dictionary α) (name : String) :
    List.lookup name (d.filter fun e => p e.1) = if p name then d.lookup name else none := by
  induction d with
  | nil => exact (ite_self none).symm
  | cons entry rest ih =>
    obtain ⟨k, a⟩ := entry
    rw [lookup_cons]
    by_cases hk : p k
    · rw [List.filter_cons, if_pos hk, lookup_cons, ih]
      by_cases h : name = k
      · rw [if_pos h, if_pos h, if_pos (h ▸ hk)]
      · rw [if_neg h, if_neg h]
    · rw [List.filter_cons, if_neg hk, ih]
      by_cases h : name = k
      · rw [if_neg (h ▸ hk), if_neg (h ▸ hk)]
      · rw [if_neg h]

theorem filter_ofList (p : String → Bool) (entries : List (String × α)) :
    (ofList entries).filter (fun e => p e.1) = ofList (entries.filter fun e => p e.1) := by
  refine Sorted.ext ?_ (sorted_ofList _) fun name => ?_
  · exact List.Pairwise.filter _ (sorted_ofList entries)
  · rw [lookup_filter, lookup_ofList, lookup_ofList, ← List.filter_reverse, lookup_filter]

theorem ofList_of_sorted {d : Dictionary α} (h : d.Sorted) : ofList d = d := by
  refine Sorted.ext (sorted_ofList d) h fun name => ?_
  rw [lookup_ofList, lookup_reverse h.nodup]

theorem mem_of_mem_ofList {entries : List (String × α)} {e : String × α}
    (h : e ∈ ofList entries) : e ∈ entries := by
  have hl : (ofList entries).lookup e.1 = some e.2 := lookup_of_mem (sorted_ofList entries).nodup h
  rw [lookup_ofList] at hl
  exact List.mem_reverse.mp (mem_of_lookup hl)

end Dictionary

namespace Text

theorem mem_insertOnce (n m : String) (names : List String) :
    m ∈ insertOnce n names ↔ m = n ∨ m ∈ names := by
  induction names with
  | nil => simp [insertOnce]
  | cons head rest ih =>
    unfold insertOnce
    by_cases hlt : head < n
    · rw [if_pos hlt, List.mem_cons, ih, List.mem_cons]
      tauto
    · rw [if_neg hlt]
      by_cases hgt : n < head
      · rw [if_pos hgt, List.mem_cons]
      · rw [if_neg hgt]
        have heq : n = head := String.le_antisymm (String.not_lt.mp hlt) (String.not_lt.mp hgt)
        rw [heq, List.mem_cons]
        tauto

theorem mem_sortedOnce (n : String) (names : List String) : n ∈ sortedOnce names ↔ n ∈ names := by
  induction names with
  | nil => rfl
  | cons head rest ih =>
    rw [sortedOnce, List.foldr_cons, mem_insertOnce, List.mem_cons]
    exact or_congr_right ih

end Text

end AgentSpec

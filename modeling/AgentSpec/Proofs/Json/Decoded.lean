import AgentSpec.Proofs.Json.Plain

/-!
What readers let through, whatever they read.

A property of all values that a reader makes is shown reader by reader, like the reading itself, but
it has to hold for flawed texts and for values held in memory alike.  Main statement: a value that is
read completely has the members of its objects in order (`Reader.Ensures.json`).
-/
namespace AgentSpec

/-- Whatever the reader makes has the property. -/
def Reader.Ensures (r : Reader α) (P : α → Prop) : Prop := ∀ d a, r d = .ok a → P a

/-! ## Values that are read completely -/

namespace Json

theorem canonicalMembers_eq_self {members : List (String × Json)} :
    canonicalMembers members = members ↔ ∀ e ∈ members, e.2.canonical = e.2 := by
  induction members with
  | nil => simp [canonicalMembers]
  | cons entry rest ih =>
    obtain ⟨k, v⟩ := entry
    simp [canonicalMembers, ih]

/-- An object that was made of canonical values is canonical: its members are in order already. -/
theorem canonical_ofMembers {members : List (String × Json)}
    (h : ∀ e ∈ members, e.2.canonical = e.2) :
    (Json.ofMembers members).canonical = .ofMembers members := by
  have hvalues : canonicalMembers (Dictionary.ofList members) = Dictionary.ofList members := by
    apply canonicalMembers_eq_self.mpr
    intro e he
    exact h e (Dictionary.mem_of_mem_ofList he)
  rw [Json.ofMembers, canonical, hvalues, Json.ofMembers,
    Dictionary.ofList_of_sorted (Dictionary.sorted_ofList members)]

end Json

namespace Document

mutual

theorem canonical_of_toJson : {d : Document} → {j : Json} → d.toJson = .ok j → j.canonical = j
  | .null _, _, h | .bool _ _, _, h | .number _ _, _, h | .string _ _, _, h => by
    cases h
    rfl
  | .array _ items cut, j, h => by
    cases hitems : itemsToJson cut items with
    | error flaw =>
      rw [toJson, hitems] at h
      cases h
    | ok js =>
      rw [toJson, hitems] at h
      cases h
      rw [Json.canonical, canonicalItems_of_toJson hitems]
  | .object _ members cut, j, h => by
    cases hmembers : membersToJson cut members with
    | error flaw =>
      rw [toJson, hmembers] at h
      cases h
    | ok js =>
      rw [toJson, hmembers] at h
      cases h
      exact Json.canonical_ofMembers
        (Json.canonicalMembers_eq_self.mp (canonicalMembers_of_toJson hmembers))
  | .flawed _ _ _ _, _, h => nomatch h

theorem canonicalItems_of_toJson : {cut : Option Break} → {items : List Document} →
    {js : List Json} → itemsToJson cut items = .ok js → Json.canonicalItems js = js
  | some _, [], _, h => nomatch h
  | none, [], _, h => by
    cases h
    rfl
  | cut, d :: rest, _, h => by
    cases hd : d.toJson with
    | error flaw =>
      rw [itemsToJson, hd] at h
      cases h
    | ok v =>
      cases hrest : itemsToJson cut rest with
      | error flaw =>
        rw [itemsToJson, hd, hrest] at h
        cases h
      | ok vs =>
        rw [itemsToJson, hd, hrest] at h
        cases h
        rw [Json.canonicalItems, canonical_of_toJson hd, canonicalItems_of_toJson hrest]

theorem canonicalMembers_of_toJson : {cut : Option Break} → {members : List (Key × Document)} →
    {js : List (String × Json)} → membersToJson cut members = .ok js →
    Json.canonicalMembers js = js
  | some _, [], _, h => nomatch h
  | none, [], _, h => by
    cases h
    rfl
  | cut, (k, d) :: rest, _, h => by
    cases hk : k.name with
    | error flaw =>
      rw [membersToJson, hk] at h
      cases h
    | ok name =>
      cases hd : d.toJson with
      | error flaw =>
        rw [membersToJson, hk, hd] at h
        cases h
      | ok v =>
        cases hrest : membersToJson cut rest with
        | error flaw =>
          rw [membersToJson, hk, hd, hrest] at h
          cases h
        | ok vs =>
          rw [membersToJson, hk, hd, hrest] at h
          cases h
          rw [Json.canonicalMembers, canonical_of_toJson hd, canonicalMembers_of_toJson hrest]

end

end Document

theorem Reader.Ensures.json : Reader.json.Ensures fun j => j.canonical = j := by
  intro d j h
  cases hd : d.toJson with
  | error flaw =>
    rw [Reader.json, hd] at h
    cases h
  | ok v =>
    rw [Reader.json, hd] at h
    cases h
    exact Document.canonical_of_toJson hd

/-! ## Parts of records -/

namespace Part

variable {p : Part (α → β)} {q : Part α} {f : α → β} {b : β}

theorem map_eq_ok : f <$> q = Part.ok b ↔ ∃ a, q = .ok a ∧ f a = b := by
  show Part.map f q = _ ↔ _
  constructor
  · intro h
    cases q with
    | error problem => cases h
    | ok a =>
      cases h
      exact ⟨a, rfl, rfl⟩
  · rintro ⟨a, rfl, rfl⟩
    rfl

theorem seq_eq_ok : p <*> q = Part.ok b ↔ ∃ f a, p = .ok f ∧ q = .ok a ∧ f a = b := by
  show Part.both p q = _ ↔ _
  constructor
  · intro h
    cases p with
    | error problem => cases q <;> cases h
    | ok f =>
      cases q with
      | error problem => cases h
      | ok a =>
        cases h
        exact ⟨f, a, rfl, rfl, rfl⟩
  · rintro ⟨f, a, rfl, rfl, rfl⟩
    rfl

theorem fail_seq {problem : Problem} : (Part.fail problem : Part (α → β)) <*> q ≠ Part.ok b := by
  intro h
  obtain ⟨f, a, hf, -⟩ := seq_eq_ok.mp h
  cases hf

end Part

namespace Reader.Ensures

variable {r : Reader α} {P : α → Prop} {g : Given} {position : Nat} {name : String} {a : α}

theorem value {moment : Nat} {d : Document} {again : Option Problem} (hr : r.Ensures P)
    (h : Given.value r moment d again = .ok a) : P a := by
  cases again with
  | some problem => exact absurd h Part.fail_seq
  | none =>
    cases hd : r d with
    | error refusal =>
      rw [Given.value, hd] at h
      cases h
    | ok a' =>
      rw [Given.value, hd] at h
      cases h
      exact hr d a hd

theorem required (hr : r.Ensures P) (h : g.required position name r = .ok a) : P a := by
  unfold Given.required at h
  cases hs : g.slot position name with
  | absent missing byName =>
    rw [hs] at h
    cases h
  | present moment d again =>
    rw [hs] at h
    exact hr.value h

theorem withDefault {default : α} (hr : r.Ensures P) (hdefault : P default)
    (h : g.withDefault position name default r = .ok a) : P a := by
  unfold Given.withDefault at h
  cases hs : g.slot position name with
  | absent missing byName =>
    rw [hs] at h
    cases h
    exact hdefault
  | present moment d again =>
    rw [hs] at h
    exact hr.value h

end Reader.Ensures

/-! ## Lists and records -/

namespace Reader

theorem settled_eq_ok {stop : Option Place} {p : Part α} {a : α} (h : settled stop p = .ok a) :
    p = .ok a := by
  cases p with
  | error problem => cases h
  | ok a' =>
    cases h
    rfl

theorem besides_eq_ok {stray : Option Problem} {p : Part α} {a : α} (h : besides stray p = .ok a) :
    p = .ok a := by
  cases stray with
  | none => exact h
  | some problem => exact absurd h Part.fail_seq

namespace Ensures

variable {r : Reader α} {P : α → Prop} {name : String} {fields : List String}

theorem list (hr : r.Ensures P) : (Reader.list r).Ensures fun as => ∀ a ∈ as, P a := by
  have hitems (cut : Option Break) : ∀ (ds : List Document) (as : List α),
      items r cut ds = .ok as → ∀ a ∈ as, P a := by
    intro ds
    induction ds with
    | nil =>
      intro as h
      cases cut with
      | some b => cases h
      | none =>
        cases h
        exact List.forall_mem_nil _
    | cons d rest ih =>
      intro as h
      cases hd : r d with
      | error refusal =>
        rw [items, hd] at h
        cases h
      | ok a =>
        cases hrest : items r cut rest with
        | error refusal =>
          rw [items, hd, hrest] at h
          cases h
        | ok rest' =>
          rw [items, hd, hrest] at h
          cases h
          exact List.forall_mem_cons.mpr ⟨hr d a hd, ih rest' hrest⟩
  intro d as h
  cases d with
  | array o ds cut => exact hitems cut ds as h
  | _ => cases h

theorem record {build : Given → Part α} (h : ∀ g a, build g = .ok a → P a) :
    (Reader.record name fields build).Ensures P := by
  intro d a hd
  cases d with
  | object o ms cut => exact h _ a (besides_eq_ok (settled_eq_ok hd))
  | array o ds cut =>
    unfold Reader.record at hd
    simp only at hd
    split at hd
    · cases hd
    · rename_i a' hsettled
      have ha' : P a' := h _ a' (besides_eq_ok (settled_eq_ok hsettled))
      split at hd
      · cases hd
      · cases cut with
        | some b => cases hd
        | none =>
          cases hd
          exact ha'
  | _ => cases hd

theorem openRecord {inner : Reader β} {build : Given → Part (β → α)} {Q : β → Prop}
    (hinner : inner.Ensures Q) (h : ∀ g f b, build g = .ok f → Q b → P (f b)) :
    (Reader.openRecord name fields inner build).Ensures P := by
  intro d a hd
  cases d with
  | object o ms cut =>
    have hd := settled_eq_ok hd
    cases hothers : others fields cut 0 ms with
    | error problem =>
      rw [hothers] at hd
      obtain ⟨f, b, -, hb, -⟩ := Part.seq_eq_ok.mp hd
      cases hb
    | ok rest =>
      rw [hothers] at hd
      obtain ⟨f, b, hf, hb, rfl⟩ := Part.seq_eq_ok.mp hd
      refine h _ f b hf ?_
      cases hread : inner (.object .setAside rest none) with
      | error refusal =>
        rw [hread] at hb
        cases hb
      | ok b' =>
        rw [hread] at hb
        cases hb
        exact hinner _ _ hread
  | _ => cases hd

end Ensures

/-! ## Values whose form is chosen by a tag -/

section Tagged

variable {β : Type} {choices : List (String × β)} {tagName : String} {cut : Option Break}

theorem mem_of_choose {choice : β} {text : String} {place : Option Place}
    (h : choose choices text place = .ok choice) : choice ∈ choices.map (·.2) := by
  unfold choose at h
  cases hl : choices.lookup text with
  | none =>
    rw [hl] at h
    cases h
  | some c =>
    rw [hl] at h
    cases h
    exact List.mem_map_of_mem (f := Prod.snd) (Dictionary.mem_of_lookup hl)

theorem mem_of_tag {d : Document} {choice : β} (h : tag choices d = .ok choice) :
    choice ∈ choices.map (·.2) := by
  unfold tag at h
  split at h
  · exact mem_of_choose h
  · split at h
    · cases h
    · split at h
      · rename_i c hc
        cases h
        exact List.mem_map_of_mem (List.mem_of_getElem? hc)
      · cases h
  · cases h

theorem mem_of_splitTag {chosen : Option β} {ms rest : List (Key × Document)} {choice : β}
    (h : splitTag tagName choices cut chosen ms = .ok (choice, rest)) :
    chosen = some choice ∨ choice ∈ choices.map (·.2) := by
  induction ms generalizing chosen rest with
  | nil =>
    unfold splitTag at h
    split at h
    · cases h
    · cases h
    · cases h
      exact Or.inl rfl
  | cons entry ms ih =>
    obtain ⟨k, d⟩ := entry
    unfold splitTag at h
    cases hk : k.name with
    | error flaw =>
      rw [hk] at h
      cases h
    | ok name =>
      rw [hk] at h
      simp only [Except.mapError, bind, Except.bind] at h
      split at h
      · cases chosen with
        | some c => cases h
        | none =>
          cases ht : tag choices d with
          | error refusal =>
            rw [ht] at h
            cases h
          | ok c =>
            rw [ht] at h
            rcases ih h with hc | hmem
            · cases hc
              exact Or.inr (mem_of_tag ht)
            · exact Or.inr hmem
      · cases hd : d.setAside with
        | error flaw =>
          rw [hd] at h
          cases h
        | ok v =>
          cases hrest : splitTag tagName choices cut chosen ms with
          | error refusal =>
            rw [hd, hrest] at h
            cases h
          | ok split =>
            rw [hd, hrest] at h
            cases h
            exact ih hrest

theorem Ensures.tagged {α : Type} {choices : List (String × Reader α)} {P : α → Prop}
    {name : String} (h : ∀ form ∈ choices.map (·.2), form.Ensures P) :
    (Reader.tagged name tagName choices).Ensures P := by
  intro d a hd
  cases d with
  | object o ms cut =>
    cases hsplit : splitTag tagName choices cut none ms with
    | error refusal =>
      simp only [Reader.tagged, hsplit] at hd
      cases hd
    | ok split =>
      obtain ⟨form, rest⟩ := split
      simp only [Reader.tagged, hsplit] at hd
      rcases mem_of_splitTag hsplit with hnone | hmem
      · cases hnone
      · exact h form hmem _ a hd
  | array o ds cut =>
    cases ds with
    | nil => cases hd
    | cons d ds =>
      cases ht : tag choices d with
      | error refusal =>
        simp only [Reader.tagged, ht] at hd
        cases hd
      | ok form =>
        cases hrest : Document.setItemsAside cut ds with
        | error flaw =>
          simp only [Reader.tagged, ht, hrest] at hd
          cases hd
        | ok rest =>
          simp only [Reader.tagged, ht, hrest] at hd
          exact h form (mem_of_tag ht) _ a hd
  | _ => cases hd

end Tagged

end Reader
end AgentSpec

import AgentSpec.Graph.Encode
import AgentSpec.Proofs.Json.Plain

/-!
Readers and the values that they read.

A reader reads a value as something if it does so wherever the value is held.  Records are read
field by field from the members that an object was made of, so a record is read back as soon as each
of its fields is.
-/
namespace AgentSpec

/-- The reader makes `a` of a value, in memory or set aside. -/
def Reader.Reads (r : Reader α) (j : Json) (a : α) : Prop :=
  ∀ o, r (.plain o j) = .ok a

namespace Reader.Reads

variable {r : Reader α} {j : Json} {a : α}

theorem ofJson (h : r.Reads j a) : Reader.ofJson r j = .ok a := by
  rw [Reader.ofJson, Document.ofJson_eq_plain]
  exact h .memory

theorem string (s : String) : Reader.string.Reads (.string s) s := fun _ => rfl

theorem bool (b : Bool) : Reader.bool.Reads (.bool b) b := fun _ => rfl

theorem nat32 (n : UInt32) : Reader.nat32.Reads (.nat32 n) n := by
  intro o
  have hn : (n.toNat : Int) < twoTo 32 := by
    have htwo : twoTo 32 = 2 ^ 32 := rfl
    rw [htwo]
    exact_mod_cast n.toNat_lt
  simp only [Json.nat32, Json.nat, Document.plain, Reader.nat32, Reader.natural]
  rw [if_pos ⟨Int.natCast_nonneg _, hn⟩]
  simp [Except.map]

theorem json (j : Json) : Reader.json.Reads j j.canonical := by
  intro o
  rw [Reader.json, Document.toJson_plain]
  rfl

theorem items {f : α → Json} {as : List α} (h : ∀ a ∈ as, r.Reads (f a) a) (o : Origin) :
    Reader.items r none (Document.plainItems o (as.map f)) = .ok as := by
  induction as with
  | nil => rfl
  | cons a rest ih =>
    rw [List.map_cons, Document.plainItems, Reader.items, h a List.mem_cons_self o,
      ih fun b hb => h b (List.mem_cons_of_mem _ hb)]
    rfl

theorem list_of_mem {f : α → Json} {as : List α} (h : ∀ a ∈ as, r.Reads (f a) a) :
    (Reader.list r).Reads (.ofList f as) as := by
  intro o
  rw [Json.ofList, Document.plain]
  exact items h o

theorem list {f : α → Json} (h : ∀ a, r.Reads (f a) a) (as : List α) :
    (Reader.list r).Reads (.ofList f as) as := list_of_mem fun a _ => h a

theorem strings (names : List String) : Reader.strings.Reads (.strings names) names :=
  list string names

/-- A choice is read from its text, if no other has the same. -/
theorem choiceOf {toText : α → String} {all : List α} (hmem : a ∈ all)
    (hinj : (all.map toText).Nodup) : (Reader.choiceOf toText all).Reads (.string (toText a)) a := by
  intro o
  have hl : (all.map fun a => (toText a, a)).lookup (toText a) = some a := by
    refine Dictionary.lookup_of_mem ?_ (List.mem_map_of_mem hmem)
    rw [List.map_map]
    exact hinj
  rw [Document.plain, Reader.choiceOf, Reader.choice, Reader.choose, hl]

/-- A reader of values that may be null reads those that are not. -/
theorem option (h : r.Reads j a) (hnull : j ≠ .null) : (Reader.option r).Reads j (some a) := by
  intro o
  have hd : Reader.option r (.plain o j) = (r (.plain o j)).map some := by
    cases j with
    | null => exact absurd rfl hnull
    | _ => rfl
  rw [hd, h o]
  rfl

end Reader.Reads

/-! ## Members by name -/

namespace Json

/-- The value that stands for a name in the object made of some members. -/
def member (members : List (String × Json)) (name : String) : Option Json :=
  (Dictionary.ofList members).lookup name

theorem member_eq (members : List (String × Json)) (name : String) :
    member members name = members.reverse.lookup name := Dictionary.lookup_ofList ..

@[simp] theorem member_nil (name : String) : member [] name = none := rfl

@[simp] theorem member_cons (entry : String × Json) (rest : List (String × Json)) (name : String) :
    member (entry :: rest) name =
      (member rest name).or (if name = entry.1 then some entry.2 else none) := by
  rw [member_eq, member_eq, List.reverse_cons, List.lookup_append, Dictionary.lookup_cons]
  rfl

@[simp] theorem member_append (before after : List (String × Json)) (name : String) :
    member (before ++ after) name = (member after name).or (member before name) := by
  rw [member_eq, member_eq, member_eq, List.reverse_append, List.lookup_append]

@[simp] theorem member_ite (c : Prop) [Decidable c] (members : List (String × Json))
    (name : String) :
    member (if c then members else []) name = if c then member members name else none := by
  by_cases h : c
  · rw [if_pos h, if_pos h]
  · rw [if_neg h, if_neg h, member_nil]

@[simp] theorem member_ite_nil (c : Prop) [Decidable c] (members : List (String × Json))
    (name : String) :
    member (if c then [] else members) name = if c then none else member members name := by
  by_cases h : c
  · rw [if_pos h, if_pos h, member_nil]
  · rw [if_neg h, if_neg h]

@[simp] theorem member_optional (key : String) (f : α → Json) (value : Option α) (name : String) :
    member (Json.optional key f value) name = if name = key then value.map f else none := by
  cases value with
  | none => simp [Json.optional, member_nil]
  | some a => simp [Json.optional, member_cons, member_nil]

theorem member_eq_none {members : List (String × Json)} {name : String}
    (h : ∀ e ∈ members, e.1 ≠ name) : member members name = none := by
  rw [member_eq]
  by_contra hsome
  obtain ⟨j, hj⟩ := Option.ne_none_iff_exists'.mp hsome
  exact h _ (List.mem_reverse.mp (Dictionary.mem_of_lookup hj)) rfl

theorem name_of_mem_optional {key : String} {f : α → Json} {value : Option α} {e : String × Json}
    (h : e ∈ Json.optional key f value) : e.1 = key := by
  cases value with
  | none => cases h
  | some a =>
    rw [List.mem_singleton.mp h]

end Json

/-! ## Records -/

/-- What is given is one value for each name that has one. -/
def Given.Shows (g : Given) (o : Origin) (value : String → Option Json) : Prop :=
  ∀ position name, match value name with
    | none => ∃ p, g.slot position name = .absent p true
    | some j => ∃ i, g.slot position name = .present i (.plain o j) none

theorem membersNamed_plain {o : Origin} {d : Dictionary Json} (hd : (d.map (·.1)).Nodup)
    (name : String) (i : Nat) : match d.lookup name with
    | none => membersNamed name i (Document.plainMembers o d) = []
    | some j => ∃ k, membersNamed name i (Document.plainMembers o d) =
        [(k, .named name, .plain o j)] := by
  induction d generalizing i with
  | nil => rfl
  | cons entry rest ih =>
    obtain ⟨other, j⟩ := entry
    obtain ⟨hnot, hrest⟩ := List.nodup_cons.mp hd
    have ih := ih hrest (i + 1)
    rw [Dictionary.lookup_cons, Document.plainMembers, membersNamed]
    by_cases h : name = other
    · have hnone : List.lookup name rest = none := by
        cases hl : List.lookup name rest with
        | none => rfl
        | some j' =>
          have hmem := List.mem_map_of_mem (f := Prod.fst) (Dictionary.mem_of_lookup hl)
          exact absurd hmem (h ▸ hnot)
      rw [hnone] at ih
      rw [if_pos h]
      simp only [Key.named, h.symm, if_true]
      exact ⟨i, by rw [ih]⟩
    · rw [if_neg h]
      simp only [Key.named, if_neg (Ne.symm h)]
      exact ih

theorem Given.shows_plain {o : Origin} {d : Dictionary Json} (hd : (d.map (·.1)).Nodup) :
    (Given.members (Document.plainMembers o d)).Shows o fun name => d.lookup name := by
  intro position name
  simp only
  have h := membersNamed_plain (o := o) hd name 0
  unfold Given.slot
  cases hl : d.lookup name with
  | none =>
    rw [hl] at h
    simp only [h]
    exact ⟨_, rfl⟩
  | some j =>
    rw [hl] at h
    obtain ⟨k, hk⟩ := h
    simp only [hk]
    exact ⟨k, rfl⟩

namespace Given.Shows

variable {g : Given} {o : Origin} {value : String → Option Json} {r : Reader α} {j : Json} {a : α}

theorem required (hg : g.Shows o value) (position : Nat) (name : String) (hj : value name = some j)
    (h : r.Reads j a) : g.required position name r = .ok a := by
  have hs := hg position name
  rw [hj] at hs
  obtain ⟨i, hs⟩ := hs
  rw [Given.required, hs]
  simp only [Given.value, h o, Part.ofExcept]

theorem withDefault (hg : g.Shows o value) (position : Nat) (name : String) {default : α}
    (h : match value name with | none => a = default | some j => r.Reads j a) :
    g.withDefault position name default r = .ok a := by
  have hs := hg position name
  rw [Given.withDefault]
  cases hl : value name with
  | none =>
    rw [hl] at hs h
    obtain ⟨p, hs⟩ := hs
    rw [hs, h]
  | some j =>
    rw [hl] at hs h
    obtain ⟨i, hs⟩ := hs
    rw [hs]
    simp only [Given.value, h o, Part.ofExcept]

/-- A field that is left out when there is no value. -/
theorem optional (hg : g.Shows o value) (position : Nat) (name : String) {f : α → Json}
    {given : Option α}
    (hl : value name = given.map f) (h : ∀ a, r.Reads (f a) a) (hnull : ∀ a, f a ≠ .null) :
    g.optional position name r = .ok given := by
  refine hg.withDefault position name ?_
  rw [hl]
  cases given with
  | none => rfl
  | some a => exact (h a).option (hnull a)

/-- A field that is null when there is no value. -/
theorem nullable (hg : g.Shows o value) (position : Nat) (name : String) {f : α → Json}
    {given : Option α} (hl : value name = some (Json.ofOption f given))
    (h : ∀ a, r.Reads (f a) a) (hnull : ∀ a, f a ≠ .null) :
    g.nullable position name r = .ok given := by
  have hs := hg position name
  rw [hl] at hs
  obtain ⟨i, hs⟩ := hs
  have hread : (Reader.option r).Reads (Json.ofOption f given) given := by
    cases given with
    | none => exact fun _ => rfl
    | some a => exact (h a).option (hnull a)
  rw [Given.nullable, hs]
  simp only [Given.value, hread o, Part.ofExcept]

end Given.Shows

theorem Reader.strayFlaw_plain (known : List String) (o : Origin) (i : Nat)
    (members : List (String × Json)) :
    strayFlaw known none i (Document.plainMembers o members) = none := by
  induction members generalizing i with
  | nil => rfl
  | cons entry rest ih =>
    obtain ⟨k, j⟩ := entry
    rw [Document.plainMembers, strayFlaw]
    simp only [Key.named, Document.skip_plain, ite_self]
    exact ih (i + 1)

/-- A record is read from an object of distinct members if all its parts are. -/
theorem Reader.Reads.recordOf {name : String} {fields : List String} {build : Given → Part α}
    {d : Dictionary Json} {a : α} (hd : (d.map (·.1)).Nodup)
    (h : ∀ g o, g.Shows o (fun name => d.lookup name) → build g = .ok a) :
    (Reader.record name fields build).Reads (.object d) a := by
  intro o
  rw [Document.plain, Reader.record, Reader.strayFlaw_plain, h _ o (Given.shows_plain hd)]
  rfl

theorem Reader.Reads.record {name : String} {fields : List String} {build : Given → Part α}
    {members : List (String × Json)} {a : α}
    (h : ∀ g o, g.Shows o (Json.member members) → build g = .ok a) :
    (Reader.record name fields build).Reads (.ofMembers members) a :=
  .recordOf (Dictionary.sorted_ofList members).nodup h

/-! ## Values whose form is chosen by a tag -/

section Tagged

variable {tagName text : String} {choices : List (String × β)} {chosen : β} {o : Origin}

theorem Reader.splitTag_chosen {d : Dictionary Json} (h : tagName ∉ d.map (·.1)) :
    splitTag tagName choices none (some chosen) (Document.plainMembers o d) =
      .ok (chosen, Document.plainMembers .setAside d) := by
  induction d with
  | nil => rfl
  | cons entry rest ih =>
    obtain ⟨k, j⟩ := entry
    have hk : k ≠ tagName := fun heq => h (heq ▸ List.mem_cons_self)
    have ih := ih fun hmem => h (List.mem_cons_of_mem _ hmem)
    simp only [Document.plainMembers, splitTag, Key.named, Document.setAside_plain, ih,
      Except.mapError, bind, Except.bind, if_neg hk]
    rfl

theorem Reader.splitTag_plain {d : Dictionary Json} (hd : (d.map (·.1)).Nodup)
    (htag : d.lookup tagName = some (.string text)) (hchoice : choices.lookup text = some chosen) :
    splitTag tagName choices none none (Document.plainMembers o d) =
      .ok (chosen, Document.plainMembers .setAside (d.filter (·.1 != tagName))) := by
  induction d with
  | nil => cases htag
  | cons entry rest ih =>
    obtain ⟨k, j⟩ := entry
    obtain ⟨hnot, hrest⟩ := List.nodup_cons.mp hd
    rw [Dictionary.lookup_cons] at htag
    by_cases hk : k = tagName
    · rw [if_pos hk.symm] at htag
      cases htag
      have hothers : rest.filter (·.1 != tagName) = rest := by
        refine List.filter_eq_self.mpr fun e he => bne_iff_ne.mpr fun heq => hnot ?_
        exact List.mem_map.mpr ⟨e, he, heq.trans hk.symm⟩
      have hfilter : ((k, Json.string text) :: rest).filter (·.1 != tagName) = rest := by
        rw [List.filter_cons_of_neg (by simp [hk]), hothers]
      have htag : tag choices (.string o text) = .ok chosen := by
        rw [tag, choose, hchoice]
      rw [hfilter]
      simp only [Document.plainMembers, Document.plain, splitTag, Key.named, Except.mapError, bind,
        Except.bind, if_pos hk, htag]
      exact splitTag_chosen (hk ▸ hnot)
    · rw [if_neg (Ne.symm hk)] at htag
      have hfilter : ((k, j) :: rest).filter (·.1 != tagName) =
          (k, j) :: rest.filter (·.1 != tagName) := List.filter_cons_of_pos (by simp [hk])
      rw [hfilter]
      simp only [Document.plainMembers, splitTag, Key.named, Document.setAside_plain,
        ih hrest htag, Except.mapError, bind, Except.bind, if_neg hk]
      rfl

/-- A tagged value is read if the tag names a form and its record is read from the other
members. -/
theorem Reader.Reads.tagged {name form : String} {fields : List String} {build : Given → Part α}
    {choices : List (String × Reader α)} {members : List (String × Json)} {a : α}
    (htag : Json.member members tagName = some (.string text))
    (hchoice : choices.lookup text = some (Reader.record form fields build))
    (h : ∀ g o, g.Shows o (fun n => if n = tagName then none else Json.member members n) →
      build g = .ok a) :
    (Reader.tagged name tagName choices).Reads (.ofMembers members) a := by
  intro o
  have hd := (Dictionary.sorted_ofList members).nodup
  have hothers : (((Dictionary.ofList members).filter (·.1 != tagName)).map (·.1)).Nodup :=
    hd.sublist (List.filter_sublist.map _)
  have hread : (Reader.record form fields build).Reads
      (.object ((Dictionary.ofList members).filter (·.1 != tagName))) a := by
    refine .recordOf hothers fun g o hg => h g o ?_
    have hvalue : (fun n => ((Dictionary.ofList members).filter (·.1 != tagName)).lookup n) =
        fun n => if n = tagName then none else Json.member members n := by
      funext n
      rw [Dictionary.lookup_filter (· != tagName)]
      by_cases hn : n = tagName <;> simp [hn, Json.member]
    rw [← hvalue]
    exact hg
  rw [Json.ofMembers, Document.plain, Reader.tagged, splitTag_plain hd htag hchoice]
  exact hread .setAside

end Tagged

/-! ## Records that share their object -/

theorem Reader.others_plain (fields : List String) (o : Origin) (i : Nat)
    (members : List (String × Json)) :
    others fields none i (Document.plainMembers o members) =
      .ok (Document.plainMembers .setAside (members.filter fun e => !fields.contains e.1)) := by
  induction members generalizing i with
  | nil => rfl
  | cons entry rest ih =>
    obtain ⟨k, j⟩ := entry
    rw [Document.plainMembers, others]
    by_cases hk : fields.contains k
    · simp only [Key.named, List.filter_cons, hk, Bool.not_true, Bool.false_eq_true,
        if_false]
      exact ih (i + 1)
    · simp only [Key.named, List.filter_cons, hk, Bool.not_false, if_true, Document.setAside_plain,
        ih (i + 1), Document.plainMembers]
      rfl

/-- A record and the value beside it are read from one object if neither has a member of a name of
the other. -/
theorem Reader.Reads.openRecord {name : String} {fields : List String} {inner : Reader β}
    {build : Given → Part (β → α)} {own shared : List (String × Json)} {f : β → α} {b : β}
    (hown : ∀ e ∈ own, e.1 ∈ fields) (hshared : ∀ e ∈ shared, e.1 ∉ fields)
    (h : ∀ g o, (g.Shows o fun n => if n ∈ fields then Json.member own n else
      Json.member shared n) → build g = .ok f)
    (hinner : inner.Reads (.ofMembers shared) b) :
    (Reader.openRecord name fields inner build).Reads (.ofMembers (own ++ shared)) (f b) := by
  have hd := (Dictionary.sorted_ofList (own ++ shared)).nodup
  have hvalue : (fun n => (Dictionary.ofList (own ++ shared)).lookup n) =
      fun n => if n ∈ fields then Json.member own n else Json.member shared n := by
    funext n
    show Json.member (own ++ shared) n = _
    rw [Json.member_append]
    by_cases hn : n ∈ fields
    · have hnone : Json.member shared n = none := by
        apply Json.member_eq_none
        intro e he heq
        exact hshared e he (heq ▸ hn)
      rw [if_pos hn, hnone, Option.none_or]
    · have hnone : Json.member own n = none := by
        apply Json.member_eq_none
        intro e he heq
        exact hn (heq ▸ hown e he)
      rw [if_neg hn, hnone, Option.or_none]
  have hothers : (own ++ shared).filter (fun e => !fields.contains e.1) = shared := by
    have hnone : own.filter (fun e => !fields.contains e.1) = [] := by
      rw [List.filter_eq_nil_iff]
      intro e he
      simpa using hown e he
    have hall : shared.filter (fun e => !fields.contains e.1) = shared := by
      rw [List.filter_eq_self]
      intro e he
      simpa using hshared e he
    rw [List.filter_append, hnone, hall, List.nil_append]
  intro o
  have hset : inner (.object .setAside
      (Document.plainMembers .setAside (Dictionary.ofList shared)) none) = .ok b := hinner .setAside
  have hbuild := h _ o (hvalue ▸ Given.shows_plain hd)
  rw [Json.ofMembers, Document.plain, Reader.openRecord, others_plain,
    Dictionary.filter_ofList (fun n => !fields.contains n), hothers]
  simp only [hbuild, hset]
  rfl

end AgentSpec

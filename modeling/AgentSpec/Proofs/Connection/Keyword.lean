import AgentSpec.Connection.Catalog
import AgentSpec.Proofs.Connection.Phrase

/-!
How a text mentions a service.

A service is mentioned by its keywords.  They are listed here as texts, without a way to search for
them: which words there are, where white space may stand and which letters may have either case.  The
catalog describes them by phrases, one phrase for each way to write a keyword, and the phrases stand
for the keywords and for nothing else.  A keyword counts only between word boundaries, so what stands
in front of it or behind it does not matter as long as it is no word character.  Main statement:
`Service.mentioned_by_keywords`.
-/
namespace AgentSpec.Service

/-! ## Keywords -/

/-- Names of the platform X. -/
def names : List String := ["twitter", "tweet", "tweets", "tweeting", "x.com"]

/-- The keywords of the services in the catalog. -/
inductive Keyword : Service → List Char → Prop
  /-- The capital letter behind a preposition in small letters. -/
  | behind {preposition : String} {gap : List Char} :
    preposition ∈ ["to", "on", "via", "onto", "in", "from"] → Text.Gap gap →
      Keyword x (preposition.toList ++ gap ++ ['X'])
  /-- The capital letter in front of a noun. -/
  | before {noun : String} {gap : List Char} :
    noun ∈ ["post", "posts", "account", "accounts", "thread", "threads", "API", "timeline",
      "followers"] → Text.Gap gap → Keyword x (['X'] ++ gap ++ noun.toList)
  | name {name : String} {cs : List Char} : name ∈ names → Spells name cs → Keyword x cs
  /-- One word or two. -/
  | linkedin {us gap vs : List Char} : Spells "linked" us → gap.length ≤ 1 →
    (∀ c ∈ gap, Text.isSpace c) → Spells "in" vs → Keyword linkedin (us ++ gap ++ vs)
  | slack {cs : List Char} : Spells "slack" cs → Keyword slack cs
  | discord {cs : List Char} : Spells "discord" cs → Keyword discord cs
  | gmail {cs : List Char} : Spells "gmail" cs → Keyword gmail cs
  | googleMail {us gap vs : List Char} : Spells "google" us → Text.Gap gap → Spells "mail" vs →
    Keyword gmail (us ++ gap ++ vs)

/-- Some characters of the kind stand in the text, between two word boundaries. -/
def Stands (kind : List Char → Prop) (text : String) : Prop :=
  ∃ before cs after, text.toList = before ++ cs ++ after ∧ kind cs ∧
    Text.WordEdge before (cs ++ after) ∧ Text.WordEdge (before ++ cs) after

variable {s : Service} {p : Phrase} {cs : List Char}

theorem alternates_of_catalog : ∀ s ∈ catalog, ∀ p ∈ s.phrases, p.alternates := by
  decide +kernel

/-- Every keyword is written as one of the phrases says. -/
theorem Keyword.exists_phrase (h : s.Keyword cs) : ∃ p ∈ s.phrases, p.Reads cs := by
  cases h with
  | @behind preposition gap hword hgap =>
    refine ⟨[.exact preposition, .spaces, .exact "X"], ?_, ?_⟩
    · exact List.mem_append_left _ (List.mem_append_left _ (List.mem_map_of_mem hword))
    · exact Phrase.reads_two_words.mpr ⟨_, gap, _, rfl, rfl, hgap, rfl⟩
  | @before noun gap hnoun hgap =>
    refine ⟨[.exact "X", .spaces, .exact noun], ?_, ?_⟩
    · exact List.mem_append_left _ (List.mem_append_right _ (List.mem_map_of_mem hnoun))
    · exact Phrase.reads_two_words.mpr ⟨_, gap, _, rfl, rfl, hgap, rfl⟩
  | @name name cs hname hcs =>
    refine ⟨[.anyCase name], List.mem_append_right _ (List.mem_map_of_mem hname), ?_⟩
    exact Phrase.reads_word.mpr hcs
  | linkedin hus hlength hgap hvs =>
    refine ⟨_, List.mem_singleton_self _, ?_⟩
    exact Phrase.reads_two_words.mpr ⟨_, _, _, rfl, hus, ⟨hlength, hgap⟩, hvs⟩
  | slack hcs => exact ⟨_, List.mem_singleton_self _, Phrase.reads_word.mpr hcs⟩
  | discord hcs => exact ⟨_, List.mem_singleton_self _, Phrase.reads_word.mpr hcs⟩
  | gmail hcs => exact ⟨_, List.mem_cons_self, Phrase.reads_word.mpr hcs⟩
  | googleMail hus hgap hvs =>
    refine ⟨_, List.mem_cons_of_mem _ List.mem_cons_self, ?_⟩
    exact Phrase.reads_two_words.mpr ⟨_, _, _, rfl, hus, hgap, hvs⟩

/-- The phrases stand for keywords only. -/
theorem keyword_of_phrase (hs : s ∈ catalog) (hp : p ∈ s.phrases) (h : p.Reads cs) :
    s.Keyword cs := by
  simp only [catalog, List.mem_cons, List.not_mem_nil, or_false] at hs
  rcases hs with rfl | rfl | rfl | rfl | rfl
  · rcases List.mem_append.mp hp with hp | hp
    · rcases List.mem_append.mp hp with hp | hp
      · obtain ⟨preposition, hword, rfl⟩ := List.mem_map.mp hp
        obtain ⟨_, gap, _, rfl, rfl, hgap, rfl⟩ := Phrase.reads_two_words.mp h
        exact .behind hword hgap
      · obtain ⟨noun, hnoun, rfl⟩ := List.mem_map.mp hp
        obtain ⟨_, gap, _, rfl, rfl, hgap, rfl⟩ := Phrase.reads_two_words.mp h
        exact .before hnoun hgap
    · obtain ⟨name, hname, rfl⟩ := List.mem_map.mp hp
      exact .name hname (Phrase.reads_word.mp h)
  · obtain rfl := List.mem_singleton.mp hp
    obtain ⟨us, gap, vs, rfl, hus, ⟨hlength, hgap⟩, hvs⟩ := Phrase.reads_two_words.mp h
    exact .linkedin hus hlength hgap hvs
  · obtain rfl := List.mem_singleton.mp hp
    exact .slack (Phrase.reads_word.mp h)
  · obtain rfl := List.mem_singleton.mp hp
    exact .discord (Phrase.reads_word.mp h)
  · rcases List.mem_cons.mp hp with rfl | hp
    · exact .gmail (Phrase.reads_word.mp h)
    · obtain rfl := List.mem_singleton.mp hp
      obtain ⟨us, gap, vs, rfl, hus, hgap, hvs⟩ := Phrase.reads_two_words.mp h
      exact .googleMail hus hgap hvs

theorem Keyword.known (h : s.Keyword cs) : s ∈ catalog := by
  cases h <;> decide

theorem Keyword.ends_in_word (h : s.Keyword cs) :
    cs.head?.any Text.isWordChar ∧ cs.getLast?.any Text.isWordChar := by
  obtain ⟨p, hp, hcs⟩ := h.exists_phrase
  exact Phrase.ends_in_word (alternates_of_catalog s h.known p hp) hcs

/-! ## Texts that mention a service -/

theorem isMentioned_iff {text : String} (hs : s ∈ catalog) :
    s.isMentioned text ↔ Stands s.Keyword text := by
  rw [isMentioned, List.any_eq_true]
  constructor
  · rintro ⟨p, hp, hoccurs⟩
    obtain ⟨before, cs, after, htext, hcs, hedges⟩ :=
      (Phrase.occursIn_iff (alternates_of_catalog s hs p hp)).mp hoccurs
    exact ⟨before, cs, after, htext, keyword_of_phrase hs hp hcs, hedges⟩
  · rintro ⟨before, cs, after, htext, hcs, hedges⟩
    obtain ⟨p, hp, hreads⟩ := hcs.exists_phrase
    exact ⟨p, hp, (Phrase.occursIn_iff (alternates_of_catalog s hs p hp)).mpr
      ⟨before, cs, after, htext, hreads, hedges⟩⟩

theorem mem_mentioned_iff {text : String} :
    s ∈ mentioned text ↔ s ∈ catalog ∧ Stands s.Keyword text := by
  rw [mentioned, List.mem_filter]
  exact and_congr_right isMentioned_iff

/-- A text with something around it that does not go on with its words has what the text has. -/
theorem Stands.within {kind : List Char → Prop} {text whole : String} (h : Stands kind text)
    (front back : List Char)
    (hkind : ∀ cs, kind cs → cs.head?.any Text.isWordChar ∧ cs.getLast?.any Text.isWordChar)
    (hwhole : whole.toList = front ++ text.toList ++ back)
    (hfront : ¬front.getLast?.any Text.isWordChar) (hback : ¬back.head?.any Text.isWordChar) :
    Stands kind whole := by
  obtain ⟨before, cs, after, htext, hcs, hin, hout⟩ := h
  obtain ⟨hfirst, hlast⟩ := hkind cs hcs
  refine ⟨front ++ before, cs, after ++ back, ?_, hcs, ?_, ?_⟩
  · rw [hwhole, htext]
    simp only [List.append_assoc]
  · rw [Text.wordEdge_iff_front (Phrase.any_head?_append hfirst)] at hin ⊢
    rw [List.getLast?_append]
    cases hb : before.getLast? with
    | none => exact hfront
    | some c => rwa [hb] at hin
  · rw [Text.wordEdge_iff_back (Phrase.any_getLast?_append hlast)] at hout ⊢
    rw [List.head?_append]
    cases ha : after.head? with
    | none => exact hback
    | some c => rwa [ha] at hout

/-- Without a capital X the platform is mentioned by its names alone. -/
theorem Keyword.exists_name (h : s.Keyword cs) (hs : s = x) (hcapital : 'X' ∉ cs) :
    ∃ name ∈ names, Spells name cs := by
  cases h with
  | behind => exact absurd (List.mem_append_right _ (List.mem_singleton_self _)) hcapital
  | before => exact absurd List.mem_cons_self hcapital
  | name hname hcs => exact ⟨_, hname, hcs⟩
  | linkedin => exact absurd hs (by decide)
  | slack => exact absurd hs (by decide)
  | discord => exact absurd hs (by decide)
  | gmail => exact absurd hs (by decide)
  | googleMail => exact absurd hs (by decide)

open Classical in
/-- A text mentions those services of the catalog, in its order, of which a keyword stands between two
word boundaries.  So a keyword inside a longer word does not count, and where there is no capital X
only names of the platform do.  What is mentioned in one of two texts is mentioned in both together
if something stands between them that belongs to no word. -/
theorem mentioned_by_keywords :
    (∀ text, mentioned text = catalog.filter fun s => Stands s.Keyword text) ∧
    (∀ s text, (∀ before cs after, text.toList = before ++ cs ++ after → s.Keyword cs →
      before.getLast?.any Text.isWordChar ∨ after.head?.any Text.isWordChar) →
        s ∉ mentioned text) ∧
    (∀ text : String, 'X' ∉ text.toList →
      (x ∈ mentioned text ↔ Stands (fun cs => ∃ name ∈ names, Spells name cs) text)) ∧
    ∀ a between b : String, between ≠ "" → (∀ c ∈ between.toList, ¬Text.isWordChar c) →
      ∀ s, s ∈ mentioned a ∨ s ∈ mentioned b → s ∈ mentioned (a ++ between ++ b) := by
  refine ⟨fun text => ?_, fun s text hinside hs => ?_, fun text hcapital => ?_,
    fun a between b hne hbetween s hs => ?_⟩
  · refine List.filter_congr fun s hs => ?_
    rw [Bool.eq_iff_iff, decide_eq_true_eq]
    exact isMentioned_iff hs
  · obtain ⟨-, before, cs, after, htext, hcs, hin, hout⟩ := mem_mentioned_iff.mp hs
    obtain ⟨hfirst, hlast⟩ := hcs.ends_in_word
    rcases hinside before cs after htext hcs with hfront | hback
    · exact (Text.wordEdge_iff_front (Phrase.any_head?_append hfirst)).mp hin hfront
    · exact (Text.wordEdge_iff_back (Phrase.any_getLast?_append hlast)).mp hout hback
  · rw [mem_mentioned_iff]
    constructor
    · rintro ⟨-, before, cs, after, htext, hcs, hedges⟩
      have hnone : 'X' ∉ cs := fun hX => hcapital <| by
        rw [htext]
        exact List.mem_append_left _ (List.mem_append_right _ hX)
      exact ⟨before, cs, after, htext, hcs.exists_name rfl hnone, hedges⟩
    · rintro ⟨before, cs, after, htext, ⟨name, hname, hcs⟩, hedges⟩
      exact ⟨by decide, before, cs, after, htext, .name hname hcs, hedges⟩
  · have hgap : between.toList ≠ [] := by rwa [ne_eq, String.toList_eq_nil_iff]
    have hwhole : (a ++ between ++ b).toList = a.toList ++ between.toList ++ b.toList := by
      rw [String.toList_append, String.toList_append]
    rw [mem_mentioned_iff, mem_mentioned_iff] at hs
    rw [mem_mentioned_iff]
    rcases hs with ⟨hknown, hs⟩ | ⟨hknown, hs⟩
    · refine ⟨hknown, hs.within [] _ (fun cs h => h.ends_in_word)
        (hwhole.trans (List.append_assoc ..)) Bool.false_ne_true ?_⟩
      rw [List.head?_append, List.head?_eq_some_head hgap]
      exact hbetween _ (List.head_mem hgap)
    · refine ⟨hknown, hs.within _ [] (fun cs h => h.ends_in_word)
        (hwhole.trans (List.append_nil _).symm) ?_ Bool.false_ne_true⟩
      rw [List.getLast?_append, List.getLast?_eq_some_getLast hgap]
      exact hbetween _ (List.getLast_mem hgap)

section Witness

/-- The one keyword in the text goes on. -/
theorem slackers_inside (before cs after : List Char)
    (htext : "slackers".toList = before ++ cs ++ after) (hcs : slack.Keyword cs) :
    before.getLast?.any Text.isWordChar ∨ after.head?.any Text.isWordChar := by
  have hletters : "slackers".toList.all Char.isAlphanum := by decide
  have hword : ∀ c ∈ before ++ cs ++ after, Text.isWordChar c := fun c hc =>
    Text.isWordChar_of_isAlphanum (List.all_eq_true.mp hletters c (htext ▸ hc))
  obtain ⟨p, hp, hreads⟩ := hcs.exists_phrase
  obtain rfl := List.mem_singleton.mp hp
  have hlength : cs.length = 5 := (Phrase.reads_word.mp hreads).length_eq
  rcases after with - | ⟨c, after⟩
  · have hbefore : before ≠ [] := by
      rintro rfl
      have htotal := congrArg List.length htext
      rw [List.nil_append, List.append_nil, hlength] at htotal
      exact absurd htotal (by decide)
    rw [List.getLast?_eq_some_getLast hbefore]
    refine Or.inl (hword _ ?_)
    exact List.mem_append_left _ (List.mem_append_left _ (List.getLast_mem hbefore))
  · exact Or.inr (hword c (List.mem_append_right _ List.mem_cons_self))

theorem mentioned_by_keywords_slackers :
    slack ∉ mentioned "slackers" ∧
    'X' ∉ "plot x over tweets".toList ∧ Stands (fun cs => ∃ name ∈ names, Spells name cs)
      "plot x over tweets" ∧
    " " ≠ "" ∧ (∀ c ∈ " ".toList, ¬Text.isWordChar c) ∧ x ∈ mentioned "Post it on X" ∧
    x ∈ mentioned ("Post it on X" ++ " " ++ "slackers") := by
  obtain ⟨-, hinside, hsmall, hcontext⟩ := mentioned_by_keywords
  have hcapital : 'X' ∉ "plot x over tweets".toList := by decide
  have hne : " " ≠ "" := by decide
  have hspaces : " ".toList.all Text.isSpace := by decide
  have hbetween : ∀ c ∈ " ".toList, ¬Text.isWordChar c := fun c hc =>
    Text.not_isWordChar_of_isSpace (List.all_eq_true.mp hspaces c hc)
  have hpost : x ∈ mentioned "Post it on X" := by decide +kernel
  exact ⟨hinside slack "slackers" slackers_inside, hcapital,
    (hsmall _ hcapital).mp (by decide +kernel), hne, hbetween, hpost,
    hcontext _ _ "slackers" hne hbetween x (Or.inl hpost)⟩

end Witness

end AgentSpec.Service

import AgentSpec.Connection.Phrase
import Mathlib.Data.List.Forall2
import Mathlib.Data.List.TakeWhile

/-!
What a phrase stands for.

A phrase is searched for in one pass that never goes back: white space is taken as far as it goes, and
what follows has to match there.  Said without a search, a phrase stands for certain characters, and
it occurs where a text has some of them between two word boundaries.  Both come to the same for
phrases that are words with gaps between them, since no white space can begin a word.  Main
statement: `Phrase.occursIn_iff`.
-/
namespace AgentSpec

namespace Text

/-! ## Words and white space -/

/-- A word boundary lies between the two parts: there is a word character on one side, and on the
other side there is something else or nothing. -/
def WordEdge (before after : List Char) : Prop :=
  before.getLast?.any isWordChar ≠ after.head?.any isWordChar

/-- In front of a word character a boundary is where no word goes on. -/
theorem wordEdge_iff_front {before after : List Char} (h : after.head?.any isWordChar) :
    WordEdge before after ↔ ¬before.getLast?.any isWordChar := by
  rw [WordEdge, h]

theorem wordEdge_iff_back {before after : List Char} (h : before.getLast?.any isWordChar) :
    WordEdge before after ↔ ¬after.head?.any isWordChar := by
  rw [WordEdge, h, ne_comm]

/-- White space and nothing else, at least one character of it. -/
def Gap (cs : List Char) : Prop := cs ≠ [] ∧ ∀ c ∈ cs, isSpace c

theorem isWordChar_of_isAlphanum {c : Char} (h : c.isAlphanum) : isWordChar c := by
  have hascii : c.toNat < 0x80 := by
    have hranges : (decide ('A'.val ≤ c.val ∧ c.val ≤ 'Z'.val) ||
        (decide ('a'.val ≤ c.val) && decide (c.val ≤ 'z'.val)) ||
        (decide ('0'.val ≤ c.val) && decide (c.val ≤ '9'.val))) = true := h
    simp only [Bool.or_eq_true, Bool.and_eq_true, decide_eq_true_eq,
      UInt32.le_iff_toNat_le] at hranges
    show c.val.toNat < 0x80
    have hZ : ('Z'.val).toNat = 90 := rfl
    have hz : ('z'.val).toNat = 122 := rfl
    have h9 : ('9'.val).toNat = 57 := rfl
    omega
  unfold isWordChar
  rw [if_pos hascii, h, Bool.true_or]

/-- The code points of white space. -/
def spaceCodes : List Nat :=
  [0x09, 0x0A, 0x0B, 0x0C, 0x0D, 0x20, 0x85, 0xA0, 0x1680, 0x2000, 0x2001, 0x2002, 0x2003, 0x2004,
    0x2005, 0x2006, 0x2007, 0x2008, 0x2009, 0x200A, 0x2028, 0x2029, 0x202F, 0x205F, 0x3000]

theorem mem_spaceCodes {c : Char} (h : isSpace c) : c.toNat ∈ spaceCodes := by
  simp only [isSpace, Bool.or_eq_true, Bool.and_eq_true, decide_eq_true_eq, beq_iff_eq] at h
  simp only [spaceCodes, List.mem_cons, List.not_mem_nil, or_false]
  omega

theorem not_isWordChar_of_isSpace {c : Char} (h : isSpace c) : ¬isWordChar c := by
  have hnone : ∀ n ∈ spaceCodes, ¬isWordChar (Char.ofNat n) := by decide +kernel
  have hc := hnone c.toNat (mem_spaceCodes h)
  rwa [Char.ofNat_toNat] at hc

end Text

/-! ## Pieces -/

/-- The characters spell a text given in small letters, in any case. -/
def Spells (small : String) (cs : List Char) : Prop :=
  List.Forall₂ (fun c letter => foldsTo c letter) cs small.toList

theorem isWordChar_of_foldsTo {c letter : Char} (h : foldsTo c letter)
    (hletter : letter.isAlphanum) : Text.isWordChar c := by
  simp only [foldsTo, Bool.or_eq_true, Bool.and_eq_true, beq_iff_eq] at h
  rcases h with (hlower | ⟨rfl, -⟩) | ⟨hkelvin, -⟩
  · apply Text.isWordChar_of_isAlphanum
    unfold Char.toLower at hlower
    split at hlower
    case isTrue hupper =>
      have hupper : c.isUpper := decide_eq_true hupper
      show ((c.isUpper || c.isLower) || c.isDigit) = true
      rw [hupper, Bool.true_or, Bool.true_or]
    case isFalse => rwa [hlower]
  · decide +kernel
  · have hc : c = Char.ofNat 0x212A := by rw [← hkelvin, Char.ofNat_toNat]
    rw [hc]
    decide +kernel

/-- Characters that match wanted ones begin like them. -/
theorem any_head?_of_forall₂ {r : α → β → Prop} {p : α → Bool} {q : β → Bool} {as : List α}
    {bs : List β} (h : List.Forall₂ r as bs) (hr : ∀ a b, r a b → q b → p a)
    (hbs : bs.head?.any q) : as.head?.any p := by
  cases h with
  | nil => exact hbs
  | cons hab hrest => exact hr _ _ hab hbs

theorem any_getLast?_of_forall₂ {r : α → β → Prop} {p : α → Bool} {q : β → Bool} {as : List α}
    {bs : List β} (h : List.Forall₂ r as bs) (hr : ∀ a b, r a b → q b → p a)
    (hbs : bs.getLast?.any q) : as.getLast?.any p := by
  rw [← List.head?_reverse] at hbs ⊢
  exact any_head?_of_forall₂ (List.forall₂_reverse_iff.mpr h) hr hbs

theorem stripWhile_eq_some {same : Char → Char → Bool} {wanted cs rest : List Char} :
    stripWhile same wanted cs = some rest ↔
      ∃ us, cs = us ++ rest ∧ List.Forall₂ (fun c w => same c w) us wanted := by
  induction wanted generalizing cs with
  | nil =>
    constructor
    · intro h
      exact ⟨[], Option.some.inj h, .nil⟩
    · rintro ⟨us, rfl, hus⟩
      cases hus
      rfl
  | cons w ws ih =>
    cases cs with
    | nil => simp [stripWhile]
    | cons c cs =>
      unfold stripWhile
      by_cases hsame : same c w
      · rw [if_pos hsame, ih]
        constructor
        · rintro ⟨us, rfl, hus⟩
          exact ⟨c :: us, rfl, .cons hsame hus⟩
        · rintro ⟨us, hcs, hus⟩
          cases hus with
          | cons _ hrest =>
            obtain ⟨-, rfl⟩ := List.cons.inj hcs
            exact ⟨_, rfl, hrest⟩
      · rw [if_neg hsame]
        constructor
        · intro h
          cases h
        · rintro ⟨us, hcs, hus⟩
          cases hus with
          | cons hfirst _ =>
            obtain ⟨rfl, -⟩ := List.cons.inj hcs
            exact absurd hfirst hsame

namespace Piece

/-- The characters that a piece stands for. -/
def Reads : Piece → List Char → Prop
  | exact s, cs => cs = s.toList
  | anyCase s, cs => Spells s cs
  | spaces, cs => Text.Gap cs
  | maybeSpace, cs => cs.length ≤ 1 ∧ ∀ c ∈ cs, Text.isSpace c

/-- White space, which is taken as far as it goes. -/
def isGap : Piece → Bool
  | exact _ | anyCase _ => false
  | spaces | maybeSpace => true

/-- Certain characters, the first and the last of which belong to words. -/
def isWord : Piece → Bool
  | exact s | anyCase s =>
    s.toList.head?.any Char.isAlphanum && s.toList.getLast?.any Char.isAlphanum
  | spaces | maybeSpace => false

variable {p : Piece} {cs us rest : List Char}

theorem exists_reads (h : p.strip? cs = some rest) : ∃ us, cs = us ++ rest ∧ p.Reads us := by
  cases p with
  | exact s =>
    obtain ⟨us, rfl, hus⟩ := stripWhile_eq_some.mp h
    simp only [beq_iff_eq, List.forall₂_eq_eq_eq] at hus
    exact ⟨us, rfl, hus⟩
  | anyCase s => exact stripWhile_eq_some.mp h
  | spaces =>
    cases cs with
    | nil => cases h
    | cons c cs =>
      change (if Text.isSpace c then some (cs.dropWhile Text.isSpace) else none) = _ at h
      split at h
      case isTrue hc =>
        refine ⟨c :: cs.takeWhile Text.isSpace, ?_, List.cons_ne_nil _ _, ?_⟩
        · rw [← Option.some.inj h, List.cons_append, List.takeWhile_append_dropWhile]
        · exact List.forall_mem_cons.mpr ⟨hc, fun d hd => List.mem_takeWhile_imp hd⟩
      case isFalse => cases h
  | maybeSpace =>
    cases cs with
    | nil => exact ⟨[], Option.some.inj h, Nat.zero_le 1, List.forall_mem_nil _⟩
    | cons c cs =>
      have h := Option.some.inj h
      split at h
      case isTrue hc =>
        exact ⟨[c], congrArg (c :: ·) h, Nat.le_refl 1, List.forall_mem_singleton.mpr hc⟩
      case isFalse => exact ⟨[], h, Nat.zero_le 1, List.forall_mem_nil _⟩

/-- White space is found if none follows it. -/
theorem strip?_append (h : p.Reads us) (hrest : p.isGap → ¬rest.head?.any Text.isSpace) :
    p.strip? (us ++ rest) = some rest := by
  cases p with
  | exact s =>
    obtain rfl : us = s.toList := h
    refine stripWhile_eq_some.mpr ⟨_, rfl, ?_⟩
    simp only [beq_iff_eq, List.forall₂_eq_eq_eq]
  | anyCase s => exact stripWhile_eq_some.mpr ⟨us, rfl, h⟩
  | spaces =>
    obtain ⟨hne, hspaces⟩ := h
    obtain ⟨c, us, rfl⟩ := List.exists_cons_of_ne_nil hne
    obtain ⟨hc, hus⟩ := List.forall_mem_cons.mp hspaces
    have hstop : rest.dropWhile Text.isSpace = rest := by
      cases rest with
      | nil => rfl
      | cons d rest => exact List.dropWhile_cons_of_neg (hrest rfl)
    show (if Text.isSpace c then some ((us ++ rest).dropWhile Text.isSpace) else none) = _
    rw [if_pos hc, List.dropWhile_append_of_pos hus, hstop]
  | maybeSpace =>
    obtain ⟨hlength, hspaces⟩ := h
    rcases us with - | ⟨c, - | ⟨d, us⟩⟩
    · cases rest with
      | nil => rfl
      | cons d rest =>
        have hd : ¬Text.isSpace d := hrest rfl
        show some (if Text.isSpace d then rest else d :: rest) = _
        rw [if_neg hd]
    · show some (if Text.isSpace c then rest else c :: rest) = _
      rw [if_pos (hspaces c List.mem_cons_self)]
    · rw [List.length_cons, List.length_cons] at hlength
      omega

theorem not_isGap (p : Piece) (hp : p.isWord) : ¬p.isGap := by
  cases p with
  | exact s => exact Bool.false_ne_true
  | anyCase s => exact Bool.false_ne_true
  | spaces => cases hp
  | maybeSpace => cases hp

/-- What a word stands for begins and ends with a word character. -/
theorem Reads.ends_in_word (h : p.Reads us) (hp : p.isWord) :
    us.head?.any Text.isWordChar ∧ us.getLast?.any Text.isWordChar := by
  have hboth {r : Char → Char → Prop} {s : String} (hus : List.Forall₂ r us s.toList)
      (hr : ∀ c letter, r c letter → letter.isAlphanum → Text.isWordChar c)
      (hs : (s.toList.head?.any Char.isAlphanum && s.toList.getLast?.any Char.isAlphanum) = true) :
      us.head?.any Text.isWordChar ∧ us.getLast?.any Text.isWordChar := by
    obtain ⟨hfirst, hlast⟩ := Bool.and_eq_true_iff.mp hs
    exact ⟨any_head?_of_forall₂ hus hr hfirst, any_getLast?_of_forall₂ hus hr hlast⟩
  cases p with
  | exact s =>
    have hus : List.Forall₂ (· = ·) us s.toList := by rwa [List.forall₂_eq_eq_eq]
    exact hboth hus (fun c letter hc hletter => hc ▸ Text.isWordChar_of_isAlphanum hletter) hp
  | anyCase s => exact hboth h (fun c letter => isWordChar_of_foldsTo) hp
  | spaces => cases hp
  | maybeSpace => cases hp

end Piece

/-! ## Phrases -/

namespace Phrase

/-- The characters that a phrase stands for: those of its pieces, one after the other. -/
def Reads : Phrase → List Char → Prop
  | [], cs => cs = []
  | p :: ps, cs => ∃ us vs, cs = us ++ vs ∧ p.Reads us ∧ Reads ps vs

/-- Words with a gap between each and the next. -/
def alternates : Phrase → Bool
  | [] => false
  | [word] => word.isWord
  | word :: gap :: rest => word.isWord && gap.isGap && alternates rest

variable {p : Phrase} {cs rest : List Char}

theorem reads_word {word : Piece} : Reads [word] cs ↔ word.Reads cs := by
  constructor
  · rintro ⟨us, vs, rfl, hus, rfl⟩
    rwa [List.append_nil]
  · intro h
    exact ⟨cs, [], (List.append_nil cs).symm, h, rfl⟩

theorem reads_two_words {first gap second : Piece} : Reads [first, gap, second] cs ↔
    ∃ us gs vs, cs = us ++ gs ++ vs ∧ first.Reads us ∧ gap.Reads gs ∧ second.Reads vs := by
  constructor
  · rintro ⟨us, _, rfl, hus, gs, vs, rfl, hgs, hvs⟩
    exact ⟨us, gs, vs, (List.append_assoc ..).symm, hus, hgs, reads_word.mp hvs⟩
  · rintro ⟨us, gs, vs, rfl, hus, hgs, hvs⟩
    exact ⟨us, gs ++ vs, List.append_assoc .., hus, gs, vs, rfl, hgs, reads_word.mpr hvs⟩

theorem any_head?_append {us vs : List Char} {q : Char → Bool} (h : us.head?.any q) :
    (us ++ vs).head?.any q := by
  obtain ⟨c, hc, hq⟩ := (Option.any_eq_true _ _).mp h
  rw [List.head?_append, hc]
  exact hq

theorem any_getLast?_append {us vs : List Char} {q : Char → Bool} (h : vs.getLast?.any q) :
    (us ++ vs).getLast?.any q := by
  obtain ⟨c, hc, hq⟩ := (Option.any_eq_true _ _).mp h
  rw [List.getLast?_append, hc]
  exact hq

theorem ends_in_word (hp : p.alternates) (h : p.Reads cs) :
    cs.head?.any Text.isWordChar ∧ cs.getLast?.any Text.isWordChar := by
  induction p using alternates.induct generalizing cs with
  | case1 => cases hp
  | case2 word => exact (reads_word.mp h).ends_in_word hp
  | case3 word gap rest ih =>
    simp only [alternates, Bool.and_eq_true] at hp
    obtain ⟨us, _, rfl, hus, gs, vs, rfl, -, hvs⟩ := h
    have hlast := (ih hp.2 hvs).2
    exact ⟨any_head?_append (hus.ends_in_word hp.1.1).1,
      any_getLast?_append (any_getLast?_append hlast)⟩

theorem exists_reads (h : p.strip? cs = some rest) : ∃ us, cs = us ++ rest ∧ p.Reads us := by
  induction p generalizing cs with
  | nil => exact ⟨[], Option.some.inj h, rfl⟩
  | cons q qs ih =>
    obtain ⟨between, hq, hqs⟩ := Option.bind_eq_some_iff.mp h
    obtain ⟨us, rfl, hus⟩ := Piece.exists_reads hq
    obtain ⟨vs, rfl, hvs⟩ := ih hqs
    exact ⟨us ++ vs, (List.append_assoc ..).symm, us, vs, rfl, hus, hvs⟩

theorem strip?_append (hp : p.alternates) (h : p.Reads cs) : p.strip? (cs ++ rest) = some rest := by
  induction p using alternates.induct generalizing cs with
  | case1 => cases hp
  | case2 word =>
    have hword : word.strip? (cs ++ rest) = some rest :=
      Piece.strip?_append (reads_word.mp h) fun hg => absurd hg (word.not_isGap hp)
    rw [strip?, hword]
    rfl
  | case3 word gap ps ih =>
    simp only [alternates, Bool.and_eq_true] at hp
    obtain ⟨us, _, rfl, hus, gs, vs, rfl, hgs, hvs⟩ := h
    -- a word comes next, so the gap ends where its white space ends
    have hnext : ¬(vs ++ rest).head?.any Text.isSpace := by
      have hhead : (vs ++ rest).head?.any Text.isWordChar :=
        any_head?_append (ends_in_word hp.2 hvs).1
      obtain ⟨c, hc, hword⟩ := (Option.any_eq_true _ _).mp hhead
      rw [hc]
      exact fun hspace => Text.not_isWordChar_of_isSpace hspace hword
    have hword : word.strip? (us ++ (gs ++ (vs ++ rest))) = some (gs ++ (vs ++ rest)) :=
      Piece.strip?_append hus fun hg => absurd hg (word.not_isGap hp.1.1)
    have hgap := Piece.strip?_append hgs fun _ => hnext
    rw [List.append_assoc, List.append_assoc, strip?, hword, Option.bind_some, strip?, hgap,
      Option.bind_some]
    exact ih hp.2 hvs

theorem begins_iff (hp : p.alternates) : p.begins cs ↔
    ∃ us rest, cs = us ++ rest ∧ p.Reads us ∧ ¬rest.head?.any Text.isWordChar := by
  rw [begins, Option.any_eq_true]
  constructor
  · rintro ⟨rest, hrest, hends⟩
    obtain ⟨us, rfl, hus⟩ := exists_reads hrest
    exact ⟨us, rest, rfl, hus, by simpa [Text.endsWord] using hends⟩
  · rintro ⟨us, rest, rfl, hus, hends⟩
    exact ⟨rest, strip?_append hp hus, by simpa [Text.endsWord] using hends⟩

/-- A phrase is looked for at every place with no word character directly in front of it. -/
theorem occursAfter_iff {inWord : Bool} : p.occursAfter inWord cs ↔
    ∃ before rest, cs = before ++ rest ∧ rest ≠ [] ∧ p.begins rest ∧
      (before.getLast?.map Text.isWordChar).getD inWord = false := by
  induction cs generalizing inWord with
  | nil =>
    constructor
    · intro h
      cases h
    · rintro ⟨before, rest, hcs, hne, -⟩
      exact absurd (List.append_eq_nil_iff.mp hcs.symm).2 hne
  | cons c cs ih =>
    have hlast (before : List Char) :
        ((c :: before).getLast?.map Text.isWordChar).getD inWord =
          (before.getLast?.map Text.isWordChar).getD (Text.isWordChar c) := by
      rw [List.getLast?_cons]
      cases before.getLast? <;> rfl
    rw [occursAfter, Bool.or_eq_true, Bool.and_eq_true, Bool.not_eq_true', ih]
    constructor
    · rintro (⟨hout, hbegins⟩ | ⟨before, rest, rfl, hne, hbegins, hout⟩)
      · exact ⟨[], c :: cs, rfl, List.cons_ne_nil _ _, hbegins, hout⟩
      · exact ⟨c :: before, rest, rfl, hne, hbegins, (hlast before).trans hout⟩
    · rintro ⟨before, rest, hcs, hne, hbegins, hout⟩
      cases before with
      | nil =>
        rw [List.nil_append] at hcs
        exact Or.inl ⟨hout, hcs ▸ hbegins⟩
      | cons d before =>
        obtain ⟨rfl, rfl⟩ := List.cons.inj hcs
        exact Or.inr ⟨before, rest, rfl, hne, hbegins, (hlast before).symm.trans hout⟩

/-- A phrase of words with gaps occurs exactly where a text has some characters that it stands for
between two word boundaries. -/
theorem occursIn_iff (hp : p.alternates) {text : String} : p.occursIn text ↔
    ∃ before us after, text.toList = before ++ us ++ after ∧ p.Reads us ∧
      Text.WordEdge before (us ++ after) ∧ Text.WordEdge (before ++ us) after := by
  have hout (before : List Char) : (before.getLast?.map Text.isWordChar).getD false = false ↔
      ¬before.getLast?.any Text.isWordChar := by
    cases before.getLast? <;> simp
  rw [occursIn, occursAfter_iff]
  constructor
  · rintro ⟨before, rest, htext, -, hbegins, hfront⟩
    obtain ⟨us, after, rfl, hus, hback⟩ := (begins_iff hp).mp hbegins
    obtain ⟨hfirst, hlast⟩ := ends_in_word hp hus
    refine ⟨before, us, after, by rw [htext, List.append_assoc], hus, ?_, ?_⟩
    · exact (Text.wordEdge_iff_front (any_head?_append hfirst)).mpr ((hout before).mp hfront)
    · exact (Text.wordEdge_iff_back (any_getLast?_append hlast)).mpr hback
  · rintro ⟨before, us, after, htext, hus, hfront, hback⟩
    obtain ⟨hfirst, hlast⟩ := ends_in_word hp hus
    refine ⟨before, us ++ after, by rw [htext, List.append_assoc], ?_, ?_, ?_⟩
    · intro hnil
      rw [(List.append_eq_nil_iff.mp hnil).1] at hfirst
      cases hfirst
    · have hafter := (Text.wordEdge_iff_back (any_getLast?_append hlast)).mp hback
      exact (begins_iff hp).mpr ⟨us, after, rfl, hus, hafter⟩
    · exact (hout before).mpr ((Text.wordEdge_iff_front (any_head?_append hfirst)).mp hfront)

end Phrase
end AgentSpec

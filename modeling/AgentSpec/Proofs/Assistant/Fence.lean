import AgentSpec.Assistant.Exchange
import AgentSpec.Json.Printer
import Mathlib.Data.List.DropRight
import Mathlib.Data.List.Infix

/-!
Fences around replies.

A model may put what it was asked for between lines of three backquotes.  The text inside is found
from the first line break and the last fence, so fences that the text has itself are part of it,
and so is anything but a fence that follows in its lines.  A text that is not in a fence is only
trimmed; every JSON text is such a one, since none begins with a backquote.  So an assistant's
value does not depend on whether its JSON came in a fence.  Main statement: `fence_transparent`.
-/
namespace AgentSpec

/-! ## Trimmed texts -/

namespace Text

variable {xs ys sp : List Char}

theorem dropWhile_append_cons {p : α → Bool} {a : α} (h : p a = false) (as bs : List α) :
    (as ++ a :: bs).dropWhile p = as.dropWhile p ++ a :: bs := by
  rw [List.dropWhile_append]
  by_cases hempty : (as.dropWhile p).isEmpty
  · rw [if_pos hempty, List.isEmpty_iff.mp hempty, List.nil_append,
      List.dropWhile_cons_of_neg (Bool.eq_false_iff.mp h)]
  · rw [if_neg hempty]

theorem rdropWhile_append_cons {p : α → Bool} {a : α} (h : p a = false) (as bs : List α) :
    (as ++ a :: bs).rdropWhile p = as ++ a :: bs.rdropWhile p := by
  unfold List.rdropWhile
  rw [List.reverse_append, List.reverse_cons, List.append_assoc, List.singleton_append,
    dropWhile_append_cons h, List.reverse_append, List.reverse_cons, List.reverse_reverse,
    List.append_assoc, List.singleton_append]

theorem rdropWhile_append_of_pos {p : α → Bool} {bs : List α} (h : ∀ b ∈ bs, p b) (as : List α) :
    (as ++ bs).rdropWhile p = as.rdropWhile p := by
  unfold List.rdropWhile
  rw [List.reverse_append, List.dropWhile_append_of_pos fun b hb => h b (List.mem_reverse.mp hb)]

theorem trimChars_eq (cs : List Char) :
    trimChars cs = (cs.dropWhile isSpace).rdropWhile isSpace := rfl

theorem trimChars_prepend (h : ∀ c ∈ sp, isSpace c) : trimChars (sp ++ xs) = trimChars xs := by
  rw [trimChars_eq, List.dropWhile_append_of_pos h, ← trimChars_eq]

theorem trimChars_append (h : ∀ c ∈ sp, isSpace c) : trimChars (xs ++ sp) = trimChars xs := by
  rw [trimChars_eq, trimChars_eq, List.dropWhile_append]
  by_cases hempty : (xs.dropWhile isSpace).isEmpty
  · rw [if_pos hempty, List.isEmpty_iff.mp hempty, List.dropWhile_eq_nil_iff.mpr h]
  · rw [if_neg hempty, rdropWhile_append_of_pos h]

end Text

/-! ## The last fence -/

section BeforeLast

variable {part xs ys : List Char}

theorem beforeLast_eq_none (hpart : part ≠ []) : beforeLast part xs = none ↔ ¬part <:+: xs := by
  induction xs with
  | nil => simp [beforeLast, hpart]
  | cons c rest ih =>
    rw [List.infix_cons_iff, not_or, ← ih, beforeLast]
    cases beforeLast part rest with
    | some found => simp
    | none =>
      by_cases hstart : part.isPrefixOf (c :: rest)
      · simp [hstart, List.isPrefixOf_iff_prefix.mp hstart]
      · simp [hstart, mt List.isPrefixOf_iff_prefix.mpr hstart]

/-- Nothing of a later occurrence may begin inside this one. -/
theorem beforeLast_append {c : Char} (h : ¬(c :: part) <:+: part ++ ys) (xs : List Char) :
    beforeLast (c :: part) (xs ++ (c :: part ++ ys)) = some xs := by
  induction xs with
  | nil =>
    have hlater := (beforeLast_eq_none (List.cons_ne_nil c part)).mpr h
    have hhere : (c :: part).isPrefixOf (c :: (part ++ ys)) = true :=
      List.isPrefixOf_iff_prefix.mpr (List.prefix_append (c :: part) ys)
    rw [List.nil_append, List.cons_append, beforeLast, hlater]
    exact if_pos hhere
  | cons x rest ih =>
    rw [List.cons_append, beforeLast, ih]

/-- A fence is the last one if there is none in what follows and no backquote is next to it. -/
theorem beforeLast_fence (h : ¬fence <:+: ys) (hnext : ys.head? ≠ some '\x60') (xs : List Char) :
    beforeLast fence (xs ++ (fence ++ ys)) = some xs := by
  have hlater : ¬fence <:+: '\x60' :: '\x60' :: ys := by
    intro hin
    rcases List.infix_cons_iff.mp hin with ⟨rest, hrest⟩ | hin
    · have hys : '\x60' :: rest = ys := (List.cons.inj (List.cons.inj hrest).2).2
      exact hnext (by rw [← hys]; rfl)
    rcases List.infix_cons_iff.mp hin with ⟨rest, hrest⟩ | hin
    · have hys : '\x60' :: '\x60' :: rest = ys := (List.cons.inj hrest).2
      exact hnext (by rw [← hys]; rfl)
    · exact h hin
  exact beforeLast_append hlater xs

end BeforeLast

/-! ## Texts in a fence -/

/-- The body stands in a fence: between a line that opens it, with any tag, and one that begins with
the closing one.  Lines without a fence may follow, and white space may be around all of it. -/
def Fenced (body text : String) : Prop :=
  ∃ before tag after behind : String,
    text = before ++ "```" ++ tag ++ "\n" ++ body ++ "\n```" ++ after ++ behind ∧
    Text.isBlank before ∧ Text.isBlank behind ∧ '\n' ∉ tag.toList ∧
    (after = "" ∨ after.toList.head? = some '\n') ∧ ¬fence <:+: after.toList

theorem trimChars_fenced {before : List Char} (h : ∀ c ∈ before, Text.isSpace c)
    (lines rest : List Char) :
    Text.trimChars (before ++ (fence ++ (lines ++ (fence ++ rest)))) =
      fence ++ (lines ++ (fence ++ rest.rdropWhile Text.isSpace)) := by
  have hfence : Text.isSpace '\x60' = false := by decide
  have hfirst : (fence ++ (lines ++ (fence ++ rest))).dropWhile Text.isSpace =
      fence ++ (lines ++ (fence ++ rest)) :=
    List.dropWhile_cons_of_neg (Bool.eq_false_iff.mp hfence)
  have hlast (rest : List Char) : fence ++ (lines ++ (fence ++ rest)) =
      (fence ++ lines ++ fence.tail) ++ '\x60' :: rest := by
    rw [List.append_assoc, List.append_assoc]
    rfl
  rw [Text.trimChars_prepend h, Text.trimChars_eq, hfirst, hlast,
    Text.rdropWhile_append_cons hfence, ← hlast]

/-- The line that opens a fence ends at the first line break. -/
theorem inside_fence {tag : List Char} (h : '\n' ∉ tag) (rest : List Char) :
    ((fence ++ (tag ++ '\n' :: rest)).dropWhile (· != '\n')).drop 1 = rest := by
  have hline : ∀ c ∈ fence ++ tag, (c != '\n') = true := by
    intro c hc
    rw [bne_iff_ne]
    rintro rfl
    exact (List.mem_append.mp hc).elim (by decide) h
  rw [← List.append_assoc, List.dropWhile_append_of_pos hline,
    List.dropWhile_cons_of_neg (by decide)]
  rfl

/-- Of trimmed text that opens a fence, what stands between that line and the last fence is left. -/
theorem withoutFence_of_trimmed {text : String} {tag xs ys : List Char}
    (h : Text.trimChars text.toList = fence ++ (tag ++ '\n' :: (xs ++ (fence ++ ys))))
    (htag : '\n' ∉ tag) (hnext : ys.head? ≠ some '\x60') (hfence : ¬fence <:+: ys) :
    withoutFence text = String.ofList (Text.trimChars xs) := by
  have hopen : fence.isPrefixOf (fence ++ (tag ++ '\n' :: (xs ++ (fence ++ ys)))) = true :=
    List.isPrefixOf_iff_prefix.mpr (List.prefix_append _ _)
  unfold withoutFence
  simp only [h, if_pos hopen, inside_fence htag, beforeLast_fence hfence hnext]
  rfl

theorem withoutFence_of_fenced {body text : String} (h : Fenced body text) :
    withoutFence text = Text.trim body := by
  obtain ⟨before, tag, after, behind, rfl, hbefore, hbehind, htag, hnext, hafter⟩ := h
  have hbefore : ∀ c ∈ before.toList, Text.isSpace c := List.all_eq_true.mp hbefore
  have hbehind : ∀ c ∈ behind.toList, Text.isSpace c := List.all_eq_true.mp hbehind
  let kept := after.toList.rdropWhile Text.isSpace
  have hkept : kept <+: after.toList := List.rdropWhile_prefix _ _
  have htrim : Text.trimChars
      (before ++ "```" ++ tag ++ "\n" ++ body ++ "\n```" ++ after ++ behind).toList =
        fence ++ (tag.toList ++ '\n' :: ((body.toList ++ ['\n']) ++ (fence ++ kept))) := by
    have hlines := trimChars_fenced hbefore (tag.toList ++ '\n' :: (body.toList ++ ['\n']))
      (after.toList ++ behind.toList)
    rw [Text.rdropWhile_append_of_pos hbehind] at hlines
    simp only [String.toList_append, List.append_assoc, List.cons_append] at hlines ⊢
    exact hlines
  have hhead : kept.head? ≠ some '\x60' := by
    intro hhead
    obtain ⟨more, hmore⟩ := List.head?_eq_some_iff.mp hhead
    obtain ⟨rest, hrest⟩ := hkept
    rw [hmore] at hrest
    rcases hnext with rfl | hnext
    · cases hrest
    · rw [← hrest] at hnext
      cases hnext
  have hbreak : ∀ c ∈ ['\n'], Text.isSpace c := List.forall_mem_singleton.mpr rfl
  rw [withoutFence_of_trimmed htrim htag hhead fun hin => hafter (hin.trans hkept.isInfix),
    Text.trimChars_append hbreak]
  rfl

/-- A text that is not in a fence. -/
theorem withoutFence_of_plain {text : String} (h : ¬fence <+: (Text.trim text).toList) :
    withoutFence text = Text.trim text := by
  rw [Text.trim, String.toList_ofList] at h
  unfold withoutFence
  exact if_neg (mt List.isPrefixOf_iff_prefix.mp h)

/-! ## JSON texts -/

namespace Document

/-- The characters that a value can begin with. -/
def opensValue (c : Char) : Bool :=
  ['n', 't', 'f', '"', '[', '\x7b', '-'].contains c || c.isDigit

theorem opensValue_of_isSpace {c : Char} (h : Text.isSpace c) : opensValue c = false := by
  have hspace : c.toNat ≤ 0x20 ∨ 0x85 ≤ c.toNat := by
    simp only [Text.isSpace, Bool.or_eq_true, Bool.and_eq_true, decide_eq_true_eq, beq_iff_eq] at h
    omega
  have hword : c ∉ ['n', 't', 'f', '"', '[', '\x7b', '-'] := by
    intro hmem
    have hopen : ['n', 't', 'f', '"', '[', '\x7b', '-'].all
        fun c => 0x20 < c.toNat ∧ c.toNat < 0x85 := by
      decide
    have hbound := of_decide_eq_true (List.all_eq_true.mp hopen c hmem)
    omega
  have hdigit : ¬c.isDigit = true := by
    intro hmem
    have hlow : (0x30 : Nat) ≤ c.toNat := (Char.isDigit_iff_toNat.mp hmem).1
    have hhigh : c.toNat ≤ 0x39 := (Char.isDigit_iff_toNat.mp hmem).2
    omega
  rw [opensValue, Bool.or_eq_false_iff, List.contains_eq_mem, decide_eq_false_iff_not,
    ← Bool.not_eq_true]
  exact ⟨hword, hdigit⟩

/-- Where no value begins, none is read. -/
theorem scanValue_of_other {fuel depth : Nat} {k : Cursor} {c : Char} {rest : List Char}
    (hk : k.chars = c :: rest) (hc : opensValue c = false) :
    (scanValue (fuel + 1) depth k).doc.toJson = .error (k.flawAhead .valueExpected) := by
  simp only [opensValue, Bool.or_eq_false_iff, List.contains_eq_mem, decide_eq_false_iff_not,
    List.mem_cons, List.not_mem_nil, not_or] at hc
  obtain ⟨⟨hn, ht, hf, hquote, hbracket, hbrace, hminus, -⟩, hdigit⟩ := hc
  have hnumber : ¬(decide (c = '-') || c.isDigit) = true := by
    rw [hdigit, Bool.or_false, decide_eq_true_eq]
    exact hminus
  unfold scanValue
  simp only [hk, if_neg hnumber]
  rfl

theorem skipGap_chars (cs : List Char) (place : Place) :
    (Cursor.skipGap ⟨cs, place⟩).chars = cs.dropWhile Cursor.isGap := by
  calc cs.drop (cs.takeWhile Cursor.isGap).length
      = (cs.takeWhile Cursor.isGap ++ cs.dropWhile Cursor.isGap).drop
          (cs.takeWhile Cursor.isGap).length := by rw [List.takeWhile_append_dropWhile]
    _ = cs.dropWhile Cursor.isGap := List.drop_left

/-- The first character that is no gap decides. -/
theorem ofText_of_other {text : String} {c : Char} {rest : List Char}
    (h : text.toList.dropWhile Cursor.isGap = c :: rest) (hc : opensValue c = false) :
    ∃ flaw, (ofText text).1.toJson = .error flaw := by
  have hk := skipGap_chars text.toList Place.start
  rw [h] at hk
  have hdoc : (ofText text).1 = (scanValue (2 * text.toList.length + 2) 0
      (Cursor.skipGap ⟨text.toList, Place.start⟩)).doc := by
    unfold ofText
    simp only
    split <;> rfl
  exact ⟨_, by rw [hdoc]; exact scanValue_of_other hk hc⟩

end Document

theorem isSpace_of_isGap {c : Char} (h : Document.Cursor.isGap c) : Text.isSpace c := by
  simp only [Document.Cursor.isGap, Bool.or_eq_true, beq_iff_eq] at h
  rcases h with ((rfl | rfl) | rfl) | rfl <;> decide

/-- No JSON text begins with a backquote. -/
theorem no_fence_of_json {text : String} {j : Json} (h : Json.ofText? text = .ok j) :
    ¬fence <+: (Text.trim text).toList := by
  intro hfence
  rw [Text.trim, String.toList_ofList, Text.trimChars_eq] at hfence
  obtain ⟨rest, hrest⟩ := hfence.trans (List.rdropWhile_prefix _ _)
  have hother : ∃ c more, text.toList.dropWhile Document.Cursor.isGap = c :: more ∧
      Document.opensValue c = false := by
    have hgaps : text.toList.dropWhile Text.isSpace =
        (text.toList.dropWhile Document.Cursor.isGap).dropWhile Text.isSpace := by
      have hall : ∀ c ∈ text.toList.takeWhile Document.Cursor.isGap, Text.isSpace c :=
        fun c hc => isSpace_of_isGap (List.mem_takeWhile_imp hc)
      have hsplit : (text.toList.takeWhile Document.Cursor.isGap ++
          text.toList.dropWhile Document.Cursor.isGap).dropWhile Text.isSpace =
          (text.toList.dropWhile Document.Cursor.isGap).dropWhile Text.isSpace :=
        List.dropWhile_append_of_pos hall
      rwa [List.takeWhile_append_dropWhile] at hsplit
    rw [hgaps] at hrest
    cases hchars : text.toList.dropWhile Document.Cursor.isGap with
    | nil =>
      rw [hchars] at hrest
      cases hrest
    | cons c more =>
      refine ⟨c, more, rfl, ?_⟩
      by_cases hc : Text.isSpace c
      · exact Document.opensValue_of_isSpace hc
      · rw [hchars, List.dropWhile_cons_of_neg hc] at hrest
        rw [← (List.cons.inj hrest).1]
        decide
  obtain ⟨c, more, hchars, hc⟩ := hother
  obtain ⟨flaw, hflaw⟩ := Document.ofText_of_other hchars hc
  unfold Json.ofText? at h
  cases hread : Document.ofText text with
  | mk d trailing =>
    rw [hread] at h hflaw
    simp only [hflaw] at h
    cases h

/-! ## Replies -/

/-- The service gives this text, and says what it took. -/
def Reply.Tells (reply : Reply) (text : String) (usage : Usage) : Prop :=
  ∃ status body texts, reply = .answered status body ∧ Status.isFinal status ∧
    Status.isSuccess status ∧
    Reader.ofText readContent (if Status.hasBody status then body else "") = .ok (texts, usage) ∧
    texts.findSome? id = some text

/-- Of a reply that tells a text, only the text without its fence is read. -/
theorem Reply.read_of_tells {reply : Reply} {text : String} {usage : Usage}
    (h : reply.Tells text usage) (address : String) (r : Reader α) :
    Reply.read address r reply = (do
      let value ← (Reader.ofText r (withoutFence text)).mapError fun e =>
        .unreadable ("Failed to parse JSON: " ++ e.message)
      return (value, usage)) := by
  obtain ⟨status, body, texts, rfl, hfinal, hsuccess, hcontent, htext⟩ := h
  unfold Reply.read
  simp only [hfinal, hsuccess, Bool.not_true, Bool.false_eq_true, if_false]
  simp only [hcontent, htext, Except.mapError, bind, Except.bind]

/-- What the reader makes of the text without its fence is the answer. -/
theorem Assistant.ask_of_tells {a : Assistant} {send : Message → Reply} {m : Message} {text : String}
    {usage : Usage} {prompt : String} {system : Option String} (hm : a.message prompt system = .ok m)
    (h : (send m).Tells text usage) {r : Reader α} {value : α}
    (hvalue : Reader.ofText r (withoutFence text) = .ok value) :
    a.ask send r prompt system = .ok (value, usage) := by
  have hread : Reply.read a.address r (send m) = .ok (value, usage) := by
    rw [Reply.read_of_tells h, hvalue]
    rfl
  unfold ask
  rw [hm]
  exact hread

/-- A fence is not seen in what it holds.  The text in a fence is left of it, trimmed, whatever
fences it has inside; any other text is only trimmed, and so is every JSON text.  An assistant that
is given JSON in a fence therefore answers as it does without, for whatever value is asked: if the
reader makes a value of the trimmed text, with this value. -/
theorem fence_transparent :
    (∀ body text, Fenced body text → withoutFence text = Text.trim body) ∧
    (∀ text, ¬fence <+: (Text.trim text).toList → withoutFence text = Text.trim text) ∧
    (∀ text j, Json.ofText? text = .ok j → withoutFence text = Text.trim text) ∧
    ∀ body text j, Json.ofText? body = .ok j → Fenced body text →
      ∀ (α : Type) (r : Reader α) (a : Assistant) (send send' : Message → Reply)
        (usage : Message → Usage),
        (∀ m, (send m).Tells text (usage m) ∧ (send' m).Tells body (usage m)) →
        ∀ prompt system, a.ask send r prompt system = a.ask send' r prompt system ∧
          ∀ m value, a.message prompt system = .ok m →
            Reader.ofText r (Text.trim body) = .ok value →
            a.ask send r prompt system = .ok (value, usage m) ∧
              a.ask send' r prompt system = .ok (value, usage m) := by
  refine ⟨fun _ _ => withoutFence_of_fenced, fun _ => withoutFence_of_plain,
    fun text j h => withoutFence_of_plain (no_fence_of_json h), ?_⟩
  intro body text j hjson hfenced α r a send send' usage htells prompt system
  have htext : withoutFence text = Text.trim body := withoutFence_of_fenced hfenced
  have hbody : withoutFence body = Text.trim body := withoutFence_of_plain (no_fence_of_json hjson)
  refine ⟨?_, fun m value hm hvalue => ⟨?_, ?_⟩⟩
  · unfold Assistant.ask
    cases a.message prompt system with
    | error e => rfl
    | ok m =>
      show Reply.read a.address r (send m) = Reply.read a.address r (send' m)
      rw [Reply.read_of_tells (htells m).1, Reply.read_of_tells (htells m).2, htext, hbody]
  · exact Assistant.ask_of_tells hm (htells m).1 (htext ▸ hvalue)
  · exact Assistant.ask_of_tells hm (htells m).2 (hbody ▸ hvalue)

section Quoting

/-- A reply with one block. -/
def telling (text : String) : Reply :=
  .answered 200 (Json.compact (.ofMembers
    [("content", .array [.ofMembers [("text", .string text)]]), ("usage", Usage.toJson ⟨20, 7⟩)]))

def quotedFence : String := "[\"```\"]"

/-- The body has a fence of its own, and a remark follows. -/
def fencedQuote : String := "\u3000```json\n[\"```\"]\n```\nThat `is` all.\n"

/-- An assistant with a key that can be sent. -/
def keyed : Assistant where
  key := some "key"
  model := Assistant.defaultModel

theorem fence_transparent_quotedFence :
    Json.ofText? quotedFence = .ok (.array [.string "```"]) ∧ Fenced quotedFence fencedQuote ∧
    withoutFence fencedQuote = quotedFence ∧ withoutFence quotedFence = quotedFence ∧
    keyed.ask (fun _ => telling fencedQuote) Reader.json "Go on." none =
      .ok (.array [.string "```"], ⟨20, 7⟩) ∧
    keyed.ask (fun _ => telling quotedFence) Reader.json "Go on." none =
      .ok (.array [.string "```"], ⟨20, 7⟩) := by
  obtain ⟨hinside, -, hjson, hask⟩ := fence_transparent
  have hread : Json.ofText? quotedFence = .ok (.array [.string "```"]) := by decide +kernel
  have hfenced : Fenced quotedFence fencedQuote :=
    ⟨"\u3000", "json", "\nThat `is` all.\n", "", by decide, by decide, by decide, by decide,
      Or.inr rfl, by decide⟩
  have htrim : Text.trim quotedFence = quotedFence := by decide
  have htells (text : String) (h : text = fencedQuote ∨ text = quotedFence) :
      (telling text).Tells text ⟨20, 7⟩ := by
    refine ⟨200, _, [some text], rfl, rfl, rfl, ?_, rfl⟩
    rcases h with rfl | rfl <;> decide +kernel
  have hvalue : Reader.ofText Reader.json (Text.trim quotedFence) =
      .ok (.array [.string "```"]) := by
    rw [htrim]
    decide +kernel
  obtain ⟨m, hm⟩ : ∃ m, keyed.message "Go on." none = .ok m := ⟨_, rfl⟩
  refine ⟨hread, hfenced, (hinside _ _ hfenced).trans htrim, (hjson _ _ hread).trans htrim, ?_⟩
  exact (hask _ _ _ hread hfenced Json Reader.json keyed _ _ (fun _ => ⟨20, 7⟩)
    (fun _ => ⟨htells _ (Or.inl rfl), htells _ (Or.inr rfl)⟩) "Go on." none).2 m _ hm hvalue

end Quoting

end AgentSpec

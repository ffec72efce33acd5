import AgentSpec.Program.Basic
import Mathlib.Data.List.Forall2

/-!
Traces: what programs do when nothing is known of those who answer.

A trace lists what was asked, answered and told, in the order in which it happened.  Any reply is
possible, and a trace may stop at any moment, also while replies are awaited.  Strands that run
together leave an interleaving of their own traces.
-/
namespace AgentSpec

inductive Event
  /-- A call to the store was issued. -/
  | called (c : StoreCall)
  /-- The reply to a call came back. -/
  | replied (c : StoreCall) (r : c.Reply)
  | designed (r : SynthesisRequest) (a : Except AssistantError Json)
  | coded (r : CodeRequest) (a : Except AssistantError GeneratedCode)
  | told (m : Milestone)

/-- How a trace ends: with a result, with an error, or before either. -/
inductive End (α : Type)
  | value (a : α)
  | error (e : CompileError)
  | cut

namespace Strand

inductive Trace : Strand α → List Event → End α → Prop
  | cut (s : Strand α) : Trace s [] .cut
  | done (a : α) : Trace (.done a) [] (.value a)
  | failed (e : CompileError) : Trace (.failed e) [] (.error e)
  | unanswered (c : StoreCall) (k : c.Reply → Strand α) : Trace (.store c k) [.called c] .cut
  | store {c : StoreCall} {k : c.Reply → Strand α} (r : c.Reply) {es o} :
    Trace (k r) es o → Trace (.store c k) (.called c :: .replied c r :: es) o
  | code {r : CodeRequest} {k : _ → Strand α} (a : Except AssistantError GeneratedCode) {es o} :
    Trace (k a) es o → Trace (.code r k) (.coded r a :: es) o

end Strand

/-- One list made of others by taking, again and again, the first member of one of them. -/
inductive Interleaved : List (List ε) → List ε → Prop
  | nil {ls : List (List ε)} : (∀ l ∈ ls, l = []) → Interleaved ls []
  | cons {before after : List (List ε)} {l : List ε} {x : ε} {xs : List ε} :
    Interleaved (before ++ l :: after) xs → Interleaved (before ++ (x :: l) :: after) (x :: xs)

/-- How strands that run together end: with all results, with the error of one of them, or before
that. -/
inductive Joined : List (End β) → End (List β) → Prop
  | values (bs : List β) : Joined (bs.map .value) (.value bs)
  | error {ends : List (End β)} {e : CompileError} : .error e ∈ ends → Joined ends (.error e)
  | cut (ends : List (End β)) : Joined ends .cut

/-- The interleavings that a way of taking turns allows. -/
structure Weave where
  Allows : List (List Event) → List Event → Prop
  allows_nil {ls} : (∀ l ∈ ls, l = []) → Allows ls []
  interleaved {ls es} : Allows ls es → Interleaved ls es

/-- Turns are taken in any order. -/
def Weave.any : Weave := ⟨Interleaved, .nil, id⟩

/-- What strands that run together do. -/
structure Together (w : Weave) (strands : List (Strand β)) (es : List Event)
    (o : End (List β)) : Prop where
  parts : ∃ ps : List (List Event × End β),
    List.Forall₂ (fun s p => s.Trace p.1 p.2) strands ps ∧
      w.Allows (ps.map (·.1)) es ∧ Joined (ps.map (·.2)) o

namespace Program

inductive Trace (w : Weave) : Program α → List Event → End α → Prop
  | cut (p : Program α) : Trace w p [] .cut
  | done (a : α) : Trace w (.done a) [] (.value a)
  | failed (e : CompileError) : Trace w (.failed e) [] (.error e)
  | unanswered (c : StoreCall) (k : c.Reply → Program α) : Trace w (.store c k) [.called c] .cut
  | store {c : StoreCall} {k : c.Reply → Program α} (r : c.Reply) {es o} :
    Trace w (k r) es o → Trace w (.store c k) (.called c :: .replied c r :: es) o
  | design {r : SynthesisRequest} {k : _ → Program α} (a : Except AssistantError Json) {es o} :
    Trace w (k a) es o → Trace w (.design r k) (.designed r a :: es) o
  | announce {m : Milestone} {k : Program α} {es o} :
    Trace w k es o → Trace w (.announce m k) (.told m :: es) o
  | together {β : Type} {strands : List (Strand β)} {k : List β → Program α} {es es' : List Event}
    {bs : List β} {o} :
    Together w strands es (.value bs) → Trace w (k bs) es' o →
      Trace w (.together strands k) (es ++ es') o
  | togetherFailed {β : Type} {strands : List (Strand β)} {k : List β → Program α}
    {es : List Event} {e : CompileError} :
    Together w strands es (.error e) → Trace w (.together strands k) es (.error e)
  | togetherCut {β : Type} {strands : List (Strand β)} {k : List β → Program α} {es : List Event} :
    Together w strands es .cut → Trace w (.together strands k) es .cut

end Program

/-! ## One thing after the other

A trace of `x >>= f` is a trace of `x` that has no result, or one with a result and behind it a
trace of what follows. -/

namespace Strand

theorem trace_done {a : α} {es : List Event} {o : End α} :
    (Strand.done a).Trace es o ↔ es = [] ∧ (o = .value a ∨ o = .cut) := by
  constructor
  · intro h
    cases h with
    | cut => exact ⟨rfl, Or.inr rfl⟩
    | done => exact ⟨rfl, Or.inl rfl⟩
  · rintro ⟨rfl, rfl | rfl⟩
    · exact .done a
    · exact .cut _

theorem trace_pure {a : α} {es : List Event} {o : End α} :
    (pure a : Strand α).Trace es o ↔ es = [] ∧ (o = .value a ∨ o = .cut) := trace_done

theorem trace_failed {e : CompileError} {es : List Event} {o : End α} :
    (Strand.failed e : Strand α).Trace es o ↔ es = [] ∧ (o = .error e ∨ o = .cut) := by
  constructor
  · intro h
    cases h with
    | cut => exact ⟨rfl, Or.inr rfl⟩
    | failed => exact ⟨rfl, Or.inl rfl⟩
  · rintro ⟨rfl, rfl | rfl⟩
    · exact .failed e
    · exact .cut _

theorem trace_bind {s : Strand α} {f : α → Strand β} {es : List Event} {o : End β}
    (h : (s >>= f).Trace es o) :
    (∃ a es₁ es₂, s.Trace es₁ (.value a) ∧ (f a).Trace es₂ o ∧ es = es₁ ++ es₂) ∨
      (∃ e, s.Trace es (.error e) ∧ o = .error e) ∨ (s.Trace es .cut ∧ o = .cut) := by
  change (s.bind f).Trace es o at h
  induction s generalizing es with
  | done a => exact Or.inl ⟨a, [], es, .done a, h, rfl⟩
  | failed e =>
    obtain ⟨rfl, rfl | rfl⟩ := trace_failed.mp h
    · exact Or.inr (Or.inl ⟨e, .failed e, rfl⟩)
    · exact Or.inr (Or.inr ⟨.cut _, rfl⟩)
  | store c k ih =>
    cases h with
    | cut => exact Or.inr (Or.inr ⟨.cut _, rfl⟩)
    | unanswered => exact Or.inr (Or.inr ⟨.unanswered c k, rfl⟩)
    | store r h =>
      rcases ih r h with ⟨a, es₁, es₂, h₁, h₂, rfl⟩ | ⟨e, h₁, ho⟩ | ⟨h₁, ho⟩
      · exact Or.inl ⟨a, _, es₂, .store r h₁, h₂, rfl⟩
      · exact Or.inr (Or.inl ⟨e, .store r h₁, ho⟩)
      · exact Or.inr (Or.inr ⟨.store r h₁, ho⟩)
  | code r k ih =>
    cases h with
    | cut => exact Or.inr (Or.inr ⟨.cut _, rfl⟩)
    | code a h =>
      rcases ih a h with ⟨b, es₁, es₂, h₁, h₂, rfl⟩ | ⟨e, h₁, ho⟩ | ⟨h₁, ho⟩
      · exact Or.inl ⟨b, _, es₂, .code a h₁, h₂, rfl⟩
      · exact Or.inr (Or.inl ⟨e, .code a h₁, ho⟩)
      · exact Or.inr (Or.inr ⟨.code a h₁, ho⟩)

theorem trace_bind_value {s : Strand α} {f : α → Strand β} {es : List Event} {b : β}
    (h : (s >>= f).Trace es (.value b)) :
    ∃ a es₁ es₂, s.Trace es₁ (.value a) ∧ (f a).Trace es₂ (.value b) ∧ es = es₁ ++ es₂ := by
  rcases trace_bind h with h | ⟨e, -, ho⟩ | ⟨-, ho⟩
  · exact h
  · cases ho
  · cases ho

/-- The events of one thing after the other, whatever the end. -/
theorem trace_bind_events {s : Strand α} {f : α → Strand β} {es : List Event} {o : End β}
    (h : (s >>= f).Trace es o) :
    (∃ a es₁ es₂, s.Trace es₁ (.value a) ∧ (f a).Trace es₂ o ∧ es = es₁ ++ es₂) ∨
      ∃ o', s.Trace es o' := by
  rcases trace_bind h with h | ⟨e, h, -⟩ | ⟨h, -⟩
  · exact Or.inl h
  · exact Or.inr ⟨_, h⟩
  · exact Or.inr ⟨_, h⟩

theorem trace_bind_pure_events {s : Strand α} {f : α → β} {es : List Event} {o : End β}
    (h : (s >>= fun a => pure (f a)).Trace es o) : ∃ o', s.Trace es o' := by
  rcases trace_bind_events h with ⟨a, es₁, es₂, h₁, h₂, rfl⟩ | h
  · obtain ⟨rfl, -⟩ := trace_pure.mp h₂
    rw [List.append_nil]
    exact ⟨_, h₁⟩
  · exact h

/-- A trace of a call that must succeed: not issued, awaited, answered, or failed. -/
theorem trace_ask {phase : Phase} {c : StoreCall} {es : List Event} {o : End c.Value}
    (h : (ask phase c).Trace es o) :
    (es = [] ∧ o = .cut) ∨ (es = [.called c] ∧ o = .cut) ∨
      (∃ v, es = [.called c, .replied c (.ok v)] ∧ (o = .value v ∨ o = .cut)) ∨
      ∃ e, es = [.called c, .replied c (.error e)] ∧
        (o = .error (.persistence phase e) ∨ o = .cut) := by
  cases h with
  | cut => exact Or.inl ⟨rfl, rfl⟩
  | unanswered => exact Or.inr (Or.inl ⟨rfl, rfl⟩)
  | store r h =>
    cases r with
    | ok v =>
      obtain ⟨rfl, ho⟩ := trace_done.mp h
      exact Or.inr (Or.inr (Or.inl ⟨v, rfl, ho⟩))
    | error e =>
      obtain ⟨rfl, ho⟩ := trace_failed.mp h
      exact Or.inr (Or.inr (Or.inr ⟨e, rfl, ho⟩))

theorem trace_ask_value {phase : Phase} {c : StoreCall} {es : List Event} {v : c.Value}
    (h : (ask phase c).Trace es (.value v)) : es = [.called c, .replied c (.ok v)] := by
  rcases trace_ask h with ⟨-, ho⟩ | ⟨-, ho⟩ | ⟨w, he, ho | ho⟩ | ⟨e, -, ho | ho⟩
  · cases ho
  · cases ho
  · cases ho
    exact he
  · cases ho
  · cases ho
  · cases ho

end Strand

namespace Program

variable {w : Weave}

theorem trace_done {a : α} {es : List Event} {o : End α} :
    (Program.done a).Trace w es o ↔ es = [] ∧ (o = .value a ∨ o = .cut) := by
  constructor
  · intro h
    cases h with
    | cut => exact ⟨rfl, Or.inr rfl⟩
    | done => exact ⟨rfl, Or.inl rfl⟩
  · rintro ⟨rfl, rfl | rfl⟩
    · exact .done a
    · exact .cut _

theorem trace_pure {a : α} {es : List Event} {o : End α} :
    (pure a : Program α).Trace w es o ↔ es = [] ∧ (o = .value a ∨ o = .cut) := trace_done

theorem trace_failed {e : CompileError} {es : List Event} {o : End α} :
    (Program.failed e : Program α).Trace w es o ↔ es = [] ∧ (o = .error e ∨ o = .cut) := by
  constructor
  · intro h
    cases h with
    | cut => exact ⟨rfl, Or.inr rfl⟩
    | failed => exact ⟨rfl, Or.inl rfl⟩
  · rintro ⟨rfl, rfl | rfl⟩
    · exact .failed e
    · exact .cut _

theorem trace_bind {p : Program α} {f : α → Program β} {es : List Event} {o : End β}
    (h : (p >>= f).Trace w es o) :
    (∃ a es₁ es₂, p.Trace w es₁ (.value a) ∧ (f a).Trace w es₂ o ∧ es = es₁ ++ es₂) ∨
      (∃ e, p.Trace w es (.error e) ∧ o = .error e) ∨ (p.Trace w es .cut ∧ o = .cut) := by
  change (p.bind f).Trace w es o at h
  induction p generalizing es with
  | done a => exact Or.inl ⟨a, [], es, .done a, h, rfl⟩
  | failed e =>
    obtain ⟨rfl, rfl | rfl⟩ := trace_failed.mp h
    · exact Or.inr (Or.inl ⟨e, .failed e, rfl⟩)
    · exact Or.inr (Or.inr ⟨.cut _, rfl⟩)
  | store c k ih =>
    cases h with
    | cut => exact Or.inr (Or.inr ⟨.cut _, rfl⟩)
    | unanswered => exact Or.inr (Or.inr ⟨.unanswered c k, rfl⟩)
    | store r h =>
      rcases ih r h with ⟨a, es₁, es₂, h₁, h₂, rfl⟩ | ⟨e, h₁, ho⟩ | ⟨h₁, ho⟩
      · exact Or.inl ⟨a, _, es₂, .store r h₁, h₂, rfl⟩
      · exact Or.inr (Or.inl ⟨e, .store r h₁, ho⟩)
      · exact Or.inr (Or.inr ⟨.store r h₁, ho⟩)
  | design r k ih =>
    cases h with
    | cut => exact Or.inr (Or.inr ⟨.cut _, rfl⟩)
    | design a h =>
      rcases ih a h with ⟨b, es₁, es₂, h₁, h₂, rfl⟩ | ⟨e, h₁, ho⟩ | ⟨h₁, ho⟩
      · exact Or.inl ⟨b, _, es₂, .design a h₁, h₂, rfl⟩
      · exact Or.inr (Or.inl ⟨e, .design a h₁, ho⟩)
      · exact Or.inr (Or.inr ⟨.design a h₁, ho⟩)
  | announce m k ih =>
    cases h with
    | cut => exact Or.inr (Or.inr ⟨.cut _, rfl⟩)
    | announce h =>
      rcases ih h with ⟨b, es₁, es₂, h₁, h₂, rfl⟩ | ⟨e, h₁, ho⟩ | ⟨h₁, ho⟩
      · exact Or.inl ⟨b, _, es₂, .announce h₁, h₂, rfl⟩
      · exact Or.inr (Or.inl ⟨e, .announce h₁, ho⟩)
      · exact Or.inr (Or.inr ⟨.announce h₁, ho⟩)
  | together strands k ih =>
    cases h with
    | cut => exact Or.inr (Or.inr ⟨.cut _, rfl⟩)
    | @together _ _ _ es es' bs _ ht h =>
      rcases ih bs h with ⟨b, es₁, es₂, h₁, h₂, rfl⟩ | ⟨e, h₁, ho⟩ | ⟨h₁, ho⟩
      · exact Or.inl ⟨b, es ++ es₁, es₂, .together ht h₁, h₂, (List.append_assoc ..).symm⟩
      · exact Or.inr (Or.inl ⟨e, .together ht h₁, ho⟩)
      · exact Or.inr (Or.inr ⟨.together ht h₁, ho⟩)
    | togetherFailed ht => exact Or.inr (Or.inl ⟨_, .togetherFailed ht, rfl⟩)
    | togetherCut ht => exact Or.inr (Or.inr ⟨.togetherCut ht, rfl⟩)

/-- A trace with a result, and behind it one of what follows. -/
theorem Trace.bind {p : Program α} {f : α → Program β} {es es' : List Event} {a : α} {o : End β}
    (h : p.Trace w es (.value a)) (hf : (f a).Trace w es' o) : (p >>= f).Trace w (es ++ es') o := by
  change (p.bind f).Trace w (es ++ es') o
  generalize hend : End.value a = ended at h
  induction h with
  | cut => cases hend
  | done b =>
    cases hend
    exact hf
  | failed e => cases hend
  | unanswered c k => cases hend
  | store r h ih => exact .store r (ih hend)
  | design a h ih => exact .design a (ih hend)
  | announce h ih => exact .announce (ih hend)
  | together ht h ih =>
    rw [List.append_assoc]
    exact .together ht (ih hend)
  | togetherFailed ht => cases hend
  | togetherCut ht => cases hend

theorem trace_bind_value {p : Program α} {f : α → Program β} {es : List Event} {b : β}
    (h : (p >>= f).Trace w es (.value b)) :
    ∃ a es₁ es₂, p.Trace w es₁ (.value a) ∧ (f a).Trace w es₂ (.value b) ∧ es = es₁ ++ es₂ := by
  rcases trace_bind h with h | ⟨e, -, ho⟩ | ⟨-, ho⟩
  · exact h
  · cases ho
  · cases ho

theorem trace_bind_error {p : Program α} {f : α → Program β} {es : List Event} {e : CompileError}
    (h : (p >>= f).Trace w es (.error e)) :
    (∃ a es₁ es₂, p.Trace w es₁ (.value a) ∧ (f a).Trace w es₂ (.error e) ∧ es = es₁ ++ es₂) ∨
      p.Trace w es (.error e) := by
  rcases trace_bind h with h | ⟨e', h, ho⟩ | ⟨-, ho⟩
  · exact Or.inl h
  · cases ho
    exact Or.inr h
  · cases ho

/-- The events of one thing after the other, whatever the end. -/
theorem trace_bind_events {p : Program α} {f : α → Program β} {es : List Event} {o : End β}
    (h : (p >>= f).Trace w es o) :
    (∃ a es₁ es₂, p.Trace w es₁ (.value a) ∧ (f a).Trace w es₂ o ∧ es = es₁ ++ es₂) ∨
      ∃ o', p.Trace w es o' := by
  rcases trace_bind h with h | ⟨e, h, -⟩ | ⟨h, -⟩
  · exact Or.inl h
  · exact Or.inr ⟨_, h⟩
  · exact Or.inr ⟨_, h⟩

theorem trace_bind_pure_events {p : Program α} {f : α → β} {es : List Event} {o : End β}
    (h : (p >>= fun a => pure (f a)).Trace w es o) : ∃ o', p.Trace w es o' := by
  rcases trace_bind_events h with ⟨a, es₁, es₂, h₁, h₂, rfl⟩ | h
  · obtain ⟨rfl, -⟩ := trace_pure.mp h₂
    rw [List.append_nil]
    exact ⟨_, h₁⟩
  · exact h

theorem trace_ask {phase : Phase} {c : StoreCall} {es : List Event} {o : End c.Value}
    (h : (ask phase c).Trace w es o) :
    (es = [] ∧ o = .cut) ∨ (es = [.called c] ∧ o = .cut) ∨
      (∃ v, es = [.called c, .replied c (.ok v)] ∧ (o = .value v ∨ o = .cut)) ∨
      ∃ e, es = [.called c, .replied c (.error e)] ∧
        (o = .error (.persistence phase e) ∨ o = .cut) := by
  cases h with
  | cut => exact Or.inl ⟨rfl, rfl⟩
  | unanswered => exact Or.inr (Or.inl ⟨rfl, rfl⟩)
  | store r h =>
    cases r with
    | ok v =>
      obtain ⟨rfl, ho⟩ := trace_done.mp h
      exact Or.inr (Or.inr (Or.inl ⟨v, rfl, ho⟩))
    | error e =>
      obtain ⟨rfl, ho⟩ := trace_failed.mp h
      exact Or.inr (Or.inr (Or.inr ⟨e, rfl, ho⟩))

theorem trace_ask_value {phase : Phase} {c : StoreCall} {es : List Event} {v : c.Value}
    (h : (ask phase c).Trace w es (.value v)) : es = [.called c, .replied c (.ok v)] := by
  rcases trace_ask h with ⟨-, ho⟩ | ⟨-, ho⟩ | ⟨w, he, ho | ho⟩ | ⟨e, -, ho | ho⟩
  · cases ho
  · cases ho
  · cases ho
    exact he
  · cases ho
  · cases ho
  · cases ho

theorem trace_ofExcept {r : Except CompileError α} {es : List Event} {o : End α}
    (h : (ofExcept r).Trace w es o) :
    es = [] ∧ ((∃ a, r = .ok a ∧ o = .value a) ∨ (∃ e, r = .error e ∧ o = .error e) ∨ o = .cut) := by
  cases r with
  | ok a =>
    obtain ⟨rfl, rfl | rfl⟩ := trace_done.mp h
    · exact ⟨rfl, Or.inl ⟨a, rfl, rfl⟩⟩
    · exact ⟨rfl, Or.inr (Or.inr rfl)⟩
  | error e =>
    obtain ⟨rfl, rfl | rfl⟩ := trace_failed.mp h
    · exact ⟨rfl, Or.inr (Or.inl ⟨e, rfl, rfl⟩)⟩
    · exact ⟨rfl, Or.inr (Or.inr rfl)⟩

theorem trace_design {r : SynthesisRequest} {k : Except AssistantError Json → Program α}
    {es : List Event} {o : End α} (h : (design r k).Trace w es o) :
    (es = [] ∧ o = .cut) ∨ ∃ a es', es = .designed r a :: es' ∧ (k a).Trace w es' o := by
  cases h with
  | cut => exact Or.inl ⟨rfl, rfl⟩
  | design a h => exact Or.inr ⟨a, _, rfl, h⟩

theorem trace_tell {m : Milestone} {es : List Event} {o : End Unit}
    (h : (tell m).Trace w es o) :
    (es = [] ∧ o = .cut) ∨ (es = [.told m] ∧ (o = .value () ∨ o = .cut)) := by
  cases h with
  | cut => exact Or.inl ⟨rfl, rfl⟩
  | announce h =>
    obtain ⟨rfl, ho⟩ := trace_done.mp h
    exact Or.inr ⟨rfl, ho⟩

theorem trace_all {strands : List (Strand β)} {es : List Event} {o : End (List β)}
    (h : (all strands).Trace w es o) : Together w strands es o := by
  cases h with
  | cut =>
    refine ⟨strands.map fun _ => ([], .cut), ?_, w.allows_nil ?_, .cut _⟩
    · induction strands with
      | nil => exact .nil
      | cons s rest ih => exact .cons (.cut s) ih
    · intro l hl
      simp only [List.map_map, List.mem_map] at hl
      obtain ⟨_, -, rfl⟩ := hl
      rfl
  | together ht h =>
    obtain ⟨rfl, rfl | rfl⟩ := trace_done.mp h
    · rw [List.append_nil]
      exact ht
    · obtain ⟨ps, hp, hi, -⟩ := ht.parts
      rw [List.append_nil]
      exact ⟨ps, hp, hi, .cut _⟩
  | togetherFailed ht => exact ht
  | togetherCut ht => exact ht

end Program
end AgentSpec

import AgentSpec.Proofs.Trace.Basic
import Mathlib.Data.List.Basic

/-!
A value that several runs load and change.

In the history of a register every load shows the value that is stored, and every change stores
another one (`Register`).  Of two runs that each load the value and then change it, one changes it
last: it has loaded what the other changed it to, or it overwrites that (`Register.last_change`).
-/
namespace AgentSpec

/-- How a run uses the value of a register. -/
inductive Access
  | loads
  | changes
deriving DecidableEq

section Basic

variable {ι α : Type}

/-- Loads and changes, each with its run and the value that it shows or stores; in front of them and
behind them the value of the register, if there is one. -/
inductive Register : Option α → List (ι × Access × α) → Option α → Prop
  | nil (v : Option α) : Register v [] v
  | loads {k : ι} {a : α} {as v} :
    Register (some a) as v → Register (some a) ((k, .loads, a) :: as) v
  | changes {k : ι} {a : α} {as v₀ v} :
    Register (some a) as v → Register v₀ ((k, .changes, a) :: as) v

namespace Register

variable {v v' : Option α} {as bs : List (ι × Access × α)} {k : ι} {a : α}

theorem append (h : Register v (as ++ bs) v') : ∃ mid, Register v as mid ∧ Register mid bs v' := by
  induction as generalizing v with
  | nil => exact ⟨v, .nil v, h⟩
  | cons x as ih =>
    cases h with
    | loads h =>
      obtain ⟨mid, h₁, h₂⟩ := ih h
      exact ⟨mid, .loads h₁, h₂⟩
    | changes h =>
      obtain ⟨mid, h₁, h₂⟩ := ih h
      exact ⟨mid, .changes h₁, h₂⟩

/-- Loads leave the value. -/
theorem eq_of_loads (h : Register v as v') (has : ∀ x ∈ as, x.2.1 = .loads) : v' = v := by
  induction h with
  | nil v => rfl
  | loads h ih => exact ih fun x hx => has x (List.mem_cons_of_mem _ hx)
  | changes h ih => cases has _ List.mem_cons_self

theorem load (h : Register v ((k, .loads, a) :: as) v') : v = some a ∧ Register (some a) as v' := by
  cases h with
  | loads h => exact ⟨rfl, h⟩

theorem change (h : Register v ((k, .changes, a) :: as) v') : Register (some a) as v' := by
  cases h with
  | changes h => exact h

end Register

/-- The last member of a list with a property. -/
theorem exists_last {xs : List α} {P : α → Prop} [DecidablePred P] (h : ∃ x ∈ xs, P x) :
    ∃ pre x post, xs = pre ++ x :: post ∧ P x ∧ ∀ y ∈ post, ¬P y := by
  induction xs with
  | nil =>
    obtain ⟨x, hx, -⟩ := h
    cases hx
  | cons z xs ih =>
    by_cases hlater : ∃ x ∈ xs, P x
    · obtain ⟨pre, x, post, rfl, hx, hpost⟩ := ih hlater
      exact ⟨z :: pre, x, post, rfl, hx, hpost⟩
    · obtain ⟨x, hx, hP⟩ := h
      rcases List.mem_cons.mp hx with rfl | hx
      · exact ⟨[], x, xs, rfl, hP, fun y hy hPy => hlater ⟨y, hy, hPy⟩⟩
      · exact absurd ⟨x, hx, hP⟩ hlater

theorem sublist_of_two (a b : α) (xs ys zs : List α) :
    [a, b].Sublist (xs ++ a :: (ys ++ b :: zs)) := by
  have hb : [b].Sublist (ys ++ b :: zs) :=
    ((List.nil_sublist zs).cons_cons b).trans (List.sublist_append_right ys _)
  exact (hb.cons_cons a).trans (List.sublist_append_right xs _)

/-- A list is not taken from a part that lacks its head. -/
theorem sublist_of_notMem {a : α} {as xs ys : List α} (h : (a :: as).Sublist (xs ++ ys))
    (ha : a ∉ xs) : (a :: as).Sublist ys := by
  induction xs with
  | nil => exact h
  | cons x xs ih =>
    obtain ⟨hne, hxs⟩ := not_or.mp (fun hmem => ha (List.mem_cons.mpr hmem))
    exact ih (List.Sublist.of_cons_of_ne hne h) hxs

/-- Loads stand behind the one change of a run, and in front of it one load. -/
theorem split_at_change {front back more : List (ι × Access × α)} {k : ι} {old new a : α}
    (hmore : ∀ x ∈ more, x.2.1 = .loads)
    (h : front ++ (k, .changes, a) :: back = (k, .loads, old) :: (k, .changes, new) :: more) :
    a = new ∧ front = [(k, .loads, old)] ∧ back = more := by
  match front with
  | [] => cases h
  | [x] =>
    rw [List.cons_append, List.nil_append] at h
    obtain ⟨hx, h⟩ := List.cons.inj h
    obtain ⟨hchange, hback⟩ := List.cons.inj h
    cases hchange
    exact ⟨rfl, congrArg (· :: []) hx, hback⟩
  | x :: y :: rest =>
    rw [List.cons_append, List.cons_append] at h
    obtain ⟨-, h⟩ := List.cons.inj h
    obtain ⟨-, hrest⟩ := List.cons.inj h
    cases hmore (k, .changes, a) (hrest ▸ List.mem_append_right rest List.mem_cons_self)

end Basic

/-! ## Two runs -/

/-- One of two runs. -/
inductive Side
  | left
  | right
deriving DecidableEq

namespace Side

def opposite : Side → Side
  | left => right
  | right => left

theorem opposite_ne (k : Side) : k.opposite ≠ k := by cases k <;> decide

theorem eq_opposite_of_ne {j k : Side} (h : j ≠ k) : j = k.opposite := by
  cases j <;> cases k
  case left.left => exact absurd rfl h
  case right.right => exact absurd rfl h
  case left.right => rfl
  case right.left => rfl

end Side

section Edits

variable {ι α : Type} [DecidableEq ι] {as pre post : List (ι × Access × α)} {k : ι} {old new a : α}

/-- A run loads one value, changes it to another one and then only loads. -/
def Edits (k : ι) (old new : α) (as : List (ι × Access × α)) : Prop :=
  ∃ more, as.filter (·.1 = k) = (k, .loads, old) :: (k, .changes, new) :: more ∧
    ∀ x ∈ more, x.2.1 = .loads

theorem Edits.mem_change (h : Edits k old new as) : (k, .changes, new) ∈ as := by
  obtain ⟨more, heq, -⟩ := h
  have hmem : (k, .changes, new) ∈ as.filter (·.1 = k) := by rw [heq]; simp
  exact (List.mem_filter.mp hmem).1

/-- The change of a run has its load in front of it, and no other change behind it. -/
theorem Edits.at_change (h : Edits k old new as) (has : as = pre ++ (k, .changes, a) :: post) :
    a = new ∧ pre.filter (·.1 = k) = [(k, .loads, old)] ∧
      ∀ x ∈ post, x.1 = k → x.2.1 = .loads := by
  obtain ⟨more, heq, hmore⟩ := h
  have hself : ((k, .changes, a) :: post).filter (·.1 = k) =
      (k, .changes, a) :: post.filter (·.1 = k) := List.filter_cons_of_pos (decide_eq_true rfl)
  rw [has, List.filter_append, hself] at heq
  obtain ⟨hnew, hpre, hpost⟩ := split_at_change hmore heq
  refine ⟨hnew, hpre, fun x hx hk => hmore x ?_⟩
  rw [← hpost]
  exact List.mem_filter.mpr ⟨hx, decide_eq_true hk⟩

end Edits

/-- The runs of loads and changes, in their order. -/
def turns {ι α : Type} (as : List (ι × Access × α)) : List (ι × Access) :=
  as.map fun x => (x.1, x.2.1)

section Order

variable {α : Type} {as : List (Side × Access × α)} {k : Side}

/-- The run changes the value after the other has changed it. -/
def Last (k : Side) (as : List (Side × Access × α)) : Prop :=
  [(k.opposite, .changes), (k, .changes)].Sublist (turns as)

/-- The run loads the value after the other has changed it, and before it changes it itself. -/
def Sees (k : Side) (as : List (Side × Access × α)) : Prop :=
  [(k.opposite, .changes), (k, .loads), (k, .changes)].Sublist (turns as)

theorem turns_append (as bs : List (Side × Access × α)) : turns (as ++ bs) = turns as ++ turns bs :=
  List.map_append

theorem turns_cons (x : Side × Access × α) (as : List (Side × Access × α)) :
    turns (x :: as) = (x.1, x.2.1) :: turns as := rfl

theorem mem_turns {a : Access} : (k, a) ∈ turns as ↔ ∃ x ∈ as, x.1 = k ∧ x.2.1 = a := by
  rw [turns, List.mem_map]
  simp only [Prod.mk.injEq]

end Order

/-! ## The last change -/

/-- Loads and changes of two runs around the load and the change of one of them, with no change
behind. -/
structure Ending (k : Side) (old new : Side → α) (as p q post : List (Side × Access × α)) :
    Prop where
  eq : as = p ++ (k, .loads, old k) :: (q ++ (k, .changes, new k) :: post)
  front : ∀ x ∈ p, x.1 = k.opposite
  between : ∀ x ∈ q, x.1 = k.opposite
  behind : ∀ x ∈ post, x.2.1 = .loads
  other : (k.opposite, .changes, new k.opposite) ∈ p ∨ (k.opposite, .changes, new k.opposite) ∈ q

variable {α : Type} {as p q post : List (Side × Access × α)} {v v' : Option α} {old new : Side → α}
  {k : Side}

theorem exists_ending (hedits : ∀ k, Edits k (old k) (new k) as) :
    ∃ k p q post, Ending k old new as p q post := by
  have hsome : ∃ x ∈ as, x.2.1 = .changes := ⟨_, (hedits .left).mem_change, rfl⟩
  obtain ⟨pre, ⟨k, _, last⟩, post, has, rfl, hpost⟩ := exists_last hsome
  obtain ⟨rfl, hpre, -⟩ := (hedits k).at_change has
  obtain ⟨p, q, rfl, hp, -, hq⟩ := List.filter_eq_cons_iff.mp hpre
  refine ⟨k, p, q, post, by rw [has]; simp, fun x hx => ?_, fun x hx => ?_, fun x hx => ?_, ?_⟩
  · exact Side.eq_opposite_of_ne fun hk => hp x hx (decide_eq_true hk)
  · exact Side.eq_opposite_of_ne fun hk =>
      List.filter_eq_nil_iff.mp hq x hx (decide_eq_true hk)
  · cases haccess : x.2.1 with
    | loads => rfl
    | changes => exact absurd haccess (hpost x hx)
  · have hmem := (hedits k.opposite).mem_change
    rw [has] at hmem
    simp only [List.mem_append, List.mem_cons, Prod.mk.injEq, k.opposite_ne, false_and,
      false_or] at hmem
    rcases hmem with hmem | hmem
    · exact hmem
    · exact absurd rfl (hpost _ hmem)

namespace Ending

theorem last (h : Ending k old new as p q post) : Last k as := by
  have hother : (k.opposite, .changes, new k.opposite) ∈ p ++ (k, .loads, old k) :: q := by
    rcases h.other with hmem | hmem
    · exact List.mem_append_left _ hmem
    · exact List.mem_append_right _ (List.mem_cons_of_mem _ hmem)
  obtain ⟨r, s, hsplit⟩ := List.append_of_mem hother
  have hat : as = r ++ (k.opposite, .changes, new k.opposite) ::
      (s ++ (k, .changes, new k) :: post) := by
    rw [h.eq, ← List.cons_append, ← List.append_assoc, hsplit, List.append_assoc, List.cons_append]
  rw [Last, hat, turns_append, turns_cons, turns_append, turns_cons]
  exact sublist_of_two _ _ _ _ _

theorem value (h : Ending k old new as p q post) (hreg : Register v as v') :
    Register v p (some (old k)) ∧ v' = some (new k) := by
  rw [h.eq] at hreg
  obtain ⟨mid, hbefore, hload⟩ := hreg.append
  obtain ⟨rfl, hafter⟩ := hload.load
  obtain ⟨mid', -, hchange⟩ := hafter.append
  exact ⟨hbefore, hchange.change.eq_of_loads h.behind⟩

/-- The other run was over with its change when this one loaded. -/
theorem of_front (h : Ending k old new as p q post)
    (hedits : Edits k.opposite (old k.opposite) (new k.opposite) as)
    (hbefore : Register v p (some (old k)))
    (hmem : (k.opposite, .changes, new k.opposite) ∈ p) :
    Sees k as ∧ v = some (old k.opposite) ∧ old k = new k.opposite := by
  obtain ⟨p₁, p₂, rfl⟩ := List.append_of_mem hmem
  have hat : as = p₁ ++ (k.opposite, .changes, new k.opposite) ::
      (p₂ ++ (k, .loads, old k) :: (q ++ (k, .changes, new k) :: post)) := by
    rw [h.eq, List.append_assoc, List.cons_append]
  obtain ⟨-, hp₁, hp₂⟩ := hedits.at_change hat
  have hself : p₁ = [(k.opposite, .loads, old k.opposite)] := by
    rw [← hp₁, eq_comm, List.filter_eq_self]
    exact fun x hx => decide_eq_true (h.front x (List.mem_append_left _ hx))
  obtain ⟨mid, hfirst, hsecond⟩ := hbefore.append
  rw [hself] at hfirst
  obtain ⟨hv, -⟩ := hfirst.load
  have hold : some (old k) = some (new k.opposite) := by
    refine hsecond.change.eq_of_loads fun x hx => hp₂ x (List.mem_append_left _ hx) ?_
    exact h.front x (List.mem_append_right _ (List.mem_cons_of_mem _ hx))
  refine ⟨?_, hv, Option.some.inj hold⟩
  rw [Sees, hat, turns_append, turns_cons, turns_append, turns_cons, turns_append, turns_cons]
  exact ((sublist_of_two _ _ _ _ _).cons_cons _).trans (List.sublist_append_right _ _)

/-- The run does not see a change if there was none when it loaded. -/
theorem not_sees (h : Ending k old new as p q post) (hloads : ∀ x ∈ p, x.2.1 = .loads) :
    ¬Sees k as := by
  intro hsees
  rw [Sees, h.eq, turns_append, turns_cons, turns_append, turns_cons] at hsees
  have hsees := sublist_of_notMem hsees fun hmem => by
    obtain ⟨x, hx, -, haccess⟩ := mem_turns.mp hmem
    rw [hloads x hx] at haccess
    cases haccess
  have hsees := List.Sublist.of_cons_of_ne (by simp) hsees
  have hsees := sublist_of_notMem (List.sublist_of_cons_sublist hsees) fun hmem => by
    obtain ⟨x, hx, hk, -⟩ := mem_turns.mp hmem
    exact k.opposite_ne ((h.between x hx).symm.trans hk)
  have hsees := List.Sublist.of_cons_of_ne (by simp) hsees
  have hmem := List.singleton_sublist.mp (List.sublist_of_cons_sublist hsees)
  obtain ⟨x, hx, -, haccess⟩ := mem_turns.mp hmem
  rw [h.behind x hx] at haccess
  cases haccess

/-- The other run changes the value between the load and the change of this one. -/
theorem of_between (h : Ending k old new as p q post)
    (hedits : Edits k.opposite (old k.opposite) (new k.opposite) as)
    (hbefore : Register v p (some (old k)))
    (hmem : (k.opposite, .changes, new k.opposite) ∈ q) : ¬Sees k as ∧ v = some (old k) := by
  obtain ⟨q₁, q₂, rfl⟩ := List.append_of_mem hmem
  have hat : as = (p ++ (k, .loads, old k) :: q₁) ++ (k.opposite, .changes, new k.opposite) ::
      (q₂ ++ (k, .changes, new k) :: post) := by
    rw [h.eq]
    simp
  obtain ⟨-, hfront, -⟩ := hedits.at_change hat
  have hloads : ∀ x ∈ p, x.2.1 = .loads := by
    intro x hx
    have hmem : x ∈ [(k.opposite, Access.loads, old k.opposite)] := by
      rw [← hfront, List.mem_filter]
      exact ⟨List.mem_append_left _ hx, decide_eq_true (h.front x hx)⟩
    rw [List.mem_singleton.mp hmem]
  exact ⟨h.not_sees hloads, (hbefore.eq_of_loads hloads).symm⟩

end Ending

/-- Of two runs one changes the value last.  It has loaded what the other changed it to, or else
what was there before both. -/
theorem Register.last_change (h : Register v as v') (hedits : ∀ k, Edits k (old k) (new k) as) :
    ∃ k : Side, Last k as ∧ v' = some (new k) ∧
      ((Sees k as ∧ v = some (old k.opposite) ∧ old k = new k.opposite) ∨
        (¬Sees k as ∧ v = some (old k))) := by
  obtain ⟨k, p, q, post, hending⟩ := exists_ending hedits
  obtain ⟨hbefore, hv'⟩ := hending.value h
  refine ⟨k, hending.last, hv', ?_⟩
  rcases hending.other with hmem | hmem
  · exact Or.inl (hending.of_front (hedits _) hbefore hmem)
  · exact Or.inr (hending.of_between (hedits _) hbefore hmem)

end AgentSpec

import AgentSpec.Proofs.Trace.Basic

/-!
Interleavings.  They have the members of their parts and keep each part's order, and whatever picks
out members picks an interleaving of what it picks from the parts.

A trace of strands that run together is taken apart into traces of the strands.
-/
namespace AgentSpec

namespace Interleaved

variable {ls before after : List (List ε)} {l h es : List ε}

theorem perm (hi : Interleaved ls es) : es.Perm ls.flatten := by
  induction hi with
  | nil hnil =>
    rw [List.flatten_eq_nil_iff.mpr hnil]
  | cons _ ih =>
    rw [List.flatten_append, List.flatten_cons, List.cons_append]
    rw [List.flatten_append, List.flatten_cons] at ih
    exact (ih.cons _).trans List.perm_middle.symm

theorem mem_iff (hi : Interleaved ls es) {x : ε} : x ∈ es ↔ ∃ l ∈ ls, x ∈ l := by
  rw [hi.perm.mem_iff, List.mem_flatten]

theorem sublist (hi : Interleaved ls es) (hl : l ∈ ls) : l.Sublist es := by
  induction hi generalizing l with
  | nil hnil => rw [hnil l hl]
  | @cons before after m x xs _ ih =>
    rcases List.mem_append.mp hl with hl | hl
    · exact (ih (List.mem_append_left _ hl)).cons x
    · rcases List.mem_cons.mp hl with rfl | hl
      · exact (ih (List.mem_append_right _ List.mem_cons_self)).cons_cons x
      · exact (ih (List.mem_append_right _ (List.mem_cons_of_mem _ hl))).cons x

/-- An interleaving of one list with empty ones is that list. -/
theorem eq_of_others_nil (hi : Interleaved (before ++ l :: after) es)
    (hb : ∀ m ∈ before, m = []) (ha : ∀ m ∈ after, m = []) : es = l := by
  have hs : l.Sublist es := hi.sublist (List.mem_append_right _ List.mem_cons_self)
  have hlen := hi.perm.length_eq
  rw [List.flatten_append, List.flatten_cons, List.flatten_eq_nil_iff.mpr hb,
    List.flatten_eq_nil_iff.mpr ha, List.nil_append, List.append_nil] at hlen
  exact (hs.eq_of_length hlen.symm).symm

theorem filterMap (hi : Interleaved ls es) (f : ε → Option δ) :
    Interleaved (ls.map (List.filterMap f)) (es.filterMap f) := by
  induction hi with
  | nil hnil =>
    refine .nil fun m hm => ?_
    obtain ⟨n, hn, rfl⟩ := List.mem_map.mp hm
    rw [hnil n hn, List.filterMap_nil]
  | @cons before after m x xs _ ih =>
    rw [List.map_append, List.map_cons] at ih ⊢
    cases hx : f x with
    | none =>
      rw [List.filterMap_cons_none hx, List.filterMap_cons_none hx]
      exact ih
    | some y =>
      rw [List.filterMap_cons_some hx, List.filterMap_cons_some hx]
      exact .cons ih

theorem cons_nil (hi : Interleaved ls es) : Interleaved ([] :: ls) es := by
  induction hi with
  | nil hnil => exact .nil (List.forall_mem_cons.mpr ⟨rfl, hnil⟩)
  | @cons before after m x xs _ ih => exact @Interleaved.cons _ ([] :: before) after m x xs ih

/-- Members in front of one part come in front of all. -/
theorem prepend (before : List (List ε)) (hi : Interleaved (before ++ l :: after) es) (h : List ε) :
    Interleaved (before ++ (h ++ l) :: after) (h ++ es) := by
  induction h with
  | nil => exact hi
  | cons x rest ih => exact .cons ih

theorem single (l : List ε) : Interleaved [l] l := by
  have hnil : Interleaved ([] ++ [] :: []) ([] : List ε) := .nil (by simp)
  have hi := hnil.prepend [] l
  rwa [List.append_nil, List.nil_append] at hi

theorem prependEach (before : List (List ε)) {hs : List (List ε)} (hi : Interleaved (before ++ ls) es)
    (hlen : hs.length = ls.length) :
    Interleaved (before ++ List.zipWith (· ++ ·) hs ls) (hs.flatten ++ es) := by
  induction hs generalizing before ls with
  | nil =>
    obtain rfl := List.length_eq_zero_iff.mp hlen.symm
    exact hi
  | cons h rest ih =>
    cases ls with
    | nil => cases hlen
    | cons l ls =>
      have hi' : Interleaved ((before ++ [l]) ++ ls) es := by simpa using hi
      have hrest := ih _ hi' (by simpa using hlen)
      rw [List.append_assoc, List.singleton_append] at hrest
      rw [List.zipWith_cons_cons, List.flatten_cons, List.append_assoc]
      exact hrest.prepend _ h

end Interleaved

namespace Together

variable {w : Weave} {strands : List (Strand β)} {es : List Event} {o : End (List β)}

/-- Every event belongs to a trace of one of the strands. -/
theorem exists_trace (ht : Together w strands es o) {x : Event} (hx : x ∈ es) :
    ∃ s ∈ strands, ∃ l p, s.Trace l p ∧ x ∈ l ∧ ∀ y ∈ l, y ∈ es := by
  obtain ⟨ps, hp, hi, -⟩ := ht.parts
  obtain ⟨l, hl, hx⟩ := (w.interleaved hi).mem_iff.mp hx
  obtain ⟨p, hps, rfl⟩ := List.mem_map.mp hl
  obtain ⟨s, hs, htr⟩ : ∃ s ∈ strands, s.Trace p.1 p.2 := by
    obtain ⟨i, hi, rfl⟩ := List.getElem_of_mem hps
    have hlen := hp.length_eq
    exact ⟨strands[i], List.getElem_mem _, List.forall₂_iff_get.mp hp |>.2 i (by omega) hi⟩
  exact ⟨s, hs, p.1, p.2, htr, hx, fun y hy => (w.interleaved hi).mem_iff.mpr ⟨p.1, hl, hy⟩⟩

/-- With all results, the trace is an interleaving of complete traces. -/
theorem value_parts {bs : List β} (ht : Together w strands es (.value bs)) :
    ∃ ps : List (List Event × β), List.Forall₂ (fun s p => s.Trace p.1 (.value p.2)) strands ps ∧
      w.Allows (ps.map (·.1)) es ∧ ps.map (·.2) = bs := by
  obtain ⟨ps, hp, hi, hj⟩ := ht.parts
  generalize hends : ps.map (·.2) = ends at hj
  cases hj with
  | values bs =>
    suffices h : ∃ qs : List (List Event × β),
        List.Forall₂ (fun s p => s.Trace p.1 (.value p.2)) strands qs ∧
          qs.map (·.1) = ps.map (·.1) ∧ qs.map (·.2) = bs by
      obtain ⟨qs, hq, hfst, hsnd⟩ := h
      exact ⟨qs, hq, hfst ▸ hi, hsnd⟩
    clear hi ht
    induction hp generalizing bs with
    | nil =>
      cases bs with
      | nil => exact ⟨[], .nil, rfl, rfl⟩
      | cons b bs => cases hends
    | @cons s p strands ps htr _ ih =>
      cases bs with
      | nil => cases hends
      | cons b bs =>
        obtain ⟨hb, hrest⟩ := List.cons.inj hends
        obtain ⟨qs, hq, hfst, hsnd⟩ := ih hrest
        refine ⟨(p.1, b) :: qs, .cons (hb ▸ htr) hq, ?_, ?_⟩
        · rw [List.map_cons, List.map_cons, hfst]
        · rw [List.map_cons, hsnd]

/-- An error is that of one of the strands. -/
theorem error_part {e : CompileError} (ht : Together w strands es (.error e)) :
    ∃ s ∈ strands, ∃ l, s.Trace l (.error e) ∧ ∀ x ∈ l, x ∈ es := by
  obtain ⟨ps, hp, ha, hj⟩ := ht.parts
  generalize hends : ps.map (·.2) = ends at hj
  cases hj with
  | error he =>
    rw [← hends] at he
    obtain ⟨p, hps, hpe⟩ := List.mem_map.mp he
    obtain ⟨i, hi, rfl⟩ := List.getElem_of_mem hps
    have hlen := hp.length_eq
    have htr := List.forall₂_iff_get.mp hp |>.2 i (by omega) hi
    refine ⟨strands[i], List.getElem_mem _, ps[i].1, hpe ▸ htr, fun x hx => ?_⟩
    exact (w.interleaved ha).mem_iff.mpr ⟨ps[i].1, List.mem_map_of_mem (List.getElem_mem _), hx⟩

end Together
end AgentSpec

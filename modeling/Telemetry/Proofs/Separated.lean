import Mathlib.Data.List.TakeWhile

/-!
# Texts with separators

* `takeWhile_mark`, `dropWhile_mark`: what stands before the first mark of a text and what stands
  behind it.
* `append_mark_inj`, `append_lastMark_inj`: two texts are the same exactly if the same stands before
  their first marks and behind them, and likewise for their last marks.
* `notMem_of_mem_splitOn`: the pieces between marks have no marks.
-/

namespace Telemetry

section

variable {mark : Char} {part : List Char} (h : mark ∉ part) (rest : List Char)

include h

theorem forall_ne_mark : ∀ c ∈ part, (c != mark) = true := by
  intro c hc
  have hne : c ≠ mark := fun heq => h (heq ▸ hc)
  simpa using hne

theorem takeWhile_mark : (part ++ mark :: rest).takeWhile (· != mark) = part := by
  rw [List.takeWhile_append_of_pos (forall_ne_mark h), List.takeWhile_cons_of_neg (by simp),
    List.append_nil]

theorem dropWhile_mark : (part ++ mark :: rest).dropWhile (· != mark) = mark :: rest := by
  rw [List.dropWhile_append_of_pos (forall_ne_mark h), List.dropWhile_cons_of_neg (by simp)]

theorem takeWhile_unmarked : part.takeWhile (· != mark) = part :=
  List.takeWhile_eq_self_iff.mpr (forall_ne_mark h)

theorem dropWhile_unmarked : part.dropWhile (· != mark) = [] :=
  List.dropWhile_eq_nil_iff.mpr (forall_ne_mark h)

end

/-- Texts with a mark are the same if they are the same before the first mark and behind it. -/
theorem append_mark_inj {mark : Char} {part part' : List Char} (h : mark ∉ part)
    (h' : mark ∉ part') {rest rest' : List Char} :
    part ++ mark :: rest = part' ++ mark :: rest' ↔ part = part' ∧ rest = rest' := by
  constructor
  · intro heq
    have hpart : part = part' := by rw [← takeWhile_mark h rest, heq, takeWhile_mark h' rest']
    subst hpart
    exact ⟨rfl, (List.cons.inj (List.append_cancel_left heq)).2⟩
  · rintro ⟨rfl, rfl⟩
    rfl

/-- Texts with a mark are the same if they are the same before the last mark and behind it. -/
theorem append_lastMark_inj {mark : Char} {part part' : List Char} (h : mark ∉ part)
    (h' : mark ∉ part') {rest rest' : List Char} :
    rest ++ mark :: part = rest' ++ mark :: part' ↔ rest = rest' ∧ part = part' := by
  rw [← List.reverse_inj]
  simp only [List.reverse_append, List.reverse_cons, List.append_assoc, List.singleton_append]
  rw [append_mark_inj (List.mem_reverse.not.mpr h) (List.mem_reverse.not.mpr h'),
    List.reverse_inj, List.reverse_inj, and_comm]

theorem notMem_takeWhile (mark : Char) (cs : List Char) : mark ∉ cs.takeWhile (· != mark) := by
  intro hc
  simpa using List.mem_takeWhile_imp hc

/-- A piece between marks has no mark, and no character that the text does not have. -/
theorem notMem_of_mem_splitOn {mark : Char} {cs piece : List Char}
    (h : piece ∈ cs.splitOn mark) : mark ∉ piece ∧ ∀ c ∈ piece, c ∈ cs := by
  rw [List.splitOn_eq_splitOnP] at h
  induction cs generalizing piece with
  | nil =>
    obtain rfl : piece = [] := by simpa using h
    simp
  | cons c cs ih =>
    rw [List.splitOnP_cons_eq_if_modifyHead] at h
    split at h
    · obtain rfl | h := List.mem_cons.mp h
      · simp
      · exact ⟨(ih h).1, fun d hd => .tail _ ((ih h).2 d hd)⟩
    · next hc =>
      obtain ⟨first, others, hpieces⟩ :=
        List.exists_cons_of_ne_nil (List.splitOnP_ne_nil (· == mark) cs)
      rw [hpieces, List.modifyHead_cons] at h
      rw [hpieces] at ih
      obtain rfl | h := List.mem_cons.mp h
      · obtain ⟨hfirst, hsub⟩ := ih (.head _)
        have hne : mark ≠ c := fun heq => hc (by simp [heq])
        refine ⟨by simp [hne, hfirst], fun d hd => ?_⟩
        obtain rfl | hd := List.mem_cons.mp hd
        · exact .head _
        · exact .tail _ (hsub d hd)
      · exact ⟨(ih (.tail _ h)).1, fun d hd => .tail _ ((ih (.tail _ h)).2 d hd)⟩

end Telemetry

import Mathlib.Algebra.Ring.Nat
import Mathlib.Data.List.Sort
import Safeguard.Health.Round
import Safeguard.Proofs.Retry.Course

/-!
# Timetables of checks that overlap

Checks that overlap have their moments merged into one list, in the order in which they are
played. `timetable probes` is that list, as `Round.runOverlapping` plays it. It is in order of time
(`sorted_timetable`), and of each check it has what the check has for itself, in the same order
(`filter_timetable`): the moments of one check are in order to begin with, and merging keeps what
is in order as it is.
-/

namespace Safeguard

/-- Whether a moment is one of a check's. -/
def isAbout (check : String) (m : Nat × Probe × Moment) : Bool := m.2.1.name = check

/-- The moments of checks that overlap, in the order in which they are played. -/
def timetable (probes : List Probe) : List (Nat × Probe × Moment) :=
  (probes.flatMap Probe.moments).mergeSort mayPrecede

/-! ## The order of play -/

theorem le_of_mayPrecede {a b : Nat × Probe × Moment} (h : mayPrecede a b = true) : a.1 ≤ b.1 := by
  simp only [mayPrecede, Bool.or_eq_true, Bool.and_eq_true, decide_eq_true_eq, beq_iff_eq] at h
  omega

theorem mayPrecede_trans (a b c : Nat × Probe × Moment) (hab : mayPrecede a b = true)
    (hbc : mayPrecede b c = true) : mayPrecede a c = true := by
  obtain ⟨time, p, moment⟩ := a
  obtain ⟨time', p', moment'⟩ := b
  obtain ⟨time'', p'', moment''⟩ := c
  simp only [mayPrecede, Bool.or_eq_true, Bool.and_eq_true, decide_eq_true_eq, beq_iff_eq,
    Bool.not_eq_true'] at hab hbc ⊢
  rcases hab with lt | ⟨rfl, early⟩
  · rcases hbc with lt' | ⟨rfl, -⟩
    · exact .inl (Nat.lt_trans lt lt')
    · exact .inl lt
  · rcases hbc with lt' | ⟨rfl, early'⟩
    · exact .inl lt'
    · refine .inr ⟨rfl, early.imp_right fun late => ?_⟩
      exact early'.resolve_left (by simp [late])

theorem mayPrecede_total (a b : Nat × Probe × Moment) :
    (mayPrecede a b || mayPrecede b a) = true := by
  obtain ⟨time, p, moment⟩ := a
  obtain ⟨time', p', moment'⟩ := b
  simp only [mayPrecede, Bool.or_eq_true, Bool.and_eq_true, decide_eq_true_eq, beq_iff_eq,
    Bool.not_eq_true']
  rcases Nat.lt_trichotomy time time' with lt | rfl | lt
  · exact .inl (.inl lt)
  · cases p.isLate moment with
    | true => exact .inr (.inr ⟨rfl, .inr rfl⟩)
    | false => exact .inl (.inr ⟨rfl, .inl rfl⟩)
  · exact .inr (.inl lt)

/-- A moment comes before every later one, and before one of the same instant that is late if the
first one is. -/
theorem mayPrecede_of_le {a b : Nat × Probe × Moment} (le : a.1 ≤ b.1)
    (late : a.2.1.isLate a.2.2 = true → b.2.1.isLate b.2.2 = true) : mayPrecede a b = true := by
  obtain ⟨time, p, moment⟩ := a
  obtain ⟨time', p', moment'⟩ := b
  simp only [mayPrecede, Bool.or_eq_true, Bool.and_eq_true, decide_eq_true_eq, beq_iff_eq,
    Bool.not_eq_true']
  rcases Nat.lt_or_eq_of_le le with lt | rfl
  · exact .inl lt
  · refine .inr ⟨rfl, ?_⟩
    cases early : p.isLate moment with
    | true => exact .inr (late early)
    | false => exact .inl rfl

/-! ## One check -/

namespace Probe

variable {p : Probe}

/-- The moments of a probe after its breaker has been asked. -/
def sequel (p : Probe) : List (Nat × Probe × Moment) :=
  p.run.notices.map (fun n => (n.1, p, .report n.2)) ++ [(p.run.finished, p, .settle)]

theorem moments_eq (p : Probe) : p.moments = (p.begun, p, .ask) :: p.sequel := rfl

theorem probe_of_mem_moments {m : Nat × Probe × Moment} (h : m ∈ p.moments) : m.2.1 = p := by
  simp only [moments, List.cons_append, List.mem_cons, List.mem_append, List.mem_map,
    List.not_mem_nil, or_false] at h
  obtain rfl | ⟨n, -, rfl⟩ | rfl := h <;> rfl

theorem inOrder_start (retry : Retry) (now : Nat) (name : String) (check : Check) :
    (start retry now name check).run.InOrder (start retry now name check).begun :=
  retry.inOrder_run check.script now

/-- The moments of a probe come in the order of play. -/
theorem sorted_moments (inOrder : p.run.InOrder p.begun) :
    p.moments.Pairwise fun a b => mayPrecede a b = true := by
  rw [moments_eq]
  refine List.pairwise_cons.2 ⟨fun m mem => ?_, List.pairwise_append.2 ⟨?_, ?_, ?_⟩⟩
  · refine mayPrecede_of_le ?_ (by simp [isLate])
    rcases List.mem_append.1 mem with mem | mem
    · obtain ⟨n, reported, rfl⟩ := List.mem_map.1 mem
      exact (inOrder.within n reported).1
    · rw [List.mem_singleton.1 mem]
      exact inOrder.begun_le
  · refine List.pairwise_map.2 (inOrder.sorted.imp ?_)
    intro a b le
    exact mayPrecede_of_le le id
  · exact List.pairwise_singleton _ _
  · intro a ha b hb
    obtain ⟨n, reported, rfl⟩ := List.mem_map.1 ha
    rw [List.mem_singleton.1 hb]
    exact mayPrecede_of_le (inOrder.within n reported).2 id

/-- No moment of a probe comes before its beginning. -/
theorem begun_le_of_mem_moments (inOrder : p.run.InOrder p.begun) {m : Nat × Probe × Moment}
    (mem : m ∈ p.moments) : p.begun ≤ m.1 := by
  have sorted := (sorted_moments inOrder).imp le_of_mayPrecede
  rcases List.mem_cons.1 mem with rfl | mem
  · exact Nat.le_refl _
  · exact (List.pairwise_cons.1 sorted).1 m mem

theorem length_moments (p : Probe) : p.moments.length = p.run.notices.length + 2 := by
  simp only [moments, List.cons_append, List.length_cons, List.length_append, List.length_map,
    List.length_nil]

theorem filter_moments (p : Probe) (check : String) :
    p.moments.filter (isAbout check) = if p.name = check then p.moments else [] := by
  split
  · rename_i eq
    refine List.filter_eq_self.2 fun m mem => ?_
    simp [isAbout, probe_of_mem_moments mem, eq]
  · rename_i ne
    refine List.filter_eq_nil_iff.2 fun m mem => ?_
    simp [isAbout, probe_of_mem_moments mem, ne]

end Probe

/-! ## All checks -/

section Timetable

variable {probes : List Probe}

theorem sorted_timetable (probes : List Probe) :
    (timetable probes).Pairwise fun a b => a.1 ≤ b.1 :=
  (List.pairwise_mergeSort mayPrecede_trans mayPrecede_total _).imp le_of_mayPrecede

theorem mem_timetable_iff {m : Nat × Probe × Moment} :
    m ∈ timetable probes ↔ ∃ p ∈ probes, m ∈ p.moments := by
  rw [timetable, List.mem_mergeSort, List.mem_flatMap]

theorem length_timetable (probes : List Probe) :
    (timetable probes).length = (probes.map fun p => p.moments.length).sum := by
  rw [timetable, List.length_mergeSort, List.length_flatMap]

/-- Of probes under distinct names, one has the moments of its name. -/
theorem filter_flatMap_moments (distinct : (probes.map Probe.name).Nodup) {p : Probe}
    (mem : p ∈ probes) :
    (probes.flatMap Probe.moments).filter (isAbout p.name) = p.moments := by
  induction probes with
  | nil => cases mem
  | cons q rest ih =>
    obtain ⟨fresh, distinct⟩ := List.nodup_cons.1 distinct
    rw [List.flatMap_cons, List.filter_append, q.filter_moments]
    rcases List.mem_cons.1 mem with rfl | mem
    · have others : (rest.flatMap Probe.moments).filter (isAbout p.name) = [] := by
        rw [List.filter_flatMap, List.flatMap_eq_nil_iff]
        intro q mem
        rw [q.filter_moments, if_neg]
        exact fun eq => fresh (eq ▸ List.mem_map_of_mem mem)
      rw [if_pos rfl, others, List.append_nil]
    · have ne : q.name ≠ p.name := fun eq => fresh (eq ▸ List.mem_map_of_mem mem)
      rw [if_neg ne, List.nil_append, ih distinct mem]

/-- The timetable has the moments of each check as the check has them. -/
theorem filter_timetable (distinct : (probes.map Probe.name).Nodup) {p : Probe}
    (inOrder : p.run.InOrder p.begun) (mem : p ∈ probes) :
    (timetable probes).filter (isAbout p.name) = p.moments := by
  have own := filter_flatMap_moments distinct mem
  -- What is in order in the unsorted list stays as it is, so nothing of the check is moved.
  have kept : p.moments.Sublist (timetable probes) :=
    List.sublist_mergeSort mayPrecede_trans mayPrecede_total (Probe.sorted_moments inOrder)
      (own ▸ List.filter_sublist)
  have within := kept.filter (isAbout p.name)
  rw [p.filter_moments, if_pos rfl] at within
  refine (within.eq_of_length ?_).symm
  have same := (List.mergeSort_perm (probes.flatMap Probe.moments) mayPrecede).filter
    (isAbout p.name)
  rw [own] at same
  exact same.length_eq.symm

/-- The timetable has nothing of a check that does not run. -/
theorem filter_timetable_of_not_mem {check : String} (absent : check ∉ probes.map Probe.name) :
    (timetable probes).filter (isAbout check) = [] := by
  refine List.filter_eq_nil_iff.2 fun m mem => ?_
  obtain ⟨p, probe, mem⟩ := mem_timetable_iff.1 mem
  have ne : p.name ≠ check := fun eq => absent (eq ▸ List.mem_map_of_mem probe)
  simp [isAbout, Probe.probe_of_mem_moments mem, ne]

end Timetable

end Safeguard

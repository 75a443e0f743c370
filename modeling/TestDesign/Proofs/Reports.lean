import TestDesign.Assembly.Session

/-!
# TestDesign.Proofs.Reports

Diagnostics are reported once. Reporting a list that has already been reported somewhere else gives
the same as reporting what it was made from (`foldl_report_report`), so diagnostics may be
collected apart and put together later. Dropping what was reported more than once from a list that
was filled otherwise gives the same as reporting its diagnostics one by one
(`firstOfEach_eq_foldl_report`).
-/

namespace TestDesign

variable {xs ys : List Diagnostic} {d x : Diagnostic}

theorem report_of_mem (hx : x ∈ xs) (hm : x.message = d.message) : report xs d = xs := by
  unfold report
  rw [if_pos (List.any_eq_true.2 ⟨x, hx, decide_eq_true hm⟩)]

theorem mem_report_of_mem (hx : x ∈ xs) : x ∈ report xs d := by
  unfold report
  split
  · exact hx
  · exact List.mem_append_left _ hx

/-- What has been reported is there, at least as another diagnostic with the same message. -/
theorem exists_mem_report (xs : List Diagnostic) (d : Diagnostic) :
    ∃ x ∈ report xs d, x.message = d.message := by
  unfold report
  split
  · rename_i h
    obtain ⟨x, hx, hm⟩ := List.any_eq_true.1 h
    exact ⟨x, hx, of_decide_eq_true hm⟩
  · exact ⟨d, List.mem_append_right _ List.mem_cons_self, rfl⟩

theorem mem_foldl_report_of_mem (hx : x ∈ xs) (ys : List Diagnostic) :
    x ∈ ys.foldl report xs := by
  induction ys generalizing xs with
  | nil => exact hx
  | cons y ys ih => exact ih (mem_report_of_mem hx)

theorem exists_mem_foldl_report (xs : List Diagnostic) (hd : d ∈ ys) :
    ∃ x ∈ ys.foldl report xs, x.message = d.message := by
  induction ys generalizing xs with
  | nil => cases hd
  | cons y ys ih =>
    rcases List.mem_cons.1 hd with rfl | hd
    · obtain ⟨x, hx, hm⟩ := exists_mem_report xs d
      exact ⟨x, mem_foldl_report_of_mem hx ys, hm⟩
    · exact ih (report xs y) hd

theorem foldl_report_one (xs zs : List Diagnostic) (d : Diagnostic) :
    (report zs d).foldl report xs = report (zs.foldl report xs) d := by
  by_cases h : zs.any fun x => x.message = d.message
  · obtain ⟨z, hz, hm⟩ := List.any_eq_true.1 h
    obtain ⟨x, hx, hxm⟩ := exists_mem_foldl_report xs hz
    have hm := of_decide_eq_true hm
    rw [report_of_mem hz hm, report_of_mem hx (hxm.trans hm)]
  · have hnew : report zs d = zs ++ [d] := by
      unfold report
      rw [if_neg h]
    rw [hnew, List.foldl_append, List.foldl_cons, List.foldl_nil]

/-- Duplicates that are dropped beforehand would have been dropped anyway. -/
theorem foldl_report_report (xs zs ys : List Diagnostic) :
    (ys.foldl report zs).foldl report xs = ys.foldl report (zs.foldl report xs) := by
  induction ys generalizing zs with
  | nil => rfl
  | cons y ys ih =>
    simp only [List.foldl_cons]
    rw [ih, foldl_report_one]

/-! ## No message twice -/

theorem prefix_report (xs : List Diagnostic) (d : Diagnostic) : xs <+: report xs d := by
  unfold report
  split
  · exact List.prefix_refl xs
  · exact List.prefix_append xs [d]

theorem any_message_eq_true_iff :
    (xs.any fun x => x.message = d.message) = true ↔ d.message ∈ xs.map Diagnostic.message := by
  simp

theorem nodup_report (h : (xs.map Diagnostic.message).Nodup) (d : Diagnostic) :
    ((report xs d).map Diagnostic.message).Nodup := by
  unfold report
  split
  · exact h
  · rename_i hnew
    rw [any_message_eq_true_iff] at hnew
    rw [List.map_append, List.map_singleton]
    exact List.nodup_append.2 ⟨h, List.pairwise_singleton _ _, by simpa using hnew⟩

/-- Reporting more diagnostics keeps those that have not been seen yet. -/
theorem foldl_report_eq_append (seen : List String)
    (h : ∀ m, m ∈ seen ↔ m ∈ xs.map Diagnostic.message) (ds : List Diagnostic) :
    ds.foldl report xs = xs ++ firstOfEach seen ds := by
  induction ds generalizing xs seen with
  | nil => simp [firstOfEach]
  | cons d ds ih =>
    rw [List.foldl_cons, report, firstOfEach]
    by_cases hseen : d.message ∈ seen
    · rw [if_pos (any_message_eq_true_iff.2 ((h _).1 hseen)),
        if_pos (List.contains_iff_mem.2 hseen)]
      exact ih _ h
    · rw [if_neg fun hany => hseen ((h _).2 (any_message_eq_true_iff.1 hany)),
        if_neg fun hcontains => hseen (List.contains_iff_mem.1 hcontains)]
      rw [ih (d.message :: seen), List.append_assoc, List.singleton_append]
      intro m
      simp [h m, or_comm]

theorem firstOfEach_eq_foldl_report (ds : List Diagnostic) :
    firstOfEach [] ds = ds.foldl report [] := by
  rw [foldl_report_eq_append [] (by simp), List.nil_append]

theorem firstOfEach_firstOfEach (ds : List Diagnostic) :
    firstOfEach [] (firstOfEach [] ds) = firstOfEach [] ds := by
  simp only [firstOfEach_eq_foldl_report, foldl_report_report, List.foldl_nil]

namespace Reports

theorem pushAll_append (r : Reports) (ns ns' : List Note) :
    r.pushAll (ns ++ ns') = (r.pushAll ns).pushAll ns' := List.foldl_append

/-- The errors among notes. -/
def errorsOf : List Note → List Diagnostic :=
  List.filterMap fun | .error d => some d | .warning _ => none

/-- The warnings among notes. -/
def warningsOf : List Note → List Diagnostic :=
  List.filterMap fun | .warning d => some d | .error _ => none

theorem pushAll_eq (r : Reports) (ns : List Note) :
    r.pushAll ns =
      ⟨(errorsOf ns).foldl report r.errors, (warningsOf ns).foldl report r.warnings⟩ := by
  induction ns generalizing r with
  | nil => rfl
  | cons n ns ih =>
    cases n with
    | error d => exact ih (r.pushError d)
    | warning d => exact ih (r.pushWarning d)

end Reports

end TestDesign

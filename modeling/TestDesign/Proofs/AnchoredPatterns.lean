import TestDesign.Proofs.AnchoredScans
import TestDesign.Proofs.TextMatching

/-!
# TestDesign.Proofs.AnchoredPatterns

A pattern in a group by itself, between the conditions for the start and the end of the text, is
read as it is read alone.

* `eq_whole_of_matcher?`: the expression that matches whole texts is the one of the pattern between
  the two conditions.
* `Expr.spans_whole`: this expression spans a text exactly when that of the pattern does.
-/

namespace TestDesign.Pattern

/-! ## Tokens -/

namespace Scanned

/-- What has been read of the anchored pattern when `s` has been read of the pattern. -/
def anchored (s : Scanned) : Scanned :=
  { s with
    outer := s.outer ++ [{}]
    tokens := s.tokens ++ [.opening none, .atom {} (.look .textStart)] }

variable {s : Scanned}

@[simp] theorem anchored_flags : s.anchored.flags = s.flags := rfl

theorem anchored_enter (start : Scan.Start) :
    s.anchored.enter start = (s.enter start).map anchored := by
  cases start with
  | directive f => rfl
  | plain f => rfl
  | capture name =>
    cases name with
    | none => rfl
    | some name =>
      simp only [enter]
      rw [apply_ite (Option.map anchored)]
      rfl

theorem anchored_leave {s' : Scanned} (h : s.leave = some s') :
    s.anchored.leave = some s'.anchored := by
  unfold leave at h
  split at h
  · cases h
  · rename_i f outer houter
    cases h
    simp only [leave, anchored, houter, List.cons_append]

/-- What the anchored pattern has read follows what the pattern has read. -/
theorem agree_step (s : Scanned) (c : Char) :
    Scan.Agree (fun s t => t = s.anchored) (s.step c) (s.anchored.step c) := by
  unfold step
  split
  · refine Scan.agree_bind (Scan.kept_groupStart s.flags) fun start => ?_
    refine Scan.agree_require fun s' hs' => ⟨s'.anchored, ?_, rfl⟩
    rw [anchored_enter, hs']
    rfl
  · exact Scan.agree_require fun s' hs' => ⟨s'.anchored, anchored_leave hs', rfl⟩
  · exact Scan.agree_pure rfl
  · refine Scan.agree_bind (Scan.kept_bracket s.flags) fun a => ?_
    exact Scan.agree_pure rfl
  case h_5 | h_6 | h_7 =>
    refine Scan.agree_bind (Scan.kept_greed s.flags) fun greedy => ?_
    exact Scan.agree_pure rfl
  case h_8 =>
    refine Scan.agree_bind (Scan.kept_counted s.flags) fun t => ?_
    exact Scan.agree_pure rfl
  case h_9 =>
    refine Scan.agree_bind (Scan.kept_escape s.flags) fun a => ?_
    exact Scan.agree_pure rfl
  all_goals exact Scan.agree_pure rfl

theorem run_rest (n : Nat) (s : Scanned) (cs : List Char) :
    (rest (n + 1) s).run cs = match Scan.significant s.flags cs with
      | [] => some (s, [])
      | c :: cs => ((s.step c).run cs).bind fun r => (rest n r.1).run r.2 := by
  change ((get >>= fun cs => _ : Scan Scanned).run (Scan.significant s.flags cs)) = _
  cases Scan.significant s.flags cs <;> rfl

/-- When the pattern has been read, the anchored one has its group left to close; or a comment has
taken the end of the group. -/
theorem run_rest_anchored {s s' : Scanned} {cs ds left : List Char} {m n : Nat}
    (hds : Follows cs ds) (hle : m + 2 ≤ n) (h : (rest m s).run cs = some (s', left)) :
    (rest n s.anchored).run ds = some (s'.anchored, []) ∨
      ∃ k, (rest n s.anchored).run ds = (rest (k + 3) s'.anchored).run closing := by
  induction m generalizing n s cs ds with
  | zero => cases h
  | succ m ih =>
    obtain ⟨k, rfl⟩ : ∃ k, n = k + m + 2 + 1 := ⟨n - (m + 3), by omega⟩
    have hblanks := Scan.follows_significant s.flags hds
    rw [run_rest] at h
    cases hcs : Scan.significant s.flags cs with
    | nil =>
      rw [hcs] at h hblanks
      cases h
      rcases hblanks with hds | hds
      · refine .inr ⟨k + m, ?_⟩
        rw [run_rest, run_rest, anchored_flags, hds, Scan.significant_closing]
        rfl
      · refine .inl ?_
        rw [run_rest, anchored_flags, hds]
    | cons c cs =>
      rw [hcs] at h hblanks
      obtain ⟨ds', hds', hrest⟩ := hblanks.of_cons
      obtain ⟨⟨s₁, cs₁⟩, hstep, h⟩ := Option.bind_eq_some_iff.1 h
      obtain ⟨_, ds₁, hstep', rfl, hds₁⟩ := agree_step s c _ _ hrest _ _ hstep
      have hrun : (rest (k + m + 2 + 1) s.anchored).run ds =
          (rest (k + m + 2) s₁.anchored).run ds₁ := by
        rw [run_rest, anchored_flags, hds']
        simp only [hstep', Option.bind_some]
      rw [hrun]
      exact ih hds₁ (by omega) h

/-- The pattern with its group closed, up to the end of the text. -/
def closed (s : Scanned) : List Token :=
  .atom {} (.look .textEnd) :: .closing :: s.anchored.tokens

theorem run_rest_closing {s : Scanned} (houter : s.outer = []) (k : Nat) :
    ∃ t : Scanned, (rest (k + 3) s.anchored).run closing = some (t, []) ∧ t.outer = [] ∧
      t.tokens = s.closed := by
  have hleave : s.anchored.leave =
      some { s.anchored with flags := {}, outer := [], tokens := .closing :: s.anchored.tokens } := by
    simp only [leave, anchored, houter, List.nil_append]
  refine ⟨{ s.anchored with flags := {}, outer := [], tokens := s.closed }, ?_, rfl, rfl⟩
  rw [run_rest, Scan.significant_closing]
  change ((s.anchored.leave.map fun t => (t, ['$'])).bind _ : Option (Scanned × List Char)) = _
  rw [hleave]
  rfl

/-- The start of an anchored pattern. -/
theorem run_rest_start (n : Nat) (cs : List Char) :
    (rest (n + 2) {}).run ('^' :: '(' :: '?' :: ':' :: cs) = (rest n (anchored {})).run cs := by
  rfl

end Scanned

theorem exists_of_tokens? {pattern : List Char} {ts : List Token} (h : tokens? pattern = some ts) :
    ∃ s left, (Scanned.rest (pattern.length + 1) {}).run pattern = some (s, left) ∧
      s.outer = [] ∧ ts = s.tokens.reverse := by
  unfold tokens? at h
  split at h
  · rename_i s left hs
    split at h
    · rename_i houter
      cases h
      exact ⟨s, left, hs, List.isEmpty_iff.1 houter, rfl⟩
    · cases h
  · cases h

/-- The tokens of the anchored pattern are those of the pattern in a group, between the conditions
for the start and the end of the text. -/
theorem tokens?_anchored {pattern : List Char} {ts us : List Token} (h : tokens? pattern = some ts)
    (h' : tokens? ('^' :: '(' :: '?' :: ':' :: (pattern ++ closing)) = some us) :
    us = .atom {} (.look .textStart) :: .opening none ::
      (ts ++ [.closing, .atom {} (.look .textEnd)]) := by
  obtain ⟨s, left, hs, houter, rfl⟩ := exists_of_tokens? h
  obtain ⟨t, left', ht, houter', rfl⟩ := exists_of_tokens? h'
  have hlength : ('^' :: '(' :: '?' :: ':' :: (pattern ++ closing)).length + 1 =
      pattern.length + 5 + 2 := by
    simp [closing]
  rw [hlength, Scanned.run_rest_start] at ht
  have hfuel : pattern.length + 1 + 2 ≤ pattern.length + 5 := by omega
  rcases Scanned.run_rest_anchored (.inl rfl) hfuel hs with hcomment | ⟨k, hclosing⟩
  · -- A comment has taken the end of the group, so the group stays open.
    rw [hcomment] at ht
    cases ht
    simp [Scanned.anchored] at houter'
  · obtain ⟨u, hu, -, htokens⟩ := Scanned.run_rest_closing houter k
    rw [hclosing, hu] at ht
    cases ht
    simp [htokens, Scanned.closed, Scanned.anchored]

/-! ## Expressions -/

namespace Expr

/-- An expression between the conditions for the start and the end of the text. -/
def whole (e : Expr) : Expr := concat [atom {} (.look .textStart), e, atom {} (.look .textEnd)]

/-- What is read within a group is read as it is alone. -/
theorem build_closing {l o : Level} {outer : List Level} {ts rest : List Token} {e m : Expr}
    (h : build l outer ts = some e) (h' : build l (outer ++ [o]) (ts ++ .closing :: rest) = some m) :
    build (o.push e) [] rest = some m := by
  fun_induction build l outer ts with
  | case1 level =>
    cases h
    exact h'
  | case3 level outer f a ts ih =>
    rw [List.cons_append, build] at h'
    exact ih h h'
  | case4 level outer capture ts _ ih =>
    rw [List.cons_append, build] at h'
    split at h'
    · exact ih h h'
    · cases h'
  | case7 level l outer ts ih => exact ih h h'
  | case8 level outer ts ih =>
    rw [List.cons_append, build] at h'
    exact ih h h'
  | case9 level outer ts ih =>
    rw [List.cons_append, build] at h'
    exact ih h h'
  | case10 _ outer min max greedy ts level hrepeat ih =>
    rw [List.cons_append, build, hrepeat] at h'
    exact ih h h'
  | _ => cases h

theorem holdsAt_textEnd (text : List Char) : Look.textEnd.HoldsAt text text.length := by
  have hlt : text.length < (none :: text.map some).length := by simp
  exact ⟨_, List.getElem?_eq_getElem hlt, by simp [Look.holds]⟩

theorem spans_whole {e : Expr} {text : List Char} :
    e.whole.Spans text 0 text.length ↔ e.Spans text 0 text.length := by
  constructor
  · rintro ⟨_, ⟨rfl, -⟩, k, he, _, ⟨rfl, -⟩, hlast⟩
    exact hlast ▸ he
  · intro he
    exact ⟨0, ⟨rfl, none, rfl, rfl⟩, text.length, he, text.length,
      ⟨rfl, holdsAt_textEnd text⟩, rfl⟩

end Expr

/-- The expression that matches whole texts is that of the pattern between the conditions for the
start and the end of the text. -/
theorem eq_whole_of_matcher? {pattern : String} {e m : Expr}
    (he : Expr.parse? pattern.toList = some e) (hm : matcher? pattern = some m) : m = e.whole := by
  obtain ⟨ts, hts, hbuild⟩ := Option.bind_eq_some_iff.1 he
  obtain ⟨us, hus, hbuild'⟩ := Option.bind_eq_some_iff.1 (Option.filter_eq_some_iff.1 hm).1
  obtain rfl := tokens?_anchored hts hus
  have hclosing := Expr.build_closing (o := Expr.Level.push {} (.atom {} (.look .textStart)))
    hbuild hbuild'
  cases hclosing
  rfl

end TestDesign.Pattern

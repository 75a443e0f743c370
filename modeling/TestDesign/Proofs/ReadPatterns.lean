import TestDesign.Pattern.Expr
import TestDesign.Proofs.CharacterRanges

/-!
# TestDesign.Proofs.ReadPatterns

What holds of every pattern that is read: spans of characters and the bounds of repetitions are
in order, and named classes are normal sets. What a scan takes gets its property from its parts
(`yields_pure`, `yields_bind`), whatever the rest of the pattern.

* `Expr.proper_of_parse?`: expressions that are read have these properties.
-/

namespace TestDesign.Pattern

namespace Scan

variable {α β : Type} {P : α → Prop} {Q : β → Prop} {x : Scan α} {k : α → Scan β}

/-- Everything that the scan takes satisfies `P`. -/
def Yields (x : Scan α) (P : α → Prop) : Prop := ∀ cs, ∀ taken ∈ x.run cs, P taken.1

theorem yields_pure {a : α} (h : P a) : Yields (pure a) P := by
  rintro cs _ ⟨⟩
  exact h

theorem yields_failure : Yields failure P := nofun

theorem yields_bind (h : Yields x P) (hk : ∀ a, P a → Yields (k a) Q) : Yields (x >>= k) Q := by
  intro cs taken htaken
  obtain ⟨⟨a, rest⟩, ha, htaken⟩ := Option.bind_eq_some_iff.1 htaken
  exact hk a (h cs _ ha) rest taken htaken

/-- The rest of a scan when nothing is known of what it took first. -/
theorem yields_of_forall (hk : ∀ a, Yields (k a) Q) : Yields (x >>= k) Q :=
  yields_bind (P := fun _ => True) (fun _ _ _ => trivial) fun a _ => hk a

theorem yields_require {o : Option α} (h : ∀ a ∈ o, P a) : Yields (require o) P := by
  rintro cs taken htaken
  obtain ⟨a, ha, rfl⟩ := Option.map_eq_some_iff.1 htaken
  exact h a ha

theorem yields_ite {c : Prop} [Decidable c] {x y : Scan α} (hx : c → Yields x P)
    (hy : ¬c → Yields y P) : Yields (if c then x else y) P := by
  split
  · exact hx ‹_›
  · exact hy ‹_›

end Scan

/-! ## Atoms -/

/-- Spans go upwards, and named classes are normal sets. -/
def ClassItem.Proper : ClassItem → Prop
  | span a b => a.char ≤ b.char
  | named rs _ => rs.Normal
  | shorthand _ _ => True

def Atom.Proper : Atom → Prop
  | bracket _ items => ∀ i ∈ items, i.Proper
  | _ => True

namespace Scan

variable {f : Flags}

theorem yields_escape : Yields (escape f) Atom.Proper := by
  refine yields_of_forall fun c => ?_
  split
  case h_22 => exact yields_ite (fun _ => yields_pure trivial) fun _ => yields_failure
  all_goals
    first
      | exact yields_pure trivial
      | exact yields_of_forall fun _ => yields_pure trivial

theorem yields_classPart : Yields (classPart f) fun p => p.1.Proper := by
  refine yields_of_forall fun c => yields_ite (fun _ => ?_) fun _ => ?_
  · refine yields_of_forall fun a => ?_
    split
    · exact yields_pure (Nat.le_refl _)
    · exact yields_pure trivial
    · exact yields_failure
  · exact yields_pure (Nat.le_refl _)

theorem yields_classItem : Yields (classItem f) ClassItem.Proper := by
  refine yields_bind yields_classPart fun ⟨item, first⟩ hitem => ?_
  refine yields_of_forall fun _ => yields_of_forall fun cs => ?_
  split
  · exact yields_failure
  · split
    · exact yields_pure hitem
    · exact yields_pure hitem
    · refine yields_of_forall fun _ => yields_of_forall fun _ => ?_
      refine yields_of_forall fun a => yields_of_forall fun b => ?_
      exact yields_ite (fun hle => yields_pure hle) fun _ => yields_failure
  · exact yields_pure hitem

theorem normal_of_lookup {name : String} {rs : Ranges}
    (h : namedClasses.lookup name = some rs) : rs.Normal := by
  obtain ⟨l₁, l₂, hl, -⟩ := List.lookup_eq_some_iff.1 h
  exact Ranges.normal_namedClasses (name, rs) (hl ▸ by simp)

theorem yields_namedClass : Yields namedClass ClassItem.Proper := by
  refine yields_of_forall fun _ => yields_ite (fun _ => ?_) fun _ => yields_failure
  refine yields_of_forall fun _ => yields_of_forall fun name => yields_of_forall fun _ => ?_
  refine yields_ite (fun _ => ?_) fun _ => yields_failure
  refine yields_bind (yields_require fun rs hrs => ?_) fun rs hrs => yields_pure hrs
  exact normal_of_lookup hrs

theorem yields_leadingHyphens (fuel : Nat) :
    Yields (leadingHyphens f fuel) fun items => ∀ i ∈ items, i.Proper := by
  induction fuel with
  | zero => exact yields_pure nofun
  | succ fuel ih =>
    refine yields_of_forall fun _ => yields_ite (fun _ => ?_) fun _ => yields_pure nofun
    refine yields_of_forall fun _ => yields_bind ih fun items hitems => yields_pure ?_
    exact List.forall_mem_cons.2 ⟨Nat.le_refl _, hitems⟩

theorem yields_classItems (fuel : Nat) {items : List ClassItem} (h : ∀ i ∈ items, i.Proper) :
    Yields (classItems f fuel items) fun items => ∀ i ∈ items, i.Proper := by
  induction fuel generalizing items with
  | zero => exact yields_failure
  | succ fuel ih =>
    refine yields_of_forall fun _ => yields_of_forall fun cs => ?_
    split
    · exact yields_failure
    · exact yields_of_forall fun _ => yields_pure fun i hi => h i (List.mem_reverse.1 hi)
    · refine yields_bind yields_namedClass fun item hitem => ?_
      exact ih (List.forall_mem_cons.2 ⟨hitem, h⟩)
    · exact yields_failure
    · exact yields_failure
    · exact yields_failure
    · refine yields_bind yields_classItem fun item hitem => ?_
      exact ih (List.forall_mem_cons.2 ⟨hitem, h⟩)

theorem yields_bracket : Yields (bracket f) Atom.Proper := by
  unfold bracket
  refine yields_of_forall fun _ => yields_of_forall fun negated => ?_
  extract_lets parts
  have hparts (u : PUnit) : Yields (parts u) Atom.Proper := by
    refine yields_of_forall fun cs => ?_
    extract_lets fuel rest
    refine yields_bind (yields_leadingHyphens fuel) fun hyphens hhyphens => ?_
    have hrest {first : List ClassItem} (h : ∀ i ∈ first, i.Proper) :
        Yields (rest first) Atom.Proper := by
      have hreverse : ∀ i ∈ first.reverse, i.Proper := fun i hi => h i (List.mem_reverse.1 hi)
      exact yields_bind (yields_classItems fuel hreverse) fun items hitems => yields_pure hitems
    refine yields_ite (fun _ => yields_of_forall fun _ => ?_) fun _ => hrest hhyphens
    refine yields_ite (fun _ => yields_of_forall fun _ => hrest ?_) fun _ => hrest nofun
    exact List.forall_mem_singleton.2 (Nat.le_refl _)
  exact yields_ite (fun _ => yields_of_forall fun u => hparts u) fun _ => hparts ⟨⟩

end Scan

/-! ## Tokens -/

/-- The bounds of a repetition are in order. -/
def Token.Proper : Token → Prop
  | atom _ a => a.Proper
  | repetition min max _ => ∀ m ∈ max, min ≤ m
  | _ => True

namespace Scan

theorem ordered_of_all {min : Nat} {max : Option Nat} (h : max.all (min ≤ ·) = true) :
    ∀ m ∈ max, min ≤ m := by
  rintro m ⟨⟩
  exact of_decide_eq_true h

theorem yields_counted {f : Flags} : Yields (counted f) Token.Proper := by
  unfold counted
  refine yields_of_forall fun _ => yields_of_forall fun min => yields_of_forall fun comma => ?_
  extract_lets close
  have hclose (max : Option Nat) : Yields (close max) Token.Proper := by
    refine yields_of_forall fun _ => yields_ite (fun _ => ?_) fun _ => yields_failure
    refine yields_of_forall fun _ => yields_of_forall fun greedy => ?_
    exact yields_ite (fun hall => yields_pure (ordered_of_all hall)) fun _ => yields_failure
  refine yields_ite (fun _ => ?_) fun _ => hclose _
  refine yields_of_forall fun _ => yields_of_forall fun cs => ?_
  exact yields_ite (fun _ => hclose _) fun _ => yields_of_forall hclose

end Scan

namespace Scanned

variable {s : Scanned}

def Proper (s : Scanned) : Prop := ∀ t ∈ s.tokens, t.Proper

theorem Proper.push (h : s.Proper) {t : Token} (ht : t.Proper) : (s.push t).Proper :=
  List.forall_mem_cons.2 ⟨ht, h⟩

theorem Proper.enter (h : s.Proper) {start : Scan.Start} : ∀ s' ∈ s.enter start, s'.Proper := by
  intro s' hs'
  unfold Scanned.enter at hs'
  split at hs'
  · cases hs'
    exact h.push (t := .directive) trivial
  · cases hs'
    exact h.push (t := .opening none) trivial
  · rename_i name
    have hopening : ∀ t ∈ Token.opening (some s.captures) :: s.tokens, t.Proper :=
      List.forall_mem_cons.2 ⟨trivial, h⟩
    cases name with
    | none =>
      cases hs'
      exact hopening
    | some name =>
      simp only [Option.ite_none_left_eq_some, Option.mem_def] at hs'
      obtain ⟨-, ⟨⟩⟩ := hs'
      exact hopening

theorem Proper.leave (h : s.Proper) : ∀ s' ∈ s.leave, s'.Proper := by
  intro s' hs'
  unfold Scanned.leave at hs'
  split at hs'
  · cases hs'
  · cases hs'
    exact h.push (t := .closing) trivial

theorem yields_step (h : s.Proper) (c : Char) : Scan.Yields (s.step c) Proper := by
  unfold step
  split
  · exact Scan.yields_of_forall fun start => Scan.yields_require h.enter
  · exact Scan.yields_require h.leave
  · exact Scan.yields_pure (h.push (t := .bar) trivial)
  · exact Scan.yields_bind Scan.yields_bracket fun a ha => Scan.yields_pure (h.push ha)
  · refine Scan.yields_of_forall fun greedy => Scan.yields_pure (h.push ?_)
    rintro m ⟨⟩
    exact Nat.zero_le 1
  · exact Scan.yields_of_forall fun greedy => Scan.yields_pure (h.push nofun)
  · exact Scan.yields_of_forall fun greedy => Scan.yields_pure (h.push nofun)
  · exact Scan.yields_bind Scan.yields_counted fun t ht => Scan.yields_pure (h.push ht)
  · exact Scan.yields_bind Scan.yields_escape fun a ha => Scan.yields_pure (h.push ha)
  all_goals exact Scan.yields_pure (h.push trivial)

theorem yields_rest (h : s.Proper) (fuel : Nat) : Scan.Yields (rest fuel s) Proper := by
  induction fuel generalizing s with
  | zero => exact Scan.yields_failure
  | succ fuel ih =>
    refine Scan.yields_of_forall fun _ => Scan.yields_of_forall fun cs => ?_
    split
    · exact Scan.yields_pure h
    · exact Scan.yields_of_forall fun _ => Scan.yields_bind (yields_step h _) fun s' hs' => ih hs'

end Scanned

theorem proper_of_tokens? {pattern : List Char} {ts : List Token} (h : tokens? pattern = some ts) :
    ∀ t ∈ ts, t.Proper := by
  unfold tokens? at h
  split at h
  · rename_i s rest hs
    have hstart : Scanned.Proper {} := List.forall_mem_nil _
    have hproper : s.Proper := Scanned.yields_rest hstart _ pattern (s, rest) hs
    split at h
    · cases h
      exact fun t ht => hproper t (List.mem_reverse.1 ht)
    · cases h
  · cases h

/-! ## Expressions -/

namespace Expr

/-- Atoms are proper, and repetitions have their bounds in order. -/
inductive Proper : Expr → Prop
  | empty : Proper empty
  | atom {f : Flags} {a : Atom} (h : a.Proper) : Proper (atom f a)
  | repetition {min : Nat} {max : Option Nat} {greedy : Bool} {body : Expr}
      (hle : ∀ m ∈ max, min ≤ m) (h : Proper body) : Proper (repetition min max greedy body)
  | capture {index : Nat} {body : Expr} (h : Proper body) : Proper (capture index body)
  | concat {parts : List Expr} (h : ∀ e ∈ parts, Proper e) : Proper (concat parts)
  | alternation {branches : List Expr} (h : ∀ e ∈ branches, Proper e) :
      Proper (alternation branches)

variable {es : List Expr}

theorem proper_ofParts (h : ∀ e ∈ es, e.Proper) : (ofParts es).Proper := by
  unfold ofParts
  split
  · exact .empty
  · exact h _ (.head _)
  · exact .concat h

theorem proper_ofBranches (h : ∀ e ∈ es, e.Proper) : (ofBranches es).Proper := by
  unfold ofBranches
  split
  · exact h _ (.head _)
  · exact .alternation h

namespace Level

variable {l : Level}

/-- What has been read of a group is proper. -/
structure Proper (l : Level) : Prop where
  branches : ∀ e ∈ l.branches, e.Proper
  parts : ∀ e ∈ l.parts, e.Proper

theorem proper_opening (capture : Option Nat) : Proper { capture } :=
  ⟨List.forall_mem_nil _, List.forall_mem_nil _⟩

theorem Proper.push (h : l.Proper) {e : Expr} (he : e.Proper) : (l.push e).Proper :=
  ⟨h.branches, List.forall_mem_cons.2 ⟨he, h.parts⟩⟩

theorem Proper.bar (h : l.Proper) : l.bar.Proper := by
  refine ⟨List.forall_mem_cons.2 ⟨proper_ofParts ?_, h.branches⟩, nofun⟩
  exact fun e he => h.parts e (List.mem_reverse.1 he)

theorem Proper.repeatLast? (h : l.Proper) {min : Nat} {max : Option Nat} {greedy : Bool}
    (hle : ∀ m ∈ max, min ≤ m) : ∀ l' ∈ l.repeatLast? min max greedy, l'.Proper := by
  intro l' hl'
  unfold Level.repeatLast? at hl'
  split at hl'
  · rename_i hparts
    cases hl'
    obtain ⟨he, hrest⟩ := List.forall_mem_cons.1 (hparts ▸ h.parts)
    exact ⟨h.branches, List.forall_mem_cons.2 ⟨.repetition hle he, hrest⟩⟩
  · cases hl'

theorem Proper.close (h : l.Proper) : l.close.Proper := by
  have hbody : (ofBranches l.bar.branches.reverse).Proper :=
    proper_ofBranches fun e he => h.bar.branches e (List.mem_reverse.1 he)
  unfold Level.close
  split
  · exact .capture hbody
  · exact hbody

end Level

theorem proper_of_build {l : Level} {outer : List Level} {ts : List Token} {e : Expr}
    (hl : l.Proper) (houter : ∀ l ∈ outer, l.Proper) (hts : ∀ t ∈ ts, t.Proper)
    (h : build l outer ts = some e) : e.Proper := by
  fun_induction build l outer ts with
  | case1 level =>
    cases h
    exact hl.close
  | case3 level outer f a ts ih =>
    obtain ⟨ha, hts⟩ := List.forall_mem_cons.1 hts
    exact ih (hl.push (.atom ha)) houter hts h
  | case4 level outer capture ts _ ih =>
    have houter' := List.forall_mem_cons.2 ⟨hl, houter⟩
    exact ih (Level.proper_opening capture) houter' (List.forall_mem_cons.1 hts).2 h
  | case7 level l outer ts ih =>
    obtain ⟨hl', houter⟩ := List.forall_mem_cons.1 houter
    exact ih (hl'.push hl.close) houter (List.forall_mem_cons.1 hts).2 h
  | case8 level outer ts ih => exact ih hl.bar houter (List.forall_mem_cons.1 hts).2 h
  | case9 level outer ts ih =>
    exact ih ⟨hl.branches, hl.parts⟩ houter (List.forall_mem_cons.1 hts).2 h
  | case10 _ outer min max greedy ts level hrepeat ih =>
    obtain ⟨hle, hts⟩ := List.forall_mem_cons.1 hts
    exact ih (hl.repeatLast? hle level hrepeat) houter hts h
  | _ => cases h

theorem proper_of_parse? {pattern : List Char} {e : Expr} (h : parse? pattern = some e) :
    e.Proper := by
  obtain ⟨ts, hts, hbuild⟩ := Option.bind_eq_some_iff.1 h
  exact proper_of_build (Level.proper_opening none) (List.forall_mem_nil _) (proper_of_tokens? hts)
    hbuild

end Expr

end TestDesign.Pattern

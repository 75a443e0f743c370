import TestDesign.Pattern.Simplify
import TestDesign.Proofs.ReadPatterns

/-!
# TestDesign.Proofs.PatternTrees

Trees that can be drawn from: classes are proper lists of ranges, repetitions have their bounds in
order, and every choice has a branch. The functions that build trees in their simplest form keep
this (`proper_ofRanges`, `proper_ofRepetition`, `proper_ofConcat`, `proper_ofAlternation`).

* `Expr.Proper.tree?`: the trees of expressions that are read are of this kind.
-/

namespace TestDesign.Pattern

section mapM

variable {α β : Type} {f : α → Option β} {xs : List α} {ys : List β}

theorem mapM_cons_eq_some {x : α} (h : (x :: xs).mapM f = some ys) :
    ∃ y zs, f x = some y ∧ xs.mapM f = some zs ∧ ys = y :: zs := by
  rw [List.mapM_cons] at h
  obtain ⟨y, hy, h⟩ := Option.bind_eq_some_iff.1 h
  obtain ⟨zs, hzs, h⟩ := Option.bind_eq_some_iff.1 h
  cases h
  exact ⟨y, zs, hy, hzs, rfl⟩

theorem exists_of_mem_mapM (h : xs.mapM f = some ys) : ∀ y ∈ ys, ∃ x ∈ xs, f x = some y := by
  induction xs generalizing ys with
  | nil =>
    cases h
    exact nofun
  | cons x xs ih =>
    obtain ⟨y, zs, hy, hzs, rfl⟩ := mapM_cons_eq_some h
    refine List.forall_mem_cons.2 ⟨⟨x, .head _, hy⟩, fun z hz => ?_⟩
    obtain ⟨w, hw, hwz⟩ := ih hzs z hz
    exact ⟨w, .tail _ hw, hwz⟩

theorem ne_nil_of_mapM (h : xs.mapM f = some ys) (hne : xs ≠ []) : ys ≠ [] := by
  obtain ⟨x, rest, rfl⟩ := List.exists_cons_of_ne_nil hne
  obtain ⟨y, zs, -, -, rfl⟩ := mapM_cons_eq_some h
  exact List.cons_ne_nil _ _

end mapM

namespace Tree

/-- Classes are proper, repetitions have their bounds in order, and every choice has a branch. -/
inductive Proper : Tree → Prop
  | empty : Proper empty
  | look (l : Look) : Proper (look l)
  | literal (text : List Char) : Proper (literal text)
  | chars {unicode : Bool} {rs : Ranges} (h : rs.Proper) : Proper (chars unicode rs)
  | repetition {min : Nat} {max : Option Nat} {greedy : Bool} {body : Tree}
      (hle : ∀ m ∈ max, min ≤ m) (h : Proper body) : Proper (repetition min max greedy body)
  | capture {index : Nat} {body : Tree} (h : Proper body) : Proper (capture index body)
  | concat {parts : List Tree} (h : ∀ t ∈ parts, Proper t) : Proper (concat parts)
  | alternation {branches : List Tree} (hne : branches ≠ []) (h : ∀ t ∈ branches, Proper t) :
      Proper (alternation branches)

variable {unicode : Bool} {rs : Ranges} {t : Tree} {ts : List Tree}

/-! ## Classes and repetitions -/

theorem proper_ofRanges (h : rs.Proper) : (ofRanges unicode rs).Proper := by
  unfold ofRanges
  split
  · split
    · exact .literal _
    · exact .chars h
  · exact .chars Ranges.proper_nil
  · exact .chars h

section repetition

variable {min : Nat} {max : Option Nat} {greedy : Bool} {body : Tree}

theorem proper_repeated (hle : ∀ m ∈ max, min ≤ m) (h : body.Proper) :
    (repeated min max greedy body).Proper := by
  unfold repeated
  split
  · exact .empty
  · split
    · exact h
    · exact .repetition hle h

theorem proper_ofRepetition (hle : ∀ m ∈ max, min ≤ m) (h : body.Proper) :
    (ofRepetition min max greedy body).Proper := by
  unfold ofRepetition
  split
  · refine proper_repeated ?_ h
    rintro m ⟨⟩
    cases max with
    | none => exact Nat.min_le_right _ _
    | some m =>
      have hm : min ≤ m := hle m rfl
      exact Nat.le_min.2 ⟨Nat.le_trans (Nat.min_le_left _ _) hm, Nat.min_le_right _ _⟩
  · exact proper_repeated hle h

end repetition

/-! ## Sequences -/

theorem Proper.parts (h : t.Proper) : ∀ s ∈ t.parts, s.Proper := by
  cases h with
  | empty => exact nofun
  | concat h => exact h
  | look l => exact List.forall_mem_singleton.2 (.look l)
  | literal text => exact List.forall_mem_singleton.2 (.literal text)
  | chars h => exact List.forall_mem_singleton.2 (.chars h)
  | repetition hle h => exact List.forall_mem_singleton.2 (.repetition hle h)
  | capture h => exact List.forall_mem_singleton.2 (.capture h)
  | alternation hne h => exact List.forall_mem_singleton.2 (.alternation hne h)

theorem proper_joinLiterals (h : ∀ t ∈ ts, t.Proper) : ∀ t ∈ joinLiterals ts, t.Proper := by
  fun_induction joinLiterals ts with
  | case1 => exact nofun
  | case2 s ts text rest hrest ih =>
    have htail := hrest ▸ ih fun t ht => h t (.tail _ ht)
    exact List.forall_mem_cons.2 ⟨.literal _, (List.forall_mem_cons.1 htail).2⟩
  | case3 s ts _ ih =>
    exact List.forall_mem_cons.2 ⟨.literal s, ih fun t ht => h t (.tail _ ht)⟩
  | case4 t ts _ ih =>
    exact List.forall_mem_cons.2 ⟨h t (.head _), ih fun t ht => h t (.tail _ ht)⟩

theorem proper_ofConcat (h : ∀ t ∈ ts, t.Proper) : (ofConcat ts).Proper := by
  have hjoined : ∀ t ∈ joinLiterals (ts.flatMap Tree.parts), t.Proper := by
    refine proper_joinLiterals fun s hs => ?_
    obtain ⟨t, ht, hs⟩ := List.mem_flatMap.1 hs
    exact (h t ht).parts s hs
  unfold ofConcat
  split
  · exact .empty
  · rename_i hone
    exact hjoined _ (hone ▸ .head _)
  · exact .concat hjoined

/-! ## Choices -/

theorem Proper.branches (h : t.Proper) : ∀ s ∈ t.branches, s.Proper := by
  cases h with
  | alternation _ h => exact h
  | empty => exact List.forall_mem_singleton.2 .empty
  | look l => exact List.forall_mem_singleton.2 (.look l)
  | literal text => exact List.forall_mem_singleton.2 (.literal text)
  | chars h => exact List.forall_mem_singleton.2 (.chars h)
  | repetition hle h => exact List.forall_mem_singleton.2 (.repetition hle h)
  | capture h => exact List.forall_mem_singleton.2 (.capture h)
  | concat h => exact List.forall_mem_singleton.2 (.concat h)

theorem Proper.branches_ne_nil (h : t.Proper) : t.branches ≠ [] := by
  cases h with
  | alternation hne _ => exact hne
  | _ => exact List.cons_ne_nil _ _

theorem proper_flatMap_branches (h : ∀ t ∈ ts, t.Proper) :
    ∀ t ∈ ts.flatMap Tree.branches, t.Proper := by
  intro s hs
  obtain ⟨t, ht, hs⟩ := List.mem_flatMap.1 hs
  exact (h t ht).branches s hs

theorem flatMap_branches_ne_nil (hne : ts ≠ []) (h : ∀ t ∈ ts, t.Proper) :
    ts.flatMap Tree.branches ≠ [] := by
  obtain ⟨t, rest, rfl⟩ := List.exists_cons_of_ne_nil hne
  exact List.append_ne_nil_of_left_ne_nil (h t (.head _)).branches_ne_nil _

theorem proper_class (h : t.Proper) : ∀ rs ∈ t.class?, rs.Proper := by
  intro rs hrs
  cases h with
  | chars h =>
    cases hrs
    exact h
  | _ => cases hrs

theorem proper_union? (h : ∀ t ∈ ts, t.Proper) : ∀ t ∈ union? ts, t.Proper := by
  intro t ht
  unfold union? at ht
  split at ht
  · rename_i cs _
    cases ht
    refine proper_ofRanges (Ranges.normal_normalize ?_).1
    intro r hr
    obtain ⟨c, -, rfl⟩ := List.mem_map.1 hr
    exact Ranges.isSpan_of_char_le (Nat.le_refl _)
  · split at ht
    · rename_i rss hrss
      cases ht
      refine proper_ofRanges (Ranges.normal_normalize (Ranges.proper_flatten ?_)).1
      intro rs hrs
      obtain ⟨t, ht, hclass⟩ := exists_of_mem_mapM hrss rs hrs
      exact proper_class (h t ht) rs hclass
    · cases ht

theorem mem_of_mem_common {ss : List Tree} (h : t ∈ common ss ts) : t ∈ ss := by
  fun_induction common ss ts with
  | case1 s ss u ts _ ih =>
    rcases List.mem_cons.1 h with rfl | h
    · exact .head _
    · exact .tail _ (ih h)
  | _ => cases h

theorem mem_of_mem_foldl_common {row : List Tree} {rows : List (List Tree)}
    (h : t ∈ rows.foldl common row) : t ∈ row := by
  induction rows generalizing row with
  | nil => exact h
  | cons next rows ih => exact mem_of_mem_common (ih h)

theorem proper_ofBranches (hne : ts ≠ []) (h : ∀ t ∈ ts, t.Proper) : (ofBranches ts).Proper := by
  unfold ofBranches
  cases hunion : union? ts with
  | none => exact .alternation hne h
  | some t => exact proper_union? h t hunion

theorem proper_sequence (h : t.Proper) {parts : List Tree} (ht : t.sequence? = some parts) :
    ∀ s ∈ parts, s.Proper := by
  cases h with
  | concat h =>
    cases ht
    exact h
  | _ => cases ht

theorem proper_ofSequences {rows : List (List Tree)} (hne : rows ≠ [])
    (h : ∀ row ∈ rows, ∀ t ∈ row, t.Proper) : (ofSequences rows).Proper := by
  obtain ⟨row, rest, rfl⟩ := List.exists_cons_of_ne_nil hne
  unfold ofSequences
  extract_lets shared rests
  have hshared : ∀ t ∈ shared, t.Proper :=
    fun t ht => h row (.head _) t (mem_of_mem_foldl_common ht)
  have hrests : ∀ t ∈ rests, t.Proper := by
    intro t ht
    obtain ⟨row, hrow, rfl⟩ := List.mem_map.1 ht
    exact proper_ofConcat fun t ht => h row hrow t (List.mem_of_mem_drop ht)
  split
  · refine .alternation (List.cons_ne_nil _ _) fun t ht => ?_
    obtain ⟨row, hrow, rfl⟩ := List.mem_map.1 ht
    exact .concat (h row hrow)
  · refine proper_ofConcat fun t ht => ?_
    rcases List.mem_append.1 ht with ht | ht
    · exact hshared t ht
    · cases List.mem_singleton.1 ht
      exact proper_ofBranches (flatMap_branches_ne_nil (List.cons_ne_nil _ _) hrests)
        (proper_flatMap_branches hrests)

theorem proper_ofAlternation (h : ∀ t ∈ ts, t.Proper) : (ofAlternation ts).Proper := by
  have hbranches := proper_flatMap_branches h
  unfold ofAlternation
  split
  · exact .chars Ranges.proper_nil
  · rename_i hone
    exact hbranches _ (hone ▸ .head _)
  · rename_i hnil _
    split
    · rename_i t hunion
      exact proper_union? hbranches t hunion
    · split
      · rename_i rows hrows
        refine proper_ofSequences (ne_nil_of_mapM hrows hnil) fun row hrow => ?_
        obtain ⟨t, ht, hsequence⟩ := exists_of_mem_mapM hrows row hrow
        exact proper_sequence (hbranches t ht) hsequence
      · exact .alternation hnil hbranches

end Tree

/-! ## Trees of expressions -/

variable {f : Flags} {rs : Ranges}

theorem normal_folded (h : rs.Normal) : (folded f rs).Normal := by
  unfold folded
  split
  · exact h
  · split
    · exact h.1.normal_foldAll
    · exact h.1.normal_foldAscii

theorem proper_signed {negated : Bool} (h : rs.Normal) : ∀ ss ∈ signed? f negated rs, ss.Proper := by
  intro ss hss
  unfold signed? at hss
  split at hss
  · cases hss
    exact h.1
  · split at hss
    · cases hss
      exact h.proper_complement
    · cases hss

theorem Literal.eq_of_code? {l : Literal} {c : Nat} (h : l.code? f = some c) :
    c = l.char.toNat := by
  unfold Literal.code? at h
  split at h
  · cases h
    rfl
  · cases h

theorem ClassItem.Proper.ranges {i : ClassItem} (h : i.Proper) : ∀ ss ∈ i.ranges? f, ss.Proper := by
  intro ss hss
  cases i with
  | span a b =>
    simp only [ClassItem.ranges?, Option.mem_def] at hss
    split at hss
    · rename_i lo hi hlo hhi
      cases hss
      rw [Literal.eq_of_code? hlo, Literal.eq_of_code? hhi]
      exact Ranges.proper_singleton (Ranges.isSpan_of_char_le h)
    · cases hss
  | named rs negated => exact proper_signed (normal_folded h) ss hss
  | shorthand s negated =>
    refine proper_signed ?_ ss hss
    split
    · exact Ranges.normal_unicode s
    · exact Ranges.normal_ascii s

theorem Literal.proper_tree (l : Literal) : ∀ t ∈ l.tree? f, t.Proper := by
  intro t ht
  unfold Literal.tree? at ht
  extract_lets c at ht
  have hc : Ranges.Proper [(c, c)] := Ranges.proper_singleton (Ranges.isSpan_self l.char.valid)
  split at ht
  · cases ht
  · split at ht
    · cases ht
      refine Tree.proper_ofRanges ?_
      split
      · exact hc.normal_foldAll.1
      · exact hc.normal_foldAscii.1
    · cases ht
      exact .literal _

theorem Atom.Proper.tree {a : Atom} (h : a.Proper) : ∀ t ∈ a.tree? f, t.Proper := by
  intro t ht
  cases a with
  | literal l => exact l.proper_tree t ht
  | dot =>
    simp only [Atom.tree?, Option.mem_def] at ht
    split at ht
    · cases ht
    · split at ht
      · cases ht
        exact .chars (Ranges.Normal.proper_complement (by decide))
      · split at ht <;> cases ht <;>
          exact .chars (Ranges.Normal.proper_complement (by decide))
  | look l =>
    cases ht
    exact .look l
  | shorthand s negated =>
    obtain ⟨rs, hrs, rfl⟩ := Option.map_eq_some_iff.1 ht
    exact Tree.proper_ofRanges (ClassItem.Proper.ranges (i := .shorthand s negated) trivial rs hrs)
  | bracket negated items =>
    simp only [Atom.tree?] at ht
    split at ht
    · cases ht
    · rename_i rss hrss
      obtain ⟨rs, hrs, rfl⟩ := Option.map_eq_some_iff.1 ht
      have hflatten : Ranges.Proper rss.flatten := by
        refine Ranges.proper_flatten fun ss hss => ?_
        obtain ⟨i, hi, hranges⟩ := exists_of_mem_mapM hrss ss hss
        exact (h i hi).ranges ss hranges
      have hclass := normal_folded (f := f) (Ranges.normal_normalize hflatten)
      exact Tree.proper_ofRanges (proper_signed hclass rs hrs)

namespace Expr

theorem exists_tree_of_mem_trees {es : List Expr} {ts : List Tree} (h : trees? es = some ts) :
    ∀ t ∈ ts, ∃ e ∈ es, e.tree? = some t := by
  induction es generalizing ts with
  | nil =>
    cases h
    exact nofun
  | cons e es ih =>
    rw [trees?] at h
    split at h
    · rename_i t ts ht hts
      cases h
      refine List.forall_mem_cons.2 ⟨⟨e, .head _, ht⟩, fun s hs => ?_⟩
      obtain ⟨d, hd, hds⟩ := ih hts s hs
      exact ⟨d, .tail _ hd, hds⟩
    · cases h

/-- What is read has a tree that texts can be drawn from. -/
theorem Proper.tree {e : Expr} (h : e.Proper) : ∀ t ∈ e.tree?, t.Proper := by
  induction h with
  | empty =>
    rintro t ⟨⟩
    exact .empty
  | atom h => exact h.tree
  | repetition hle _ ih =>
    intro t ht
    obtain ⟨body, hbody, rfl⟩ := Option.map_eq_some_iff.1 ht
    exact Tree.proper_ofRepetition hle (ih body hbody)
  | capture _ ih =>
    intro t ht
    obtain ⟨body, hbody, rfl⟩ := Option.map_eq_some_iff.1 ht
    exact .capture (ih body hbody)
  | concat _ ih =>
    intro t ht
    obtain ⟨ts, hts, rfl⟩ := Option.map_eq_some_iff.1 ht
    refine Tree.proper_ofConcat fun t ht => ?_
    obtain ⟨e, he, htree⟩ := exists_tree_of_mem_trees hts t ht
    exact ih e he t htree
  | alternation _ ih =>
    intro t ht
    obtain ⟨ts, hts, rfl⟩ := Option.map_eq_some_iff.1 ht
    refine Tree.proper_ofAlternation fun t ht => ?_
    obtain ⟨e, he, htree⟩ := exists_tree_of_mem_trees hts t ht
    exact ih e he t htree

end Expr

end TestDesign.Pattern

import Mathlib
import TestDesign.Pattern.Format
import TestDesign.Pattern.Language
import TestDesign.Proofs.AnchoredPatterns
import TestDesign.Proofs.PatternTrees

/-!
# TestDesign.Proofs.SampledTexts

The texts drawn for a format belong to the language of its tree. Drawing appends to what has been
drawn before: a tree appends one of its texts (`Tree.Proper.appends`), by one lemma for each way to
build a tree.

* `Format.always_valid_matches`: a format without conditions on positions and without empty classes
  draws texts of its language, and its matcher accepts them if it spans this language.
-/

namespace TestDesign.Pattern

open TestDesign.Random

namespace Tree

mutual

/-- No part of the tree is a condition on a position or an empty class. -/
def isPlain : Tree → Bool
  | empty => true
  | look _ => false
  | literal _ => true
  | chars _ rs => !rs.isEmpty
  | repetition _ _ _ body => body.isPlain
  | capture _ body => body.isPlain
  | concat parts => arePlain parts
  | alternation branches => arePlain branches

def arePlain : List Tree → Bool
  | [] => true
  | t :: ts => t.isPlain && arePlain ts

end

variable {t : Tree} {ts : List Tree} {p : List Char → Prop}

theorem isPlain_of_arePlain (h : arePlain ts = true) : ∀ t ∈ ts, t.isPlain = true := by
  induction ts with
  | nil => exact nofun
  | cons t ts ih =>
    obtain ⟨ht, hts⟩ := Bool.and_eq_true_iff.1 h
    exact List.forall_mem_cons.2 ⟨ht, ih hts⟩

/-! ## Appending -/

/-- What the draw appends to a text satisfies `p`. -/
def Appends (d : String → Draw String) (p : List Char → Prop) : Prop :=
  ∀ s, Draw.Always (d s) fun s' => ∃ u, p u ∧ s'.toList = s.toList ++ u

theorem appends_nothing (h : p []) : Appends (fun s => return s) p :=
  fun _ => Draw.always_pure ⟨[], h, (List.append_nil _).symm⟩

theorem appends_chars {unicode : Bool} {rs : Ranges} (h : rs.Proper) (hne : rs ≠ []) :
    Appends (chars unicode rs).append (chars unicode rs).Describes := by
  intro s
  have hpick : Draw.Always (Ranges.pick (if unicode then rs.printable else rs)) fun x =>
      ∃ c, x = some c ∧ rs.holds c.toNat = true := by
    cases unicode with
    | true =>
      refine (Ranges.always_pick h.printable (Ranges.printable_ne_nil hne)).mono ?_
      rintro x ⟨c, hx, hc⟩
      exact ⟨c, hx, Ranges.holds_of_printable hc⟩
    | false => exact Ranges.always_pick h hne
  rw [append]
  refine Draw.always_bind hpick ?_
  rintro _ ⟨c, rfl, hc⟩
  exact Draw.always_pure ⟨[c], ⟨c, hc, rfl⟩, String.toList_push _⟩

theorem always_drawCount {min : Nat} {max : Option Nat} (hle : ∀ m ∈ max, min ≤ m) :
    Draw.Always (drawCount min max) fun n => min ≤ n ∧ ∀ m ∈ max, n ≤ m := by
  refine Draw.always_of_forall fun i => Draw.always_pure ⟨Nat.le_add_right _ _, ?_⟩
  rintro m ⟨⟩
  have hmin := hle m rfl
  have hi := i.isLt
  simp only [Option.getD_some] at hi
  omega

theorem appends_times {d : String → Draw String} (h : Appends d p) (n : Nat) :
    Appends (appendTimes d n) (Repeats p n) := by
  induction n with
  | zero => exact appends_nothing .zero
  | succ n ih =>
    intro s
    refine Draw.always_bind (h s) ?_
    rintro s' ⟨u, hu, hs'⟩
    refine (ih s').mono ?_
    rintro s'' ⟨v, hv, hs''⟩
    exact ⟨u ++ v, .succ hu hv, by rw [hs'', hs', List.append_assoc]⟩

theorem appends_repetition {min : Nat} {max : Option Nat} {greedy : Bool}
    (hle : ∀ m ∈ max, min ≤ m) (h : Appends t.append t.Describes) :
    Appends (repetition min max greedy t).append (repetition min max greedy t).Describes := by
  intro s
  rw [append]
  refine Draw.always_bind (always_drawCount hle) ?_
  rintro n ⟨hmin, hmax⟩
  refine (appends_times h n s).mono ?_
  rintro s' ⟨u, hu, hs'⟩
  exact ⟨u, ⟨n, hmin, hmax, hu⟩, hs'⟩

theorem appends_all (h : ∀ t ∈ ts, Appends t.append t.Describes) :
    Appends (appendAll ts) (AllDescribe ts) := by
  induction ts with
  | nil => exact appends_nothing rfl
  | cons t ts ih =>
    obtain ⟨ht, hts⟩ := List.forall_mem_cons.1 h
    intro s
    rw [appendAll]
    refine Draw.always_bind (ht s) ?_
    rintro s' ⟨u, hu, hs'⟩
    refine (ih hts s').mono ?_
    rintro s'' ⟨v, hv, hs''⟩
    exact ⟨u ++ v, ⟨u, v, hu, hv, rfl⟩, by rw [hs'', hs', List.append_assoc]⟩

theorem appends_nth {i : Nat} (h : ∀ t ∈ ts, Appends t.append t.Describes) (hi : i < ts.length) :
    Appends (appendNth ts i) (AnyDescribes ts) := by
  induction ts generalizing i with
  | nil => cases hi
  | cons t ts ih =>
    obtain ⟨ht, hts⟩ := List.forall_mem_cons.1 h
    intro s
    cases i with
    | zero =>
      refine (ht s).mono ?_
      rintro s' ⟨u, hu, hs'⟩
      exact ⟨u, .inl hu, hs'⟩
    | succ i =>
      refine (ih hts (Nat.lt_of_succ_lt_succ hi) s).mono ?_
      rintro s' ⟨u, hu, hs'⟩
      exact ⟨u, .inr hu, hs'⟩

theorem appends_alternation (hne : ts ≠ []) (h : ∀ t ∈ ts, Appends t.append t.Describes) :
    Appends (alternation ts).append (alternation ts).Describes := by
  intro s
  rw [append, dif_pos (List.length_pos_iff.2 hne)]
  exact Draw.always_of_forall fun i => appends_nth h i.isLt s

/-- A tree appends one of its texts. -/
theorem Proper.appends (h : t.Proper) (hplain : t.isPlain = true) :
    Appends t.append t.Describes := by
  induction h with
  | empty => exact appends_nothing rfl
  | look l => cases hplain
  | literal text =>
    intro s
    exact Draw.always_pure ⟨text, rfl, by rw [String.toList_append, String.toList_ofList]⟩
  | chars h =>
    refine appends_chars h fun hnil => ?_
    subst hnil
    cases hplain
  | repetition hle _ ih => exact appends_repetition hle (ih hplain)
  | capture _ ih => exact ih hplain
  | concat _ ih =>
    exact appends_all fun t ht => ih t ht (isPlain_of_arePlain hplain t ht)
  | alternation hne _ ih =>
    exact appends_alternation hne fun t ht => ih t ht (isPlain_of_arePlain hplain t ht)

theorem Proper.always_sample (h : t.Proper) (hplain : t.isPlain = true) :
    Draw.Always t.sample fun s => t.Describes s.toList := by
  refine (h.appends hplain "").mono ?_
  rintro s ⟨u, hu, hs⟩
  exact hs ▸ hu

end Tree

/-! ## Formats -/

namespace Format

variable {pattern : String} {f : Format}

theorem parts_of_of? (hf : of? pattern = some f) :
    (∃ e, Expr.parse? pattern.toList = some e ∧ e.tree? = some f.tree) ∧
      matcher? pattern = some f.matcher := by
  unfold of? at hf
  split at hf
  · rename_i tree matcher htree hmatcher
    cases hf
    exact ⟨Option.bind_eq_some_iff.1 htree, hmatcher⟩
  · cases hf

/-- A text matches when the expression of the pattern spans all of it. -/
theorem isMatch_iff {e : Expr} (hf : of? pattern = some f)
    (he : Expr.parse? pattern.toList = some e) (s : String) :
    f.isMatch s = true ↔ e.Spans s.toList 0 s.toList.length := by
  obtain ⟨-, hmatcher⟩ := parts_of_of? hf
  have hproper : f.matcher.Proper :=
    Expr.proper_of_parse? (Option.filter_eq_some_iff.1 hmatcher).1
  rw [isMatch, hproper.accepts_iff, eq_whole_of_matcher? he hmatcher, Expr.spans_whole]

/-- Every text drawn for a format whose tree has no condition on a position and no empty class is
one of the texts of this tree. If the expression of the pattern spans the same texts when they are
matched, it accepts what is drawn. -/
theorem always_valid_matches (hf : of? pattern = some f) (hplain : f.tree.isPlain = true) :
    Draw.Always f.valid (fun s => f.tree.Describes s.toList) ∧
      ∃ e, Expr.parse? pattern.toList = some e ∧
        ((∀ text, e.Spans text 0 text.length ↔ f.tree.Describes text) →
          Draw.Always f.valid fun s => f.isMatch s = true) := by
  obtain ⟨⟨e, he, htree⟩, -⟩ := parts_of_of? hf
  have hproper : f.tree.Proper := (Expr.proper_of_parse? he).tree f.tree htree
  have hvalid : Draw.Always f.valid fun s => f.tree.Describes s.toList :=
    hproper.always_sample hplain
  refine ⟨hvalid, e, he, fun hsame => hvalid.mono fun s hs => ?_⟩
  exact (isMatch_iff hf he s).2 ((hsame s.toList).2 hs)

/-- A letter of a pattern that stands for itself. -/
def letter (c : Char) : Expr := .atom {} (.literal { char := c })

theorem spans_letter {text : List Char} {c : Char} {i j : Nat} :
    (letter c).Spans text i j ↔ j = i + 1 ∧ text[i]? = some c := by
  constructor
  · rintro ⟨hj, d, hd, hholds⟩
    obtain ⟨r, hr, hle, hge⟩ := Ranges.holds_iff.1 hholds
    cases List.mem_singleton.1 hr
    obtain rfl : c = d := Char.toNat_inj.1 (Nat.le_antisymm hle hge)
    exact ⟨hj, hd⟩
  · rintro ⟨hj, hc⟩
    exact ⟨hj, c, hc, Ranges.holds_iff.2 ⟨_, .head _, Nat.le_refl _, Nat.le_refl _⟩⟩

/-- Letters span the rest of a text that they write. -/
theorem allSpan_letters {text cs : List Char} {i : Nat} (hi : i ≤ text.length) :
    Expr.AllSpan text (cs.map letter) i text.length ↔ text.drop i = cs := by
  induction cs generalizing i with
  | nil =>
    rw [List.drop_eq_nil_iff]
    exact ⟨Nat.le_of_eq, fun hle => Nat.le_antisymm hle hi⟩
  | cons c cs ih =>
    constructor
    · rintro ⟨k, hletter, hrest⟩
      obtain ⟨rfl, hc⟩ := spans_letter.1 hletter
      obtain ⟨hlt, rfl⟩ := List.getElem?_eq_some_iff.1 hc
      rw [List.drop_eq_getElem_cons hlt, (ih hlt).1 hrest]
    · intro h
      have hlt : i < text.length := by
        refine Nat.lt_of_not_le fun hle => ?_
        rw [List.drop_eq_nil_of_le hle] at h
        cases h
      rw [List.drop_eq_getElem_cons hlt] at h
      obtain ⟨hc, hrest⟩ := List.cons.inj h
      exact ⟨i + 1, spans_letter.2 ⟨rfl, List.getElem?_eq_some_iff.2 ⟨hlt, hc⟩⟩, (ih hlt).2 hrest⟩

/-- The expression of a choice between words. -/
def wordChoice (words : List String) : Expr :=
  .capture 0 (.alternation (words.map fun w => .concat (w.toList.map letter)))

theorem spans_wordChoice {words : List String} {text : List Char} :
    (wordChoice words).Spans text 0 text.length ↔ ∃ w ∈ words, text = w.toList := by
  change Expr.AnySpans text _ 0 text.length ↔ _
  induction words with
  | nil => simp [Expr.AnySpans]
  | cons w words ih =>
    simp only [List.map_cons, Expr.AnySpans, ih, List.mem_cons, exists_eq_or_imp]
    exact or_congr_left (allSpan_letters (Nat.zero_le _))

theorem parse?_answers :
    Expr.parse? "(yes|no|maybe)".toList = some (wordChoice ["yes", "no", "maybe"]) := by cbv

/-- The tree of the answers yes, no and maybe. -/
def answers : Tree := .capture 0
  (.alternation [.literal "yes".toList, .literal "no".toList, .literal "maybe".toList])

theorem tree?_answers : (wordChoice ["yes", "no", "maybe"]).tree? = some answers := by cbv

/-- What is drawn for the format of the answers matches it. -/
theorem answers_match :
    ∃ f, of? "(yes|no|maybe)" = some f ∧ f.tree.isPlain = true ∧
      Draw.Always f.valid (fun s => f.tree.Describes s.toList) ∧
      Draw.Always f.valid fun s => f.isMatch s = true := by
  have hmatcher : (matcher? "(yes|no|maybe)").isSome = true := by decide +kernel
  obtain ⟨m, hm⟩ := Option.isSome_iff_exists.1 hmatcher
  have hof : of? "(yes|no|maybe)" =
      some { pattern := "(yes|no|maybe)", tree := answers, matcher := m } := by
    rw [of?, parse?_answers, Option.bind_some, tree?_answers, hm]
  obtain ⟨hvalid, e, he, hmatches⟩ := always_valid_matches hof rfl
  refine ⟨_, hof, rfl, hvalid, hmatches fun text => ?_⟩
  cases parse?_answers.symm.trans he
  rw [spans_wordChoice]
  simp [Tree.Describes, Tree.AnyDescribes, answers]

end Format

end TestDesign.Pattern

import TestDesign.Pattern.Limits

/-!
# TestDesign.Proofs.AnchoredScans

What a scan takes from a pattern, it takes also when the end of a group, `)$`, stands behind the
pattern (`Scan.Agree`). Only a comment can take that end too, and then the group is never closed.
The scans of escapes, classes, repetitions and the openings of groups all keep to this
(`Scan.Kept`).
-/

namespace TestDesign.Pattern

/-- The end of an anchored pattern. -/
def closing : List Char := [')', '$']

/-- What is left of the anchored pattern when `cs` is left of the pattern: the end stands behind
it, or a comment has taken the end. -/
def Follows (cs ds : List Char) : Prop := ds = cs ++ closing ∨ ds = cs

theorem Follows.of_cons {c : Char} {cs ds : List Char} (h : Follows (c :: cs) ds) :
    ∃ ds', ds = c :: ds' ∧ Follows cs ds' := by
  rcases h with rfl | rfl
  · exact ⟨_, rfl, .inl rfl⟩
  · exact ⟨_, rfl, .inr rfl⟩

/-- What is not the end of the group comes from the pattern. -/
theorem Follows.of_cons_right {c : Char} {cs ds : List Char} (h : Follows cs (c :: ds))
    (hc : c ≠ ')') : ∃ cs', cs = c :: cs' ∧ Follows cs' ds := by
  cases cs with
  | nil =>
    rcases h with h | h
    · exact absurd (List.cons.inj h).1 hc
    · cases h
  | cons d cs =>
    obtain ⟨ds, heq, hrest⟩ := h.of_cons
    obtain ⟨rfl, rfl⟩ := List.cons.inj heq
    exact ⟨cs, rfl, hrest⟩

theorem Follows.cons {cs ds : List Char} (h : Follows cs ds) (c : Char) :
    Follows (c :: cs) (c :: ds) := by
  rcases h with rfl | rfl
  · exact .inl rfl
  · exact .inr rfl

theorem Follows.length_le {cs ds : List Char} (h : Follows cs ds) : cs.length ≤ ds.length := by
  rcases h with rfl | rfl
  · rw [List.length_append]
    exact Nat.le_add_right _ _
  · exact Nat.le_refl _

namespace Scan

variable {α β γ δ : Type} {R : α → β → Prop} {S : γ → δ → Prop}

/-- What the first scan takes from `cs`, the second one takes from `ds`: their results are related
by `R`, and what they leave follows. -/
def AgreeAt (R : α → β → Prop) (x : Scan α) (y : Scan β) (cs ds : List Char) : Prop :=
  ∀ a cs', x.run cs = some (a, cs') → ∃ b ds', y.run ds = some (b, ds') ∧ R a b ∧ Follows cs' ds'

/-- What the first scan takes from a pattern, the second one takes from the anchored pattern. -/
def Agree (R : α → β → Prop) (x : Scan α) (y : Scan β) : Prop :=
  ∀ cs ds, Follows cs ds → AgreeAt R x y cs ds

/-- The scan takes the same from the anchored pattern. -/
abbrev Kept (x : Scan α) : Prop := Agree Eq x x

section agree

variable {x x' : Scan α} {y y' : Scan β} {cs ds : List Char}

theorem agreeAt_pure {a : α} {b : β} (h : R a b) (hds : Follows cs ds) :
    AgreeAt R (pure a) (pure b) cs ds := by
  rintro _ _ ⟨⟩
  exact ⟨b, ds, rfl, h, hds⟩

theorem agreeAt_failure : AgreeAt R failure y cs ds := nofun

/-- After equal results both go on with the same value. -/
theorem agreeAt_bind {x y : Scan α} {k : α → Scan γ} {l : α → Scan δ}
    (h : AgreeAt Eq x y cs ds) (hk : ∀ a, Agree S (k a) (l a)) :
    AgreeAt S (x >>= k) (y >>= l) cs ds := by
  intro c cs'' hc
  obtain ⟨⟨a, cs'⟩, ha, hc⟩ := Option.bind_eq_some_iff.1 hc
  obtain ⟨_, ds', hb, rfl, hds'⟩ := h a cs' ha
  obtain ⟨d, ds'', hd, hcd, hds''⟩ := hk a cs' ds' hds' c cs'' hc
  exact ⟨d, ds'', Option.bind_eq_some_iff.2 ⟨(a, ds'), hb, hd⟩, hcd, hds''⟩

theorem agreeAt_ite {c : Prop} [Decidable c] (h : c → AgreeAt R x y cs ds)
    (h' : ¬c → AgreeAt R x' y' cs ds) :
    AgreeAt R (if c then x else x') (if c then y else y') cs ds := by
  split
  · exact h ‹_›
  · exact h' ‹_›

/-- Both go on with other rests. -/
theorem agreeAt_set {cs' ds' : List Char} (h : AgreeAt R x y cs' ds') :
    AgreeAt R (do set cs'; x) (do set ds'; y) cs ds := h

theorem agree_pure {a : α} {b : β} (h : R a b) : Agree R (pure a) (pure b) :=
  fun _ _ => agreeAt_pure h

theorem agree_failure : Agree R failure y := fun _ _ _ => agreeAt_failure

theorem agree_bind {x y : Scan α} {k : α → Scan γ} {l : α → Scan δ} (h : Agree Eq x y)
    (hk : ∀ a, Agree S (k a) (l a)) : Agree S (x >>= k) (y >>= l) :=
  fun cs ds hds => agreeAt_bind (h cs ds hds) hk

theorem agree_ite {c : Prop} [Decidable c] (h : c → Agree R x y) (h' : ¬c → Agree R x' y') :
    Agree R (if c then x else x') (if c then y else y') :=
  fun cs ds hds => agreeAt_ite (fun hc => h hc cs ds hds) fun hc => h' hc cs ds hds

/-- Both look at their rests. -/
theorem agree_get_bind {k : List Char → Scan α} {l : List Char → Scan β}
    (h : ∀ cs ds, Follows cs ds → AgreeAt R (k cs) (l ds) cs ds) :
    Agree R (get >>= k) (get >>= l) := h

end agree

section kept

variable {x y : Scan α} {k : α → Scan γ}

theorem kept_pure (a : α) : Kept (pure a : Scan α) := agree_pure rfl

theorem kept_failure : Kept (failure : Scan α) := agree_failure

theorem kept_bind (h : Kept x) (hk : ∀ a, Kept (k a)) : Kept (x >>= k) := agree_bind h hk

theorem kept_map (g : α → γ) (h : Kept x) : Kept (g <$> x) := by
  rw [← bind_pure_comp]
  exact kept_bind h fun a => kept_pure (g a)

theorem kept_ite {c : Prop} [Decidable c] (h : Kept x) (h' : Kept y) :
    Kept (if c then x else y) := agree_ite (fun _ => h) fun _ => h'

/-- Only an end that still stands behind the pattern matters. -/
theorem kept_of_append
    (h : ∀ cs a cs', x.run cs = some (a, cs') →
      ∃ ds', x.run (cs ++ closing) = some (a, ds') ∧ Follows cs' ds') : Kept x := by
  rintro cs ds (rfl | rfl) a cs' ha
  · obtain ⟨ds', hds', hfollows⟩ := h cs a cs' ha
    exact ⟨a, ds', hds', rfl, hfollows⟩
  · exact ⟨a, cs', ha, rfl, .inr rfl⟩

end kept

theorem agree_require {o : Option α} {o' : Option β} (h : ∀ a, o = some a → ∃ b, o' = some b ∧ R a b) :
    Agree R (require o) (require o') := by
  rintro cs ds hds a cs' ha
  obtain ⟨a, ho, ⟨⟩⟩ := Option.map_eq_some_iff.1 ha
  obtain ⟨b, ho', hab⟩ := h a ho
  exact ⟨b, ds, Option.map_eq_some_iff.2 ⟨b, ho', rfl⟩, hab, hds⟩

theorem kept_require (o : Option α) : Kept (require o) := agree_require fun a ha => ⟨a, ha, rfl⟩

theorem kept_next : Kept next := by
  refine kept_of_append fun cs a cs' h => ?_
  cases cs with
  | nil => cases h
  | cons c cs =>
    cases h
    exact ⟨_, rfl, .inl rfl⟩

theorem prefix_append_closing {word cs : List Char} (h : ')' ∉ word) :
    word <+: cs ++ closing ↔ word <+: cs := by
  have hassoc : cs ++ closing = cs ++ [')'] ++ ['$'] := by simp [closing]
  rw [hassoc, List.prefix_concat_iff, List.prefix_concat_iff]
  constructor
  · rintro (rfl | rfl | hstart)
    · simp at h
    · simp at h
    · exact hstart
  · exact fun hstart => .inr (.inr hstart)

theorem kept_accept {word : String} (h : ')' ∉ word.toList) : Kept (accept word) := by
  refine kept_of_append fun cs a cs' ha => ?_
  have hsame : word.toList.isPrefixOf (cs ++ closing) = word.toList.isPrefixOf cs := by
    rw [Bool.eq_iff_iff, List.isPrefixOf_iff_prefix, List.isPrefixOf_iff_prefix]
    exact prefix_append_closing h
  change (if word.toList.isPrefixOf cs then _ else _ : Scan Bool).run cs = _ at ha
  change ∃ ds', (if word.toList.isPrefixOf (cs ++ closing) then _ else _ : Scan Bool).run _ = _ ∧ _
  rw [hsame]
  split at ha
  · rename_i hstart
    have hle : word.length ≤ cs.length := by
      rw [← String.length_toList]
      exact (List.isPrefixOf_iff_prefix.1 hstart).length_le
    cases ha
    rw [if_pos hstart]
    exact ⟨_, rfl, .inl (List.drop_append_of_le_length hle)⟩
  · rename_i hstart
    cases ha
    rw [if_neg hstart]
    exact ⟨_, rfl, .inl rfl⟩

/-! ## Blanks and comments -/

theorem not_isBlank_paren : Text.isBlank ')' = false :=
  Text.not_isBlank_of_visible (by decide) (by decide)

theorem skipBlanks_closing : skipBlanks false closing = closing := by
  simp [skipBlanks, closing, not_isBlank_paren]

theorem follows_skipBlanks (inside : Bool) (cs : List Char) :
    Follows (skipBlanks inside cs) (skipBlanks inside (cs ++ closing)) := by
  fun_induction skipBlanks inside cs with
  | case1 inside =>
    cases inside with
    | true => exact .inr (by decide)
    | false => exact .inl skipBlanks_closing
  | case2 c cs ih => exact ih
  | case3 c cs hblank ih =>
    rw [List.cons_append, skipBlanks, if_pos hblank]
    exact ih
  | case4 cs hblank ih =>
    rw [List.cons_append, skipBlanks, if_neg hblank, if_pos rfl]
    exact ih
  | case5 c cs hblank hcomment =>
    rw [List.cons_append, skipBlanks, if_neg hblank, if_neg hcomment]
    exact .inl rfl

theorem follows_significant {cs ds : List Char} (f : Flags) (h : Follows cs ds) :
    Follows (significant f cs) (significant f ds) := by
  unfold significant
  split
  · rcases h with rfl | rfl
    · exact follows_skipBlanks false cs
    · exact .inr rfl
  · exact h

theorem kept_skip (f : Flags) : Kept (skip f) := by
  refine kept_of_append fun cs a cs' h => ?_
  cases h
  exact ⟨_, rfl, follows_significant f (.inl rfl)⟩

/-! ## Runs of characters -/

theorem takeWhile_append_closing {p : Char → Bool} {cs : List Char}
    (h : p ')' = false ∨ cs.dropWhile p ≠ []) :
    (cs ++ closing).takeWhile p = cs.takeWhile p ∧
      (cs ++ closing).dropWhile p = cs.dropWhile p ++ closing := by
  induction cs with
  | nil =>
    rcases h with h | h
    · simp [closing, h]
    · exact absurd rfl h
  | cons c cs ih =>
    cases hc : p c with
    | true =>
      simp only [List.dropWhile_cons_of_pos hc] at h
      simp [hc, ih h]
    | false => simp [hc]

theorem kept_takeWhile {p : Char → Bool} (h : p ')' = false) : Kept (takeWhile p) := by
  refine kept_of_append fun cs a cs' ha => ?_
  cases ha
  obtain ⟨htake, hdrop⟩ : _ ∧ (cs ++ closing).dropWhile p = _ := takeWhile_append_closing (.inl h)
  exact ⟨_, congrArg some (Prod.ext htake rfl), .inl hdrop⟩

/-- A run that is followed by something ends before the end of the group. -/
theorem kept_takeWhile_bind {p : Char → Bool} {k : List Char → Scan γ}
    (hk : ∀ a, Kept (k a)) (hnil : ∀ a, (k a).run [] = none) : Kept (takeWhile p >>= k) := by
  refine kept_of_append fun cs c cs' hc => ?_
  change (k (cs.takeWhile p)).run (cs.dropWhile p) = some (c, cs') at hc
  have hdrop : cs.dropWhile p ≠ [] := by
    intro h
    rw [h, hnil] at hc
    cases hc
  obtain ⟨htake, hrest⟩ := takeWhile_append_closing (.inr hdrop)
  obtain ⟨d, ds', hd, rfl, hds'⟩ := hk _ _ _ (.inl rfl) c cs' hc
  refine ⟨ds', ?_, hds'⟩
  change (k ((cs ++ closing).takeWhile p)).run ((cs ++ closing).dropWhile p) = _
  rw [htake, hrest, hd]

/-! ## Escapes -/

theorem kept_hexDigit : Kept hexDigit := kept_bind kept_next fun _ => kept_require _

theorem kept_hexDigits (f : Flags) (n v : Nat) : Kept (hexDigits f n v) := by
  induction n generalizing v with
  | zero => exact kept_pure v
  | succ n ih =>
    exact kept_bind kept_hexDigit fun d => kept_bind (kept_skip f) fun _ => ih _

theorem exists_succ_of_le {m n : Nat} (h : m + 1 ≤ n) : ∃ k, n = k + 1 ∧ m ≤ k := by
  obtain ⟨k, rfl⟩ := Nat.exists_eq_add_of_le' h
  exact ⟨k + m, rfl, Nat.le_add_left m k⟩

theorem agree_hexUntilBrace (f : Flags) {m n : Nat} (h : m ≤ n) (v : Nat) :
    Agree Eq (hexUntilBrace f m v) (hexUntilBrace f n v) := by
  induction m generalizing n v with
  | zero => exact agree_failure
  | succ m ih =>
    obtain ⟨n, rfl, hle⟩ := exists_succ_of_le h
    refine agree_bind (kept_accept (by decide)) fun closed => ?_
    refine agree_ite (fun _ => kept_bind (kept_skip f) fun _ => kept_pure v) fun _ => ?_
    refine agree_bind kept_hexDigit fun d => ?_
    exact agree_bind (kept_skip f) fun _ => ih hle _

/-- More fuel does no harm, so it may be taken from the length of what is left. -/
theorem kept_fueled {k : Nat → Scan γ} (h : ∀ m n, m ≤ n → Agree Eq (k m) (k n)) :
    Kept (do k ((← get).length + 1)) :=
  agree_get_bind fun cs ds hds => h _ _ (Nat.succ_le_succ hds.length_le) cs ds hds

theorem kept_hexLiteral (f : Flags) (n : Nat) : Kept (hexLiteral f n) := by
  unfold hexLiteral
  refine kept_bind (kept_skip f) fun _ => kept_bind (kept_accept (by decide)) fun braced => ?_
  extract_lets done
  have hdone (v : Nat) : Kept (done v) := kept_ite (kept_pure _) kept_failure
  refine kept_ite ?_ (kept_bind (kept_hexDigits f n 0) hdone)
  refine kept_bind (kept_skip f) fun _ => kept_bind kept_hexDigit fun d => ?_
  refine kept_bind (kept_skip f) fun _ => ?_
  exact kept_fueled fun m n hle => agree_bind (agree_hexUntilBrace f hle d) hdone

theorem significant_closing (f : Flags) : significant f closing = closing := by
  unfold significant
  split
  · exact skipBlanks_closing
  · rfl

theorem length_skipBlanks_le (inside : Bool) (cs : List Char) :
    (skipBlanks inside cs).length ≤ cs.length := by
  fun_induction skipBlanks inside cs with
  | case1 => exact Nat.le_refl _
  | case2 _ _ ih => exact Nat.le_succ_of_le ih
  | case3 _ _ _ ih => exact Nat.le_succ_of_le ih
  | case4 _ _ ih => exact Nat.le_succ_of_le ih
  | case5 => exact Nat.le_refl _

theorem length_significant_le (f : Flags) (cs : List Char) :
    (significant f cs).length ≤ cs.length := by
  unfold significant
  split
  · exact length_skipBlanks_le false cs
  · exact Nat.le_refl _

/-- The name of an edge ends before the end of the group does. -/
theorem agreeAt_lookName (f : Flags) {cs ds name : List Char} {m n : Nat} (hm : cs.length ≤ m)
    (hle : m ≤ n) (hds : Follows cs ds) :
    AgreeAt Eq (lookName f m name) (lookName f n name) cs ds := by
  have hnil {ds : List Char} (name : List Char) (hds : Follows [] ds) (m n : Nat) :
      AgreeAt Eq (lookName f m name) (lookName f n name) [] ds := by
    cases m <;> cases n <;> rcases hds with rfl | rfl <;>
      first
        | exact agreeAt_pure rfl (.inl rfl)
        | exact agreeAt_pure rfl (.inr rfl)
  induction m generalizing cs ds n name with
  | zero =>
    cases List.eq_nil_of_length_eq_zero (Nat.le_zero.1 hm)
    exact hnil name hds 0 n
  | succ m ih =>
    cases cs with
    | nil => exact hnil name hds (m + 1) n
    | cons c cs =>
      obtain ⟨n, rfl, hfuel⟩ := exists_succ_of_le hle
      obtain ⟨ds, rfl, hrest⟩ := hds.of_cons
      refine agreeAt_ite (fun _ => ?_) fun _ => agreeAt_pure rfl hds
      have hlen : (significant f cs).length ≤ m :=
        Nat.le_trans (length_significant_le f cs) (Nat.le_of_succ_le_succ hm)
      exact ih hlen hfuel (follows_significant f hrest)

theorem kept_wordLook (f : Flags) : Kept (wordLook f) := by
  refine agree_get_bind fun cs ds hds => ?_
  cases cs with
  | nil =>
    rcases hds with rfl | rfl
    · exact agreeAt_pure rfl (.inl rfl)
    · exact agreeAt_pure rfl (.inr rfl)
  | cons c cs =>
    obtain ⟨ds, rfl, hrest⟩ := hds.of_cons
    by_cases hc : c = '{'
    · subst hc
      have hblanks := follows_significant f hrest
      simp only
      cases hcs : significant f cs with
      | nil => exact agreeAt_failure
      | cons c cs =>
        rw [hcs] at hblanks
        obtain ⟨ds', hds', hrest'⟩ := hblanks.of_cons
        rw [hds']
        refine agreeAt_ite (fun _ => agreeAt_set ?_) fun _ => agreeAt_pure rfl hds
        have hle : cs.length + 1 ≤ ds'.length + 1 := Nat.succ_le_succ hrest'.length_le
        refine agreeAt_bind (agreeAt_lookName f (Nat.le_refl _) hle (hrest'.cons c)) fun name => ?_
        refine kept_bind (kept_accept (by decide)) fun _ => kept_ite ?_ kept_failure
        split
        case h_5 => exact kept_failure
        all_goals exact kept_pure _
    · split
      · rename_i heq
        exact absurd (List.cons.inj heq).1 hc
      · split
        · rename_i heq
          exact absurd (List.cons.inj heq).1 hc
        · exact agreeAt_pure rfl hds

theorem kept_escape (f : Flags) : Kept (escape f) := by
  refine kept_bind kept_next fun c => ?_
  split
  case h_1 | h_2 | h_3 => exact kept_bind (kept_hexLiteral f _) fun l => kept_pure _
  case h_18 => exact kept_bind (kept_wordLook f) fun e => kept_pure _
  case h_22 => exact kept_ite (kept_pure _) kept_failure
  all_goals exact kept_pure _

/-! ## Bracketed classes -/

theorem kept_classPart (f : Flags) : Kept (classPart f) := by
  refine kept_bind kept_next fun c => kept_ite ?_ (kept_pure _)
  refine kept_bind (kept_escape f) fun a => ?_
  split
  · exact kept_pure _
  · exact kept_pure _
  · exact kept_failure

theorem kept_classItem (f : Flags) : Kept (classItem f) := by
  refine kept_bind (kept_classPart f) fun ⟨item, first⟩ => kept_bind (kept_skip f) fun _ => ?_
  refine agree_get_bind fun cs ds hds => ?_
  cases cs with
  | nil => exact agreeAt_failure
  | cons c cs =>
    obtain ⟨ds, rfl, hrest⟩ := hds.of_cons
    by_cases hc : c = '-'
    · subst hc
      have hblanks := follows_significant f hrest
      simp only
      cases hcs : significant f cs with
      | nil => exact nofun
      | cons d cs =>
        rw [hcs] at hblanks
        obtain ⟨ds', hds', hrest'⟩ := hblanks.of_cons
        rw [hds']
        simp only [List.head?_cons]
        split
        · exact agreeAt_pure rfl hds
        · exact agreeAt_pure rfl hds
        · refine agreeAt_set (agreeAt_bind (kept_classPart f _ _ (hrest'.cons d)) ?_)
          rintro ⟨_, last⟩
          refine kept_bind (kept_require _) fun a => kept_bind (kept_require _) fun b => ?_
          exact kept_ite (kept_pure _) kept_failure
    · split
      · exact agreeAt_failure
      · rename_i heq
        exact absurd (List.cons.inj heq).1 hc
      · split
        · rename_i heq
          cases heq
        · rename_i heq
          exact absurd (List.cons.inj heq).1 hc
        · exact agreeAt_pure rfl hds

theorem kept_namedClass : Kept namedClass := by
  refine kept_bind (kept_accept (by decide)) fun _ => kept_ite ?_ kept_failure
  refine kept_bind (kept_accept (by decide)) fun negated => kept_takeWhile_bind (fun name => ?_) ?_
  · refine kept_bind (kept_accept (by decide)) fun _ => kept_ite ?_ kept_failure
    exact kept_bind (kept_require _) fun rs => kept_pure _
  · exact fun name => rfl

theorem run_leadingHyphens_of_ne (f : Flags) (n : Nat) {cs : List Char}
    (h : ∀ cs', cs ≠ '-' :: cs') : (leadingHyphens f n).run cs = some ([], cs) := by
  cases n with
  | zero => rfl
  | succ n =>
    have hstart : "-".toList.isPrefixOf cs = false := by
      refine Bool.eq_false_iff.2 fun hstart => ?_
      obtain ⟨cs', rfl⟩ := List.isPrefixOf_iff_prefix.1 hstart
      exact h cs' rfl
    have haccept : (accept "-").run cs = some (false, cs) := by
      change (if "-".toList.isPrefixOf cs then _ else _ : Scan Bool).run cs = _
      rw [hstart]
      rfl
    change ((accept "-").run cs).bind _ = _
    rw [haccept]
    rfl

theorem agreeAt_leadingHyphens_of_ne (f : Flags) (m n : Nat) {cs ds : List Char}
    (h : ∀ cs', cs ≠ '-' :: cs') (hds : Follows cs ds) :
    AgreeAt Eq (leadingHyphens f m) (leadingHyphens f n) cs ds := by
  intro hyphens cs' hrun
  rw [run_leadingHyphens_of_ne f m h] at hrun
  cases hrun
  refine ⟨[], ds, run_leadingHyphens_of_ne f n ?_, rfl, hds⟩
  rintro ds rfl
  obtain ⟨cs, rfl, -⟩ := hds.of_cons_right (by decide)
  exact h cs rfl

/-- Hyphens are taken one at a time, so fuel for each character suffices. -/
theorem agreeAt_leadingHyphens (f : Flags) {cs ds : List Char} {m n : Nat} (hm : cs.length ≤ m)
    (hle : m ≤ n) (hds : Follows cs ds) :
    AgreeAt Eq (leadingHyphens f m) (leadingHyphens f n) cs ds := by
  induction m generalizing cs ds n with
  | zero =>
    cases List.eq_nil_of_length_eq_zero (Nat.le_zero.1 hm)
    exact agreeAt_leadingHyphens_of_ne f 0 n nofun hds
  | succ m ih =>
    by_cases hcs : ∃ cs', cs = '-' :: cs'
    · obtain ⟨cs, rfl⟩ := hcs
      obtain ⟨n, rfl, hfuel⟩ := exists_succ_of_le hle
      obtain ⟨ds, rfl, hrest⟩ := hds.of_cons
      have hlen : (significant f cs).length ≤ m :=
        Nat.le_trans (length_significant_le f cs) (Nat.le_of_succ_le_succ hm)
      have hrec := ih hlen hfuel (follows_significant f hrest)
      have htail := agreeAt_bind hrec fun hyphens =>
        kept_pure (ClassItem.span { char := '-' } { char := '-' } :: hyphens)
      exact htail
    · exact agreeAt_leadingHyphens_of_ne f (m + 1) n (not_exists.1 hcs) hds

theorem agree_classItems (f : Flags) {m n : Nat} (h : m ≤ n) (items : List ClassItem) :
    Agree Eq (classItems f m items) (classItems f n items) := by
  induction m generalizing n items with
  | zero => exact agree_failure
  | succ m ih =>
    obtain ⟨n, rfl, hle⟩ := exists_succ_of_le h
    refine agree_bind (kept_skip f) fun _ => ?_
    refine agree_get_bind fun cs ds hds => ?_
    split
    · exact agreeAt_failure
    · obtain ⟨ds, rfl, hrest⟩ := hds.of_cons
      exact agreeAt_set (agreeAt_pure rfl hrest)
    · obtain ⟨ds, rfl, hrest⟩ := hds.of_cons
      refine agreeAt_bind (kept_namedClass _ _ hds) fun item => ?_
      exact ih hle _
    · exact agreeAt_failure
    · exact agreeAt_failure
    · exact agreeAt_failure
    · -- Two signs that are an operation in the anchored pattern are one in the pattern.
      rename_i hnil hclose hopen hand hminus htilde
      split
      · exact absurd (List.eq_nil_of_length_eq_zero (Nat.le_zero.1 hds.length_le)) hnil
      · obtain ⟨cs, rfl, -⟩ := hds.of_cons_right (by decide)
        exact absurd rfl (hclose cs)
      · obtain ⟨cs, rfl, -⟩ := hds.of_cons_right (by decide)
        exact absurd rfl (hopen cs)
      · obtain ⟨cs, rfl, hrest⟩ := hds.of_cons_right (by decide)
        obtain ⟨cs, rfl, -⟩ := hrest.of_cons_right (by decide)
        exact absurd rfl (hand cs)
      · obtain ⟨cs, rfl, hrest⟩ := hds.of_cons_right (by decide)
        obtain ⟨cs, rfl, -⟩ := hrest.of_cons_right (by decide)
        exact absurd rfl (hminus cs)
      · obtain ⟨cs, rfl, hrest⟩ := hds.of_cons_right (by decide)
        obtain ⟨cs, rfl, -⟩ := hrest.of_cons_right (by decide)
        exact absurd rfl (htilde cs)
      · refine agreeAt_bind (kept_classItem f _ _ hds) fun item => ?_
        exact ih hle _

theorem kept_bracket (f : Flags) : Kept (bracket f) := by
  unfold bracket
  refine kept_bind (kept_skip f) fun _ => kept_bind (kept_accept (by decide)) fun negated => ?_
  extract_lets parts
  have hparts (u : PUnit) : Kept (parts u) := by
    refine agree_get_bind fun cs ds hds => ?_
    have hfuel : cs.length + 1 ≤ ds.length + 1 := Nat.succ_le_succ hds.length_le
    refine agreeAt_bind (agreeAt_leadingHyphens f (Nat.le_succ _) hfuel hds) fun hyphens => ?_
    extract_lets rest rest'
    have hrest (first : List ClassItem) : Agree Eq (rest first) (rest' first) :=
      agree_bind (agree_classItems f hfuel _) fun items => kept_pure _
    refine agree_ite (fun _ => agree_bind (kept_accept (by decide)) fun _ => ?_) fun _ => hrest _
    exact agree_ite (fun _ => agree_bind (kept_skip f) fun _ => hrest _) fun _ => hrest _
  exact kept_ite (kept_bind (kept_skip f) hparts) (hparts ⟨⟩)

/-! ## Repetitions -/

theorem kept_greed (f : Flags) : Kept (greed f) :=
  kept_bind (kept_accept (by decide)) fun _ => kept_pure _

theorem kept_count (f : Flags) : Kept (count f) := by
  unfold count
  refine kept_bind (kept_takeWhile not_isBlank_paren) fun _ => ?_
  refine kept_bind (kept_takeWhile (by decide)) fun digits => ?_
  refine kept_bind (kept_skip f) fun _ => kept_bind (kept_takeWhile not_isBlank_paren) fun _ => ?_
  exact kept_ite (kept_bind kept_failure fun _ => kept_ite (kept_pure _) kept_failure)
    (kept_ite (kept_pure _) kept_failure)

theorem kept_counted (f : Flags) : Kept (counted f) := by
  unfold counted
  refine kept_bind (kept_skip f) fun _ => kept_bind (kept_count f) fun min => ?_
  refine kept_bind (kept_accept (by decide)) fun comma => ?_
  extract_lets close
  have hclose (max : Option Nat) : Kept (close max) := by
    refine kept_bind (kept_accept (by decide)) fun _ => kept_ite ?_ kept_failure
    refine kept_bind (kept_skip f) fun _ => kept_bind (kept_greed f) fun greedy => ?_
    exact kept_ite (kept_pure _) kept_failure
  refine kept_ite (kept_bind (kept_skip f) fun _ => ?_) (hclose _)
  refine agree_get_bind fun cs ds hds => ?_
  have hsame : ds.head? = some '}' ↔ cs.head? = some '}' := by
    rw [List.head?_eq_some_iff, List.head?_eq_some_iff]
    constructor
    · rintro ⟨ds, rfl⟩
      obtain ⟨cs, rfl, -⟩ := hds.of_cons_right (by decide)
      exact ⟨cs, rfl⟩
    · rintro ⟨cs, rfl⟩
      obtain ⟨ds, rfl, -⟩ := hds.of_cons
      exact ⟨ds, rfl⟩
  simp only [hsame]
  refine agreeAt_ite (fun _ => hclose _ _ _ hds) fun _ => ?_
  exact agreeAt_bind (kept_map some (kept_count f) _ _ hds) hclose

/-! ## Groups -/

theorem kept_groupName : Kept groupName := by
  refine kept_takeWhile_bind (fun name => ?_) fun name => rfl
  refine kept_bind (kept_accept (by decide)) fun _ => kept_ite ?_ kept_failure
  split
  · exact kept_failure
  · exact kept_ite (kept_pure _) kept_failure

theorem agree_flagChanges (outer : Flags) {m n : Nat} (h : m ≤ n) (f : Flags) (seen : List Char) :
    Agree Eq (flagChanges outer m f seen) (flagChanges outer n f seen) := by
  induction m generalizing n f seen with
  | zero => exact agree_failure
  | succ m ih =>
    obtain ⟨n, rfl, hle⟩ := exists_succ_of_le h
    refine agree_bind kept_next fun c => ?_
    have hend (start : Start) {p : Prop} [Decidable p] :
        Kept (if p then (do failure; return start) else return start : Scan Start) :=
      kept_ite (kept_bind kept_failure fun _ => kept_pure _) (kept_pure _)
    refine agree_ite (fun _ => hend _) fun _ => agree_ite (fun _ => hend _) fun _ => ?_
    refine agree_ite (fun _ => kept_failure) fun _ => ?_
    extract_lets rest rest'
    have hrest (g : Flags) : Agree Eq (rest g) (rest' g) :=
      agree_bind (kept_skip outer) fun _ => ih hle g (c :: seen)
    exact agree_ite (fun _ => hrest f) fun _ => agree_bind (kept_require _) hrest

theorem kept_forIn {ι : Type} {xs : List ι} {body : ι → PUnit → Scan (ForInStep PUnit)}
    {u : PUnit} (h : ∀ x ∈ xs, Kept (body x u)) : Kept (forIn xs u body) := by
  induction xs with
  | nil => exact kept_pure u
  | cons x xs ih =>
    obtain ⟨hx, hxs⟩ := List.forall_mem_cons.1 h
    rw [List.forIn_cons]
    refine kept_bind hx fun step => ?_
    cases step with
    | done => exact kept_pure _
    | yield => exact ih hxs

theorem kept_groupStart (f : Flags) : Kept (groupStart f) := by
  unfold groupStart
  refine kept_bind (kept_skip f) fun _ => kept_bind (kept_forIn fun look hlook => ?_) fun _ => ?_
  · have hword : ∀ look ∈ ["?=", "?!", "?<=", "?<!"], ')' ∉ look.toList := by decide
    refine kept_bind (kept_accept (hword look hlook)) fun _ => kept_ite ?_ (kept_pure _)
    exact kept_bind kept_failure fun _ => kept_pure _
  · refine kept_bind (kept_accept (by decide)) fun _ => ?_
    extract_lets rest
    have hrest (named : Bool) : Kept (rest named) := by
      refine kept_ite (kept_bind kept_groupName fun name => kept_pure _) ?_
      refine kept_bind (kept_accept (by decide)) fun _ => kept_ite ?_ (kept_pure _)
      exact kept_fueled fun m n hle => agree_flagChanges f hle f []
    exact kept_ite (hrest true) (kept_bind (kept_accept (by decide)) hrest)

end Scan

end TestDesign.Pattern

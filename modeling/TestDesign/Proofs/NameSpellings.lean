import TestDesign.Proofs.Scanning
import TestDesign.Proofs.SmallSpellings

/-!
# TestDesign.Proofs.NameSpellings

A name may be spelled with a blank, a hyphen or an underscore between its words, or with a capital
letter at the start of each word after the first one. For words of small letters the first three
spellings always have these words (`splitWords_intercalate`). The last one has them unless a word
of a single letter stands between two others: its capital letter is followed by another one, and
words are only cut where a capital letter follows a small one (`splitWords_capitalized`,
`two_le_of_length_eq`).

`spellings_agree`: what that means for the texts that names are converted to.
-/

namespace TestDesign.Text

variable {c : Char} {cs rest w word : List Char} {ws : List (List Char)} {afterSmall : Bool}

/-! ## Spellings -/

/-- A word of small ASCII letters. -/
def IsSmallWord (w : List Char) : Prop := w ≠ [] ∧ ∀ c ∈ w, c.isLower = true

instance : DecidablePred IsSmallWord := fun w =>
  decidable_of_iff (w ≠ [] ∧ w.all Char.isLower = true) (by rw [IsSmallWord, List.all_eq_true])

theorem IsSmallWord.exists_cons (h : IsSmallWord w) :
    ∃ c cs, w = c :: cs ∧ c.isLower = true ∧ ∀ x ∈ cs, x.isLower = true := by
  obtain ⟨hne, hletters⟩ := h
  obtain ⟨c, cs, rfl⟩ := List.exists_cons_of_ne_nil hne
  exact ⟨c, cs, rfl, List.forall_mem_cons.1 hletters⟩

/-- The word with a capital letter at its start. -/
def capitalized : List Char → List Char
  | [] => []
  | c :: cs => c.toUpper :: cs

/-- The words as one, each but the first with a capital letter at its start. -/
def camelSpelling : List (List Char) → List Char
  | [] => []
  | w :: ws => w ++ ws.flatMap capitalized

/-! ## Letters -/

theorem toNat_lt_of_isLower (h : c.isLower = true) : c.toNat < 128 := by
  have hletter : (decide (c.val ≥ 'a'.val) && decide (c.val ≤ 'z'.val)) = true := h
  simp only [Bool.and_eq_true, decide_eq_true_eq, UInt32.le_iff_toNat_le] at hletter
  exact Nat.lt_of_le_of_lt hletter.2 (by decide)

theorem small_letter (h : c.isLower = true) :
    isAlphanumeric c = true ∧ isUpper c = false ∧ isLower c = true :=
  forall_ascii (p := fun c => c.isLower = true →
    isAlphanumeric c = true ∧ isUpper c = false ∧ isLower c = true)
    (by decide) (toNat_lt_of_isLower h) h

theorem capital_letter (h : c.isLower = true) :
    isAlphanumeric c.toUpper = true ∧ isUpper c.toUpper = true ∧
      (isLower c.toUpper || isNumeric c.toUpper) = false :=
  forall_ascii (p := fun c => c.isLower = true → isAlphanumeric c.toUpper = true ∧
    isUpper c.toUpper = true ∧ (isLower c.toUpper || isNumeric c.toUpper) = false)
    (by decide) (toNat_lt_of_isLower h) h

theorem spellings_of_letter (h : c.isLower = true) :
    lowerChar c = [c] ∧ upperChar c = [c.toUpper] ∧ upperChar c.toUpper = [c.toUpper] ∧
      c.toUpper.toNat < 128 ∧ c.toLower = c ∧ c.toUpper.toLower = c :=
  forall_ascii (p := fun c => c.isLower = true → lowerChar c = [c] ∧ upperChar c = [c.toUpper] ∧
    upperChar c.toUpper = [c.toUpper] ∧ c.toUpper.toNat < 128 ∧ c.toLower = c ∧
      c.toUpper.toLower = c)
    (by decide) (toNat_lt_of_isLower h) h

/-! ## Words -/

theorem splitFrom_small (hc : c.isLower = true) (hcs : ∀ x ∈ cs, x.isLower = true) :
    splitFrom (c :: cs ++ rest) word afterSmall =
      splitFrom rest ((c :: cs).reverse ++ word) true := by
  obtain ⟨halnum, hupper, hlower⟩ := small_letter hc
  induction cs generalizing c word afterSmall with
  | nil => simp [splitFrom, halnum, hupper, hlower]
  | cons d ds ih =>
    obtain ⟨hd, hds⟩ := List.forall_mem_cons.1 hcs
    obtain ⟨hdalnum, hdupper, hdlower⟩ := small_letter hd
    rw [List.cons_append, splitFrom]
    simp only [halnum, hupper, hlower, Bool.not_true, Bool.false_and, Bool.true_or,
      Bool.false_eq_true, if_false]
    rw [ih hd hds hdalnum hdupper hdlower]
    simp

theorem splitFrom_separator (h : isAlphanumeric c = false) :
    splitFrom (c :: rest) word afterSmall = closeWord word (splitFrom rest [] false) := by
  simp [splitFrom, h]

/-- A capital letter starts a new word after a small one. -/
theorem splitFrom_capital (h : c.isLower = true) :
    splitFrom (c.toUpper :: rest) word true =
      closeWord word (splitFrom rest [c.toUpper] false) := by
  obtain ⟨halnum, hupper, hsmall⟩ := capital_letter h
  rw [splitFrom]
  simp [halnum, hupper, hsmall]

/-- A capital letter goes on with the word of one in front of it. -/
theorem splitFrom_capital_capital (h : c.isLower = true) :
    splitFrom (c.toUpper :: rest) word false = splitFrom rest (c.toUpper :: word) false := by
  obtain ⟨halnum, hupper, hsmall⟩ := capital_letter h
  rw [splitFrom]
  simp [halnum, hsmall]

theorem closeWord_of_ne_nil (h : word ≠ []) : closeWord word ws = word.reverse :: ws := by
  simp [closeWord, h]

theorem splitWords_intercalate {separator : Char} (hsep : isAlphanumeric separator = false)
    (hws : ∀ w ∈ ws, IsSmallWord w) : splitWords ([separator].intercalate ws) = ws := by
  induction ws with
  | nil => rfl
  | cons w ws ih =>
    obtain ⟨hw, hrest⟩ := List.forall_mem_cons.1 hws
    obtain ⟨c, cs, rfl, hc, hcs⟩ := hw.exists_cons
    unfold splitWords at ih ⊢
    cases ws with
    | nil =>
      have hword : splitFrom (c :: cs ++ []) [] false =
          splitFrom [] ((c :: cs).reverse ++ []) true := splitFrom_small hc hcs
      rw [List.append_nil] at hword
      rw [List.intercalate_singleton, hword, splitFrom, closeWord_of_ne_nil (by simp)]
      simp
    | cons v ws =>
      rw [List.intercalate_cons_cons, List.append_assoc, splitFrom_small hc hcs,
        List.singleton_append, splitFrom_separator hsep, ih hrest, closeWord_of_ne_nil (by simp)]
      simp

/-! ## Capital letters -/

/-- Words with a capital letter at their start are told apart if those in front of others have a
small letter at their end. -/
theorem splitFrom_flatMap_capitalized (hws : ∀ w ∈ ws, IsSmallWord w)
    (hlong : ∀ w ∈ ws.dropLast, 2 ≤ w.length) (hword : word ≠ []) :
    splitFrom (ws.flatMap capitalized) word true = word.reverse :: ws.map capitalized := by
  induction ws generalizing word with
  | nil => exact closeWord_of_ne_nil hword
  | cons w ws ih =>
    obtain ⟨hw, hrest⟩ := List.forall_mem_cons.1 hws
    obtain ⟨c, cs, rfl, hc, hcs⟩ := hw.exists_cons
    rw [List.flatMap_cons, capitalized, List.cons_append, splitFrom_capital hc,
      closeWord_of_ne_nil hword, List.map_cons, capitalized]
    congr 1
    cases cs with
    | nil =>
      -- A single letter is the last word.
      cases ws with
      | nil => rfl
      | cons v ws => exact absurd (hlong [c] List.mem_cons_self) (by simp)
    | cons d ds =>
      obtain ⟨hd, hds⟩ := List.forall_mem_cons.1 hcs
      have hlong' : ∀ w ∈ ws.dropLast, 2 ≤ w.length := by
        cases ws with
        | nil => exact List.forall_mem_nil _
        | cons v ws => exact fun w hw => hlong w (List.mem_cons_of_mem _ hw)
      rw [splitFrom_small hd hds, ih hrest hlong' (by simp)]
      simp

theorem length_splitFrom_capital_le (hws : ∀ w ∈ ws, IsSmallWord w) (hword : word ≠ []) :
    (splitFrom (ws.flatMap capitalized) word afterSmall).length ≤
      ws.length + if afterSmall ∨ ws = [] then 1 else 0 := by
  induction ws generalizing word afterSmall with
  | nil => simp [splitFrom, closeWord_of_ne_nil hword]
  | cons w ws ih =>
    obtain ⟨hw, hrest⟩ := List.forall_mem_cons.1 hws
    obtain ⟨c, cs, rfl, hc, hcs⟩ := hw.exists_cons
    have hword' : ∀ word, word ≠ [] →
        (splitFrom (cs ++ ws.flatMap capitalized) word false).length ≤ ws.length + 1 := by
      intro word hword
      cases cs with
      | nil =>
        have hle : (splitFrom (ws.flatMap capitalized) word false).length ≤ _ := ih hrest hword
        split at hle <;> simp only [List.nil_append] at hle ⊢ <;> omega
      | cons d ds =>
        obtain ⟨hd, hds⟩ := List.forall_mem_cons.1 hcs
        rw [splitFrom_small hd hds]
        have hle : (splitFrom (ws.flatMap capitalized) ((d :: ds).reverse ++ word) true).length ≤
            _ := ih hrest (by simp)
        simpa using hle
    rw [List.flatMap_cons, capitalized, List.cons_append]
    cases afterSmall with
    | true =>
      rw [splitFrom_capital hc, closeWord_of_ne_nil hword]
      simpa using hword' _ (by simp)
    | false =>
      rw [splitFrom_capital_capital hc]
      simpa using hword' _ (by simp)

/-- If no word is lost, those in front of others have more than one letter. -/
theorem two_le_of_length_eq (hws : ∀ w ∈ ws, IsSmallWord w) (hword : word ≠ [])
    (h : (splitFrom (ws.flatMap capitalized) word true).length = ws.length + 1) :
    ∀ w ∈ ws.dropLast, 2 ≤ w.length := by
  induction ws generalizing word with
  | nil => exact List.forall_mem_nil _
  | cons w ws ih =>
    obtain ⟨hw, hrest⟩ := List.forall_mem_cons.1 hws
    obtain ⟨c, cs, rfl, hc, hcs⟩ := hw.exists_cons
    rw [List.flatMap_cons, capitalized, List.cons_append, splitFrom_capital hc,
      closeWord_of_ne_nil hword, List.length_cons, List.length_cons, Nat.add_right_cancel_iff] at h
    cases ws with
    | nil => exact List.forall_mem_nil _
    | cons v ws =>
      rw [List.dropLast_cons_cons]
      cases cs with
      | nil =>
        have hle : (splitFrom ((v :: ws).flatMap capitalized) [c.toUpper] false).length ≤ _ :=
          length_splitFrom_capital_le hrest (List.cons_ne_nil _ _)
        rw [List.nil_append] at h
        rw [h, if_neg (by simp)] at hle
        exact absurd hle (Nat.not_succ_le_self _)
      | cons d ds =>
        obtain ⟨hd, hds⟩ := List.forall_mem_cons.1 hcs
        rw [splitFrom_small hd hds] at h
        exact List.forall_mem_cons.2 ⟨by simp, ih hrest (by simp) h⟩

theorem splitWords_camelSpelling (hw : IsSmallWord w) :
    splitWords (camelSpelling (w :: ws)) = splitFrom (ws.flatMap capitalized) w.reverse true := by
  obtain ⟨c, cs, rfl, hc, hcs⟩ := hw.exists_cons
  rw [splitWords, camelSpelling, splitFrom_small hc hcs, List.append_nil]

/-! ## Texts of words -/

theorem lowerChars_ascii (h : ∀ x ∈ cs, x.toNat < 128) : lowerChars cs = cs.map Char.toLower := by
  have hlower := lowerFrom_ascii [] [] (List.all_eq_true.2 fun x hx => decide_eq_true (h x hx))
  rwa [List.append_nil, lowerFrom, List.append_nil] at hlower

theorem map_toLower_small (h : ∀ x ∈ cs, x.isLower = true) : cs.map Char.toLower = cs := by
  refine (List.map_congr_left fun x hx => ?_).trans (List.map_id cs)
  obtain ⟨-, -, -, -, hlower, -⟩ := spellings_of_letter (h x hx)
  exact hlower

theorem lowerChars_small (h : ∀ x ∈ cs, x.isLower = true) : lowerChars cs = cs := by
  rw [lowerChars_ascii fun x hx => toNat_lt_of_isLower (h x hx), map_toLower_small h]

theorem lowerChars_capitalized (h : ∀ x ∈ w, x.isLower = true) :
    lowerChars (capitalized w) = w := by
  cases w with
  | nil => rfl
  | cons c cs =>
    obtain ⟨hc, hcs⟩ := List.forall_mem_cons.1 h
    obtain ⟨-, -, -, hascii, -, hlower⟩ := spellings_of_letter hc
    rw [capitalized, lowerChars_ascii, List.map_cons, hlower, map_toLower_small hcs]
    exact List.forall_mem_cons.2 ⟨hascii, fun x hx => toNat_lt_of_isLower (hcs x hx)⟩

theorem capitalize_capitalized (h : ∀ x ∈ w, x.isLower = true) :
    capitalize (capitalized w) = capitalize w := by
  cases w with
  | nil => rfl
  | cons c cs =>
    obtain ⟨-, hupper, hcapital, -⟩ := spellings_of_letter (h c List.mem_cons_self)
    rw [capitalized, capitalize, capitalize, hupper, hcapital]

/-- Words are written alike with and without a capital letter at their start. -/
theorem join_capitalized (style : CaseStyle) (hws : ∀ w ∈ ws, IsSmallWord w) :
    style.join (w :: ws.map capitalized) = style.join (w :: ws) := by
  have hlower : (ws.map capitalized).map lowerChars = ws.map lowerChars := by
    rw [List.map_map]
    refine List.map_congr_left fun w hw => ?_
    rw [Function.comp_apply, lowerChars_capitalized (hws w hw).2, lowerChars_small (hws w hw).2]
  have hcapital : (ws.map capitalized).flatMap capitalize = ws.flatMap capitalize := by
    rw [List.flatMap_def, List.flatMap_def, List.map_map]
    exact congrArg _ (List.map_congr_left fun w hw => capitalize_capitalized (hws w hw).2)
  cases style with
  | camel => simp only [CaseStyle.join, hcapital]
  | pascal => simp only [CaseStyle.join, List.flatMap_cons, hcapital]
  | snake | kebab | lower | upper =>
    simp only [CaseStyle.join, CaseStyle.joinLower, List.map_cons, hlower]

theorem mem_closeWord (h : w ∈ closeWord word ws) :
    (w ≠ [] ∧ ∀ x ∈ w, x ∈ word) ∨ w ∈ ws := by
  unfold closeWord at h
  split at h
  · exact .inr h
  · rename_i hne
    rcases List.mem_cons.1 h with rfl | h
    · exact .inl ⟨by simpa using hne, fun x hx => List.mem_reverse.1 hx⟩
    · exact .inr h

/-- Words are not empty, and have the characters of their text. -/
theorem mem_splitFrom (hw : w ∈ splitFrom cs word afterSmall) :
    w ≠ [] ∧ ∀ x ∈ w, x ∈ cs ∨ x ∈ word := by
  fun_induction splitFrom cs word afterSmall with
  | case1 word afterSmall =>
    rcases mem_closeWord hw with ⟨hne, hmem⟩ | hw
    · exact ⟨hne, fun x hx => .inr (hmem x hx)⟩
    · cases hw
  | case2 c cs word afterSmall hc ih =>
    rcases mem_closeWord hw with ⟨hne, hmem⟩ | hw
    · exact ⟨hne, fun x hx => .inr (hmem x hx)⟩
    · obtain ⟨hne, hmem⟩ := ih hw
      refine ⟨hne, fun x hx => .inl (List.mem_cons_of_mem c ?_)⟩
      exact (hmem x hx).resolve_right List.not_mem_nil
  | case3 c cs word afterSmall hc hcut ih =>
    rcases mem_closeWord hw with ⟨hne, hmem⟩ | hw
    · exact ⟨hne, fun x hx => .inr (hmem x hx)⟩
    · obtain ⟨hne, hmem⟩ := ih hw
      refine ⟨hne, fun x hx => .inl (List.mem_cons.2 ?_)⟩
      exact (hmem x hx).symm.imp_left List.mem_singleton.1
  | case4 c cs word afterSmall hc hcut ih =>
    obtain ⟨hne, hmem⟩ := ih hw
    refine ⟨hne, fun x hx => ?_⟩
    rcases hmem x hx with hx | hx
    · exact .inl (List.mem_cons_of_mem c hx)
    · exact (List.mem_cons.1 hx).imp_left fun heq => List.mem_cons.2 (.inl heq)

/-- A camel-case text has small letters and capital ones. -/
theorem letter_of_mem_camelSpelling (hws : ∀ w ∈ ws, IsSmallWord w) (hc : c ∈ camelSpelling ws) :
    c.toNat < 128 ∧ c.toLower.isLower = true := by
  have hsmall : ∀ {x : Char}, x.isLower = true → x.toNat < 128 ∧ x.toLower.isLower = true := by
    intro x hx
    obtain ⟨-, -, -, -, hlower, -⟩ := spellings_of_letter hx
    exact ⟨toNat_lt_of_isLower hx, by rwa [hlower]⟩
  cases ws with
  | nil => cases hc
  | cons v ws =>
    obtain ⟨⟨-, hv⟩, hrest⟩ := List.forall_mem_cons.1 hws
    rcases List.mem_append.1 hc with hc | hc
    · exact hsmall (hv c hc)
    · obtain ⟨u, hu, hc⟩ := List.mem_flatMap.1 hc
      obtain ⟨d, ds, rfl, hd, hds⟩ := (hrest u hu).exists_cons
      rcases List.mem_cons.1 hc with rfl | hc
      · obtain ⟨-, -, -, hascii, -, hlower⟩ := spellings_of_letter hd
        exact ⟨hascii, by rwa [hlower]⟩
      · exact hsmall (hds c hc)

/-- The small spelling of a word of a camel-case text is a word of small letters. -/
theorem isSmallWord_lowerChars (hws : ∀ w ∈ ws, IsSmallWord w)
    (hw : w ∈ splitWords (camelSpelling ws)) : IsSmallWord (lowerChars w) := by
  obtain ⟨hne, hmem⟩ := mem_splitFrom hw
  have hletters : ∀ x ∈ w, x.toNat < 128 ∧ x.toLower.isLower = true := fun x hx =>
    letter_of_mem_camelSpelling hws ((hmem x hx).resolve_right List.not_mem_nil)
  rw [lowerChars_ascii fun x hx => (hletters x hx).1]
  refine ⟨by simpa using hne, fun x hx => ?_⟩
  obtain ⟨y, hy, rfl⟩ := List.mem_map.1 hx
  exact (hletters y hy).2

theorem map_lowerChars (hws : ∀ w ∈ ws, IsSmallWord w) : ws.map lowerChars = ws :=
  (List.map_congr_left fun w hw => lowerChars_small (hws w hw).2).trans (List.map_id ws)

/-- Where a camel-case text has the snake-case spelling of its words, no word is lost. -/
theorem two_le_of_convert_snake (hws : ∀ w ∈ ws, IsSmallWord w)
    (h : CaseStyle.snake.convert (String.ofList (camelSpelling ws)) =
      String.ofList (CaseStyle.snake.join ws)) :
    ∀ w ∈ ws.tail.dropLast, 2 ≤ w.length := by
  have hsplit : ∀ us : List (List Char), (∀ w ∈ us, IsSmallWord (lowerChars w)) →
      splitWords (CaseStyle.snake.join us) = us.map lowerChars := fun us hus =>
    splitWords_intercalate (by decide) (List.forall_mem_map.2 hus)
  have hwords : (splitWords (camelSpelling ws)).map lowerChars = ws := by
    rw [← hsplit _ fun w hw => isSmallWord_lowerChars hws hw]
    rw [CaseStyle.convert, String.toList_ofList, String.ofList_inj] at h
    rw [h, hsplit ws fun w hw => by rw [lowerChars_small (hws w hw).2]; exact hws w hw,
      map_lowerChars hws]
  cases ws with
  | nil => exact List.forall_mem_nil _
  | cons w ws =>
    obtain ⟨hw, hrest⟩ := List.forall_mem_cons.1 hws
    have hlength := congrArg List.length hwords
    rw [List.length_map, splitWords_camelSpelling hw] at hlength
    exact two_le_of_length_eq hrest (by simpa using hw.1) hlength

/-- For words of small letters, the spellings with a blank, a hyphen or an underscore between the
words are converted to the same texts, those of the words. The spelling with capital letters is
converted to these texts just if no word of a single letter stands between two others. -/
theorem spellings_agree (hws : ∀ w ∈ ws, IsSmallWord w) :
    (∀ (style : CaseStyle), ∀ separator ∈ [' ', '-', '_'],
      style.convert (String.ofList ([separator].intercalate ws)) =
        String.ofList (style.join ws)) ∧
    ((∀ style : CaseStyle, style.convert (String.ofList (camelSpelling ws)) =
        String.ofList (style.join ws)) ↔
      ∀ w ∈ ws.tail.dropLast, 2 ≤ w.length) := by
  refine ⟨?_, fun h => two_le_of_convert_snake hws (h .snake), ?_⟩
  · intro style separator hseparator
    have hall : ([' ', '-', '_'].all fun c => !isAlphanumeric c) = true := rfl
    have hsep : isAlphanumeric separator = false := by
      simpa using List.all_eq_true.1 hall separator hseparator
    rw [CaseStyle.convert, String.toList_ofList, splitWords_intercalate hsep hws]
  · intro hlong style
    rw [CaseStyle.convert, String.toList_ofList]
    cases ws with
    | nil => rfl
    | cons w ws =>
      obtain ⟨hw, hrest⟩ := List.forall_mem_cons.1 hws
      rw [splitWords_camelSpelling hw,
        splitFrom_flatMap_capitalized hrest hlong (by simpa using hw.1), List.reverse_reverse,
        join_capitalized style hrest]

/-- Single letters at the ends are told apart. -/
theorem singleEnds_agree :
    camelSpelling [['a'], ['b', 'y'], ['c']] = "aByC".toList ∧
      CaseStyle.upper.convert "aByC" = "A BY C" ∧ CaseStyle.upper.convert "a-by-c" = "A BY C" := by
  have hwords : ∀ w ∈ [['a'], ['b', 'y'], ['c']], IsSmallWord w := by decide
  obtain ⟨hseparated, hcamel⟩ := spellings_agree hwords
  exact ⟨rfl, hcamel.2 (by decide) .upper, hseparated .upper '-' (by decide)⟩

/-- Of three single letters the last two become one word. -/
theorem single_letters_merge :
    (∀ w ∈ [['a'], ['b'], ['c']], IsSmallWord w) ∧
      camelSpelling [['a'], ['b'], ['c']] = "aBC".toList ∧
      [' '].intercalate [['a'], ['b'], ['c']] = "a b c".toList ∧
      CaseStyle.snake.convert "aBC" = "a_bc" ∧ CaseStyle.snake.convert "a b c" = "a_b_c" := by
  decide

end TestDesign.Text

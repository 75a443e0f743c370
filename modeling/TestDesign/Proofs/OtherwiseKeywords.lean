import TestDesign.Proofs.EntityPlaces
import TestDesign.Proofs.SmallSpellings
import TestDesign.Sentence.Rendering

/-!
# TestDesign.Proofs.OtherwiseKeywords

A sentence that says what happens on a violation becomes a check: its keyword is taken away, and
"then" is written in front. The keyword is looked for by its letters alone, while a sentence is
recognized by keywords that are whole words of it.

* `sees_iff`: when the recognizer sees a keyword whose letters a sentence starts with.
* `otherwise_replaced`: the sentence loses the longest keyword whose letters it starts with, and
  the recognizer sees that one just if no letter or digit follows. So the beginning of a longer
  word can be lost (`beginning_of_word_lost`).
-/

namespace TestDesign

open Text

/-- The characters are the letters of the keyword, the case aside. -/
def Spells (start : List Char) (keyword : String) : Prop :=
  byteLength start = keyword.utf8ByteSize ∧ lowerChars start = lowerChars keyword.toList

/-- The sentence starts with the letters of the keyword. -/
def Begins (content : List Char) (keyword : String) : Prop :=
  ∃ start rest, content = start ++ rest ∧ Spells start keyword

/-- A word ends in front of these characters. -/
def EndsWord (rest : List Char) : Prop := rest.head?.any isAlphanumeric = false

/-- The recognizer sees the keyword at the start of the sentence. -/
def Sentence.Sees (content : List Char) (keyword : String) : Prop :=
  (startsWith (lowerChars keyword.toList) (lowerChars content)).isSome = true

variable {content start rest : List Char} {keyword : String} {d : Dictionary}

/-! ## Keywords at the start -/

theorem afterKeyword_eq_some_iff : afterKeyword keyword content = some rest ↔
    ∃ start, content = start ++ rest ∧ Spells start keyword := by
  unfold afterKeyword
  constructor
  · intro h
    split at h
    · rename_i start rest' hsplit
      split at h
      · rename_i hlower
        cases h
        obtain ⟨hcontent, hbytes⟩ := splitAtByte_eq_some hsplit
        exact ⟨start, hcontent, hbytes, hlower⟩
      · cases h
    · cases h
  · rintro ⟨start, rfl, hbytes, hlower⟩
    rw [← hbytes, splitAtByte_append]
    simp only [hlower, if_true]

theorem begins_iff : Begins content keyword ↔ ∃ rest, afterKeyword keyword content = some rest := by
  simp only [Begins, afterKeyword_eq_some_iff]
  exact exists_comm

namespace Sentence

theorem isSome_startsWith {small sentence : List Char} :
    (startsWith small sentence).isSome = true ↔
      small <+: sentence ∧ EndsWord (sentence.drop small.length) := by
  unfold startsWith
  split
  · rename_i h
    simpa [EndsWord, List.isPrefixOf_iff_prefix] using h
  · rename_i h
    simpa [EndsWord, List.isPrefixOf_iff_prefix] using h

/-- A keyword whose letters a sentence starts with is seen if no letter or digit follows it, and
if its small spelling is that of the sentence. This can only fail for a capital sigma, whose
spelling depends on what follows. -/
theorem sees_iff (h : Spells start keyword) : Sees (start ++ rest) keyword ↔
    lowerChars start <+: lowerChars (start ++ rest) ∧ EndsWord rest := by
  obtain ⟨small, hsmall, hlength, -⟩ := exists_lowerFrom_append [] start rest
  have hdrop : (lowerChars (start ++ rest)).drop (lowerChars start).length =
      lowerFrom (start.reverse ++ []) rest := by
    rw [lowerChars, lowerChars, hsmall, ← hlength, List.drop_left]
  rw [Sees, isSome_startsWith, ← h.2, hdrop, EndsWord, EndsWord, isAlphanumeric_head?_lowerFrom]

theorem lowerChars_prefix (h : 'Σ' ∉ start) : lowerChars start <+: lowerChars (start ++ rest) := by
  obtain ⟨small, hsmall, -, hsame⟩ := exists_lowerFrom_append [] start rest
  rw [lowerChars, lowerChars, hsmall, hsame h]
  exact List.prefix_append _ _

end Sentence

/-! ## The longest keyword -/

theorem longest_cons_cons (b f : Nat × List Char) (found : List (Nat × List Char)) :
    longest (b :: f :: found) = longest ((if b.1 ≤ f.1 then f else b) :: found) := by
  unfold longest
  simp only [List.foldl_cons]
  split <;> rfl

theorem exists_longest (b : Nat × List Char) (found : List (Nat × List Char)) :
    ∃ f, longest (b :: found) = some f ∧ f ∈ b :: found ∧ ∀ g ∈ b :: found, g.1 ≤ f.1 := by
  induction found generalizing b with
  | nil => exact ⟨b, rfl, List.mem_cons_self, by simp⟩
  | cons g found ih =>
    rw [longest_cons_cons]
    obtain ⟨f, hlongest, hmem, hall⟩ := ih (if b.1 ≤ g.1 then g else b)
    obtain ⟨hkept, hfound⟩ := List.forall_mem_cons.1 hall
    refine ⟨f, hlongest, ?_, List.forall_mem_cons.2 ⟨?_, List.forall_mem_cons.2 ⟨?_, hfound⟩⟩⟩
    · split at hmem
      · exact List.mem_cons_of_mem b hmem
      · rcases List.mem_cons.1 hmem with rfl | hmem
        · exact List.mem_cons_self
        · exact List.mem_cons_of_mem b (List.mem_cons_of_mem g hmem)
    all_goals
      split at hkept <;> omega

/-! ## Sentences -/

/-- The keywords that the sentence starts with, by their lengths, with what follows them. -/
def keywordsFound (d : Dictionary) (content : List Char) : List (Nat × List Char) :=
  (d.otherwiseWords.filter (!·.isEmpty)).filterMap fun keyword =>
    (afterKeyword keyword content).map fun rest => (keyword.utf8ByteSize, rest)

theorem mem_keywordsFound {n : Nat} : (n, rest) ∈ keywordsFound d content ↔
    ∃ keyword ∈ d.otherwiseWords, keyword ≠ "" ∧ keyword.utf8ByteSize = n ∧
      afterKeyword keyword content = some rest := by
  simp only [keywordsFound, List.mem_filterMap, List.mem_filter, Option.map_eq_some_iff,
    Prod.mk.injEq, Bool.not_eq_true', String.isEmpty_eq_false_iff]
  constructor
  · rintro ⟨keyword, ⟨hmem, hne⟩, rest', hafter, rfl, rfl⟩
    exact ⟨keyword, hmem, hne, rfl, hafter⟩
  · rintro ⟨keyword, hmem, hne, rfl, hafter⟩
    exact ⟨keyword, ⟨hmem, hne⟩, rest, hafter, rfl, rfl⟩

/-- A keyword of the dictionary whose letters the sentence starts with, and no longer one. -/
structure LongestKeyword (d : Dictionary) (content : List Char) (keyword : String)
    (start rest : List Char) : Prop where
  mem : keyword ∈ d.otherwiseWords
  ne_empty : keyword ≠ ""
  content_eq : content = start ++ rest
  spells : Spells start keyword
  longest : ∀ other ∈ d.otherwiseWords, other ≠ "" → Begins content other →
    other.utf8ByteSize ≤ keyword.utf8ByteSize

/-- The characters as a sentence that starts with "then"; commas and blanks in front are dropped. -/
def asThen (d : Dictionary) (rest : List Char) : String :=
  d.keyword .thenStep ++ " " ++ String.ofList (rest.dropWhile fun c => c = ',' || isBlank c)

theorem otherwiseAsThen_eq (content : String) (d : Dictionary) :
    otherwiseAsThen content d = asThen d (match longest (keywordsFound d content.toList) with
      | some (_, rest) => rest
      | none => content.toList) := rfl

/-- A sentence that does not start with the letters of a keyword is kept. Otherwise it loses the
longest keyword with these letters, whatever follows them. The recognizer sees this keyword just if
no letter or digit follows, unless there is a capital sigma in it. -/
theorem otherwise_replaced (content : String) (d : Dictionary) :
    ((∀ keyword ∈ d.otherwiseWords, keyword ≠ "" → ¬ Begins content.toList keyword) ∧
      otherwiseAsThen content d = asThen d content.toList) ∨
    ∃ keyword start rest, LongestKeyword d content.toList keyword start rest ∧
      otherwiseAsThen content d = asThen d rest ∧
      (Sentence.Sees content.toList keyword → EndsWord rest) ∧
      ('Σ' ∉ start → EndsWord rest → Sentence.Sees content.toList keyword) := by
  rw [otherwiseAsThen_eq]
  cases hfound : keywordsFound d content.toList with
  | nil =>
    refine .inl ⟨fun keyword hmem hne hbegins => ?_, rfl⟩
    obtain ⟨rest, hafter⟩ := begins_iff.1 hbegins
    have hkeyword := mem_keywordsFound.2 ⟨keyword, hmem, hne, rfl, hafter⟩
    rw [hfound] at hkeyword
    cases hkeyword
  | cons b found =>
    obtain ⟨⟨n, rest⟩, hlongest, hbest, hall⟩ := exists_longest b found
    rw [← hfound] at hbest hall
    obtain ⟨keyword, hmem, hne, rfl, hafter⟩ := mem_keywordsFound.1 hbest
    obtain ⟨start, hcontent, hspells⟩ := afterKeyword_eq_some_iff.1 hafter
    refine .inr ⟨keyword, start, rest, ⟨hmem, hne, hcontent, hspells, ?_⟩, by rw [hlongest], ?_, ?_⟩
    · intro other hother hother_ne hbegins
      obtain ⟨rest', hafter'⟩ := begins_iff.1 hbegins
      exact hall _ (mem_keywordsFound.2 ⟨other, hother, hother_ne, rfl, hafter'⟩)
    · rw [hcontent]
      exact fun hsees => ((Sentence.sees_iff hspells).1 hsees).2
    · rw [hcontent]
      exact fun hsigma hends =>
        (Sentence.sees_iff hspells).2 ⟨Sentence.lowerChars_prefix hsigma, hends⟩

/-- A dictionary with a short keyword. -/
def orDictionary : Dictionary := { Dictionary.english with otherwiseWords := ["or"] }

/-- The beginning of a longer word is taken for a keyword, which the recognizer does not see. -/
theorem beginning_of_word_lost :
    otherwiseAsThen "Otherwisely I see it" .english = "Then ly I see it" ∧
      ¬ Sentence.Sees "Otherwisely I see it".toList "otherwise" ∧
      otherwiseAsThen "Orders are refused" orDictionary = "Then ders are refused" ∧
      ¬ Sentence.Sees "Orders are refused".toList "or" := by
  unfold Sentence.Sees
  decide +kernel

end TestDesign

import TestDesign.Proofs.Segments
import TestDesign.Sentence.Recognition

/-!
# TestDesign.Proofs.EntityPlaces

The entities of a recognized sentence stand in it where they say, one after the other.

* `lexeme_prefix`: a lexeme is a non-empty beginning of what is left of the sentence, whichever of
  the scanners has read it.
* `inPlace_entitiesFrom`: so bytes and characters are counted alike, and every entity is found at
  its byte position, after the entity before it.
* `InPlace.exists_cut`, `InPlace.pairwise`, `InPlace.slice`: what that means for cutting the
  sentence at its entities, for their order and for the bytes at their positions.
-/

namespace TestDesign

open Text

theorem Text.byteLength_pos {cs : List Char} (h : cs ≠ []) : 0 < byteLength cs := by
  cases cs with
  | nil => exact absurd rfl h
  | cons c cs =>
    have hc := c.utf8Size_pos
    rw [byteLength_cons]
    omega

/-- The characters begin at the byte position `start`, and the entities are found in them where
they say, each after the one before. -/
def InPlace : List Char → Nat → List Entity → Prop
  | _, _, [] => True
  | cs, start, e :: es =>
    ∃ gap rest, cs = gap ++ e.text.toList ++ rest ∧ e.position = start + byteLength gap ∧
      e.text.toList ≠ [] ∧ InPlace rest e.stop es

namespace InPlace

variable {cs : List Char} {start : Nat} {es : List Entity}

theorem append_left (skipped : List Char) (h : InPlace cs (start + byteLength skipped) es) :
    InPlace (skipped ++ cs) start es := by
  cases es with
  | nil => trivial
  | cons e es =>
    obtain ⟨gap, rest, hcs, hposition, htext, hrest⟩ := h
    refine ⟨skipped ++ gap, rest, ?_, ?_, htext, hrest⟩
    · simp [hcs]
    · rw [byteLength_append, hposition, Nat.add_assoc]

/-- Entities in place are where the sentence can be cut. -/
theorem exists_cut (h : InPlace cs start es) : ∃ g, Segments.cut cs start es = .ok g := by
  induction es generalizing cs start with
  | nil => exact ⟨_, rfl⟩
  | cons e es ih =>
    obtain ⟨gap, rest, hcs, hposition, -, hrest⟩ := h
    obtain ⟨g, hg⟩ := ih hrest
    refine ⟨{ g with parts := (gap, e) :: g.parts }, ?_⟩
    rw [hcs, List.append_assoc, Segments.cut_append hposition, hg]
    rfl

theorem start_le (h : InPlace cs start es) {e : Entity} (he : e ∈ es) : start ≤ e.position := by
  induction es generalizing cs start with
  | nil => cases he
  | cons f es ih =>
    obtain ⟨gap, rest, -, hposition, -, hrest⟩ := h
    rcases List.mem_cons.1 he with rfl | he
    · omega
    · have hle := ih hrest he
      unfold Entity.stop at hle
      omega

theorem pairwise (h : InPlace cs start es) :
    es.Pairwise fun e f => e.position < f.position ∧ e.stop ≤ f.position := by
  induction es generalizing cs start with
  | nil => exact .nil
  | cons e es ih =>
    obtain ⟨gap, rest, -, -, htext, hrest⟩ := h
    refine List.pairwise_cons.2 ⟨?_, ih hrest⟩
    intro f hf
    have hle := hrest.start_le hf
    have hpos := byteLength_pos htext
    rw [byteLength_toList] at hpos
    unfold Entity.stop at hle ⊢
    omega

/-- The bytes at the position of an entity are those of its text. -/
theorem slice (before : List Char) (h : InPlace cs (byteLength before) es) {e : Entity}
    (he : e ∈ es) :
    slice? (before ++ cs) e.position e.text.utf8ByteSize = some e.text.toList := by
  induction es generalizing before cs with
  | nil => cases he
  | cons f es ih =>
    obtain ⟨gap, rest, hcs, hposition, -, hrest⟩ := h
    rcases List.mem_cons.1 he with rfl | he
    · have hstart : splitAtByte (before ++ cs) e.position =
          some (before ++ gap, e.text.toList ++ rest) := by
        rw [hposition, ← byteLength_append, hcs]
        simpa using splitAtByte_append (before ++ gap) (e.text.toList ++ rest)
      have hlength : splitAtByte (e.text.toList ++ rest) e.text.utf8ByteSize =
          some (e.text.toList, rest) := by
        rw [← byteLength_toList, splitAtByte_append]
      simp [slice?, hstart, hlength]
    · have hstop : f.stop = byteLength (before ++ gap ++ f.text.toList) := by
        simp only [Entity.stop, byteLength_append, byteLength_toList, hposition]
      rw [hstop] at hrest
      have hslice := ih (before ++ gap ++ f.text.toList) hrest he
      rw [hcs]
      simpa using hslice

end InPlace

namespace Sentence

/-! ## Lexemes -/

theorem upTo_prefix {closing : Char} {escapes : Bool} {cs body : List Char}
    (h : upTo closing escapes cs = some body) : body <+: cs := by
  fun_induction upTo closing escapes cs generalizing body with
  | case1 => cases h
  | case2 => cases h
  | case3 c _ d ds ih =>
    obtain ⟨r, hr, rfl⟩ := Option.map_eq_some_iff.1 h
    exact List.cons_prefix_cons.2 ⟨rfl, List.cons_prefix_cons.2 ⟨rfl, ih hr⟩⟩
  | case4 cs =>
    cases h
    exact List.cons_prefix_cons.2 ⟨rfl, List.nil_prefix⟩
  | case5 c cs _ _ ih =>
    obtain ⟨r, hr, rfl⟩ := Option.map_eq_some_iff.1 h
    exact List.cons_prefix_cons.2 ⟨rfl, ih hr⟩

theorem numberTail_prefix (cs : List Char) : numberTail cs <+: cs := by
  fun_induction numberTail cs with
  | case1 => exact List.nil_prefix
  | case2 c cs _ ih => exact List.cons_prefix_cons.2 ⟨rfl, ih⟩
  | case3 c cs _ _ ih => exact List.cons_prefix_cons.2 ⟨rfl, ih⟩
  | case4 => exact List.nil_prefix

theorem text_of_reference {kind : EntityKind} {opening closing : Char} {cs : List Char}
    {x : Lexeme} (h : reference kind opening closing cs = .ok x) :
    ∃ body, x.text = opening :: body ∧ body <+: cs := by
  unfold reference at h
  split at h
  · rename_i body hbody
    simp only at h
    split at h
    · cases h
    · cases h
      exact ⟨body, rfl, upTo_prefix hbody⟩
  · cases h

/-- The text of a property is that of the whole reference, its name and its bar included. -/
theorem text_of_elementReference {cs : List Char} {x : Lexeme}
    (h : elementReference cs = .ok x) : ∃ body, x.text = '{' :: body ∧ body <+: cs := by
  unfold elementReference at h
  split at h
  · cases h
  · rename_i y hy
    have htext := text_of_reference hy
    split at h
    · cases h
      exact htext
    · simp only at h
      split at h
      · cases h
      · cases h
        exact htext

theorem lexeme_prefix {d : Dictionary} {before : Option Char} {c : Char} {cs : List Char}
    {x : Lexeme} (h : lexeme d before c cs = .ok x) :
    ∃ body, x.text = c :: body ∧ body <+: cs := by
  unfold lexeme at h
  split at h
  · unfold quotedValue at h
    split at h
    · rename_i body hbody
      cases h
      exact ⟨body, rfl, upTo_prefix hbody⟩
    · cases h
  · exact text_of_reference h
  · exact text_of_reference h
  · exact text_of_elementReference h
  · exact text_of_reference h
  · split at h
    · cases h
      split
      · exact ⟨numberTail cs, rfl, numberTail_prefix cs⟩
      · exact ⟨[], rfl, List.nil_prefix⟩
    · split at h
      · cases h
        have hword := List.takeWhile_prefix (l := cs) isAlphanumeric
        unfold wordLexeme
        simp only
        split
        · exact ⟨_, rfl, hword⟩
        · exact ⟨_, rfl, hword⟩
      · cases h
        exact ⟨[], rfl, List.nil_prefix⟩

/-! ## Sentences -/

theorem inPlace_entitiesFrom {d : Dictionary} {start : Location} {k : Cursor} {cs : List Char}
    {es : List Entity} (h : entitiesFrom d start k cs = .ok es) : InPlace cs k.bytes es := by
  fun_induction entitiesFrom d start k cs generalizing es with
  | case1 =>
    cases h
    trivial
  | case2 | case3 => cases h
  | case4 k c cs x hx es' hes ih =>
    cases h
    obtain ⟨body, htext, rest, rfl⟩ := lexeme_prefix hx
    -- What the scanner goes on with is what follows the lexeme.
    have hdrop : (body ++ rest).drop (x.text.length - 1) = rest := by
      rw [htext, List.length_cons, Nat.add_sub_cancel, List.drop_left]
    rw [hdrop] at ih hes
    have hcs : c :: (body ++ rest) = x.text ++ rest := by rw [htext, List.cons_append]
    have hrest : InPlace rest (k.bytes + byteLength x.text) es' := ih hes
    rw [hcs]
    cases hmeaning : x.meaning with
    | none =>
      simp only [Lexeme.entity?, hmeaning, Option.map_none, Option.toList_none, List.nil_append]
      exact hrest.append_left x.text
    | some m =>
      simp only [Lexeme.entity?, hmeaning, Option.map_some, Option.toList_some,
        List.singleton_append]
      refine ⟨[], rest, ?_, rfl, ?_, ?_⟩
      · simp
      · simp [htext]
      · simpa [Entity.stop, utf8ByteSize_ofList] using hrest

end Sentence

/-- The entities of a recognized sentence are in place. -/
theorem inPlace_of_recognize {d : Dictionary} {sentence : String} {location : Location}
    {step : Step} (h : recognize d sentence location = .ok step) :
    InPlace step.content.toList 0 step.entities := by
  unfold recognize at h
  simp only at h
  split at h
  · cases h
  · split at h
    · cases h
    · rename_i entities hentities
      cases h
      exact Sentence.inPlace_entitiesFrom hentities

theorem checkEntities_of_recognize {d : Dictionary} {sentence : String} {location : Location}
    {step : Step} (h : recognize d sentence location = .ok step) :
    step.checkEntities = .ok () :=
  Step.checkEntities_eq_ok_iff.2 (inPlace_of_recognize h).exists_cut

end TestDesign

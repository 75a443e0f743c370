import TestDesign.Document.Step

/-!
# TestDesign.Proofs.Segments

The sentence of a step cut at its entities: each piece is an entity with the characters in front of
it, and what is left of the sentence follows (`Segments.cut_cons`). A cut exists exactly when every
entity stands in the sentence where it says, after the entity before it (`checkEntities_eq`).
-/

namespace TestDesign

open Text

/-- A sentence in pieces: each entity with the characters between it and the one before, and the
characters after the last entity. -/
structure Segments where
  parts : List (List Char × Entity) := []
  tail : List Char

namespace Segments

/-- Cuts what follows the byte position `start` at the given entities; the first entity that does
not stand where it says is refused. -/
def cut (cs : List Char) (start : Nat) : List Entity → Except Entity Segments
  | [] => .ok { tail := cs }
  | e :: es =>
    if e.position < start then .error e
    else
      match splitAtByte cs (e.position - start) with
      | none => .error e
      | some (gap, rest) =>
        if e.text.toList.isPrefixOf rest then
          match cut (rest.drop e.text.length) e.stop es with
          | .ok s => .ok { s with parts := (gap, e) :: s.parts }
          | .error e => .error e
        else
          .error e

variable {cs : List Char} {start : Nat} {e : Entity} {es : List Entity} {g : Segments}

/-- The first cut stands between a gap and the text of the entity. -/
theorem cut_cons (h : cut cs start (e :: es) = .ok g) :
    ∃ gap rest g', cs = gap ++ e.text.toList ++ rest ∧ e.position = start + byteLength gap ∧
      cut rest e.stop es = .ok g' ∧ g = { g' with parts := (gap, e) :: g'.parts } := by
  unfold cut at h
  split at h
  · cases h
  · rename_i hstart
    split at h
    · cases h
    · rename_i gap rest hsplit
      split at h
      · rename_i hpre
        split at h
        · rename_i g' hcut
          cases h
          obtain ⟨rest', rfl⟩ := List.isPrefixOf_iff_prefix.1 hpre
          obtain ⟨rfl, hgap⟩ := splitAtByte_eq_some hsplit
          rw [← String.length_toList, List.drop_left] at hcut
          exact ⟨gap, rest', g', (List.append_assoc _ _ _).symm, by omega, hcut, rfl⟩
        · cases h
      · cases h

theorem cut_append {gap : List Char} (hposition : e.position = start + byteLength gap)
    (rest : List Char) (es : List Entity) :
    cut (gap ++ (e.text.toList ++ rest)) start (e :: es) =
      (cut rest e.stop es).map fun g => { g with parts := (gap, e) :: g.parts } := by
  have hsplit := splitAtByte_append gap (e.text.toList ++ rest)
  have hdrop : (e.text.toList ++ rest).drop e.text.length = rest := by
    rw [← String.length_toList, List.drop_left]
  rw [cut, if_neg (by omega), hposition, Nat.add_sub_cancel_left, hsplit]
  simp only [hdrop, List.isPrefixOf_iff_prefix.2 (List.prefix_append _ rest), if_true]
  cases cut rest e.stop es <;> rfl

/-- Behind the characters that have been passed, the check refuses what the cut refuses. -/
theorem check_eq_cut (passed cs : List Char) (es : List Entity) :
    Entity.check (passed ++ cs) (byteLength passed) es =
      (cut cs (byteLength passed) es).map fun _ => () := by
  induction es generalizing passed cs with
  | nil => rfl
  | cons e es ih =>
    unfold Entity.check
    by_cases hstart : e.position < byteLength passed
    · simp [cut, hstart, Except.map]
    obtain ⟨n, hn⟩ := Nat.exists_eq_add_of_le (Nat.le_of_not_lt hstart)
    rw [hn, slice?_append_add, ← byteLength_toList]
    cases hsplit : splitAtByte cs n with
    | none => simp [cut, hn, slice?, hsplit, Except.map]
    | some parts =>
      obtain ⟨gap, rest⟩ := parts
      have hfound := slice?_eq_some_iff hsplit e.text.toList
      by_cases hpre : e.text.toList <+: rest
      · obtain ⟨rest', rfl⟩ := hpre
        obtain ⟨rfl, rfl⟩ := splitAtByte_eq_some hsplit
        have hstop : e.stop = byteLength (passed ++ gap ++ e.text.toList) := by
          simp only [Entity.stop, byteLength_append, byteLength_toList, hn]
        have hrest := ih (passed ++ gap ++ e.text.toList) rest'
        rw [← hstop] at hrest
        rw [cut_append hn, hfound.2 (List.prefix_append _ rest')]
        simp only [List.append_assoc] at hrest
        simp only [bne_self_eq_false, Bool.or_false, decide_eq_true_eq, hrest]
        rw [if_neg (by omega)]
        cases cut rest' e.stop es <;> rfl
      · simp [cut, hn, hsplit, hfound, hpre, Except.map, List.isPrefixOf_iff_prefix]

end Segments

namespace Step

/-- The step's sentence in pieces, or the first entity that does not stand where it says. -/
def segments (s : Step) : Except Entity Segments := Segments.cut s.content.toList 0 s.entities

variable {s : Step}

theorem checkEntities_eq (s : Step) : s.checkEntities = s.segments.map fun _ => () :=
  Segments.check_eq_cut [] s.content.toList s.entities

theorem checkEntities_eq_ok_iff {u : Unit} :
    s.checkEntities = .ok u ↔ ∃ g, s.segments = .ok g := by
  rw [checkEntities_eq]
  cases s.segments with
  | ok g => exact ⟨fun _ => ⟨g, rfl⟩, fun _ => rfl⟩
  | error e => exact ⟨nofun, nofun⟩

end Step

end TestDesign

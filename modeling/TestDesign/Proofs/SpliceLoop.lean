import TestDesign.Proofs.Drafting
import TestDesign.Proofs.Segments

/-!
# TestDesign.Proofs.SpliceLoop

The loop that replaces the references of a sentence. Its cursor stops behind each reference and skips
the other entities, which are copied with the text around them when the next reference is reached,
or in the end. `Stands` is what the cursor keeps: between it and the last entity the sentence is still
to be copied, and with that added, what is written is the sentence with the replacements so far. From
it, `finish_foldl_next`: when all entities have been passed, the pieces of the sentence are put
together with what stands for the entities.
-/

namespace TestDesign

open Drafting Text

/-- Whether something else is written for the entity. -/
def EntityKind.isReference : EntityKind → Bool
  | constant | element | property => true
  | action | literal | value | number | state => false

namespace Brief

/-- An entity that stays as it is, with the value that it gives. -/
def kept (e : Entity) : Replacement where
  text := e.text
  value :=
    match e.kind with
    | .value => some (.text e.value)
    | .number => some (.ofLiteral e.value)
    | .action | .literal | .element | .property | .constant | .state => none

variable {b : Brief} {step : Step}

/-- What stands for an entity in the end, be it a reference or not. -/
def replace (b : Brief) (step : Step) (e : Entity) : Drafting Replacement :=
  match e.kind with
  | .constant => b.replaceConstant step e
  | .element => b.replaceElement step e
  | .property => b.replaceProperty step e
  | .action | .literal | .value | .number | .state => return kept e

theorem replace_eq_kept {e : Entity} (h : e.kind.isReference = false) :
    b.replace step e = pure (kept e) := by
  unfold replace
  cases hkind : e.kind with
  | action | literal | value | number | state => rfl
  | constant | element | property =>
    rw [hkind] at h
    cases h

namespace Rewriting

/-- Passes an entity, for which the replacement stands. -/
def next (sentence : List Char) (w : Rewriting) (p : Entity × Replacement) : Rewriting :=
  if p.1.kind.isReference then w.write sentence p.1 p.2 else w.take p.2.value

end Rewriting

theorem rewriteEntity_eq (w : Rewriting) (e : Entity) :
    b.rewriteEntity step w e =
      (do return w.next step.content.toList (e, ← b.replace step e)) := by
  unfold rewriteEntity replace Rewriting.next
  cases hkind : e.kind with
  | constant | element | property => simp [EntityKind.isReference, hkind]
  | value | number => simp [EntityKind.isReference, kept, hkind]
  | action | literal | state => simp [EntityKind.isReference, kept, hkind, Rewriting.take]

namespace Rewriting

variable {w : Rewriting} {sentence : List Char}

/-- Entities that are no references stand for themselves. -/
def Suits (p : Entity × Replacement) : Prop := p.1.kind.isReference = false → p.2 = kept p.1

/-! ## The cursor -/

/-- The entities of `passed` have been passed, and `out` is what comes out of it: the cursor stands in
front of the text `pending`, which is still to be copied. -/
def Stands (w : Rewriting) (passed out : List Char) : Prop :=
  ∃ copied pending, passed = copied ++ pending ∧ w.last = byteLength copied ∧
    out = w.content ++ pending

variable {passed out gap : List Char} {e : Entity} {r : Replacement}

theorem Stands.next (h : w.Stands passed out) (hsuits : Suits (e, r))
    (hposition : e.position = byteLength (passed ++ gap)) (rest : List Char) :
    (w.next (passed ++ gap ++ e.text.toList ++ rest) (e, r)).Stands
      (passed ++ gap ++ e.text.toList) (out ++ gap ++ r.text.toList) := by
  obtain ⟨copied, pending, rfl, hlast, rfl⟩ := h
  unfold Rewriting.next
  cases hkind : e.kind.isReference with
  | false =>
    -- The cursor stays where it is, and more is pending.
    obtain rfl : r = kept e := hsuits hkind
    exact ⟨copied, pending ++ gap ++ e.text.toList, by simp, hlast, by simp [take, kept]⟩
  | true =>
    have hcopied : between? (copied ++ pending ++ gap ++ e.text.toList ++ rest) w.last e.position =
        some (pending ++ gap) := by
      rw [hlast, hposition]
      simpa using between?_append copied (pending ++ gap) (e.text.toList ++ rest)
    refine ⟨copied ++ pending ++ gap ++ e.text.toList, [], by simp, ?_, ?_⟩
    · simp only [if_true, write, Entity.stop, hposition, byteLength_append, byteLength_toList]
    · simp only [if_true, write]
      rw [hcopied]
      simp

theorem Stands.finish (h : w.Stands passed out) (tail : List Char) :
    w.finish (passed ++ tail) = out ++ tail := by
  obtain ⟨copied, pending, rfl, hlast, rfl⟩ := h
  rw [Rewriting.finish, hlast, List.append_assoc, dropBytes?_append]
  simp

theorem Stands.finish_foldl {cs : List Char} {es : List Entity} {rs : List Replacement}
    {g : Segments} (h : w.Stands passed out) (hcut : Segments.cut cs (byteLength passed) es = .ok g)
    (hlength : rs.length = es.length) (hsuits : ∀ p ∈ es.zip rs, Suits p) :
    ((es.zip rs).foldl (Rewriting.next (passed ++ cs)) w).finish (passed ++ cs) =
      out ++ (g.parts.zip rs).flatMap (fun p => p.1.1 ++ p.2.text.toList) ++ g.tail := by
  induction es generalizing w passed out cs rs g with
  | nil =>
    cases hcut
    simpa using h.finish cs
  | cons e es ih =>
    obtain ⟨r, rs, rfl⟩ := List.exists_cons_of_length_eq_add_one hlength
    obtain ⟨gap, rest, g', rfl, hposition, hrest, rfl⟩ := Segments.cut_cons hcut
    rw [← byteLength_append] at hposition
    obtain ⟨hfirst, hothers⟩ := List.forall_mem_cons.1 hsuits
    have hstop : e.stop = byteLength (passed ++ gap ++ e.text.toList) := by
      rw [Entity.stop, hposition, byteLength_append _ e.text.toList, byteLength_toList]
    rw [hstop] at hrest
    have hfinish := ih (h.next hfirst hposition rest) hrest (Nat.add_right_cancel hlength) hothers
    simpa using hfinish

/-- After the loop the sentence consists of its pieces with what stands for the entities. -/
theorem finish_foldl_next {step : Step} {g : Segments} {rs : List Replacement}
    (hcut : step.segments = .ok g) (hlength : rs.length = step.entities.length)
    (hsuits : ∀ p ∈ step.entities.zip rs, Suits p) (comments : List String) :
    ((step.entities.zip rs).foldl (next step.content.toList) { comments }).finish
        step.content.toList =
      (g.parts.zip rs).flatMap (fun p => p.1.1 ++ p.2.text.toList) ++ g.tail := by
  have hstart : ({ comments } : Rewriting).Stands [] [] := ⟨[], [], rfl, rfl, rfl⟩
  simpa using hstart.finish_foldl hcut hlength hsuits

/-! ## What is collected on the way -/

variable {ps : List (Entity × Replacement)}

theorem explicit_foldl (w : Rewriting) (ps : List (Entity × Replacement)) :
    (ps.foldl (next sentence) w).explicit = w.explicit.or (ps.findSome? (·.2.value)) := by
  induction ps generalizing w with
  | nil => simp
  | cons p ps ih =>
    have hstep : (w.next sentence p).explicit = w.explicit.or p.2.value := by
      unfold Rewriting.next
      split <;> rfl
    rw [List.foldl_cons, ih, hstep, Option.or_assoc, List.findSome?_cons]
    cases p.2.value <;> rfl

/-- What is collected from the replacements; an entity that stays as it is adds nothing. -/
theorem collected_foldl {β : Type} (field : Rewriting → List β) (found : Replacement → Option β)
    (hwrite : ∀ w e r, field (write w sentence e r) = field w ++ (found r).toList)
    (htake : ∀ w v, field (take w v) = field w) (hkept : ∀ e, found (kept e) = none)
    (w : Rewriting) (h : ∀ p ∈ ps, Suits p) :
    field (ps.foldl (next sentence) w) = field w ++ ps.filterMap (fun p => found p.2) := by
  induction ps generalizing w with
  | nil => simp
  | cons p ps ih =>
    obtain ⟨hfirst, hothers⟩ := List.forall_mem_cons.1 h
    have hstep : field (w.next sentence p) = field w ++ (found p.2).toList := by
      unfold Rewriting.next
      cases hkind : p.1.kind.isReference with
      | true => exact hwrite w p.1 p.2
      | false => simp [hfirst hkind, htake, hkept]
    rw [List.foldl_cons, ih _ hothers, hstep, List.append_assoc, List.filterMap_cons]
    cases found p.2 <;> rfl

theorem comments_foldl (w : Rewriting) (h : ∀ p ∈ ps, Suits p) :
    (ps.foldl (next sentence) w).comments = w.comments ++ ps.filterMap (·.2.mention) :=
  collected_foldl Rewriting.comments Replacement.mention (fun _ _ _ => rfl) (fun _ _ => rfl)
    (fun _ => rfl) w h

theorem targets_foldl (w : Rewriting) (h : ∀ p ∈ ps, Suits p) :
    (ps.foldl (next sentence) w).targets = w.targets ++ ps.filterMap (·.2.target) :=
  collected_foldl Rewriting.targets Replacement.target (fun _ _ _ => rfl) (fun _ _ => rfl)
    (fun _ => rfl) w h

end Rewriting

end Brief

end TestDesign

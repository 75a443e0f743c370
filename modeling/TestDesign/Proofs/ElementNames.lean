import Mathlib.Data.List.Nodup
import TestDesign.Document.Lookup
import TestDesign.Proofs.Scanning

/-!
# TestDesign.Proofs.ElementNames

Which element a variable stands for. The name of a feature, a colon and the name of an element are
one element of the specification, if no two features have the same name and no two elements of a
feature have (`Spec.WellNamed`). The name of the element alone is this element in the document of
the feature only; from elsewhere, features are not looked at.

* `Spec.findElement?_qualified`: a variable with a feature, seen from anywhere.
* `Spec.findElement?_bare`: a variable without one.
* `Spec.variables_of_wellNamed`: what both mean for the elements of features.
-/

namespace TestDesign

open Text

variable {var name feature : String} {cs ds : List Char} {e x : Element} {es : List Element}
  {f : Feature} {d : Document} {s : Spec} {here : Option Document}

/-! ## Names -/

/-- A name that can be a part of a variable: no mark is in it, and no blank at its ends. -/
structure IsPlainName (name : String) : Prop where
  no_mark : ∀ c ∈ name.toList, c ∉ [':', '{', '}']
  head : ∀ c ∈ name.toList.head?, isBlank c = false
  last : ∀ c ∈ name.toList.getLast?, isBlank c = false

instance : DecidablePred IsPlainName := fun name =>
  decidable_of_iff ((name.toList.all fun c => c ∉ [':', '{', '}']) = true ∧
      (name.toList.head?.all fun c => !isBlank c) = true ∧
      (name.toList.getLast?.all fun c => !isBlank c) = true) <| by
    simp only [List.all_eq_true, Option.all_eq_true, decide_eq_true_eq, Bool.not_eq_true']
    exact ⟨fun ⟨hmark, hhead, hlast⟩ => ⟨hmark, hhead, hlast⟩,
      fun h => ⟨h.no_mark, h.head, h.last⟩⟩

/-- The variable between its delimiters. -/
def braced (var : String) : String := "\x7b" ++ var ++ "\x7d"

theorem mark_not_blank {mark : Char} (h : mark ∈ [':', '{', '}']) : isBlank mark = false := by
  have hall : ([':', '{', '}'].all fun c => 32 < c.toNat && c.toNat < 127) = true := rfl
  have hvisible := List.all_eq_true.1 hall mark h
  rw [Bool.and_eq_true, decide_eq_true_eq, decide_eq_true_eq] at hvisible
  exact not_isBlank_of_visible hvisible.1 hvisible.2

theorem splitAtFirst_append {mark : Char} (h : mark ∉ cs) :
    splitAtFirst mark (cs ++ mark :: ds) = some (cs, ds) := by
  induction cs with
  | nil => simp [splitAtFirst]
  | cons c cs ih =>
    obtain ⟨hc, hcs⟩ := List.ne_and_not_mem_of_not_mem_cons h
    rw [List.cons_append, splitAtFirst, if_neg hc.symm, ih hcs]
    rfl

theorem splitAtFirst_eq_none {mark : Char} (h : mark ∉ cs) : splitAtFirst mark cs = none := by
  induction cs with
  | nil => rfl
  | cons c cs ih =>
    obtain ⟨hc, hcs⟩ := List.ne_and_not_mem_of_not_mem_cons h
    rw [splitAtFirst, if_neg hc.symm, ih hcs]
    rfl

/-- Blanks and delimiters are taken away from a variable, nothing is put in. -/
theorem mem_of_mem_bareVariable {c : Char} (h : c ∈ (bareVariable var).toList) :
    c ∈ var.toList := by
  have htrim : ∀ {c : Char}, c ∈ trimChars var.toList → c ∈ var.toList := by
    intro c hc
    have hstart : c ∈ trimStart var.toList := by
      have hc := (List.dropWhile_sublist _).mem (List.mem_reverse.1 hc)
      exact List.mem_reverse.1 hc
    exact (List.dropWhile_sublist _).mem hstart
  unfold bareVariable at h
  dsimp only at h
  split at h
  · rename_i rest hopen hclose
    rw [String.toList_ofList] at h
    exact htrim (hopen ▸ List.mem_cons_of_mem _ (List.dropLast_subset _ h))
  · rw [String.toList_ofList] at h
    exact htrim h

theorem bareVariable_eq_self (hhead : ∀ c ∈ var.toList.head?, isBlank c = false)
    (hlast : ∀ c ∈ var.toList.getLast?, isBlank c = false) (hopen : '{' ∉ var.toList) :
    bareVariable var = var := by
  unfold bareVariable
  dsimp only
  rw [trimChars_eq_self hhead hlast]
  split
  · rename_i rest hvar hclose
    exact absurd (hvar ▸ List.mem_cons_self) hopen
  · exact String.ofList_toList

theorem bareVariable_braced : bareVariable (braced var) = var := by
  have hcs : (braced var).toList = '{' :: (var.toList ++ ['}']) := by
    simp [braced, String.toList_append]
  have hlast : ('{' :: (var.toList ++ ['}'])).getLast? = some '}' := by
    rw [← List.cons_append, List.getLast?_concat]
  have htrim : trimChars ('{' :: (var.toList ++ ['}'])) = '{' :: (var.toList ++ ['}']) := by
    refine trimChars_eq_self ?_ ?_
    · rintro c ⟨⟩
      exact mark_not_blank (by decide)
    · rw [hlast]
      rintro c ⟨⟩
      exact mark_not_blank (by decide)
  unfold bareVariable
  simp only [hcs, htrim, hlast, List.dropLast_concat, String.ofList_toList]

namespace IsPlainName

theorem not_mem (h : IsPlainName name) {mark : Char} (hmark : mark ∈ [':', '{', '}']) :
    mark ∉ name.toList := fun hmem => h.no_mark mark hmem hmark

theorem trim_eq (h : IsPlainName name) : String.ofList (trimChars name.toList) = name := by
  rw [trimChars_eq_self h.head h.last, String.ofList_toList]

theorem bareVariable_eq (h : IsPlainName name) : bareVariable name = name :=
  bareVariable_eq_self h.head h.last (h.not_mem (by decide))

theorem splitFeature_eq (h : IsPlainName name) : splitFeature name = (none, name) := by
  rw [splitFeature, splitAtFirst_eq_none (h.not_mem (by decide))]
  exact congrArg (Prod.mk none) h.trim_eq

theorem splitFeature_qualified (hfeature : IsPlainName feature) (hname : IsPlainName name) :
    splitFeature (feature ++ ":" ++ name) = (some feature, name) := by
  have hcs : (feature ++ ":" ++ name).toList = feature.toList ++ ':' :: name.toList := by
    simp [String.toList_append]
  rw [splitFeature, hcs, splitAtFirst_append (hfeature.not_mem (by decide))]
  exact congrArg₂ (fun feature name => (some feature, name)) hfeature.trim_eq hname.trim_eq

theorem bareVariable_qualified (hfeature : IsPlainName feature) (hname : IsPlainName name) :
    bareVariable (feature ++ ":" ++ name) = feature ++ ":" ++ name := by
  have hcs : (feature ++ ":" ++ name).toList = feature.toList ++ [':'] ++ name.toList := by
    simp [String.toList_append]
  refine bareVariable_eq_self ?_ ?_ ?_
  · rw [hcs, List.append_assoc, List.head?_append]
    cases hhead : feature.toList.head? with
    | some c =>
      rintro c ⟨⟩
      exact hfeature.head c hhead
    | none =>
      rintro c ⟨⟩
      exact mark_not_blank (by decide)
  · rw [hcs, List.getLast?_append]
    cases hlast : name.toList.getLast? with
    | some c =>
      rintro c ⟨⟩
      exact hname.last c hlast
    | none =>
      rw [List.getLast?_concat]
      rintro c ⟨⟩
      exact mark_not_blank (by decide)
  · rw [hcs, List.mem_append, List.mem_append]
    rintro ((hmem | hmem) | hmem)
    · exact hfeature.not_mem (by decide) hmem
    · exact absurd hmem (by decide)
    · exact hname.not_mem (by decide) hmem

end IsPlainName

theorem splitFeature_of_not_mem (h : ':' ∉ var.toList) : splitFeature var = (none, trim var) := by
  rw [splitFeature, splitAtFirst_eq_none h]

/-! ## Features -/

/-- Features to which elements have been added one by one. -/
inductive Feature.Declared : Feature → Prop
  | new (name : String) : Declared { name }
  | add {f : Feature} (h : Declared f) (e : Element) : Declared (f.add e)

theorem Feature.Declared.feature_eq (h : f.Declared) (he : e ∈ f.elements) :
    e.feature = some f.name := by
  induction h with
  | new name => cases he
  | add h e' ih =>
    rcases List.mem_append.1 he with he | he
    · exact ih he
    · rw [List.mem_singleton.1 he]
      rfl

/-- A feature whose elements are told apart by plain names. -/
structure Feature.WellNamed (f : Feature) : Prop where
  declared : f.Declared
  plain : IsPlainName f.name
  plain_elements : ∀ e ∈ f.elements, IsPlainName e.name
  distinct : (f.elements.map (·.name)).Nodup

theorem Feature.WellNamed.variableName_eq (h : f.WellNamed) (he : e ∈ f.elements) :
    e.variableName = f.name ++ ":" ++ e.name := by
  rw [Element.variableName, h.declared.feature_eq he]

theorem find?_name (hnames : (es.map (·.name)).Nodup) (he : e ∈ es) :
    es.find? (·.name = e.name) = some e := by
  obtain ⟨x, hx⟩ := Option.isSome_iff_exists.1
    (List.find?_isSome (p := fun x : Element => x.name = e.name) |>.2 ⟨e, he, by simp⟩)
  have hname : x.name = e.name := by simpa using List.find?_some hx
  rw [hx, List.inj_on_of_nodup_map hnames (List.mem_of_find?_eq_some hx) he hname]

namespace Document

/-- The element of a feature with these names. -/
def elementOf? (d : Document) (feature name : String) : Option Element :=
  match d.feature with
  | some f => if f.name = feature then f.elements.find? (·.name = name) else none
  | none => none

theorem elementOf?_eq_some_iff : d.elementOf? feature name = some x ↔
    ∃ f, d.feature = some f ∧ f.name = feature ∧ f.elements.find? (·.name = name) = some x := by
  unfold elementOf?
  cases d.feature with
  | none => simp
  | some f => by_cases h : f.name = feature <;> simp [h]

theorem findElement?_qualified (hfeature : IsPlainName feature) (hname : IsPlainName name) :
    d.findElement? (feature ++ ":" ++ name) = d.elementOf? feature name := by
  unfold findElement?
  rw [hfeature.bareVariable_qualified hname, hfeature.splitFeature_qualified hname]
  rfl

theorem mem_of_findElement? (hvar : ':' ∉ var.toList) (h : d.findElement? var = some x) :
    x ∈ d.allElements := by
  unfold findElement? at h
  rw [splitFeature_of_not_mem fun hmem => hvar (mem_of_mem_bareVariable hmem)] at h
  exact List.mem_of_find?_eq_some h

end Document

/-! ## Specifications -/

namespace Spec

/-- A specification whose features are told apart by plain names, and their elements as well. -/
structure WellNamed (s : Spec) : Prop where
  features : ∀ d ∈ s.documents, ∀ f, d.feature = some f → f.WellNamed
  distinct : ((s.documents.filterMap (·.feature)).map (·.name)).Nodup

/-- The specification with the global elements of its documents only. -/
def withoutFeatures (s : Spec) : Spec where
  documents := s.documents.map fun d => { d with feature := none }

/-- From a document, the variable is found to be the element, with delimiters and without. -/
def Finds (s : Spec) (here : Option Document) (var : String) (e : Element) : Prop :=
  s.findElement? var here = some e ∧ s.findElement? (braced var) here = some e

theorem findElement?_braced (h : bareVariable var = var) :
    s.findElement? (braced var) here = s.findElement? var here := by
  rw [findElement?, findElement?, bareVariable_braced, h]

/-- A variable with a feature is looked up in all documents. -/
theorem findElement?_qualified (hfeature : IsPlainName feature) (hname : IsPlainName name) :
    s.findElement? (feature ++ ":" ++ name) here =
      s.documents.findSome? (·.elementOf? feature name) := by
  rw [findElement?, hfeature.bareVariable_qualified hname, hfeature.splitFeature_qualified hname]
  simp only [Document.findElement?_qualified hfeature hname]

/-- A variable without a feature is looked up in one document and then among global elements. -/
theorem findElement?_bare (h : ':' ∉ var.toList) :
    s.findElement? var here = (here.bind (·.findElement? (bareVariable var))).or
      (s.documents.findSome? fun d => d.elements.find? (·.name = bareVariable var)) := by
  rw [findElement?, splitFeature_of_not_mem fun hmem => h (mem_of_mem_bareVariable hmem)]
  cases here.bind (·.findElement? (bareVariable var)) <;> rfl

/-- Without a feature in the variable, no feature matters but that of the current document. -/
theorem findElement?_withoutFeatures (h : ':' ∉ var.toList) :
    s.withoutFeatures.findElement? var here = s.findElement? var here := by
  rw [findElement?_bare h, findElement?_bare h, withoutFeatures, List.findSome?_map]
  rfl

/-- The element of a variable without a feature is one of the current document, or a global one. -/
theorem mem_of_findElement? (hvar : ':' ∉ var.toList) (h : s.findElement? var here = some x) :
    (∃ d, here = some d ∧ x ∈ d.allElements) ∨ ∃ d ∈ s.documents, x ∈ d.elements := by
  rw [findElement?_bare hvar, Option.or_eq_some_iff] at h
  rcases h with h | ⟨-, h⟩
  · obtain ⟨d, hd, hx⟩ := Option.bind_eq_some_iff.1 h
    exact .inl ⟨d, hd, Document.mem_of_findElement?
      (fun hmem => hvar (mem_of_mem_bareVariable hmem)) hx⟩
  · obtain ⟨d, hd, hx⟩ := List.exists_of_findSome?_eq_some h
    exact .inr ⟨d, hd, List.mem_of_find?_eq_some hx⟩

namespace WellNamed

variable (h : s.WellNamed)
include h

/-- The name of a feature and that of an element are found in the feature only. -/
theorem findSome?_elementOf? (hd : d ∈ s.documents) (hf : d.feature = some f)
    (he : e ∈ f.elements) : s.documents.findSome? (·.elementOf? f.name e.name) = some e := by
  have hfind := find?_name (h.features d hd f hf).distinct he
  have hhere : d.elementOf? f.name e.name = some e :=
    Document.elementOf?_eq_some_iff.2 ⟨f, hf, rfl, hfind⟩
  have hsome : (s.documents.findSome? (·.elementOf? f.name e.name)).isSome = true :=
    List.findSome?_isSome_iff.2 ⟨d, hd, by rw [hhere]; rfl⟩
  obtain ⟨x, hx⟩ := Option.isSome_iff_exists.1 hsome
  obtain ⟨d', hd', hx'⟩ := List.exists_of_findSome?_eq_some hx
  obtain ⟨g, hg, hname, hxg⟩ := Document.elementOf?_eq_some_iff.1 hx'
  obtain rfl : g = f := List.inj_on_of_nodup_map h.distinct
    (List.mem_filterMap.2 ⟨d', hd', hg⟩) (List.mem_filterMap.2 ⟨d, hd, hf⟩) hname
  rw [hx, ← hxg, hfind]

theorem finds_variableName (hd : d ∈ s.documents) (hf : d.feature = some f)
    (he : e ∈ f.elements) (here : Option Document) : s.Finds here e.variableName e := by
  have hfeature := h.features d hd f hf
  have hname := hfeature.plain_elements e he
  have hfind : s.findElement? (f.name ++ ":" ++ e.name) here = some e := by
    rw [findElement?_qualified hfeature.plain hname, h.findSome?_elementOf? hd hf he]
  rw [Finds, hfeature.variableName_eq he,
    findElement?_braced (hfeature.plain.bareVariable_qualified hname)]
  exact ⟨hfind, hfind⟩

theorem finds_name (hd : d ∈ s.documents) (hf : d.feature = some f) (he : e ∈ f.elements) :
    s.Finds (some d) e.name e := by
  have hfeature := h.features d hd f hf
  have hname := hfeature.plain_elements e he
  have hdocument : d.findElement? e.name = some e := by
    rw [Document.findElement?, hname.bareVariable_eq, hname.splitFeature_eq]
    simp only [Document.allElements, hf, List.find?_append, find?_name hfeature.distinct he,
      Option.some_or]
  have hfind : s.findElement? e.name (some d) = some e := by
    rw [findElement?_bare (hname.not_mem (by decide)), hname.bareVariable_eq, Option.bind_some,
      hdocument, Option.some_or]
  exact ⟨hfind, (findElement?_braced hname.bareVariable_eq).trans hfind⟩

end WellNamed

/-- The variable of an element of a feature is this element, seen from anywhere, and its name alone
is the element in its own document. A variable without a feature is looked up as if all features
but that of the current document were not there: what is found is an element of this document, or
a global one of some document. -/
theorem variables_of_wellNamed (h : s.WellNamed) :
    (∀ d ∈ s.documents, ∀ f, d.feature = some f → ∀ e ∈ f.elements,
      (∀ here, s.Finds here e.variableName e) ∧ s.Finds (some d) e.name e) ∧
    ∀ var here, ':' ∉ var.toList →
      s.findElement? var here = s.withoutFeatures.findElement? var here ∧
      ∀ x, s.findElement? var here = some x →
        (∃ d, here = some d ∧ x ∈ d.allElements) ∨ ∃ d ∈ s.documents, x ∈ d.elements := by
  refine ⟨fun d hd f hf e he => ⟨h.finds_variableName hd hf he, h.finds_name hd hf he⟩, ?_⟩
  exact fun var here hvar =>
    ⟨(findElement?_withoutFeatures hvar).symm, fun x hx => mem_of_findElement? hvar hx⟩

def loginPage : Document where
  path := "login.feature"
  feature := some ((Feature.add { name := "Login" } { name := "User" }).add { name := "Note" })

def orderList : Document where
  path := "orders.feature"
  feature := some (Feature.add { name := "Order list" } { name := "Note" })
  elements := [{ name := "User" }]

def shop : Spec := ⟨[loginPage, orderList]⟩

theorem shop_wellNamed : shop.WellNamed where
  features := by
    intro d hd f hf
    rcases List.mem_pair.1 hd with rfl | rfl <;> cases hf
    · exact ⟨.add (.add (.new "Login") _) _, by decide +kernel, by decide +kernel, by decide⟩
    · exact ⟨.add (.new "Order list") _, by decide +kernel, by decide +kernel, by decide⟩
  distinct := by decide

/-- Both features have a note. The user of the one is not seen from the other, where a global
element has its name. -/
theorem shop_notes_found :
    shop.WellNamed ∧
      (∀ here, shop.Finds here "Order list:Note" { name := "Note", feature := some "Order list" }) ∧
      shop.Finds (some orderList) "Note" { name := "Note", feature := some "Order list" } ∧
      shop.Finds (some loginPage) "Note" { name := "Note", feature := some "Login" } ∧
      (shop.findElement? "User" (some orderList)).map (·.variableName) = some "User" := by
  obtain ⟨hqualified, hbare⟩ := variables_of_wellNamed shop_wellNamed
  obtain ⟨hanywhere, hhere⟩ := hqualified orderList (by simp [shop]) _ rfl
    { name := "Note", feature := some "Order list" } (List.mem_singleton.2 rfl)
  obtain ⟨-, hlogin⟩ := hqualified loginPage (by simp [shop]) _ rfl
    { name := "Note", feature := some "Login" } (List.mem_pair.2 (.inr rfl))
  refine ⟨shop_wellNamed, hanywhere, hhere, hlogin, ?_⟩
  rw [(hbare "User" (some orderList) (by decide)).1]
  decide +kernel

end Spec

end TestDesign

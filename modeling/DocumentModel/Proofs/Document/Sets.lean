import DocumentModel.Proofs.Document.Accepting
import DocumentModel.Proofs.Document.Translation
import DocumentModel.Proofs.Schema.Pruning
import DocumentModel.Proofs.Schema.WellFormed

/-!
# Sets and their documents

A set asks that its elements differ before they are conformed, and its document that they differ
after. So what a set is parsed to is a set exactly if no two of its elements are conformed to equal
values, and a set node parses every value to a set exactly if its element node separates values
(`Node.parse_set_distinct_iff`). A node that trims, fills in or drops anything need not do so.
-/

namespace DocumentModel

namespace Node

variable {element : Node} {bounds : Bounds} {description : Option String} {v out : Json}

/-! ## Parsing a set -/

/-- The elements of a set differ, each is parsed, and the results are its elements. -/
theorem parse_set_eq_ok_iff : parse ⟨.set element bounds, description⟩ v = .ok out
    ↔ ∃ items, v = .array items ∧ out = .array (element.results items)
      ∧ bounds.faults items.length = [] ∧ Json.allDistinct items = true
      ∧ ∀ x ∈ items, element.Fits (some x) := by
  rw [parse_eq_ok_iff_result, fits_set]
  constructor
  · rintro ⟨⟨items, he, hb, hd, hf⟩, hw⟩
    cases he
    rw [result_set] at hw
    cases hw
    exact ⟨items, rfl, rfl, hb, hasDuplicate_eq_false_iff.mp hd, hf⟩
  · rintro ⟨items, rfl, rfl, hb, hd, hf⟩
    exact ⟨⟨items, rfl, hb, hasDuplicate_eq_false_iff.mpr hd, hf⟩, result_set⟩

theorem parse_of_fits {x : Json} (h : element.Fits (some x)) :
    element.parse x = .ok ((element.result (some x)).getD .null) :=
  parse_eq_ok_iff.mpr ⟨h, rfl⟩

/-- Elements and results stand at the same places. -/
theorem forall₂_parse_results {items : List Json} (h : ∀ x ∈ items, element.Fits (some x)) :
    List.Forall₂ (fun x a => element.parse x = .ok a) items (element.results items) := by
  rw [results, List.forall₂_map_right_iff, List.forall₂_same]
  exact fun x hx => parse_of_fits (h x hx)

/-- **The results differ exactly if no two elements are parsed to equal values.** -/
theorem allDistinct_results_iff {items : List Json} (h : ∀ x ∈ items, element.Fits (some x)) :
    Json.allDistinct (element.results items) = true ↔ items.Pairwise fun x y =>
      ∀ a b, element.parse x = .ok a → element.parse y = .ok b → a.same b = false := by
  rw [Json.allDistinct, decide_eq_true_iff, results, List.pairwise_map]
  refine List.Pairwise.iff_of_mem fun {x y} hx hy => ?_
  have hparse := parse_of_fits (h x hx)
  have hparse' := parse_of_fits (h y hy)
  constructor
  · intro hdiffer a b ha hb
    cases hparse.symm.trans ha
    cases hparse'.symm.trans hb
    exact hdiffer
  · intro hdiffer
    exact hdiffer _ _ hparse hparse'

/-! ## Nodes that separate values -/

/-- A node that parses different values to different values. -/
def Separates (element : Node) : Prop :=
  ∀ x y a b, x.WellFormed → y.WellFormed → element.parse x = .ok a → element.parse y = .ok b →
    x.same y = false → a.same b = false

/-- Where nothing is made up and no key is dropped, values stay as they are. -/
theorem separates_of_keepsKeys (hn : element.Throughout MakesNothingUp)
    (hk : element.Throughout KeepsKeys) : element.Separates := by
  have hsame : ∀ x a, x.WellFormed → element.parse x = .ok a → a = x := by
    intro x a hx ha
    obtain ⟨hf, hw⟩ := parse_eq_ok_iff_result.mp ha
    exact resultsIn Json.eq_congruence objectResultsIn_eq hn hk x a hf hw hx.sorted
  intro x y a b hx hy ha hb hdiffer
  rw [hsame x a hx ha, hsame y b hy hb]
  exact hdiffer

theorem Separates.allDistinct_results (hs : element.Separates) {items : List Json}
    (hv : Json.WellFormed (.array items)) (hf : ∀ x ∈ items, element.Fits (some x))
    (hd : Json.allDistinct items = true) : Json.allDistinct (element.results items) = true := by
  rw [Json.wellFormed_array_iff] at hv
  rw [Json.allDistinct, decide_eq_true_iff] at hd
  refine (allDistinct_results_iff hf).mpr (hd.imp_of_mem fun {x y} hx hy hdiffer a b ha hb => ?_)
  exact hs x y a b (hv x hx) (hv y hy) ha hb hdiffer

/-- **A set node parses values to sets exactly if its element node separates values**, if it allows
two elements. -/
theorem parses_to_sets_iff (hb : bounds.faults 2 = []) :
    (∀ v out, v.WellFormed → parse ⟨.set element bounds, description⟩ v = .ok out →
      ∃ outs, out = .array outs ∧ Json.allDistinct outs = true) ↔ element.Separates := by
  constructor
  · intro h x y a b hx hy ha hb' hdiffer
    have hpair : Json.WellFormed (.array [x, y]) := by
      rw [Json.wellFormed_array_iff]
      exact List.forall_mem_cons.mpr ⟨hx, List.forall_mem_singleton.mpr hy⟩
    have hdistinct : ∀ {u w : Json}, Json.allDistinct [u, w] = true ↔ u.same w = false := by
      intro u w
      simp [Json.allDistinct]
    obtain ⟨hfx, hwx⟩ := parse_eq_ok_iff.mp ha
    obtain ⟨hfy, hwy⟩ := parse_eq_ok_iff.mp hb'
    have hparse :
        parse ⟨.set element bounds, description⟩ (.array [x, y]) = .ok (.array [a, b]) := by
      refine parse_set_eq_ok_iff.mpr ⟨[x, y], rfl, ?_, hb, hdistinct.mpr hdiffer, ?_⟩
      · rw [results, List.map_cons, List.map_singleton, hwx, hwy]
      · exact List.forall_mem_cons.mpr ⟨hfx, List.forall_mem_singleton.mpr hfy⟩
    obtain ⟨outs, he, hd⟩ := h _ _ hpair hparse
    cases he
    exact hdistinct.mp hd
  · intro hs v out hv h
    obtain ⟨items, rfl, rfl, -, hd, hf⟩ := parse_set_eq_ok_iff.mp h
    exact ⟨_, rfl, hs.allDistinct_results hv hf hd⟩

/-! ## The document of a set -/

theorem uniqueItems_of_document? {d : Document}
    (h : document? ⟨.set element bounds, description⟩ = .ok d) : d.uniqueItems = some true := by
  cases he : element.document? with
  | error e =>
    rw [document?, he] at h
    cases h
  | ok ofElement =>
    have helement : element.document? = .ok element.document := by
      rw [he, document_of_eq_ok he]
    rw [document?_set helement] at h
    cases h
    cases hm : Marker.ofDescription? description with
    | none =>
      obtain ⟨text, ht⟩ := Reading.annotate_of_unmarked
        { Document.ofList element.document bounds with uniqueItems := some true } hm
      rw [ht]
    | some type =>
      obtain ⟨text, ht⟩ := Reading.annotate_of_marked
        { Document.ofList element.document bounds with uniqueItems := some true } hm
      rw [ht]
      rfl

/-- A list that a document with unique items accepts has different elements. -/
theorem allDistinct_of_accepts {r : Reading} {d : Document} (hu : d.uniqueItems = some true)
    {items : List Json} (h : r.accepts d (.array items) = true) :
    Json.allDistinct items = true := by
  rw [Reading.accepts_eq] at h
  simp only [Bool.and_eq_true, Reading.ownRules, Json.array?, Option.all_some, Reading.countRules,
    hu, bne_self_eq_false, Bool.false_or] at h
  tauto

/-- **What a set is parsed to is a set exactly if no two of its elements are parsed to equal
values.** So a set node that allows two elements parses values to sets exactly if its element node
separates values, as it does if nothing is made up and no key is dropped. A result that is no set is
accepted by no reading of the document. -/
theorem parse_set_distinct_iff (element : Node) (bounds : Bounds) (description : Option String) :
    (∀ v out, parse ⟨.set element bounds, description⟩ v = .ok out →
      ∃ items outs, v = .array items ∧ out = .array outs
        ∧ List.Forall₂ (fun x a => element.parse x = .ok a) items outs
        ∧ Json.allDistinct items = true
        ∧ (Json.allDistinct outs = true ↔ items.Pairwise fun x y =>
          ∀ a b, element.parse x = .ok a → element.parse y = .ok b → a.same b = false)
        ∧ ∀ (r : Reading) d, document? ⟨.set element bounds, description⟩ = .ok d →
          r.accepts d out = true → Json.allDistinct outs = true)
    ∧ (bounds.faults 2 = [] →
      ((∀ v out, v.WellFormed → parse ⟨.set element bounds, description⟩ v = .ok out →
        ∃ outs, out = .array outs ∧ Json.allDistinct outs = true) ↔ element.Separates))
    ∧ (element.Throughout MakesNothingUp → element.Throughout KeepsKeys → element.Separates) := by
  refine ⟨fun v out h => ?_, parses_to_sets_iff, separates_of_keepsKeys⟩
  obtain ⟨items, rfl, rfl, -, hd, hf⟩ := parse_set_eq_ok_iff.mp h
  refine ⟨items, element.results items, rfl, rfl, forall₂_parse_results hf, hd,
    allDistinct_results_iff hf, fun r d hdoc ha => ?_⟩
  exact allDistinct_of_accepts (uniqueItems_of_document? hdoc) ha

/-- Two tags that differ in white space. -/
def paddedTags : Json := .array [.string "a", .string " a"]

theorem parse_set_distinct_iff_tags :
    (∃ outs, (setOf string).parse paddedTags = .ok (.array outs) ∧ Json.allDistinct outs = true)
    ∧ ¬ (ofKind (.string [.trim])).Separates := by
  have hkeep : (setOf string).parse paddedTags = .ok paddedTags := rfl
  have htrim : (setOf (ofKind (.string [.trim]))).parse paddedTags
      = .ok (.array [.string "a", .string "a"]) := rfl
  have hwf : paddedTags.WellFormed := by
    refine Json.wellFormed_array_iff.mpr (List.forall_mem_cons.mpr ⟨Json.wellFormed_string _, ?_⟩)
    exact List.forall_mem_singleton.mpr (Json.wellFormed_string _)
  have hn : string.Throughout MakesNothingUp := by
    simp [string, ofKind, Throughout.mk_iff, MakesNothingUp, NodeKind.parts]
  have hk : string.Throughout KeepsKeys := by
    simp [string, ofKind, Throughout.mk_iff, KeepsKeys, NodeKind.parts]
  constructor
  · obtain ⟨-, hiff, hseparates⟩ := parse_set_distinct_iff string {} none
    obtain ⟨outs, he, hd⟩ := (hiff rfl).mpr (hseparates hn hk) _ _ hwf hkeep
    exact ⟨outs, he ▸ hkeep, hd⟩
  · intro hseparates
    obtain ⟨-, hiff, -⟩ := parse_set_distinct_iff (ofKind (.string [.trim])) {} none
    obtain ⟨outs, he, hd⟩ := (hiff rfl).mpr hseparates _ _ hwf htrim
    cases he
    revert hd
    decide

/-- **Trimmed tags may repeat**, and the document of the set then refuses them. -/
theorem trimmedTags_repeat :
    (setOf (ofKind (.string [.trim]))).parse paddedTags = .ok (.array [.string "a", .string "a"])
    ∧ Json.allDistinct [.string "a", .string "a"] = false
    ∧ ∃ d, (setOf (ofKind (.string [.trim]))).document? = .ok d
      ∧ Reading.plain.accepts d (.array [.string "a", .string "a"]) = false := by
  refine ⟨rfl, by decide, _, rfl, rfl⟩

end Node

end DocumentModel

import DocumentModel.Proofs.Document.Translation
import DocumentModel.Proofs.Schema.Presence

/-!
# Keys that may be absent

`Node.acceptsMissing` decides which keys the document of an object requires, and the check of a node
decides whether a key may be absent when an object is parsed. They agree on a node exactly if the
node settles absence (`Node.acceptsMissing_agrees_iff`): a default has to fit, and below nullable
nodes there is no refinement, union or intersection, which ask for a value before they look at their
parts.
-/

namespace DocumentModel

namespace Node

/-- The check takes absence to where it is decided: nullable nodes pass it on, a default stands for
it, and the nodes of several parts do not look at their parts without a value. -/
def SettlesAbsence : Node → Prop
  | ⟨.nullable inner, _⟩ => inner.SettlesAbsence
  | ⟨.withDefault inner value, _⟩ => inner.Fits (some value)
  | ⟨.refined .., _⟩ | ⟨.union _, _⟩ | ⟨.intersection .., _⟩ => False
  | _ => True

/-- **Absence fits the nodes that say so, as far as they settle it.** -/
theorem fits_none_iff (n : Node) : n.Fits none ↔ n.acceptsMissing = true ∧ n.SettlesAbsence := by
  induction n using Node.induction with
  | step n ih =>
    obtain ⟨kind, description⟩ := n
    cases kind with
    | any | unknown | undefined | void | objectId | optional inner =>
      exact iff_of_true rfl ⟨rfl, trivial⟩
    | nullable inner =>
      have hne : (none : Option Json) ≠ some .null := nofun
      rw [fits_nullable, or_iff_right hne, ih inner List.mem_cons_self, acceptsMissing,
        SettlesAbsence]
    | withDefault inner value =>
      rw [fits_withDefault, Option.getD_none, acceptsMissing, SettlesAbsence]
      exact (and_iff_right rfl).symm
    -- these look for a value before anything else
    | refined inner refinement | union branches | intersection left right =>
      exact iff_of_false (by simp [Fits, check]) fun h => h.2
    | _ => exact iff_of_false (by simp [Fits, check]) fun h => by cases h.1

/-! ## An object with one property -/

/-- An object whose only property has the node. -/
def withKey (n : Node) (key : String) (unknownKeys : UnknownKeys) : Node :=
  ofKind (.object [(key, n)] unknownKeys none)

variable {n : Node} {key : String} {unknownKeys : UnknownKeys}

theorem parse_withKey_iff :
    (∃ out, (n.withKey key unknownKeys).parse (.object []) = .ok out) ↔ n.Fits none := by
  have hfits : (n.withKey key unknownKeys).Fits (some (.object [])) ↔ n.Fits none := by
    rw [withKey, ofKind, fits_object]
    constructor
    · rintro ⟨fields, he, hs, -⟩
      cases he
      exact hs (key, n) List.mem_cons_self
    · intro h
      refine ⟨[], rfl, fun p hp => ?_, by cases unknownKeys <;> simp [UndeclaredFit, undeclared]⟩
      rw [List.mem_singleton.mp hp]
      exact h
  rw [← hfits]
  constructor
  · rintro ⟨out, h⟩
    exact (parse_eq_ok_iff.mp h).1
  · intro h
    exact ⟨_, parse_eq_ok_iff.mpr ⟨h, rfl⟩⟩

theorem document?_withKey (h : n.document? = .ok n.document) :
    ∃ d, (n.withKey key unknownKeys).document? = .ok d
      ∧ (key ∉ d.required.getD [] ↔ n.acceptsMissing = true) := by
  have hs : ∀ p ∈ [(key, n)], p.2.document? = .ok p.2.document := by simpa using h
  have hc : ∀ m ∈ (none : Option Node), m.document? = .ok m.document := nofun
  refine ⟨_, document?_object hs hc, ?_⟩
  cases hm : n.acceptsMissing <;> simp [Document.annotate, Document.ofObject, hm]

/-- **The key is left out of the required ones exactly where parsing tolerates that it is absent, if
and only if a node that accepts absence settles it.** -/
theorem acceptsMissing_agrees_iff (n : Node) (key : String) (unknownKeys : UnknownKeys) :
    ((n.acceptsMissing = true ↔ ∃ out, (n.withKey key unknownKeys).parse (.object []) = .ok out)
      ↔ (n.acceptsMissing = true → n.SettlesAbsence))
    ∧ ∀ d, n.document? = .ok d → ∃ d', (n.withKey key unknownKeys).document? = .ok d'
      ∧ ((key ∉ d'.required.getD []
          ↔ ∃ out, (n.withKey key unknownKeys).parse (.object []) = .ok out)
        ↔ (n.acceptsMissing = true → n.SettlesAbsence)) := by
  have hagree : (n.acceptsMissing = true
        ↔ ∃ out, (n.withKey key unknownKeys).parse (.object []) = .ok out)
      ↔ (n.acceptsMissing = true → n.SettlesAbsence) := by
    rw [parse_withKey_iff, fits_none_iff]
    exact ⟨fun h hm => (h.mp hm).2, fun h => ⟨fun hm => ⟨hm, h hm⟩, And.left⟩⟩
  refine ⟨hagree, fun d hd => ?_⟩
  obtain ⟨d', hd', hrequired⟩ := document?_withKey (by rw [document_of_eq_ok hd]; exact hd)
  exact ⟨d', hd', by rw [hrequired]; exact hagree⟩

/-- Null or a title, which is empty when it is absent. -/
def title : Node := ofKind (.nullable (ofKind (.withDefault string (.string ""))))

theorem acceptsMissing_agrees_of_title : title.SettlesAbsence
    ∧ (∃ out, (title.withKey "title" .strict).parse (.object []) = .ok out)
    ∧ ∃ d, (title.withKey "title" .strict).document? = .ok d ∧ "title" ∉ d.required.getD [] := by
  have hsettles : title.SettlesAbsence := rfl
  have haccepts : title.acceptsMissing = true := rfl
  have hdocument : title.document? = .ok title.document := rfl
  obtain ⟨hagree, hrequired⟩ := acceptsMissing_agrees_iff title "title" .strict
  have hparse := (hagree.mpr fun _ => hsettles).mp haccepts
  obtain ⟨d, hd, hkey⟩ := hrequired _ hdocument
  exact ⟨hsettles, hparse, d, hd, (hkey.mpr fun _ => hsettles).mpr hparse⟩

/-- A number, or a string that may be absent. -/
def stringOrNumber : Node := ofKind (.union [ofKind (.optional string), number])

/-- A union does not ask the branch that would do without a value. -/
theorem stringOrNumber_absent : stringOrNumber.acceptsMissing = true
    ∧ (stringOrNumber.withKey "k" .strip).parse (.object [])
      = .error [⟨"k", "validation.required", "value is required"⟩]
    ∧ ∃ d, (stringOrNumber.withKey "k" .strip).document? = .ok d ∧ "k" ∉ d.required.getD [] := by
  have haccepts : stringOrNumber.acceptsMissing = true := rfl
  have hparse : (stringOrNumber.withKey "k" .strip).parse (.object [])
      = .error [⟨"k", "validation.required", "value is required"⟩] := by
    rw [parse, withKey, ofKind, check_object]
    rfl
  have hdocument : stringOrNumber.document? = .ok stringOrNumber.document := rfl
  obtain ⟨d, hd, hrequired⟩ := document?_withKey hdocument
  exact ⟨haccepts, hparse, d, hd, hrequired.mpr haccepts⟩

end Node

end DocumentModel

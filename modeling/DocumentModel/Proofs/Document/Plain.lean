import DocumentModel.Proofs.Document.Leaves
import DocumentModel.Proofs.Document.Translation

/-!
# Plain nodes

`Node.Plain` leaves out what a document cannot state the way a check does it, or states only to a
database that finds patterns and compares numbers as the check does: markers, patterns, checks on
numbers, intersections and refined nodes. What is parsed by a plain node may be stored, and what may
be stored can be parsed; the modules on these two paths share the lemmas here.
-/

namespace DocumentModel

/-- The kinds of which a document states everything but what their parts leave out. -/
def NodeKind.IsPlain : NodeKind Node → Prop
  | .string checks => ∀ c ∈ checks, c.isLength = true
  | .number checks => checks = []
  -- no two properties of an object have one key
  | .object shape _ _ => (shape.map Prod.fst).Nodup
  | .intersection .. | .refined .. => False
  | _ => True

namespace Node

/-- A node of such a kind whose description does not decide the type. -/
structure Plain (n : Node) : Prop where
  unmarked : Marker.ofDescription? n.description = none
  kind : n.kind.IsPlain

namespace Plain

variable {n : Node}

theorem mk_iff {kind : NodeKind Node} {description : Option String} :
    Plain ⟨kind, description⟩ ↔ Marker.ofDescription? description = none ∧ kind.IsPlain :=
  ⟨fun h => ⟨h.unmarked, h.kind⟩, fun h => ⟨h.1, h.2⟩⟩

theorem unrefined (h : n.Plain) : n.Unrefined := by
  intro inner refinement he
  have hk := h.kind
  rw [he] at hk
  exact hk

theorem isLength (h : n.Plain) : ∀ checks, n.kind = .string checks →
    ∀ c ∈ checks, c.isLength = true := by
  intro checks he
  have hk := h.kind
  rw [he] at hk
  exact hk

theorem number (h : n.Plain) : ∀ checks, n.kind = .number checks → checks = [] := by
  intro checks he
  have hk := h.kind
  rw [he] at hk
  exact hk

end Plain

/-- **A node that is plain throughout has a document.** -/
theorem Throughout.document?_eq {n : Node} (h : n.Throughout Plain) :
    n.document? = .ok n.document :=
  Node.document?_eq (h.mono fun _ => Plain.unrefined)

variable {r : Reading} {v : Json}

/-- An annotation without a marker does not change what the document of a node accepts. -/
theorem accepts_document {kind : NodeKind Node} {description : Option String} {d : Document}
    (hu : Marker.ofDescription? description = none)
    (h : document? ⟨kind, description⟩ = .ok (.annotate description d)) :
    r.accepts (document ⟨kind, description⟩) v = r.accepts d v := by
  rw [document_of_eq_ok h, Reading.accepts_annotate hu]

/-- The document of a plain leaf accepts what fits the leaf. -/
theorem Plain.accepts_iff_fits (hr : r.Standard) {n : Node} (h : n.Plain)
    (hk : n.kind.keepsValue = true) (hd : n.document? = .ok n.document) :
    r.accepts n.document v = true ↔ n.Fits (some v) := by
  obtain ⟨kind, description⟩ := n
  exact Reading.accepts_iff_fits hr hk h.number h.unmarked hd

theorem accepts_ofStringChecks (hr : r.Standard) {checks : List StringCheck}
    (h : ∀ c ∈ checks, c.isLength = true) :
    r.accepts (.ofStringChecks checks) v = true ↔ ∃ raw, v = .string raw
      ∧ (∀ k ∈ (checks.filterMap StringCheck.least?).getLast?, k ≤ raw.length)
      ∧ ∀ k ∈ (checks.filterMap StringCheck.most?).getLast?, raw.length ≤ k := by
  rw [Document.ofStringChecks_of_isLength h, Document.ofType, Document.typed,
    Reading.accepts_lengths, Bool.and_eq_true]
  simp only [BsonTypes.toList, List.any_cons, List.any_nil, Bool.or_false]
  rw [Reading.hasType_string hr]
  constructor
  · rintro ⟨⟨raw, rfl⟩, h⟩
    simp only [Json.string?, Option.all_some, Bool.and_eq_true, Option.all_eq_true,
      decide_eq_true_eq] at h
    exact ⟨raw, rfl, h⟩
  · rintro ⟨raw, rfl, h⟩
    simp only [Json.string?, Option.all_some, Bool.and_eq_true, Option.all_eq_true,
      decide_eq_true_eq]
    exact ⟨⟨raw, rfl⟩, h⟩

theorem accepts_nullable (hr : r.Standard) {inner : Node} (h : inner.Plain)
    (hd : inner.document? = .ok inner.document) :
    r.accepts (.ofNullable inner.kind.primitive?.isSome inner.document) v
      = (v.isNull || r.accepts inner.document v) := by
  obtain ⟨kind, description⟩ := inner
  cases hp : kind.primitive?.isSome with
  | true => exact Reading.accepts_ofNullable_primitive hr hp h.isLength h.number h.unmarked hd
  | false => exact Reading.accepts_ofNullable hr

/-! ## Unions -/

variable {branches : List Node}

/-- What a branch makes of a value is accepted by the union, if it is accepted by the branch. -/
theorem accepts_unionDocument_of_result (hr : r.Standard)
    (hu : ∀ b ∈ branches, Marker.ofDescription? b.description = none) {b : Node} {w : Json}
    (hb : b ∈ branches) (hf : b.Fits (some v)) (hw : b.result (some v) = some w)
    (ha : r.accepts b.document w = true) : r.accepts (unionDocument branches) w = true := by
  rw [unionDocument, if_neg (by simp [List.ne_nil_of_mem hb])]
  cases hc : Document.collapse? branches with
  | some d =>
    -- the branch has left the value as it is
    have hs := Reading.statesUnion_collapse? hr hu hc
    have he : v = w := Option.some.inj ((hs.keeps b hb v hf).symm.trans hw)
    rw [Option.getD_some, ← he]
    exact (hs.accepts_iff v).mpr ⟨b, hb, hf⟩
  | none =>
    rw [Option.getD_none, Reading.accepts_anyOf, List.any_eq_true]
    exact ⟨_, List.mem_map_of_mem hb, ha⟩

/-- What a union accepts fits a branch, or is accepted by one. -/
theorem exists_branch_of_accepts (hr : r.Standard)
    (hu : ∀ b ∈ branches, Marker.ofDescription? b.description = none)
    (ha : r.accepts (unionDocument branches) v = true) :
    ∃ b ∈ branches, b.Fits (some v) ∨ r.accepts b.document v = true := by
  rw [unionDocument] at ha
  split at ha
  · rw [Reading.accepts_nothing] at ha
    cases ha
  · cases hc : Document.collapse? branches with
    | some d =>
      rw [hc, Option.getD_some] at ha
      obtain ⟨b, hb, hf⟩ := ((Reading.statesUnion_collapse? hr hu hc).accepts_iff v).mp ha
      exact ⟨b, hb, Or.inl hf⟩
    | none =>
      rw [hc, Option.getD_none, Reading.accepts_anyOf, List.any_eq_true] at ha
      obtain ⟨d, hd, ha⟩ := ha
      obtain ⟨b, hb, rfl⟩ := List.mem_map.mp hd
      exact ⟨b, hb, Or.inr ha⟩

/-! ## An instance -/

/-- A title of some length, a number with a default, and perhaps labels; other keys are dropped. -/
def article : Node :=
  ofShape [("title", ofKind (.string [.min 1, .max 80])),
    ("views", ofKind (.withDefault number (Json.ofNat 0))),
    ("labels", ofKind (.optional (arrayOf string)))]

end Node

end DocumentModel

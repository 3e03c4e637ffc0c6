import DocumentModel.Proofs.Document.Leaves
import DocumentModel.Proofs.Document.Translation

/-!
# Nodes that are translated

The document of a node is built from the documents of its parts, except that the keys of a record
are strings whatever their node says. `Node.Translated` is a condition on the nodes that are
translated with a node. Where a node has a document, so has every part that is translated with it
(`Node.document?_of_mem_translatedParts`). Alternatives that are put into one document have none of
their own in it; `Node.Shown` is a condition on all nodes but these.
-/

namespace DocumentModel

/-- The parts that are translated with a node of this kind. -/
def NodeKind.translatedParts {α : Type} : NodeKind α → List α
  | .record _ value => [value]
  | kind => kind.parts

/-- Only the keys of a record are not translated. -/
theorem NodeKind.translatedParts_subset {α : Type} (kind : NodeKind α) :
    kind.translatedParts ⊆ kind.parts := by
  cases kind with
  | record key value => exact List.subset_cons_self key [value]
  | _ => exact List.Subset.refl _

/-- The parts whose documents stand in the document of a node of this kind. -/
def NodeKind.shownParts : NodeKind Node → List Node
  | .union branches => if (Document.collapse? branches).isSome then [] else branches
  | kind => kind.translatedParts

/-- Alternatives in one document are not shown. -/
theorem NodeKind.shownParts_of_collapse? {branches : List Node} {d : Document}
    (h : Document.collapse? branches = some d) : (NodeKind.union branches).shownParts = [] := by
  rw [shownParts, h]
  rfl

/-- Alternatives beside each other are all shown. -/
theorem NodeKind.shownParts_of_collapse?_eq_none {branches : List Node}
    (h : Document.collapse? branches = none) : (NodeKind.union branches).shownParts = branches := by
  rw [shownParts, h]
  rfl

theorem NodeKind.shownParts_subset (kind : NodeKind Node) :
    kind.shownParts ⊆ kind.translatedParts := by
  cases kind with
  | union branches =>
    rw [shownParts]
    split
    · exact List.nil_subset _
    · exact List.Subset.refl _
  | _ => exact List.Subset.refl _

namespace Node

/-- A condition that a node and all nodes translated with it meet. -/
inductive Translated (p : Node → Prop) : Node → Prop
  | intro {n : Node} (here : p n) (below : ∀ m ∈ n.kind.translatedParts, Translated p m) :
    Translated p n

/-- A condition that a node and all nodes meet whose documents stand in the document of the node. -/
inductive Shown (p : Node → Prop) : Node → Prop
  | intro {n : Node} (here : p n) (below : ∀ m ∈ n.kind.shownParts, Shown p m) : Shown p n

variable {p : Node → Prop} {n m : Node}

namespace Translated

theorem here (h : n.Translated p) : p n := by
  cases h
  assumption

theorem part (h : n.Translated p) (hm : m ∈ n.kind.translatedParts) : m.Translated p := by
  cases h with
  | intro _ below => exact below m hm

/-- It holds of all nodes whose documents are shown. -/
theorem shown (h : n.Translated p) : n.Shown p := by
  induction h with
  | intro here _ ih => exact .intro here fun m hm => ih m (NodeKind.shownParts_subset _ hm)

end Translated

namespace Shown

theorem here (h : n.Shown p) : p n := by
  cases h
  assumption

theorem part (h : n.Shown p) (hm : m ∈ n.kind.shownParts) : m.Shown p := by
  cases h with
  | intro _ below => exact below m hm

end Shown

/-- What holds throughout holds of all nodes that are translated. -/
theorem Throughout.translated (h : n.Throughout p) : n.Translated p := by
  induction h with
  | intro here _ ih => exact .intro here fun m hm => ih m (NodeKind.translatedParts_subset _ hm)

theorem translated_true (n : Node) : n.Translated fun _ => True := by
  induction n using Node.induction with
  | step n ih => exact .intro trivial fun m hm => ih m (NodeKind.translatedParts_subset _ hm)

/-! ## Alternatives in one document -/

variable {branches : List Node} {d : Document}

/-- Only primitives without checks, scalar literals and enumerations are put into one document. -/
theorem isSome_of_collapse? (h : Document.collapse? branches = some d) :
    ∀ b ∈ branches, b.plainType?.isSome ∨ b.literal?.isSome ∨ b.enumeration?.isSome := by
  intro b hb
  unfold Document.collapse? at h
  split at h
  · next types ht =>
    obtain ⟨t, -, he⟩ := (Reading.mem_of_mapM_eq_some ht).1 b hb
    exact Or.inl (Option.isSome_of_eq_some he)
  · split at h
    · next literals hl =>
      obtain ⟨l, -, he⟩ := (Reading.mem_of_mapM_eq_some hl).1 b hb
      exact Or.inr (Or.inl (Option.isSome_of_eq_some he))
    · split at h
      · next values hv =>
        obtain ⟨v, -, he⟩ := (Reading.mem_of_mapM_eq_some hv).1 b hb
        exact Or.inr (Or.inr (Option.isSome_of_eq_some he))
      · cases h

/-- What is put into one document has a document and no parts that are translated. -/
theorem leaf_of_collapse? (h : Document.collapse? branches = some d) {b : Node}
    (hb : b ∈ branches) : b.document? = .ok b.document ∧ b.kind.translatedParts = [] := by
  have hb := isSome_of_collapse? h b hb
  obtain ⟨kind, description⟩ := b
  cases kind with
  | string | number | bigInt | objectId | boolean | date | null | literal | enumeration =>
    exact ⟨rfl, rfl⟩
  | _ => simp [plainType?, NodeKind.primitive?, literal?, enumeration?] at hb

/-- A condition on all nodes that are shown is one on all that are translated, if it includes that
the alternatives in one document meet it. -/
theorem Shown.translated (h : n.Shown fun m => p m ∧ ∀ branches d, m.kind = .union branches →
    Document.collapse? branches = some d → ∀ b ∈ branches, p b) : n.Translated p := by
  induction h with
  | @intro n here _ ih =>
    refine .intro here.1 fun m hm => ?_
    obtain ⟨kind, description⟩ := n
    cases kind with
    | union branches =>
      cases hc : Document.collapse? branches with
      | none => exact ih m (by rwa [NodeKind.shownParts_of_collapse?_eq_none hc])
      | some d =>
        refine .intro (here.2 branches d rfl hc m hm) ?_
        rw [(leaf_of_collapse? hc hm).2]
        exact List.forall_mem_nil _
    | _ => exact ih m hm

/-! ## Parts with documents -/

/-- **Where a node has a document, all parts that are translated with it have one.** -/
theorem document?_of_mem_translatedParts (h : n.document? = .ok d) :
    ∀ m ∈ n.kind.translatedParts, m.document? = .ok m.document := by
  have hself : ∀ {m : Node} {e}, m.document? = .ok e → m.document? = .ok m.document :=
    fun he => by rw [he, document_of_eq_ok he]
  obtain ⟨kind, description⟩ := n
  rw [document?.eq_def] at h
  obtain ⟨d, hd, rfl⟩ := map_eq_ok_iff.mp h
  cases kind with
  | object shape unknownKeys catchall =>
    cases catchall with
    | none =>
      obtain ⟨ps, hps, -⟩ := bind_eq_ok_iff.mp hd
      exact List.forall_mem_append.mpr
        ⟨List.forall_mem_map.mpr (properties?_eq_ok hps).1, List.forall_mem_nil _⟩
    | some extra =>
      obtain ⟨ps, hps, hd⟩ := bind_eq_ok_iff.mp hd
      obtain ⟨e, he, -⟩ := bind_eq_ok_iff.mp hd
      exact List.forall_mem_append.mpr
        ⟨List.forall_mem_map.mpr (properties?_eq_ok hps).1,
          List.forall_mem_singleton.mpr (hself he)⟩
  | record key item =>
    obtain ⟨e, he, -⟩ := map_eq_ok_iff.mp hd
    exact List.forall_mem_singleton.mpr (hself he)
  | array element bounds | set element bounds =>
    obtain ⟨e, he, -⟩ := map_eq_ok_iff.mp hd
    exact List.forall_mem_singleton.mpr (hself he)
  | optional inner | nullable inner =>
    obtain ⟨e, he, -⟩ := map_eq_ok_iff.mp hd
    exact List.forall_mem_singleton.mpr (hself he)
  | withDefault inner value => exact List.forall_mem_singleton.mpr (hself hd)
  | tuple items rest =>
    cases rest with
    | none =>
      obtain ⟨ds, hds, -⟩ := map_eq_ok_iff.mp hd
      exact List.forall_mem_append.mpr ⟨(documents?_eq_ok hds).1, List.forall_mem_nil _⟩
    | some extra =>
      obtain ⟨ds, hds, hd⟩ := bind_eq_ok_iff.mp hd
      obtain ⟨e, he, -⟩ := bind_eq_ok_iff.mp hd
      exact List.forall_mem_append.mpr
        ⟨(documents?_eq_ok hds).1, List.forall_mem_singleton.mpr (hself he)⟩
  | map left right | intersection left right =>
    obtain ⟨a, ha, hd⟩ := bind_eq_ok_iff.mp hd
    obtain ⟨b, hb, -⟩ := bind_eq_ok_iff.mp hd
    exact List.forall_mem_cons.mpr ⟨hself ha, List.forall_mem_singleton.mpr (hself hb)⟩
  | union branches =>
    dsimp only at hd
    split at hd
    · next he =>
      rw [List.isEmpty_iff.mp he]
      exact List.forall_mem_nil _
    · split at hd
      · next hcollapse => exact fun b hb => (leaf_of_collapse? hcollapse hb).1
      · obtain ⟨ds, hds, -⟩ := map_eq_ok_iff.mp hd
        exact (documents?_eq_ok hds).1
  | refined inner refinement => cases hd
  -- the other kinds have no parts
  | _ => exact List.forall_mem_nil _

end Node

end DocumentModel

import DocumentModel.Compile.Model
import DocumentModel.Proofs.Document.Translated

/-!
# Nodes without a document

No document states the predicate of a refined node. A node that has no document is refined itself,
or one of the parts that are translated with it has none (`Node.exists_of_document?_eq_error`). So a
node has no document exactly if a refined node occurs in it outside the keys of records, and the
failure always names the refined kind (`Node.titledDocument?_eq_error_iff`).
-/

namespace DocumentModel

namespace Node

variable {n m : Node} {e : Untranslatable} {d : Document}

/-! ## Occurrences -/

/-- The node occurs in the other one, at some depth, outside the keys of records. -/
inductive OccursIn (m : Node) : Node → Prop
  | here : OccursIn m m
  | inside {n p : Node} (part : p ∈ n.kind.translatedParts) (h : OccursIn m p) : OccursIn m n

/-- A refined node occurs in the node outside the keys of records. -/
def HoldsRefined (n : Node) : Prop :=
  ∃ inner refinement description, OccursIn ⟨.refined inner refinement, description⟩ n

theorem HoldsRefined.inside (part : m ∈ n.kind.translatedParts) (h : m.HoldsRefined) :
    n.HoldsRefined := by
  obtain ⟨inner, refinement, description, hm⟩ := h
  exact ⟨inner, refinement, description, hm.inside part⟩

/-- What occurs in a node with a document has a document. -/
theorem OccursIn.document? (h : m.OccursIn n) (hd : n.document? = .ok d) :
    m.document? = .ok m.document := by
  induction h generalizing d with
  | here => rw [hd, document_of_eq_ok hd]
  | inside part _ ih => exact ih (document?_of_mem_translatedParts hd _ part)

/-! ## Where failures come from -/

theorem exists_of_documents?_eq_error {nodes : List Node} (h : documents? nodes = .error e) :
    ∃ m ∈ nodes, m.document? = .error e := by
  induction nodes with
  | nil => cases h
  | cons n rest ih =>
    rw [documents?] at h
    rcases bind_eq_error_iff.mp h with h | ⟨first, -, h⟩
    · exact ⟨n, List.mem_cons_self, h⟩
    · rcases bind_eq_error_iff.mp h with h | ⟨more, -, h⟩
      · obtain ⟨m, hm, he⟩ := ih h
        exact ⟨m, List.mem_cons_of_mem _ hm, he⟩
      · cases h

/-- The keys of properties have no part in how their nodes are translated. -/
theorem documents?_map_snd (shape : List (String × Node)) :
    documents? (shape.map Prod.snd) = List.map Prod.snd <$> properties? shape := by
  induction shape with
  | nil => rfl
  | cons p rest ih =>
    obtain ⟨key, node⟩ := p
    rw [List.map_cons, documents?, properties?, ih]
    cases node.document? with
    | error e => rfl
    | ok first => cases properties? rest <;> rfl

/-- **A failure comes from a part that is translated with the node**, unless the node is refined. -/
theorem exists_of_document?_eq_error (h : n.document? = .error e) :
    (e.kind = "refined" ∧ ∃ inner refinement, n.kind = .refined inner refinement)
      ∨ ∃ m ∈ n.kind.translatedParts, m.document? = .error e := by
  obtain ⟨kind, description⟩ := n
  rw [document?.eq_def] at h
  replace h := map_eq_error_iff.mp h
  cases kind with
  | object shape unknownKeys catchall =>
    right
    have hproperty : properties? shape = .error e →
        ∃ m ∈ NodeKind.translatedParts (.object shape unknownKeys catchall),
          m.document? = .error e := by
      intro h
      have hnodes := (documents?_map_snd shape).trans (map_eq_error_iff.mpr h)
      obtain ⟨m, hm, he⟩ := exists_of_documents?_eq_error hnodes
      exact ⟨m, List.mem_append_left _ hm, he⟩
    cases catchall with
    | none =>
      rcases bind_eq_error_iff.mp h with h | ⟨properties, -, h⟩
      · exact hproperty h
      · cases h
    | some extra =>
      rcases bind_eq_error_iff.mp h with h | ⟨properties, -, h⟩
      · exact hproperty h
      · rcases bind_eq_error_iff.mp h with h | ⟨d, -, h⟩
        · exact ⟨extra, List.mem_append_right _ List.mem_cons_self, h⟩
        · cases h
  | tuple items rest =>
    right
    have hitem : documents? items = .error e →
        ∃ m ∈ NodeKind.translatedParts (.tuple items rest), m.document? = .error e := by
      intro h
      obtain ⟨m, hm, he⟩ := exists_of_documents?_eq_error h
      exact ⟨m, List.mem_append_left _ hm, he⟩
    cases rest with
    | none => exact hitem (map_eq_error_iff.mp h)
    | some extra =>
      rcases bind_eq_error_iff.mp h with h | ⟨documents, -, h⟩
      · exact hitem h
      · rcases bind_eq_error_iff.mp h with h | ⟨d, -, h⟩
        · exact ⟨extra, List.mem_append_right _ List.mem_cons_self, h⟩
        · cases h
  | union branches =>
    right
    dsimp only at h
    split at h
    · cases h
    · split at h
      · cases h
      · exact exists_of_documents?_eq_error (map_eq_error_iff.mp h)
  | map first second | intersection first second =>
    right
    rcases bind_eq_error_iff.mp h with h | ⟨d, -, h⟩
    · exact ⟨first, List.mem_cons_self, h⟩
    · rcases bind_eq_error_iff.mp h with h | ⟨d, -, h⟩
      · exact ⟨second, List.mem_cons_of_mem _ List.mem_cons_self, h⟩
      · cases h
  | record key item | array item bounds | set item bounds | optional item | nullable item =>
    exact Or.inr ⟨item, List.mem_cons_self, map_eq_error_iff.mp h⟩
  | withDefault inner value => exact Or.inr ⟨inner, List.mem_cons_self, h⟩
  | refined inner refinement =>
    cases h
    exact Or.inl ⟨rfl, inner, refinement, rfl⟩
  -- the other kinds have a document each
  | _ => cases h

/-- Every failure names the refined kind, and comes from a refined node. -/
theorem holdsRefined_of_document?_eq_error (h : n.document? = .error e) :
    e.kind = "refined" ∧ n.HoldsRefined := by
  induction n using Node.induction with
  | step n ih =>
    rcases exists_of_document?_eq_error h with ⟨hkind, inner, refinement, hn⟩ | ⟨m, hm, he⟩
    · obtain ⟨kind, description⟩ := n
      obtain rfl := hn
      exact ⟨hkind, inner, refinement, description, .here⟩
    · obtain ⟨hkind, hrefined⟩ := ih m (NodeKind.translatedParts_subset _ hm) he
      exact ⟨hkind, hrefined.inside hm⟩

/-- A refined node anywhere outside the keys of records is found. -/
theorem HoldsRefined.document?_ne_ok (h : n.HoldsRefined) : n.document? ≠ .ok d := by
  obtain ⟨inner, refinement, description, hoccurs⟩ := h
  intro hd
  cases hoccurs.document? hd

theorem document?_eq_error_iff :
    n.document? = .error e ↔ e.kind = "refined" ∧ n.HoldsRefined := by
  refine ⟨holdsRefined_of_document?_eq_error, fun ⟨hkind, hrefined⟩ => ?_⟩
  cases hd : n.document? with
  | ok d => exact absurd hd hrefined.document?_ne_ok
  | error e' =>
    obtain ⟨kind⟩ := e
    obtain ⟨kind'⟩ := e'
    have hkind' : kind' = "refined" := (holdsRefined_of_document?_eq_error hd).1
    rw [hkind', show kind = "refined" from hkind]

/-- **A node has no document exactly if a refined node occurs in it outside the keys of records**,
whatever the title, and the failure always names the refined kind. A model of the node passes the
failure on as an unsupported type. -/
theorem titledDocument?_eq_error_iff (n : Node) (title : Option String) :
    (∀ e, n.titledDocument? title = .error e ↔ e.kind = "refined" ∧ n.HoldsRefined)
    ∧ ∀ id name indexes e, Model.document? ⟨id, name, n, indexes⟩ title = .error e ↔
      e = .unsupportedType "refined" ∧ n.HoldsRefined := by
  have hnode : ∀ e, n.titledDocument? title = .error e ↔ e.kind = "refined" ∧ n.HoldsRefined :=
    fun e => map_eq_error_iff.trans document?_eq_error_iff
  refine ⟨hnode, fun id name indexes e => ?_⟩
  rw [Model.document?]
  cases hd : n.titledDocument? title with
  | ok d =>
    refine iff_of_false nofun fun h => ?_
    have herror := (hnode ⟨"refined"⟩).mpr ⟨rfl, h.2⟩
    cases hd.symm.trans herror
  | error e' =>
    obtain ⟨hkind, hrefined⟩ := (hnode e').mp hd
    dsimp only
    rw [hkind]
    exact ⟨fun h => ⟨(Except.error.inj h).symm, hrefined⟩, fun h => congrArg _ h.1.symm⟩

/-- The keys of a record are not translated, and its values are. -/
example (refinement : Refinement) :
    let refined := ofKind (.refined string refinement)
    (ofKind (.record refined number)).document?
        = .ok { Document.ofType .object with
            additionalProperties := some (.schema (.ofType .number)) }
      ∧ (ofKind (.record string refined)).document? = .error ⟨"refined"⟩ :=
  ⟨rfl, rfl⟩

end Node

end DocumentModel

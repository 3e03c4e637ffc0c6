import DocumentModel.Document.Translate

/-!
# The documents a document is made of

`Document.parts` lists the documents directly inside a document, wherever its rules have some.
Statements about documents at every depth are proved with `Document.induction`, and
`Document.Throughout` is a condition on all of them.
-/

namespace DocumentModel

/-- The documents for the items of a list. -/
def ItemRules.parts {α : Type} : ItemRules α → List α
  | .every d => [d]
  | .each ds => ds

/-- The document for what is beyond the declared part, if there is one. -/
def Extra.parts {α : Type} : Extra α → List α
  | .allowed _ => []
  | .schema d => [d]

namespace Document

/-- The documents that a document is directly made of. -/
def parts (d : Document) : List Document :=
  (d.items.map ItemRules.parts).getD []
    ++ (d.additionalItems.map Extra.parts).getD []
    ++ ((d.properties.getD []).map Prod.snd)
    ++ (d.additionalProperties.map Extra.parts).getD []
    ++ d.allOf.getD [] ++ d.anyOf.getD [] ++ d.oneOf.getD [] ++ d.no.toList

/-- Every rule that holds documents adds them to the parts. -/
theorem subset_parts (d : Document) :
    (d.items.map ItemRules.parts).getD [] ⊆ d.parts
    ∧ (d.additionalItems.map Extra.parts).getD [] ⊆ d.parts
    ∧ (d.properties.getD []).map Prod.snd ⊆ d.parts
    ∧ (d.additionalProperties.map Extra.parts).getD [] ⊆ d.parts
    ∧ d.allOf.getD [] ⊆ d.parts ∧ d.anyOf.getD [] ⊆ d.parts ∧ d.oneOf.getD [] ⊆ d.parts
    ∧ d.no.toList ⊆ d.parts := by
  refine ⟨?_, ?_, ?_, ?_, ?_, ?_, ?_, ?_⟩ <;> intro e he <;> simp only [parts, List.mem_append, he,
    true_or, or_true]

/-- A part is smaller than the document it stands in, so an induction over parts comes to an end. -/
theorem sizeOf_lt_of_mem_parts {d e : Document} (h : e ∈ d.parts) : sizeOf e < sizeOf d := by
  obtain ⟨title, description, bsonType, enumeration, multipleOf, minimum, exclusiveMinimum, maximum,
    exclusiveMaximum, minLength, maxLength, pattern, items, additionalItems, minItems, maxItems,
    uniqueItems, required, properties, additionalProperties, allOf, anyOf, oneOf, no⟩ := d
  have hlist : ∀ ds : Option (List Document), e ∈ ds.getD [] → sizeOf e < sizeOf ds := by
    intro ds hm
    cases ds with
    | none => cases hm
    | some ds =>
      have := List.sizeOf_lt_of_mem (show e ∈ ds from hm)
      simp
      omega
  have hextra : ∀ x : Option (Extra Document), e ∈ (x.map Extra.parts).getD [] →
      sizeOf e < sizeOf x := by
    intro x hm
    match x with
    | none | some (.allowed _) => cases hm
    | some (.schema d) =>
      obtain rfl := List.mem_singleton.mp hm
      simp
      omega
  simp only [parts, List.mem_append, or_assoc] at h
  simp only [Document.mk.sizeOf_spec]
  rcases h with h | h | h | h | h | h | h | h
  · match items with
    | none => cases h
    | some (.every d) =>
      obtain rfl := List.mem_singleton.mp h
      simp
      omega
    | some (.each ds) =>
      have := List.sizeOf_lt_of_mem (show e ∈ ds from h)
      simp
      omega
  · have := hextra _ h
    omega
  · obtain ⟨⟨key, _⟩, hm, rfl⟩ := List.mem_map.mp h
    cases properties with
    | none => cases hm
    | some properties =>
      have := List.sizeOf_lt_of_mem (show _ ∈ properties from hm)
      simp at this ⊢
      omega
  · have := hextra _ h
    omega
  · have := hlist _ h
    omega
  · have := hlist _ h
    omega
  · have := hlist _ h
    omega
  · cases no with
    | none => cases h
    | some d =>
      obtain rfl := List.mem_singleton.mp h
      simp
      omega

/-- **What holds of a document whenever it holds of its parts holds of every document.** -/
theorem induction {motive : Document → Prop}
    (step : ∀ d : Document, (∀ e ∈ d.parts, motive e) → motive d) (d : Document) : motive d :=
  step d fun e _ => induction step e
termination_by sizeOf d
decreasing_by exact sizeOf_lt_of_mem_parts ‹_›

/-- A condition that a document and all documents inside it meet. -/
inductive Throughout (p : Document → Prop) : Document → Prop
  | intro {d : Document} (here : p d) (below : ∀ e ∈ d.parts, Throughout p e) : Throughout p d

namespace Throughout

variable {p q : Document → Prop} {d e : Document}

theorem here (h : d.Throughout p) : p d := by
  cases h
  assumption

theorem part (h : d.Throughout p) (he : e ∈ d.parts) : e.Throughout p := by
  cases h with
  | intro _ below => exact below e he

end Throughout

end Document

end DocumentModel

import DocumentModel.Proofs.Document.Lists
import DocumentModel.Proofs.Document.Shown

/-!
# Enumerations in documents

A document lists values where its node is a literal or an enumeration, or where alternatives are put
into one document. The alternatives are listed without repetition, but what an enumeration lists
itself is written as it is. So no list in the document of a node is empty if no enumeration is, and
no list has a value twice exactly if no enumeration has that is shown
(`Node.enumerations_of_titledDocument?`).
-/

namespace DocumentModel

/-- The values that a node of this kind lists. -/
def NodeKind.enumerated? {α : Type} : NodeKind α → Option (List Json)
  | .literal value => some [value]
  | .enumeration values => some (values.map Json.string)
  | .nativeEnum members => some (members.map (·.value.toJson))
  | _ => none

/-- The values that the node lists, if it lists any, meet a condition as a list. -/
def Node.Enumerates (Q : List Json → Prop) (n : Node) : Prop :=
  ∀ values ∈ n.kind.enumerated?, Q values

namespace Document

/-- The values that the document lists, if it lists any, meet a condition as a list. -/
def Enumerates (Q : List Json → Prop) (d : Document) : Prop := ∀ values ∈ d.enumeration, Q values

variable {Q : List Json → Prop} {q : Node → Prop} {d : Document} {branches : List Node}

theorem enumerates_annotate_iff {description : Option String} :
    (d.annotate description).Enumerates Q ↔ d.Enumerates Q := by
  obtain ⟨types, text, hd, -⟩ := exists_annotate_eq description d
  rw [hd]
  rfl

/-- **What holds of one value, of the values that enumerations list and of those of alternatives
holds of all lists of values.** -/
theorem builds_enumerates (hone : ∀ value, Q [value])
    (hcollapsed : ∀ {branches d}, branches ≠ [] → (∀ b ∈ branches, q b) →
      collapse? branches = some d → d.Enumerates Q) :
    Builds (Enumerates Q) (Node.Enumerates Q) q where
  annotate _ _ h := enumerates_annotate_iff.mpr h
  empty := nofun
  nothing := nofun
  ofType _ := nofun
  pattern _ := nofun
  string checks _ _ := by
    obtain ⟨_, _, _, _, hd, -⟩ := exists_ofStringChecks_eq checks
    rw [hd]
    exact nofun
  number checks _ _ := by
    obtain ⟨_, _, _, _, _, _, hd, -⟩ := exists_ofNumberChecks_eq checks
    rw [hd]
    exact nofun
  literal value _ _ := by
    rintro _ ⟨⟩
    exact hone value
  enumeration _ _ h := h
  nativeEnum _ _ h := h
  object _ _ _ _ _ _ _ _ := nofun
  record _ := nofun
  list _ _ := nofun
  set _ _ := nofun
  tuple _ rest := by cases rest <;> exact nofun
  pair _ _ := nofun
  map _ _ := nofun
  collapsed _ _ _ hs hne _ hd := hcollapsed hne hs hd
  anyOf _ _ := nofun
  allOf _ _ := nofun
  nullable h := h

/-- The list in a document shows what its node lists. -/
theorem tells_enumerates : Tells (Enumerates Q) (Node.Enumerates Q) where
  empty := nofun
  here {n d} h hd values hv := by
    obtain ⟨kind, description⟩ := n
    cases kind with
    | literal | enumeration | nativeEnum =>
      cases h
      exact enumerates_annotate_iff.mp hd values hv
    | _ => cases hv
  annotated h := enumerates_annotate_iff.mp h
  nullable h := h

theorem ne_nil_of_enumeration? {n : Node} {values : List String} (h : n.Enumerates (· ≠ []))
    (hv : n.enumeration? = some values) : values ≠ [] := by
  have henumerated : n.kind.enumerated? = some (values.map Json.string) := by
    rw [Reading.enumeration?_eq_some hv]
    rfl
  simpa using h _ henumerated

/-- Alternatives in one document list values without repetition, and some if no enumeration of them
is empty. -/
theorem exists_uniqueBy_of_collapse? (hne : branches ≠ []) (h : collapse? branches = some d) :
    ∀ values ∈ d.enumeration, ∃ listed, values = uniqueBy Json.same listed
      ∧ ((∀ b ∈ branches, b.Enumerates (· ≠ [])) → listed ≠ []) := by
  intro values hv
  unfold collapse? at h
  split at h
  · cases h
    cases hv
  · split at h
    · next literals hl =>
      cases h
      cases hv
      exact ⟨_, rfl, fun _ => by simpa using ne_nil_of_mapM_eq_some hne hl⟩
    · split at h
      · next lists hl =>
        cases h
        cases hv
        refine ⟨_, rfl, fun hs => ?_⟩
        obtain ⟨b, hb⟩ := List.exists_mem_of_ne_nil branches hne
        obtain ⟨list, hlist, hb'⟩ := (Reading.mem_of_mapM_eq_some hl).1 b hb
        obtain ⟨text, htext⟩ :=
          List.exists_mem_of_ne_nil list (ne_nil_of_enumeration? (hs b hb) hb')
        exact List.ne_nil_of_mem (List.mem_map_of_mem (List.mem_flatten_of_mem hlist htext))
      · cases h

theorem builds_nonEmpty : Builds (Enumerates (· ≠ [])) (Node.Enumerates (· ≠ [])) :=
  builds_enumerates (fun value => List.cons_ne_nil value []) fun hne hs hd values hv => by
    obtain ⟨listed, rfl, hlisted⟩ := exists_uniqueBy_of_collapse? hne hd values hv
    exact uniqueBy_ne_nil (hlisted hs)

/-- Nothing has to be known of alternatives that are listed together. -/
theorem builds_distinct : Builds (Enumerates (Json.allDistinct · = true))
    (Node.Enumerates (Json.allDistinct · = true)) fun _ => True := by
  refine builds_enumerates (fun value => ?_) fun hne _ hd values hv => ?_
  · simp [Json.allDistinct]
  · obtain ⟨listed, rfl, -⟩ := exists_uniqueBy_of_collapse? hne hd values hv
    exact decide_eq_true pairwise_uniqueBy

end Document

namespace Node

open Document

/-- **No list of values in the document of a node is empty** if none of its enumerations is, **and
none has a value twice exactly if no enumeration has** that does not stand in one document with
others. -/
theorem enumerations_of_titledDocument? {n : Node} {title : Option String} {d : Document}
    (hn : n.Throughout PropertiesOnce) (hne : n.Translated (Enumerates (· ≠ [])))
    (h : n.titledDocument? title = .ok d) :
    d.Throughout (Document.Enumerates (· ≠ []))
    ∧ (d.Throughout (Document.Enumerates (Json.allDistinct · = true))
      ↔ n.Shown (Enumerates (Json.allDistinct · = true))) := by
  obtain ⟨e, he, rfl⟩ := titledDocument?_eq_ok_iff.mp h
  rw [throughout_titled_iff fun _ _ => Iff.rfl, throughout_titled_iff fun _ _ => Iff.rfl]
  refine ⟨throughout_of_document? builds_nonEmpty hne he,
    shown_of_throughout tells_enumerates hn he, fun hs => ?_⟩
  exact throughout_of_shown builds_distinct hs (translated_true n) he

/-- Sizes of children or adults; one of them is both. -/
def garmentSize : Node :=
  ofKind (.union [ofKind (.enumeration ["s", "m"]), ofKind (.enumeration ["m", "l"])])

def garmentState : Node := ofKind (.nativeEnum [⟨"New", .number 1⟩, ⟨"Worn", .number 2⟩])

def garment : Node := ofShape (Shape.ofEntries [("size", garmentSize), ("state", garmentState)])

theorem enumerations_of_titledDocument?_garment :
    garment.Throughout PropertiesOnce ∧ garment.Translated (Enumerates (· ≠ []))
      ∧ garment.Shown (Enumerates (Json.allDistinct · = true))
      ∧ ∃ d, garment.titledDocument? none = .ok d
        ∧ d.Throughout (Document.Enumerates (Json.allDistinct · = true)) := by
  have hn : garment.Throughout PropertiesOnce := by
    simp [garment, garmentSize, garmentState, Shape.ofEntries, Shape.extend, Shape.insert, ofShape,
      ofKind, Throughout.mk_iff, PropertiesOnce, shape?, NodeKind.parts, Shape.keys]
  have hgarment : ∀ Q, garment.Enumerates Q := by rintro _ _ ⟨⟩
  have hsize : ∀ Q, garmentSize.Enumerates Q := by rintro _ _ ⟨⟩
  have hsizes : garmentSize.Translated (Enumerates (· ≠ [])) := by
    refine .intro (hsize _) (List.forall_mem_cons.mpr ⟨?_, List.forall_mem_singleton.mpr ?_⟩)
    all_goals
      refine .intro ?_ (List.forall_mem_nil _)
      rintro _ ⟨⟩
      exact List.cons_ne_nil _ _
  have hstate : garmentState.Enumerates (· ≠ [])
      ∧ garmentState.Enumerates (Json.allDistinct · = true) :=
    ⟨by rintro _ ⟨⟩; exact List.cons_ne_nil _ _, by rintro _ ⟨⟩; decide⟩
  have hne : garment.Translated (Enumerates (· ≠ [])) :=
    .intro (hgarment _) (List.forall_mem_cons.mpr
      ⟨hsizes, List.forall_mem_singleton.mpr (.intro hstate.1 (List.forall_mem_nil _))⟩)
  have hshown : garment.Shown (Enumerates (Json.allDistinct · = true)) :=
    .intro (hgarment _) (List.forall_mem_cons.mpr ⟨.intro (hsize _) (List.forall_mem_nil _),
      List.forall_mem_singleton.mpr (.intro hstate.2 (List.forall_mem_nil _))⟩)
  have hd : garment.titledDocument? none = .ok garment.document := rfl
  obtain ⟨-, hiff⟩ := enumerations_of_titledDocument? hn hne hd
  exact ⟨hn, hne, hshown, _, hd, hiff.mpr hshown⟩

/-- What an enumeration lists twice is listed twice in its document. -/
theorem repeated_values_stay :
    let letters := ofKind (.enumeration ["a", "a"])
    let numbers := ofKind (.nativeEnum [⟨"A", .number 1⟩, ⟨"B", .number 1⟩])
    (∀ n ∈ [letters, numbers], n.Throughout PropertiesOnce ∧ n.Translated (Enumerates (· ≠ [])))
      ∧ (∃ d, letters.titledDocument? none = .ok d
        ∧ d.enumeration = some [.string "a", .string "a"]
        ∧ ¬ d.Throughout (Document.Enumerates (Json.allDistinct · = true)))
      ∧ ∃ d, numbers.titledDocument? none = .ok d
        ∧ d.enumeration = some [Json.ofInt 1, Json.ofInt 1]
        ∧ ¬ d.Throughout (Document.Enumerates (Json.allDistinct · = true)) := by
  refine ⟨?_, ⟨_, rfl, rfl, fun h => ?_⟩, ⟨_, rfl, rfl, fun h => ?_⟩⟩
  · refine List.forall_mem_cons.mpr ⟨?_, List.forall_mem_singleton.mpr ?_⟩
    all_goals
      refine ⟨.intro (by rintro _ ⟨⟩) (List.forall_mem_nil _), .intro ?_ (List.forall_mem_nil _)⟩
      rintro _ ⟨⟩
      exact List.cons_ne_nil _ _
  · exact absurd (h.here _ rfl) (by decide)
  · exact absurd (h.here _ rfl) (by decide)

end Node

end DocumentModel

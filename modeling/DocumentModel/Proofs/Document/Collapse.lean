import DocumentModel.Proofs.Document.Leaves
import DocumentModel.Proofs.Document.Translation

/-!
# Unions in one document, with markers

The document of a union should accept what one of its branches' documents accepts. Where the
branches are put into one document (`Document.collapse?`), plain types keep the types that their
markers name. Literals and enumerations do not: the one document has all values that are listed, but
not the types that the markers ask of them. So it accepts listed values that no branch accepts, and
beyond the branches nothing else (`Node.accepts_unionDocument`). This holds for every reading that
knows the types of scalars.
-/

namespace DocumentModel

namespace Node

/-- The values that a scalar literal or an enumeration lists. -/
def listed? (n : Node) : Option (List Json) :=
  match n.kind with
  | .literal value => value.scalarType?.map fun _ => [value]
  | .enumeration texts => some (texts.map .string)
  | _ => none

/-- The node lists the value. -/
def Lists (n : Node) (v : Json) : Prop := ∃ values ∈ n.listed?, Json.isIn v values = true

/-- All branches are scalar literals, or all are enumerations. -/
def ListOnly (branches : List Node) : Prop :=
  (∀ b ∈ branches, b.literal?.isSome = true) ∨ ∀ b ∈ branches, b.enumeration?.isSome = true

end Node

namespace Reading

variable {r : Reading} {v : Json} {description : Option String} {d : Document}

/-! ## Marked leaves -/

/-- What a leaf lists beside the one type that it asks for. -/
theorem accepts_annotate_tagged (type? : Option BsonType) {values : Option (List Json)} :
    r.accepts (Document.annotate description
        { bsonType := type?.map .one, enumeration := values }) v = true ↔
      (∀ type ∈ (Marker.ofDescription? description).or type?, r.hasType type v = true)
        ∧ values.all (Json.isIn v) = true := by
  refine (accepts_annotate_iff rfl).trans (and_congr_right fun _ => ?_)
  rw [accepts_eq]
  simp [ownRules]

/-- Of a primitive without checks its document asks the type that its marker names, or its own. -/
theorem accepts_plainType {b : Node} {type : BsonType} (h : b.plainType? = some type) :
    r.accepts b.document v = r.hasType type v := by
  obtain ⟨kind, description⟩ := b
  have key : ∀ base, Node.document? ⟨kind, description⟩
        = .ok (.annotate description { bsonType := some (.one base), enumeration := none }) →
      (Marker.ofDescription? description).getD base = type →
      r.accepts (Node.document ⟨kind, description⟩) v = r.hasType type v := by
    intro base hd ht
    rw [Node.document_of_eq_ok hd, Bool.eq_iff_iff]
    refine (accepts_annotate_tagged (some base)).trans ?_
    rw [← ht]
    cases Marker.ofDescription? description <;> simp
  cases kind with
  | string checks =>
    cases checks with
    | cons c rest => simp [Node.plainType?] at h
    | nil => exact key .string rfl (Option.some.inj h)
  | number checks =>
    cases checks with
    | cons c rest => simp [Node.plainType?] at h
    | nil => exact key .number rfl (Option.some.inj h)
  | bigInt => exact key .long rfl (Option.some.inj h)
  | objectId => exact key .objectId rfl (Option.some.inj h)
  | boolean => exact key .bool rfl (Option.some.inj h)
  | date => exact key .date rfl (Option.some.inj h)
  | null => exact key .null rfl (Option.some.inj h)
  | _ => simp [Node.plainType?, NodeKind.primitive?] at h

/-- A string is among strings only. -/
theorem hasType_of_isIn_strings (hr : r.TypesScalars) {texts : List String}
    (h : Json.isIn v (texts.map .string) = true) : r.hasType .string v = true := by
  obtain ⟨w, hw, hs⟩ := Json.isIn_iff.mp h
  obtain ⟨raw, -, rfl⟩ := List.mem_map.mp hw
  exact hasType_of_same hr rfl hs

/-- **The document of a branch that lists values accepts those that its marker allows.** -/
theorem accepts_of_listed? (hr : r.TypesScalars) {b : Node} {values : List Json}
    (h : b.listed? = some values) :
    r.accepts b.document v = true ↔
      Json.isIn v values = true ∧ r.MarkerAllows b.description v := by
  obtain ⟨kind, description⟩ := b
  cases kind with
  | literal value =>
    obtain ⟨type, -, hv⟩ := Option.map_eq_some_iff.mp h
    subst hv
    have hd : Node.document ⟨.literal value, description⟩
        = .annotate description { bsonType := none, enumeration := some [value] } := rfl
    rw [hd]
    refine (accepts_annotate_tagged none).trans ?_
    rw [Option.or_none, Option.all_some]
    exact and_comm
  | enumeration texts =>
    have hv : values = texts.map .string := (Option.some.inj h).symm
    subst hv
    have hd : Node.document ⟨.enumeration texts, description⟩
        = .annotate description
          { bsonType := some (.one .string), enumeration := some (texts.map .string) } := rfl
    rw [hd]
    refine (accepts_annotate_tagged (some .string)).trans ?_
    rw [Option.all_some, and_comm]
    refine and_congr_right fun hin => ?_
    -- without a marker the type is string, as it is of everything that is listed
    unfold MarkerAllows
    cases Marker.ofDescription? description with
    | none => simp [hasType_of_isIn_strings hr hin]
    | some type => simp
  | _ => cases h

/-! ## The three ways -/

variable {branches : List Node}

/-- A list of types accepts what the documents of the types accept. -/
theorem accepts_types {types : List BsonType} (ht : branches.mapM Node.plainType? = some types) :
    r.accepts (.typed (.ofList (uniqueBy (· == ·) types))) v = true ↔
      ∃ b ∈ branches, r.accepts b.document v = true := by
  obtain ⟨hbt, htb⟩ := mem_of_mapM_eq_some ht
  rw [accepts_typed, BsonTypes.toList_ofList, any_hasType_uniqueBy, List.any_eq_true]
  constructor
  · rintro ⟨type, hm, hv⟩
    obtain ⟨b, hb, he⟩ := htb type hm
    exact ⟨b, hb, (accepts_plainType he).trans hv⟩
  · rintro ⟨b, hb, hv⟩
    obtain ⟨type, hm, he⟩ := hbt b hb
    exact ⟨type, hm, (accepts_plainType he).symm.trans hv⟩

theorem listed?_of_literal? {b : Node} {value : Json} {type : BsonType}
    (h : b.literal? = some (value, type)) : b.listed? = some [value] := by
  obtain ⟨hk, ht⟩ := literal?_eq_some h
  rw [Node.listed?, hk]
  exact congrArg (Option.map fun _ => [value]) ht

theorem listed?_of_enumeration? {b : Node} {texts : List String}
    (h : b.enumeration? = some texts) : b.listed? = some (texts.map .string) := by
  rw [Node.listed?, enumeration?_eq_some h]

/-- The types beside the values of literals never keep a value out. -/
theorem accepts_literals (hr : r.TypesScalars) {literals : List (Json × BsonType)}
    (hl : branches.mapM Node.literal? = some literals) :
    r.accepts {
        Document.typed (.ofList (uniqueBy (· == ·) (literals.map Prod.snd))) with
        enumeration := some (uniqueBy Json.same (literals.map Prod.fst)) } v = true ↔
      ∃ b ∈ branches, b.Lists v := by
  obtain ⟨hbl, hlb⟩ := mem_of_mapM_eq_some hl
  rw [accepts_typed_enumeration, BsonTypes.toList_ofList, any_hasType_uniqueBy, isIn_uniqueBy,
    Bool.and_eq_true, List.any_eq_true, Json.isIn_iff]
  constructor
  · rintro ⟨-, w, hw, hs⟩
    obtain ⟨⟨_, type⟩, hm, rfl⟩ := List.mem_map.mp hw
    obtain ⟨b, hb, he⟩ := hlb _ hm
    exact ⟨b, hb, _, listed?_of_literal? he,
      Json.isIn_iff.mpr ⟨_, List.mem_singleton.mpr rfl, hs⟩⟩
  · rintro ⟨b, hb, values, hv, hin⟩
    obtain ⟨⟨w, type⟩, hm, he⟩ := hbl b hb
    obtain ⟨-, ht⟩ := literal?_eq_some he
    cases (listed?_of_literal? he).symm.trans hv
    obtain ⟨_, hw, hs⟩ := Json.isIn_iff.mp hin
    cases List.mem_singleton.mp hw
    exact ⟨⟨type, List.mem_map_of_mem hm, hasType_of_same hr ht hs⟩,
      w, List.mem_map_of_mem hm, hs⟩

theorem accepts_enumerations (hr : r.TypesScalars) {texts : List (List String)}
    (ht : branches.mapM Node.enumeration? = some texts) :
    r.accepts { Document.ofType .string with
        enumeration := some (uniqueBy Json.same (texts.flatten.map Json.string)) } v = true ↔
      ∃ b ∈ branches, b.Lists v := by
  obtain ⟨hbt, htb⟩ := mem_of_mapM_eq_some ht
  rw [Document.ofType, accepts_typed_enumeration, isIn_uniqueBy, Bool.and_eq_true]
  constructor
  · rintro ⟨-, hin⟩
    obtain ⟨w, hw, hs⟩ := Json.isIn_iff.mp hin
    obtain ⟨raw, hraw, rfl⟩ := List.mem_map.mp hw
    obtain ⟨allowed, ha, hraw⟩ := List.mem_flatten.mp hraw
    obtain ⟨b, hb, he⟩ := htb allowed ha
    exact ⟨b, hb, _, listed?_of_enumeration? he,
      Json.isIn_iff.mpr ⟨_, List.mem_map_of_mem hraw, hs⟩⟩
  · rintro ⟨b, hb, values, hv, hin⟩
    obtain ⟨allowed, ha, he⟩ := hbt b hb
    cases (listed?_of_enumeration? he).symm.trans hv
    obtain ⟨w, hw, hs⟩ := Json.isIn_iff.mp hin
    obtain ⟨raw, hraw, rfl⟩ := List.mem_map.mp hw
    have hall : Json.isIn v (texts.flatten.map .string) = true :=
      Json.isIn_iff.mpr ⟨_, List.mem_map_of_mem (List.mem_flatten.mpr ⟨allowed, ha, hraw⟩), hs⟩
    exact ⟨by simp [BsonTypes.toList, hasType_of_isIn_strings hr hall], hall⟩

end Reading

/-! ## Unions -/

namespace Node

variable {r : Reading} {v : Json} {branches : List Node}

/-- A list is read when each of its entries is. -/
theorem isSome_mapM {α β : Type} {f : α → Option β} {l : List α} :
    (l.mapM f).isSome = true ↔ ∀ a ∈ l, (f a).isSome = true := by
  induction l with
  | nil => simp
  | cons a rest ih =>
    rw [List.forall_mem_cons, ← ih, List.mapM_cons]
    cases f a <;> cases rest.mapM f <;> simp

theorem exists_listed? (h : ListOnly branches) {b : Node} (hb : b ∈ branches) :
    ∃ values, b.listed? = some values := by
  rcases h with h | h
  · obtain ⟨⟨value, type⟩, he⟩ := Option.isSome_iff_exists.mp (h b hb)
    exact ⟨_, Reading.listed?_of_literal? he⟩
  · obtain ⟨texts, he⟩ := Option.isSome_iff_exists.mp (h b hb)
    exact ⟨_, Reading.listed?_of_enumeration? he⟩

theorem plainType?_of_listed? {b : Node} {values : List Json} (h : b.listed? = some values) :
    b.plainType? = none := by
  obtain ⟨kind, description⟩ := b
  cases kind <;> first | rfl | cases h

/-- The document of alternatives accepts what one of theirs does, and what is listed where all
alternatives are lists. -/
theorem accepts_unionDocument (hr : r.TypesScalars) (hne : branches ≠ []) :
    r.accepts (unionDocument branches) v = true ↔
      (∃ b ∈ branches, r.accepts b.document v = true)
        ∨ ListOnly branches ∧ ∃ b ∈ branches, b.Lists v := by
  -- where all alternatives are lists, a document of theirs accepts listed values only
  have hlists : ListOnly branches → (∃ b ∈ branches, r.accepts b.document v = true) →
      ∃ b ∈ branches, b.Lists v := by
    rintro h ⟨b, hb, ha⟩
    obtain ⟨values, hv⟩ := exists_listed? h hb
    exact ⟨b, hb, values, hv, ((Reading.accepts_of_listed? hr hv).mp ha).1⟩
  rw [unionDocument, if_neg (by simp [hne]), Document.collapse?]
  cases ht : branches.mapM plainType? with
  | some types =>
    have hnot : ¬ ListOnly branches := by
      intro h
      obtain ⟨b, hb⟩ := List.exists_mem_of_ne_nil branches hne
      obtain ⟨values, hv⟩ := exists_listed? h hb
      have hsome := isSome_mapM.mp (Option.isSome_of_eq_some ht) b hb
      rw [plainType?_of_listed? hv] at hsome
      cases hsome
    rw [Option.getD_some, Reading.accepts_types ht]
    exact (or_iff_left fun h => hnot h.1).symm
  | none =>
    cases hl : branches.mapM literal? with
    | some literals =>
      have h : ListOnly branches := Or.inl (isSome_mapM.mp (Option.isSome_of_eq_some hl))
      rw [Option.getD_some, Reading.accepts_literals hr hl]
      exact ⟨fun hv => Or.inr ⟨h, hv⟩, fun hv => hv.elim (hlists h) And.right⟩
    | none =>
      cases he : branches.mapM enumeration? with
      | some texts =>
        have h : ListOnly branches := Or.inr (isSome_mapM.mp (Option.isSome_of_eq_some he))
        rw [Option.getD_some, Reading.accepts_enumerations hr he]
        exact ⟨fun hv => Or.inr ⟨h, hv⟩, fun hv => hv.elim (hlists h) And.right⟩
      | none =>
        have hnot : ¬ ListOnly branches := by
          rintro (h | h)
          · have hsome := isSome_mapM.mpr h
            rw [hl] at hsome
            cases hsome
          · have hsome := isSome_mapM.mpr h
            rw [he] at hsome
            cases hsome
        rw [Option.getD_none, Reading.accepts_anyOf, List.any_map, List.any_eq_true]
        exact (or_iff_left fun h => hnot h.1).symm

/-- **A union in one document accepts what its alternatives accept, and agrees with them exactly on
the values that some list allows by its marker, if they are listed at all.** -/
theorem accepts_union_agrees_iff (hr : r.TypesScalars) (hne : branches ≠ []) {ds : List Document}
    (hd : documents? branches = .ok ds) :
    ∃ d, (ofKind (.union branches)).document? = .ok d ∧ ∀ v,
      (r.accepts { anyOf := some ds } v = true → r.accepts d v = true)
      ∧ (r.accepts d v = r.accepts { anyOf := some ds } v ↔
        (ListOnly branches → (∃ b ∈ branches, b.Lists v) →
          ∃ b ∈ branches, b.Lists v ∧ r.MarkerAllows b.description v)) := by
  obtain ⟨hb, rfl⟩ := documents?_eq_ok hd
  refine ⟨unionDocument branches, document?_union hb, fun v => ?_⟩
  have hany : r.accepts { anyOf := some (branches.map document) } v = true ↔
      ∃ b ∈ branches, r.accepts b.document v = true := by
    rw [Reading.accepts_anyOf, List.any_map, List.any_eq_true]
    rfl
  refine ⟨fun h => (accepts_unionDocument hr hne).mpr (Or.inl (hany.mp h)), ?_⟩
  rw [Bool.eq_iff_iff, accepts_unionDocument hr hne, hany, or_iff_left_iff_imp, and_imp]
  refine forall_congr' fun h => forall_congr' fun _ => ?_
  refine exists_congr fun b => and_congr_right fun hb => ?_
  obtain ⟨values, hv⟩ := exists_listed? h hb
  rw [Reading.accepts_of_listed? hr hv]
  refine and_congr_left fun _ => ⟨fun hin => ⟨values, hv, hin⟩, ?_⟩
  rintro ⟨_, hv', hin⟩
  cases hv.symm.trans hv'
  exact hin

/-- Two words for a limit, of which one is stored as an integer. -/
def limits : List Node :=
  [(ofKind (.literal (.string "none"))).describe "Limit[bsonType:long]",
    ofKind (.literal (.string "default"))]

/-- The documents of the two words, of which the first keeps its marker. -/
def limitDocuments : List Document :=
  [{ description := some "Limit", bsonType := some (.one .long),
      enumeration := some [.string "none"] },
    { enumeration := some [.string "default"] }]

theorem documents?_limits : documents? limits = .ok limitDocuments := rfl

theorem accepts_union_agrees_iff_limits :
    Reading.plain.TypesScalars ∧ limits ≠ []
    ∧ documents? limits = .ok limitDocuments
    ∧ ∃ d, (ofKind (.union limits)).document? = .ok d ∧ ∀ v,
      (Reading.plain.accepts { anyOf := some limitDocuments } v = true →
        Reading.plain.accepts d v = true)
      ∧ (Reading.plain.accepts d v
          = Reading.plain.accepts { anyOf := some limitDocuments } v ↔
        (ListOnly limits → (∃ b ∈ limits, b.Lists v) →
          ∃ b ∈ limits, b.Lists v ∧ Reading.plain.MarkerAllows b.description v)) := by
  have hr : Reading.plain.TypesScalars := Reading.plain_standard.typesScalars
  have hne : limits ≠ [] := List.cons_ne_nil _ _
  exact ⟨hr, hne, documents?_limits, accepts_union_agrees_iff hr hne documents?_limits⟩

/-- The union of the two words forgets that the first one is stored as an integer. -/
def limitUnionDocument : Document :=
  { bsonType := some (.one .string), enumeration := some [.string "none", .string "default"] }

theorem union_loses_marker :
    Reading.plain.TypesScalars ∧ documents? limits = .ok limitDocuments
    ∧ (ofKind (.union limits)).document? = .ok limitUnionDocument
    ∧ Reading.plain.accepts limitUnionDocument (.string "none") = true
    ∧ Reading.plain.accepts { anyOf := some limitDocuments } (.string "none") = false := by
  have hd : (ofKind (.union limits)).document? = .ok limitUnionDocument := rfl
  have hall : Reading.plain.accepts limitUnionDocument (.string "none") = true :=
    Reading.accepts_typed_enumeration.trans rfl
  have hnone : Reading.plain.accepts { anyOf := some limitDocuments } (.string "none") = false := by
    rw [Reading.accepts_anyOf, limitDocuments, List.any_cons, List.any_cons, List.any_nil,
      Reading.accepts_enumeration, Reading.accepts_eq]
    rfl
  exact ⟨Reading.plain_standard.typesScalars, documents?_limits, hd, hall, hnone⟩

end Node

end DocumentModel

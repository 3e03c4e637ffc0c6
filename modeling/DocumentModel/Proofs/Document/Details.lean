import DocumentModel.Compile.Field
import DocumentModel.Proofs.Document.Marking
import DocumentModel.Proofs.Document.Nullable

/-!
# Documents of fields with details

Details of a field wrap its node and describe the outermost node, which may carry a marker. The
document of the field's own type is left as it is: absence and null become alternatives to it, or
null one more of its types, a default leaves no trace, and the text stands at the top
(`Node.document?_applyDetails`).
-/

namespace DocumentModel

/-! ## What details say -/

namespace Document

variable {d : Document} {type : BsonType} {text : String}

/-- The type is one of those that a document asks for. -/
def AsksFor (d : Document) (type : BsonType) : Prop :=
  ∃ types, d.bsonType = some types ∧ type ∈ types.toList

/-- The document with null as one more of its types. -/
def orNull (d : Document) : Document :=
  { d with
    bsonType := d.bsonType.map fun types =>
      if .null ∈ types.toList then types else .many (types.toList ++ [.null]) }

/-- The document with another description, if one is given. -/
def describedBy (d : Document) (text : Option String) : Document :=
  { d with description := text.or d.description }

theorem describedBy_none (d : Document) : d.describedBy none = d := by
  cases d
  rfl

theorem AsksFor.orNull (h : d.AsksFor type) : d.orNull.AsksFor type := by
  obtain ⟨types, ht, hmem⟩ := h
  refine ⟨_, congrArg (Option.map _) ht, ?_⟩
  dsimp only
  split
  · exact hmem
  · exact List.mem_append_left _ hmem

/-- Null is listed beside the one type that a document asks for. -/
theorem ofNullable_true_of_one (h : d.bsonType = some (.one type)) :
    ofNullable true d = d.orNull := by
  by_cases ht : type = .null
  · simp [ofNullable, orNull, h, ht, BsonTypes.toList, BsonTypes.ofList, withNull, pushUnique]
  · simp [ofNullable, orNull, h, ht, Ne.symm ht, BsonTypes.toList, BsonTypes.ofList, withNull,
      pushUnique]

end Document

namespace FieldDetails

/-- The document of a field whose own type has the document `d`. Absence comes before null, which
is one more type only of a primitive that may not be absent. -/
def around (details : FieldDetails) (primitive : Bool) (d : Document) : Document :=
  match details.optional, details.nullable with
  | false, false => d
  | true, false => { anyOf := some [d, .nothing] }
  | false, true => if primitive then d.orNull else { anyOf := some [d, .ofType .null] }
  | true, true => { anyOf := some [{ anyOf := some [d, .nothing] }, .ofType .null] }

/-- Whether absence or null is an alternative to the document of the field's own type. -/
def addsAlternative (details : FieldDetails) (primitive : Bool) : Bool :=
  details.optional || details.nullable && !primitive

variable {details : FieldDetails} {primitive : Bool} {d : Document} {type : BsonType}

theorem bsonType_around (h : details.addsAlternative primitive = true) :
    (details.around primitive d).bsonType = none := by
  obtain ⟨optional, nullable, _, _⟩ := details
  cases optional <;> cases nullable <;> cases primitive
  case false.false.false | false.false.true | false.true.true => cases h
  all_goals rfl

/-- Details that add no alternative leave the type in its place. -/
theorem asksFor_around (h : details.addsAlternative primitive = false) (hd : d.AsksFor type) :
    (details.around primitive d).AsksFor type := by
  obtain ⟨optional, nullable, _, _⟩ := details
  cases optional <;> cases nullable <;> cases primitive
  case false.false.false | false.false.true => exact hd
  case false.true.true => exact hd.orNull
  all_goals cases h

end FieldDetails

/-! ## Descriptions -/

namespace Document

variable {d : Document} {description : Option String} {type : BsonType} {text : String}

/-- A text without a marker is taken as it is. -/
theorem annotate_of_type?_eq_none (htext : text ≠ "") (h : Marker.type? text = none)
    (d : Document) : d.annotate (some text) = { d with description := some text } := by
  simp [annotate, Marker.split, Marker.nonEmpty?, h, htext]

/-- A composed description is taken apart again, into its text and its type. -/
theorem annotate_compose (htext : text ≠ "") (type : BsonType) (d : Document) :
    d.annotate (some (Marker.compose text type))
      = { d.withMarker type with description := some text } := by
  simp [annotate, Marker.split_compose, Marker.nonEmpty?, htext]

/-- A marked document asks for the type of the marker. -/
theorem asksFor_annotate (h : Marker.ofDescription? description = some type) :
    (d.annotate description).AsksFor type := by
  obtain ⟨text, ht⟩ := Reading.annotate_of_marked d h
  have hfirst : ∀ nullable : Bool,
      type ∈ (if nullable then BsonTypes.many [type, .null] else .one type).toList := by
    intro nullable
    cases nullable <;> exact List.mem_cons_self
  rw [ht]
  exact ⟨_, rfl, hfirst _⟩

end Document

namespace Node

variable {n : Node} {d : Document} {type : BsonType} {text : String}

/-- The node with another text in its description, which keeps its marker. -/
def retext (n : Node) (text : String) : Node :=
  match Marker.ofDescription? n.description with
  | some type => n.describe (Marker.compose text type)
  | none => n.describe text

/-- A description has no influence on what its node's kind is translated into. -/
theorem exists_document?_eq (kind : NodeKind Node) : ∃ x : Except Untranslatable Document,
    ∀ description, document? ⟨kind, description⟩ = Document.annotate description <$> x :=
  ⟨_, fun _ => document?.eq_def _⟩

theorem asksFor_of_document? (h : n.document? = .ok d)
    (hm : Marker.ofDescription? n.description = some type) : d.AsksFor type := by
  obtain ⟨kind, description⟩ := n
  obtain ⟨x, hx⟩ := exists_document?_eq kind
  rw [hx] at h
  obtain ⟨own, -, rfl⟩ := map_eq_ok_iff.mp h
  exact Document.asksFor_annotate hm

/-- **Another text changes the description of a document, and nothing else.** -/
theorem document?_retext (h : n.document? = .ok d) (htext : text ≠ "")
    (hu : Marker.type? text = none) :
    (n.retext text).document? = .ok { d with description := some text } := by
  obtain ⟨kind, description⟩ := n
  obtain ⟨x, hx⟩ := exists_document?_eq kind
  rw [hx] at h
  obtain ⟨own, hown, rfl⟩ := map_eq_ok_iff.mp h
  cases hm : Marker.ofDescription? description with
  | none =>
    obtain ⟨before, hbefore⟩ := Reading.annotate_of_unmarked own hm
    have hn : retext ⟨kind, description⟩ text = ⟨kind, some text⟩ := by
      rw [retext, hm]
      rfl
    rw [hn, hx, hown, hbefore]
    exact congrArg Except.ok (Document.annotate_of_type?_eq_none htext hu own)
  | some type =>
    obtain ⟨before, hbefore⟩ := Reading.annotate_of_marked own hm
    have hn : retext ⟨kind, description⟩ text = ⟨kind, some (Marker.compose text type)⟩ := by
      rw [retext, hm]
      rfl
    rw [hn, hx, hown, hbefore]
    exact congrArg Except.ok (Document.annotate_compose htext type own)

end Node

/-! ## Wrapping -/

namespace FieldDetails

variable {details : FieldDetails} {n : Node} {d : Document}

/-- The node with the wrappers that details ask for. -/
def wrap (details : FieldDetails) (n : Node) : Node :=
  let n := if details.optional then .ofKind (.optional n) else n
  let n := if details.nullable then .ofKind (.nullable n) else n
  match details.defaultValue with
  | some value => .ofKind (.withDefault n value)
  | none => n

/-- The description goes to the outermost node. -/
theorem apply_eq (details : FieldDetails) (n : Node) :
    details.apply n = match details.description with
      | some text => (details.wrap n).retext text
      | none => details.wrap n := by
  obtain ⟨optional, nullable, defaultValue, description⟩ := details
  cases description <;> rfl

theorem document?_wrapped_nullable (h : n.document? = .ok d) :
    (Node.ofKind (.nullable n)).document? = .ok
      (if n.kind.primitive?.isSome then d.orNull else { anyOf := some [d, .ofType .null] }) := by
  obtain rfl := Node.document_of_eq_ok h
  have hn : (Node.ofKind (.nullable n)).document?
      = .ok (.ofNullable n.kind.primitive?.isSome n.document) := Node.document?_nullable h
  rw [hn]
  cases hp : n.kind.primitive? with
  | none => rfl
  | some base =>
    obtain ⟨-, type, ht, -⟩ := Node.document?_of_primitive? hp h
    rw [Option.isSome_some, Document.ofNullable_true_of_one ht]
    rfl

theorem document?_wrapped_optional (h : n.document? = .ok d) :
    (Node.ofKind (.optional n)).document? = .ok { anyOf := some [d, .nothing] } := by
  obtain rfl := Node.document_of_eq_ok h
  exact Node.document?_optional h

theorem document?_wrapped_default (h : n.document? = .ok d) (value : Json) :
    (Node.ofKind (.withDefault n value)).document? = .ok d := by
  obtain rfl := Node.document_of_eq_ok h
  exact Node.document?_withDefault h

/-- **Wrappers leave the document of what they wrap as it is.** -/
theorem document?_wrap (h : n.document? = .ok d) :
    (details.wrap n).document? = .ok (details.around n.kind.primitive?.isSome d) := by
  obtain ⟨optional, nullable, defaultValue, description⟩ := details
  have hplain : (wrap ⟨optional, nullable, none, none⟩ n).document?
      = .ok (around ⟨optional, nullable, none, none⟩ n.kind.primitive?.isSome d) := by
    cases optional with
    | false =>
      cases nullable with
      | false => exact h
      | true => exact document?_wrapped_nullable h
    | true =>
      have habsent := document?_wrapped_optional h
      cases nullable with
      | false => exact habsent
      | true => exact document?_wrapped_nullable habsent
  cases defaultValue with
  | none => exact hplain
  | some value => exact document?_wrapped_default hplain value

end FieldDetails

namespace Node

variable {n : Node} {d : Document}

/-- **Details leave the document of a field's own type as it is: absence and null are added around
it, a default leaves no trace, the text stands at the top, and a marker stays where it is.** -/
theorem document?_applyDetails (details : FieldDetails) (h : n.document? = .ok d)
    (hd : ∀ text ∈ details.description, text ≠ "" ∧ Marker.type? text = none) :
    ∃ e, (applyDetails (some details) n).document? = .ok e
      ∧ e = (details.around n.kind.primitive?.isSome d).describedBy details.description
      ∧ ∀ type, Marker.ofDescription? n.description = some type →
        d.AsksFor type
        ∧ if details.addsAlternative n.kind.primitive?.isSome then e.bsonType = none
          else e.AsksFor type := by
  have hwrap : (details.wrap n).document?
      = .ok (details.around n.kind.primitive?.isSome d) := FieldDetails.document?_wrap h
  refine ⟨_, ?_, rfl, fun type hm => ?_⟩
  · rw [applyDetails, FieldDetails.apply_eq]
    cases hdesc : details.description with
    | none =>
      rw [Document.describedBy_none]
      exact hwrap
    | some text =>
      obtain ⟨htext, hu⟩ := hd text hdesc
      exact document?_retext hwrap htext hu
  · have hasks := asksFor_of_document? h hm
    refine ⟨hasks, ?_⟩
    split
    · next hadds => exact FieldDetails.bsonType_around hadds
    · next hadds => exact FieldDetails.asksFor_around (Bool.eq_false_iff.mpr hadds) hasks

theorem document?_applyDetails_long :
    (number.marked .long).document? = .ok (.ofType .long)
    ∧ ("Amount" ≠ "" ∧ Marker.type? "Amount" = none)
    ∧ ∃ e, (applyDetails (some ⟨true, true, some .null, some "Amount"⟩)
        (number.marked .long)).document? = .ok e
      ∧ e = { description := some "Amount",
              anyOf := some [{ anyOf := some [.ofType .long, .nothing] }, .ofType .null] }
      ∧ (Document.ofType .long).AsksFor .long ∧ e.bsonType = none := by
  have hd : (number.marked .long).document? = .ok (.ofType .long) := rfl
  have htext : "Amount" ≠ "" ∧ Marker.type? "Amount" = none := ⟨by decide, rfl⟩
  obtain ⟨e, he, heq, hmarker⟩ := document?_applyDetails
    ⟨true, true, some .null, some "Amount"⟩ hd (by rintro _ ⟨⟩; exact htext)
  obtain ⟨hasks, hnone⟩ := hmarker .long rfl
  exact ⟨hd, htext, e, he, heq, hasks, hnone⟩

/-- Null alone is one more type of a marked number, which keeps its marker under the new text. -/
example : (applyDetails (some { nullable := true, description := some "Amount" })
      (number.marked .long)).document?
    = .ok { description := some "Amount", bsonType := some (.many [.long, .null]) } := rfl

end Node

end DocumentModel

import DocumentModel.Document.BsonType

/-!
# Type markers

A description may end in `[bsonType:<name>]`, which names the type the value is stored with.
`compose` appends a marker and `split` takes it off again; a marker with an unknown name, or one
that does not stand at the end, is part of the text.
-/

namespace DocumentModel

namespace Marker

/-- The marker of a type. -/
def text (type : BsonType) : String := "[bsonType:" ++ type.name ++ "]"

/-- A text with the marker of a type at its end. -/
def compose (description : String) (type : BsonType) : String := description ++ text type

/-- The type whose marker ends a description. -/
def type? (description : String) : Option BsonType :=
  BsonType.all.find? fun t => (text t).toList.isSuffixOf description.toList

def nonEmpty? (s : String) : Option String := if s.isEmpty then none else some s

/-- The text in front of the marker, and the type of the marker. An empty text counts as none. -/
def split (description : String) : Option String × Option BsonType :=
  match type? description with
  | none => (nonEmpty? description, none)
  | some t =>
    let cs := description.toList
    (nonEmpty? (String.ofList (cs.take (cs.length - (text t).toList.length))), some t)

/-- The type named by a description, if there is one. -/
def ofDescription? (description : Option String) : Option BsonType := description.bind type?

end Marker

end DocumentModel

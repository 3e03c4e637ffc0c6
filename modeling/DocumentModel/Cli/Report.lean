import DocumentModel.Bundle
import DocumentModel.Cli.Console

/-!
# Reports

What the commands tell about the bundled models: which there are, the indexes of one, and the issues
of documents checked against one.
-/

namespace DocumentModel

namespace Cli

/-! ## Models -/

structure ModelSummary where
  name : String
  collection : String
  fields : Nat
  indexes : Nat

def ModelSummary.json (s : ModelSummary) : Json :=
  .object [("name", .string s.name), ("collection", .string s.collection),
    ("fields", Json.ofNat s.fields), ("indexes", Json.ofNat s.indexes)]

def modelsDisplay (summaries : List ModelSummary) : Display where
  table := {
    header := ["Model", "Collection", "Fields", "Indexes"]
    rows := summaries.map fun s => [s.name, s.collection, toString s.fields, toString s.indexes] }
  json := .array (summaries.map ModelSummary.json)
  compact := " ".intercalate (summaries.map fun s => s.name ++ ":" ++ s.collection)

/-! ## Indexes -/

def indexRow (index : IndexDescription) : List String :=
  let yes := fun (set : Bool) => if set then "yes" else ""
  [index.name,
    ", ".intercalate (index.key.map fun k => k.1 ++ ": " ++ k.2.compact),
    yes index.unique, yes index.sparse,
    match index.expireAfterSeconds with
    | some seconds => toString seconds ++ "s"
    | none => ""]

def indexesDisplay (indexes : List IndexDescription) : Display where
  table := { header := ["Name", "Key", "Unique", "Sparse", "TTL"], rows := indexes.map indexRow }
  json := .array (indexes.map IndexDescription.written)
  compact := " ".intercalate (indexes.map IndexDescription.name)

/-! ## Issues -/

/-- The issues of documents, each with the position of its document. -/
structure CheckReport where
  model : String
  documents : Nat
  issues : List (Nat × Issue)

namespace CheckReport

/-- Checks documents in turn. -/
def ofDocuments (model : Model) (documents : List Json) : CheckReport where
  model := model.name
  documents := documents.length
  issues := documents.zipIdx.flatMap fun (document, position) =>
    match model.node.parse document with
    | .ok _ => []
    | .error issues => issues.map (position, ·)

def issueRow (entry : Nat × Issue) : List String :=
  [toString entry.1, if entry.2.field.isEmpty then "(root)" else entry.2.field, entry.2.code,
    entry.2.message]

def issueJson (entry : Nat × Issue) : Json :=
  .object [("document", Json.ofNat entry.1), ("field", .string entry.2.field),
    ("code", .string entry.2.code), ("message", .string entry.2.message)]

def display (r : CheckReport) : Display where
  table := { header := ["Document", "Field", "Code", "Message"], rows := r.issues.map issueRow }
  json := .object [("model", .string r.model), ("documents", Json.ofNat r.documents),
    ("issues", .array (r.issues.map issueJson))]
  compact := r.model ++ ": " ++ toString r.documents ++ " document(s), " ++ toString r.issues.length
    ++ " issue(s)"

end CheckReport

end Cli

end DocumentModel

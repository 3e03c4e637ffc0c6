import DocumentModel.Json.Basic
import DocumentModel.Text.Quoted

/-!
# Issues

An issue says what is wrong with one place of a value. The place is a dotted path, empty for the
value itself.
-/

namespace DocumentModel

structure Issue where
  field : String
  code : String
  message : String
  deriving DecidableEq, Repr

namespace Issue

/-- The line shown for an issue; the path is left out for the value itself. -/
def line (i : Issue) : String :=
  if i.field.isEmpty then i.code ++ ": " ++ i.message
  else i.field ++ " (" ++ i.code ++ "): " ++ i.message

def toJson (i : Issue) : Json :=
  Json.ofFields
    [("field", .string i.field), ("code", .string i.code), ("message", .string i.message)]

/-- The issue with the names of its parts. -/
def record (i : Issue) : String :=
  "ValidationIssue \x7b field: " ++ Text.quoted i.field ++ ", code: " ++ Text.quoted i.code
    ++ ", message: " ++ Text.quoted i.message ++ " \x7d"

/-- The text for all issues of a value. -/
def summary (issues : List Issue) : String :=
  "validation errors: [" ++ ", ".intercalate (issues.map record) ++ "]"

end Issue

/-- The path of a part: keys and positions with points between them. -/
def joinPath (path segment : String) : String :=
  if path.isEmpty then segment else path ++ "." ++ segment

end DocumentModel

import DocumentModel.Format.Domain.Direction
import DocumentModel.Format.Domain.Label

/-!
# Domain names

A domain name is mapped, composed and cut at its points. Labels may be empty, and no label has to
be short.
-/

namespace DocumentModel

namespace Format

namespace Domain

/-- The labels of a domain name, `none` where the name is refused. A name of which mapping leaves
nothing is refused. -/
def labels? (cs : List Char) : Option (List (List Char)) := do
  let mapped ← mapChars? cs
  let labels ← ((composed mapped).splitOn '.').mapM readLabel?
  if labels = [[]] || !areDirectionsKept labels then none else some labels

end Domain

end Format

end DocumentModel

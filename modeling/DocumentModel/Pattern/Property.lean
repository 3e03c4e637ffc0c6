import DocumentModel.Pattern.CharSet
import DocumentModel.Pattern.Term
import DocumentModel.Pattern.Table.Age
import DocumentModel.Pattern.Table.Category
import DocumentModel.Pattern.Table.Property
import DocumentModel.Pattern.Table.Script
import DocumentModel.Pattern.Table.ScriptExtension
import DocumentModel.Pattern.Table.Segmentation
import DocumentModel.Pattern.Table.Word
import DocumentModel.Text.Blank

/-!
# The characters of a class

Names of properties are compared without regard to case, blanks, hyphens, underscores and a leading
`is`. A name alone is a binary property, else a general category, else a script; a name with a
value is one of the properties that have values.
-/

namespace DocumentModel

namespace Pattern

open Text (CharRanges)

/-! ## Names -/

/-- The form in which names are compared. -/
def normalizeName (name : String) : String :=
  let ascii := name.toList.filter fun c => c.toNat < 0x80
  let (hasIs, rest) := match name.toList with
    | a :: b :: _ =>
      if (a = 'i' || a = 'I') && (b = 's' || b = 'S') then (true, ascii.drop 2) else (false, ascii)
    | _ => (false, ascii)
  let kept := (rest.filter fun c => c != ' ' && c != '_' && c != '-').map Char.toLower
  if hasIs && kept = ['c'] then "isc" else String.ofList kept

def findRanges? (table : List (List String × String)) (name : String) : Option CharRanges :=
  (table.find? fun e => e.1.contains name).map fun e => CharRanges.decode e.2

/-! ## General categories -/

/-- The categories that unite others, by their names. -/
def categoryGroups : List (List String × List String) :=
  [(["c", "other"], ["cc", "cf", "cs", "co", "cn"]),
   (["l", "letter"], ["lu", "ll", "lt", "lm", "lo"]),
   (["lc", "casedletter"], ["lu", "ll", "lt"]),
   (["m", "mark", "combiningmark"], ["mn", "mc", "me"]),
   (["n", "number"], ["nd", "nl", "no"]),
   (["p", "punctuation", "punct"], ["pc", "pd", "ps", "pe", "pi", "pf", "po"]),
   (["s", "symbol"], ["sm", "sc", "sk", "so"]),
   (["z", "separator"], ["zs", "zl", "zp"])]

def categoryRanges? (name : String) : Option CharRanges :=
  if name = "any" then some CharSet.any
  else if name = "ascii" then some CharSet.ascii
  else if name = "assigned" then (findRanges? categoryTable "cn").map CharSet.complement
  else match categoryGroups.find? fun g => g.1.contains name with
    | some (_, members) =>
      some (CharSet.ofList
        (members.flatMap fun m => ((findRanges? categoryTable m).getD #[]).toList))
    | none => findRanges? categoryTable name

/-! ## Queries -/

def scriptExtensionRanges? (name : String) : Option CharRanges :=
  findRanges? scriptExtensionTable name <|> findRanges? scriptTable name

/-- The characters of a version of the standard and of all versions before it. -/
def ageRanges? (name : String) : Option CharRanges :=
  if ageTable.any fun e => e.1.contains name then
    let before := ageTable.takeWhile fun e => !e.1.contains name
    let tables := before ++ ageTable.filter fun e => e.1.contains name
    some (CharSet.ofList (tables.flatMap fun e => (CharRanges.decode e.2).toList))
  else none

/-- A name alone. The names `cf`, `sc` and `lc` are categories, though properties have them too. -/
def nameRanges? (name : String) : Option CharRanges :=
  let binary := if name = "cf" || name = "sc" || name = "lc" then none
    else findRanges? propertyTable name
  binary <|> categoryRanges? name <|> findRanges? scriptTable name

def valueRanges? (property value : String) : Option CharRanges :=
  if property = "gc" || property = "generalcategory" then categoryRanges? value
  else if property = "sc" || property = "script" then findRanges? scriptTable value
  else if property = "scx" || property = "scriptextensions" then scriptExtensionRanges? value
  else if property = "age" then ageRanges? value
  else if property = "gcb" || property = "graphemeclusterbreak" then
    findRanges? graphemeBreakTable value
  else if property = "wb" || property = "wordbreak" then findRanges? wordBreakTable value
  else if property = "sb" || property = "sentencebreak" then findRanges? sentenceBreakTable value
  else none

def PropertyQuery.ranges? : PropertyQuery → Option CharRanges
  | .name text => nameRanges? (normalizeName text)
  | .value left right => valueRanges? (normalizeName left) (normalizeName right)

/-! ## Classes with a letter or a name -/

/-- White space, as `Text.isBlank` tells it. -/
def spaceRanges : CharRanges :=
  #[(0x09, 0x0D), (0x20, 0x20), (0x85, 0x85), (0xA0, 0xA0), (0x1680, 0x1680), (0x2000, 0x200A),
    (0x2028, 0x2029), (0x202F, 0x202F), (0x205F, 0x205F), (0x3000, 0x3000)]

def LetterClass.ranges : LetterClass → CharRanges
  | .digit => digitRanges
  | .space => spaceRanges
  | .word => wordRanges

def LetterClass.asciiRanges : LetterClass → CharRanges
  | .digit => #[(0x30, 0x39)]
  | .space => #[(0x09, 0x0D), (0x20, 0x20)]
  | .word => #[(0x30, 0x39), (0x41, 0x5A), (0x5F, 0x5F), (0x61, 0x7A)]

def NamedClass.ranges : NamedClass → CharRanges
  | .alnum => #[(0x30, 0x39), (0x41, 0x5A), (0x61, 0x7A)]
  | .alpha => #[(0x41, 0x5A), (0x61, 0x7A)]
  | .ascii => #[(0, 0x7F)]
  | .blank => #[(0x09, 0x09), (0x20, 0x20)]
  | .cntrl => #[(0, 0x1F), (0x7F, 0x7F)]
  | .digit => #[(0x30, 0x39)]
  | .graph => #[(0x21, 0x7E)]
  | .lower => #[(0x61, 0x7A)]
  | .print => #[(0x20, 0x7E)]
  | .punct => #[(0x21, 0x2F), (0x3A, 0x40), (0x5B, 0x60), (0x7B, 0x7E)]
  | .space => #[(0x09, 0x0D), (0x20, 0x20)]
  | .upper => #[(0x41, 0x5A)]
  | .word => #[(0x30, 0x39), (0x41, 0x5A), (0x5F, 0x5F), (0x61, 0x7A)]
  | .xdigit => #[(0x30, 0x39), (0x41, 0x46), (0x61, 0x66)]

end Pattern

end DocumentModel

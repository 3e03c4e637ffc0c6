import DocumentModel.Admin

/-!
# A database in memory

The smallest database that keeps what the commands of `CollectionAdmin` tell it: the collections
with their validators, and the lists of indexes. It logs every command before it carries it out, and
it may be told to refuse one kind of command, which then changes nothing else.
-/

namespace DocumentModel

structure Database where
  /-- The name of the command that is refused. -/
  refused : Option String := none
  /-- The commands, each with its collection, in the order in which they came. -/
  log : List (String × String) := []
  /-- The collections that exist, sorted by name, with their validators. -/
  validators : List (String × Option Json) := []
  /-- Sorted by the name of the collection. -/
  indexes : List (String × List IndexDescription) := []

/-- Why a command fails, or a model that has no document. -/
inductive DatabaseError
  | rejected (command : String)
  | schema (e : SchemaError)

namespace Database

/-- Logs a command, and fails if it is the refused one. -/
def receive (command collection : String) : Command Database DatabaseError Unit := do
  modify fun db => { db with log := db.log ++ [(command, collection)] }
  if (← get).refused = some command then throw (.rejected command)

def validator? (db : Database) (collection : String) : Option Json :=
  (Json.findField? collection db.validators).join

def setValidator (collection : String) (validator : Option Json) (db : Database) : Database :=
  { db with validators := Json.insertField collection validator db.validators }

def indexesOf (db : Database) (collection : String) : List IndexDescription :=
  (Json.findField? collection db.indexes).getD []

def addIndexes (collection : String) (indexes : List IndexDescription) (db : Database) : Database :=
  { db with indexes := Json.insertField collection (db.indexesOf collection ++ indexes) db.indexes }

def removeIndexes (collection : String) (db : Database) : Database :=
  { db with indexes := db.indexes.filter (·.1 != collection) }

/-- The commands on the database. -/
def admin : CollectionAdmin Database DatabaseError where
  collectionExists collection := do
    receive "exists" collection
    pure (Json.findField? collection (← get).validators).isSome
  createCollection collection validator := do
    receive "create" collection
    modify (setValidator collection (some validator))
  collectionValidator collection := do
    receive "validator" collection
    pure ((← get).validator? collection)
  modifyValidator collection validator := do
    receive "collMod" collection
    modify (setValidator collection (some validator))
  dropIndexes collection := do
    receive "dropIndexes" collection
    modify (removeIndexes collection)
  createIndexes collection indexes := do
    receive "createIndexes" collection
    modify (addIndexes collection indexes)

end Database

end DocumentModel

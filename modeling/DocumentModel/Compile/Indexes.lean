import DocumentModel.Compile.Cache

/-!
# Compiling classes into indexes

The indexes of a class are those of its own fields followed by those of its ancestors; none is left
out for being declared again. A field that passes through adds the indexes of the class embedded in
it, below its path, where fields marked as excluded are skipped.
-/

namespace DocumentModel

/-- The path of a field below a parent, if there is one. -/
def indexPath (parent : Option String) (field : String) : String :=
  match parent with
  | some path => path ++ "." ++ field
  | none => field

/-- The class whose indexes a field passes through. -/
def FieldDeclaration.embedded? (d : FieldDeclaration) (index : IndexSpec) : Option ClassId :=
  match index.passthrough, d.options with
  | true, .object class? => class?
  | _, _ => none

section

variable {m : Type → Type} [Monad m] [MonadExceptOf SchemaError m]

/-- The indexes that one field of a class asks for. -/
def fieldIndexes (r : Registry) (classIndexes : ClassId → String → m (List IndexDescription))
    (owner : ClassId) (parent : Option String) (d : FieldDeclaration) :
    m (List IndexDescription) := do
  match d.index with
  | none => pure []
  | some index =>
    if parent.isSome && index.exclude then pure []
    else
      let path := indexPath parent d.name
      match IndexDescription.ofSpec? path index with
      | .error direction => throw (.invalidDirection direction)
      | .ok description =>
        match d.embedded? index with
        | none => pure [description]
        | some target =>
          if target = owner then throw (.circularReference (r.displayName owner ++ "." ++ d.name))
          else (description :: ·) <$> classIndexes target path

/-- The indexes that the fields of one level of a lineage ask for. -/
def levelIndexes (r : Registry) (classIndexes : ClassId → String → m (List IndexDescription))
    (parent : Option String) (level : ClassId) : m (List IndexDescription) :=
  List.flatten <$> (r.declarations level).mapM (fieldIndexes r classIndexes level parent)

end

/-- The indexes of a class below a parent, while other classes are being built. -/
def buildIndexesIn (r : Registry) (building : List ClassId) (parent : Option String)
    (id : ClassId) :
    Build (List IndexDescription) := do
  let cache ← get
  match if parent.isNone then findClass? id cache.indexes else none with
  | some indexes => pure indexes
  | none =>
    if _known : r.contains id = true then
      if _busy : building.contains id = true then throw (r.circularity building id)
      else
        let lineage ← ExceptT.mk (pure (r.lineage id))
        let indexes ← List.flatten <$> lineage.mapM (levelIndexes r
          (fun target path => buildIndexesIn r (building ++ [id]) (some path) target) parent)
        if parent.isNone then
          modify fun cache => { cache with indexes := keepFirst id indexes cache.indexes }
        pure indexes
    else throw (.unknownClass id)
termination_by (r.idle building).length
decreasing_by exact Registry.length_idle_lt _known _busy

/-- The indexes of a class, below a path if one is given. -/
def buildIndexes (r : Registry) (id : ClassId) (parent : Option String) :
    Build (List IndexDescription) :=
  buildIndexesIn r [] parent id

end DocumentModel

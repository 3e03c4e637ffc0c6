import DocumentModel.Compile.Cache
import DocumentModel.Compile.Field

/-!
# Compiling classes into nodes

The node of a class is an object with the fields of the class and of all its ancestors. Ancestors
come first; a field that is declared again keeps its place and takes the later declaration.

A class that refers to itself through others is found by the list of classes being built. The list
can only grow as long as there are known classes outside it, so every build comes to an end.
-/

namespace DocumentModel

/-- The fields that a class itself declares, as an object. -/
def ownNode {m : Type → Type} [Monad m] [MonadExceptOf SchemaError m] (r : Registry)
    (classNode : ClassId → m Node) (id : ClassId) : m Node := do
  let name := r.displayName id
  let shape ← (r.declarations id).foldlM
    (fun shape d => do
      let node ← fieldNode classNode id (name ++ "." ++ d.name) d
      pure (Shape.insert d.name node shape))
    ([] : Shape Node)
  pure (.ofShape shape)

/-- The node of one level of a lineage, which may be kept from before. -/
def levelNode (r : Registry) (classNode : ClassId → Build Node) (id : ClassId) : Build Node := do
  match id with
  | .builtin c => pure c.node
  | .declared _ =>
    match findClass? id (← get).own with
    | some node => pure node
    | none => ownNode r classNode id

/-- The levels of a lineage, the class itself first. -/
def levelNodes (r : Registry) (classNode : ClassId → Build Node) (id : ClassId) :
    Build (List (ClassId × Node)) := do
  let lineage ← ExceptT.mk (pure (r.lineage id))
  lineage.mapM fun level => (level, ·) <$> levelNode r classNode level

/-- Unites the shapes of levels, the oldest first. -/
def mergeLevels (r : Registry) (levels : List (ClassId × Node)) : Except SchemaError (Shape Node) :=
  levels.foldrM
    (fun level shape => match level.2.shape? with
      | some own => .ok (Shape.extend shape own)
      | none => .error (.unexpectedNodeShape (r.displayName level.1) level.2.kind.name))
    []

/-- Keeps the declared levels of a class, and the class itself. -/
def Cache.keepClass (c : Cache) (levels : List (ClassId × Node)) (id : ClassId) (merged : Node) :
    Cache :=
  let declared := levels.filter fun level => !level.1.isBuiltin
  { c with
    own := declared.foldl (fun own level => keepFirst level.1 level.2 own) c.own
    merged := keepFirst id merged c.merged }

/-- The node of a class, while other classes are being built. -/
def buildNodeIn (r : Registry) (building : List ClassId) (id : ClassId) : Build Node := do
  match id with
  | .builtin c => pure c.node
  | .declared number =>
    let id := ClassId.declared number
    match findClass? id (← get).merged with
    | some node => pure node
    | none =>
      if _known : r.contains id = true then
        if _busy : building.contains id = true then throw (r.circularity building id)
        else
          let levels ← levelNodes r (fun other => buildNodeIn r (building ++ [id]) other) id
          let shape ← ExceptT.mk (pure (mergeLevels r levels))
          let merged := Node.ofShape shape
          modify fun cache => cache.keepClass levels id merged
          pure merged
      else throw (.unknownClass id)
termination_by (r.idle building).length
decreasing_by exact Registry.length_idle_lt _known _busy

/-- The node of a class with all its fields. -/
def buildNode (r : Registry) (id : ClassId) : Build Node := buildNodeIn r [] id

end DocumentModel

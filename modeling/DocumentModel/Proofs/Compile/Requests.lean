import DocumentModel.Proofs.Compile.Agreement

/-!
# A compiler that is asked many times

A compiler is asked for nodes, indexes and models, one after the other, and keeps results between
its answers. `Registry.answers_eq` says that nobody can tell: every answer, and every error, is that
of a compiler that has kept nothing.
-/

namespace DocumentModel

/-- What a compiler can be asked for. -/
inductive Request
  | node (id : ClassId)
  | indexes (id : ClassId) (parent : Option String)
  | model (id : ClassId) (description : Option String)

/-- What a compiler answers. -/
inductive Answer
  | node (node : Node)
  | indexes (indexes : List IndexDescription)
  | model (model : Model)

namespace Request

/-- The build that answers a request. -/
def build (r : Registry) : Request → Build Answer
  | .node id => Answer.node <$> buildNode r id
  | .indexes id parent => Answer.indexes <$> buildIndexes r id parent
  | .model id description => Answer.model <$> Model.build r id description

end Request

/-- The answers of one compiler to requests in turn, from the results it has kept so far. -/
def Registry.answers (r : Registry) : Cache → List Request → List (Except SchemaError Answer)
  | _, [] => []
  | c, request :: rest =>
    (request.build r).answer c :: r.answers ((request.build r).after c) rest

/-! ## One request -/

namespace Registry

variable {r : Registry}

/-- The model of a class when nothing is kept. -/
def modelOf (r : Registry) (id : ClassId) (description : Option String) :
    Except SchemaError Model := do
  let node ← r.nodeIn [] id
  let indexes ← r.indexesIn [] none id
  pure ⟨id, r.displayName id, description.elim node node.describe, indexes⟩

theorem buildNode_agrees (r : Registry) (id : ClassId) :
    Build.Agrees r (buildNode r id) (r.nodeIn [] id) :=
  buildNodeIn_agrees leads_nil

theorem buildIndexes_agrees (r : Registry) (id : ClassId) (parent : Option String) :
    Build.Agrees r (buildIndexes r id parent) (r.indexesIn [] parent id) :=
  buildIndexesIn_agrees r [] parent id fun _ => rfl

/-- A model agrees when its node and its indexes do. -/
theorem buildModel_agrees (r : Registry) (id : ClassId) (description : Option String) :
    Build.Agrees r (Model.build r id description) (r.modelOf id description) := by
  refine (buildNode_agrees r id).bind fun node _ => ?_
  refine (buildIndexes_agrees r id none).bind fun indexes _ => ?_
  cases description with
  | none => exact .pure _
  | some text => exact .pure _

/-- The answer to a request when nothing is kept. -/
def answerOf (r : Registry) : Request → Except SchemaError Answer
  | .node id => Answer.node <$> r.nodeIn [] id
  | .indexes id parent => Answer.indexes <$> r.indexesIn [] parent id
  | .model id description => Answer.model <$> r.modelOf id description

/-- One request is answered as if nothing was kept, and what is kept after it is sound. -/
theorem request_agrees (r : Registry) (request : Request) :
    Build.Agrees r (request.build r) (r.answerOf request) := by
  cases request with
  | node id => exact (buildNode_agrees r id).map _
  | indexes id parent => exact (buildIndexes_agrees r id parent).map _
  | model id description => exact (buildModel_agrees r id description).map _

/-! ## Many requests -/

/-- From a sound cache every request is answered as by a new compiler. -/
theorem answers_of_sound {c : Cache} (hc : c.Sound r) (requests : List Request) :
    r.answers c requests = requests.map r.answerOf := by
  induction requests generalizing c with
  | nil => rfl
  | cons request rest ih =>
    obtain ⟨hanswer, hsound⟩ := request_agrees r request c hc
    rw [answers, hanswer, ih hsound, List.map_cons]

/-- **Every answer of a compiler is that of a new compiler**, whatever it was asked before. -/
theorem answers_eq (r : Registry) (requests : List Request) :
    r.answers {} requests = requests.map fun request => (request.build r).answer {} := by
  rw [answers_of_sound Cache.sound_empty]
  exact List.map_congr_left fun request _ => (request_agrees r request {} Cache.sound_empty).1.symm

end Registry

end DocumentModel

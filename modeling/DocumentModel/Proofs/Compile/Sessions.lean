import DocumentModel.Proofs.Compile.Alike

/-!
# Sessions

A session declares classes and fields in one registry and asks one compiler for nodes, indexes and
models, in any order. Its cache stays layered (`Session.run_layered`) while the registry changes
under it. So a node that was answered once is answered from then on, and two classes agree on the
fields that they inherit, however often and whenever these were declared again
(`Session.nodes_stay_and_agree`).
-/

namespace DocumentModel

/-- What can be done in a session. A document type that is resolved declares its class and its
fields by such commands. -/
inductive Session.Command
  | define (name : String) (base : Option ClassId)
  | setType (id : ClassId) (field : String) (tag : TypeTag) (options : TypeOptions)
  | setDetails (id : ClassId) (field : String) (details : FieldDetails)
  | setIndex (id : ClassId) (field : String) (index : IndexSpec)
  | ask (request : Request)

/-- What a command is replied with. -/
inductive Session.Reply
  | defined (result : Except SchemaError ClassId)
  | declared
  | answered (result : Except SchemaError Answer)

/-- A registry, the numbers for its classes, and what its compiler keeps. -/
structure Session where
  registry : Registry
  numbers : ClassNumbers
  cache : Cache

namespace Session

/-- A session with a new compiler. -/
def start (r : Registry) (numbers : ClassNumbers) : Session := ⟨r, numbers, {}⟩

def reply (s : Session) : Command → Reply
  | .define name base => .defined ((·.1) <$> s.registry.define? s.numbers name base)
  | .setType .. | .setDetails .. | .setIndex .. => .declared
  | .ask request => .answered ((request.build s.registry).answer s.cache)

def step (s : Session) : Command → Session
  | .define name base => match s.registry.define? s.numbers name base with
    | .ok (_, registry, numbers) => { s with registry := registry, numbers := numbers }
    | .error _ => s
  | .setType id field tag options => { s with registry := s.registry.setType id field tag options }
  | .setDetails id field details => { s with registry := s.registry.setDetails id field details }
  | .setIndex id field index => { s with registry := s.registry.setIndex id field index }
  | .ask request => { s with cache := (request.build s.registry).after s.cache }

/-- The session after commands in turn. -/
def run (s : Session) (commands : List Command) : Session := commands.foldl step s

/-- The replies to commands in turn. -/
def replies : Session → List Command → List Reply
  | _, [] => []
  | s, command :: rest => s.reply command :: (s.step command).replies rest

@[simp]
theorem run_nil (s : Session) : s.run [] = s := rfl

@[simp]
theorem run_cons (s : Session) (command : Command) (rest : List Command) :
    s.run (command :: rest) = (s.step command).run rest :=
  rfl

theorem run_append (s : Session) (early later : List Command) :
    s.run (early ++ later) = (s.run early).run later :=
  List.foldl_append

/-! ## What lasts -/

variable {s t : Session} {command : Command} {id level : ClassId} {node : Node}

/-- A session that comes after another one: no class is lost, and nothing that was kept. -/
structure Precedes (s t : Session) : Prop where
  registry : s.registry.Within t.registry
  cache : s.cache.Grown t.cache

theorem Precedes.refl (s : Session) : s.Precedes s := ⟨fun _ _ h => h, .refl _⟩

theorem Precedes.trans {u : Session} (h : s.Precedes t) (h' : t.Precedes u) : s.Precedes u :=
  ⟨fun number e he => h'.registry number e (h.registry number e he), h.cache.trans h'.cache⟩

/-- The cache unites kept levels, for the classes as they are declared now. -/
def Layered (s : Session) : Prop := s.cache.Layered s.registry

theorem start_layered (r : Registry) (numbers : ClassNumbers) : (start r numbers).Layered :=
  Cache.Layered.empty

/-- **One command keeps a session layered and loses nothing.** -/
theorem step_layered (h : s.Layered) (command : Command) :
    (s.step command).Layered ∧ s.Precedes (s.step command) := by
  have hdeclared : ∀ r, s.registry.classes = r.classes →
      Layered { s with registry := r } ∧ s.Precedes { s with registry := r } := fun r hr =>
    have hwithin := Registry.within_of_classes_eq hr
    ⟨Cache.Layered.within h hwithin, hwithin, .refl _⟩
  cases command with
  | define name base =>
    rw [step]
    split
    · next hd =>
      obtain ⟨e, -, -, -, -, -, rfl, -⟩ := Registry.exists_of_define? hd
      have hwithin := Registry.within_append s.registry e
      exact ⟨Cache.Layered.within h hwithin, hwithin, .refl _⟩
    · exact ⟨h, .refl s⟩
  | setType id field tag options => exact hdeclared _ rfl
  | setDetails id field details => exact hdeclared _ rfl
  | setIndex id field index => exact hdeclared _ rfl
  | ask request =>
    obtain ⟨hlayered, hgrown⟩ := Cache.Layered.request h request
    exact ⟨hlayered, fun _ _ he => he, hgrown⟩

/-- **So does a run.** -/
theorem run_layered (h : s.Layered) (commands : List Command) :
    (s.run commands).Layered ∧ s.Precedes (s.run commands) := by
  induction commands generalizing s with
  | nil => exact ⟨h, .refl s⟩
  | cons command rest ih =>
    obtain ⟨hlayered, hprecedes⟩ := step_layered h command
    obtain ⟨hlast, hrest⟩ := ih hlayered
    exact ⟨hlast, hprecedes.trans hrest⟩

/-! ## Nodes that were answered -/

theorem reply_node_eq_iff : s.reply (.ask (.node id)) = .answered (.ok (.node node))
    ↔ (buildNode s.registry id).answer s.cache = .ok node := by
  rw [reply, Request.build, (Build.run_map ..).1]
  constructor
  · intro h
    obtain ⟨built, hbuilt, hnode⟩ := map_eq_ok_iff.mp (Reply.answered.inj h)
    cases hnode
    exact hbuilt
  · intro h
    rw [h]
    rfl

/-- A class that is kept is answered with its node ever after. -/
theorem reply_of_merged {number : Nat} (h : s.Precedes t)
    (hm : findClass? (.declared number) s.cache.merged = some node) :
    t.reply (.ask (.node (.declared number))) = .answered (.ok (.node node)) :=
  reply_node_eq_iff.mpr
    (buildNodeIn_of_merged t.registry [] (h.cache.merged.findClass?_eq_some hm)).1

/-- **A node that was answered once is answered from then on.** -/
theorem reply_stays (hs : s.Layered)
    (h : s.reply (.ask (.node id)) = .answered (.ok (.node node))) (commands : List Command) :
    ((s.step (.ask (.node id))).run commands).reply (.ask (.node id))
      = .answered (.ok (.node node)) := by
  have hbuilt := reply_node_eq_iff.mp h
  cases id with
  | builtin b =>
    rw [buildNode, (buildNodeIn_builtin ..).1] at hbuilt
    exact reply_node_eq_iff.mpr ((buildNodeIn_builtin ..).1.trans hbuilt)
  | declared number =>
    have hlater := (run_layered (step_layered hs (.ask (.node (.declared number)))).1 commands).2
    refine reply_of_merged hlater ?_
    rw [step, Request.build, (Build.run_map ..).2]
    exact Cache.Layered.merged_after hs hbuilt

/-! ## Fields of classes that were built -/

end Session

/-- The node that an answer shows. -/
def Answer.node? : Answer → Option Node
  | .node built => some built
  | .indexes _ => none
  | .model built => some built.node

open Cache in
/-- An answer that shows a node has the fields of the node of its class, which was built for it. -/
theorem Cache.Layered.built_of_answer {r : Registry} {c : Cache} (hc : c.Layered r)
    {request : Request} {answer : Answer} {node : Node}
    (h : (request.build r).answer c = .ok answer) (hn : answer.node? = some node) :
    ∃ built, (buildNode r request.target).answer c = .ok built
      ∧ (∀ key, node.field? key = built.field? key)
      ∧ Grown ((buildNode r request.target).after c) ((request.build r).after c) := by
  cases request with
  | node id =>
    rw [Request.build, (Build.run_map ..).1] at h
    obtain ⟨built, hbuilt, rfl⟩ := map_eq_ok_iff.mp h
    cases hn
    rw [Request.build, (Build.run_map ..).2]
    exact ⟨node, hbuilt, fun _ => rfl, .refl _⟩
  | indexes id parent =>
    rw [Request.build, (Build.run_map ..).1] at h
    obtain ⟨indexes, -, rfl⟩ := map_eq_ok_iff.mp h
    cases hn
  | model id description =>
    rw [Request.build, (Build.run_map ..).1] at h
    obtain ⟨model, hmodel, rfl⟩ := map_eq_ok_iff.mp h
    obtain ⟨built, hbuilt, hmodel⟩ := Build.exists_of_bind_eq_ok hmodel
    obtain ⟨indexes, hindexes, hmodel⟩ := Build.exists_of_bind_eq_ok hmodel
    cases hmodel
    cases hn
    refine ⟨built, hbuilt, fun key => by cases description <;> rfl, ?_⟩
    have hlayered := (buildNode_alike r c id c c hc.alike).2.left
    have hgrown := (buildIndexes_alike r _ id none _ _ hlayered.alike).2.grown
    rw [Request.build, (Build.run_map ..).2, Model.build, (Build.run_bind_of_ok hbuilt).2,
      (Build.run_bind_of_ok hindexes).2]
    exact hgrown

namespace Session

variable {s : Session} {commands : List Command} {id : ClassId} {node : Node}

/-- A class was built in a run, for itself or for a model, and its node was answered. -/
def Builds (s : Session) (commands : List Command) (id : ClassId) (node : Node) : Prop :=
  ∃ early request answer, early ++ [.ask request] <+: commands ∧ request.target = id
    ∧ (s.run early).reply (.ask request) = .answered (.ok answer) ∧ answer.node? = some node

/-- The field that the own level of a class contributes to the nodes of its descendants. -/
def contribution (s : Session) (level : ClassId) (key : String) : Option Node :=
  (keptLevel? s.cache.own level).bind (Node.field? key)

/-- **At every key a class that was built has what the most derived level contributes.** -/
theorem field?_of_builds (hs : s.Layered) (h : s.Builds commands id node) {lineage : List ClassId}
    (hl : (s.run commands).registry.lineage id = .ok lineage) (key : String) :
    node.field? key = lineage.findSome? ((s.run commands).contribution · key) := by
  obtain ⟨early, request, answer, ⟨later, rfl⟩, rfl, hreply, hn⟩ := h
  rw [run_append, run_append, run_cons, run_nil] at hl ⊢
  obtain ⟨hearly, -⟩ := run_layered hs early
  obtain ⟨hstep, -⟩ := step_layered hearly (.ask request)
  obtain ⟨hlast, hlater⟩ := run_layered hstep later
  obtain ⟨built, hbuilt, hfields, hgrown⟩ :=
    Cache.Layered.built_of_answer hearly (Reply.answered.inj hreply) hn
  rw [hfields]
  cases ht : request.target with
  | builtin b =>
    rw [ht, buildNode, (buildNodeIn_builtin ..).1] at hbuilt
    cases hbuilt
    rw [ht] at hl
    cases hl
    rw [List.findSome?_singleton]
    rfl
  | declared number =>
    rw [ht] at hbuilt hgrown hl
    have hmerged := Cache.Layered.merged_after hearly hbuilt
    have hkept := hlater.cache.merged.findClass?_eq_some (hgrown.merged.findClass?_eq_some hmerged)
    exact (hlast.merged _ _ hkept).2.field?_eq (fun level node => hlast.propertiesOnce) hl key

theorem field?_of_ancestor (hs : s.Layered) (h : s.Builds commands id node)
    {younger older : List ClassId} {base : ClassId}
    (hl : (s.run commands).registry.lineage id = .ok (younger ++ base :: older)) {key : String}
    (hnone : ∀ level ∈ younger, (s.run commands).contribution level key = none) :
    node.field? key = (base :: older).findSome? ((s.run commands).contribution · key) := by
  rw [field?_of_builds hs h hl, List.findSome?_append, List.findSome?_eq_none_iff.mpr hnone,
    Option.none_or]

/-- **Two classes that were built agree on what they have from a common ancestor on.** -/
theorem fields_agree (hs : s.Layered) {id' base : ClassId} {node' : Node}
    {younger younger' older older' : List ClassId} {key : String}
    (h : s.Builds commands id node) (h' : s.Builds commands id' node')
    (hl : (s.run commands).registry.lineage id = .ok (younger ++ base :: older))
    (hl' : (s.run commands).registry.lineage id' = .ok (younger' ++ base :: older'))
    (hnone : ∀ level ∈ younger ++ younger', (s.run commands).contribution level key = none) :
    node.field? key = node'.field? key
      ∧ ∀ field, (s.run commands).contribution base key = some field →
        node.field? key = some field ∧ node'.field? key = some field := by
  obtain ⟨hyounger, hyounger'⟩ := List.forall_mem_append.mp hnone
  -- from the common ancestor on the lineages are the same
  have holder := (Registry.lineage_of_append hl).symm.trans (Registry.lineage_of_append hl')
  cases holder
  have hfield := field?_of_ancestor hs h hl hyounger
  have hfield' := field?_of_ancestor hs h' hl' hyounger'
  refine ⟨hfield.trans hfield'.symm, fun field hf => ?_⟩
  rw [hfield, hfield', List.findSome?_cons, hf]
  exact ⟨rfl, rfl⟩

/-- **Nodes stay, and classes agree on what they inherit**, whatever is declared in between. A class
whose node was answered is answered with the same node ever after. And if two classes were built
that have an ancestor in common (perhaps one of them, or both), then they have the same node at each
key that a more derived level of neither contributes: that of the common ancestor, if its own level
contributes one. -/
theorem nodes_stay_and_agree (r : Registry) (numbers : ClassNumbers) :
    (∀ early later id node,
      ((start r numbers).run early).reply (.ask (.node id)) = .answered (.ok (.node node)) →
      ((start r numbers).run (early ++ .ask (.node id) :: later)).reply (.ask (.node id))
        = .answered (.ok (.node node)))
    ∧ ∀ commands id₁ id₂ node₁ node₂, (start r numbers).Builds commands id₁ node₁ →
      (start r numbers).Builds commands id₂ node₂ → ∀ younger₁ younger₂ base older₁ older₂,
      ((start r numbers).run commands).registry.lineage id₁ = .ok (younger₁ ++ base :: older₁) →
      ((start r numbers).run commands).registry.lineage id₂ = .ok (younger₂ ++ base :: older₂) →
      ∀ key, (∀ level ∈ younger₁ ++ younger₂,
        ((start r numbers).run commands).contribution level key = none) →
      node₁.field? key = node₂.field? key
      ∧ ∀ field, ((start r numbers).run commands).contribution base key = some field →
        node₁.field? key = some field ∧ node₂.field? key = some field := by
  refine ⟨fun early later id node h => ?_, ?_⟩
  · obtain ⟨hearly, -⟩ := run_layered (start_layered r numbers) early
    rw [run_append, run_cons]
    exact reply_stays hearly h later
  · intro commands id₁ id₂ node₁ node₂ h₁ h₂ younger₁ younger₂ base older₁ older₂ hl₁ hl₂ key hnone
    exact fields_agree (start_layered r numbers) h₁ h₂ hl₁ hl₂ hnone

/-- Members and guests are persons. The name of persons is declared again, as a number, before a
model is made of guests. -/
def persons : List Command :=
  [.define "Person" none, .define "Member" (some (.declared 64)),
    .define "Guest" (some (.declared 64)), .setType (.declared 64) "name" .string .none,
    .ask (.node (.declared 65)), .setType (.declared 64) "name" .number .none,
    .ask (.model (.declared 66) (some "A guest"))]

theorem nodes_stay_and_agree_of_persons :
    ((start {} {}).run persons).reply (.ask (.node (.declared 65)))
        = .answered (.ok (.node (.ofShape [("name", .string)])))
      ∧ ∃ guest, (start {} {}).Builds persons (.declared 66) guest
        ∧ (Node.ofShape [("name", .string)]).field? "name" = guest.field? "name"
        ∧ guest.field? "name" = some .string := by
  have hmember : ((start {} {}).run (persons.take 4)).reply (.ask (.node (.declared 65)))
      = .answered (.ok (.node (.ofShape [("name", .string)]))) := by with_unfolding_all rfl
  have hguest : ((start {} {}).run (persons.take 6)).reply
      (.ask (.model (.declared 66) (some "A guest")))
        = .answered (.ok (.model ⟨.declared 66, "Guest",
          (Node.ofShape [("name", .string)]).describe "A guest", []⟩)) := by with_unfolding_all rfl
  have hbuilds : (start {} {}).Builds persons (.declared 65) (.ofShape [("name", .string)]) :=
    ⟨persons.take 4, _, _, ⟨persons.drop 5, rfl⟩, rfl, hmember, rfl⟩
  have hbuilds' : (start {} {}).Builds persons (.declared 66)
      ((Node.ofShape [("name", .string)]).describe "A guest") :=
    ⟨persons.take 6, _, _, ⟨[], rfl⟩, rfl, hguest, rfl⟩
  have hagree := (nodes_stay_and_agree {} {}).2 persons _ _ _ _ hbuilds hbuilds' [.declared 65]
    [.declared 66] (.declared 64) [] [] (by with_unfolding_all rfl) (by with_unfolding_all rfl)
    "name" (by
      intro level hm
      rcases List.mem_pair.mp hm with rfl | rfl <;> with_unfolding_all rfl)
  refine ⟨(nodes_stay_and_agree {} {}).1 (persons.take 4) (persons.drop 5) _ _ hmember, _, hbuilds',
    hagree.1, (hagree.2 .string (by with_unfolding_all rfl)).2⟩

end Session

end DocumentModel

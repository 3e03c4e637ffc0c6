import DocumentModel.Schema.Node

/-!
# The nodes a node is made of

`Node.parts` lists the nodes directly below a node: the properties and the catch-all of an object,
the elements of a list, the branches of a union, the node inside a wrapper. Every statement about
all nodes is proved with `Node.induction` from the same statement about the parts; a restriction on
all nodes of a tree is `Node.Throughout`.
-/

namespace DocumentModel

/-- The nodes that a kind is directly made of. -/
def NodeKind.parts {α : Type} : NodeKind α → List α
  | .object shape _ catchall => shape.map Prod.snd ++ catchall.toList
  | .record key value | .map key value => [key, value]
  | .array element _ | .set element _ => [element]
  | .tuple items rest => items ++ rest.toList
  | .union branches => branches
  | .intersection left right => [left, right]
  | .optional inner | .nullable inner | .withDefault inner _ | .refined inner _ => [inner]
  | _ => []

namespace NodeKind

variable {α : Type} {a : α} {p : String × α} {shape : Shape α} {unknownKeys : UnknownKeys}
  {catchall rest : Option α} {items : List α}

theorem property_mem_parts (h : p ∈ shape) : p.2 ∈ parts (.object shape unknownKeys catchall) :=
  List.mem_append_left _ (List.mem_map_of_mem h)

theorem catchall_mem_parts (h : a ∈ catchall) : a ∈ parts (.object shape unknownKeys catchall) :=
  List.mem_append_right _ (Option.mem_toList.mpr h)

theorem item_mem_parts (h : a ∈ items) : a ∈ parts (.tuple items rest) :=
  List.mem_append_left _ h

theorem rest_mem_parts (h : a ∈ rest) : a ∈ parts (.tuple items rest) :=
  List.mem_append_right _ (Option.mem_toList.mpr h)

end NodeKind

namespace Node

/-- The nodes that a node is directly made of. -/
def parts (node : Node) : List Node := node.kind.parts

/-- A part is smaller than the node it belongs to, which is why an induction over parts comes to an
end. -/
theorem sizeOf_lt_of_mem_parts {n m : Node} (h : m ∈ n.parts) : sizeOf m < sizeOf n := by
  obtain ⟨kind, description⟩ := n
  cases kind <;> simp only [parts, NodeKind.parts, List.mem_cons, List.mem_append,
    List.not_mem_nil, or_false, List.mem_map, Option.mem_toList] at h
  case object shape unknownKeys catchall =>
    rcases h with ⟨⟨key, _⟩, hm, rfl⟩ | rfl
    · have := List.sizeOf_lt_of_mem hm
      simp at this ⊢; omega
    · simp; omega
  case tuple items rest =>
    rcases h with hm | rfl
    · have := List.sizeOf_lt_of_mem hm
      simp; omega
    · simp; omega
  case union branches =>
    have := List.sizeOf_lt_of_mem h
    simp; omega
  case record | map | intersection => rcases h with rfl | rfl <;> simp <;> omega
  all_goals subst h; simp; omega

/-- **What holds of a node whenever it holds of its parts holds of every node.** -/
theorem induction {motive : Node → Prop}
    (step : ∀ n : Node, (∀ m ∈ n.parts, motive m) → motive n) (n : Node) : motive n :=
  step n fun m _ => induction step m
termination_by sizeOf n
decreasing_by exact sizeOf_lt_of_mem_parts ‹_›

/-- A condition that a node and all nodes below it meet. -/
inductive Throughout (p : Node → Prop) : Node → Prop
  | intro {n : Node} (here : p n) (below : ∀ m ∈ n.parts, Throughout p m) : Throughout p n

namespace Throughout

variable {p q : Node → Prop} {n m : Node}

/-- A condition that holds throughout holds of the node itself. -/
theorem here (h : n.Throughout p) : p n := by
  cases h; assumption

/-- It holds throughout every part. -/
theorem part (h : n.Throughout p) (hm : m ∈ n.parts) : m.Throughout p := by
  cases h with
  | intro _ below => exact below m hm

/-- A condition holds throughout a node when it holds of the node and throughout its parts. -/
theorem mk_iff {kind : NodeKind Node} {description : Option String} :
    Throughout p ⟨kind, description⟩ ↔ p ⟨kind, description⟩ ∧ ∀ m ∈ kind.parts, m.Throughout p :=
  ⟨fun h => ⟨h.here, fun _ hm => h.part hm⟩, fun h => .intro h.1 h.2⟩

theorem and (hp : n.Throughout p) (hq : n.Throughout q) : n.Throughout fun m => p m ∧ q m := by
  induction hp with
  | intro here _ ih => exact .intro ⟨here, hq.here⟩ fun m hm => ih m hm (hq.part hm)

/-- A weaker condition holds throughout as well. -/
theorem mono (hpq : ∀ n, p n → q n) (h : n.Throughout p) : n.Throughout q := by
  induction h with
  | intro here _ ih => exact .intro (hpq _ here) ih

end Throughout

end Node

end DocumentModel

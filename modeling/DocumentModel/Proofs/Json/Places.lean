import DocumentModel.Proofs.Json.Order
import DocumentModel.Schema.Issue

/-!
# Places in a value

A place in a value is reached by segments, which are keys of objects and positions in lists
(`Json.at?`). A place is lacking when its last segment is a key that the object before does not have
(`Json.Lacks`); such a place is not there, of course, and neither is anything below it. The path of
a place joins the texts of its segments.
-/

namespace DocumentModel

namespace Json

/-- A step from a value to one of its parts. -/
inductive Segment
  | key (name : String)
  | index (position : Nat)
  deriving DecidableEq, Repr

/-- The key itself, or the position in decimal digits. -/
def Segment.text : Segment → String
  | .key name => name
  | .index position => toString position

/-- The path of a place below a value that has a path itself. -/
def pathTo (path : String) (segments : List Segment) : String :=
  segments.foldl (fun path segment => joinPath path segment.text) path

/-- The part of a value that one segment leads to. -/
def child? : Json → Segment → Option Json
  | .object fields, .key name => findField? name fields
  | .array items, .index position => items[position]?
  | _, _ => none

/-- The value at a place. -/
def at? : Json → List Segment → Option Json
  | v, [] => some v
  | v, segment :: rest => (v.child? segment).bind fun w => w.at? rest

/-- The segments lead to an object, up to the last one, which is a key that the object lacks. -/
def Lacks (v : Json) (segments : List Segment) : Prop :=
  ∃ before name fields, segments = before ++ [.key name] ∧ v.at? before = some (.object fields)
    ∧ findField? name fields = none

variable {v w : Json} {segment : Segment} {segments : List Segment} {fields : List (String × Json)}
  {name : String}

/-! ## One segment more -/

theorem at?_cons (h : v.child? segment = some w) :
    v.at? (segment :: segments) = w.at? segments := by
  rw [at?, h, Option.bind_some]

/-- A place is reached through the place above it. -/
theorem at?_concat (v : Json) (segments : List Segment) (segment : Segment) :
    v.at? (segments ++ [segment]) = (v.at? segments).bind fun w => w.child? segment := by
  induction segments generalizing v with
  | nil =>
    rw [List.nil_append, at?, at?, Option.bind_some]
    cases v.child? segment <;> rfl
  | cons first rest ih =>
    rw [List.cons_append, at?, at?, Option.bind_assoc]
    exact Option.bind_congr fun w _ => ih w

/-- What is lacking below a child is lacking below the value, under the longer path. -/
theorem Lacks.cons (h : v.child? segment = some w) (hw : w.Lacks segments) :
    v.Lacks (segment :: segments) := by
  obtain ⟨before, name, fields, rfl, hbefore, hname⟩ := hw
  exact ⟨segment :: before, name, fields, rfl, (at?_cons h).trans hbefore, hname⟩

theorem lacks_key (h : findField? name fields = none) : (object fields).Lacks [.key name] :=
  ⟨[], name, fields, rfl, rfl, h⟩

/-- **What is lacking is not there.** -/
theorem Lacks.at?_eq_none (h : v.Lacks segments) : v.at? segments = none := by
  obtain ⟨before, name, fields, rfl, hbefore, hname⟩ := h
  rw [at?_concat, hbefore, Option.bind_some, child?, hname]

/-- A string has no parts, and is no object that could lack any. -/
theorem string_place {s : String} (h : (∃ w, (string s).at? segments = some w)
    ∨ (string s).Lacks segments) : segments = [] := by
  rcases h with ⟨w, hw⟩ | ⟨before, name, fields, rfl, hbefore, -⟩
  · cases segments with
    | nil => rfl
    | cons first rest => cases hw
  · cases before with
    | nil => cases hbefore
    | cons first rest => cases hbefore

end Json

end DocumentModel

import DocumentModel.Class.Registry

/-!
# Results kept while classes are compiled

A compiler keeps what it has built: the nodes of classes with all inherited fields, the nodes of
their own fields alone, and the indexes of classes. A build answers a result or an error, and in
both cases the results it has kept.
-/

namespace DocumentModel

structure Cache where
  merged : List (ClassId × Node) := []
  own : List (ClassId × Node) := []
  indexes : List (ClassId × List IndexDescription) := []

/-- Looks a class up. -/
def findClass? {α : Type} (id : ClassId) (kept : List (ClassId × α)) : Option α :=
  (kept.find? fun k => k.1 = id).map Prod.snd

/-- Keeps a result, unless there is one for the class already. -/
def keepFirst {α : Type} (id : ClassId) (result : α) (kept : List (ClassId × α)) :
    List (ClassId × α) :=
  if (findClass? id kept).isSome then kept else kept ++ [(id, result)]

/-- A computation that may fail and keeps results in a cache. -/
abbrev Build := ExceptT SchemaError (StateM Cache)

/-- The classes a registry knows. -/
def Registry.known (r : Registry) : List ClassId :=
  BuiltinClass.all.map ClassId.builtin ++ r.classes.map fun e => ClassId.declared e.number

/-- The classes a registry knows that are not being built, which limit how deep builds nest. -/
def Registry.idle (r : Registry) (building : List ClassId) : List ClassId :=
  r.known.filter fun id => !building.contains id

theorem Registry.mem_known {r : Registry} {id : ClassId} (h : r.contains id = true) :
    id ∈ r.known := by
  cases id with
  | builtin c => simp [known, BuiltinClass.mem_all]
  | declared number =>
    simp only [contains, Option.isSome_iff_exists] at h
    obtain ⟨e, he⟩ := h
    have hn := number_of_entry? he
    have hm := List.mem_of_find?_eq_some he
    simp only [known, List.mem_append, List.mem_map]
    exact Or.inr ⟨e, hm, by rw [hn]⟩

/-- One more class that is being built leaves one less to build, so building comes to an end. -/
theorem Registry.length_idle_lt {r : Registry} {building : List ClassId} {id : ClassId}
    (known : r.contains id = true) (idle : ¬ building.contains id = true) :
    (r.idle (building ++ [id])).length < (r.idle building).length := by
  have sub : r.idle (building ++ [id]) = (r.idle building).filter (· != id) := by
    unfold Registry.idle
    rw [List.filter_filter]
    congr 1
    funext c
    by_cases h : c = id <;> simp [h]
  rw [sub, List.length_filter_lt_length_iff_exists]
  exact ⟨id, by simp [Registry.idle, mem_known known]; simpa using idle, by simp⟩

/-- The error for a class that is needed while it is being built. -/
def Registry.circularity (r : Registry) (building : List ClassId) (id : ClassId) : SchemaError :=
  .circularReference (" -> ".intercalate ((building ++ [id]).map r.displayName))

end DocumentModel

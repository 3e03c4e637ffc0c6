import Mathlib.Data.List.DropRight
import DocumentModel.Index.Description

/-!
# Names of indexes

No direction has an underscore in its name, so what stands behind the last underscore of the name of
an index is the direction, whatever the path is (`IndexDescription.rtakeWhile_name`). Names tell
indexes apart exactly as their keys do (`IndexDescription.name_eq_iff_key_eq_of_ofSpec?`).
-/

namespace DocumentModel

namespace IndexDirection

theorem underscore_notMem_name (direction : IndexDirection) :
    '_' ∉ direction.name.toList := by
  cases direction <;> decide

theorem name_inj {one other : IndexDirection} : one.name = other.name ↔ one = other := by
  cases one <;> cases other <;> decide

theorem toJson_inj {one other : IndexDirection} : one.toJson = other.toJson ↔ one = other := by
  cases one <;> cases other <;> simp [toJson, name, Json.ofInt]

end IndexDirection

namespace IndexDescription

variable {a b : IndexDescription} {path other : String} {spec wanted : IndexSpec}

/-! ## Reading a name -/

/-- The name of an index is its path and its direction, with a line between them. -/
theorem toList_name (d : IndexDescription) :
    d.name.toList = d.path.toList ++ '_' :: d.direction.name.toList := by
  simp [name]

/-- **The direction is what stands behind the last underscore of the name.** -/
theorem rtakeWhile_name (d : IndexDescription) :
    d.name.toList.rtakeWhile (· != '_') = d.direction.name.toList := by
  have hdirection : ∀ c ∈ d.direction.name.toList.reverse, (c != '_') = true := by
    intro c hc
    have hne : c ≠ '_' := fun he =>
      d.direction.underscore_notMem_name (he ▸ List.mem_reverse.mp hc)
    simpa using hne
  rw [toList_name, List.rtakeWhile, List.reverse_append, List.reverse_cons, List.append_assoc,
    List.takeWhile_append_of_pos hdirection]
  simp

/-- **A name says what the path and the direction of the index are.** -/
theorem name_eq_iff : a.name = b.name ↔ a.path = b.path ∧ a.direction = b.direction := by
  constructor
  · intro h
    have hdirection : a.direction = b.direction := by
      rw [← IndexDirection.name_inj, ← String.toList_inj, ← rtakeWhile_name, h, rtakeWhile_name]
    have hlist := congrArg String.toList h
    rw [toList_name, toList_name, hdirection] at hlist
    exact ⟨String.toList_inj.mp (List.append_cancel_right hlist), hdirection⟩
  · rintro ⟨hpath, hdirection⟩
    rw [name, name, hpath, hdirection]

/-! ## Keys -/

/-- The path as it is read from the key. -/
def keyPath? (d : IndexDescription) : Option String := d.key.head?.map Prod.fst

/-- Two indexes have one key when they have one path and one direction. -/
theorem key_eq_iff : a.key = b.key ↔ a.path = b.path ∧ a.direction = b.direction := by
  rw [key, key, List.cons.injEq, Prod.mk.injEq, IndexDirection.toJson_inj, and_iff_left rfl]

/-- The path of an index is the one that it was asked for. -/
theorem path_of_ofSpec? (h : ofSpec? path spec = .ok a) : a.path = path := by
  unfold ofSpec? at h
  split at h
  · cases h
    rfl
  · split at h
    · cases h
      rfl
    · cases h

/-- **The names of indexes that are asked for tell them apart exactly as their keys do**, by paths
and directions, and a key has the path that was asked for. -/
theorem name_eq_iff_key_eq_of_ofSpec? (ha : ofSpec? path spec = .ok a)
    (hb : ofSpec? other wanted = .ok b) :
    (a.name = b.name ↔ a.key = b.key)
    ∧ (a.key = b.key ↔ path = other ∧ a.direction = b.direction)
    ∧ a.keyPath? = some path ∧ b.keyPath? = some other := by
  rw [name_eq_iff, key_eq_iff, path_of_ofSpec? ha, path_of_ofSpec? hb]
  exact ⟨Iff.rfl, Iff.rfl, congrArg some (path_of_ofSpec? ha), congrArg some (path_of_ofSpec? hb)⟩

theorem name_eq_iff_key_eq_of_ofSpec?_underscores :
    let a : IndexDescription := ⟨"a_2d", .planar, false, false, none⟩
    let b : IndexDescription := ⟨"a", .planar, true, false, none⟩
    ofSpec? "a_2d" { direction := some (.name "2d") } = .ok a
      ∧ ofSpec? "a" { direction := some (.name "2d"), unique := true } = .ok b
      ∧ a.name ≠ b.name ∧ a.keyPath? = some "a_2d" := by
  have ha : ofSpec? "a_2d" { direction := some (.name "2d") }
      = .ok ⟨"a_2d", .planar, false, false, none⟩ := by rfl
  have hb : ofSpec? "a" { direction := some (.name "2d"), unique := true }
      = .ok ⟨"a", .planar, true, false, none⟩ := by rfl
  obtain ⟨hname, hkey, hpath, -⟩ := name_eq_iff_key_eq_of_ofSpec? ha hb
  exact ⟨ha, hb, fun h => absurd (hkey.mp (hname.mp h)).1 (by decide), hpath⟩

end IndexDescription

end DocumentModel

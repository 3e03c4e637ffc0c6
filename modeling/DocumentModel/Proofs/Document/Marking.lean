import DocumentModel.Document.Marker

/-!
# Marked descriptions

The marker of a type begins with a bracket and has no other opening bracket. So of two markers at
the end of one text neither can begin inside the other, and a text ends in the marker of one type at
most: `Marker.type?` finds a type exactly if its marker is there (`Marker.type?_eq_some_iff`).
-/

namespace DocumentModel

theorem BsonType.ofName?_eq_some_iff {t : BsonType} {name : String} :
    ofName? name = some t ↔ t.name = name := by
  constructor
  · intro h
    simpa using List.find?_some h
  · rintro rfl
    have hall : ∀ t ∈ all, ofName? t.name = some t := by decide
    exact hall t (mem_all t)

theorem BsonType.name_injective : Function.Injective BsonType.name := by
  intro t t' h
  have ht := ofName?_eq_some_iff.mpr h
  rw [ofName?_eq_some_iff.mpr rfl] at ht
  exact (Option.some.inj ht).symm

namespace Marker

variable {t t' : BsonType} {cs : List Char}

theorem text_injective : Function.Injective text := by
  intro t t' h
  refine BsonType.name_injective (String.toList_inj.mp ?_)
  have h := congrArg String.toList h
  simpa [text] using h

/-- A marker is a bracket and characters that are none. -/
theorem exists_text_eq (t : BsonType) : ∃ rest, (text t).toList = '[' :: rest ∧ '[' ∉ rest := by
  cases t <;> exact ⟨_, rfl, by decide⟩

theorem eq_of_suffix (h : (text t).toList <:+ (text t').toList) : t = t' := by
  obtain ⟨rest, hrest, -⟩ := exists_text_eq t
  obtain ⟨rest', hrest', hnot⟩ := exists_text_eq t'
  rw [hrest, hrest'] at h
  -- a marker inside the other one would begin at another bracket
  rcases List.suffix_cons_iff.mp h with he | hin
  · exact text_injective (String.toList_inj.mp (by rw [hrest, hrest', he]))
  · exact absurd (hin.subset List.mem_cons_self) hnot

/-- No text ends in the markers of two types. -/
theorem eq_of_suffix_of_suffix (h : (text t).toList <:+ cs) (h' : (text t').toList <:+ cs) :
    t = t' := by
  rcases List.suffix_or_suffix_of_suffix h h' with h | h
  · exact eq_of_suffix h
  · exact (eq_of_suffix h).symm

/-- **The type of a description is the one whose marker ends it.** -/
theorem type?_eq_some_iff {description : String} :
    type? description = some t ↔ (text t).toList <:+ description.toList := by
  constructor
  · intro h
    simpa using List.find?_some h
  · intro h
    cases hf : type? description with
    | none =>
      have hnot := List.find?_eq_none.mp hf t (BsonType.mem_all t)
      exact absurd (by simpa using h) hnot
    | some t' =>
      have h' : (text t').toList <:+ description.toList := by simpa using List.find?_some hf
      rw [eq_of_suffix_of_suffix h h']

/-- A text with a marker at its end names the type of the marker. -/
theorem type?_compose (description : String) (t : BsonType) :
    type? (compose description t) = some t := by
  rw [type?_eq_some_iff, compose, String.toList_append]
  exact List.suffix_append _ _

/-- Taking the marker off again leaves the text in front of it. -/
theorem split_compose (description : String) (t : BsonType) :
    split (compose description t) = (nonEmpty? description, some t) := by
  rw [split, type?_compose]
  simp [compose]

end Marker

end DocumentModel

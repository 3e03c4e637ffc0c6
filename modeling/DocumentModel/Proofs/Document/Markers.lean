import DocumentModel.Pattern.Basic
import DocumentModel.Proofs.Document.Marking
import DocumentModel.Proofs.Pattern.CharSets
import DocumentModel.Proofs.Pattern.Matching

/-!
# Markers are coded without loss

A description with a marker is taken apart into the text and the type that make it up again, and one
without a type ends in no marker. `Marker.split` looks at the end of a description. A search for the
leftmost match of `Marker.pattern` comes to the same: a match reaches to the end and has no bracket
inside, so there is one at most (`Marker.split_eq_some_iff_leftmostMatch`).
-/

namespace DocumentModel

namespace Marker

open Pattern Pattern.Expression

variable {t : BsonType} {description : String} {text? : Option String}
  {before before' read after rest rest' : List Char}

/-! ## Taking apart and putting together -/

theorem getD_nonEmpty? (s : String) : (nonEmpty? s).getD "" = s := by
  rw [nonEmpty?]
  split
  · next h => simpa using h.symm
  · rfl

theorem nonEmpty?_getD (h : text? ≠ some "") : nonEmpty? (text?.getD "") = text? := by
  cases text? with
  | none => rfl
  | some s => simpa [nonEmpty?] using h

theorem nonEmpty?_ne (s : String) : nonEmpty? s ≠ some "" := by
  rw [nonEmpty?]
  split
  · exact nofun
  · next h => simpa using h

theorem type?_split (description : String) : (split description).2 = type? description := by
  rw [split]
  cases type? description <;> rfl

/-- **A description that has a type is put together again of its parts.** -/
theorem split_eq_some_iff :
    split description = (text?, some t) ↔
      compose (text?.getD "") t = description ∧ text? ≠ some "" := by
  constructor
  · intro h
    have htype : type? description = some t := by rw [← type?_split, h]
    obtain ⟨front, hfront⟩ := type?_eq_some_iff.mp htype
    obtain rfl : compose (String.ofList front) t = description := by
      rw [← String.toList_inj, ← hfront]
      simp [compose]
    rw [split_compose, Prod.mk.injEq] at h
    obtain ⟨rfl, -⟩ := h
    rw [getD_nonEmpty?]
    exact ⟨rfl, nonEmpty?_ne _⟩
  · rintro ⟨rfl, h⟩
    rw [split_compose, nonEmpty?_getD h]

/-- **A description that has no type is all text and ends in no marker.** -/
theorem split_eq_none_iff : split description = (text?, none) ↔
    text? = nonEmpty? description ∧ ∀ t, ¬ (text t).toList <:+ description.toList := by
  have htype : (∀ t, ¬ (text t).toList <:+ description.toList) ↔ type? description = none := by
    simp only [← type?_eq_some_iff, ← Option.eq_none_iff_forall_ne_some]
  rw [htype, split]
  cases type? description with
  | none => simp [eq_comm]
  | some t => simp

/-! ## The pattern -/

/-- What markers are searched by. The group is the name of the type. -/
def pattern : String := "\\[bsonType:(\\w+)\\]$"

def expression : Expression :=
  literals "[bsonType:".toList
    (.seq (.repeated (.chars wordRanges) 1 none) (literals [']'] (.look .endText)))

set_option maxRecDepth 4000 in
theorem readTerm?_pattern : readTerm? pattern = some (.concat
    ("[bsonType:".toList.map (fun c => .literal ⟨c, false⟩)
      ++ [.group true [] (.repetition (.charClass (.letter .word false)) 1 none),
        .literal ⟨']', false⟩, .assertion .endLine])) := by
  with_unfolding_all rfl

theorem resolve?_pattern :
    ((readTerm? pattern).bind (·.resolve? {})).map (·.expression) = some expression := by
  rw [readTerm?_pattern]
  rfl

/-- The marker of a name, which need not be the name of a type. -/
def written (name : List Char) : List Char := "[bsonType:".toList ++ name ++ "]".toList

theorem toList_text (t : BsonType) : (text t).toList = written t.name.toList := by
  unfold text written
  rw [String.toList_append, String.toList_append]

/-- A match is the marker of a name at the end of the text. -/
theorem matches_expression_iff : expression.Matches before read after ↔
    after = [] ∧ ∃ name, name ≠ [] ∧ (∀ c ∈ name, wordRanges.has c.toNat = true)
      ∧ read = written name := by
  have hend : ∀ {before read : List Char},
      (literals [']'] (.look .endText)).Matches before read after ↔
        after = [] ∧ read = "]".toList := by
    intro before read
    rw [matches_literals_iff]
    simp [Matches, Place.holds, Place.isEnd, Place.between, and_comm]
  have hwritten : ∀ name, written name = "[bsonType:".toList ++ (name ++ "]".toList) := fun name =>
    List.append_assoc ..
  rw [expression, matches_literals_iff]
  constructor
  · rintro ⟨_, rfl, name, _, rfl, hname, hrest⟩
    obtain ⟨rfl, rfl⟩ := hend.mp hrest
    obtain ⟨hlength, hword⟩ := matches_repeated_chars_iff.mp hname
    exact ⟨rfl, name, List.ne_nil_of_length_pos hlength, hword, (hwritten name).symm⟩
  · rintro ⟨rfl, name, hne, hword, rfl⟩
    refine ⟨name ++ "]".toList, hwritten name, name, _, rfl, ?_, hend.mpr ⟨rfl, rfl⟩⟩
    exact matches_repeated_chars_iff.mpr ⟨List.length_pos_iff.mpr hne, hword⟩

/-! ## One match at most -/

/-- A character of a word is no bracket. -/
theorem bracket_notMem_of_word {name : List Char}
    (h : ∀ c ∈ name, wordRanges.has c.toNat = true) :
    '[' ∉ "bsonType:".toList ++ name ++ "]".toList := by
  have hname : '[' ∉ name := fun hmem => by
    have hcovers := (has_wordRanges_iff_of_lt (by decide)).mp (h '[' hmem)
    exact absurd hcovers (by decide)
  simp [hname]

/-- The last bracket of a text tells what stands in front of it. -/
theorem eq_of_append_bracket (h : before ++ '[' :: rest = before' ++ '[' :: rest')
    (hrest : '[' ∉ rest) (hrest' : '[' ∉ rest') : before = before' := by
  rcases List.append_eq_append_iff.mp h with ⟨between, rfl, heq⟩ | ⟨between, rfl, heq⟩
  all_goals
    cases between with
    | nil => simp
    | cons c between =>
      obtain ⟨-, rfl⟩ := List.cons.inj heq
      simp at hrest hrest'

/-- **No match begins further to the left than another one.** -/
theorem leftmostMatch_iff {cs : List Char} : expression.LeftmostMatch cs before read after ↔
    cs = before ++ read ++ after ∧ expression.Matches before read after := by
  refine ⟨fun h => ⟨h.text_eq, h.reads⟩, fun ⟨htext, h⟩ => ⟨htext, h, ?_⟩⟩
  intro before' read' after' htext' h'
  obtain ⟨rfl, name, -, hword, rfl⟩ := matches_expression_iff.mp h
  obtain ⟨rfl, name', -, hword', rfl⟩ := matches_expression_iff.mp h'
  rw [List.append_nil] at htext htext'
  rw [eq_of_append_bracket (htext.symm.trans htext') (bracket_notMem_of_word hword)
    (bracket_notMem_of_word hword')]

/-! ## Searching for the pattern -/

theorem word_of_mem_name {c : Char} (h : c ∈ t.name.toList) : wordRanges.has c.toNat = true := by
  have hname : (t.name.toList.all fun c => decide (c.toNat < 0x7B
      ∧ Text.CharRanges.Covers LetterClass.word.asciiRanges.toList c.toNat)) = true := by
    cases t <;> decide
  obtain ⟨hlt, hcovers⟩ := of_decide_eq_true (List.all_eq_true.mp hname c h)
  exact (has_wordRanges_iff_of_lt hlt).mpr hcovers

/-- **The search for the pattern finds the type and the text.** -/
theorem split_eq_some_iff_leftmostMatch : split description = (text?, some t) ↔
    ∃ before name after, expression.LeftmostMatch description.toList before (written name) after
      ∧ BsonType.ofName? (String.ofList name) = some t
      ∧ text? = nonEmpty? (String.ofList before) := by
  constructor
  · intro h
    obtain ⟨rfl, htext⟩ := split_eq_some_iff.mp h
    refine ⟨(text?.getD "").toList, t.name.toList, [], leftmostMatch_iff.mpr ⟨?_, ?_⟩, ?_, ?_⟩
    · simp [compose, toList_text]
    · refine matches_expression_iff.mpr ⟨rfl, t.name.toList, ?_, fun c => word_of_mem_name, rfl⟩
      cases t <;> decide
    · rw [String.ofList_toList, BsonType.ofName?_eq_some_iff]
    · rw [String.ofList_toList, nonEmpty?_getD htext]
  · rintro ⟨before, name, after, hmatch, hname, rfl⟩
    obtain ⟨htext, hmatches⟩ := leftmostMatch_iff.mp hmatch
    obtain ⟨rfl, -⟩ := matches_expression_iff.mp hmatches
    obtain rfl : compose (String.ofList before) t = description := by
      rw [← String.toList_inj, htext, compose, String.toList_append, toList_text,
        BsonType.ofName?_eq_some_iff.mp hname]
      simp
    exact split_compose _ t

/-- No type is found if the leftmost match names none. -/
theorem split_eq_none_iff_leftmostMatch : split description = (text?, none) ↔
    text? = nonEmpty? description ∧
      ∀ before name after, expression.LeftmostMatch description.toList before (written name) after →
        BsonType.ofName? (String.ofList name) = none := by
  rw [split_eq_none_iff]
  refine and_congr_right fun _ => ?_
  constructor
  · intro h before name after hmatch
    refine Option.eq_none_iff_forall_ne_some.mpr fun t hname => h t ?_
    rw [← type?_eq_some_iff, ← type?_split,
      split_eq_some_iff_leftmostMatch.mpr ⟨before, name, after, hmatch, hname, rfl⟩]
  · intro h t hsuffix
    have hsplit : split description = ((split description).1, some t) :=
      Prod.ext rfl (by rw [type?_split, type?_eq_some_iff.mpr hsuffix])
    obtain ⟨before, name, after, hmatch, hname, -⟩ := split_eq_some_iff_leftmostMatch.mp hsplit
    rw [h before name after hmatch] at hname
    cases hname

/-- **Markers are coded without loss.** Putting a marker on and taking a description apart undo each
other, and taking apart is what the search for the leftmost match of the pattern does. -/
theorem split_lossless :
    (∀ description t, split (compose description t) = (nonEmpty? description, some t))
    ∧ (∀ description text? t, split description = (text?, some t) ↔
        compose (text?.getD "") t = description ∧ text? ≠ some "")
    ∧ (∀ description text?, split description = (text?, none) ↔
        text? = nonEmpty? description ∧ ∀ t, ¬ (text t).toList <:+ description.toList)
    ∧ ((readTerm? pattern).bind (·.resolve? {})).map (·.expression) = some expression
    ∧ (∀ before read after, expression.Matches before read after →
        after = [] ∧ ∃ name, read = written name)
    ∧ (∀ description text? t, split description = (text?, some t) ↔
        ∃ before name after, expression.LeftmostMatch description.toList before (written name) after
          ∧ BsonType.ofName? (String.ofList name) = some t
          ∧ text? = nonEmpty? (String.ofList before))
    ∧ (∀ description text?, split description = (text?, none) ↔ text? = nonEmpty? description ∧
        ∀ before name after,
          expression.LeftmostMatch description.toList before (written name) after →
            BsonType.ofName? (String.ofList name) = none) := by
  refine ⟨split_compose, fun _ _ _ => split_eq_some_iff, fun _ _ => split_eq_none_iff,
    resolve?_pattern, fun before read after h => ?_,
    fun _ _ _ => split_eq_some_iff_leftmostMatch, fun _ _ => split_eq_none_iff_leftmostMatch⟩
  obtain ⟨hafter, name, -, -, hread⟩ := matches_expression_iff.mp h
  exact ⟨hafter, name, hread⟩

end Marker

end DocumentModel

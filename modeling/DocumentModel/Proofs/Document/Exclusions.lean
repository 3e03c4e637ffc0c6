import DocumentModel.Proofs.Document.Shown

/-!
# Exclusive bounds

That a bound is exclusive is a rule beside the bound itself, and says nothing without it. A check on
numbers writes both rules, but a bound that is no finite number leaves the first one out. So the
rules stand together in the document of a node exactly where the last bound on either side is finite
or inclusive (`Node.exclusionsBounded_iff_of_titledDocument?`).
-/

namespace DocumentModel

/-- What a fold leaves in a place is what its steps have written there last. -/
theorem foldl_last_write {α β γ : Type} {step : β → α → β} (read : β → γ) (write : α → Option γ)
    (h : ∀ b a, read (step b a) = (write a).getD (read b)) (l : List α) (b : β) :
    read (l.foldl step b) = (l.filterMap write).getLast?.getD (read b) := by
  induction l generalizing b with
  | nil => rfl
  | cons a rest ih =>
    rw [List.foldl_cons, ih, h, List.filterMap_cons]
    cases write a with
    | none => rfl
    | some c => simp [List.getLast?_cons]

/-! ## Ends of ranges -/

/-- A number at which a range ends, and whether the range has it. -/
structure Limit where
  value : Binary64
  inclusive : Bool

namespace Limit

/-- A limit that does not belong to its range is a finite number. -/
def Fits (limit : Limit) : Prop := limit.inclusive = false → limit.value.isFinite = true

/-- The rules on a bound and on its exclusion. -/
def rules (limit : Limit) : Option JsonNumber × Option Bool :=
  (Document.bound? limit.value, if limit.inclusive then none else some true)

end Limit

namespace NumberCheck

def lower? : NumberCheck → Option Limit
  | .min value inclusive => some ⟨value, inclusive⟩
  | _ => none

def upper? : NumberCheck → Option Limit
  | .max value inclusive => some ⟨value, inclusive⟩
  | _ => none

end NumberCheck

/-- Of several lower limits the last one counts. -/
def lastLower? (checks : List NumberCheck) : Option Limit :=
  (checks.filterMap NumberCheck.lower?).getLast?

/-- Of several upper limits the last one counts. -/
def lastUpper? (checks : List NumberCheck) : Option Limit :=
  (checks.filterMap NumberCheck.upper?).getLast?

namespace Document

variable {d : Document}

/-! ## The two rules of a limit -/

/-- Exclusion stands beside a bound only. -/
def Accompanied (rules : Option JsonNumber × Option Bool) : Prop :=
  rules.2.isSome = true → rules.1.isSome = true

/-- Every finite number can be stated as a bound. -/
theorem isSome_bound?_iff {value : Binary64} :
    (bound? value).isSome = true ↔ value.isFinite = true := by
  cases value with
  | finite negative units =>
    refine iff_of_true ?_ rfl
    unfold bound?
    dsimp only
    split <;> rfl
  | infinite negative => exact iff_of_false (by cases negative <;> decide) nofun
  | nan => exact iff_of_false (by decide) nofun

theorem accompanied_rules_iff {limit : Limit} : Accompanied limit.rules ↔ limit.Fits := by
  refine imp_congr ?_ isSome_bound?_iff
  unfold Limit.rules
  cases limit.inclusive <;> simp

theorem accompanied_getD_iff {last? : Option Limit} :
    Accompanied ((last?.map Limit.rules).getD (none, none)) ↔ ∀ limit ∈ last?, limit.Fits := by
  cases last? with
  | none => exact iff_of_true nofun nofun
  | some limit => simpa using accompanied_rules_iff

/-- Of several lower limits a document states the last one. -/
theorem lowerRules_ofNumberChecks (checks : List NumberCheck) :
    ((ofNumberChecks checks).minimum, (ofNumberChecks checks).exclusiveMinimum)
      = ((lastLower? checks).map Limit.rules).getD (none, none) := by
  rw [lastLower?, ← List.getLast?_map, List.map_filterMap]
  refine foldl_last_write (fun d => (d.minimum, d.exclusiveMinimum)) _ (fun d check => ?_)
    checks (ofType .number)
  cases check <;> rfl

theorem upperRules_ofNumberChecks (checks : List NumberCheck) :
    ((ofNumberChecks checks).maximum, (ofNumberChecks checks).exclusiveMaximum)
      = ((lastUpper? checks).map Limit.rules).getD (none, none) := by
  rw [lastUpper?, ← List.getLast?_map, List.map_filterMap]
  refine foldl_last_write (fun d => (d.maximum, d.exclusiveMaximum)) _ (fun d check => ?_)
    checks (ofType .number)
  cases check <;> rfl

/-! ## One document -/

/-- The document has `exclusiveMinimum` only with `minimum`, and `exclusiveMaximum` only with
`maximum`. -/
structure ExclusionsBounded (d : Document) : Prop where
  lower : d.exclusiveMinimum.isSome = true → d.minimum.isSome = true
  upper : d.exclusiveMaximum.isSome = true → d.maximum.isSome = true

theorem exclusionsBounded_ofNumberChecks_iff {checks : List NumberCheck} :
    (ofNumberChecks checks).ExclusionsBounded ↔
      (∀ limit ∈ lastLower? checks, limit.Fits) ∧ ∀ limit ∈ lastUpper? checks, limit.Fits := by
  rw [← accompanied_getD_iff, ← accompanied_getD_iff, ← lowerRules_ofNumberChecks,
    ← upperRules_ofNumberChecks]
  exact ⟨fun h => ⟨h.lower, h.upper⟩, fun h => ⟨h.1, h.2⟩⟩

/-- A description is beside these rules, and so is the type that it names. -/
theorem exclusionsBounded_annotate_iff {description : Option String} :
    (d.annotate description).ExclusionsBounded ↔ d.ExclusionsBounded := by
  obtain ⟨types, text, hd, -⟩ := exists_annotate_eq description d
  rw [hd]
  exact ⟨fun h => ⟨h.lower, h.upper⟩, fun h => ⟨h.lower, h.upper⟩⟩

theorem exclusionsBounded_of_collapse? {branches : List Node} (h : collapse? branches = some d) :
    d.ExclusionsBounded := by
  obtain ⟨types, values, rfl⟩ := exists_eq_of_collapse? h
  exact ⟨nofun, nofun⟩

theorem exclusionsBounded_ofStringChecks (checks : List StringCheck) :
    (ofStringChecks checks).ExclusionsBounded := by
  obtain ⟨least, most, pattern, allOf, hd, -⟩ := exists_ofStringChecks_eq checks
  rw [hd]
  exact ⟨nofun, nofun⟩

end Document

namespace Node

open Document

/-- The last limits of a number fit on both sides. -/
def LimitsFit (n : Node) : Prop := ∀ checks, n.kind = .number checks →
  (∀ limit ∈ lastLower? checks, limit.Fits) ∧ ∀ limit ∈ lastUpper? checks, limit.Fits

/-- **A way of building that keeps limits in order keeps exclusion beside its bound.** -/
theorem builds_exclusionsBounded : Builds ExclusionsBounded LimitsFit where
  annotate _ _ h := exclusionsBounded_annotate_iff.mpr h
  empty := ⟨nofun, nofun⟩
  nothing := ⟨nofun, nofun⟩
  ofType _ := ⟨nofun, nofun⟩
  pattern _ := ⟨nofun, nofun⟩
  string checks _ _ := exclusionsBounded_ofStringChecks checks
  number checks _ h := exclusionsBounded_ofNumberChecks_iff.mpr (h checks rfl)
  literal _ _ _ := ⟨nofun, nofun⟩
  enumeration _ _ _ := ⟨nofun, nofun⟩
  nativeEnum _ _ _ := ⟨nofun, nofun⟩
  object _ _ _ _ _ _ _ _ := ⟨nofun, nofun⟩
  record _ := ⟨nofun, nofun⟩
  list _ _ := ⟨nofun, nofun⟩
  set _ _ := ⟨nofun, nofun⟩
  tuple _ rest := by cases rest <;> exact ⟨nofun, nofun⟩
  pair _ _ := ⟨nofun, nofun⟩
  map _ _ := ⟨nofun, nofun⟩
  collapsed _ _ _ _ _ _ hd := exclusionsBounded_of_collapse? hd
  anyOf _ _ := ⟨nofun, nofun⟩
  allOf _ _ := ⟨nofun, nofun⟩
  nullable h := ⟨h.lower, h.upper⟩

/-- **Exclusion without its bound shows which number has a limit out of order.** -/
theorem reveals_limitsFit : Reveals ExclusionsBounded LimitsFit where
  empty := ⟨nofun, nofun⟩
  here {n d} h hd checks hk := by
    obtain ⟨kind, description⟩ := n
    cases hk
    cases h
    exact exclusionsBounded_ofNumberChecks_iff.mp (exclusionsBounded_annotate_iff.mp hd)
  annotated h := exclusionsBounded_annotate_iff.mp h
  nullable h := ⟨h.lower, h.upper⟩
  collapsed {branches d} h _ b hb checks hk := by
    -- a number among them has no checks
    rcases isSome_of_collapse? h b hb with hb | hb | hb
    · cases checks with
      | nil => exact ⟨nofun, nofun⟩
      | cons check rest => simp [plainType?, hk] at hb
    · simp [literal?, hk] at hb
    · simp [enumeration?, hk] at hb

/-- **Exclusion stands beside a bound, at every depth of the document of a node, exactly if the last
limits of all its numbers are finite or inclusive.** -/
theorem exclusionsBounded_iff_of_titledDocument? {n : Node} {title : Option String} {d : Document}
    (hn : n.Throughout PropertiesOnce) (h : n.titledDocument? title = .ok d) :
    d.Throughout ExclusionsBounded ↔ n.Translated LimitsFit := by
  obtain ⟨e, he, rfl⟩ := titledDocument?_eq_ok_iff.mp h
  rw [throughout_titled_iff]
  · exact ⟨translated_of_throughout reveals_limitsFit hn he,
      fun hl => throughout_of_document? builds_exclusionsBounded hl he⟩
  · exact fun d title => ⟨fun h => ⟨h.lower, h.upper⟩, fun h => ⟨h.lower, h.upper⟩⟩

/-- A level above zero; of its two upper limits the first one is exclusive, but replaced. -/
def level : Node :=
  (ofKind (.number [.min Binary64.zero false, .max (.infinite false) false,
    .max (.infinite false) true])).describe "Level[bsonType:double]"

def gauge : Node := ofShape (Shape.ofEntries [("level", level)])

theorem exclusionsBounded_iff_of_titledDocument?_gauge :
    gauge.Throughout PropertiesOnce ∧ gauge.Translated LimitsFit
      ∧ ∃ d, gauge.titledDocument? none = .ok d ∧ d.Throughout ExclusionsBounded := by
  have hn : gauge.Throughout PropertiesOnce := by
    simp [gauge, level, Shape.ofEntries, Shape.extend, Shape.insert, ofShape, ofKind, describe,
      Throughout.mk_iff, PropertiesOnce, shape?, NodeKind.parts, Shape.keys]
  have hlevel : level.LimitsFit := by
    rintro _ ⟨⟩
    refine ⟨?_, ?_⟩
    · rintro _ ⟨⟩
      exact fun _ => rfl
    · rintro _ ⟨⟩ ⟨⟩
  have hgauge : gauge.LimitsFit := by rintro _ ⟨⟩
  have hl : gauge.Translated LimitsFit :=
    .intro hgauge (List.forall_mem_singleton.mpr (.intro hlevel (List.forall_mem_nil _)))
  have hd : gauge.titledDocument? none = .ok gauge.document := rfl
  exact ⟨hn, hl, _, hd, (exclusionsBounded_iff_of_titledDocument? hn hd).mpr hl⟩

/-- A number above infinity has no bound in its document, but an exclusion of one. -/
theorem exclusion_stands_alone :
    ∃ d, (ofKind (.number [.min (.infinite false) false])).titledDocument? none = .ok d
      ∧ d.exclusiveMinimum = some true ∧ d.minimum = none ∧ ¬ d.Throughout ExclusionsBounded := by
  refine ⟨_, rfl, rfl, rfl, fun h => ?_⟩
  exact absurd (h.here.lower rfl) (by decide)

end Node

end DocumentModel

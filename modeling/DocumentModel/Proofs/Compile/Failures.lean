import DocumentModel.Proofs.Compile.Declared

/-!
# Requests that fail

A request that fails may have built classes on the way, and these remain built: fields that are
declared for them later come too late. `Session.replies_without_failure_iff` says when a failed
request can be noticed, which is exactly when a level was kept for the first time. It is not
noticed that a node was kept whose levels were there before.
-/

namespace DocumentModel

namespace Session

variable {s t : Session} {request : Request} {e : SchemaError}

/-! ## Sessions that cannot be told apart -/

/-- Two sessions with the same declarations, and with caches that are alike. -/
structure Alike (s t : Session) : Prop where
  registry : s.registry = t.registry
  numbers : s.numbers = t.numbers
  cache : Cache.Alike s.registry s.cache s.cache t.cache

theorem Alike.step (h : s.Alike t) (command : Command) :
    s.reply command = t.reply command ∧ (s.step command).Alike (t.step command) := by
  obtain ⟨r, numbers, c⟩ := s
  obtain ⟨r', numbers', d⟩ := t
  obtain ⟨hr, hnumbers, hcache⟩ := h
  dsimp only at hr hnumbers hcache
  subst hr hnumbers
  -- declarations change both registries in the same way, and keep the caches alike
  have hdeclared : ∀ r' numbers', r.Within r' → Alike ⟨r', numbers', c⟩ ⟨r', numbers', d⟩ :=
    fun r' numbers' hr => ⟨rfl, rfl, hcache.own, hcache.indexes, hcache.left.within hr,
      hcache.right.within hr, .refl c⟩
  cases command with
  | define name base =>
    refine ⟨rfl, ?_⟩
    unfold Session.step
    dsimp only
    split
    · next hd =>
      obtain ⟨entry, -, -, -, -, -, rfl, -⟩ := Registry.exists_of_define? hd
      exact hdeclared _ _ (Registry.within_append r entry)
    · exact ⟨rfl, rfl, hcache⟩
  | setType id field tag options => exact ⟨rfl, hdeclared _ _ (Registry.within_of_classes_eq rfl)⟩
  | setDetails id field details => exact ⟨rfl, hdeclared _ _ (Registry.within_of_classes_eq rfl)⟩
  | setIndex id field index => exact ⟨rfl, hdeclared _ _ (Registry.within_of_classes_eq rfl)⟩
  | ask request =>
    obtain ⟨hanswer, hafter⟩ := request_alike r c request c d hcache
    exact ⟨congrArg Reply.answered hanswer, rfl, rfl, { hafter with grown := .refl _ }⟩

/-- **Alike sessions give the same replies for ever.** -/
theorem Alike.replies (h : s.Alike t) (commands : List Command) :
    s.replies commands = t.replies commands := by
  induction commands generalizing s t with
  | nil => rfl
  | cons command rest ih =>
    obtain ⟨hreply, hstep⟩ := h.step command
    rw [Session.replies, Session.replies, hreply, ih hstep]

/-! ## What a failure leaves behind -/

/-- A request that fails without keeping a level cannot be told from no request. -/
theorem alike_of_failure (hs : s.Layered) (h : s.reply (.ask request) = .answered (.error e))
    (hown : (s.step (.ask request)).cache.own = s.cache.own) : (s.step (.ask request)).Alike s where
  registry := rfl
  numbers := rfl
  cache :=
    { own := hown.symm
      indexes := (Cache.Layered.indexes_of_error hs (Reply.answered.inj h)).symm
      left := (step_layered hs (.ask request)).1
      right := hs
      grown := .refl _ }

/-- A class cannot be built while one of its levels is not kept and has a field that nothing can be
made of. -/
theorem nodeIn_of_broken {r : Registry} {own : List (ClassId × Node)} {id level : ClassId}
    {lineage : List ClassId} {node : Node} (field : String) (hl : r.lineage id = .ok lineage)
    (hm : level ∈ lineage) (hb : level.isBuiltin = false) (hnone : findClass? level own = none) :
    ((r.setType level field .raw .none).frozen own).nodeIn [] id ≠ .ok node := by
  intro hnode
  have hwithin : r.Within ((r.setType level field .raw .none).frozen own) :=
    Registry.within_of_classes_eq rfl
  have hl' := hwithin.lineage hl
  cases id with
  | builtin b =>
    cases hl
    rw [List.mem_singleton.mp hm] at hb
    cases hb
  | declared number =>
    rw [Registry.nodeIn_idle (Registry.contains_of_lineage hl') List.not_mem_nil] at hnode
    obtain ⟨n, hn⟩ := Registry.exists_levelFrom_of_nodeFrom_eq_ok hnode hl' hm
    cases level with
    | builtin b => cases hb
    | declared m =>
      -- the field is among those that the level is made of
      obtain ⟨d, hd⟩ := Registry.exists_mem_updateField
        (fun d => { d with tag := some .raw, options := .none }) field
        (r.declarations (.declared m))
      have hdeclared : { d with tag := some TypeTag.raw, options := TypeOptions.none } ∈
          ((r.setType (.declared m) field .raw .none).frozen own).declarations (.declared m) := by
        rw [Registry.declarations_frozen_of_none hnone, Registry.setType,
          Registry.declarations_update, if_pos rfl]
        exact hd
      obtain ⟨path, made, hmade⟩ := Registry.exists_fieldNode_of_levelFrom_eq_ok hn hdeclared
      cases hmade

/-- **A request that fails can be noticed exactly if it kept a level.** Then a field that is
declared for the level will be missing from the classes that were built with it. -/
theorem replies_without_failure_iff (r : Registry) (numbers : ClassNumbers) (early : List Command)
    (request : Request) (e : SchemaError)
    (h : ((start r numbers).run early).reply (.ask request) = .answered (.error e)) :
    (∀ later, (((start r numbers).run early).step (.ask request)).replies later
        = ((start r numbers).run early).replies later)
      ↔ (((start r numbers).run early).step (.ask request)).cache.own
        = ((start r numbers).run early).cache.own := by
  have hs := (run_layered (start_layered r numbers) early).1
  constructor
  · intro hsame
    obtain ⟨hstep, hprecedes⟩ := step_layered hs (.ask request)
    rcases hprecedes.cache.own.eq_or_exists with hown | ⟨level, node, hnone, hkept⟩
    · exact hown
    · exfalso
      -- a class was built with the level, which is declared again so that it cannot be built
      obtain ⟨id, lineage, merged, hmerged, hl, hm⟩ := hstep.rooted level node hkept
      have hreplies := hsame [.setType level "" .raw .none, .ask (.node id)]
      rw [replies, replies, replies, replies] at hreplies
      have hreply := (List.cons.inj (List.cons.inj hreplies).2).1
      cases id with
      | builtin b => cases (hstep.merged _ _ hmerged).1
      | declared number =>
        have hbroken := (step_layered hs (.setType level "" .raw .none)).1
        have hagain := (step_layered hstep (.setType level "" .raw .none)).2
        rw [reply_of_merged hagain hmerged] at hreply
        have hbuilt := reply_node_eq_iff.mp hreply.symm
        rw [Cache.Layered.answer_buildNode hbroken] at hbuilt
        exact nodeIn_of_broken "" hl hm (hstep.own _ _ hkept).1 hnone hbuilt
  · exact fun hown => (alike_of_failure hs h hown).replies

/-- Items have a size of no type. -/
def untyped : List Command :=
  [.define "Item" none, .setDetails (.declared 64) "size" { optional := true }]

theorem replies_without_failure_of_untyped :
    ((start {} {}).run untyped).reply (.ask (.node (.declared 64)))
        = .answered (.error (.typeMissing "Item.size"))
      ∧ ∀ later, (((start {} {}).run untyped).step (.ask (.node (.declared 64)))).replies later
        = ((start {} {}).run untyped).replies later :=
  have hfails : ((start {} {}).run untyped).reply (.ask (.node (.declared 64)))
      = .answered (.error (.typeMissing "Item.size")) := by with_unfolding_all rfl
  ⟨hfails, (replies_without_failure_iff {} {} untyped _ _ hfails).mpr (by with_unfolding_all rfl)⟩

/-- Wholes have a part, and a size of no type. -/
def partAndWhole : List Command :=
  [.define "Part" none, .define "Whole" none,
    .setType (.declared 65) "part" .object (.object (some (.declared 64))),
    .setDetails (.declared 65) "size" { optional := true }]

/-- **A request that fails can be noticed**: after that for a whole, a part has not the name that is
declared for it. -/
theorem failure_noticed_of_partAndWhole :
    ((start {} {}).run partAndWhole).reply (.ask (.node (.declared 65)))
        = .answered (.error (.typeMissing "Whole.size"))
      ∧ (((start {} {}).run partAndWhole).step (.ask (.node (.declared 65)))).replies
          [.setType (.declared 64) "name" .string .none, .ask (.node (.declared 64))]
        ≠ ((start {} {}).run partAndWhole).replies
          [.setType (.declared 64) "name" .string .none, .ask (.node (.declared 64))] := by
  have hwith : (((start {} {}).run partAndWhole).step (.ask (.node (.declared 65)))).replies
      [.setType (.declared 64) "name" .string .none, .ask (.node (.declared 64))]
        = [.declared, .answered (.ok (.node (.ofShape [])))] := by with_unfolding_all rfl
  have hwithout : ((start {} {}).run partAndWhole).replies
      [.setType (.declared 64) "name" .string .none, .ask (.node (.declared 64))]
        = [.declared, .answered (.ok (.node (.ofShape [("name", .string)])))] := by
    with_unfolding_all rfl
  refine ⟨by with_unfolding_all rfl, ?_⟩
  rw [hwith, hwithout]
  simp [Node.ofShape, Node.ofKind]

end Session

end DocumentModel

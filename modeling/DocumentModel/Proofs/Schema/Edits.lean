import DocumentModel.Proofs.Schema.Shapes

/-!
# How shapes are made

Shapes are made from the empty one by inserting properties, one by one or all those of another
shape. Where a key stands is decided by the first property that was inserted under it, what it has
by the last. So a shape is given by the row of properties inserted into it, and taking over another
shape is the same as going on with its row (`Shape.extend_ofEdits`): shapes form a monoid, in which
every shape taken twice is the shape itself (`Shape.ordered_and_monoid_of_edits`).
-/

namespace DocumentModel.Shape

variable {α : Type} {key : String} {a b : Shape α}

/-! ## Shapes with the same keys -/

/-- Where every key stands once, the keys in their order and what they have make up the shape. -/
theorem eq_of_keys_eq (h : (keys a).Nodup) (hkeys : keys a = keys b)
    (hget : ∀ key, get? key a = get? key b) : a = b := by
  induction a generalizing b with
  | nil => exact (List.map_eq_nil_iff.mp hkeys.symm).symm
  | cons first rest ih =>
    obtain ⟨k, e⟩ := first
    cases b with
    | nil => cases hkeys
    | cons first' rest' =>
      obtain ⟨k', e'⟩ := first'
      obtain ⟨rfl, hrest⟩ := List.cons.inj hkeys
      change keys rest = keys rest' at hrest
      obtain ⟨hk, hnodup⟩ := List.nodup_cons.mp h
      have he : e = e' := by
        have hfirst := hget k
        rw [get?, get?, if_pos rfl, if_pos rfl] at hfirst
        exact Option.some.inj hfirst
      have htail : ∀ key, get? key rest = get? key rest' := by
        intro key
        by_cases hkey : k = key
        · -- the first key comes up in neither rest
          subst hkey
          rw [get?_eq_none hk, get?_eq_none (hrest ▸ hk)]
        · have hother := hget key
          rwa [get?, get?, if_neg hkey, if_neg hkey] at hother
      rw [he, ih hnodup hrest htail]

/-! ## Properties inserted in a row -/

theorem keys_ofEntries (entries : List (String × α)) :
    keys (ofEntries entries) = (keys entries).eraseDups := by
  have hempty : keys ([] : Shape α) = ([] : List String).eraseDups := rfl
  exact keys_extend hempty

theorem nodup_keys_ofEntries (entries : List (String × α)) : (keys (ofEntries entries)).Nodup := by
  rw [keys_ofEntries]
  exact nodup_eraseDups _

/-- Of properties that are inserted in a row, a key has the last one. -/
theorem get?_extend_of_row (entries : List (String × α)) (shape : Shape α) :
    get? key (extend shape entries) = (entries.reverse.lookup key).or (get? key shape) := by
  induction entries generalizing shape with
  | nil => rfl
  | cons first rest ih =>
    obtain ⟨k, e⟩ := first
    rw [extend_cons, ih, get?_insert, List.reverse_cons, List.lookup_append, Option.or_assoc]
    by_cases hk : k = key
    · simp [hk]
    · simp [hk, List.lookup_cons, beq_false_of_ne (Ne.symm hk)]

theorem get?_ofEntries (entries : List (String × α)) :
    get? key (ofEntries entries) = entries.reverse.lookup key := by
  rw [ofEntries, get?_extend_of_row, get?, Option.or_none]

/-- **Taking over a shape is going on with the properties that made it.** -/
theorem extend_ofEntries (entries others : List (String × α)) :
    extend (ofEntries entries) (ofEntries others) = ofEntries (entries ++ others) := by
  have hkeys : keys (extend (ofEntries entries) (ofEntries others))
      = keys (ofEntries (entries ++ others)) := by
    rw [keys_extend (keys_ofEntries entries), keys_ofEntries, keys_ofEntries,
      eraseDups_append_eraseDups, keys, keys, keys, List.map_append]
  refine (eq_of_keys_eq (nodup_keys_ofEntries _) hkeys.symm fun key => ?_).symm
  rw [get?_extend (nodup_keys_ofEntries others), get?_ofEntries, get?_ofEntries, get?_ofEntries,
    List.reverse_append, List.lookup_append]

/-- Properties inserted a second time change nothing. -/
theorem ofEntries_append_self (entries : List (String × α)) :
    ofEntries (entries ++ entries) = ofEntries entries := by
  have hkeys : keys (ofEntries (entries ++ entries)) = keys (ofEntries entries) := by
    have hagain : (keys entries).removeAll (keys entries) = [] :=
      List.filter_eq_nil_iff.mpr fun key hkey => by simp [hkey]
    rw [keys_ofEntries, keys_ofEntries, keys, List.map_append, List.eraseDups_append, ← keys,
      hagain, List.eraseDups_nil, List.append_nil]
  refine eq_of_keys_eq (nodup_keys_ofEntries _) hkeys fun key => ?_
  rw [get?_ofEntries, get?_ofEntries, List.reverse_append, List.lookup_append, Option.or_self]

/-! ## Edits -/

/-- What is done to a shape: a property is inserted, or all those of another list of properties. -/
inductive Edit (α : Type)
  | insert (key : String) (entry : α)
  | extend (other : Shape α)

/-- The properties that an edit inserts, in order. -/
def Edit.insertions : Edit α → List (String × α)
  | .insert key entry => [(key, entry)]
  | .extend other => other

def edit (shape : Shape α) : Edit α → Shape α
  | .insert key entry => insert key entry shape
  | .extend other => extend shape other

/-- The shape that edits make of the empty one. -/
def ofEdits (edits : List (Edit α)) : Shape α := edits.foldl edit []

/-- The properties that edits insert, oldest first. -/
def insertions (edits : List (Edit α)) : List (String × α) := edits.flatMap Edit.insertions

theorem edit_eq_extend (shape : Shape α) (e : Edit α) :
    edit shape e = extend shape e.insertions := by
  cases e <;> rfl

theorem foldl_edit (edits : List (Edit α)) (shape : Shape α) :
    edits.foldl edit shape = extend shape (insertions edits) := by
  induction edits generalizing shape with
  | nil => rfl
  | cons e rest ih =>
    rw [List.foldl_cons, ih, edit_eq_extend, insertions, insertions, List.flatMap_cons, extend,
      extend, extend, List.foldl_append]

theorem ofEdits_eq_ofEntries (edits : List (Edit α)) :
    ofEdits edits = ofEntries (insertions edits) :=
  foldl_edit edits []

/-- **Taking over a shape is doing the edits that made it.** -/
theorem extend_ofEdits (edits others : List (Edit α)) :
    extend (ofEdits edits) (ofEdits others) = ofEdits (edits ++ others) := by
  rw [ofEdits_eq_ofEntries, ofEdits_eq_ofEntries, ofEdits_eq_ofEntries, extend_ofEntries,
    insertions, insertions, insertions, List.flatMap_append]

theorem extend_ofEdits_self (edits : List (Edit α)) :
    extend (ofEdits edits) (ofEdits edits) = ofEdits edits := by
  rw [ofEdits_eq_ofEntries, extend_ofEntries, ofEntries_append_self]

theorem extend_ofEdits_assoc (as bs cs : List (Edit α)) :
    extend (extend (ofEdits as) (ofEdits bs)) (ofEdits cs)
      = extend (ofEdits as) (extend (ofEdits bs) (ofEdits cs)) := by
  rw [extend_ofEdits, extend_ofEdits, extend_ofEdits, extend_ofEdits, List.append_assoc]

/-- **Shapes are ordered maps, and taking one over is the operation of a monoid.** However a shape
was made, every key stands once, has what was inserted under it last, and stands where it was
inserted first. Shapes that are taken over one after the other may be grouped at will, the empty
shape adds nothing on either side, and a shape taken over again changes nothing, the order of keys
included. -/
theorem ordered_and_monoid_of_edits (as bs cs : List (Edit α)) :
    ((keys (ofEdits as)).Nodup
      ∧ (∀ key, get? key (ofEdits as) = (insertions as).reverse.lookup key)
      ∧ keys (ofEdits as) = ((insertions as).map Prod.fst).eraseDups)
    ∧ extend (extend (ofEdits as) (ofEdits bs)) (ofEdits cs)
        = extend (ofEdits as) (extend (ofEdits bs) (ofEdits cs))
    ∧ extend (ofEdits as) [] = ofEdits as ∧ extend [] (ofEdits as) = ofEdits as
    ∧ extend (extend (ofEdits as) (ofEdits bs)) (ofEdits bs)
        = extend (ofEdits as) (ofEdits bs) := by
  have hmade := ofEdits_eq_ofEntries as
  refine ⟨⟨?nodup, fun key => ?get, ?keys⟩, extend_ofEdits_assoc as bs cs, rfl, ?left, ?again⟩
  case nodup => rw [hmade]; exact nodup_keys_ofEntries _
  case get => rw [hmade, get?_ofEntries]
  case keys => rw [hmade, keys_ofEntries, keys]
  case left => exact extend_ofEdits [] as
  case again => rw [extend_ofEdits_assoc, extend_ofEdits_self]

/-- A property keeps its place when another is inserted under its key. -/
example : ofEdits [.insert "a" 1, .insert "b" 2, .extend [("c", 3), ("a", 4)]]
    = [("a", 4), ("b", 2), ("c", 3)] := by decide

end DocumentModel.Shape

import DocumentModel.Proofs.Json.Order

/-!
# Values with fields left out

`Json.isPruned out v` says that `out` is the value `v` with fields left out of its objects, at any
depth: scalars are equal, arrays have elements that correspond, and every field of an object stands
for one with its key.
-/

namespace DocumentModel

namespace Json

mutual

/-- Whether a value is another one with fields left out. -/
def isPruned : Json → Json → Bool
  | .null, .null => true
  | .bool a, .bool b => a == b
  | .number a, .number b => a == b
  | .string a, .string b => a == b
  | .array outs, .array items => arePruned outs items
  | .object outs, .object fields => fieldsPruned outs fields
  | _, _ => false

def arePruned : List Json → List Json → Bool
  | [], [] => true
  | out :: outs, item :: items => isPruned out item && arePruned outs items
  | _, _ => false

def fieldsPruned : List (String × Json) → List (String × Json) → Bool
  | [], _ => true
  | (key, out) :: outs, fields =>
    (fields.any fun f => f.1 == key && isPruned out f.2) && fieldsPruned outs fields

end

variable {outs items : List Json} {fields left right : List (String × Json)} {v out : Json}

/-- Lists are compared element by element. -/
theorem arePruned_iff : arePruned outs items = true
    ↔ List.Forall₂ (fun item out => isPruned out item = true) items outs := by
  induction outs generalizing items with
  | nil => cases items <;> simp [arePruned]
  | cons out outs ih => cases items <;> simp [arePruned, ih]

/-- Every field that is left stands for one with its key. -/
theorem fieldsPruned_iff {outs : List (String × Json)} : fieldsPruned outs fields = true
    ↔ ∀ f ∈ outs, ∃ v, (f.1, v) ∈ fields ∧ isPruned f.2 v = true := by
  induction outs with
  | nil => simp [fieldsPruned]
  | cons f outs ih =>
    rw [fieldsPruned, Bool.and_eq_true, ih, List.forall_mem_cons, List.any_eq_true]
    refine and_congr_left' ⟨?_, ?_⟩
    · rintro ⟨⟨k, v⟩, hm, h⟩
      rw [Bool.and_eq_true, beq_iff_eq] at h
      exact ⟨v, h.1 ▸ hm, h.2⟩
    · rintro ⟨v, hm, h⟩
      exact ⟨(f.1, v), hm, by rw [h, beq_self_eq_true, Bool.and_true]⟩

mutual

/-- A value is pruned of nothing. -/
theorem isPruned_refl : ∀ v : Json, isPruned v v = true
  | .null => rfl
  | .bool _ | .number _ | .string _ => beq_self_eq_true _
  | .array items => arePruned_refl items
  | .object fields => fieldsPruned_refl fields fields fun _ hf => hf

theorem arePruned_refl : ∀ items : List Json, arePruned items items = true
  | [] => rfl
  | item :: rest => by rw [arePruned, isPruned_refl item, arePruned_refl rest, Bool.and_true]

/-- Fields that were there are pruned of nothing. -/
theorem fieldsPruned_refl : ∀ outs fields : List (String × Json), (∀ f ∈ outs, f ∈ fields) →
    fieldsPruned outs fields = true
  | [], _, _ => rfl
  | (key, out) :: outs, fields, h => by
    obtain ⟨hf, hrest⟩ := List.forall_mem_cons.mp h
    rw [fieldsPruned, fieldsPruned_refl outs fields hrest, Bool.and_true, List.any_eq_true]
    exact ⟨_, hf, by rw [beq_self_eq_true, isPruned_refl out, Bool.and_true]⟩

end

/-- Only an object is pruned to an object. -/
theorem exists_of_object_isPruned {outs : List (String × Json)}
    (h : isPruned (.object outs) v = true) :
    ∃ fields, v = .object fields
      ∧ ∀ f ∈ outs, ∃ w, (f.1, w) ∈ fields ∧ isPruned f.2 w = true := by
  cases v with
  | object fields => exact ⟨fields, rfl, fieldsPruned_iff.mp h⟩
  | _ => simp [isPruned] at h

end Json

end DocumentModel

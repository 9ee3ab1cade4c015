import WasmHost.Proofs.Except
import WasmHost.Wasm.Validation.Subtyping

/-! Tables of defined types: the same for all accepted extensions, with equal types for indices that stand for one another. -/

namespace WasmHost

namespace Wasm

namespace Features

variable {f : Features} {bound : Nat}

/-! ### What is accepted with some extensions is accepted with all -/

theorem checkRef_all {r : RefType} (passed : f.checkRef bound r = .ok ()) : all.checkRef bound r = .ok () := by
  unfold checkRef at passed ⊢
  -- Only an index can be out of bounds, and no feature changes the bound.
  split at passed
  · split at passed
    · rename_i inside
      simp [inside, require, all]
    · cases passed
  · simp [require, all]
  · split <;> rfl
  · rfl
  · rfl
  · rfl

theorem checkVal_all {type : ValType} (passed : f.checkVal bound type = .ok ()) : all.checkVal bound type = .ok () := by
  cases type with
  | ref r => exact checkRef_all passed
  | i32 | i64 | f32 | f64 | v128 => rfl

theorem checkField_all {field : FieldType} (passed : f.checkField bound field = .ok ()) :
    all.checkField bound field = .ok () := by
  unfold checkField at passed ⊢
  split at passed
  · exact checkVal_all passed
  · rfl
  · rfl

theorem checkComposite_all {type : CompositeType} (passed : f.checkComposite bound type = .ok ()) :
    all.checkComposite bound type = .ok () := by
  -- Structures and arrays need a feature of their own, and functions do not.
  cases type with
  | func type =>
    unfold checkComposite at passed ⊢
    simp only [check_bind_eq_ok_iff, forM_eq_ok_iff] at passed ⊢
    exact ⟨fun param member => checkVal_all (passed.1 param member), fun result member => checkVal_all (passed.2 result member)⟩
  | struct fields =>
    unfold checkComposite at passed ⊢
    simp only [check_bind_eq_ok_iff, forM_eq_ok_iff] at passed ⊢
    exact ⟨rfl, fun field member => checkField_all (passed.2 field member)⟩
  | array element =>
    unfold checkComposite at passed ⊢
    simp only [check_bind_eq_ok_iff] at passed ⊢
    exact ⟨rfl, checkField_all passed.2⟩

end Features

namespace TypeTable

variable {f : Features} {t t' : TypeTable} {group : RecGroup}

/-- A group that passes is added, whatever the accepted extensions. -/
theorem addChecked_eq_ok (added : ofGroups.addChecked f t group = .ok t') :
    t' = t.addGroup group.types ∧ ofGroups.addChecked .all t group = .ok t' := by
  unfold ofGroups.addChecked at added ⊢
  simp only [when_bind_eq_ok_iff, check_bind_eq_ok_iff, forM_eq_ok_iff] at added ⊢
  obtain ⟨_, members, supers, done⟩ := added
  cases done
  refine ⟨rfl, fun _ => rfl, fun type member => ⟨fun _ => rfl, ?_⟩, supers, rfl⟩
  exact Features.checkComposite_all (members type member).2

/-- So a module has the same table for all of them. -/
theorem ofGroups_all {groups : List RecGroup} (made : ofGroups f groups = .ok t) : ofGroups .all groups = .ok t := by
  unfold ofGroups at made ⊢
  generalize TypeTable.empty = first at made ⊢
  -- Each group that is accepted is added alike.
  induction groups generalizing first with
  | nil => exact made
  | cons group groups ih =>
    rw [List.foldlM_cons] at made ⊢
    obtain ⟨next, added, rest⟩ := bind_eq_ok made
    exact bind_eq_ok_iff.2 ⟨next, (addChecked_eq_ok added).2, ih next rest⟩

/-! ### Indices that stand for one another -/

/-- Every index stands for an earlier one of the same type. -/
structure Canonical (t : TypeTable) : Prop where
  sizes : t.representatives.size = t.types.size
  same : ∀ index, t.get? (t.representative index) = t.get? index

/-- An index in the table stands for one in the table. -/
theorem Canonical.representative_lt (canonical : t.Canonical) {index : Nat} (inside : index < t.types.size) :
    t.representative index < t.types.size := by
  by_contra past
  have none : t.get? (t.representative index) = none := Array.getElem?_eq_none (by omega)
  rw [canonical.same, get?, Array.getElem?_eq_getElem inside] at none
  cases none

theorem canonical_empty : empty.Canonical where
  sizes := rfl
  same := fun _ => rfl

theorem append_list_eq {α : Type} (all : Array α) (items : List α) : all ++ items = all ++ items.toArray :=
  Array.toList_inj.1 (by simp)

/-- More types can be added if each of the new indices stands for one of the same type. -/
theorem Canonical.extend (canonical : t.Canonical) {types : Array SubType} {indices : Array Nat} {groups : Array (Nat × Nat)}
    (sizes : indices.size = types.size)
    (each : ∀ place index : Nat, indices[place]? = some index → (t.types ++ types)[index]? = types[place]?) :
    Canonical ⟨t.types ++ types, t.representatives ++ indices, groups⟩ := by
  refine ⟨by simp [canonical.sizes, sizes], fun index => ?_⟩
  have known : representative ⟨t.types ++ types, t.representatives ++ indices, groups⟩ index =
      ((t.representatives ++ indices)[index]?).getD index := Array.getD_eq_getD_getElem?
  rw [known]
  show (t.types ++ types)[_]? = (t.types ++ types)[index]?
  by_cases inside : index < t.types.size
  · -- What was there before stays.
    have before : t.representative index = ((t.representatives ++ indices)[index]?).getD index := by
      rw [Array.getElem?_append_left (canonical.sizes ▸ inside), representative, Array.getD_eq_getD_getElem?]
    rw [← before, Array.getElem?_append_left (canonical.representative_lt inside), Array.getElem?_append_left inside]
    exact canonical.same index
  · have past : t.representatives.size ≤ index := canonical.sizes ▸ Nat.le_of_not_lt inside
    rw [Array.getElem?_append_right past, canonical.sizes]
    cases found : indices[index - t.types.size]? with
    | none => rfl
    | some other =>
      rw [Array.getElem?_append_right (Nat.le_of_not_lt inside)]
      exact each _ _ found

/-- A group that repeats an earlier one stands for it, and another one for itself. -/
theorem Canonical.addGroup (canonical : t.Canonical) (group : List SubType) : (t.addGroup group).Canonical := by
  unfold TypeTable.addGroup
  simp only [append_list_eq]
  split
  · -- The types of the earlier group are those of this one, so each of them stands for the type at its place.
    rename_i start length found
    obtain ⟨same, copied⟩ : length = group.length ∧ (t.types.extract start (start + length)).toList = _ := by
      simpa [repeats] using Array.find?_some found
    subst same
    have count : (t.types.extract start (start + group.length)).size = group.length := by
      have lengths := congrArg List.length copied
      rwa [Array.length_toList, List.length_map] at lengths
    refine canonical.extend (by simpa using count.symm) fun place index there => ?_
    obtain ⟨inside, rfl⟩ : place < group.length ∧ t.representative (start + place) = index := by
      simpa [List.getElem?_eq_some_iff] using there
    have earlier : start + place < t.types.size := by
      rw [Array.size_extract] at count
      omega
    rw [Array.getElem?_append_left (canonical.representative_lt earlier)]
    refine (canonical.same (start + place)).trans ?_
    rw [get?, Array.getElem?_extract, if_pos (by omega)]
  · -- The types of a new group stand for themselves.
    refine canonical.extend (by simp) fun place index there => ?_
    obtain ⟨inside, rfl⟩ : place < group.length ∧ t.types.size + place = index := by
      simpa [List.getElem?_eq_some_iff] using there
    rw [Array.getElem?_append_right (Nat.le_add_right _ _), Nat.add_sub_cancel_left]

theorem canonical_of_ofGroups {groups : List RecGroup} (made : ofGroups f groups = .ok t) : t.Canonical := by
  refine holds_foldlM (fun earlier group later canonical added => ?_) canonical_empty made
  obtain ⟨rfl, _⟩ := addChecked_eq_ok added
  exact canonical.addGroup group.types

end TypeTable

end Wasm

end WasmHost

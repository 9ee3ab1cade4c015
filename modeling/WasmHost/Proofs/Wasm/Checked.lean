import Mathlib.Data.List.Nodup
import Mathlib.Data.String.Basic
import WasmHost.Proofs.Except
import WasmHost.Wasm.Parse

/-! What a module that passes the check promises, part by part. -/

namespace WasmHost

namespace Wasm

open Validation

theorem demand_eq_ok_iff {holds : Bool} {why : Invalid} : demand holds why = .ok () ↔ holds = true := by
  cases holds <;> simp [demand]

/-- Sorted names are distinct if those side by side are. -/
theorem nodup_of_adjacent {names : List String} (sorted : names.Pairwise (· ≤ ·))
    (adjacent : ∀ pair ∈ names.zip (names.drop 1), pair.1 ≠ pair.2) : names.Nodup := by
  -- Each name is below the next one, hence below all that follow.
  have rising : names.IsChain (· < ·) := by
    refine List.isChain_iff_getElem.2 fun place inside => ?_
    have member : (names[place], names[place + 1]) ∈ names.zip (names.drop 1) := by
      refine List.mem_iff_getElem.2 ⟨place, by simp; omega, by simp⟩
    have below : names[place] ≤ names[place + 1] := List.pairwise_iff_getElem.1 sorted _ _ _ _ (by omega)
    exact lt_of_le_of_ne below (adjacent _ member)
  exact (List.isChain_iff_pairwise.1 rising).imp fun below => below.ne

/-- Names are distinct exactly if those side by side are once they are sorted. -/
theorem nodup_iff_adjacent (names : List String) :
    (∀ pair ∈ (names.mergeSort fun a b => a ≤ b).zip ((names.mergeSort fun a b => a ≤ b).drop 1), pair.1 ≠ pair.2) ↔
      names.Nodup := by
  -- Sorting keeps the names, and brings equal ones side by side.
  have sorted : (names.mergeSort fun a b => a ≤ b).Pairwise (· ≤ ·) := by
    have pairs := @List.pairwise_mergeSort String (fun a b => decide (a ≤ b))
      (fun a b c first second => by simpa using le_trans (of_decide_eq_true first) (of_decide_eq_true second))
      (fun a b => by simpa using le_total a b) names
    simpa using pairs
  rw [← (List.mergeSort_perm names fun a b => a ≤ b).nodup_iff]
  refine ⟨nodup_of_adjacent sorted, fun distinct pair member => ?_⟩
  obtain ⟨place, inside, rfl⟩ := List.getElem_of_mem member
  simp only [List.length_zip, List.length_drop] at inside
  simpa using List.pairwise_iff_getElem.1 distinct place (place + 1) (by omega) (by omega) (by omega)

theorem checkExports_eq_ok_iff {s : Scope} {exports : List Export} :
    checkExports s exports = .ok () ↔
      (∀ e ∈ exports, checkExport s e = .ok ()) ∧ (exports.map (·.name)).Nodup := by
  unfold checkExports
  rw [check_bind_eq_ok_iff, forM_eq_ok_iff, ← nodup_iff_adjacent, forM_eq_ok_iff]
  simp only [demand_eq_ok_iff, decide_eq_true_eq]

/-- An export that passes names what exists. -/
theorem index_lt_of_checkExport {s : Scope} {e : Export} (passed : checkExport s e = .ok ()) :
    e.index < countOf s e.kind := by
  unfold checkExport at passed
  split at passed
  · obtain ⟨_, _, rest⟩ := bind_eq_ok passed
    simpa using demand_eq_ok_iff.1 rest
  · simpa using demand_eq_ok_iff.1 passed

/-- The parts of a check, with the types that they refer to. -/
structure Module.Checked (f : Features) (types : TypeTable) (m : Module) : Prop where
  grouped : TypeTable.ofGroups f m.types = .ok types
  imports : ∀ i ∈ m.imports, checkImport f types i.type = .ok ()
  functions : ∀ index ∈ m.functions, checkFunction types index = .ok ()
  memories : ∀ memory ∈ m.memories, checkMemory f memory = .ok ()
  tags : ∀ tag ∈ m.tags, checkTag f types tag = .ok ()
  tables : ∀ table ∈ m.tables, checkTableDef (scope f types m) table = .ok ()
  globals : ∀ g ∈ m.globals.zipIdx, checkGlobalDef (scope f types m) g.1 g.2 = .ok ()
  exports : ∀ e ∈ m.exports, checkExport (scope f types m) e = .ok ()
  distinct : (m.exports.map (·.name)).Nodup
  start : ∀ index, m.start = some index → checkStart (scope f types m) index = .ok ()
  elements : ∀ segment ∈ m.elements, checkElements (scope f types m) segment = .ok ()
  bodies : m.functions.length = m.code.length
  dataCount : m.dataCount.all (· = m.data.length)
  code : ∀ body ∈ m.functions.zip m.code, checkBody (scope f types m) body.1 body.2 = .ok ()
  data : ∀ segment ∈ m.data, checkData (scope f types m) segment = .ok ()

/-- A module passes the check exactly if each part does. -/
theorem Module.check_eq_ok_iff {f : Features} {m : Module} : m.check f = .ok () ↔ ∃ types, Checked f types m := by
  -- The types come first, because everything else is checked against them.
  have apart : m.check f = .ok () ↔ ∃ types, TypeTable.ofGroups f m.types = .ok types ∧ (do
      m.imports.forM fun i => checkImport f types i.type
      m.functions.forM (checkFunction types)
      m.memories.forM (checkMemory f)
      m.tags.forM (checkTag f types)
      m.tables.forM (checkTableDef (scope f types m))
      m.globals.zipIdx.forM fun g => checkGlobalDef (scope f types m) g.1 g.2
      checkExports (scope f types m) m.exports
      m.start.forM (checkStart (scope f types m))
      m.elements.forM (checkElements (scope f types m))
      demand (m.functions.length = m.code.length) (.inconsistent "function and code section")
      demand (m.dataCount.all (· = m.data.length)) (.inconsistent "data count and data section")
      (m.functions.zip m.code).forM fun body => checkBody (scope f types m) body.1 body.2
      m.data.forM (checkData (scope f types m))) = .ok () := bind_eq_ok_iff
  rw [apart]
  refine exists_congr fun types => ?_
  simp only [check_bind_eq_ok_iff, forM_eq_ok_iff, option_forM_eq_ok_iff, checkExports_eq_ok_iff, demand_eq_ok_iff,
    decide_eq_true_eq]
  constructor
  · rintro ⟨grouped, imports, functions, memories, tags, tables, globals, ⟨exports, distinct⟩, start, elements, bodies,
      dataCount, code, data⟩
    exact ⟨grouped, imports, functions, memories, tags, tables, globals, exports, distinct, start, elements, bodies,
      dataCount, code, data⟩
  · intro checked
    exact ⟨checked.grouped, checked.imports, checked.functions, checked.memories, checked.tags, checked.tables,
      checked.globals, ⟨checked.exports, checked.distinct⟩, checked.start, checked.elements, checked.bodies,
      checked.dataCount, checked.code, checked.data⟩

/-- Whether a module passes can be computed part by part for any given module, with nothing to be sorted. -/
instance (f : Features) (m : Module) : Decidable (∃ types, m.Checked f types) :=
  match grouped : TypeTable.ofGroups f m.types with
  | .error _ => isFalse fun ⟨_, checked⟩ => by
    rw [checked.grouped] at grouped
    cases grouped
  | .ok types =>
    decidable_of_iff
      ((∀ i ∈ m.imports, checkImport f types i.type = .ok ()) ∧ (∀ index ∈ m.functions, checkFunction types index = .ok ()) ∧
        (∀ memory ∈ m.memories, checkMemory f memory = .ok ()) ∧ (∀ tag ∈ m.tags, checkTag f types tag = .ok ()) ∧
        (∀ table ∈ m.tables, checkTableDef (scope f types m) table = .ok ()) ∧
        (∀ g ∈ m.globals.zipIdx, checkGlobalDef (scope f types m) g.1 g.2 = .ok ()) ∧
        (∀ e ∈ m.exports, checkExport (scope f types m) e = .ok ()) ∧ (m.exports.map (·.name)).Nodup ∧
        (∀ index ∈ m.start, checkStart (scope f types m) index = .ok ()) ∧
        (∀ segment ∈ m.elements, checkElements (scope f types m) segment = .ok ()) ∧
        m.functions.length = m.code.length ∧ m.dataCount.all (· = m.data.length) ∧
        (∀ body ∈ m.functions.zip m.code, checkBody (scope f types m) body.1 body.2 = .ok ()) ∧
        ∀ segment ∈ m.data, checkData (scope f types m) segment = .ok ())
      ⟨fun ⟨imports, functions, memories, tags, tables, globals, exports, distinct, start, elements, bodies, dataCount,
          code, data⟩ =>
        ⟨types, grouped, imports, functions, memories, tags, tables, globals, exports, distinct, start, elements, bodies,
          dataCount, code, data⟩,
      fun ⟨types', checked⟩ => by
        cases grouped.symm.trans checked.grouped
        exact ⟨checked.imports, checked.functions, checked.memories, checked.tags, checked.tables, checked.globals,
          checked.exports, checked.distinct, checked.start, checked.elements, checked.bodies, checked.dataCount,
          checked.code, checked.data⟩⟩

/-- Bytes are parsed if they start with a header, have sections that can be read, and these stand for a valid module. -/
theorem Module.parse_eq_ok_iff {f : Features} {bytes : ByteArray} {m : Module} :
    parse f bytes = .ok m ↔ checkHeader bytes = .ok () ∧ ofSections bytes = .ok m ∧ m.check f = .ok () := by
  unfold parse
  rw [check_bind_eq_ok_iff, bind_eq_ok_iff]
  refine and_congr_right fun _ => ⟨?_, ?_⟩
  · -- The checks come one after another, and only the errors of the last ones are given another form.
    rintro ⟨code, read, rest⟩
    obtain ⟨checked, same⟩ := check_bind_eq_ok_iff.1 rest
    cases same
    exact ⟨mapError_eq_ok read, mapError_eq_ok checked⟩
  · rintro ⟨read, checked⟩
    exact ⟨m, by rw [read]; rfl, check_bind_eq_ok_iff.2 ⟨by rw [checked]; rfl, rfl⟩⟩

end Wasm

end WasmHost

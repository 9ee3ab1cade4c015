import Mathlib.Data.List.Induction
import Mathlib.Data.List.Nodup
import WasmHost.Proofs.Registry.Tables

/-! Rosters: maps that keep the order in which their names came in, and catalogs as such maps. -/

namespace WasmHost

/-- Contexts in the order of their names; no two of them share a name. -/
abbrev Roster := List Context

namespace Roster

/-- The names in order. -/
def names (l : Roster) : List String := l.map Context.name

/-- The context of a name. -/
def get? (l : Roster) (name : String) : Option Context := l.find? (·.name = name)

/-- Puts a context in: in the place of the one that has its name, or at the end if there is none. -/
def put (l : Roster) (c : Context) : Roster :=
  if c.name ∈ l.names then l.map fun d => if d.name = c.name then c else d else l ++ [c]

/-- Takes a name out. -/
def drop (l : Roster) (name : String) : Roster := l.filter (·.name ≠ name)

/-- Contexts that are put in one after the other. -/
def ofList (contexts : List Context) : Roster := contexts.foldl put []

/-- Names that are there keep their places, and a new one comes last. -/
theorem names_put (l : Roster) (c : Context) :
    (l.put c).names = if c.name ∈ l.names then l.names else l.names ++ [c.name] := by
  unfold put
  split
  · -- A context is only replaced by one of the same name.
    rw [names, names, List.map_map]
    refine List.map_congr_left fun d _ => ?_
    by_cases same : d.name = c.name <;> simp [same]
  · simp [names]

theorem names_drop (l : Roster) (name : String) : (l.drop name).names = l.names.filter (· ≠ name) := by
  rw [names, names, List.filter_map, drop]
  rfl

/-! ### Lookups -/

theorem get?_cons (d : Context) (l : Roster) (name : String) :
    get? (d :: l) name = if d.name = name then some d else get? l name := by
  rw [get?, List.find?_cons]
  by_cases same : d.name = name <;> simp [same, get?]

theorem get?_append (l : Roster) (c : Context) (name : String) :
    get? (l ++ [c]) name = (get? l name).or (if c.name = name then some c else none) := by
  rw [get?, List.find?_append]
  by_cases same : c.name = name <;> simp [same, get?]

theorem get?_eq_none {l : Roster} {name : String} : l.get? name = none ↔ name ∉ l.names := by
  simp [get?, names, List.find?_eq_none]

theorem get?_replaced (l : Roster) (c : Context) (name : String) :
    get? (l.map fun d => if d.name = c.name then c else d) name =
      if name = c.name then (if name ∈ l.names then some c else none) else l.get? name := by
  induction l with
  | nil => simp [get?, names]
  | cons d l ih =>
    rw [List.map_cons, get?_cons, get?_cons, ih]
    -- It matters whether this context is replaced, and whether the name is the one that is replaced.
    by_cases taken : d.name = c.name <;> by_cases wanted : name = c.name
    · simp [taken, wanted, names]
    · simp [taken, wanted, Ne.symm wanted]
    · simp [taken, wanted, names, Ne.symm taken]
    · simp [taken, wanted]

/-- The other names keep their contexts when one is put in. -/
theorem get?_put (l : Roster) (c : Context) (name : String) :
    (l.put c).get? name = if name = c.name then some c else l.get? name := by
  unfold put
  split
  · -- All names that are looked for are there already.
    rename_i present
    rw [get?_replaced]
    by_cases wanted : name = c.name <;> simp [wanted, present]
  · -- Only the new name leads to the end of the list.
    rename_i absent
    rw [get?_append]
    by_cases wanted : name = c.name
    · simp [wanted, get?_eq_none.mpr absent]
    · simp [wanted, Ne.symm wanted]

theorem get?_drop (l : Roster) (name other : String) :
    (l.drop name).get? other = if other = name then none else l.get? other := by
  rw [get?, get?, drop, List.find?_filter]
  -- The name itself is gone, and no other is.
  by_cases same : other = name
  · simp [same]
  · rw [if_neg same]
    congr 1
    funext d
    by_cases wanted : d.name = other <;> simp [wanted, same]

/-- Names stand where they came in first. -/
theorem names_ofList (contexts : List Context) : (ofList contexts).names = (contexts.map Context.name).eraseDups := by
  -- The induction follows the order in which the contexts are put in.
  induction contexts using List.reverseRecOn with
  | nil => rfl
  | append_singleton earlier c ih =>
    have last : ofList (earlier ++ [c]) = (ofList earlier).put c := by simp [ofList]
    -- A name that came in before is not listed again.
    have rest : [c.name].removeAll (earlier.map Context.name) =
        if c.name ∈ earlier.map Context.name then [] else [c.name] := by
      rw [List.removeAll, List.filter_cons]
      by_cases known : c.name ∈ earlier.map Context.name <;> simp only [List.elem_eq_mem, known] <;> rfl
    rw [last, names_put, ih, List.map_append, List.map_singleton, List.eraseDups_append, rest]
    by_cases known : c.name ∈ earlier.map Context.name <;> simp [known, List.eraseDups_cons]

end Roster

namespace Catalog

/-- The names and the table of a catalog belong together. -/
structure Valid (c : Catalog) : Prop where
  /-- No name is listed twice. -/
  distinct : c.order.Nodup
  /-- The table has no two entries for a name. -/
  single : (c.table.map (·.1)).Nodup
  /-- The table has entries for the listed names, and for no others. -/
  keys : ∀ name, name ∈ c.order ↔ name ∈ c.table.map (·.1)
  /-- Every context stands under its own name. -/
  named : ∀ name d, c.get? name = some d → d.name = name

theorem order_insert (c : Catalog) (d : Context) :
    (c.insert d).order = if c.contains d.name then c.order else c.order ++ [d.name] := rfl

theorem order_erase (c : Catalog) (name : String) : (c.erase name).order = c.order.filter (· ≠ name) := rfl

theorem contains_iff_mem_keys (c : Catalog) (name : String) :
    c.contains name ↔ name ∈ c.table.map (·.1) := by
  -- A lookup fails on exactly those keys that differ from all keys of the table.
  rw [contains, get?, ← not_iff_not, Bool.not_eq_true, Option.isSome_eq_false_iff, Option.isNone_iff_eq_none,
    List.lookup_eq_none_iff, List.mem_map]
  simp only [not_exists, not_and, bne_iff_ne, ne_eq]
  exact ⟨fun other entry member same => other entry member same.symm, fun other entry member same => other entry member same.symm⟩

namespace Valid

variable {c : Catalog}

theorem empty : Catalog.empty.Valid :=
  ⟨List.nodup_nil, List.nodup_nil, fun _ => Iff.rfl, fun name d found => by simp at found⟩

theorem mem_order (valid : c.Valid) (name : String) : name ∈ c.order ↔ c.contains name :=
  (valid.keys name).trans (c.contains_iff_mem_keys name).symm

theorem insert (valid : c.Valid) (d : Context) : (c.insert d).Valid where
  distinct := by
    rw [order_insert]
    split
    · -- The name is listed already.
      exact valid.distinct
    · -- A name that is not there yet is not listed either.
      rename_i absent
      refine List.nodup_append.mpr ⟨valid.distinct, List.nodup_singleton _, fun name member other last same => ?_⟩
      rw [List.mem_singleton] at last
      rw [same, last, valid.mem_order] at member
      exact absent member
  single := by
    rw [Catalog.insert, List.map_cons, List.nodup_cons]
    refine ⟨fun member => ?_, valid.single.sublist (List.filter_sublist.map _)⟩
    -- The entries of the name were taken out.
    obtain ⟨entry, kept, same⟩ := List.mem_map.mp member
    simpa [same] using (List.mem_filter.mp kept).2
  keys name := by
    rw [← contains_iff_mem_keys, contains, get?_insert, order_insert]
    by_cases same : name = d.name
    · -- The new name is listed either way, and has an entry.
      subst same
      by_cases present : c.contains d.name
      · simpa [present] using (valid.mem_order _).mpr present
      · simp [present]
    · -- All other names are as they were.
      have listed := valid.mem_order name
      rw [contains] at listed
      by_cases present : c.contains d.name <;> simp [present, same, listed]
  named name e found := by
    rw [get?_insert] at found
    split at found
    · rename_i same
      cases found
      exact same.symm
    · exact valid.named name e found

theorem erase (valid : c.Valid) (removed : String) : (c.erase removed).Valid where
  distinct := valid.distinct.sublist List.filter_sublist
  single := valid.single.sublist (List.filter_sublist.map _)
  -- What is left in order is what is left in the table.
  keys name := by
    rw [← contains_iff_mem_keys, contains, get?_erase, order_erase, List.mem_filter, valid.mem_order, contains]
    by_cases same : name = removed <;> simp [same]
  named name e found := by
    rw [get?_erase] at found
    split at found
    · cases found
    · exact valid.named name e found

/-- A listed name has a context, which has this name. -/
theorem exists_context (valid : c.Valid) {name : String} (listed : name ∈ c.order) :
    ∃ d, c.get? name = some d ∧ d.name = name := by
  obtain ⟨d, found⟩ := Option.isSome_iff_exists.mp ((valid.mem_order name).mp listed)
  exact ⟨d, found, valid.named name d found⟩

/-! ### The contexts in order -/

/-- Nothing is lost on the way from the names to their contexts. -/
theorem names_toList (valid : c.Valid) : Roster.names c.toList = c.order := by
  -- Every listed name has a context, so that none is filtered out.
  have all : c.order.filterMap (fun name => (c.get? name).map Context.name) = c.order.filterMap some := by
    refine List.filterMap_congr fun name listed => ?_
    obtain ⟨d, found, named⟩ := valid.exists_context listed
    rw [found, Option.map_some, named]
  rw [Roster.names, toList, List.map_filterMap, all, List.filterMap_some]

theorem mem_toList (valid : c.Valid) (d : Context) : d ∈ c.toList ↔ c.get? d.name = some d := by
  rw [toList, List.mem_filterMap]
  constructor
  · -- Whatever is found under a name has this name.
    rintro ⟨name, _, found⟩
    rwa [valid.named name d found]
  · intro found
    exact ⟨d.name, (valid.mem_order _).mpr (by simp [contains, found]), found⟩

theorem nodup_toList (valid : c.Valid) : c.toList.Nodup := by
  -- Their names are distinct.
  have distinct : (Roster.names c.toList).Nodup := by
    rw [valid.names_toList]
    exact valid.distinct
  exact List.Nodup.of_map Context.name distinct

/-- Looking a name up is looking for it in order. -/
theorem get?_toList (valid : c.Valid) (name : String) : Roster.get? c.toList name = c.get? name := by
  cases found : c.get? name with
  | none =>
    refine List.find?_eq_none.mpr fun d member same => ?_
    -- Whoever is in the list is found under its name.
    rw [valid.mem_toList, of_decide_eq_true same, found] at member
    cases member
  | some d =>
    -- The list has a context of this name, and the first such one is the one in the table.
    have same : d.name = name := valid.named name d found
    have member : d ∈ c.toList := (valid.mem_toList d).mpr (same ▸ found)
    have some : (Roster.get? c.toList name).isSome := List.find?_isSome.mpr ⟨d, member, by simpa using same⟩
    obtain ⟨e, first⟩ := Option.isSome_iff_exists.mp some
    have inside := (valid.mem_toList e).mp (List.mem_of_find?_eq_some first)
    have named : e.name = name := by simpa using List.find?_some first
    rw [named, found] at inside
    rw [first, inside]

/-- Registering a context puts it in. -/
theorem toList_insert (valid : c.Valid) (d : Context) : (c.insert d).toList = Roster.put c.toList d := by
  -- In the old places, the new context stands for the one of its name.
  have moved : c.order.filterMap (c.insert d).get? =
      c.toList.map fun e => if e.name = d.name then d else e := by
    rw [toList, List.map_filterMap]
    refine List.filterMap_congr fun name listed => ?_
    obtain ⟨e, found, rfl⟩ := valid.exists_context listed
    rw [get?_insert, found, Option.map_some]
    by_cases same : e.name = d.name <;> simp [same]
  rw [Roster.put, valid.names_toList, toList, order_insert]
  by_cases present : c.contains d.name
  · rw [if_pos present, if_pos ((valid.mem_order _).mpr present)]
    exact moved
  · have absent : d.name ∉ c.order := fun listed => present ((valid.mem_order _).mp listed)
    rw [if_neg present, if_neg absent, List.filterMap_append]
    have last : [d.name].filterMap (c.insert d).get? = [d] := by simp
    have others : c.order.filterMap (c.insert d).get? = c.order.filterMap c.get? := by
      -- The new context is none of those that were there.
      refine List.filterMap_congr fun name listed => ?_
      rw [get?_insert, if_neg]
      rintro rfl
      exact absent listed
    rw [others, last, ← toList]

/-- Removing a name takes it out. -/
theorem toList_erase (valid : c.Valid) (name : String) : (c.erase name).toList = Roster.drop c.toList name := by
  -- Both sides go through the old names and look each of them up.
  rw [toList, toList, Roster.drop, List.filter_filterMap, order_erase, List.filterMap_filter]
  refine List.filterMap_congr fun other listed => ?_
  obtain ⟨e, found, rfl⟩ := valid.exists_context listed
  rw [get?_erase, found]
  by_cases same : e.name = name <;> simp [same, Option.filter]

end Valid

end Catalog

end WasmHost

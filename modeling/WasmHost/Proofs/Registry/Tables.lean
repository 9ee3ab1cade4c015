import WasmHost.Registry.Basic

/-! Tables by name: what artifacts and catalogs hold after entries were put in or taken out. -/

namespace WasmHost

/-- A lookup finds the first entry if that has the key, and looks further if not. -/
theorem lookup_cons_ite {κ α : Type} [BEq κ] [LawfulBEq κ] [DecidableEq κ] (table : List (κ × α))
    (key other : κ) (value : α) :
    ((key, value) :: table).lookup other = if other = key then some value else table.lookup other := by
  -- The comparison of keys is the one of the table, and agrees with equality.
  by_cases same : other = key
  · simp [same]
  · rw [List.lookup_cons, beq_eq_false_iff_ne.mpr same, if_neg same]

/-- Taking a name out of a table leaves the entries of all other names. -/
theorem lookup_filter_ne {α : Type} (table : List (String × α)) (name other : String) :
    (table.filter (·.1 ≠ name)).lookup other = if other = name then none else table.lookup other := by
  -- Only the entries of the name itself are dropped.
  induction table with
  | nil => simp
  | cons entry table ih =>
    obtain ⟨key, value⟩ := entry
    by_cases dropped : key = name
    · rw [List.filter_cons_of_neg (by simpa using dropped), ih, lookup_cons_ite, dropped]
      by_cases same : other = name <;> simp [same]
    · rw [List.filter_cons_of_pos (by simpa using dropped), lookup_cons_ite, lookup_cons_ite, ih]
      by_cases same : other = name
      · simp [same, Ne.symm dropped]
      · simp [same]

/-- Putting an entry in the place of all others of its name leaves the other names as they are. -/
theorem lookup_replaced {α : Type} (table : List (String × α)) (name other : String) (value : α) :
    ((name, value) :: table.filter (·.1 ≠ name)).lookup other =
      if other = name then some value else table.lookup other := by
  -- The entries that are dropped are those that the new one would hide.
  rw [lookup_cons_ite, lookup_filter_ne]
  by_cases same : other = name <;> simp [same]

/-- A table has an entry for each of its keys, wherever it stands. -/
theorem isSome_lookup_reverse {α : Type} (table : List (String × α)) (name : String) :
    (table.reverse.lookup name).isSome ↔ name ∈ table.map (·.1) := by
  rw [List.lookup_isSome_iff, List.mem_map]
  exact exists_congr fun entry => and_congr List.mem_reverse (by rw [beq_iff_eq, eq_comm])

namespace Artifacts

@[simp] theorem get?_erase (a : Artifacts) (name other : String) :
    (a.erase name).get? other = if other = name then none else a.get? other :=
  lookup_filter_ne a.table name other

@[simp] theorem get?_insert (a : Artifacts) (name other : String) (artifact : Artifact) :
    (a.insert name artifact).get? other = if other = name then some artifact else a.get? other :=
  lookup_replaced a.table name other artifact

/-- After files were registered, each name has the last file that came with it, or else what it had before. -/
theorem get?_insertFiles (a : Artifacts) (files : List (String × Path)) (name : String) :
    (a.insertFiles files).get? name = ((files.reverse.lookup name).map .file).or (a.get? name) := by
  -- Each file takes the place of what was there, and the later ones that of it.
  unfold insertFiles
  induction files generalizing a with
  | nil => simp
  | cons file files ih =>
    rw [List.foldl_cons, ih, get?_insert, List.reverse_cons, List.lookup_append, lookup_cons_ite]
    cases files.reverse.lookup name <;> by_cases same : name = file.1 <;> simp [same]

/-- After names were taken out, the others have what they had. -/
theorem get?_foldl_erase (a : Artifacts) (names : List String) (name : String) :
    (names.foldl erase a).get? name = if name ∈ names then none else a.get? name := by
  -- Each name is taken out of what the earlier ones left.
  induction names generalizing a with
  | nil => simp
  | cons first names ih =>
    rw [List.foldl_cons, ih, get?_erase]
    by_cases later : name ∈ names <;> by_cases same : name = first <;> simp [later, same]

/-- After files were registered, the names are theirs and the ones that were there before. -/
theorem contains_insertFiles (a : Artifacts) (files : List (String × Path)) (name : String) :
    (a.insertFiles files).contains name ↔ name ∈ files.map (·.1) ∨ a.contains name := by
  rw [contains, get?_insertFiles, Option.isSome_or, Option.isSome_map, Bool.or_eq_true, isSome_lookup_reverse, contains]

/-- An artifact is there if it is supplied, or if it was there and is not taken out. -/
theorem contains_of_get? {a before : Artifacts} {name : String} {path : Option Path} {out : Prop} [Decidable out]
    (same : a.get? name = (path.map .file).or (if out then none else before.get? name)) :
    a.contains name ↔ path.isSome ∨ ¬ out ∧ before.contains name := by
  rw [contains, same, Option.isSome_or, Option.isSome_map, Bool.or_eq_true]
  by_cases gone : out <;> simp [gone, contains]

end Artifacts

namespace Catalog

@[simp] theorem get?_empty (name : String) : empty.get? name = none := rfl

@[simp] theorem get?_erase (c : Catalog) (name other : String) :
    (c.erase name).get? other = if other = name then none else c.get? other :=
  lookup_filter_ne c.table name other

@[simp] theorem get?_insert (c : Catalog) (context : Context) (name : String) :
    (c.insert context).get? name = if name = context.name then some context else c.get? name :=
  lookup_replaced c.table context.name name context

end Catalog

theorem Registry.get?_insert (r : Registry) (context : Context) (name : String) :
    Registry.get? { r with catalog := r.catalog.insert context } name =
      if name = context.name then some context else r.get? name :=
  r.catalog.get?_insert context name

end WasmHost

import WasmHost.Proofs.Registry.Failure
import WasmHost.Proofs.Registry.Tidy

/-! Order: a registry behaves as a map that keeps the order in which its names came in, whatever is asked of it. -/

namespace WasmHost

namespace Roster

/-- One roster is another one with a context put in: if its name is there, it takes that place, and only that name
changes; if not, it comes last. -/
structure Puts (c : Context) (l later : Roster) : Prop where
  put : later = l.put c
  kept : c.name ∈ l.names → later.names = l.names
  added : c.name ∉ l.names → later.names = l.names ++ [c.name]
  contexts : ∀ name, later.get? name = if name = c.name then some c else l.get? name

theorem puts (l : Roster) (c : Context) : Puts c l (l.put c) :=
  ⟨rfl, fun present => by rw [names_put, if_pos present], fun absent => by rw [names_put, if_neg absent], l.get?_put c⟩

/-- One roster is another one with a name taken out: the others keep their order and their contexts. -/
structure Drops (name : String) (l later : Roster) : Prop where
  drop : later = l.drop name
  names : later.names = l.names.filter (· ≠ name)
  contexts : ∀ other, later.get? other = if other = name then none else l.get? other

theorem drops (l : Roster) (name : String) : Drops name l (l.drop name) :=
  ⟨rfl, l.names_drop name, l.get?_drop name⟩

end Roster

namespace Registry

/-- A registry shows a roster, in every way in which contexts and names can be asked for. -/
structure Lists (r : Registry) (l : Roster) : Prop where
  /-- The contexts come in the order of the roster. -/
  contexts : r.catalog.toList = l
  /-- Each of them comes once. -/
  once : l.Nodup
  /-- The names come in this order, too. -/
  names : r.catalog.names = l.names
  /-- No name comes twice. -/
  distinct : l.names.Nodup
  /-- The table has entries for these names and for no others. -/
  keys : ∀ name, name ∈ l.names ↔ name ∈ r.catalog.table.map (·.1)
  /-- It has one entry for each name. -/
  single : (r.catalog.table.map (·.1)).Nodup
  /-- Every context is registered under its own name. -/
  named : ∀ name c, r.get? name = some c → c.name = name
  /-- Names are looked up in the roster. -/
  found : ∀ name, r.get? name = l.get? name
  /-- The number of contexts is the one of the roster. -/
  size : r.catalog.size = l.length

theorem lists_of_valid {r : Registry} (valid : r.catalog.Valid) : Lists r r.catalog.toList where
  contexts := rfl
  once := valid.nodup_toList
  names := valid.names_toList.symm
  distinct := valid.names_toList.symm ▸ valid.distinct
  keys name := by rw [valid.names_toList, valid.keys]
  single := valid.single
  named := valid.named
  found name := (valid.get?_toList name).symm
  size := by
    have length := congrArg List.length valid.names_toList
    rwa [Roster.names, List.length_map, eq_comm] at length

/-- What a request does to the roster, with what the client gets. -/
def Request.Effect (l : Roster) (outcome : Except HostError Answer) (later : Roster) : Request → Prop
  | .add c => outcome = .ok .done ∧ Roster.Puts c l later
  | .replace c =>
    match l.get? c.name with
    | some previous => outcome = .ok (.context previous) ∧ Roster.Puts c l later
    | none => outcome = .error (.moduleNotFound c.name) ∧ later = l
  | .remove name => outcome = .ok (.removed (l.get? name)) ∧ Roster.Drops name l later
  | .upload name _ _ =>
    (∃ c, outcome = .ok (.context c) ∧ c.name = name ∧ Roster.Puts c l later) ∨ (∃ why, outcome = .error why) ∧ later = l
  | .reload _ name =>
    (outcome = .ok (.changed true) ∧ ∃ c, c.name = name ∧ name ∈ l.names ∧ Roster.Puts c l later) ∨
      (outcome = .ok (.changed false) ∨ ∃ why, outcome = .error why) ∧ later = l
  | .init _ _ =>
    (∃ report contexts, outcome = .ok (.report report) ∧ contexts.map Context.name = report.loaded ∧
      later = Roster.ofList contexts ∧ later.names = report.loaded.eraseDups) ∨ (∃ why, outcome = .error why) ∧ later = l
  | .make .. | .resolve .. | .call .. | .addArtifact .. | .removeArtifact _ => later = l

section Effect

variable {r after : Registry}

theorem puts_of_insert (valid : r.catalog.Valid) (c : Context) :
    Roster.Puts c r.catalog.toList (r.catalog.insert c).toList := by
  rw [valid.toList_insert]
  exact Roster.puts _ c

/-- An upload that succeeds puts in the context that it made. -/
theorem registerDynamic_eq_ok {name : String} {bytes : ByteArray} {mode : Option ExecutionMode} {c : Context}
    (succeeded : (registerDynamic name bytes mode).on r = (.ok c, after)) :
    c.name = name ∧ after.catalog = r.catalog.insert c := by
  obtain ⟨inherited, first, looked, done⟩ := Operation.on_bind_eq_ok succeeded
  obtain ⟨made, second, prepared, done⟩ := Operation.on_bind_eq_ok done
  obtain ⟨_, third, inserted, done⟩ := Operation.on_bind_eq_ok done
  cases done
  -- The first two steps leave the catalog alone.
  have quiet : Within .quiet r first := (inheritedIntent_keeps name).of_on looked
  have still : Within .quiet first second := (contextOfUpload_within _ _ _).of_on prepared
  refine ⟨contextOfUpload_name _ _ _ _ _ _ prepared, ?_⟩
  rw [insertUpload_on] at inserted
  split at inserted
  · cases inserted
  · cases inserted
    rw [still.catalog rfl, quiet.catalog rfl]

/-- A reload that changes something puts in a context of a name that is registered. -/
theorem refresh_eq_true {files : Files} {name : String} (succeeded : (refresh files name).on r = (.ok true, after)) :
    ∃ c, c.name = name ∧ (r.get? name).isSome ∧ after.catalog = r.catalog.insert c := by
  obtain ⟨found, first, looked, done⟩ := Operation.on_bind_eq_ok succeeded
  cases found with
  | none => cases done
  | some m =>
    -- The new module has the name and the place of the old one.
    obtain ⟨rfl, _, old, _, _, _, registered, _, _, _, checked⟩ := reread_eq_some looked
    obtain ⟨c, second, made, registration⟩ := Operation.on_bind_eq_ok done
    have still : Within .quiet first second := (createContext_within m).of_on made
    rw [createContext_on] at made
    obtain ⟨_, rfl, _, _⟩ := contextWith_eq_ok made
    cases registration
    refine ⟨c, ?_, by simp [registered], ?_⟩
    · rw [Context.name, HostedModule.eq_of_checkInterpreted checked]
    · rw [← still.catalog rfl]

theorem refresh_eq_false {files : Files} {name : String} (succeeded : (refresh files name).on r = (.ok false, after)) :
    after.catalog = r.catalog := by
  obtain ⟨found, first, looked, done⟩ := Operation.on_bind_eq_ok succeeded
  have quiet : Within .quiet r first := (reread_keeps files name).of_on looked
  cases found with
  | none =>
    -- Nothing was found to be new, and looking is all that was done.
    cases done
    exact quiet.catalog rfl
  | some m =>
    -- Whatever is registered anew is told.
    obtain ⟨c, second, _, registration⟩ := Operation.on_bind_eq_ok done
    cases registration

/-- Every request does to the roster what it promises to the client. -/
theorem Request.perform_effect (valid : r.catalog.Valid) (q : Request) :
    q.Effect r.catalog.toList (q.perform.on r).1 (q.perform.on r).2.catalog.toList := by
  cases q with
  | add c => exact ⟨rfl, puts_of_insert valid c⟩
  | replace c =>
    -- Whether there is something to replace is the same question to the roster.
    simp only [Effect, perform, Operation.on_map, replace_on, valid.get?_toList]
    cases found : r.catalog.get? c.name with
    | none =>
      rw [get?, found]
      exact ⟨rfl, rfl⟩
    | some previous =>
      rw [get?, found]
      exact ⟨rfl, puts_of_insert valid c⟩
  | remove name =>
    refine ⟨?_, ?_⟩
    · rw [valid.get?_toList]
      rfl
    · have erased := valid.toList_erase name
      exact erased ▸ Roster.drops _ name
  | upload name bytes mode =>
    simp only [Effect, perform, Operation.on_map]
    rcases done : (registerDynamic name bytes mode).on r with ⟨why | c, after⟩
    · -- What was made before a failure is not registered.
      have same := (registerDynamic_failsKeeping name bytes mode r why after done).catalog rfl
      exact .inr ⟨⟨why, rfl⟩, by rw [same]⟩
    · obtain ⟨named, changed⟩ := registerDynamic_eq_ok done
      exact .inl ⟨c, rfl, named, by rw [changed]; exact puts_of_insert valid c⟩
  | reload files name =>
    simp only [Effect, perform, Operation.on_map]
    rcases done : (refresh files name).on r with ⟨why | changed, after⟩
    · have same := (refresh_failsKeeping files name r why after done).catalog rfl
      exact .inr ⟨.inr ⟨why, rfl⟩, by rw [same]⟩
    · cases changed with
      | false => exact .inr ⟨.inl rfl, by rw [refresh_eq_false done]⟩
      | true =>
        -- The name was listed before, so that its place is kept.
        obtain ⟨c, named, registered, changed⟩ := refresh_eq_true done
        refine .inl ⟨rfl, c, named, ?_, by rw [changed]; exact puts_of_insert valid c⟩
        rw [valid.names_toList]
        exact (valid.mem_order name).mpr registered
  | init files entries =>
    simp only [Effect, perform, Operation.on_map]
    rcases done : (Registry.init files entries).on r with ⟨why | report, after⟩
    · have same := (init_failsKeeping files entries r why after done).catalog rfl
      exact .inr ⟨⟨why, rfl⟩, by rw [same]⟩
    · -- The catalog that was staged takes the place of the old one.
      obtain ⟨ready, middle, staged, done⟩ := Operation.on_bind_eq_ok done
      obtain ⟨valid, contexts, loaded, listed⟩ := stage_roster staged
      cases done
      refine .inl ⟨_, contexts, rfl, loaded, listed, ?_⟩
      change Roster.names ready.catalog.toList = _
      rw [listed, Roster.names_ofList, loaded]
  | make m strategy => exact congrArg Catalog.toList ((Thread.perform_within (.make m strategy) r).catalog rfl)
  | resolve files c => exact congrArg Catalog.toList ((Thread.perform_within (.resolve files c) r).catalog rfl)
  | call h exported arguments =>
    exact congrArg Catalog.toList ((Thread.perform_within (.call h exported arguments) r).catalog rfl)
  | addArtifact name artifact => rfl
  | removeArtifact name => rfl

end Effect

end Registry

end WasmHost

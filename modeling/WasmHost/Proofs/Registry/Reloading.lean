import WasmHost.Proofs.Registry.StaticNames

/-! Reloading: a reload looks a module up, reads its file, and registers what it made of it. What stands under the
name by then is not looked at again. -/

namespace WasmHost

namespace Registry

/-- A module is an older one with the payload that its file holds now. It is static, and all else is as it was. -/
def Renews (files : Files) (name : String) (old m : HostedModule) : Prop :=
  ∃ path bytes payload, old.source = some (.file path) ∧ readModuleFile files path = .ok bytes ∧
    Payload.parse name bytes = .ok payload ∧ m = ⟨name, .static, some payload, old.source, old.intent⟩

/-- Whatever a reload reads renews the module that it looks up. -/
theorem reread_renews {files : Files} {name : String} {r after : Registry} {m : HostedModule}
    (found : (reread files name).on r = (.ok (some m), after)) :
    ∃ c, r.get? name = some c ∧ Renews files name c.hosted m := by
  obtain ⟨_, _, c, path, bytes, payload, registered, source, read, parsed, checked⟩ := reread_eq_some found
  exact ⟨c, registered, path, bytes, payload, source, read, parsed, HostedModule.eq_of_checkInterpreted checked⟩

/-- A file that holds another valid payload is read. -/
theorem reread_on {r : Registry} {files : Files} {name : String} {c : Context} {path : Path} {bytes : ByteArray}
    {payload : Payload} {m : HostedModule} (dev : r.deployment.isDev) (registered : r.get? name = some c)
    (source : c.hosted.source = some (.file path)) (read : readModuleFile files path = .ok bytes)
    (other : c.hosted.payload.any (·.hash = contentHash bytes) = false) (parsed : Payload.parse name bytes = .ok payload)
    (checked : HostedModule.ofStatic name payload c.hosted.source c.hosted.intent = .ok m) :
    (reread files name).on r = (.ok (some m), r) := by
  rw [source] at checked
  simp [reread, dev, registered, source, read, other, parsed, checked, Except.map]

/-- Only the last step of a reload touches what is registered. -/
theorem reload_sameTables {files : Files} {name : String} {stage : Stage (.reload files name)}
    (early : ∀ d, stage ≠ .remade d) : stage.advance.Keeps SameTables := by
  refine stage.advance_within.weaken fun r after within => within.sameTables ?_ ?_
  -- The scope of every other step is quiet.
  all_goals
    cases stage with
    | remade d => exact absurd rfl (early d)
    | _ => rfl

/-- A reload is about to register what it made of a module, and nothing else. -/
def Stage.Reloads (m : HostedModule) {q : Request} : Stage q → Prop
  | .reread found => found = m
  | .remade d => d.hosted = m
  | .finished _ => True
  | _ => False

theorem Stage.Reloads.advance {m : HostedModule} {q : Request} {stage : Stage q} (reloads : stage.Reloads m) :
    stage.advance.Yields (Stage.Reloads m) := by
  -- Only the stage that has read makes something, and it makes it of what it has read.
  cases stage with
  | reread found =>
    obtain rfl : found = m := reloads
    have made : (createContext found).Yields fun d => d.hosted = found := fun r d after made => by
      rw [createContext_on] at made
      exact (contextWith_eq_ok made).2.1
    exact made.bind fun d made => .bind_any fun _ => .pure made
  | remade d => exact .bind_any fun _ => .pure trivial
  | finished outcome => exact .pure trivial
  | _ => cases reloads

/-- A write under a name keeps to a context: it takes the place of that context, or nothing changes. -/
def KeepsTo (name : String) (c : Context) (before after : Registry) : Prop :=
  before.get? name = some c ∨ ∀ other, after.get? other = before.get? other

/-- A context that is registered in any case keeps to another one if that one stands there, or the new one does. -/
theorem keepsTo_insert_iff {r : Registry} {c d : Context} :
    KeepsTo d.name c r { r with catalog := r.catalog.insert d } ↔
      r.get? d.name = some c ∨ r.get? d.name = some d := by
  refine or_congr_right ⟨fun still => ?_, fun already other => ?_⟩
  · -- If nothing changes, the new context was there.
    rw [← still d.name, get?_insert, if_pos rfl]
  · rw [get?_insert]
    split
    · rename_i here
      rw [here, already]
    · rfl

namespace Host

variable {s later : Host} {place : Nat} {files : Files} {name : String} {m : HostedModule} {d : Context}

/-- Whether an event leaves what stands under a name. -/
def Leaves (name : String) (s : Host) (e : Event) : Prop :=
  ¬ s.Writes name e ∧
    ∀ place t d, e = .act place → s.threads[place]? = some t → t.stage.upload? = some d → d.name ≠ name

/-- A name that nobody writes keeps its context. -/
theorem Path.retains {c : Context} (path : Path (Leaves name) s later) : Retains name c s.registry later.registry := by
  induction path with
  | refl => exact refl_of (Retains name c) _
  | tail _ step ih =>
    obtain ⟨e, _, ⟨elsewhere, others⟩, rfl⟩ := step
    exact trans_of (Retains name c) ih (next_retains_other elsewhere others)

/-- The first step of a reload found something new. -/
theorem reread_of_next (asked : s.threads[place]? = some ⟨.reload files name, .asked⟩)
    (looked : (s.next (.act place)).threads[place]? = some ⟨.reload files name, .reread m⟩) :
    (reread files name).on s.registry = (.ok (some m), (s.next (.act place)).registry) := by
  rw [registry_next_act asked]
  rcases thread_next asked (.act place) with same | ⟨_, acted⟩
  · -- The thread did take a step.
    cases same.symm.trans looked
  · have reached := Option.some.inj (acted.symm.trans looked)
    unfold Thread.next at reached ⊢
    rcases outcome : Stage.asked.advance.on s.registry with ⟨why | stage, after⟩
    · rw [outcome] at reached
      cases reached
    · rw [outcome] at reached
      cases reached
      obtain ⟨found, middle, read, done⟩ := Operation.on_bind_eq_ok outcome
      -- What was found decides the stage.
      cases found <;> cases done
      exact read

/-- The last step of a reload registers its context, whatever stands under the name. -/
theorem next_remade (remade : later.threads[place]? = some ⟨.reload files name, .remade d⟩) :
    (later.next (.act place)).registry = { later.registry with catalog := later.registry.catalog.insert d } ∧
      (later.next (.act place)).threads[place]? = some ⟨.reload files name, .finished (.ok (.changed true))⟩ := by
  have step : Thread.next ⟨.reload files name, .remade d⟩ later.registry =
      (⟨.reload files name, .finished (.ok (.changed true))⟩,
        { later.registry with catalog := later.registry.catalog.insert d }) := rfl
  obtain ⟨inside, _⟩ := List.getElem?_eq_some_iff.mp remade
  rw [next_act remade step]
  exact ⟨rfl, List.getElem?_set_self inside⟩

/-- What a reload will register was made of the module that it read, whatever the others did meanwhile. -/
theorem Path.remade {kind : Host → Event → Prop} (path : Path kind s later)
    (looked : s.threads[place]? = some ⟨.reload files name, .reread m⟩)
    (remade : later.threads[place]? = some ⟨.reload files name, .remade d⟩) : d.hosted = m := by
  -- The stage of the thread holds the module until it is registered, and nobody else changes that stage.
  obtain ⟨t, same, reloads⟩ := path.thread (fun t => t.stage.Reloads m)
    (fun t r reloads => Thread.next_yields reloads.advance (fun _ => trivial) r) ⟨_, looked, rfl⟩
  obtain rfl := Option.some.inj (same.symm.trans remade)
  exact reloads

/-- Only the last step of a reload touches what is registered. It registers the module that was looked up, with the
payload of its file, and leaves all other names. But it does so whatever stands under the name by then: it keeps to
the context that was looked up exactly if that one still stands there, or if its own one does already. If nobody wrote
the name in between, then it does stand there. -/
theorem reload_keepsTo_iff (asked : s.threads[place]? = some ⟨.reload files name, .asked⟩)
    (looked : (s.next (.act place)).threads[place]? = some ⟨.reload files name, .reread m⟩)
    (path : Path (fun _ _ => True) (s.next (.act place)) later)
    (remade : later.threads[place]? = some ⟨.reload files name, .remade d⟩) :
    (∀ (host : Host) (place : Nat) (stage : Stage (.reload files name)),
      host.threads[place]? = some ⟨.reload files name, stage⟩ → (∀ d, stage ≠ .remade d) →
        SameTables host.registry (host.next (.act place)).registry) ∧
      ∃ c, s.registry.get? name = some c ∧ Renews files name c.hosted d.hosted ∧
        (later.next (.act place)).registry = { later.registry with catalog := later.registry.catalog.insert d } ∧
        (later.next (.act place)).registry.get? name = some d ∧
        (later.next (.act place)).threads[place]? = some ⟨.reload files name, .finished (.ok (.changed true))⟩ ∧
        (KeepsTo name c later.registry (later.next (.act place)).registry ↔
          later.registry.get? name = some c ∨ later.registry.get? name = some d) ∧
        (Path (Leaves name) (s.next (.act place)) later → later.registry.get? name = some c) := by
  have found := reread_of_next asked looked
  obtain ⟨c, registered, renews⟩ := reread_renews found
  obtain rfl := path.remade looked remade
  obtain ⟨written, answered⟩ := next_remade remade
  obtain rfl : d.name = name := by
    obtain ⟨_, _, _, _, _, _, same⟩ := renews
    rw [Context.name, same]
  refine ⟨fun host place stage located early => ?_, c, registered, renews, written, ?_, answered, ?_, fun spared => ?_⟩
  · rw [registry_next_act located]
    exact Thread.next_keeps (reload_sameTables early) host.registry
  · rw [written, get?_insert, if_pos rfl]
  · rw [written]
    exact keepsTo_insert_iff
  · -- The first step only looked, and nobody has written the name since.
    have looking : Retains d.name c s.registry (s.next (.act place)).registry := (reread_keeps files d.name).of_on found
    exact spared.retains (looking registered)

/-! ### A reload with others in between -/

/-- The smallest module with a section that says nothing. -/
def annotated : ByteArray := ⟨#[0x00, 0x61, 0x73, 0x6D, 1, 0, 0, 0, 0, 1, 0]⟩

theorem exists_code_of_annotated : ∃ code, Wasm.Module.parse .all annotated = .ok code :=
  Payload.exists_code (by decide +kernel)

/-- A file that holds it. -/
def annotatedFile : Files := ⟨[(["a"], .file annotated)]⟩

theorem read_annotatedFile : readModuleFile annotatedFile "a" = .ok annotated := by
  -- There is no slash in a single letter.
  have single : Path.pieces "a" = ["a"] := by
    rw [Path.pieces, String.splitOn, if_neg (by decide +kernel), String.splitOnAux, if_neg (by decide +kernel),
      if_neg (by decide +kernel), String.splitOnAux, if_pos (by decide +kernel)]
    decide +kernel
  have located : annotatedFile.locate "a" = .ok (.inside ["a"]) := by
    simp only [Files.locate, single]
    rfl
  simp only [readModuleFile, Files.read, located]
  rfl

/-- A module that was read from that file, now or earlier. -/
def filed (payload : Payload) : HostedModule := ⟨"a", .static, some payload, some (.file "a"), .standard⟩

/-- A developing host with such a module, which is asked to reload it. -/
def filedHost (old : Payload) : Host where
  registry :=
    { create .dev .standard .empty with
      made := [⟨0, filed old, .compileNow⟩]
      catalog := Catalog.empty.insert ⟨0, filed old, .compileNow⟩ }
  threads :=
    [⟨.make (filed old) (some .compileNow), .finished (.ok (.context ⟨0, filed old, .compileNow⟩))⟩,
      ⟨.add ⟨0, filed old, .compileNow⟩, .finished (.ok .done)⟩, ⟨.reload annotatedFile "a", .asked⟩]

theorem filedHost_reachable (old : Payload) : (filedHost old).Reachable := by
  refine ⟨.dev, .standard, .empty, ?_⟩
  refine .head ⟨.ask (.make (filed old) (some .compileNow)), trivial, trivial, rfl⟩ ?_
  refine .head ⟨.act 0, ⟨_, rfl, rfl, not_blocked rfl⟩, trivial, rfl⟩ ?_
  refine .head ⟨.ask (.add ⟨0, filed old, .compileNow⟩), List.mem_cons_self, trivial, rfl⟩ ?_
  refine .head ⟨.act 1, ⟨_, rfl, rfl, not_blocked rfl⟩, trivial, rfl⟩ ?_
  exact .single ⟨.ask (.reload annotatedFile "a"), trivial, trivial, rfl⟩

/-- The host after the reload has made its context. -/
def remadeHost (old new : Payload) : Host where
  registry :=
    { (filedHost old).registry with
      made := [⟨1, filed new, .compileNow⟩, ⟨0, filed old, .compileNow⟩]
      warnings := [.reloading] }
  threads := (filedHost old).threads.set 2 ⟨.reload annotatedFile "a", .remade ⟨1, filed new, .compileNow⟩⟩

/-- The reload reads the file, which holds another payload than the registered one. -/
theorem filedHost_next (old new : Payload) (older : old.bytes = Payload.smallest) (newer : new.bytes = annotated) :
    (filedHost old).next (.act 2) =
      { filedHost old with
        threads := (filedHost old).threads.set 2 ⟨.reload annotatedFile "a", .reread (filed new)⟩ } := by
  -- The payloads are told apart by their hashes.
  have differ : contentHash Payload.smallest ≠ contentHash annotated := by decide +kernel
  have other : (some old).any (·.hash = contentHash annotated) = false := by simp [Payload.hash, older, differ]
  have parsed : Payload.parse "a" annotated = .ok new := by
    obtain ⟨bytes, code, valid⟩ := new
    obtain rfl : bytes = annotated := newer
    exact Payload.parse_of_code valid "a"
  have read : (reread annotatedFile "a").on (filedHost old).registry =
      (.ok (some (filed new)), (filedHost old).registry) :=
    reread_on (c := ⟨0, filed old, .compileNow⟩) rfl rfl rfl read_annotatedFile other parsed rfl
  refine next_act rfl ?_
  simp only [Thread.next, Stage.advance, Request.first, Operation.on_bind, read]
  rfl

/-- And it makes a context of it. -/
theorem remadeHost_eq (old new : Payload) (older : old.bytes = Payload.smallest) (newer : new.bytes = annotated) :
    ((filedHost old).next (.act 2)).next (.act 2) = remadeHost old new := by
  rw [filedHost_next old new older newer]
  rfl

/-- Making the context leaves the name. -/
theorem remadeHost_path (old new : Payload) (older : old.bytes = Payload.smallest) (newer : new.bytes = annotated) :
    Path (Leaves "a") ((filedHost old).next (.act 2)) (remadeHost old new) := by
  have looked : ((filedHost old).next (.act 2)).threads[2]? = some ⟨.reload annotatedFile "a", .reread (filed new)⟩ := by
    rw [filedHost_next old new older newer]
    rfl
  -- One step makes the context, and it is no step that registers anything.
  refine .single ⟨.act 2, ⟨_, looked, rfl, not_blocked rfl⟩, ⟨?_, ?_⟩, (remadeHost_eq old new older newer).symm⟩
  · rintro ⟨t, found, writes⟩
    obtain rfl := Option.some.inj (looked.symm.trans found)
    exact writes
  · rintro place t d ⟨⟩ found uploads
    obtain rfl := Option.some.inj (looked.symm.trans found)
    cases uploads

/-- Alone, the reload takes the place of the context that it looked up. -/
theorem reload_keepsTo_alone :
    ∃ (s later : Host) (c d : Context), s.Reachable ∧ s.registry.get? "a" = some c ∧ later.registry.get? "a" = some c ∧
      later.threads[2]? = some ⟨.reload annotatedFile "a", .remade d⟩ ∧
      KeepsTo "a" c later.registry (later.next (.act 2)).registry ∧
      (later.next (.act 2)).registry.get? "a" = some d := by
  obtain ⟨oldCode, oldValid⟩ := Payload.exists_code_of_smallest
  obtain ⟨newCode, newValid⟩ := exists_code_of_annotated
  let old : Payload := ⟨Payload.smallest, oldCode, oldValid⟩
  let new : Payload := ⟨annotated, newCode, newValid⟩
  -- One step looks the file up, and the others make the context.
  have looked : ((filedHost old).next (.act 2)).threads[2]? = some ⟨.reload annotatedFile "a", .reread (filed new)⟩ := by
    rw [filedHost_next old new rfl rfl]
    rfl
  have spared := remadeHost_path old new rfl rfl
  obtain ⟨_, c, registered, _, _, replaced, _, keeps, stays⟩ := reload_keepsTo_iff rfl looked spared.anyKind rfl
  exact ⟨filedHost old, remadeHost old new, c, _, filedHost_reachable old, registered, stays spared, rfl,
    keeps.mpr (.inl (stays spared)), replaced⟩

/-- If the name is removed before the last step of a reload, the reload brings it back; and if a newer context is
registered there, the reload of the older one takes its place. -/
theorem reload_revives_removed :
    ∃ (s removed replaced : Host) (c d newer : Context), s.Reachable ∧ s.registry.get? "a" = some c ∧
      s.threads[2]? = some ⟨.reload annotatedFile "a", .asked⟩ ∧
      Path (fun _ _ => True) (s.next (.act 2)) removed ∧ Path (fun _ _ => True) removed replaced ∧
      removed.threads[2]? = some ⟨.reload annotatedFile "a", .remade d⟩ ∧
      removed.registry.get? "a" = none ∧ (removed.next (.act 2)).registry.get? "a" = some d ∧
      replaced.threads[2]? = some ⟨.reload annotatedFile "a", .remade d⟩ ∧
      newer ≠ c ∧ replaced.registry.get? "a" = some newer ∧ (replaced.next (.act 2)).registry.get? "a" = some d ∧
      ¬ KeepsTo "a" c removed.registry (removed.next (.act 2)).registry ∧
      ¬ KeepsTo "a" c replaced.registry (replaced.next (.act 2)).registry := by
  obtain ⟨oldCode, oldValid⟩ := Payload.exists_code_of_smallest
  obtain ⟨newCode, newValid⟩ := exists_code_of_annotated
  let old : Payload := ⟨Payload.smallest, oldCode, oldValid⟩
  let new : Payload := ⟨annotated, newCode, newValid⟩
  let c : Context := ⟨0, filed old, .compileNow⟩
  let d : Context := ⟨1, filed new, .compileNow⟩
  let newer : Context := ⟨2, filed old, .interpret⟩
  let removed : Host := ((remadeHost old new).next (.ask (.remove "a"))).next (.act 3)
  let replaced : Host := (((removed.next (.ask (.make (filed old) (some .interpret)))).next (.act 4)).next
    (.ask (.add newer))).next (.act 5)
  -- The context of the reload is made before the name is removed, and is registered only afterwards.
  have toRemoved : Path (fun _ _ => True) ((filedHost old).next (.act 2)) removed := by
    refine (remadeHost_path old new rfl rfl).anyKind.trans ?_
    refine .head ⟨.ask (.remove "a"), trivial, trivial, rfl⟩ ?_
    exact .single ⟨.act 3, ⟨_, rfl, rfl, not_blocked rfl⟩, trivial, rfl⟩
  have toReplaced : Path (fun _ _ => True) removed replaced := by
    refine .head ⟨.ask (.make (filed old) (some .interpret)), trivial, trivial, rfl⟩ ?_
    refine .head ⟨.act 4, ⟨_, rfl, rfl, not_blocked rfl⟩, trivial, rfl⟩ ?_
    refine .head ⟨.ask (.add newer), List.mem_cons_self, trivial, rfl⟩ ?_
    exact .single ⟨.act 5, ⟨_, rfl, rfl, not_blocked rfl⟩, trivial, rfl⟩
  have older : newer ≠ c := by simp [newer, c]
  have other : newer ≠ d := by simp [newer, d]
  refine ⟨filedHost old, removed, replaced, c, d, newer, filedHost_reachable old, rfl, rfl, toRemoved, toReplaced, rfl, rfl,
    rfl, rfl, older, rfl, rfl, ?_, ?_⟩
  · have remade : removed.threads[2]? = some ⟨.reload annotatedFile "a", .remade d⟩ := rfl
    rw [(next_remade remade).1]
    refine mt (keepsTo_insert_iff (d := d)).mp ?_
    -- There is nothing that could be kept.
    rintro (there | there)
    · exact absurd (there : none = some c) nofun
    · exact absurd (there : none = some d) nofun
  · have remade : replaced.threads[2]? = some ⟨.reload annotatedFile "a", .remade d⟩ := rfl
    rw [(next_remade remade).1]
    refine mt (keepsTo_insert_iff (d := d)).mp ?_
    rintro (there | there)
    · exact older (Option.some.inj there)
    · exact other (Option.some.inj there)

end Host

end Registry

end WasmHost

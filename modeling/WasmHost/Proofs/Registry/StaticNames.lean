import WasmHost.Proofs.Payload
import WasmHost.Proofs.Registry.Interleaving
import WasmHost.Proofs.Registry.Making
import WasmHost.Proofs.Registry.Tables

/-! Static names: no upload ever takes the name of a static module, whatever happens between its steps. -/

namespace WasmHost

namespace Registry

/-- A name keeps its context. -/
def Retains (name : String) (c : Context) (before after : Registry) : Prop :=
  before.get? name = some c → after.get? name = some c

variable {name : String} {c : Context}

instance : IsPreorder Registry (Retains name c) where
  refl _ := id
  trans _ _ _ first last := last ∘ first

/-- Nothing is lost outside the scope of contexts. -/
theorem Within.retains {scope : Scope} {before after : Registry} (within : Within scope before after)
    (elsewhere : scope.catalog = false) : Retains name c before after := by
  intro found
  rwa [get?, within.catalog elsewhere]

/-- Registering a context of another name does not matter. -/
theorem insert_retains {d : Context} (other : d.name ≠ name) :
    (updateCatalog (·.insert d)).Keeps (Retains name c) := by
  intro r found
  simp only [updateCatalog, Operation.on_modify, get?, Catalog.get?_insert, if_neg (Ne.symm other)]
  exact found

theorem remove_retains {other : String} (elsewhere : other ≠ name) :
    (Registry.remove other).Keeps (Retains name c) := by
  intro r found
  simp only [Registry.remove, updateCatalog, Operation.on_bind, Operation.on_get, Operation.on_modify,
    Operation.on_pure, get?, Catalog.get?_erase, if_neg (Ne.symm elsewhere)]
  exact found

/-- The last step of an upload gives way to a static module. -/
theorem insertUpload_on_static {r : Registry} {d : Context} (found : r.get? d.name = some c)
    (static : c.origin = .static) :
    (insertUpload d).on r = (.error (.invalidConfig (.staticConflict d.name)), r) := by
  simp [insertUpload, found, static]

/-- An upload of another name does not matter. -/
theorem insertUpload_retains_other {d : Context} (other : d.name ≠ name) : (insertUpload d).Keeps (Retains name c) := by
  refine Operation.Keeps.get.bind fun r => ?_
  -- Whatever stands under the name of the upload, the name in question is another one.
  split
  · exact insert_retains other
  · split
    · exact (Operation.Keeps.throw _).bind fun _ => insert_retains other
    · exact insert_retains other

/-- An upload leaves every static module where it is. -/
theorem insertUpload_retains (static : c.origin = .static) (d : Context) :
    (insertUpload d).Keeps (Retains name c) := by
  intro r found
  by_cases same : d.name = name
  · -- The upload is refused.
    rw [insertUpload_on_static (same ▸ found) static]
    exact found
  · exact insertUpload_retains_other same r found

/-- Whether the single step of a request writes a name. -/
def Request.Writes (name : String) : Request → Prop
  | .add c | .replace c => c.name = name
  | .remove other => other = name
  | _ => False

/-- Whether the next step writes a name, apart from uploads. Loading all declared modules writes every name. -/
def Stage.Writes (name : String) {q : Request} : Stage q → Prop
  | .asked => q.Writes name
  | .published _ => True
  | .remade c => c.name = name
  | _ => False

/-- The context that the next step registers for an upload. -/
def Stage.upload? {q : Request} : Stage q → Option Context
  | .prepared c => some c
  | _ => none

/-- A step that does not write a name leaves it to its module, if an upload that it registers does. -/
theorem Stage.advance_retains {q : Request} {stage : Stage q} (elsewhere : ¬ stage.Writes name)
    (uploads : ∀ d, stage.upload? = some d → (insertUpload d).Keeps (Retains name c)) :
    stage.advance.Keeps (Retains name c) := by
  by_cases contexts : stage.scope.catalog
  · -- Of the steps that change contexts, only those for other names and those of uploads are left.
    cases stage with
    | asked =>
      cases q with
      | add d => exact ((insert_retains elsewhere).map _).map _
      | replace d =>
        refine Operation.Keeps.map (Operation.Keeps.map ?_ _) _
        refine Operation.Keeps.get.bind fun r => ?_
        split
        · exact Operation.Keeps.throw _
        · exact (insert_retains elsewhere).bind fun _ => Operation.Keeps.pure _
      | remove other => exact ((remove_retains elsewhere).map _).map _
      | _ => cases contexts
    | published ready => exact absurd trivial elsewhere
    | prepared d => exact (uploads d rfl).bind fun _ => Operation.Keeps.pure _
    | remade d => exact (insert_retains elsewhere).bind fun _ => Operation.Keeps.pure _
    | _ => cases contexts
  · exact stage.advance_within.weaken fun _ _ within => within.retains (by simpa using contexts)

/-- What is made for an upload is in keeping with its name and its bytes. -/
def Stage.Prepares (trait : String → ByteArray → Context → Prop) {q : Request} : Stage q → Prop
  | @Stage.prepared name bytes _ c => trait name bytes c
  | _ => True

/-- Whatever can be said of the contexts that are made for uploads can be said of those that are prepared. -/
theorem Stage.advance_prepares {trait : String → ByteArray → Context → Prop}
    (yields : ∀ name bytes intent, (contextOfUpload name bytes intent).Yields (trait name bytes)) {q : Request}
    (stage : Stage q) : stage.advance.Yields (Stage.Prepares trait) := by
  -- Only the step that makes the context of an upload has something to say.
  cases stage with
  | asked =>
    cases q with
    | reload files name =>
      refine .bind_any fun found => ?_
      cases found <;> exact .pure trivial
    | resolve files c =>
      refine .bind_any fun found => ?_
      cases found with
      | none => exact .bind_any fun _ => .pure trivial
      | some handle => exact .pure trivial
    | _ => exact .map fun _ => trivial
  | @admitted name bytes mode inherited =>
    rw [advance, map_eq_pure_bind]
    exact .bind (yields name bytes _) fun c made => .pure made
  | staged ready => exact .bind_any fun _ => .pure trivial
  | published ready => exact .bind_any fun _ => .pure trivial
  | prepared c => exact .bind_any fun _ => .pure trivial
  | reread m => exact .bind_any fun _ => .bind_any fun _ => .pure trivial
  | remade c => exact .bind_any fun _ => .pure trivial
  | building => exact .map fun _ => trivial
  | finished outcome => exact .pure trivial

/-- What is made for an upload has its name. -/
def Stage.Named {q : Request} : Stage q → Prop
  | @Stage.prepared name _ _ c => c.name = name
  | _ => True

/-- Uploads are prepared under their own names. -/
theorem Stage.advance_named {q : Request} (stage : Stage q) : stage.advance.Yields Stage.Named := by
  intro r later after run
  have prepares := stage.advance_prepares contextOfUpload_name r later after run
  cases later <;> exact prepares

namespace Host

/-- Whether an event writes a name other than by an upload. -/
def Writes (name : String) (s : Host) : Event → Prop
  | .ask _ => False
  | .act place => ∃ t, s.threads[place]? = some t ∧ t.stage.Writes name

/-- An event that does not write a name leaves it to its module, if an upload that it registers does. -/
theorem next_retains_of {s : Host} {e : Event} (elsewhere : ¬ s.Writes name e)
    (uploads : ∀ place t d, e = .act place → s.threads[place]? = some t → t.stage.upload? = some d →
      (insertUpload d).Keeps (Retains name c)) : Retains name c s.registry (s.next e).registry := by
  cases e with
  | ask q => exact refl_of (Retains name c) _
  | act place =>
    cases found : s.threads[place]? with
    | none =>
      rw [next, found]
      exact refl_of (Retains name c) _
    | some t =>
      -- The thread that acts takes a step that does not write the name.
      have unwritten : ¬ t.stage.Writes name := fun writes => elsewhere ⟨t, found, writes⟩
      rw [registry_next_act found]
      exact Thread.next_keeps (Stage.advance_retains unwritten fun d => uploads place t d rfl found) s.registry

/-- An event that does not write a name leaves it to its static module. -/
theorem next_retains (static : c.origin = .static) {s : Host} {e : Event} (elsewhere : ¬ s.Writes name e) :
    Retains name c s.registry (s.next e).registry :=
  next_retains_of elsewhere fun _ _ d _ _ _ => insertUpload_retains static d

/-- An event that does not write a name, and registers no upload of it either, leaves it to its module. -/
theorem next_retains_other {s : Host} {e : Event} (elsewhere : ¬ s.Writes name e)
    (others : ∀ place t d, e = .act place → s.threads[place]? = some t → t.stage.upload? = some d → d.name ≠ name) :
    Retains name c s.registry (s.next e).registry :=
  next_retains_of elsewhere fun place t d acts found uploads =>
    insertUpload_retains_other (others place t d acts found uploads)

/-- Uploads stay prepared under their own names. -/
theorem Reachable.named {s : Host} (reached : s.Reachable) : ∀ t ∈ s.threads, t.stage.Named := by
  refine reached.invariant (fun s => ∀ t ∈ s.threads, t.stage.Named) (fun _ _ _ => by simp)
    fun s e reached enabled named t member => ?_
  cases e with
  | ask q =>
    -- A new thread has prepared nothing.
    rcases List.mem_append.mp member with before | new
    · exact named t before
    · cases List.mem_singleton.mp new
      trivial
  | act place =>
    obtain ⟨acting, found, _⟩ := enabled
    rcases mem_next_act found member with before | rfl
    · exact named t before
    · exact Thread.next_yields acting.stage.advance_named (fun _ => trivial) _

/-- A prepared upload of a static name is refused. -/
theorem next_of_static {s : Host} (reached : s.Reachable) {place : Nat} {name : String} {bytes : ByteArray}
    {mode : Option ExecutionMode} {d : Context} (found : s.threads[place]? = some ⟨.upload name bytes mode, .prepared d⟩)
    (registered : s.registry.get? name = some c) (static : c.origin = .static) :
    (s.next (.act place)).threads[place]? =
      some ⟨.upload name bytes mode, .finished (.error (.invalidConfig (.staticConflict name)))⟩ := by
  obtain rfl : d.name = name := reached.named _ (List.mem_of_getElem? found)
  have refused := insertUpload_on_static registered static
  have step : Thread.next ⟨.upload d.name bytes mode, .prepared d⟩ s.registry =
      (⟨.upload d.name bytes mode, .finished (.error (.invalidConfig (.staticConflict d.name)))⟩, s.registry) := by
    simp only [Thread.next, Stage.advance, Operation.on_bind, refused]
  -- The answer stands in the place of the thread.
  obtain ⟨inside, _⟩ := List.getElem?_eq_some_iff.mp found
  rw [next_act found step]
  exact List.getElem?_set_self inside

/-- No step of an upload touches a static name. Such a name stays as it is until something else writes it, and
an upload of it that would be registered in between is refused. -/
theorem static_names_stay {s : Host} (reached : s.Reachable) :
    (∀ place other bytes mode stage, s.threads[place]? = some ⟨.upload other bytes mode, stage⟩ →
      ∀ name c, s.registry.get? name = some c → c.origin = .static →
        (s.next (.act place)).registry.get? name = some c) ∧
    ∀ name c, s.registry.get? name = some c → c.origin = .static →
      ∀ later, Path (fun s e => ¬ s.Writes name e) s later →
        later.registry.get? name = some c ∧
          ∀ place bytes mode d, later.threads[place]? = some ⟨.upload name bytes mode, .prepared d⟩ →
            (later.next (.act place)).threads[place]? =
              some ⟨.upload name bytes mode, .finished (.error (.invalidConfig (.staticConflict name)))⟩ := by
  constructor
  · intro place other bytes mode stage found name c registered static
    refine next_retains static (fun ⟨t, located, writes⟩ => ?_) registered
    rw [found, Option.some.injEq] at located
    subst located
    -- No stage of an upload counts as writing a name.
    cases stage <;> exact writes
  · intro name c registered static later path
    -- The name is kept along the path, event by event.
    have kept : later.registry.get? name = some c := by
      induction path with
      | refl => exact registered
      | tail _ step ih =>
        obtain ⟨e, _, elsewhere, rfl⟩ := step
        exact next_retains static elsewhere ih
    exact ⟨kept, fun place bytes mode d found => next_of_static (reached.path path) found kept static⟩

/-- An upload looks the name up, then a static module takes the name, and the upload is refused. -/
theorem static_name_survives_upload :
    ∃ (s : Host) (c : Context), s.Reachable ∧ s.registry.get? "shared" = some c ∧ c.origin = .static ∧
      (∃ d, s.threads[0]? = some ⟨.upload "shared" Payload.smallest none, .prepared d⟩) ∧
      (s.next (.act 0)).registry.get? "shared" = some c ∧
      (s.next (.act 0)).threads[0]? = some ⟨.upload "shared" Payload.smallest none,
        .finished (.error (.invalidConfig (.staticConflict "shared")))⟩ := by
  obtain ⟨code, parsed⟩ := Payload.exists_code_of_smallest
  let payload : Payload := ⟨Payload.smallest, code, parsed⟩
  let d : Context := ⟨0, ⟨"shared", .dynamic, some payload, none, .standard⟩, .compileNow⟩
  let c : Context := ⟨1, ⟨"shared", .static, some payload, none, .standard⟩, .compileNow⟩
  let fresh : Registry := create .prodJit .standard .empty
  let upload : Thread := ⟨.upload "shared" Payload.smallest none, .prepared d⟩
  let s : Host :=
    ⟨{ fresh with made := [c, d], catalog := Catalog.empty.insert c },
      [upload, ⟨.make c.hosted (some .compileNow), .finished (.ok (.context c))⟩, ⟨.add c, .finished (.ok .done)⟩]⟩
  have prepared : (contextOfUpload "shared" Payload.smallest .standard).on fresh =
      (.ok d, { fresh with made := [d] }) := by
    simp only [contextOfUpload, Operation.on_bind, Operation.on_lift, Payload.parse_of_code parsed]
    rfl
  have step : Thread.next ⟨.upload "shared" Payload.smallest none, .admitted .standard⟩ fresh =
      (upload, { fresh with made := [d] }) := by
    -- Without a mode of its own, the upload has the standard intent.
    have same : ({ Intent.standard with mode := (none : Option ExecutionMode).or Intent.standard.mode } : Intent) =
        .standard := rfl
    simp only [Thread.next, Stage.advance, Operation.on_map]
    rw [same, prepared]
    rfl
  have reached : s.Reachable := by
    refine ⟨.prodJit, .standard, .empty, ?_⟩
    refine .head ⟨.ask upload.request, trivial, trivial, rfl⟩ ?_
    refine .head ⟨.act 0, ⟨_, rfl, rfl, not_blocked rfl⟩, trivial, rfl⟩ ?_
    refine .head ⟨.act 0, ⟨_, rfl, rfl, not_blocked rfl⟩, trivial, (next_act rfl step).symm⟩ ?_
    refine .head ⟨.ask (.make c.hosted (some .compileNow)), trivial, trivial, rfl⟩ ?_
    refine .head ⟨.act 1, ⟨_, rfl, rfl, not_blocked rfl⟩, trivial, rfl⟩ ?_
    refine .head ⟨.ask (.add c), List.mem_cons_self, trivial, rfl⟩ ?_
    exact .single ⟨.act 2, ⟨_, rfl, rfl, not_blocked rfl⟩, trivial, rfl⟩
  obtain ⟨untouched, stays⟩ := static_names_stay reached
  obtain ⟨_, refused⟩ := stays "shared" c rfl rfl s .refl
  exact ⟨s, c, reached, rfl, rfl, ⟨d, rfl⟩, untouched 0 _ _ _ _ rfl _ _ rfl rfl, refused 0 _ _ d rfl⟩

end Host

end Registry

end WasmHost

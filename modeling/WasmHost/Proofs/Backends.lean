import WasmHost.Proofs.Engine
import WasmHost.Proofs.Handle
import WasmHost.Proofs.Payload
import WasmHost.Proofs.Wasm.Limits

/-! Backends: machine code and the interpreter give the same answers to all calls that no limit ends. -/

namespace WasmHost

/-- Whether a call failed at a limit: its fuel ran out, or too many calls were open at once, be it while the
instance was made or later on. -/
def HostError.AtLimit : HostError → Prop
  | .fuelExhausted | .trap (.trap .stackExhausted) | .instantiationFailed (.trap .stackExhausted) => True
  | _ => False

/-- Whether something failed at a limit. -/
def LimitReached {α : Type} (outcome : Except HostError α) : Prop := ∃ why, outcome = .error why ∧ why.AtLimit

theorem LimitReached.map {α β : Type} {outcome : Except HostError α} (reached : LimitReached outcome) (form : α → β) :
    LimitReached (outcome.map form) := by
  obtain ⟨why, rfl, limited⟩ := reached
  exact ⟨why, rfl, limited⟩

/-- What can be seen of a call besides its costs. -/
def Outcome.seen (outcome : Outcome) : List Value × List LogEntry := (outcome.values, outcome.logs)

namespace Handle

/-- What a part of a call gives, and what it leaves to the next part. -/
abbrev Part (α : Type) := Except HostError α × Wasm.Linked.Progress GuestEvent

/-- Whether a part of a call failed at a limit. -/
def Part.Limited {α : Type} (part : Part α) : Prop := LimitReached part.1

/-- What the end of a run is to a part of a call. -/
def report {α : Type} (form : Wasm.Ending → Except HostError α)
    (ran : Wasm.Ending × Wasm.Linked.Progress GuestEvent) : Part α := (form ran.1, ran.2)

/-- How the end of a start function is reported. -/
def startReport : Wasm.Ending → Except HostError Unit
  | .returned _ => .ok ()
  | .trapped cause => .error (.instantiationFailed (.trap cause))
  | .exhausted => .error .fuelExhausted

/-- How the end of an exported function is reported, whose results have the given types. -/
def runReport (types : List NumberType) : Wasm.Ending → Except HostError (List Value)
  | .returned results =>
    match Value.ofCells? types results.reverse with
    | some values => .ok values
    | none => .error (.trap .badResult)
  | .trapped cause => .error (.trap (.trap cause))
  | .exhausted => .error .fuelExhausted

/-- Runs that agree are reported in the same way, if a limit that ends a run is reported as one. -/
theorem report_agree {α : Type} {form : Wasm.Ending → Except HostError α} {first second : Wasm.Ending × _}
    (agree : AgreeUnless Wasm.Ending.LimitedRun first second) (exhausted : LimitReached (form .exhausted))
    (trapped : LimitReached (form (.trapped .stackExhausted))) :
    AgreeUnless Part.Limited (report form first) (report form second) := by
  have stays : ∀ ran, Wasm.Ending.LimitedRun ran → Part.Limited (report form ran) := by
    rintro ⟨ending, left⟩ limited
    show LimitReached (form ending)
    -- A limit of a run is the end of the fuel or of the stack.
    rcases limited with ended | ended <;> cases ended
    · exact exhausted
    · exact trapped
  exact agree.bind stays stays fun ran => .refl _

section

variable (h : Handle) (depth : Nat) (budget budget' : Option Nat) (progress : Wasm.Linked.Progress GuestEvent)
  (exported : String) (arguments : List Value)

theorem start_of_some {f : Wasm.Function GuestEvent}
    (declared : h.prepared.module.start.bind (h.prepared.program.functions[·]?) = some f) :
    h.start budget progress = report startReport (h.prepared.invoke budget progress f []) := by
  simp only [start, declared]
  rcases h.prepared.invoke budget progress f [] with ⟨ending, left⟩
  cases ending <;> rfl

theorem run_eq (f : Wasm.Function GuestEvent) (types : List NumberType) :
    h.run budget f types arguments progress =
      report (runReport types) (h.prepared.invoke budget progress f (arguments.map Value.bits)) := by
  simp only [run]
  rcases h.prepared.invoke budget progress f (arguments.map Value.bits) with ⟨ending, left⟩
  -- Results become values where they can.
  cases ending with
  | returned results =>
    simp only [report, runReport]
    cases Value.ofCells? types results.reverse <;> rfl
  | trapped cause => rfl
  | exhausted => rfl

/-- What follows the start function: the exported function is looked up and run. -/
def finish (started : Part Unit) : Part (List Value) :=
  match started.1 with
  | .error why => (.error why, started.2)
  | .ok () =>
    match h.target exported arguments with
    | .error why => (.error why, started.2)
    | .ok (f, types) => h.run budget f types arguments started.2

/-- What can be seen of a call, given its last part. -/
def seenOf (last : Part (List Value)) : Except HostError (List Value × List LogEntry) :=
  last.1.map fun values => (values, last.2.events.reverse.filterMap (·.logged?))

/-- A call consists of its parts, if there is an instance for it. -/
theorem call_seen (settings : ExecutionSettings) (made : h.fresh = .ok progress) :
    (h.call settings exported arguments).1.map Outcome.seen =
      seenOf (h.finish settings.budget exported arguments (h.start settings.budget progress)) := by
  simp only [call, made]
  show Except.map Outcome.seen (Except.map _
    (h.finish settings.budget exported arguments (h.start settings.budget progress)).1) = seenOf _
  unfold seenOf
  cases (h.finish settings.budget exported arguments (h.start settings.budget progress)).1 <;> rfl

theorem call_of_unmade (settings : ExecutionSettings) {why : HostError} (made : h.fresh = .error why) :
    h.call settings exported arguments = (.error why, []) := by
  simp only [call, made]

/-- The same handle with another bound on the calls that may be open at once. -/
def withDepth : Handle := { h with prepared := h.prepared.withDepth depth }

/-- A start function leaves the same behind under all limits, unless it is ended by one. -/
theorem start_agree :
    AgreeUnless Part.Limited ((h.withDepth depth).start budget progress) (h.start budget' progress) := by
  cases declared : h.prepared.module.start.bind (h.prepared.program.functions[·]?) with
  | none =>
    -- Without a start function nothing is run.
    have idle : h.start budget' progress = (.ok (), progress) := by simp only [start, declared]
    have idle' : (h.withDepth depth).start budget progress = (.ok (), progress) := by
      simp only [start, withDepth, Wasm.Linked.withDepth, Wasm.Program.withDepth, declared]
    rw [idle, idle']
    exact .refl _
  | some f =>
    rw [h.start_of_some budget' progress declared, (h.withDepth depth).start_of_some budget progress declared]
    exact report_agree (h.prepared.invoke_agree depth budget budget' progress f [])
      ⟨_, rfl, trivial⟩ ⟨_, rfl, trivial⟩

/-- And so does an exported function. -/
theorem run_agree (f : Wasm.Function GuestEvent) (types : List NumberType) :
    AgreeUnless Part.Limited ((h.withDepth depth).run budget f types arguments progress)
      (h.run budget' f types arguments progress) := by
  rw [run_eq, run_eq]
  exact report_agree (h.prepared.invoke_agree depth budget budget' progress f _) ⟨_, rfl, trivial⟩ ⟨_, rfl, trivial⟩

/-- So does what follows a start function: the function that is looked up has nothing to do with limits. -/
theorem finish_agree {started started' : Part Unit} (agree : AgreeUnless Part.Limited started' started) :
    AgreeUnless Part.Limited ((h.withDepth depth).finish budget exported arguments started')
      (h.finish budget' exported arguments started) := by
  -- A start function that failed is the end of the call.
  have stays : ∀ (h : Handle) (budget : Option Nat) (started : Part Unit), started.Limited →
      (h.finish budget exported arguments started).Limited := by
    rintro h budget ⟨started, left⟩ ⟨why, failed, limited⟩
    cases failed
    exact ⟨why, rfl, limited⟩
  refine agree.bind (stays _ _) (stays _ _) fun ⟨started, left⟩ => ?_
  cases started with
  | error why => exact .refl _
  | ok started =>
    have same : (h.withDepth depth).target exported arguments = h.target exported arguments := rfl
    simp only [finish, same]
    cases h.target exported arguments with
    | error why => exact .refl _
    | ok found => exact h.run_agree depth budget budget' left arguments found.1 found.2

/-- Calls of a handle show the same under all limits, unless one of them ends a call. -/
theorem call_agree (settings settings' : ExecutionSettings) :
    AgreeUnless LimitReached (((h.withDepth depth).call settings exported arguments).1.map Outcome.seen)
      ((h.call settings' exported arguments).1.map Outcome.seen) := by
  -- The same instance is made for both.
  have same : (h.withDepth depth).fresh = h.fresh := rfl
  cases made : h.fresh with
  | error why =>
    rw [h.call_of_unmade exported arguments settings' made,
      (h.withDepth depth).call_of_unmade exported arguments settings (same.trans made)]
    exact .refl _
  | ok progress =>
    rw [h.call_seen progress exported arguments settings' made,
      (h.withDepth depth).call_seen progress exported arguments settings (same.trans made)]
    have stays : ∀ last : Part (List Value), last.Limited → LimitReached (seenOf last) :=
      fun last limited => limited.map _
    exact (h.finish_agree depth settings.budget settings'.budget exported arguments
      (h.start_agree depth settings.budget settings'.budget progress)).bind stays stays fun last => .refl _

/-- How a handle was selected does not show in its calls. -/
theorem call_congr (h h' : Handle) (named : h.moduleName = h'.moduleName) (prepared : h.prepared = h'.prepared)
    (settings : ExecutionSettings) (exported : String) (arguments : List Value) :
    h.call settings exported arguments = h'.call settings exported arguments := by
  cases h
  cases h'
  cases named
  cases prepared
  rfl

end

end Handle

namespace Engine

/-- Without a pool, what one engine runs is what the other one runs, up to the number of open calls. -/
theorem interpreted_of_linked {e : Engine} {m : Wasm.Module} {depth : Nat} {l l' : Prepared}
    (linked : Wasm.Linked.link e.offered { interpretedCapacity with callDepth := depth } m = .ok l)
    (interpreted : e.interpret m = .ok l') : l' = l.withDepth interpretedCapacity.callDepth := by
  have relinked := Wasm.Linked.link_withDepth e.offered { interpretedCapacity with callDepth := depth }
    interpretedCapacity.callDepth m
  rw [linked] at relinked
  exact Except.ok.inj ((interpret_eq_ok interpreted).symm.trans relinked)

end Engine

/-- The two backends agree. Two handles that were built for a module, one to be compiled and one to be interpreted,
give the same values and logs at every call, or fail with the same error, unless one of them ran into a limit: of its
fuel, which may be different, or of the calls that may be open at once. -/
theorem backends_agree {f : Factory} (unpooled : f.engine.settings.pooling = false) {artifacts artifacts' : Artifacts}
    {files files' : Files} {m m' : HostedModule} (named : m.name = m'.name) (payload : m.payload = m'.payload)
    {compiled interpreted : Handle} (built : (f.build artifacts files m .compileNow).1 = .ok compiled)
    (built' : (f.build artifacts' files' m' .interpret).1 = .ok interpreted)
    (settings settings' : ExecutionSettings) (exported : String) (arguments : List Value) :
    AgreeUnless LimitReached ((compiled.call settings exported arguments).1.map Outcome.seen)
      ((interpreted.call settings' exported arguments).1.map Outcome.seen) := by
  obtain ⟨p, supplied, name, course⟩ := Factory.build_eq_ok built
  obtain ⟨p', supplied', name', course'⟩ := Factory.build_eq_ok built'
  cases Option.some.inj (supplied.symm.trans (payload.trans supplied'))
  have linked' : f.engine.interpret p.code = .ok interpreted.prepared := by
    rcases course' with ⟨_, _, _, linked⟩ | ⟨other, _⟩ | ⟨other, _⟩
    · exact linked
    · exact absurd rfl other
    · exact absurd rfl other
  -- If compiling failed, the interpreter stepped in; otherwise only the number of open calls is another one.
  have prepared : interpreted.prepared = compiled.prepared.withDepth Engine.interpretedCapacity.callDepth := by
    rcases course with ⟨other, _⟩ | ⟨_, _, _, linked⟩ | ⟨_, _, _, _, linked⟩
    · exact absurd other (by decide)
    · have bounded := Engine.compile_eq_ok (e := f.engine) linked
      have capacity : f.engine.compiledCapacity = { Engine.interpretedCapacity with callDepth := 10000 } := by
        simp [Engine.compiledCapacity, Engine.capacityOf, Engine.interpretedCapacity, unpooled]
      rw [capacity] at bounded
      exact Engine.interpreted_of_linked bounded linked'
    · exact Engine.interpreted_of_linked (Engine.interpret_eq_ok linked) linked'
  have name'' : interpreted.moduleName = compiled.moduleName := by rw [name, name', named]
  rw [Handle.call_congr interpreted (compiled.withDepth Engine.interpretedCapacity.callDepth) name'' prepared]
  exact (compiled.call_agree Engine.interpretedCapacity.callDepth exported arguments settings' settings).symm

/-- The bytes of a module that exports the sum of two numbers as `add`. -/
def addition : ByteArray :=
  ⟨#[0x00, 0x61, 0x73, 0x6D, 1, 0, 0, 0,
    -- A function of two numbers that gives a third one, under its name.
    0x01, 7, 1, 0x60, 2, 0x7F, 0x7F, 1, 0x7F, 0x03, 2, 1, 0, 0x07, 7, 1, 3, 0x61, 0x64, 0x64, 0, 0,
    -- What it does.
    0x0A, 9, 1, 7, 0, 0x20, 0, 0x20, 1, 0x6A, 0x0B]⟩

/-- A declaration of a module of these bytes. -/
def summing : HostedModule := ⟨"sum", .dynamic, (Payload.parse "sum" addition).toOption, none, ⟨none, .fail, []⟩⟩

/-- Five and three make eight for a handle. -/
def Handle.sum? (h : Handle) (settings : ExecutionSettings) : Option (List Value × List LogEntry) :=
  ((h.call settings "add" [.i32 5, .i32 3]).1.map Outcome.seen).toOption

/-- Both backends add five and three, one with fuel and one without a meter. -/
theorem backends_agree_on_addition :
    ∃ (f : Factory) (compiled interpreted : Handle),
      (f.build .empty .empty summing .compileNow).1 = .ok compiled ∧
      (f.build .empty .empty summing .interpret).1 = .ok interpreted ∧
      compiled.sum? .standard = some ([.i32 8], []) ∧ interpreted.sum? ⟨0, false⟩ = some ([.i32 8], []) ∧
      AgreeUnless LimitReached ((compiled.call .standard "add" [.i32 5, .i32 3]).1.map Outcome.seen)
        ((interpreted.call ⟨0, false⟩ "add" [.i32 5, .i32 3]).1.map Outcome.seen) := by
  let f : Factory := ⟨.metered ⟨false, 1, 1, true⟩ [], .standard⟩
  -- Compiled, the call has fuel; interpreted, it runs without a meter.
  have sum : ((f.build .empty .empty summing .compileNow).1.toOption.bind (·.sum? .standard)) = some ([.i32 8], []) := by
    decide +kernel
  have sum' : ((f.build .empty .empty summing .interpret).1.toOption.bind (·.sum? ⟨0, false⟩)) = some ([.i32 8], []) := by
    decide +kernel
  obtain ⟨compiled, made, sum⟩ := Option.bind_eq_some_iff.mp sum
  obtain ⟨interpreted, made', sum'⟩ := Option.bind_eq_some_iff.mp sum'
  have built := eq_ok_of_toOption made
  have built' := eq_ok_of_toOption made'
  exact ⟨f, compiled, interpreted, built, built', sum, sum', backends_agree rfl rfl rfl built built' _ _ _ _⟩

end WasmHost

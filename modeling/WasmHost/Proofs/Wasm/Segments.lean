import Mathlib.Data.List.Induction
import WasmHost.Proofs.Handle
import WasmHost.Wasm.Instance

/-! Segments: what they are copied to holds them exactly if they fit the declared sizes; then there is an instance. -/

namespace WasmHost.Wasm

/-! ### Sizes -/

/-- What every round of a loop keeps holds in the end. -/
theorem holds_fold {α : Type} (holds : α → Prop) {count : Nat} {round : (place : Nat) → place < count → α → α} {start : α}
    (first : holds start) (keeps : ∀ place inside a, holds a → holds (round place inside a)) :
    holds (count.fold round start) := by
  induction count with
  | zero => exact first
  | succ count ih =>
    rw [Nat.fold_succ]
    exact keeps _ _ _ (ih fun place inside => keeps place (Nat.lt_succ_of_lt inside))

namespace Memory

@[simp] theorem size_zeroed (pages limit : Nat) : (zeroed pages limit).size = pages * pageSize := by
  simp [zeroed, size]

@[simp] theorem size_set (m : Memory) (address : Nat) (byte : UInt8) : (m.set address byte).size = m.size := by
  simp [set, size]

/-- Writing does not change the size. -/
@[simp] theorem size_write (m : Memory) (address : Nat) (bytes : ByteArray) : (m.write address bytes).size = m.size :=
  holds_fold (fun written => written.size = m.size) rfl fun _ _ written same => (size_set written _ _).trans same

end Memory

namespace Table

/-- Writing does not change the number of elements. -/
@[simp] theorem size_write (t : Table) (start : Nat) (items : Array Nat) :
    (t.write start items).elements.size = t.elements.size :=
  holds_fold (fun all : Array Nat => all.size = t.elements.size) rfl fun _ _ _ same =>
    Array.size_setIfInBounds.trans same

end Table

/-! ### Segments that fit -/

/-- The number of elements that a segment holds. -/
def ElementSegment.count (segment : ElementSegment) : Nat :=
  match segment.items with
  | .functions indices => indices.length
  | .expressions items => items.length

/-- The values that the globals of an instance start with. -/
def Module.globalValues (m : Module) : Array Nat :=
  m.globals.foldl (fun globals g => globals.push (Linked.constant globals g.init)) #[]

/-- Whether a segment lies inside of the table that it is copied to at the start, if it is. -/
def ElementSegment.fits (m : Module) (segment : ElementSegment) : Bool :=
  match segment.mode with
  | .passive | .declared => true
  | .active target offset => (m.tables[target]?).any fun table =>
      Linked.constant m.globalValues offset + segment.count ≤ table.type.limits.initial

/-- Whether a segment lies inside of the memory that it is copied to at the start, if it is. -/
def DataSegment.fits (m : Module) (segment : DataSegment) : Bool :=
  match segment.mode with
  | .passive | .declared => true
  | .active target offset => (m.memories[target]?).any fun memory =>
      Linked.constant m.globalValues offset + segment.bytes.size ≤ memory.limits.initial * pageSize

/-- All segments lie inside of what they are copied to, at the sizes that tables and memories start with. -/
structure Module.SegmentsFit (m : Module) : Prop where
  elements : ∀ segment ∈ m.elements, segment.fits m
  data : ∀ segment ∈ m.data, segment.fits m

instance (m : Module) : Decidable m.SegmentsFit :=
  decidable_of_iff ((∀ segment ∈ m.elements, segment.fits m) ∧ ∀ segment ∈ m.data, segment.fits m)
    ⟨fun fits => ⟨fits.1, fits.2⟩, fun fits => ⟨fits.elements, fits.data⟩⟩

namespace Linked

/-! ### Outcomes that a condition decides -/

/-- An outcome is a success exactly under a condition, and then something holds of it. -/
def SucceedsIff {σ κ : Type} (condition : Prop) (holds : σ → Prop) : Except κ σ → Prop
  | .ok state => condition ∧ holds state
  | .error _ => ¬ condition

namespace SucceedsIff

variable {σ τ α κ : Type} {condition further : Prop} {holds : σ → Prop} {later : τ → Prop}

theorem exists_ok_iff {outcome : Except κ σ} (decided : SucceedsIff condition holds outcome) :
    (∃ state, outcome = .ok state) ↔ condition := by
  cases outcome with
  | ok state => exact iff_of_true ⟨state, rfl⟩ decided.1
  | error why => exact iff_of_false (by simp) decided

/-- Two parts need both of their conditions. -/
theorem bind {first : Except κ σ} {next : σ → Except κ τ} (start : SucceedsIff condition holds first)
    (rest : ∀ state, holds state → SucceedsIff further later (next state)) :
    SucceedsIff (condition ∧ further) later (first >>= next) := by
  -- If the first part fails, its condition does not hold, and neither do both.
  cases first with
  | error why => exact fun both => start both.1
  | ok state =>
    have second := rest state start.2
    change SucceedsIff _ _ (next state)
    cases outcome : next state with
    | ok last =>
      rw [outcome] at second
      exact ⟨⟨start.1, second.1⟩, second.2⟩
    | error why =>
      rw [outcome] at second
      exact fun both => second both.2

/-- A loop over numbered items needs the conditions of all of them, if every round keeps what the next one relies on. -/
theorem foldlM (holds : Nat → σ → Prop) {f : σ → α × Nat → Except κ σ} {good : α → Prop} {items : List α} {state : σ}
    (start : holds 0 state) (rounds : ∀ place item, items[place]? = some item → ∀ state, holds place state →
      SucceedsIff (good item) (holds (place + 1)) (f state (item, place))) :
    SucceedsIff (∀ item ∈ items, good item) (holds items.length) (items.zipIdx.foldlM f state) := by
  -- The induction is on the items from the last one, because a round knows those before it.
  induction items using List.reverseRecOn with
  | nil => exact ⟨by simp, start⟩
  | append_singleton before item ih =>
    have earlier := ih fun place other found =>
      have inside := (List.getElem?_eq_some_iff.mp found).1
      rounds place other ((List.getElem?_append_left inside).trans found)
    have last := rounds before.length item List.getElem?_concat_length
    have both := earlier.bind last
    simpa [List.zipIdx_append, or_imp, forall_and] using both

end SucceedsIff

/-! ### Instances -/

/-- A store has the sizes that a module declares, and the segments of elements from some place on are all left. -/
structure Sized (m : Module) (place : Nat) (store : Store) : Prop where
  globals : store.globals = m.globalValues
  tables : store.tables.toList.map (·.elements.size) = m.tables.map (·.type.limits.initial)
  memories : store.memories.toList.map (·.size) = m.memories.map (·.limits.initial * pageSize)
  left : ∀ later segment, place ≤ later → m.elements[later]? = some segment →
    (store.elements.getD later #[]).size = segment.count

variable {ε : Type} {m : Module} {store : Store} {place : Nat}

theorem size_segmentItems (globals : Array Nat) (segment : ElementSegment) :
    (segmentItems globals segment).size = segment.count := by
  unfold segmentItems ElementSegment.count
  cases segment.items <;> simp

theorem sized_emptyStore (l : Linked ε) : Sized l.module 0 l.emptyStore where
  globals := rfl
  tables := by
    simp [emptyStore, Function.comp_def]
  memories := by
    simp [emptyStore, Function.comp_def]
  left place segment _ declared := by
    simp [emptyStore, declared, size_segmentItems]

/-- A change that keeps the size of everything keeps the sizes of a list. -/
theorem map_modify {α : Type} (size : α → Nat) (change : α → α) (same : ∀ a, size (change a) = size a)
    (all : Array α) (place : Nat) : (all.modify place change).toList.map size = all.toList.map size := by
  refine List.ext_getElem? fun other => ?_
  rw [Array.toList_modify, List.getElem?_map, List.getElem?_map, List.getElem?_modify]
  by_cases here : place = other
  · cases all.toList[other]? <;> simp [here, same]
  · simp [here]

/-- Whatever has room by what is declared has room in a store. -/
theorem any_of_sizes {α β : Type} {size : α → Nat} {declared : β → Nat} {all : Array α} {types : List β}
    (sizes : all.toList.map size = types.map declared) (target needed : Nat) :
    (all[target]?).any (needed ≤ size ·) = (types[target]?).any (needed ≤ declared ·) := by
  have same : (all[target]?).map size = (types[target]?).map declared := by
    rw [← Array.getElem?_toList, ← List.getElem?_map, sizes, List.getElem?_map]
  calc (all[target]?).any (needed ≤ size ·)
      = ((all[target]?).map size).any (needed ≤ ·) := by rw [Option.any_map]
    _ = (types[target]?).any (needed ≤ declared ·) := by rw [same, Option.any_map]

/-- An element segment is copied into its table exactly if it fits; the table keeps its size. -/
theorem placeElements_succeedsIff (sized : Sized m place store) {segment : ElementSegment}
    (declared : m.elements[place]? = some segment) :
    SucceedsIff (segment.fits m) (Sized m (place + 1)) (placeElements store segment place) := by
  -- All later ones are left.
  have left : ∀ later segment, place + 1 ≤ later → m.elements[later]? = some segment →
      ((store.elements.setIfInBounds place #[]).getD later #[]).size = segment.count := by
    intro later segment beyond found
    rw [Array.getD_eq_getD_getElem?, Array.getElem?_setIfInBounds_ne (by omega), ← Array.getD_eq_getD_getElem?]
    exact sized.left later segment (by omega) found
  unfold placeElements ElementSegment.fits
  cases segment.mode with
  | passive =>
    exact ⟨rfl, sized.globals, sized.tables, sized.memories, fun later segment beyond => sized.left later segment (by omega)⟩
  | declared => exact ⟨rfl, sized.globals, sized.tables, sized.memories, left⟩
  | active target offset =>
    have room : (store.tables[target]?).any (·.holds (constant store.globals offset) (store.elements.getD place #[]).size) =
        (m.tables[target]?).any (constant m.globalValues offset + segment.count ≤ ·.type.limits.initial) := by
      rw [← any_of_sizes sized.tables, sized.left place segment (Nat.le_refl _) declared, sized.globals]
      rfl
    simp only [room]
    split
    · rename_i fits
      exact ⟨fits, sized.globals, (map_modify _ _ (fun t => t.size_write _ _) _ _).trans sized.tables, sized.memories, left⟩
    · assumption

/-- A data segment is copied into its memory exactly if it fits; the memory keeps its size. -/
theorem placeData_succeedsIff (sized : Sized m place store) (segment : DataSegment) (index : Nat) :
    SucceedsIff (segment.fits m) (Sized m place) (placeData store segment index) := by
  unfold placeData DataSegment.fits
  cases segment.mode with
  -- Only active segments are copied when the instance is made.
  | passive | declared => exact ⟨rfl, sized⟩
  | active target offset =>
    -- Whether it fits is decided by the size of the memory, which is still the initial one.
    have room : (store.memories[target]?).any (·.holds (constant store.globals offset) segment.bytes.size) =
        (m.memories[target]?).any (constant m.globalValues offset + segment.bytes.size ≤ ·.limits.initial * pageSize) := by
      rw [← any_of_sizes sized.memories, sized.globals]
      rfl
    simp only [room]
    split
    · rename_i fits
      exact ⟨fits, sized.globals, sized.tables, (map_modify _ _ (fun m => m.size_write _ _) _ _).trans sized.memories,
        sized.left⟩
    · assumption

/-- An instance is filled with the elements first, and then with the data. -/
theorem freshStore_eq (l : Linked ε) : l.freshStore = (do
    let middle ← l.module.elements.zipIdx.foldlM (fun store item => placeElements store item.1 item.2) l.emptyStore
    l.module.data.zipIdx.foldlM (fun store item => placeData store item.1 item.2) middle) := rfl

/-- There is an instance of exactly those modules whose segments fit. -/
theorem exists_freshStore_iff (l : Linked ε) : (∃ store, l.freshStore = .ok store) ↔ l.module.SegmentsFit := by
  -- Tables are filled first, and memories after them.
  have elements : SucceedsIff (∀ segment ∈ l.module.elements, segment.fits l.module)
      (Sized l.module l.module.elements.length)
      (l.module.elements.zipIdx.foldlM (fun store item => placeElements store item.1 item.2) l.emptyStore) :=
    .foldlM (Sized l.module) (sized_emptyStore l) fun place segment declared store sized => placeElements_succeedsIff sized declared
  have data : ∀ middle, Sized l.module l.module.elements.length middle →
      SucceedsIff (∀ segment ∈ l.module.data, segment.fits l.module) (Sized l.module l.module.elements.length)
        (l.module.data.zipIdx.foldlM (fun store item => placeData store item.1 item.2) middle) := fun middle sized =>
    .foldlM (fun _ => Sized l.module l.module.elements.length) sized
      fun place segment _ store sized => placeData_succeedsIff sized segment place
  rw [freshStore_eq, (elements.bind data).exists_ok_iff]
  exact ⟨fun fits => ⟨fits.1, fits.2⟩, fun fits => ⟨fits.elements, fits.data⟩⟩

end Linked

end WasmHost.Wasm

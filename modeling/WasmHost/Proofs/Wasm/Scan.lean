import WasmHost.Proofs.Wasm.Checked
import WasmHost.Wasm.Binary.Scan

/-! The scan of the sections: on the bytes of a module it succeeds, and tells what the module has. -/

namespace WasmHost.Wasm

namespace Reader

variable {α β : Type}

/-- A reader gives a value at a place of some bytes, and comes to another place. -/
def Reads (r : Reader α) (bytes : ByteArray) (start : Nat) (value : α) (next : Nat) : Prop :=
  r bytes start = .ok (value, next)

variable {bytes : ByteArray} {start next : Nat}

/-- One reader after the other. -/
theorem reads_bind_iff {r : Reader α} {k : α → Reader β} {value : β} :
    (r >>= k).Reads bytes start value next ↔ ∃ first middle, r.Reads bytes start first middle ∧
      (k first).Reads bytes middle value next := by
  show (r bytes start >>= fun read => k read.1 bytes read.2) = .ok (value, next) ↔ _
  rw [bind_eq_ok_iff, Prod.exists]
  rfl

theorem reads_pure_iff {value result : α} : Reads (pure value) bytes start result next ↔ result = value ∧ next = start := by
  show Except.ok (value, start) = .ok (result, next) ↔ _
  simp [eq_comm]

theorem not_reads_reject {why : Malformed} {value : α} : ¬ Reads (reject why) bytes start value next := nofun

theorem reads_remaining_iff {count : Nat} :
    remaining.Reads bytes start count next ↔ count = bytes.size - start ∧ next = start := by
  show Except.ok (bytes.size - start, start) = .ok (count, next) ↔ _
  simp [eq_comm]

/-- A number of bytes can be taken if they are there. -/
theorem reads_take_iff {count : Nat} {taken : ByteArray} : (take count).Reads bytes start taken next ↔
    start + count ≤ bytes.size ∧ taken = bytes.extract start (start + count) ∧ next = start + count := by
  by_cases short : bytes.size < start + count
  · have refused : take count bytes start = .error .unexpectedEnd := by
      show (if bytes.size < start + count then _ else _ : Reader ByteArray) bytes start = _
      rw [if_pos short]
      rfl
    simp only [Reads, refused, reduceCtorEq, false_iff]
    omega
  · have taken' : take count bytes start = .ok (bytes.extract start (start + count), start + count) := by
      show (if bytes.size < start + count then _ else _ : Reader ByteArray) bytes start = _
      rw [if_neg short]
      rfl
    simp only [Reads, taken', Except.ok.injEq, Prod.mk.injEq]
    refine ⟨fun same => ⟨by omega, same.1.symm, same.2.symm⟩, fun same => ⟨same.2.1.symm, same.2.2.symm⟩⟩

/-- A byte is read inside. -/
theorem next_le_of_reads_byte {value : Nat} (read : byte.Reads bytes start value next) : next ≤ bytes.size := by
  obtain ⟨found, middle, peeked, rest⟩ := reads_bind_iff.1 read
  have moved : (Except.ok (found, middle + 1) : Except Malformed (Nat × Nat)) = .ok (value, next) := rest
  simp only [Except.ok.injEq, Prod.mk.injEq] at moved
  obtain ⟨rfl, rfl⟩ := moved
  -- The byte was looked up before the place was moved.
  have looked : (if inside : start < bytes.size then pure bytes[start].toNat else reject .unexpectedEnd : Reader Nat).Reads
    bytes start found middle := peeked
  split at looked
  · obtain ⟨_, rfl⟩ := reads_pure_iff.1 looked
    assumption
  · exact absurd looked not_reads_reject

/-- So is an integer, whose last byte is. -/
theorem next_le_of_reads_unsigned {more missing shift before value : Nat}
    (read : (unsigned.go more missing shift before).Reads bytes start value next) : next ≤ bytes.size := by
  -- The induction is on the bytes that the integer may still have.
  induction more generalizing missing shift before start with
  | zero => exact absurd read not_reads_reject
  | succ more ih =>
    obtain ⟨last, middle, here, rest⟩ := reads_bind_iff.1 read
    have inside : middle ≤ bytes.size := next_le_of_reads_byte here
    dsimp only at rest
    split_ifs at rest
    · exact absurd rest not_reads_reject
    · exact absurd rest not_reads_reject
    · obtain ⟨_, rfl⟩ := reads_pure_iff.1 rest
      exact inside
    · obtain ⟨_, rfl⟩ := reads_pure_iff.1 rest
      exact inside
    · exact ih rest

theorem next_le_of_reads_u32 {value : Nat} (read : u32.Reads bytes start value next) : next ≤ bytes.size :=
  next_le_of_reads_unsigned read

/-- A reader of the whole comes to the end. -/
theorem whole_eq_ok_iff {what : String} {r : Reader α} {value : α} :
    whole what bytes r = .ok value ↔ r.Reads bytes 0 value bytes.size := by
  unfold whole
  rw [bind_eq_ok_iff, Prod.exists]
  constructor
  · rintro ⟨found, place, read, rest⟩
    dsimp only at rest
    split at rest
    · rename_i complete
      cases rest
      exact complete ▸ read
    · cases rest
  · intro read
    exact ⟨value, bytes.size, read, by simp; rfl⟩

/-- The next bytes are read on their own, and as a whole. -/
theorem reads_within_iff {what : String} {count : Nat} {r : Reader α} {value : α} :
    (within what count r).Reads bytes start value next ↔ start + count ≤ bytes.size ∧ next = start + count ∧
      r.Reads (bytes.extract start (start + count)) 0 value count := by
  unfold within
  rw [reads_bind_iff]
  constructor
  · -- The bytes are taken, and read as if there were no others.
    rintro ⟨taken, middle, took, rest⟩
    obtain ⟨inside, rfl, rfl⟩ := reads_take_iff.1 took
    cases read : whole what (bytes.extract start (start + count)) r with
    | error why =>
      rw [read] at rest
      exact absurd rest not_reads_reject
    | ok found =>
      rw [read] at rest
      obtain ⟨rfl, rfl⟩ := reads_pure_iff.1 rest
      have complete := whole_eq_ok_iff.1 read
      rw [ByteArray.size_extract, Nat.min_eq_left inside, Nat.add_sub_cancel_left] at complete
      exact ⟨inside, rfl, complete⟩
  · rintro ⟨inside, rfl, complete⟩
    refine ⟨_, _, reads_take_iff.2 ⟨inside, rfl, rfl⟩, ?_⟩
    have read : whole what (bytes.extract start (start + count)) r = .ok value := by
      rw [whole_eq_ok_iff, ByteArray.size_extract, Nat.min_eq_left inside, Nat.add_sub_cancel_left]
      exact complete
    rw [read]
    exact reads_pure_iff.2 ⟨rfl, rfl⟩

/-- What is left can be passed over. -/
theorem reads_skip (inside : start ≤ bytes.size) : skip.Reads bytes start () bytes.size := by
  unfold skip
  refine reads_bind_iff.2 ⟨_, _, reads_remaining_iff.2 ⟨rfl, rfl⟩, reads_bind_iff.2 ⟨_, _, reads_take_iff.2 ⟨?_, rfl, rfl⟩, ?_⟩⟩
  · omega
  · exact reads_pure_iff.2 ⟨rfl, by omega⟩

/-- As many items are read as were asked for. -/
theorem length_of_reads_go {item : Reader α} {count : Nat} {before found : List α}
    (read : (times.go item count before).Reads bytes start found next) : found.length = before.length + count := by
  induction count generalizing before start with
  | zero =>
    obtain ⟨rfl, rfl⟩ := reads_pure_iff.1 read
    simp
  | succ count ih =>
    obtain ⟨first, middle, _, rest⟩ := reads_bind_iff.1 read
    rw [ih rest]
    simp
    omega

/-- A sequence is its items, of which there are not too many. -/
theorem items_of_reads_sequence {what : String} {limit : Nat} {item : Reader α} {found : List α}
    (read : (sequence what limit item).Reads bytes start found next) : found.length ≤ limit ∧
      (items item).Reads bytes start found next ∧ ∃ middle, u32.Reads bytes start found.length middle := by
  obtain ⟨count, middle, counted, rest⟩ := reads_bind_iff.1 read
  dsimp only at rest
  split at rest
  · obtain ⟨_, _, rejected, _⟩ := reads_bind_iff.1 rest
    exact absurd rejected not_reads_reject
  · -- The count was read before the items, and it is how many there are.
    have length : found.length = count := by simpa using length_of_reads_go rest
    exact ⟨by omega, reads_bind_iff.2 ⟨count, middle, counted, rest⟩, middle, length ▸ counted⟩

/-- What has been gathered describes a module, of which no section beyond a place has been read. -/
structure Describes (last : Nat) (m : Module) (s : Scan) : Prop where
  exports : s.exports = m.exports
  imported : s.imported = m.importedFunctions.length.toUInt32
  defined : s.defined = m.functions.length.toUInt32
  unimported : last < 2 → m.imports = []
  unexported : last < 8 → m.exports = []
  -- The sections limit the numbers.
  few : m.imports.length ≤ maxItems
  limited : m.functions.length ≤ maxItems

theorem describes_empty : Describes 0 .empty .empty := by
  constructor <;> simp [Scan.empty, Module.empty, Module.importedFunctions]

/-- It still does when a section is read that tells nothing. -/
theorem Describes.other {last place : Nat} {m added : Module} {s : Scan} (describes : Describes last m s)
    (after : last < place) (exports : added.exports = m.exports) (imports : added.imports = m.imports)
    (functions : added.functions = m.functions) : Describes place added s where
  exports := describes.exports.trans exports.symm
  imported := by rw [describes.imported, Module.importedFunctions, Module.importedFunctions, imports]
  defined := by rw [describes.defined, functions]
  unimported early := imports.trans (describes.unimported (by omega))
  unexported early := exports.trans (describes.unexported (by omega))
  few := imports ▸ describes.few
  limited := functions ▸ describes.limited

/-- A section that tells nothing is passed over. -/
theorem reads_scanContent_other {id : Nat} (other : id ≠ 2 ∧ id ≠ 3 ∧ id ≠ 7) (s : Scan) :
    (scanContent id s).Reads bytes 0 s bytes.size := by
  unfold scanContent
  split
  · exact absurd rfl other.1
  · exact absurd rfl other.2.1
  · exact absurd rfl other.2.2
  · exact reads_bind_iff.2 ⟨(), _, reads_skip (Nat.zero_le _), reads_pure_iff.2 ⟨rfl, rfl⟩⟩

/-- The functions among the imports are those that are counted. -/
theorem length_importedFunctions (m : Module) :
    m.importedFunctions.length = (m.imports.filter fun i => i.type matches .func _).length := by
  unfold Module.importedFunctions
  induction m.imports with
  | nil => rfl
  | cons i imports ih => 
    rw [List.filterMap_cons, List.filter_cons]
    cases i.type <;> simp [ih]

section

variable {id place last : Nat} {m added : Module} {s : Scan}

theorem describes_imports (describes : Describes last m s) (after : last < 2)
    (read : (sectionContent 2 m).Reads bytes 0 added bytes.size) :
    ∃ s', (scanContent 2 s).Reads bytes 0 s' bytes.size ∧ Describes 2 added s' := by
  obtain ⟨imports, middle, sequence, rest⟩ := reads_bind_iff.1 read
  obtain ⟨rfl, rfl⟩ := reads_pure_iff.1 rest
  obtain ⟨few, listed, -⟩ := items_of_reads_sequence sequence
  refine ⟨_, reads_bind_iff.2 ⟨imports, _, listed, reads_pure_iff.2 ⟨rfl, rfl⟩⟩, ?_⟩
  -- No import was counted before.
  have none : s.imported = 0 := by
    rw [describes.imported, Module.importedFunctions, describes.unimported after]
    rfl
  exact {
    exports := describes.exports
    imported := (congrArg (· + _) none).trans ((UInt32.zero_add _).trans
      (congrArg Nat.toUInt32 (length_importedFunctions { m with imports }).symm))
    defined := describes.defined
    unimported := fun early => absurd early (Nat.lt_irrefl 2)
    unexported := fun _ => describes.unexported (by omega)
    few := few
    limited := describes.limited }

theorem describes_functions (describes : Describes last m s) (after : last < 3)
    (read : (sectionContent 3 m).Reads bytes 0 added bytes.size) :
    ∃ s', (scanContent 3 s).Reads bytes 0 s' bytes.size ∧ Describes 3 added s' := by
  obtain ⟨functions, middle, sequence, rest⟩ := reads_bind_iff.1 read
  obtain ⟨rfl, rfl⟩ := reads_pure_iff.1 rest
  obtain ⟨limited, _, place, counted⟩ := items_of_reads_sequence sequence
  have inside : place ≤ bytes.size := next_le_of_reads_u32 counted
  -- The count tells how many there are, and they are passed over.
  exact ⟨_, reads_bind_iff.2 ⟨functions.length, place, counted,
    reads_bind_iff.2 ⟨(), _, reads_skip inside, reads_pure_iff.2 ⟨rfl, rfl⟩⟩⟩, {
      exports := describes.exports
      imported := describes.imported
      defined := rfl
      unimported := fun early => absurd early (by decide)
      unexported := fun early => describes.unexported (by omega)
      few := describes.few
      limited := limited }⟩

theorem describes_exports (describes : Describes last m s) (after : last < 8)
    (read : (sectionContent 7 m).Reads bytes 0 added bytes.size) :
    ∃ s', (scanContent 7 s).Reads bytes 0 s' bytes.size ∧ Describes 8 added s' := by
  obtain ⟨exports, middle, sequence, rest⟩ := reads_bind_iff.1 read
  obtain ⟨rfl, rfl⟩ := reads_pure_iff.1 rest
  obtain ⟨_, listed, -⟩ := items_of_reads_sequence sequence
  refine ⟨_, reads_bind_iff.2 ⟨exports, _, listed, reads_pure_iff.2 ⟨rfl, rfl⟩⟩, ?_⟩
  -- No export was listed before.
  have none : s.exports = [] := describes.exports.trans (describes.unexported after)
  exact {
    exports := by rw [none, List.nil_append]
    imported := describes.imported
    defined := describes.defined
    unimported := fun early => absurd early (by decide)
    unexported := fun early => absurd early (Nat.lt_irrefl 8)
    few := describes.few
    limited := describes.limited }

/-- The content of a section is scanned for what it adds to the module. -/
theorem describes_sectionContent (describes : Describes last m s)
    (known : sectionPlace? id = some place) (after : last < place)
    (read : (sectionContent id m).Reads bytes 0 added bytes.size) :
    ∃ s', (scanContent id s).Reads bytes 0 s' bytes.size ∧ Describes place added s' := by
  -- Only three sections say anything about imports, functions and exports.
  have other (quiet : id ≠ 2 ∧ id ≠ 3 ∧ id ≠ 7) (exports : added.exports = m.exports) (imports : added.imports = m.imports)
      (functions : added.functions = m.functions) :
      ∃ s', (scanContent id s).Reads bytes 0 s' bytes.size ∧ Describes place added s' :=
    ⟨s, reads_scanContent_other quiet s, describes.other after exports imports functions⟩
  unfold sectionPlace? at known
  split at known
  case h_2 =>
    cases known
    exact describes_imports describes after read
  case h_3 =>
    cases known
    exact describes_functions describes after read
  case h_8 =>
    cases known
    exact describes_exports describes after read
  case h_14 => cases known
  all_goals
    obtain ⟨_, _, _, rest⟩ := reads_bind_iff.1 read
    obtain ⟨rfl, rfl⟩ := reads_pure_iff.1 rest
    exact other (by decide) rfl rfl rfl

end

/-- How sections are read: there are none left, or one is read and then the others. -/
theorem reads_sections_succ {fuel last : Nat} {m complete : Module}
    (read : (sections (fuel + 1) last m).Reads bytes start complete next) :
    (bytes.size - start = 0 ∧ complete = m ∧ next = start) ∨
      bytes.size - start ≠ 0 ∧ ∃ id first size second, byte.Reads bytes start id first ∧ u32.Reads bytes first size second ∧
        ∃ third, (id = 0 ∧ (within "section" size customContent).Reads bytes second () third ∧
            (sections fuel last m).Reads bytes third complete next) ∨
          ∃ place added, sectionPlace? id = some place ∧ last < place ∧
            (within "section" size (sectionContent id m)).Reads bytes second added third ∧
            (sections fuel place added).Reads bytes third complete next := by
  obtain ⟨left, _, remains, rest⟩ := reads_bind_iff.1 read
  obtain ⟨rfl, same⟩ := reads_remaining_iff.1 remains
  rw [same] at rest
  by_cases done : bytes.size - start = 0
  · rw [if_pos done] at rest
    obtain ⟨rfl, rfl⟩ := reads_pure_iff.1 rest
    exact .inl ⟨done, rfl, rfl⟩
  rw [if_neg done] at rest
  obtain ⟨id, first, named, rest⟩ := reads_bind_iff.1 rest
  obtain ⟨size, second, sized, rest⟩ := reads_bind_iff.1 rest
  refine .inr ⟨done, id, first, size, second, named, sized, ?_⟩
  -- A custom section may stand anywhere, and changes nothing.
  by_cases custom : id = 0
  · rw [if_pos custom] at rest
    obtain ⟨_, third, content, others⟩ := reads_bind_iff.1 rest
    exact ⟨third, .inl ⟨custom, content, others⟩⟩
  rw [if_neg custom] at rest
  cases known : sectionPlace? id with
  | none =>
    rw [known] at rest
    exact absurd rest not_reads_reject
  | some place =>
    rw [known] at rest
    dsimp only at rest
    -- All others come in order.
    by_cases late : place ≤ last
    · rw [if_pos late] at rest
      obtain ⟨_, _, rejected, _⟩ := reads_bind_iff.1 rest
      exact absurd rejected not_reads_reject
    · rw [if_neg late] at rest
      obtain ⟨added, third, content, others⟩ := reads_bind_iff.1 rest
      exact ⟨third, .inr ⟨place, added, rfl, Nat.not_le.1 late, content, others⟩⟩

/-- Sections that are left are scanned one after the other. -/
theorem reads_scanSections_succ {fuel first second third id size : Nat} {s found complete : Scan}
    (some : bytes.size - start ≠ 0) (named : byte.Reads bytes start id first) (sized : u32.Reads bytes first size second)
    (content : (within "section" size (scanContent id s)).Reads bytes second found third)
    (others : (scanSections fuel found).Reads bytes third complete next) :
    (scanSections (fuel + 1) s).Reads bytes start complete next := by
  refine reads_bind_iff.2 ⟨_, _, reads_remaining_iff.2 ⟨rfl, rfl⟩, ?_⟩
  rw [if_neg some]
  exact reads_bind_iff.2 ⟨id, first, named, reads_bind_iff.2 ⟨size, second, sized, reads_bind_iff.2 ⟨found, third, content, others⟩⟩⟩

/-- Where sections can be read, they can be scanned, and the scan describes the module. -/
theorem describes_sections {fuel last : Nat} {m complete : Module} {s : Scan} (describes : Describes last m s)
    (read : (sections fuel last m).Reads bytes start complete next) :
    ∃ s' last', (scanSections fuel s).Reads bytes start s' next ∧ Describes last' complete s' := by
  -- Each section is read and scanned from the same place on.
  induction fuel generalizing last m s start with
  | zero => exact absurd read not_reads_reject
  | succ fuel ih =>
    rcases reads_sections_succ read with ⟨done, rfl, rfl⟩ |
      ⟨left, id, first, size, second, named, sized, third, ⟨rfl, content, others⟩ |
        ⟨place, added, known, after, content, others⟩⟩
    · refine ⟨s, last, reads_bind_iff.2 ⟨_, _, reads_remaining_iff.2 ⟨rfl, rfl⟩, ?_⟩, describes⟩
      rw [if_pos done]
      exact reads_pure_iff.2 ⟨rfl, rfl⟩
    · obtain ⟨inside, rfl, _⟩ := reads_within_iff.1 content
      obtain ⟨s', last', scanned, described⟩ := ih describes others
      -- A custom section tells nothing.
      have passed : (scanContent 0 s).Reads (bytes.extract second (second + size)) 0 s
          (bytes.extract second (second + size)).size := reads_scanContent_other (by decide) s
      rw [ByteArray.size_extract, Nat.min_eq_left inside, Nat.add_sub_cancel_left] at passed
      exact ⟨s', last', reads_scanSections_succ left named sized (reads_within_iff.2 ⟨inside, rfl, passed⟩) scanned,
        described⟩
    · obtain ⟨inside, rfl, contained⟩ := reads_within_iff.1 content
      have complete : (bytes.extract second (second + size)).size = size := by
        rw [ByteArray.size_extract, Nat.min_eq_left inside, Nat.add_sub_cancel_left]
      obtain ⟨found, gathered, described⟩ := describes_sectionContent describes known after
        (complete.symm ▸ contained : (sectionContent id m).Reads _ 0 added (bytes.extract second (second + size)).size)
      obtain ⟨s', last', scanned, described'⟩ := ih described others
      rw [complete] at gathered
      exact ⟨s', last', reads_scanSections_succ left named sized (reads_within_iff.2 ⟨inside, rfl, gathered⟩) scanned,
        described'⟩

end Reader

/-- The bytes of a valid module can be scanned, which tells what it has. -/
theorem Scan.exists_of_parse {f : Features} {bytes : ByteArray} {m : Module} (parsed : Module.parse f bytes = .ok m) :
    ∃ s last, Scan.ofBytes bytes = .ok s ∧ Reader.Describes last m s := by
  obtain ⟨header, read, _⟩ := Module.parse_eq_ok_iff.1 parsed
  obtain ⟨s, last, scanned, describes⟩ := Reader.describes_sections Reader.describes_empty (Reader.whole_eq_ok_iff.1 read)
  refine ⟨s, last, check_bind_eq_ok_iff.2 ⟨header, ?_⟩, describes⟩
  dsimp only
  rw [Reader.whole_eq_ok_iff.2 scanned, mapError_ok]

end WasmHost.Wasm

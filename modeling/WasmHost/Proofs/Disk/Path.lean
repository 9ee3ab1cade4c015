import Mathlib.Data.String.Basic
import WasmHost.Disk.Path

/-! Laws of paths: their pieces, which of them only lead down, and where a joined path leads. -/

namespace WasmHost.Path

/-- A split goes on with the piece that was begun, and keeps the ones that were found. -/
theorem splitOnAux_slash (before begun rest : List Char) (found : List String) :
    (String.ofList (before ++ begun ++ rest)).splitOnAux "/" ⟨String.utf8Len before⟩
        ⟨String.utf8Len before + String.utf8Len begun⟩ 0 found =
      found.reverse ++ (List.splitOnPPrepend (· == '/') rest begun.reverse).map String.ofList := by
  have slash : String.Pos.Raw.get "/" 0 = '/' := by decide +kernel
  have width : String.Pos.Raw.next "/" 0 = ⟨'/'.utf8Size⟩ := by decide +kernel
  have single : String.Pos.Raw.atEnd "/" ⟨'/'.utf8Size⟩ := by decide +kernel
  -- The induction is on the characters that are left; the cut and the piece move on with them.
  induction rest generalizing before begun found with
  | nil =>
    have done : String.Pos.Raw.atEnd (String.ofList (before ++ begun ++ []))
        ⟨String.utf8Len before + String.utf8Len begun⟩ := by
      simpa using (String.atEnd_of_valid (before ++ begun) []).2 rfl
    rw [String.splitOnAux, if_pos done]
    simpa using String.extract_of_valid before begun []
  | cons c rest ih =>
    have undone : ¬ String.Pos.Raw.atEnd (String.ofList (before ++ begun ++ c :: rest))
        ⟨String.utf8Len before + String.utf8Len begun⟩ := by
      simpa using mt (String.atEnd_of_valid (before ++ begun) (c :: rest)).1 (by simp)
    have here : String.Pos.Raw.get (String.ofList (before ++ begun ++ c :: rest))
        ⟨String.utf8Len before + String.utf8Len begun⟩ = c := by
      simpa using String.get_of_valid (before ++ begun) (c :: rest)
    have onward : String.Pos.Raw.next (String.ofList (before ++ begun ++ c :: rest))
        ⟨String.utf8Len before + String.utf8Len begun⟩ =
          ⟨String.utf8Len before + String.utf8Len begun + c.utf8Size⟩ := by
      simpa using String.next_of_valid (before ++ begun) c rest
    rw [String.splitOnAux, if_neg undone]
    by_cases cut : c = '/'
    · -- A slash ends the piece, and the next one begins behind it.
      subst cut
      have piece : String.Pos.Raw.extract (String.ofList (before ++ begun ++ '/' :: rest))
          ⟨String.utf8Len before⟩ ⟨String.utf8Len before + String.utf8Len begun⟩ = String.ofList begun :=
        String.extract_of_valid before begun ('/' :: rest)
      have behind := ih (before ++ begun ++ ['/']) [] (String.ofList begun :: found)
      simp only [here, slash, beq_self_eq_true, if_true, onward, width, single, String.Pos.Raw.unoffsetBy,
        Nat.add_sub_cancel, piece]
      simpa [List.splitOnPPrepend_cons_eq_if, Nat.add_assoc] using behind
    · have longer := ih before (begun ++ [c]) found
      have still (place : String.Pos.Raw) : place.unoffsetBy 0 = place := rfl
      simp only [here, slash, beq_iff_eq, if_neg cut, still, onward]
      simpa [List.splitOnPPrepend_cons_eq_if, cut, Nat.add_assoc] using longer

/-- The pieces of a path are what stands between the slashes. -/
theorem pieces_eq (path : Path) : pieces path = (path.toList.splitOn '/').map String.ofList := by
  have whole := splitOnAux_slash [] [] path.toList []
  simpa [pieces, String.splitOn, List.splitOn_eq_splitOnP] using whole

/-- A path has a piece at least. -/
theorem pieces_ne_nil (path : Path) : pieces path ≠ [] := by
  simp [pieces_eq, List.splitOn_eq_splitOnP]

/-- A slash separates the pieces before it from those behind it. -/
theorem pieces_append_slash (base path : Path) :
    pieces (base ++ "/" ++ path) = pieces base ++ pieces path := by
  simp [pieces_eq, List.splitOn_eq_splitOnP, List.splitOnP_append_cons]

/-- A relative path that is not empty starts with a piece that is not empty. -/
theorem head?_pieces_ne_empty {path : Path} (relative : isAbsolute path = false) (filled : path ≠ "") :
    (pieces path).head? ≠ some "" := by
  cases text : path.toList with
  | nil => exact absurd (String.toList_eq_nil_iff.1 text) filled
  | cons c rest =>
    have other : c ≠ '/' := by simpa [isAbsolute, text] using relative
    -- The first character is no slash, so that it belongs to the first piece.
    obtain ⟨piece, others, split⟩ := List.exists_cons_of_ne_nil (List.splitOnP_ne_nil (· == '/') rest)
    simp [pieces_eq, text, List.splitOn_eq_splitOnP, List.splitOnP_cons_eq_if_modifyHead, other, split]

/-- Dots are no names, and all other pieces are. -/
theorem exists_component_eq_normal {piece : String} :
    (∃ name, component piece = .normal name) ↔ piece ≠ "." ∧ piece ≠ ".." := by
  unfold component
  split_ifs with dot parent
  · simp [dot]
  · simp [parent]
  · simp [dot, parent]

/-- A path that leads only down consists of names. -/
theorem descends_iff_components {path : Path} : descends path ↔ ∀ c ∈ components path, ∃ name, c = .normal name := by
  rw [descends, List.all_eq_true]
  exact forall₂_congr fun c _ => by cases c <;> simp

/-- Pieces count for their dots if they stand at the start or turn to a parent. -/
theorem forall_counts_iff {path : Path} :
    (∀ x ∈ (pieces path).zipIdx, counts x.1 x.2 → x.1 ≠ "." ∧ x.1 ≠ "..") ↔
      (pieces path).head? ≠ some "." ∧ ".." ∉ pieces path := by
  constructor
  · intro all
    refine ⟨fun dot => ?_, fun parent => ?_⟩
    · rw [List.head?_eq_getElem?] at dot
      exact (all (".", 0) (List.mem_zipIdx_iff_getElem?.2 dot) (by decide)).1 rfl
    · obtain ⟨place, found⟩ := List.mem_iff_getElem?.1 parent
      exact (all ("..", place) (List.mem_zipIdx_iff_getElem?.2 found) (by simp [counts])).2 rfl
  · rintro ⟨start, down⟩ ⟨piece, place⟩ member counted
    have found := List.mem_zipIdx_iff_getElem?.1 member
    refine ⟨fun dot => ?_, fun parent => down (parent ▸ List.mem_of_getElem? found)⟩
    -- A dot counts only at the start.
    have first : place = 0 := by simpa [counts, show piece = "." from dot] using counted
    subst first
    exact start (by rw [List.head?_eq_getElem?, found]; exact congrArg some dot)

/-- A path only leads down if it is relative, has no dot at the start, and never turns to a parent. -/
theorem descends_iff {path : Path} :
    descends path ↔ isAbsolute path = false ∧ (pieces path).head? ≠ some "." ∧ ".." ∉ pieces path := by
  rw [← forall_counts_iff, descends_iff_components, components]
  -- An absolute path starts with a component that is no name.
  cases isAbsolute path with
  | true => simp
  | false =>
    have named (x : String × Nat) : (∃ name, component x.1 = .normal name) ↔ x.1 ≠ "." ∧ x.1 ≠ ".." :=
      exists_component_eq_normal
    simp only [Bool.false_eq_true, if_false, List.forall_mem_map, named, List.mem_filter, true_and, and_imp]

/-- Where a path leads, by its text alone. -/
def resolved (path : Path) : List Component :=
  (pieces path).foldl turn (if isAbsolute path then [.root] else [])
where
  /-- Goes one piece further. The root is its own parent, and the parent of what is not known is kept. -/
  turn (place : List Component) (piece : String) : List Component :=
    if piece = "" ∨ piece = "." then place
    else if piece = ".." then
      match place.getLast? with
      | some (.normal _) => place.dropLast
      | some .root => place
      | _ => place ++ [.parent]
    else place ++ [.normal piece]

/-- The names among some pieces. -/
def names (pieces : List String) : List String := pieces.filter fun piece => piece ≠ "" ∧ piece ≠ "."

/-- The name of the first piece comes first. -/
theorem names_cons (piece : String) (pieces : List String) : names (piece :: pieces) = names [piece] ++ names pieces :=
  List.filter_append [piece] pieces

/-- Pieces without a parent only lead on, by their names. -/
theorem foldl_turn {pieces : List String} (down : ".." ∉ pieces) (place : List Component) :
    pieces.foldl resolved.turn place = place ++ (names pieces).map .normal := by
  induction pieces generalizing place with
  | nil => simp [names]
  | cons piece pieces ih =>
    obtain ⟨here, later⟩ : ".." ≠ piece ∧ ".." ∉ pieces := by simpa using down
    rw [List.foldl_cons, ih later, names_cons]
    -- Nothing and a dot stay where they are, and a name leads on.
    by_cases idle : piece = "" ∨ piece = "."
    · have passed : ¬ (piece ≠ "" ∧ piece ≠ ".") := by tauto
      simp [resolved.turn, names, idle, passed]
    · have kept : piece ≠ "" ∧ piece ≠ "." := by tauto
      simp [resolved.turn, names, kept, here.symm]

/-- What follows does not decide whether a path starts at the root. -/
theorem isAbsolute_append {base : Path} (filled : base ≠ "") (path : Path) :
    isAbsolute (base ++ path) = isAbsolute base := by
  cases text : base.toList with
  | nil => exact absurd (String.toList_eq_nil_iff.1 text) filled
  | cons c rest => simp [isAbsolute, text]

/-- The pieces of a joined path: an empty one stands for the slash at the end of the base. -/
theorem pieces_join {path : Path} (relative : isAbsolute path = false) {base : Path} (filled : base ≠ "") :
    ∃ ahead, (pieces base = ahead ∨ pieces base = ahead ++ [""]) ∧ pieces (join base path) = ahead ++ pieces path := by
  rw [join, if_neg (by simp [relative])]
  by_cases ends : base.toList.getLast? = some '/'
  · -- The slash that is there is not written again.
    obtain ⟨text, split⟩ := List.getLast?_eq_some_iff.1 ends
    have base_eq : base = String.ofList text ++ "/" := by
      rw [← String.ofList_toList (s := base), split]
      simp
    refine ⟨pieces (String.ofList text), .inr ?_, ?_⟩
    · rw [base_eq, ← String.append_empty (s := String.ofList text ++ "/"), pieces_append_slash]
      simp [pieces_eq, List.splitOn_eq_splitOnP]
    · rw [if_pos (.inr ends), base_eq, pieces_append_slash]
  · exact ⟨pieces base, .inl rfl, by rw [if_neg (by simp [filled, ends]), pieces_append_slash]⟩

/-- A relative path does not decide where a joined path starts, unless there is nothing before it. -/
theorem isAbsolute_join {path : Path} (relative : isAbsolute path = false) (base : Path) :
    isAbsolute (join base path) = isAbsolute base := by
  by_cases bare : base = ""
  · simp [bare, join, relative, show isAbsolute "" = false by simp [isAbsolute]]
  · simp only [join, relative, Bool.false_eq_true, if_false]
    split_ifs
    · exact isAbsolute_append bare path
    · rw [String.append_assoc, isAbsolute_append bare]

/-- Behind a base, a relative path without a parent leads on by its names. -/
theorem resolved_join {path : Path} (relative : isAbsolute path = false) (down : ".." ∉ pieces path) (base : Path) :
    resolved (join base path) = resolved base ++ (names (pieces path)).map .normal := by
  -- Behind nothing the path stands for itself.
  by_cases bare : base = ""
  · have alone : resolved "" = [] := by simp [resolved, pieces_eq, resolved.turn, isAbsolute]
    have whole : join "" path = path := by simp [join, relative]
    rw [bare, whole, alone, resolved, foldl_turn down, relative]
    rfl
  obtain ⟨ahead, split, joined⟩ := pieces_join relative bare
  -- A slash at the end of the base is an empty piece, which leads nowhere.
  have base_eq : resolved base = ahead.foldl resolved.turn (if isAbsolute base then [.root] else []) := by
    rcases split with plain | slash
    · rw [resolved, plain]
    · simp [resolved, slash, resolved.turn]
  rw [resolved, joined, isAbsolute_join relative, List.foldl_append, foldl_turn down, base_eq]

/-- A component that is a name comes from a piece that is not empty. -/
theorem ne_empty_of_component {path : Path} {name : String} (member : .normal name ∈ components path) : name ≠ "" := by
  have named : .normal name ∈
      (((pieces path).zipIdx.filter fun x => counts x.1 x.2).map (component ·.1)) := by
    unfold components at member
    dsimp only at member
    split at member
    · exact (List.mem_cons.1 member).resolve_left nofun
    · exact member
  obtain ⟨⟨piece, place⟩, kept, same⟩ := List.mem_map.1 named
  have whole : piece = name := by
    unfold component at same
    split_ifs at same
    exact Component.normal.inj same
  rintro rfl
  -- Empty pieces do not count.
  simp [whole, counts] at kept

/-- The names of files are not empty, and neither is what stands before their last dot. -/
theorem ne_empty_of_fileStem? {path : Path} {stem : String} (found : fileStem? path = some stem) : stem ≠ "" := by
  obtain ⟨name, last, rfl⟩ := Option.map_eq_some_iff.1 found
  have named : name ≠ "" := by
    unfold fileName? at last
    split at last
    · rename_i here
      cases last
      exact ne_empty_of_component (List.mem_of_getLast? here)
    · cases last
  unfold fileStem?.stem
  dsimp only
  split
  · exact named
  · exact named
  · -- Something stands before the dot, or else the dot is part of the name.
    rename_i before alone shape
    simpa using alone

/-! ### Parents -/

/-- A path is its pieces with slashes between them. -/
theorem intercalate_pieces (path : Path) : String.intercalate "/" (pieces path) = path := by
  apply String.toList_injective
  have texts : (pieces path).map String.toList = path.toList.splitOn '/' := by simp [pieces_eq]
  rw [String.toList_intercalate, texts]
  exact List.intercalate_splitOn '/'

/-- The places of the pieces that count. -/
def countedPlaces (path : Path) : List Nat :=
  ((pieces path).zipIdx.filter fun x => counts x.1 x.2).map (·.2)

theorem mem_countedPlaces {path : Path} {place : Nat} :
    place ∈ countedPlaces path ↔ ∃ piece, (pieces path)[place]? = some piece ∧ counts piece place := by
  simp [countedPlaces, List.mem_zipIdx_iff_getElem?]

/-- Places come in order. -/
theorem pairwise_countedPlaces (path : Path) : (countedPlaces path).Pairwise (· < ·) := by
  have all : ((pieces path).zipIdx.map (·.2)).Pairwise (· < ·) := by
    rw [List.zipIdx_map_snd]
    exact List.pairwise_lt_range'
  exact all.sublist (List.filter_sublist.map _)

/-- Up to a piece that counts, a path is not empty. -/
theorem intercalate_take_ne_empty {path : Path} {place : Nat} (counted : place ∈ countedPlaces path) :
    String.intercalate "/" ((pieces path).take (place + 1)) ≠ "" := by
  obtain ⟨piece, here, counts⟩ := mem_countedPlaces.1 counted
  have filled : piece ≠ "" := by
    rintro rfl
    simp [Path.counts] at counts
  have split : (pieces path).take (place + 1) = (pieces path).take place ++ [piece] := by
    rw [List.take_add_one, here, Option.toList_some]
  rw [split]
  -- The piece that counts is not empty, whatever is in front of it.
  by_cases first : (pieces path).take place = []
  · simpa [first] using filled
  · rw [String.intercalate_append_of_ne_nil first (List.cons_ne_nil _ _), String.intercalate_singleton]
    simp [filled]

/-- A path of pieces that count has a parent: the place where it starts, or what stands before one of its slashes. -/
theorem parent?_cases (path : Path) :
    (countedPlaces path = [] ∧ parent? path = none) ∨
    parent? path = some (if isAbsolute path then "/" else "") ∨
    ∃ base rest, base ≠ "" ∧ parent? path = some base ∧ path = base ++ "/" ++ rest := by
  unfold parent?
  dsimp only
  split
  · rename_i none
    exact .inl ⟨List.reverse_eq_nil_iff.1 none, rfl⟩
  · exact .inr (.inl rfl)
  · rename_i last before others order
    right; right
    have places : countedPlaces path = others.reverse ++ [before, last] := by
      rw [← List.reverse_reverse (countedPlaces path), show (countedPlaces path).reverse = _ from order]
      simp
    have counted : before ∈ countedPlaces path := by simp [places]
    obtain ⟨piece, here, _⟩ := mem_countedPlaces.1 (show last ∈ countedPlaces path by simp [places])
    have behind : before < last := by
      have sorted := pairwise_countedPlaces path
      rw [places] at sorted
      exact List.rel_of_pairwise_cons (List.pairwise_append.1 sorted).2.1 (by simp)
    have within : last < (pieces path).length := (List.getElem?_eq_some_iff.1 here).1
    -- The last piece that counts is left behind the cut.
    have rest : (pieces path).drop (before + 1) ≠ [] := by
      rw [Ne, List.drop_eq_nil_iff]
      omega
    have front : (pieces path).take (before + 1) ≠ [] := by
      intro none
      have length := congrArg List.length none
      simp only [List.length_take, List.length_nil] at length
      omega
    refine ⟨_, String.intercalate "/" ((pieces path).drop (before + 1)), intercalate_take_ne_empty counted, rfl, ?_⟩
    rw [← String.intercalate_append_of_ne_nil front rest, List.take_append_drop, intercalate_pieces]

/-- A parent starts where its path does. -/
theorem isAbsolute_of_parent? {path base : Path} (found : parent? path = some base) :
    isAbsolute base = isAbsolute path := by
  -- There is none, or it is the root or nothing, or a start of the path.
  rcases parent?_cases path with ⟨-, none⟩ | start | ⟨before, rest, filled, known, whole⟩
  · simp [none] at found
  · rw [start] at found
    cases found
    cases absolute : isAbsolute path <;> simp [isAbsolute]
  · rw [known] at found
    cases found
    rw [whole, String.append_assoc, isAbsolute_append filled]

end WasmHost.Path

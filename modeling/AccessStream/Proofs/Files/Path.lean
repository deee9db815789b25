import AccessStream.Files.Path
import Mathlib.Data.List.Basic
import Mathlib.Tactic.SplitIfs

/-!
# Joined paths, and paths that lead to the same place

Joining is associative as an operation on texts, whatever slashes the paths end with and whether or
not they are empty (`join_assoc`), so a path that is seen from one base after the other is seen from
the bases joined (`foldl_join`).

Two paths are the same, as paths, if they start at the same place and take the same parts that
count. A path from the directory of a file is the same as the path from the directory in which the
file was named, although the text of the first has lost what counts for nothing at the end of that
directory (`exists_parent_of_join`).
-/

namespace AccessStream.Path

/-- The first part of a path, and the parts after it that count. -/
def parts (path : String) : List Char × List (List Char) :=
  let segments := segments path.toList
  (segments.headD [], segments.tail.filter fun segment => !isIdle segment)

/-- Two paths start at the same place and take the same parts that count. -/
def Same (first second : String) : Prop :=
  isAbsolute first = isAbsolute second ∧ parts first = parts second

theorem Same.refl (path : String) : Same path path := ⟨rfl, rfl⟩

/-! ## Parts -/

section Segments

variable {trunk text segment : List Char} {list : List (List Char)}

theorem segments_ne_nil (text : List Char) : segments text ≠ [] := by
  cases text with
  | nil => exact List.cons_ne_nil _ _
  | cons c rest =>
    rw [segments]
    split_ifs
    · exact List.cons_ne_nil _ _
    · cases segments rest <;> exact List.cons_ne_nil _ _

theorem segments_cons_of_ne {c : Char} (other : c ≠ '/') {first : List Char}
    {rest : List (List Char)} (split : segments text = first :: rest) :
    segments (c :: text) = (c :: first) :: rest := by
  rw [segments, if_neg other, split]

/-- The parts of a path that goes on behind a slash. -/
theorem segments_append (trunk text : List Char) :
    segments (trunk ++ '/' :: text) = segments trunk ++ segments text := by
  induction trunk with
  | nil => rfl
  | cons c trunk ih =>
    rw [List.cons_append]
    by_cases slash : c = '/'
    · rw [segments, segments, if_pos slash, if_pos slash, ih, List.cons_append]
    · obtain ⟨first, rest, split⟩ := List.exists_cons_of_ne_nil (segments_ne_nil trunk)
      have whole : segments (trunk ++ '/' :: text) = first :: (rest ++ segments text) := by
        rw [ih, split, List.cons_append]
      rw [segments_cons_of_ne slash split, segments_cons_of_ne slash whole, List.cons_append]

theorem segments_of_not_mem (h : '/' ∉ text) : segments text = [text] := by
  induction text with
  | nil => rfl
  | cons c text ih =>
    rw [List.mem_cons, not_or] at h
    exact segments_cons_of_ne (Ne.symm h.1) (ih h.2)

theorem not_mem_of_mem_segments (h : segment ∈ segments text) : '/' ∉ segment := by
  induction text generalizing segment with
  | nil =>
    obtain rfl := List.mem_singleton.1 h
    exact List.not_mem_nil
  | cons c text ih =>
    by_cases slash : c = '/'
    · rw [segments, if_pos slash] at h
      rcases List.mem_cons.1 h with rfl | later
      · exact List.not_mem_nil
      · exact ih later
    · obtain ⟨first, rest, split⟩ := List.exists_cons_of_ne_nil (segments_ne_nil text)
      rw [segments_cons_of_ne slash split] at h
      rw [split] at ih
      rcases List.mem_cons.1 h with rfl | later
      · rw [List.mem_cons, not_or]
        exact ⟨Ne.symm slash, ih List.mem_cons_self⟩
      · exact ih (List.mem_cons_of_mem _ later)

/-- A path has the parts that it is made of. -/
theorem segments_ofSegments (nonempty : list ≠ []) (h : ∀ segment ∈ list, '/' ∉ segment) :
    segments (ofSegments list) = list := by
  induction list with
  | nil => exact absurd rfl nonempty
  | cons first rest ih =>
    rw [List.forall_mem_cons] at h
    cases rest with
    | nil =>
      rw [ofSegments, List.intercalate_singleton]
      exact segments_of_not_mem h.1
    | cons second rest =>
      have step : ofSegments (first :: second :: rest) =
          first ++ '/' :: ofSegments (second :: rest) := by
        rw [ofSegments, List.intercalate_cons_cons, ofSegments, List.append_assoc,
          List.singleton_append]
      rw [step, segments_append, segments_of_not_mem h.1, ih (List.cons_ne_nil _ _) h.2]
      rfl

/-- A path that goes on behind a slash is absolute if its first part is empty. -/
theorem head?_append_eq_slash_iff :
    (trunk ++ '/' :: text).head? = some '/' ↔ (segments trunk).headD [] = [] := by
  cases trunk with
  | nil => exact ⟨fun _ => rfl, fun _ => rfl⟩
  | cons c trunk =>
    rw [List.cons_append, List.head?_cons, Option.some.injEq]
    by_cases slash : c = '/'
    · rw [segments, if_pos slash]
      exact ⟨fun _ => rfl, fun _ => slash⟩
    · obtain ⟨first, rest, split⟩ := List.exists_cons_of_ne_nil (segments_ne_nil trunk)
      rw [segments_cons_of_ne slash split]
      exact ⟨fun same => absurd same slash, nofun⟩

theorem filter_dropIdle (list : List (List Char)) :
    (dropIdle list).filter (fun segment => !isIdle segment) =
      list.filter fun segment => !isIdle segment := by
  have idle : (list.reverse.takeWhile isIdle).filter (fun segment => !isIdle segment) = [] := by
    rw [List.filter_eq_nil_iff]
    intro segment among
    simp [List.all_eq_true.1 List.all_takeWhile segment among]
  have whole := List.takeWhile_append_dropWhile (p := isIdle) (l := list.reverse)
  have filtered := congrArg (List.filter fun segment => !isIdle segment) whole
  rw [List.filter_append, idle, List.nil_append, List.filter_reverse] at filtered
  rw [dropIdle, List.filter_reverse, filtered, List.reverse_reverse]

theorem dropIdle_subset (list : List (List Char)) : dropIdle list ⊆ list := by
  intro segment among
  rw [dropIdle, List.mem_reverse] at among
  exact List.mem_reverse.1 ((List.dropWhile_sublist _).subset among)

theorem dropIdle_concat (busy : isIdle segment = false) :
    dropIdle (list ++ [segment]) = list ++ [segment] := by
  rw [dropIdle, List.reverse_append, List.reverse_singleton, List.singleton_append,
    List.dropWhile_cons_of_neg (by simp [busy]), List.reverse_cons, List.reverse_reverse]

/-- The last part that is left counts. -/
theorem isIdle_getLast_dropIdle (h : (dropIdle list).getLast? = some segment) :
    isIdle segment = false := by
  rw [dropIdle, List.getLast?_reverse] at h
  have first := List.head?_dropWhile_not isIdle list.reverse
  rw [h] at first
  simpa using first

end Segments

/-! ## Bases -/

/-- A base ends with a slash, unless it is empty. -/
theorem exists_trunk {base : List Char} (nonempty : base ≠ []) :
    ∃ trunk, asBase base = trunk ++ ['/'] ∧ (base = trunk ∨ base = trunk ++ ['/']) := by
  obtain ⟨front, last, rfl⟩ := (List.eq_nil_or_concat base).resolve_left nonempty
  rw [List.concat_eq_append, asBase, List.getLast?_concat]
  simp only
  split_ifs with slash
  · exact ⟨front, by rw [slash], .inr (by rw [slash])⟩
  · exact ⟨_, rfl, .inl rfl⟩

/-! ## Joining -/

section Join

theorem asBase_append {text : List Char} (nonempty : text ≠ []) (trunk : List Char) :
    asBase (trunk ++ text) = trunk ++ asBase text := by
  rw [asBase, asBase, List.getLast?_append_of_ne_nil trunk nonempty]
  cases text.getLast? with
  | none => rfl
  | some last =>
    simp only
    split_ifs
    · rfl
    · rw [List.append_assoc]

theorem asBase_asBase (base : List Char) : asBase (asBase base) = asBase base := by
  by_cases empty : base = []
  · rw [empty]
    rfl
  · obtain ⟨trunk, based, -⟩ := exists_trunk empty
    rw [based, asBase_append (List.cons_ne_nil _ _)]
    rfl

theorem join_of_isAbsolute {path : String} (absolute : isAbsolute path = true) (base : String) :
    join base path = path := by
  rw [join, if_pos absolute]

theorem toList_join {path : String} (relative : isAbsolute path = false) (base : String) :
    (join base path).toList = asBase base.toList ++ path.toList := by
  rw [join, if_neg (by simp [relative]), String.toList_ofList]

theorem join_empty (path : String) : join "" path = path := by
  rw [join]
  split_ifs
  · rfl
  · exact String.ofList_toList

/-- A joined path is absolute if one of its parts is. -/
theorem isAbsolute_join (base path : String) :
    isAbsolute (join base path) = (isAbsolute path || isAbsolute base) := by
  cases absolute : isAbsolute path with
  | true => rw [join_of_isAbsolute absolute, absolute, Bool.true_or]
  | false =>
    by_cases empty : base.toList = []
    · rw [String.toList_eq_nil_iff.1 empty, join_empty, absolute]
      rfl
    · obtain ⟨trunk, based, whole⟩ := exists_trunk empty
      rw [isAbsolute, toList_join absolute, based, Bool.false_or, isAbsolute]
      rcases whole with same | same
      · rw [List.append_assoc, ← same, List.head?_append_of_ne_nil _ empty]
      · rw [← same, List.head?_append_of_ne_nil _ empty]

theorem join_assoc (outer inner path : String) :
    join outer (join inner path) = join (join outer inner) path := by
  cases absolute : isAbsolute path with
  | true =>
    rw [join_of_isAbsolute absolute, join_of_isAbsolute absolute, join_of_isAbsolute absolute]
  | false =>
    cases anchored : isAbsolute inner with
    | true =>
      have whole : isAbsolute (join inner path) = true := by
        rw [isAbsolute_join, anchored, Bool.or_true]
      rw [join_of_isAbsolute whole, join_of_isAbsolute anchored]
    | false =>
      have whole : isAbsolute (join inner path) = false := by
        rw [isAbsolute_join, anchored, absolute, Bool.or_false]
      refine String.toList_inj.1 ?_
      rw [toList_join whole, toList_join absolute, toList_join absolute, toList_join anchored,
        ← List.append_assoc]
      by_cases empty : inner.toList = []
      · rw [empty, List.append_nil, asBase_asBase]
        exact congrArg (· ++ path.toList) (List.append_nil _)
      · rw [asBase_append empty]

/-- Some paths joined, the outermost one first. -/
def joinAll (paths : List String) : String := paths.foldl join ""

theorem joinAll_concat (paths : List String) (path : String) :
    joinAll (paths ++ [path]) = join (joinAll paths) path :=
  List.foldl_concat ..

/-- A path that is seen from one base after the other is seen from the bases joined, the last one
outermost. -/
theorem foldl_join (bases : List String) (path : String) :
    bases.foldl (fun path base => join base path) path = join (joinAll bases.reverse) path := by
  induction bases generalizing path with
  | nil => exact (join_empty path).symm
  | cons base bases ih =>
    rw [List.foldl_cons, ih, List.reverse_cons, joinAll_concat, join_assoc]

theorem isAbsolute_foldl_join (paths : List String) (base : String) :
    isAbsolute (paths.foldl join base) = (paths.any isAbsolute || isAbsolute base) := by
  induction paths generalizing base with
  | nil => rfl
  | cons path paths ih =>
    rw [List.foldl_cons, ih, isAbsolute_join, List.any_cons, ← Bool.or_assoc,
      Bool.or_comm (isAbsolute path)]

theorem isAbsolute_joinAll_iff (paths : List String) :
    isAbsolute (joinAll paths) = true ↔ ∃ path ∈ paths, isAbsolute path = true := by
  have root : isAbsolute "" = false := rfl
  rw [joinAll, isAbsolute_foldl_join, root, Bool.or_false, List.any_eq_true]

end Join

/-! ## Paths from two bases -/

/-- What a path from a base comes to. -/
theorem same_of_trunks {base other path : String} {trunk trunk' : List Char}
    (first : asBase base.toList = trunk ++ ['/']) (second : asBase other.toList = trunk' ++ ['/'])
    (head : (segments trunk).headD [] = (segments trunk').headD [])
    (tail : (segments trunk).tail.filter (fun segment => !isIdle segment) =
      (segments trunk').tail.filter fun segment => !isIdle segment) :
    Same (join base path) (join other path) := by
  rw [join, join]
  split_ifs
  · exact Same.refl path
  rw [first, second, List.append_assoc, List.append_assoc, List.singleton_append]
  have split : ∀ trunk : List Char,
      (segments (trunk ++ '/' :: path.toList)).headD [] = (segments trunk).headD [] ∧
        (segments (trunk ++ '/' :: path.toList)).tail =
          (segments trunk).tail ++ segments path.toList := by
    intro trunk
    rw [segments_append]
    obtain ⟨first, rest, whole⟩ := List.exists_cons_of_ne_nil (segments_ne_nil trunk)
    rw [whole]
    exact ⟨rfl, rfl⟩
  constructor
  · rw [isAbsolute, isAbsolute, String.toList_ofList, String.toList_ofList, Bool.eq_iff_iff,
      beq_iff_eq, beq_iff_eq, head?_append_eq_slash_iff, head?_append_eq_slash_iff, head]
  · simp only [parts, String.toList_ofList, split, List.filter_append, head, tail]

section Parents

variable {first : List Char} {rest : List (List Char)}

/-- The directory of a first part and parts behind it: those that count up to the last one. -/
def directoryOf (first : List Char) (rest : List (List Char)) : List Char :=
  if first.isEmpty && (dropIdle rest).isEmpty then ['/'] else ofSegments (first :: dropIdle rest)

theorem parent?_of_segments {path : String} {name : List Char}
    (h : segments path.toList = first :: (rest ++ [name])) (busy : isIdle name = false) :
    parent? path = some (String.ofList (directoryOf first rest)) := by
  rw [parent?, split, h]
  simp only [dropIdle_concat busy]
  rw [List.dropLast_concat, directoryOf]
  cases rest <;> rfl

/-- A directory does not end with an empty part, so its text does not end with a slash. -/
theorem getLast?_directory (named : ¬ (first.isEmpty && (dropIdle rest).isEmpty) = true) :
    (first :: dropIdle rest).getLast? ≠ some [] := by
  rw [List.getLast?_cons]
  cases last : (dropIdle rest).getLast? with
  | none =>
    rintro ⟨rfl⟩
    rw [List.getLast?_eq_none_iff] at last
    rw [last] at named
    exact named rfl
  | some segment =>
    rintro ⟨rfl⟩
    cases isIdle_getLast_dropIdle last

/-- A path that goes on from a directory has the parts of the directory in front. -/
theorem exists_trunk_directoryOf (slashless : ∀ segment ∈ first :: rest, '/' ∉ segment) :
    ∃ trunk, asBase (directoryOf first rest) = trunk ++ ['/'] ∧ (segments trunk).headD [] = first ∧
      (segments trunk).tail.filter (fun segment => !isIdle segment) =
        rest.filter fun segment => !isIdle segment := by
  by_cases root : (first.isEmpty && (dropIdle rest).isEmpty) = true
  · obtain ⟨unnamed, idle⟩ := Bool.and_eq_true_iff.1 root
    have nothing := filter_dropIdle rest
    rw [List.isEmpty_iff.1 idle] at nothing
    refine ⟨[], ?_, (List.isEmpty_iff.1 unnamed).symm, nothing⟩
    rw [directoryOf, if_pos root]
    rfl
  · have inside : ∀ segment ∈ first :: dropIdle rest, '/' ∉ segment := fun segment among =>
      slashless segment (List.cons_subset_cons first (dropIdle_subset rest) among)
    have whole := segments_ofSegments (List.cons_ne_nil _ _) inside
    have ending := getLast?_directory root
    have nonempty : ofSegments (first :: dropIdle rest) ≠ [] := by
      intro nothing
      rw [nothing] at whole
      rw [← whole] at ending
      exact ending rfl
    rw [directoryOf, if_neg root]
    obtain ⟨trunk, based, here | there⟩ := exists_trunk nonempty
    · rw [here] at whole
      refine ⟨trunk, based, ?_, ?_⟩
      · rw [whole, List.headD_cons]
      · rw [whole, List.tail_cons, filter_dropIdle]
    · rw [there, segments_append] at whole
      rw [← whole] at ending
      exact absurd List.getLast?_concat ending

end Parents

/-- A path from the directory of a file is the same as from where the file was named. -/
theorem exists_parent_of_join (directory : String) {name : String} (plain : '/' ∉ name.toList)
    (busy : isIdle name.toList = false) :
    ∃ parent, parent? (join directory name) = some parent ∧
      ∀ path, Same (join parent path) (join directory path) := by
  have relative : isAbsolute name = false := by
    rw [isAbsolute, beq_eq_false_iff_ne]
    intro start
    exact plain (List.mem_of_head? start)
  by_cases empty : directory.toList = []
  · have whole : join directory name = name := by
      rw [join, relative, if_neg Bool.false_ne_true, empty]
      exact String.ofList_toList
    have same : directory = "" := String.toList_eq_nil_iff.1 empty
    refine ⟨"", ?_, fun path => by rw [same]; exact Same.refl _⟩
    have named : name.toList.isEmpty = false := by
      rw [List.isEmpty_eq_false_iff]
      rintro nothing
      rw [nothing] at busy
      cases busy
    rw [whole, parent?, split, segments_of_not_mem plain]
    simp [dropIdle, named]
  · obtain ⟨trunk, based, -⟩ := exists_trunk empty
    obtain ⟨first, rest, split_trunk⟩ := List.exists_cons_of_ne_nil (segments_ne_nil trunk)
    have file : segments (join directory name).toList = first :: (rest ++ [name.toList]) := by
      rw [join, relative, if_neg Bool.false_ne_true, based, String.toList_ofList,
        List.append_assoc, List.singleton_append, segments_append, split_trunk,
        segments_of_not_mem plain, List.cons_append]
    have slashless : ∀ segment ∈ first :: rest, '/' ∉ segment := by
      rw [← split_trunk]
      exact fun _ => not_mem_of_mem_segments
    obtain ⟨trunk', based', head, tail⟩ := exists_trunk_directoryOf slashless
    refine ⟨_, parent?_of_segments file busy, fun path => ?_⟩
    have text : asBase (String.ofList (directoryOf first rest)).toList = trunk' ++ ['/'] := by
      rw [String.toList_ofList, based']
    refine same_of_trunks text based ?_ ?_
    · rw [head, split_trunk, List.headD_cons]
    · rw [tail, split_trunk, List.tail_cons]

end AccessStream.Path

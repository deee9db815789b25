import AccessStream.Text.Alphanumeric
import AccessStream.Text.Hex

/-!
# Patterns

A directive of a log filter may ask for a field whose value follows a pattern. No entry is ever held
against one, but a directive whose pattern is not well formed spoils its filter. A pattern is read
in two steps: into symbols, in which each escape is one symbol, and then group by group. What needs
tables of characters that are not at hand is refused: classes and borders of words, and letters of
either case, unless bytes are meant in the place of characters.
-/

namespace AccessStream.Log.Pattern

/-- A symbol of a pattern. -/
inductive Symbol where
  /-- A character without a backslash, which may be an operator. -/
  | plain (c : Char)
  /-- A character that an escape stands for. -/
  | literal (c : Char)
  /-- An escape for a class of characters: digits, blanks, or characters of words. -/
  | charClass
  /-- An escape for all characters outside of such a class. -/
  | complement
  /-- An escape for a border of words, or for a place that is none. -/
  | wordBorder
  /-- An escape for the start or the end of the text. -/
  | textBorder
  deriving DecidableEq, Repr

/-- The number of hexadecimal digits after the character of an escape that has some. -/
def hexLength? (c : Char) : Option Nat :=
  [('x', 2), ('u', 4), ('U', 8)].lookup c

/-- The symbol of an escape with the given character: letters have a meaning or none, digits have
none, and any other character below 128 stands for itself. -/
def shortEscape? (c : Char) : Option Symbol :=
  if c ∈ ['a', 'f', 't', 'n', 'r', 'v'] then some (.literal c)
  else if c ∈ ['d', 's', 'w'] then some .charClass
  else if c ∈ ['D', 'S', 'W'] then some .complement
  else if c ∈ ['b', 'B', '<', '>'] then some .wordBorder
  else if c ∈ ['A', 'z'] then some .textBorder
  else if c.isAlphanum || 128 ≤ c.toNat then none
  else some (.literal c)

/-- The symbol of the escape after a backslash, and what follows it. -/
def escape? : List Char → Option (Symbol × List Char)
  | [] => none
  | c :: rest =>
    match hexLength? c with
    | some count =>
      match Text.hexChar? count rest with
      | some (c, rest) => some (.literal c, rest)
      | none => none
    | none => (shortEscape? c).map (·, rest)

theorem length_of_escape? {text rest : List Char} {symbol : Symbol}
    (h : escape? text = some (symbol, rest)) : rest.length < text.length := by
  unfold escape? at h
  split at h
  · cases h
  rename_i first after
  split at h
  · split at h
    · rename_i found
      cases h
      exact Nat.lt_succ_of_le (Text.length_of_hexChar? found)
    · cases h
  · cases short : shortEscape? first with
    | none => simp [short] at h
    | some =>
      simp only [short, Option.map_some, Option.some.injEq, Prod.mk.injEq] at h
      simp [← h.2]

/-- The symbols of a text. -/
def symbols? : List Char → Option (List Symbol)
  | [] => some []
  | c :: rest =>
    if c = '\\' then
      match _escape : escape? rest with
      | some (symbol, rest) => (symbols? rest).map (symbol :: ·)
      | none => none
    else (symbols? rest).map (.plain c :: ·)
termination_by text => text.length
decreasing_by
  · exact Nat.lt_succ_of_lt (length_of_escape? _escape)
  · exact Nat.lt_succ_self _

/-- How a part of a pattern is meant. -/
structure Mode where
  /-- Whether letters stand for those of either case. -/
  ignoresCase : Bool := false
  /-- Whether characters are meant, and not bytes. -/
  ofCharacters : Bool := true
  deriving DecidableEq, Repr

namespace Mode

/-- Whether a symbol may stand on its own. -/
def takes (mode : Mode) : Symbol → Bool
  | .plain '.' => mode.ofCharacters
  | .plain '^' => true
  | .plain '$' => true
  | .plain _ => !(mode.ignoresCase && mode.ofCharacters)
  | .literal c => if mode.ofCharacters then !mode.ignoresCase else c.toNat < 128
  | .charClass => !mode.ofCharacters
  | .complement => false
  | .wordBorder => !mode.ofCharacters
  | .textBorder => true

/-- The character that an item of a class stands for. -/
def char? (mode : Mode) (symbol : Symbol) : Option Char :=
  let c? := match symbol with
    | .plain c => some c
    | .literal c => some c
    | _ => none
  c?.filter fun c => mode.ofCharacters || c.toNat < 128

/-- Whether a symbol may be an item of a class. -/
def hasItem (mode : Mode) (symbol : Symbol) : Bool :=
  (mode.char? symbol).isSome || (symbol = .charClass && !mode.ofCharacters)

/-- Whether two symbols may be the ends of a range in a class. -/
def hasRange (mode : Mode) (low high : Symbol) : Bool :=
  match mode.char? low, mode.char? high with
  | some low, some high => low ≤ high
  | _, _ => false

end Mode

/-- The symbols after the first items of a class, where a closing bracket or hyphens are meant as
such. -/
def skipFirst : List Symbol → List Symbol
  | .plain ']' :: rest => rest
  | rest => rest.dropWhile (· = .plain '-')

theorem length_skipFirst_le (symbols : List Symbol) :
    (skipFirst symbols).length ≤ symbols.length := by
  unfold skipFirst
  split
  · exact Nat.le_succ _
  · exact (List.dropWhile_sublist _).length_le

/-- The symbols after the start of a class whose bracket has been read. -/
def openClass? (mode : Mode) (symbols : List Symbol) : Option (List Symbol) :=
  if mode.ignoresCase && mode.ofCharacters then none
  else match symbols with
    | .plain '^' :: rest => if mode.ofCharacters then some (skipFirst rest) else none
    | rest => some (skipFirst rest)

theorem length_of_openClass? {mode : Mode} {symbols rest : List Symbol}
    (h : openClass? mode symbols = some rest) : rest.length ≤ symbols.length := by
  unfold openClass? at h
  repeat' split at h
  · cases h
  · cases h
    exact Nat.le_succ_of_le (length_skipFirst_le _)
  · cases h
  · cases h
    exact length_skipFirst_le _

/-- The symbols after the item, range or operator at the front of what is left of a class; a hyphen
before the closing bracket or before another hyphen makes no range. -/
def classItem? (mode : Mode) : List Symbol → Option (List Symbol)
  | [] => none
  | .plain '&' :: .plain '&' :: rest => some rest
  | .plain '-' :: .plain '-' :: rest => some rest
  | .plain '~' :: .plain '~' :: rest => some rest
  | low :: .plain '-' :: high :: rest =>
    if high = .plain ']' || high = .plain '-' then
      if mode.hasItem low then some (.plain '-' :: high :: rest) else none
    else if mode.hasRange low high then some rest
    else none
  | item :: rest => if mode.hasItem item then some rest else none

theorem length_of_classItem? {mode : Mode} {symbols rest : List Symbol}
    (h : classItem? mode symbols = some rest) : rest.length < symbols.length := by
  unfold classItem? at h
  repeat' split at h
  all_goals cases h
  all_goals simp only [List.length_cons]
  all_goals omega

/-- The symbols after a class, in which as many further classes are open as given. -/
def closeClass? (mode : Mode) (depth : Nat) : List Symbol → Option (List Symbol)
  | [] => none
  | symbol :: rest =>
    if symbol = .plain ']' then
      match depth with
      | 0 => some rest
      | depth + 1 => closeClass? mode depth rest
    else if symbol = .plain '[' then
      match _open : openClass? mode rest with
      | some rest => closeClass? mode (depth + 1) rest
      | none => none
    else
      match _item : classItem? mode (symbol :: rest) with
      | some rest => closeClass? mode depth rest
      | none => none
termination_by symbols => symbols.length
decreasing_by
  · exact Nat.lt_succ_self _
  · exact Nat.lt_succ_of_le (length_of_openClass? _open)
  · exact length_of_classItem? _item

theorem length_of_closeClass? {mode : Mode} {depth : Nat} {symbols rest : List Symbol}
    (h : closeClass? mode depth symbols = some rest) : rest.length < symbols.length := by
  fun_induction closeClass? mode depth symbols with
  | case1 => cases h
  | case2 => cases h; exact Nat.lt_succ_self _
  | case3 _ _ ih => exact Nat.lt_succ_of_lt (ih h)
  | case4 _ _ _ opened _ ih =>
    have := length_of_openClass? opened
    have := ih h
    simp only [List.length_cons]
    omega
  | case5 => cases h
  | case6 _ _ _ _ _ _ item ih =>
    have := length_of_classItem? item
    have := ih h
    omega
  | case7 => cases h

/-- The symbols after a class whose opening bracket has been read. -/
def skipClass? (mode : Mode) (symbols : List Symbol) : Option (List Symbol) :=
  (openClass? mode symbols).bind (closeClass? mode 0)

theorem length_of_skipClass? {mode : Mode} {symbols rest : List Symbol}
    (h : skipClass? mode symbols = some rest) : rest.length < symbols.length := by
  obtain ⟨inner, opened, closed⟩ := Option.bind_eq_some_iff.1 h
  exact Nat.lt_of_lt_of_le (length_of_closeClass? closed) (length_of_openClass? opened)

/-- The characters of some symbols without a backslash. -/
def plainText? (symbols : List Symbol) : Option (List Char) :=
  symbols.mapM fun
    | .plain c => some c
    | _ => none

/-- Whether a text can be the name of a group. -/
def isGroupName : List Char → Bool
  | [] => false
  | first :: rest =>
    (first = '_' || (Text.isAlphanumeric first && !first.isDigit)) &&
      rest.all fun c => c ∈ ['_', '.', '[', ']'] || Text.isAlphanumeric c

/-- The mode after some flags, of which those after a hyphen are taken back; no flag may be given
twice, and something must follow a hyphen. -/
def Mode.withFlags? (mode : Mode) (flags : List Char) : Option Mode :=
  if !flags.all (· ∈ ['i', 'm', 's', 'U', 'u', 'R', 'x', '-']) then none
  else if !flags.Nodup || flags.getLast? = some '-' then none
  else
    let set := flags.takeWhile (· ≠ '-')
    some
      { ignoresCase := 'i' ∈ set || (mode.ignoresCase && 'i' ∉ flags)
        ofCharacters := 'u' ∈ set || (mode.ofCharacters && 'u' ∉ flags) }

/-- What has been read of a pattern. -/
structure State where
  /-- How the present group is meant. -/
  mode : Mode := {}
  /-- How the groups around it are meant, the inner ones first. -/
  outer : List Mode := []
  /-- The names of groups so far. -/
  names : List (List Char) := []
  /-- Whether something stands before the next symbol that can be repeated. -/
  repeats : Bool := false

namespace State

/-- The state after something that can be repeated. -/
def repeatable (state : State) : State := { state with repeats := true }

/-- The state in a new group that is meant in a given way. -/
def enter (state : State) (mode : Mode) : State :=
  { state with mode, outer := state.mode :: state.outer, repeats := false }

/-- The state in a new group with a name, which follows the angle bracket, and the symbols after the
name. -/
def named? (state : State) (symbols : List Symbol) : Option (State × List Symbol) := do
  let name ← plainText? (symbols.takeWhile (· ≠ .plain '>'))
  match symbols.drop name.length with
  | [] => none
  | _ :: rest =>
    if isGroupName name && name ∉ state.names then
      some ({ state.enter state.mode with names := name :: state.names }, rest)
    else none

/-- The state after flags, which follow a question mark and count for a new group after a colon or
else for the rest of the present one, and the symbols after them. -/
def flagged? (state : State) (symbols : List Symbol) : Option (State × List Symbol) := do
  let flags ← plainText? (symbols.takeWhile fun c => c ≠ .plain ':' && c ≠ .plain ')')
  let mode ← state.mode.withFlags? flags
  match symbols.drop flags.length with
  | [] => none
  | mark :: rest =>
    if mark = .plain ':' then some (state.enter mode, rest)
    else if flags.isEmpty then none
    else some ({ state with mode, repeats := false }, rest)

/-- The state after an opening parenthesis and what belongs to it, and the symbols after that. -/
def group? (state : State) : List Symbol → Option (State × List Symbol)
  | .plain '?' :: .plain 'P' :: .plain '<' :: rest => state.named? rest
  | .plain '?' :: .plain '<' :: rest => state.named? rest
  | .plain '?' :: rest => state.flagged? rest
  | rest => some (state.enter state.mode, rest)

theorem length_of_named? {state next : State} {symbols rest : List Symbol}
    (h : state.named? symbols = some (next, rest)) : rest.length < symbols.length := by
  obtain ⟨name, _, found⟩ := Option.bind_eq_some_iff.1 h
  have shorter := (List.drop_sublist name.length symbols).length_le
  split at found
  · cases found
  rename_i left
  rw [left, List.length_cons] at shorter
  split at found
  · cases found
    omega
  · cases found

theorem length_of_flagged? {state next : State} {symbols rest : List Symbol}
    (h : state.flagged? symbols = some (next, rest)) : rest.length < symbols.length := by
  obtain ⟨flags, _, found⟩ := Option.bind_eq_some_iff.1 h
  obtain ⟨mode, _, found⟩ := Option.bind_eq_some_iff.1 found
  have shorter := (List.drop_sublist flags.length symbols).length_le
  split at found
  · cases found
  rename_i left
  rw [left, List.length_cons] at shorter
  repeat' split at found
  all_goals cases found
  all_goals omega

theorem length_of_group? {state next : State} {symbols rest : List Symbol}
    (h : state.group? symbols = some (next, rest)) : rest.length ≤ symbols.length := by
  unfold group? at h
  split at h
  · have := length_of_named? h
    simp only [List.length_cons]
    omega
  · have := length_of_named? h
    simp only [List.length_cons]
    omega
  · have := length_of_flagged? h
    simp only [List.length_cons]
    omega
  · cases h
    exact Nat.le_refl _

end State

/-- The state after the operator, class or character at the front of some symbols, and the symbols
after it. -/
def step? (state : State) : List Symbol → Option (State × List Symbol)
  | [] => none
  | .plain '(' :: rest => state.group? rest
  | .plain ')' :: rest =>
    match state.outer with
    | [] => none
    | mode :: outer => some ({ state with mode, outer, repeats := true }, rest)
  | .plain '|' :: rest => some ({ state with repeats := false }, rest)
  | .plain '[' :: rest => (skipClass? state.mode rest).map (state.repeatable, ·)
  | .plain '{' :: _ => none
  | symbol :: rest =>
    if symbol ∈ [.plain '?', .plain '*', .plain '+'] then
      if state.repeats then some (state, rest) else none
    else if state.mode.takes symbol then some (state.repeatable, rest)
    else none

theorem length_of_step? {state next : State} {symbols rest : List Symbol}
    (h : step? state symbols = some (next, rest)) : rest.length < symbols.length := by
  unfold step? at h
  split at h
  · cases h
  · exact Nat.lt_succ_of_le (State.length_of_group? h)
  · split at h
    · cases h
    · cases h
      exact Nat.lt_succ_self _
  · cases h
    exact Nat.lt_succ_self _
  · obtain ⟨after, skipped, equal⟩ := Option.map_eq_some_iff.1 h
    cases equal
    exact Nat.lt_succ_of_lt (length_of_skipClass? skipped)
  · cases h
  · repeat' split at h
    all_goals cases h
    all_goals exact Nat.lt_succ_self _

/-- Whether some symbols, after others, make a pattern in which all groups are closed. -/
def closes (state : State) (symbols : List Symbol) : Bool :=
  match symbols with
  | [] => state.outer.isEmpty
  | symbol :: rest =>
    match _step : step? state (symbol :: rest) with
    | some (state, rest) => closes state rest
    | none => false
termination_by symbols.length
decreasing_by exact length_of_step? _step

/-- Whether a text is a well-formed pattern. -/
def isWellFormed (text : List Char) : Bool := (symbols? text).any (closes {})

example : ["", "a|b*?", "^[a-z][^]x-]+$", "(?:a(?P<n>b)|)", "(?s-m).\\.", "\\x41[\\n-\\r&&[x]]"].all
    (isWellFormed ·.toList) := by
  decide +kernel

example : ["*", "a|+", "(", ")", "[", "[z-a]", "\\", "\\q", "\\1", "\\x4", "(?", "(?i)*"].all
    (!isWellFormed ·.toList) := by
  decide +kernel

end AccessStream.Log.Pattern

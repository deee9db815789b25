import AccessStream.Proofs.Fields
import AccessStream.Proofs.Text.Front
import AccessStream.Toml.Writer
import Mathlib.Logic.Basic
import Mathlib.Tactic.SplitIfs

/-!
# Strings read back

Whatever style a text is written in, and whatever characters it holds, reading gives the text back
and leaves what follows (`Quoted.scan?_write`). Between double quotes each character is written by
itself or by an escape that stands for it (`Quoted.charForm_writeChar`). Between triple quotes the
closing quotes are told from quotes of the text by what follows: at most two quotes of the text
stand side by side, and those right before the closing ones still belong to the text.
-/

namespace AccessStream.Toml

/-! ## Classes of characters -/

theorem eq_false_of_mem {p : Char → Bool} {marks : Chars} (others : marks.all (!p ·) = true)
    {c : Char} (h : c ∈ marks) : p c = false := by
  simpa using List.all_eq_true.1 others c h

/-- A character of a class is no mark if none of the marks is of the class. -/
theorem not_mem_of_class {p : Char → Bool} {marks : Chars} {c : Char} (h : p c = true)
    (others : marks.all (!p ·) = true) : c ∉ marks := by
  intro found
  cases h.symm.trans (eq_false_of_mem others found)

/-! ## The front of a text -/

theorem lineEnd?_eq_none {text : Chars} (lineFeed : text.head? ≠ some '\n')
    (return' : text.head? ≠ some '\r') : lineEnd? text = none := by
  rw [lineEnd?.eq_def]
  split
  · exact absurd rfl lineFeed
  · exact absurd rfl return'
  · rfl

namespace Quoted

/-! ## Characters -/

/-- The ways to write a character between double quotes: by itself or by an escape. -/
inductive CharForm (c : Char) : Chars → Prop where
  | plain (quote : c ≠ '"') (backslash : c ≠ '\\') (h : isPlain c = true) : CharForm c [c]
  | escaped {first : Char} {code : Chars} (visible : isBlank first = false)
      (lineFeed : first ≠ '\n') (return' : first ≠ '\r')
      (h : ∀ rest, escape? (first :: code ++ rest) = some (c, rest)) :
      CharForm c ('\\' :: first :: code)

theorem hexDigit?_hexChar : ∀ n < 16, Text.hexDigit? (hexChar n) = some n := by decide

theorem hexChar?_of_control {c : Char} (h : isControl c = true) (rest : Chars) :
    Text.hexChar? 4 ('0' :: '0' :: hexChar (c.toNat / 16) :: hexChar (c.toNat % 16) :: rest) =
      some (c, rest) := by
  have small : c.toNat < 128 := by
    simp only [isControl, Bool.or_eq_true, Bool.and_eq_true, decide_eq_true_eq] at h
    rcases h with ⟨⟨h, -⟩, -⟩ | rfl
    · exact Nat.lt_trans h (by decide)
    · decide
  have zero : Text.hexDigit? '0' = some 0 := by decide
  have value : Text.hex? 0 4
      ('0' :: '0' :: hexChar (c.toNat / 16) :: hexChar (c.toNat % 16) :: rest) =
        some (c.toNat, rest) := by
    have joined : c.toNat / 16 * 16 + c.toNat % 16 = c.toNat := Nat.div_add_mod' c.toNat 16
    simp [Text.hex?, zero, hexDigit?_hexChar _ (by omega : c.toNat / 16 < 16),
      hexDigit?_hexChar _ (by omega : c.toNat % 16 < 16), joined]
  rw [Text.hexChar?, value]
  have valid : c.toNat.isValidChar := c.valid
  simp [Text.char?, valid]

theorem shortEscape?_of_mem_shortForms : ∀ entry ∈ shortForms,
    shortEscape? entry.2 = some entry.1 ∧ isBlank entry.2 = false ∧ entry.2 ≠ '\n' ∧
      entry.2 ≠ '\r' ∧ entry.2 ≠ 'x' ∧ entry.2 ≠ 'u' ∧ entry.2 ≠ 'U' := by
  decide

theorem isPlain_of_not_control {c : Char} (control : ¬ isControl c = true) (lineFeed : c ≠ '\n') :
    isPlain c = true := by
  simp only [isControl, isPlain, Bool.or_eq_true, Bool.and_eq_true, decide_eq_true_eq] at control ⊢
  by_cases low : c < ' '
  · by_cases tab : c = '\t'
    · exact Or.inl tab
    · exact absurd (Or.inl ⟨⟨low, tab⟩, lineFeed⟩) control
  · exact Or.inr ⟨Char.not_lt.1 low, fun delete => control (Or.inr delete)⟩

theorem charForm_writeChar {c : Char} (quote : c ≠ '"') : CharForm c (writeChar c) := by
  unfold writeChar
  split
  · rename_i mark found
    obtain ⟨short, visible, lineFeed, return', x, u, u'⟩ :=
      shortEscape?_of_mem_shortForms _ (Fields.mem_of_lookup found)
    refine .escaped visible lineFeed return' fun rest => ?_
    simp [escape?, x, u, u', short]
  · rename_i missing
    have other : ∀ entry ∈ shortForms, c ≠ entry.1 := by
      intro entry h
      exact bne_iff_ne.1 (List.lookup_eq_none_iff.1 missing entry h)
    have backslash : c ≠ '\\' := other ('\\', '\\') (by decide)
    have lineFeed : c ≠ '\n' := other ('\n', 'n') (by decide)
    split_ifs with control
    · refine .escaped (by decide) (by decide) (by decide) fun rest => ?_
      exact hexChar?_of_control control rest
    · exact .plain quote backslash (isPlain_of_not_control control lineFeed)

/-! ## Double quotes -/

theorem escaped_quote (severalLines : Bool) {freeQuotes run : Nat} (h : ¬ run < freeQuotes)
    (text : Chars) :
    escaped severalLines freeQuotes run ('"' :: text) =
      '\\' :: '"' :: escaped severalLines freeQuotes 0 text := by
  rw [escaped, if_pos rfl, if_neg h]

theorem escaped_free_quote (severalLines : Bool) {freeQuotes run : Nat} (h : run < freeQuotes)
    (text : Chars) :
    escaped severalLines freeQuotes run ('"' :: text) =
      '"' :: escaped severalLines freeQuotes (run + 1) text := by
  rw [escaped, if_pos rfl, if_pos h]

theorem escaped_lineFeed (freeQuotes run : Nat) (text : Chars) :
    escaped true freeQuotes run ('\n' :: text) = '\n' :: escaped true freeQuotes 0 text := by
  rw [escaped, if_neg (by decide)]
  rfl

theorem escaped_other (severalLines : Bool) (freeQuotes run : Nat) {c : Char} (quote : c ≠ '"')
    (h : c ≠ '\n' ∨ severalLines = false) (text : Chars) :
    escaped severalLines freeQuotes run (c :: text) =
      writeChar c ++ escaped severalLines freeQuotes 0 text := by
  rw [escaped, if_neg quote, if_neg]
  rcases h with h | h <;> simp [h]

theorem charForm_quote : CharForm '"' ['\\', '"'] :=
  .escaped (by decide) (by decide) (by decide) fun _ => rfl

theorem basic?_charForm {c : Char} {form : Chars} (h : CharForm c form) (found rest : Chars) :
    basic? found (form ++ rest) = basic? (c :: found) rest := by
  cases h with
  | plain quote backslash plain =>
    rw [List.singleton_append, basic?, if_neg quote, if_neg backslash, if_pos plain]
  | @escaped first code _ _ _ escape =>
    rw [List.cons_append, basic?, if_neg (by decide), if_pos rfl]
    split
    · rename_i other after read
      cases (escape rest).symm.trans read
      rfl
    · rename_i unread
      cases (escape rest).symm.trans unread

theorem basic?_escaped (found text rest : Chars) :
    basic? found (escaped false 0 0 text ++ '"' :: rest) =
      some (String.ofList (found.reverse ++ text), rest) := by
  induction text generalizing found with
  | nil => simp [escaped, basic?]
  | cons c text ih =>
    have joined : found.reverse ++ c :: text = (c :: found).reverse ++ text := by simp
    obtain ⟨form, written, escaped_eq⟩ : ∃ form, CharForm c form ∧
        escaped false 0 0 (c :: text) = form ++ escaped false 0 0 text := by
      by_cases quote : c = '"'
      · subst quote
        exact ⟨_, charForm_quote, escaped_quote false (Nat.not_lt_zero 0) text⟩
      · exact ⟨_, charForm_writeChar quote, escaped_other false 0 0 quote (Or.inr rfl) text⟩
    rw [escaped_eq, List.append_assoc, basic?_charForm written, ih, joined]

/-! ## Closing quotes -/

/-- The quotes at either end of a string of several lines. -/
def triple (quote : Char) : Chars := List.replicate 3 quote

theorem closing?_eq_none {quote : Char} {text : Chars} (h : ¬ triple quote <+: text)
    (found : Chars) : closing? quote found text = none := by
  rw [closing?, if_neg]
  rwa [List.isPrefixOf_iff_prefix]

theorem not_prefix_triple {quote c : Char} (h : c ≠ quote) (before : Nat) (few : before ≤ 2)
    (text : Chars) : ¬ triple quote <+: List.replicate before quote ++ c :: text := by
  rintro ⟨rest, same⟩
  have left : (triple quote ++ rest)[before]? = some quote := by
    rw [List.getElem?_append_left (by simp only [triple, List.length_replicate]; omega), triple,
      List.getElem?_replicate_of_lt (by omega)]
  have right : (List.replicate before quote ++ c :: text)[before]? = some c := by
    rw [List.getElem?_append_right (by simp)]
    simp
  rw [same, right] at left
  exact h (Option.some.inj left)

/-- Quotes of the text right before the closing ones belong to the text. -/
theorem closing?_of_quotes {quote : Char} {count : Nat} (few : count ≤ 2) (found : Chars)
    {rest : Chars} (next : rest.head? ≠ some quote) :
    closing? quote found (List.replicate count quote ++ (triple quote ++ rest)) =
      some (String.ofList (found.reverse ++ List.replicate count quote), rest) := by
  have rearranged : List.replicate count quote ++ (triple quote ++ rest) =
      triple quote ++ (List.replicate count quote ++ rest) := by
    rw [triple, ← List.append_assoc, ← List.append_assoc, List.replicate_append_replicate,
      List.replicate_append_replicate, Nat.add_comm]
  have opened : [quote, quote, quote].isPrefixOf
      (triple quote ++ (List.replicate count quote ++ rest)) = true :=
    List.isPrefixOf_iff_prefix.2 (List.prefix_append _ _)
  have inner : (triple quote ++ (List.replicate count quote ++ rest)).drop 3 =
      List.replicate count quote ++ rest := rfl
  have quotes : (List.replicate count quote ++ rest).takeWhile (· = quote) =
      List.replicate count quote := by
    refine takeWhile_front (by simp) fun c first => ?_
    rw [decide_eq_false_iff_not]
    rintro rfl
    exact next first
  have taken : min 2 count = count := Nat.min_eq_right few
  rw [rearranged, closing?, if_pos opened]
  simp only [inner, quotes, List.length_replicate, taken]
  simp

/-! ## Triple double quotes -/

theorem multilineBasic?_charForm {c : Char} {form : Chars} (h : CharForm c form)
    (found rest : Chars) :
    multilineBasic? found (form ++ rest) = multilineBasic? (c :: found) rest := by
  cases h with
  | plain quote backslash plain =>
    have open' : closing? '"' found (c :: rest) = none :=
      closing?_eq_none (not_prefix_triple quote 0 (Nat.zero_le _) rest) found
    have return' : c ≠ '\r' := by
      rintro rfl
      cases plain
    rw [List.singleton_append, multilineBasic?.eq_def, open']
    simp [backslash, return', plain]
  | @escaped first code visible lineFeed return' escape =>
    have open' : closing? '"' found ('\\' :: (first :: code ++ rest)) = none :=
      closing?_eq_none (not_prefix_triple (by decide) 0 (Nat.zero_le _) _) found
    have goes_on : continued? (first :: code ++ rest) = none := by
      have blanks : skipBlanks (first :: code ++ rest) = first :: code ++ rest := by
        rw [skipBlanks, List.cons_append, List.dropWhile_cons_of_neg (by simp [visible])]
      rw [continued?, blanks, lineEnd?_eq_none (by simpa using lineFeed) (by simpa using return'),
        Option.map_none]
    rw [List.cons_append, multilineBasic?.eq_def, open']
    simp only [↓reduceIte]
    split
    · rename_i same
      cases goes_on.symm.trans same
    · split
      · rename_i same
        cases (escape rest).symm.trans same
        rfl
      · rename_i same
        cases (escape rest).symm.trans same

theorem multilineBasic?_lineFeed (found rest : Chars) :
    multilineBasic? found ('\n' :: rest) = multilineBasic? ('\n' :: found) rest := by
  have open' : closing? '"' found ('\n' :: rest) = none :=
    closing?_eq_none (not_prefix_triple (by decide) 0 (Nat.zero_le _) rest) found
  rw [multilineBasic?.eq_def, open']
  simp

theorem multilineBasic?_quote {found rest : Chars} (h : ¬ triple '"' <+: '"' :: rest) :
    multilineBasic? found ('"' :: rest) = multilineBasic? ('"' :: found) rest := by
  rw [multilineBasic?.eq_def, closing?_eq_none h]
  simp [isPlain]

/-- A character that is not one of two quotes that may stand side by side is written by something
that begins with no quote and that is read as this character. -/
theorem escaped_step {run : Nat} {c : Char} (h : c ≠ '"' ∨ ¬ run < 2) (text : Chars) :
    ∃ first more, escaped true 2 run (c :: text) = first :: more ++ escaped true 2 0 text ∧
      first ≠ '"' ∧ ∀ found rest,
        multilineBasic? found (first :: more ++ rest) = multilineBasic? (c :: found) rest := by
  by_cases lineFeed : c = '\n'
  · subst lineFeed
    exact ⟨'\n', [], escaped_lineFeed 2 run text, by decide, multilineBasic?_lineFeed⟩
  · obtain ⟨form, written, escaped_eq⟩ : ∃ form, CharForm c form ∧
        escaped true 2 run (c :: text) = form ++ escaped true 2 0 text := by
      by_cases quote : c = '"'
      · subst quote
        have full := h.resolve_left (not_not_intro rfl)
        exact ⟨_, charForm_quote, escaped_quote true full text⟩
      · exact ⟨_, charForm_writeChar quote, escaped_other true 2 run quote (Or.inl lineFeed) text⟩
    have read := multilineBasic?_charForm written
    cases written with
    | plain quote => exact ⟨c, [], escaped_eq, quote, read⟩
    | escaped => exact ⟨'\\', _, escaped_eq, by decide, read⟩

/-- Three quotes can stand at the front of what is written for a text that begins with a quote only
if this quote and what follows in the text are quotes right before the closing ones. -/
theorem quotes_of_prefix_triple {run : Nat} (free : run < 2) {text rest : Chars}
    (h : triple '"' <+: '"' :: (escaped true 2 (run + 1) text ++ (triple '"' ++ rest))) :
    ∃ count ≤ 1, text = List.replicate count '"' ∧
      escaped true 2 (run + 1) text = List.replicate count '"' := by
  match text with
  | [] => exact ⟨0, Nat.zero_le _, rfl, rfl⟩
  | c :: text =>
    by_cases next : c = '"' ∧ run + 1 < 2
    · obtain ⟨rfl, free'⟩ := next
      rw [escaped_free_quote true free'] at h ⊢
      match text with
      | [] => exact ⟨1, Nat.le_refl _, rfl, rfl⟩
      | d :: text =>
        have full : d ≠ '"' ∨ ¬ run + 1 + 1 < 2 := Or.inr (by omega)
        obtain ⟨first, more, escaped_eq, quote, -⟩ := escaped_step full text
        rw [escaped_eq] at h
        exact absurd h (not_prefix_triple quote 2 (Nat.le_refl _) _)
    · have other : c ≠ '"' ∨ ¬ run + 1 < 2 := by
        rwa [Ne, ← not_and_or]
      obtain ⟨first, more, escaped_eq, quote, -⟩ := escaped_step other text
      rw [escaped_eq] at h
      exact absurd h (not_prefix_triple quote 1 (by decide) _)

theorem multilineBasic?_escaped {rest : Chars} (next : rest.head? ≠ some '"') (found : Chars)
    (run : Nat) (text : Chars) :
    multilineBasic? found (escaped true 2 run text ++ (triple '"' ++ rest)) =
      some (String.ofList (found.reverse ++ text), rest) := by
  induction text generalizing found run with
  | nil =>
    have closed := closing?_of_quotes (Nat.zero_le 2) found next
    rw [List.replicate_zero, List.nil_append] at closed
    rw [escaped, List.nil_append, multilineBasic?.eq_def, closed]
  | cons c text ih =>
    have joined : found.reverse ++ c :: text = (c :: found).reverse ++ text := by simp
    by_cases free : c = '"' ∧ run < 2
    · obtain ⟨rfl, free⟩ := free
      rw [escaped_free_quote true free, List.cons_append]
      by_cases closes :
        triple '"' <+: '"' :: (escaped true 2 (run + 1) text ++ (triple '"' ++ rest))
      · obtain ⟨count, few, text_eq, escaped_eq⟩ := quotes_of_prefix_triple free closes
        have closed := closing?_of_quotes (Nat.succ_le_succ few) found next
        rw [List.replicate_succ, List.cons_append] at closed
        rw [escaped_eq, multilineBasic?.eq_def, closed, text_eq]
      · rw [multilineBasic?_quote closes, ih, joined]
    · have other : c ≠ '"' ∨ ¬ run < 2 := by
        rwa [Ne, ← not_and_or]
      obtain ⟨first, more, escaped_eq, -, read⟩ := escaped_step other text
      rw [escaped_eq, List.append_assoc, read, ih, joined]

/-! ## Single quotes -/

theorem literal?_append {text : Chars} (h : ∀ c ∈ text, c ≠ '\'' ∧ isPlain c = true)
    (found rest : Chars) :
    literal? found (text ++ '\'' :: rest) =
      some (String.ofList (found.reverse ++ text), rest) := by
  induction text generalizing found with
  | nil => simp [literal?]
  | cons c text ih =>
    obtain ⟨quote, plain⟩ := h c List.mem_cons_self
    rw [List.cons_append, literal?, if_neg quote, if_pos plain,
      ih fun d hd => h d (List.mem_cons_of_mem c hd)]
    simp

/-- A run of a character is not longer than the longest one. -/
theorem le_longestRunFrom {quote : Char} (run longest : Nat) (text : Chars) :
    run ≤ longestRunFrom quote run longest text ∧
      longest ≤ longestRunFrom quote run longest text := by
  induction text generalizing run longest with
  | nil => exact ⟨Nat.le_max_left _ _, Nat.le_max_right _ _⟩
  | cons c text ih =>
    rw [longestRunFrom]
    split_ifs
    · have := ih (run + 1) longest
      omega
    · have := ih 0 (max run longest)
      omega

theorem le_longestRunFrom_of_replicate {quote : Char} (run longest count : Nat) (text : Chars) :
    run + count ≤ longestRunFrom quote run longest (List.replicate count quote ++ text) := by
  induction count generalizing run with
  | zero => exact (le_longestRunFrom run longest text).1
  | succ count ih =>
    rw [List.replicate_succ, List.cons_append, longestRunFrom, if_pos rfl]
    have := ih (run + 1)
    omega

theorem le_longestRun_of_infix {quote : Char} {count : Nat} {text : Chars}
    (h : List.replicate count quote <:+: text) : count ≤ longestRun quote text := by
  obtain ⟨before, after, rfl⟩ := h
  suffices ∀ run longest, count ≤
      longestRunFrom quote run longest (before ++ List.replicate count quote ++ after) from this 0 0
  induction before with
  | nil =>
    intro run longest
    rw [List.nil_append]
    exact Nat.le_trans (Nat.le_add_left count run)
      (le_longestRunFrom_of_replicate run longest count after)
  | cons c before ih =>
    intro run longest
    rw [List.cons_append, List.cons_append, longestRunFrom]
    split_ifs
    · exact ih (run + 1) longest
    · exact ih 0 (max run longest)

theorem not_mem_of_longestRun_eq_zero {quote : Char} {text : Chars}
    (h : longestRun quote text = 0) : quote ∉ text := by
  intro found
  obtain ⟨before, after, rfl⟩ := List.append_of_mem found
  have one : List.replicate 1 quote <:+: before ++ quote :: after := ⟨before, after, by simp⟩
  have := le_longestRun_of_infix one
  omega

/-- Three quotes stand at the front of a text between triple quotes that holds no three of them only
if the text consists of quotes. -/
theorem eq_replicate_of_prefix_triple {quote : Char} {text rest : Chars}
    (runs : ¬ triple quote <:+: text) (h : triple quote <+: text ++ (triple quote ++ rest)) :
    ∃ count ≤ 2, text = List.replicate count quote := by
  have front : text <+: text ++ (triple quote ++ rest) := List.prefix_append _ _
  rcases Nat.lt_or_ge text.length 3 with short | long
  · have small : text <+: triple quote :=
      List.prefix_of_prefix_length_le front h (by simp only [triple, List.length_replicate]; omega)
    obtain ⟨-, quotes⟩ := List.prefix_replicate_iff.1 small
    exact ⟨text.length, Nat.le_of_lt_succ short, quotes⟩
  · have inside : triple quote <+: text :=
      List.prefix_of_prefix_length_le h front (by simpa only [triple, List.length_replicate])
    exact absurd inside.isInfix runs

theorem multilineLiteral?_append {text rest : Chars} (next : rest.head? ≠ some '\'')
    (plain : ∀ c ∈ text, isPlain c = true ∨ c = '\n') (runs : ¬ triple '\'' <:+: text)
    (found : Chars) :
    multilineLiteral? found (text ++ (triple '\'' ++ rest)) =
      some (String.ofList (found.reverse ++ text), rest) := by
  induction text generalizing found with
  | nil =>
    have closed := closing?_of_quotes (Nat.zero_le 2) found next
    rw [List.replicate_zero, List.nil_append] at closed
    rw [List.nil_append, multilineLiteral?.eq_def, closed]
  | cons c text ih =>
    by_cases closes : triple '\'' <+: c :: text ++ (triple '\'' ++ rest)
    · obtain ⟨count, few, quotes⟩ := eq_replicate_of_prefix_triple runs closes
      rw [quotes, multilineLiteral?.eq_def, closing?_of_quotes few found next]
    · have stays := plain c List.mem_cons_self
      have return' : c ≠ '\r' := by
        rintro rfl
        revert stays
        decide
      have inner := ih (fun d hd => plain d (List.mem_cons_of_mem c hd))
        (fun inside => runs (inside.trans (List.suffix_cons c text).isInfix)) (c :: found)
      rw [multilineLiteral?.eq_def, closing?_eq_none closes]
      simp [return', stays, inner]

/-! ## Styles -/

/-- A text between triple quotes is read after its line end, if it starts on a line of its own. -/
theorem skipLineEnd_enclosed {text content : Chars}
    (h : '\n' ∉ text → lineEnd? content = none) :
    skipLineEnd ((if '\n' ∈ text then ['\n'] else []) ++ content) = content := by
  by_cases lines : '\n' ∈ text
  · rw [if_pos lines]
    rfl
  · rw [if_neg lines, List.nil_append, skipLineEnd, h lines, Option.getD_none]

/-- What is written for a text begins with no line end unless the text holds one. -/
theorem lineEnd?_escaped {text : Chars} (lines : '\n' ∉ text) (rest : Chars) :
    lineEnd? (escaped true 2 0 text ++ (triple '"' ++ rest)) = none := by
  match text with
  | [] => rfl
  | c :: text =>
    by_cases quote : c = '"'
    · subst quote
      rw [escaped_free_quote true (by decide)]
      rfl
    · have other : c ≠ '\n' := fun same => lines (same ▸ List.mem_cons_self)
      have written := charForm_writeChar quote
      rw [escaped_other true 2 0 quote (Or.inl other)]
      generalize writeChar c = form at written ⊢
      cases written with
      | plain _ _ plain =>
        refine lineEnd?_eq_none (by simpa using other) ?_
        rintro ⟨⟩
        cases plain
      | escaped => rfl

/-- A text that does not begin with three quotes of a kind begins with no string of several lines.
-/
theorem scan?_eq_scanLine? {text : Chars} (double : ¬ triple '"' <+: text)
    (single : ¬ triple '\'' <+: text) : scan? text = scanLine? text := by
  rw [scan?.eq_def]
  split
  · exact absurd (List.prefix_append (triple '"') _) double
  · exact absurd (List.prefix_append (triple '\'') _) single
  · rfl

theorem not_prefix_triple_of_head? {quote : Char} {text rest : Chars}
    (h : text = [] → rest.head? ≠ some quote) (inside : ∀ c ∈ text.head?, c ≠ quote) :
    ¬ triple quote <+: quote :: (text ++ quote :: rest) := by
  match text with
  | [] =>
    match rest with
    | [] =>
      intro opened
      have := opened.length_le
      contradiction
    | c :: rest =>
      have other : c ≠ quote := by simpa using h rfl
      exact not_prefix_triple other 2 (Nat.le_refl _) rest
  | c :: text => exact not_prefix_triple (inside c rfl) 1 (by decide) _

theorem head?_escaped (text : Chars) : ∀ c ∈ (escaped false 0 0 text).head?, c ≠ '"' := by
  match text with
  | [] => simp [escaped]
  | c :: text =>
    by_cases quote : c = '"'
    · subst quote
      simp [escaped_quote]
    · have written := charForm_writeChar quote
      rw [escaped_other false 0 0 quote (Or.inr rfl)]
      generalize writeChar c = form at written ⊢
      cases written with
      | plain => simpa using quote
      | escaped => simp

theorem scan?_basic (text : Chars) {rest : Chars} (next : rest.head? ≠ some '"') :
    scan? (writeAs text .basic ++ rest) = some (String.ofList text, rest) := by
  have double := not_prefix_triple_of_head? (fun _ => next) (head?_escaped text)
  have single : ¬ triple '\'' <+: '"' :: (escaped false 0 0 text ++ '"' :: rest) :=
    not_prefix_triple (by decide) 0 (Nat.zero_le _) _
  rw [writeAs, List.append_assoc, List.cons_append, List.singleton_append,
    scan?_eq_scanLine? double single]
  exact basic?_escaped [] text rest

theorem scan?_literal {text rest : Chars} (next : rest.head? ≠ some '\'')
    (plain : ∀ c ∈ text, c ≠ '\'' ∧ isPlain c = true) :
    scan? (writeAs text .literal ++ rest) = some (String.ofList text, rest) := by
  have single : ¬ triple '\'' <+: '\'' :: (text ++ '\'' :: rest) :=
    not_prefix_triple_of_head? (fun _ => next)
      fun c first => (plain c (List.mem_of_mem_head? first)).1
  have double : ¬ triple '"' <+: '\'' :: (text ++ '\'' :: rest) :=
    not_prefix_triple (by decide) 0 (Nat.zero_le _) _
  rw [writeAs, List.append_assoc, List.cons_append, List.singleton_append,
    scan?_eq_scanLine? double single]
  exact literal?_append plain [] rest

theorem enclose_append (quote : Char) (text content rest : Chars) :
    enclose quote text content ++ rest = quote :: quote :: quote ::
      ((if '\n' ∈ text then ['\n'] else []) ++ (content ++ (triple quote ++ rest))) := by
  simp [enclose, triple, List.replicate]

theorem scan?_multilineBasic (text : Chars) {rest : Chars} (next : rest.head? ≠ some '"') :
    scan? (writeAs text .multilineBasic ++ rest) = some (String.ofList text, rest) := by
  rw [writeAs, enclose_append, scan?, skipLineEnd_enclosed fun lines => lineEnd?_escaped lines rest]
  exact multilineBasic?_escaped next [] 0 text

theorem scan?_multilineLiteral {text rest : Chars} (next : rest.head? ≠ some '\'')
    (plain : ∀ c ∈ text, isPlain c = true ∨ c = '\n') (runs : ¬ triple '\'' <:+: text) :
    scan? (writeAs text .multilineLiteral ++ rest) = some (String.ofList text, rest) := by
  have inside : '\n' ∉ text → lineEnd? (text ++ (triple '\'' ++ rest)) = none := by
    intro lines
    match text with
    | [] => rfl
    | c :: text =>
      refine lineEnd?_eq_none ?_ ?_
      · rintro ⟨⟩
        exact lines List.mem_cons_self
      · rintro ⟨⟩
        have := plain '\r' List.mem_cons_self
        revert this
        decide
  rw [writeAs, enclose_append, scan?, skipLineEnd_enclosed inside]
  exact multilineLiteral?_append next plain runs []

/-- Every text is read back from what is written for it, and what follows is left, unless it is one
more quote. -/
theorem scan?_write (text : String) {rest : Chars} (double : rest.head? ≠ some '"')
    (single : rest.head? ≠ some '\'') : scan? (write text ++ rest) = some (text, rest) := by
  have whole : String.ofList text.toList = text := String.ofList_toList
  have visible (controls : text.toList.any isControl = false) :
      ∀ c ∈ text.toList, isPlain c = true ∨ c = '\n' := by
    intro c hc
    by_cases lineFeed : c = '\n'
    · exact Or.inr lineFeed
    · exact Or.inl (isPlain_of_not_control (List.any_eq_false.1 controls c hc) lineFeed)
  rw [write, style]
  split_ifs with basic literal multilineBasic multilineLiteral
  · rw [scan?_basic _ double, whole]
  · simp only [Bool.and_eq_true, Bool.not_eq_true', decide_eq_true_eq, decide_eq_false_iff_not]
      at literal
    obtain ⟨⟨controls, none⟩, lines⟩ := literal
    have plain : ∀ c ∈ text.toList, c ≠ '\'' ∧ isPlain c = true := by
      intro c hc
      refine ⟨fun quote => not_mem_of_longestRun_eq_zero none (quote ▸ hc), ?_⟩
      exact (visible controls c hc).resolve_right fun lineFeed => lines (lineFeed ▸ hc)
    rw [scan?_literal single plain, whole]
  · rw [scan?_multilineBasic _ double, whole]
  · simp only [Bool.and_eq_true, Bool.not_eq_true', decide_eq_true_eq] at multilineLiteral
    obtain ⟨controls, few⟩ := multilineLiteral
    have runs : ¬ triple '\'' <:+: text.toList := by
      intro inside
      have := le_longestRun_of_infix inside
      omega
    rw [scan?_multilineLiteral single (visible controls) runs, whole]
  · rw [scan?_multilineBasic _ double, whole]
  · rw [scan?_basic _ double, whole]

/-- Without a control character, the first kind of quotes that does not occur is taken. -/
example : write "it's" = "\"it's\"".toList ∧ write "a \"b\"" = "'a \"b\"'".toList ∧
    write "it's \"b\"" = "\"\"\"it's \"b\"\"\"\"".toList := by decide +kernel

theorem write_eq_cons (text : String) :
    ∃ quote more, write text = quote :: more ∧ (quote = '"' ∨ quote = '\'') := by
  rw [write]
  cases style text.toList with
  | basic => exact ⟨_, _, rfl, Or.inl rfl⟩
  | literal => exact ⟨_, _, rfl, Or.inr rfl⟩
  | multilineBasic => exact ⟨_, _, rfl, Or.inl rfl⟩
  | multilineLiteral => exact ⟨_, _, rfl, Or.inr rfl⟩

theorem scanLine?_eq_none {c : Char} (h : c ∉ ['"', '\'']) (text : Chars) :
    scanLine? (c :: text) = none := by
  rw [scanLine?.eq_def]
  split
  · rename_i same
    cases (List.cons.inj same).1
    exact absurd h (by decide)
  · rename_i same
    cases (List.cons.inj same).1
    exact absurd h (by decide)
  · rfl

theorem scan?_eq_none {c : Char} (h : c ∉ ['"', '\'']) (text : Chars) :
    scan? (c :: text) = none := by
  have other : c ≠ '"' ∧ c ≠ '\'' := by simpa using h
  have double : ¬ triple '"' <+: c :: text := not_prefix_triple other.1 0 (Nat.zero_le _) text
  have single : ¬ triple '\'' <+: c :: text := not_prefix_triple other.2 0 (Nat.zero_le _) text
  rw [scan?_eq_scanLine? double single, scanLine?_eq_none h]

end Quoted

end AccessStream.Toml

/-!
# Looking for a text inside another

Texts are looked for character by character, without any folding of letters or trimming. The empty
text occurs in every text and ends every text.
-/

namespace AccessStream.Text

/-- Whether a pattern occurs somewhere in a sequence of characters. -/
def occursIn (pattern : List Char) : List Char → Bool
  | [] => pattern.isEmpty
  | c :: rest => pattern.isPrefixOf (c :: rest) || occursIn pattern rest

/-- A pattern occurs in a sequence exactly when it is one of its segments. -/
theorem occursIn_iff {pattern text : List Char} :
    occursIn pattern text = true ↔ pattern <:+: text := by
  induction text with
  | nil => simp [occursIn]
  | cons c rest ih => simp [occursIn, ih, List.infix_cons_iff]

/-- Whether a text has a pattern somewhere inside. -/
def contains (text pattern : String) : Bool := occursIn pattern.toList text.toList

/-- Whether a text ends with a pattern. -/
def endsWith (text pattern : String) : Bool := pattern.toList.isSuffixOf text.toList

/-- A text contains a pattern exactly when it is the pattern with text before and after it. -/
theorem contains_iff {text pattern : String} :
    contains text pattern = true ↔ ∃ before after, text = before ++ pattern ++ after := by
  rw [contains, occursIn_iff]
  constructor
  · rintro ⟨before, after, h⟩
    refine ⟨String.ofList before, String.ofList after, String.toList_inj.1 ?_⟩
    simp [← h]
  · rintro ⟨before, after, rfl⟩
    exact ⟨before.toList, after.toList, by simp⟩

/-- A text ends with a pattern exactly when it is the pattern with text before it. -/
theorem endsWith_iff {text pattern : String} :
    endsWith text pattern = true ↔ ∃ before, text = before ++ pattern := by
  rw [endsWith, List.isSuffixOf_iff_suffix]
  constructor
  · rintro ⟨before, h⟩
    exact ⟨String.ofList before, String.toList_inj.1 (by simp [← h])⟩
  · rintro ⟨before, rfl⟩
    exact ⟨before.toList, by simp⟩

end AccessStream.Text

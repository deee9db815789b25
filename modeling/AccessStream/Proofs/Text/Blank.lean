import AccessStream.Text.Blank
import Mathlib.Logic.Basic

/-!
# White space by name

The characters with the property `White_Space`, one by one. A text is blank when each of its
characters is one of them (`Text.isBlank_iff`, `Text.isBlank_eq_false_iff`).
-/

namespace AccessStream

/-- The characters with the property `White_Space`. -/
def whiteSpace : List Char :=
  ['\t', '\n', '\x0B', '\x0C', '\r', ' ', '\u0085', '\u00A0', '\u1680', '\u2000', '\u2001', '\u2002',
    '\u2003', '\u2004', '\u2005', '\u2006', '\u2007', '\u2008', '\u2009', '\u200A', '\u2028',
    '\u2029', '\u202F', '\u205F', '\u3000']

theorem isSpace_eq_true_iff {c : Char} : Text.isSpace c = true ↔ c ∈ whiteSpace := by
  have le_iff : ∀ {c d : Char}, c ≤ d ↔ c.toNat ≤ d.toNat := Iff.rfl
  simp only [Text.isSpace, Text.spaceRanges, whiteSpace, List.any_cons, List.any_nil,
    Bool.or_eq_true, Bool.and_eq_true, decide_eq_true_eq, List.mem_cons, List.not_mem_nil, le_iff,
    ← Char.toNat_inj, Char.reduceToNat, Bool.false_eq_true, or_false]
  omega

namespace Text

theorem isBlank_iff {text : String} : isBlank text = true ↔ ∀ c ∈ text.toList, c ∈ whiteSpace := by
  rw [isBlank, List.all_eq_true]
  simp only [isSpace_eq_true_iff]

theorem isBlank_eq_false_iff {text : String} :
    isBlank text = false ↔ ∃ c ∈ text.toList, c ∉ whiteSpace := by
  rw [← Bool.not_eq_true, isBlank_iff]
  simp only [not_forall, exists_prop]

end Text

end AccessStream

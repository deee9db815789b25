import AccessStream.Text.Utf8
import Mathlib.Data.List.Basic
import Mathlib.Tactic.SplitIfs

/-!
# The bytes of a character

The UTF-8 form of a character tells where the character ends: a byte that begins a character is
never a continuation byte, and no form is the beginning of another one. So a character that is
followed by anything can be read off the bytes (`encodeChar_append_inj`).
-/

namespace AccessStream.Utf8

open String (utf8EncodeChar)

/-- The UTF-8 form of some characters. -/
def ofChars (cs : List Char) : Bytes := cs.flatMap utf8EncodeChar

theorem encode_ofList (cs : List Char) : encode (String.ofList cs) = ofChars cs := by
  rw [encode_eq_flatMap, String.toList_ofList, ofChars]

@[simp] theorem ofChars_nil : ofChars [] = [] := rfl

@[simp] theorem ofChars_append (cs ds : List Char) :
    ofChars (cs ++ ds) = ofChars cs ++ ofChars ds :=
  List.flatMap_append

theorem ofChars_cons (c : Char) (cs : List Char) :
    ofChars (c :: cs) = utf8EncodeChar c ++ ofChars cs :=
  List.flatMap_cons

theorem encodeChar_of_lt {c : Char} (h : c.toNat < 0x80) :
    utf8EncodeChar c = [UInt8.ofNat c.toNat] := by
  have small : c.val.toNat ≤ 0x7F := Nat.le_of_lt_succ h
  rw [utf8EncodeChar]
  simp only [small, ↓reduceIte]
  rfl

theorem ofChars_cons_of_lt {c : Char} (h : c.toNat < 0x80) (cs : List Char) :
    ofChars (c :: cs) = UInt8.ofNat c.toNat :: ofChars cs := by
  rw [ofChars_cons, encodeChar_of_lt h, List.singleton_append]

theorem isContinuation_ofNat (n : Nat) : isContinuation (UInt8.ofNat (n % 64 + 0x80)) = true := by
  simp only [isContinuation, Bool.and_eq_true, decide_eq_true_eq, UInt8.le_iff_toNat_le,
    UInt8.toNat_ofNat', UInt8.reduceToNat]
  omega

theorem le_ofNat_of_lt {n : Nat} (h : 0xC0 ≤ n) (h' : n < 0x100) : 0xC0 ≤ UInt8.ofNat n := by
  simp only [UInt8.le_iff_toNat_le, UInt8.toNat_ofNat', UInt8.reduceToNat]
  omega

/-- A character outside ASCII begins with a byte that is neither ASCII nor a continuation byte, and
goes on with continuation bytes. -/
theorem encodeChar_of_le {c : Char} (h : 0x80 ≤ c.toNat) :
    ∃ first others, utf8EncodeChar c = first :: others ∧ 0xC0 ≤ first ∧
      ∀ other ∈ others, isContinuation other = true := by
  have large : ¬ c.val.toNat ≤ 0x7F := Nat.not_le.2 h
  rw [utf8EncodeChar]
  simp only [large, ↓reduceIte]
  split_ifs
  all_goals
    refine ⟨_, _, rfl, le_ofNat_of_lt (by omega) (by omega), ?_⟩
    simp only [List.forall_mem_cons, isContinuation_ofNat, List.not_mem_nil, false_implies,
      implies_true, and_self]

theorem encodeChar_ne_nil (c : Char) : utf8EncodeChar c ≠ [] := by
  have := String.length_utf8EncodeChar c
  have := c.utf8Size_pos
  intro empty
  simp only [empty, List.length_nil] at *
  omega

theorem encode_inj {text text' : String} (same : encode text = encode text') : text = text' := by
  have decoded := congrArg decode? same
  rw [decode?_encode, decode?_encode] at decoded
  exact Option.some.inj decoded

theorem encode_eq_nil_iff {text : String} : encode text = [] ↔ text = "" := by
  rw [encode_eq_flatMap, List.flatMap_eq_nil_iff, ← String.toList_eq_nil_iff]
  constructor
  · intro empty
    refine List.eq_nil_iff_forall_not_mem.2 fun c inside => ?_
    exact encodeChar_ne_nil c (empty c inside)
  · intro empty c inside
    rw [empty] at inside
    cases inside

/-- All bytes of a character outside ASCII have the highest bit. -/
theorem le_of_mem_encodeChar {c : Char} (h : 0x80 ≤ c.toNat) {byte : UInt8}
    (hb : byte ∈ utf8EncodeChar c) : 0x80 ≤ byte := by
  obtain ⟨first, others, form, lead, continued⟩ := encodeChar_of_le h
  rw [form] at hb
  rcases List.mem_cons.1 hb with rfl | hb
  · exact UInt8.le_trans (by decide) lead
  · have := continued byte hb
    simp only [isContinuation, Bool.and_eq_true, decide_eq_true_eq] at this
    exact this.1

/-- A byte of ASCII is found where its character is, and nowhere else. -/
theorem ofNat_mem_ofChars_iff {c : Char} (ascii : c.toNat < 0x80) {cs : List Char} :
    UInt8.ofNat c.toNat ∈ ofChars cs ↔ c ∈ cs := by
  rw [ofChars, List.mem_flatMap]
  constructor
  · rintro ⟨d, inside, found⟩
    by_cases small : d.toNat < 0x80
    · rw [encodeChar_of_lt small, List.mem_singleton] at found
      have code := congrArg UInt8.toNat found
      rw [UInt8.toNat_ofNat', UInt8.toNat_ofNat'] at code
      have same : c = d := Char.toNat_inj.1 (by omega)
      rwa [same]
    · have high := le_of_mem_encodeChar (Nat.le_of_not_lt small) found
      rw [UInt8.le_iff_toNat_le, UInt8.toNat_ofNat'] at high
      simp only [UInt8.reduceToNat] at high
      omega
  · intro inside
    refine ⟨c, inside, ?_⟩
    rw [encodeChar_of_lt ascii]
    exact List.mem_singleton_self _

/-- A text whose last byte is one of ASCII ends with the character of that byte. -/
theorem exists_of_ofChars_eq_concat {c : Char} (ascii : c.toNat < 0x80) {cs : List Char}
    {bytes : Bytes} (h : ofChars cs = bytes ++ [UInt8.ofNat c.toNat]) :
    ∃ front, cs = front ++ [c] ∧ bytes = ofChars front := by
  rcases List.eq_nil_or_concat cs with rfl | ⟨front, d, rfl⟩
  · simp at h
  rw [List.concat_eq_append] at h ⊢
  have last : UInt8.ofNat c.toNat ∈ ofChars [d] := by
    have ends := congrArg List.getLast? h
    rw [ofChars_append, ofChars_cons, ofChars_nil, List.append_nil,
      List.getLast?_append_of_ne_nil _ (encodeChar_ne_nil d), List.getLast?_concat] at ends
    rw [ofChars_cons, ofChars_nil, List.append_nil]
    exact List.mem_of_getLast? ends
  obtain rfl : c = d := List.mem_singleton.1 ((ofNat_mem_ofChars_iff ascii).1 last)
  rw [ofChars_append, ofChars_cons_of_lt ascii, ofChars_nil] at h
  exact ⟨front, rfl, (List.append_cancel_right h).symm⟩

/-- The first byte of a character is no continuation byte, and all others are. -/
theorem isContinuation_encodeChar {c : Char} {byte : UInt8} {rest : Bytes}
    (h : utf8EncodeChar c = byte :: rest) :
    isContinuation byte = false ∧ ∀ other ∈ rest, isContinuation other = true := by
  by_cases small : c.toNat < 0x80
  · rw [encodeChar_of_lt small] at h
    obtain ⟨rfl, rfl⟩ : _ ∧ [] = rest := by simpa using h
    refine ⟨?_, by simp⟩
    simp only [isContinuation, Bool.and_eq_false_iff, decide_eq_false_iff_not,
      UInt8.le_iff_toNat_le, UInt8.toNat_ofNat', UInt8.reduceToNat]
    omega
  · obtain ⟨first, others, form, lead, continued⟩ := encodeChar_of_le (Nat.le_of_not_lt small)
    rw [form] at h
    obtain ⟨rfl, rfl⟩ : first = byte ∧ others = rest := by simpa using h
    refine ⟨?_, continued⟩
    simp only [isContinuation, Bool.and_eq_false_iff, decide_eq_false_iff_not,
      UInt8.le_iff_toNat_le, UInt8.reduceToNat] at lead ⊢
    omega

/-- A character can be read off the bytes that begin with its form. -/
theorem encodeChar_append_inj {c d : Char} {rest rest' : Bytes}
    (h : utf8EncodeChar c ++ rest = utf8EncodeChar d ++ rest') : c = d ∧ rest = rest' := by
  have decoded := congrArg (fun bytes : Bytes => bytes.toByteArray.utf8DecodeChar? 0) h
  simp only [List.toByteArray_append, ByteArray.utf8DecodeChar?_utf8EncodeChar_append,
    Option.some.injEq] at decoded
  subst decoded
  exact ⟨rfl, List.append_cancel_left h⟩

end AccessStream.Utf8

import AccessStream.Json.Members
import AccessStream.Proofs.Json.Quoted

/-!
# The grammar of JSON objects of strings

An object is written as its members between braces, with a comma between one member and the next,
and a member as two strings with a colon between them. Blanks may stand around each of these signs
and around the object. Reading accepts exactly what is written so, and gives the members in the
order in which they stand there, repeated keys included (`readObject_eq_ok_iff`).
-/

namespace AccessStream.Json

/-! ## The grammar -/

/-- Blanks only: spaces, tabs, line feeds and carriage returns. -/
def Blanks (bytes : Bytes) : Prop :=
  ∀ byte ∈ bytes, byte = 0x20 ∨ byte = 0x09 ∨ byte = 0x0A ∨ byte = 0x0D

/-- The ways to write a member: a key, a colon and a value. -/
inductive MemberForm : Bytes → String × String → Prop where
  | intro {first before after second : Bytes} {key value : String} :
      StringForm first key → Blanks before → Blanks after → StringForm second value →
      MemberForm (first ++ before ++ 0x3A :: (after ++ second)) (key, value)

/-- The ways to write one member or more, with a comma between one and the next. -/
inductive MembersForm : Bytes → List (String × String) → Prop where
  | one {before form after : Bytes} {member : String × String} :
      Blanks before → MemberForm form member → Blanks after →
      MembersForm (before ++ form ++ after) [member]
  | more {before form after forms : Bytes} {member : String × String}
      {members : List (String × String)} :
      Blanks before → MemberForm form member → Blanks after → MembersForm forms members →
      MembersForm (before ++ form ++ after ++ 0x2C :: forms) (member :: members)

/-- The ways to write any number of members between two braces. -/
inductive ContentForm : Bytes → List (String × String) → Prop where
  | empty {blanks : Bytes} : Blanks blanks → ContentForm blanks []
  | members {forms : Bytes} {members : List (String × String)} :
      MembersForm forms members → ContentForm forms members

/-- The ways to write an object of strings, given by its members from left to right. -/
def ObjectForm (bytes : Bytes) (members : List (String × String)) : Prop :=
  ∃ before content after, Blanks before ∧ ContentForm content members ∧ Blanks after ∧
    bytes = before ++ 0x7B :: (content ++ 0x7D :: after)

/-! ## Blanks -/

theorem isBlank_iff {byte : UInt8} :
    isBlank byte = true ↔ byte = 0x20 ∨ byte = 0x09 ∨ byte = 0x0A ∨ byte = 0x0D := by
  simp [isBlank, or_assoc]

theorem skipBlanks_append {blanks : Bytes} (h : Blanks blanks) (rest : Bytes) :
    skipBlanks (blanks ++ rest) = skipBlanks rest :=
  List.dropWhile_append_of_pos fun byte hb => isBlank_iff.2 (h byte hb)

/-- What skipping leaves out are blanks. -/
theorem exists_blanks (input : Bytes) :
    ∃ blanks, Blanks blanks ∧ input = blanks ++ skipBlanks input := by
  refine ⟨input.takeWhile isBlank, fun byte hb => ?_, List.takeWhile_append_dropWhile.symm⟩
  exact isBlank_iff.1 (List.all_eq_true.1 List.all_takeWhile byte hb)

theorem skipBlanks_eq_nil_iff {input : Bytes} : skipBlanks input = [] ↔ Blanks input := by
  constructor
  · intro h
    obtain ⟨blanks, hb, written⟩ := exists_blanks input
    rw [h, List.append_nil] at written
    rwa [written]
  · intro h
    have := skipBlanks_append h []
    rwa [List.append_nil] at this

theorem skipBlanks_cons {byte : UInt8} (solid : isBlank byte = false) (rest : Bytes) :
    skipBlanks (byte :: rest) = byte :: rest := by
  rw [skipBlanks, List.dropWhile_cons_of_neg (by simp [solid])]

/-- Skipping stops at a byte exactly when blanks stand before it. -/
theorem skipBlanks_eq_cons_iff {byte : UInt8} (solid : isBlank byte = false)
    {input rest : Bytes} :
    skipBlanks input = byte :: rest ↔ ∃ blanks, Blanks blanks ∧ input = blanks ++ byte :: rest := by
  constructor
  · intro h
    obtain ⟨blanks, hb, written⟩ := exists_blanks input
    rw [h] at written
    exact ⟨blanks, hb, written⟩
  · rintro ⟨blanks, hb, rfl⟩
    rw [skipBlanks_append hb, skipBlanks_cons solid]

theorem expect_skipBlanks_eq_ok_iff {byte : UInt8} (solid : isBlank byte = false)
    {input rest : Bytes} :
    expect byte (skipBlanks input) = .ok rest ↔
      ∃ blanks, Blanks blanks ∧ input = blanks ++ byte :: rest := by
  rw [expect_eq_ok_iff, skipBlanks_eq_cons_iff solid]

theorem scanString_skipBlanks_eq_ok_iff {input rest : Bytes} {text : String} :
    scanString (skipBlanks input) = .ok (text, rest) ↔
      ∃ blanks form, Blanks blanks ∧ StringForm form text ∧ input = blanks ++ form ++ rest := by
  rw [scanString_eq_ok_iff]
  constructor
  · rintro ⟨form, written, split⟩
    obtain ⟨blanks, hb, input_eq⟩ := exists_blanks input
    refine ⟨blanks, form, hb, written, ?_⟩
    rw [List.append_assoc, ← split]
    exact input_eq
  · rintro ⟨blanks, form, hb, ⟨content, written, rfl⟩, rfl⟩
    refine ⟨_, ⟨content, written, rfl⟩, ?_⟩
    rw [List.append_assoc, skipBlanks_append hb]
    exact skipBlanks_cons (by decide) _

/-! ## Members -/

theorem scanMember_eq_ok_iff {input rest : Bytes} {member : String × String} :
    scanMember (fun _ => .string) input = .ok (member, rest) ↔
      ∃ form, MemberForm form member ∧ 0x22 :: input = form ++ rest := by
  constructor
  · intro h
    unfold scanMember at h
    split at h
    · cases h
    rename_i key afterKey keyRead
    split at h
    · cases h
    rename_i afterColon colon
    split at h
    · cases h
    rename_i value afterValue valueRead
    cases h
    obtain ⟨content, written, rfl⟩ := Quoted.scan_eq_ok_iff.1 keyRead
    obtain ⟨before, hb, rfl⟩ := (expect_skipBlanks_eq_ok_iff (by decide)).1 colon
    obtain ⟨after, second, ha, value_form, rfl⟩ := scanString_skipBlanks_eq_ok_iff.1 valueRead
    refine ⟨_, .intro ⟨content, written, rfl⟩ hb ha value_form, ?_⟩
    simp
  · rintro ⟨form, ⟨⟨content, written, rfl⟩, hb, ha, value_form⟩, split⟩
    rename_i before after second key value
    have input_eq : input = content ++ 0x22 :: (before ++ 0x3A :: (after ++ second ++ rest)) := by
      simpa using split
    have keyRead := Quoted.scan_eq_ok_iff.2 ⟨content, written, input_eq⟩
    have colon : expect 0x3A (skipBlanks (before ++ 0x3A :: (after ++ second ++ rest))) =
        .ok (after ++ second ++ rest) :=
      (expect_skipBlanks_eq_ok_iff (by decide)).2 ⟨before, hb, rfl⟩
    have valueRead : scanString (skipBlanks (after ++ second ++ rest)) = .ok (value, rest) :=
      scanString_skipBlanks_eq_ok_iff.2 ⟨after, second, ha, value_form, rfl⟩
    simp only [scanMember, keyRead, colon, Scanner.string, valueRead]

/-- What is read between a member and the next one, whose opening quote belongs to it, or between
the last member and the end of the object. -/
inductive SeparatorForm : Bytes → Bool → Prop where
  | close {after : Bytes} : Blanks after → SeparatorForm (after ++ [0x7D]) false
  | comma {after before : Bytes} :
      Blanks after → Blanks before → SeparatorForm (after ++ 0x2C :: before ++ [0x22]) true

theorem scanSeparator_eq_ok_iff {input rest : Bytes} {more : Bool} :
    scanSeparator input = .ok (more, rest) ↔
      ∃ form, SeparatorForm form more ∧ input = form ++ rest := by
  constructor
  · intro h
    unfold scanSeparator at h
    split at h
    · cases h
    rename_i byte afterByte skipped
    split at h
    · rename_i brace
      rw [brace, skipBlanks_eq_cons_iff (by decide)] at skipped
      obtain ⟨after, ha, rfl⟩ := skipped
      cases h
      exact ⟨after ++ [0x7D], .close ha, by simp⟩
    split at h
    · rename_i comma
      rw [comma, skipBlanks_eq_cons_iff (by decide)] at skipped
      obtain ⟨after, ha, rfl⟩ := skipped
      cases quote : expect 0x22 (skipBlanks afterByte) with
      | error => simp [quote, Except.map] at h
      | ok afterQuote =>
        simp only [quote, Except.map, Except.ok.injEq, Prod.mk.injEq] at h
        obtain ⟨rfl, rfl⟩ := h
        obtain ⟨before, hb, rfl⟩ := (expect_skipBlanks_eq_ok_iff (by decide)).1 quote
        exact ⟨after ++ 0x2C :: before ++ [0x22], .comma ha hb, by simp⟩
    · cases h
  · rintro ⟨form, separator, rfl⟩
    cases separator with
    | @close after ha =>
      have skipped : skipBlanks (after ++ [0x7D] ++ rest) = 0x7D :: rest :=
        (skipBlanks_eq_cons_iff (by decide)).2 ⟨after, ha, by simp⟩
      rw [scanSeparator, skipped]
      rfl
    | @comma after before ha hb =>
      have skipped : skipBlanks (after ++ 0x2C :: before ++ [0x22] ++ rest) =
          0x2C :: (before ++ 0x22 :: rest) :=
        (skipBlanks_eq_cons_iff (by decide)).2 ⟨after, ha, by simp⟩
      have quote : expect 0x22 (skipBlanks (before ++ 0x22 :: rest)) = .ok rest :=
        (expect_skipBlanks_eq_ok_iff (by decide)).2 ⟨before, hb, rfl⟩
      rw [scanSeparator, skipped]
      simp [quote, Except.map]

theorem Blanks.nil : Blanks [] := fun _ hb => nomatch hb

theorem Blanks.append {first second : Bytes} (h₁ : Blanks first) (h₂ : Blanks second) :
    Blanks (first ++ second) := by
  intro byte hb
  rcases List.mem_append.1 hb with hb | hb
  · exact h₁ byte hb
  · exact h₂ byte hb

theorem MembersForm.append_blanks {blanks forms : Bytes} {members : List (String × String)}
    (hb : Blanks blanks) (h : MembersForm forms members) :
    MembersForm (blanks ++ forms) members := by
  cases h with
  | one before form after =>
    rw [← List.append_assoc, ← List.append_assoc]
    exact .one (hb.append before) form after
  | more before form after others =>
    rw [← List.append_assoc, ← List.append_assoc, ← List.append_assoc]
    exact .more (hb.append before) form after others

/-- What the loop over the members accepts is a way to write the members that it adds. -/
theorem membersForm_of_scanMembers {found all : Array (String × String)} {input rest : Bytes}
    (h : scanMembers (fun _ => .string) found input = .ok (all, rest)) :
    ∃ forms members, MembersForm forms members ∧ all.toList = found.toList ++ members ∧
      0x22 :: input = forms ++ 0x7D :: rest := by
  fun_induction scanMembers (fun _ => .string) found input with
  | case1 => cases h
  | case2 => cases h
  | case3 found input member afterMember read rest' separated =>
    cases h
    obtain ⟨form, written, input_eq⟩ := scanMember_eq_ok_iff.1 read
    obtain ⟨_, @⟨after, ha⟩, rfl⟩ := scanSeparator_eq_ok_iff.1 separated
    refine ⟨[] ++ form ++ after, [member], .one .nil written ha, by simp, ?_⟩
    simp [input_eq]
  | case4 found input member afterMember read rest' separated ih =>
    obtain ⟨forms, members, others, grown, rest_eq⟩ := ih h
    obtain ⟨form, written, input_eq⟩ := scanMember_eq_ok_iff.1 read
    obtain ⟨_, separator, rfl⟩ := scanSeparator_eq_ok_iff.1 separated
    cases separator with
    | @comma after before ha hb =>
      refine ⟨[] ++ form ++ after ++ 0x2C :: (before ++ forms), member :: members,
        .more .nil written ha (others.append_blanks hb), by simp [grown], ?_⟩
      simp [input_eq, rest_eq]

section Loop

variable {α : Type} {value : String → Scanner α} {input after rest : Bytes} {member : String × α}

theorem scanMembers_of_close (read : scanMember value input = .ok (member, after))
    (separated : scanSeparator after = .ok (false, rest)) (found : Array (String × α)) :
    scanMembers value found input = .ok (found.push member, rest) := by
  rw [scanMembers]
  split
  · simp_all
  · rename_i read'
    rw [read] at read'
    cases read'
    split <;> simp_all

theorem scanMembers_of_comma (read : scanMember value input = .ok (member, after))
    (separated : scanSeparator after = .ok (true, rest)) (found : Array (String × α)) :
    scanMembers value found input = scanMembers value (found.push member) rest := by
  rw [scanMembers]
  split
  · simp_all
  · rename_i read'
    rw [read] at read'
    cases read'
    split <;> simp_all

end Loop

theorem MemberForm.exists_quote {form : Bytes} {member : String × String}
    (h : MemberForm form member) : ∃ rest, form = 0x22 :: rest := by
  obtain ⟨⟨content, key, rfl⟩, hb, ha, value⟩ := h
  exact ⟨_, rfl⟩

/-- The loop over the members, started behind the first quote, undoes every way to write them. -/
theorem scanMembers_of_membersForm {forms : Bytes} {members : List (String × String)}
    (h : MembersForm forms members) (rest : Bytes) :
    ∃ input, skipBlanks (forms ++ 0x7D :: rest) = 0x22 :: input ∧
      ∀ found : Array (String × String), scanMembers (fun _ => .string) found input =
        .ok (found ++ members, rest) := by
  induction h with
  | @one before form after member hb written ha =>
    obtain ⟨tail, rfl⟩ := written.exists_quote
    have read : scanMember (fun _ => .string) (tail ++ (after ++ 0x7D :: rest)) =
        .ok (member, after ++ 0x7D :: rest) := scanMember_eq_ok_iff.2 ⟨_, written, by simp⟩
    have separated : scanSeparator (after ++ 0x7D :: rest) = .ok (false, rest) :=
      scanSeparator_eq_ok_iff.2 ⟨after ++ [0x7D], .close ha, by simp⟩
    refine ⟨tail ++ (after ++ 0x7D :: rest), ?_, fun found => ?_⟩
    · exact (skipBlanks_eq_cons_iff (by decide)).2 ⟨before, hb, by simp⟩
    · rw [scanMembers_of_close read separated]
      simp
  | @more before form after forms member members hb written ha _ ih =>
    obtain ⟨tail, rfl⟩ := written.exists_quote
    obtain ⟨others, skipped, loop⟩ := ih
    obtain ⟨blanks, hb', others_eq⟩ := (skipBlanks_eq_cons_iff (by decide)).1 skipped
    have read : scanMember (fun _ => .string)
        (tail ++ (after ++ 0x2C :: (forms ++ 0x7D :: rest))) =
          .ok (member, after ++ 0x2C :: (forms ++ 0x7D :: rest)) :=
      scanMember_eq_ok_iff.2 ⟨_, written, by simp⟩
    have separated : scanSeparator (after ++ 0x2C :: (forms ++ 0x7D :: rest)) =
        .ok (true, others) :=
      scanSeparator_eq_ok_iff.2 ⟨_, .comma ha hb', by simp [others_eq]⟩
    refine ⟨tail ++ (after ++ 0x2C :: (forms ++ 0x7D :: rest)), ?_, fun found => ?_⟩
    · exact (skipBlanks_eq_cons_iff (by decide)).2 ⟨before, hb, by simp⟩
    · rw [scanMembers_of_comma read separated, loop]
      simp

/-! ## Objects -/

theorem scanObject_eq_ok_iff {input rest : Bytes} {members : List (String × String)} :
    scanObject (fun _ => .string) input = .ok (members, rest) ↔
      ∃ content, ContentForm content members ∧ input = content ++ 0x7D :: rest := by
  constructor
  · intro h
    unfold scanObject at h
    split at h
    · cases h
    rename_i byte afterByte skipped
    split at h
    · rename_i brace
      rw [brace, skipBlanks_eq_cons_iff (by decide)] at skipped
      obtain ⟨blanks, hb, rfl⟩ := skipped
      cases h
      exact ⟨blanks, .empty hb, rfl⟩
    split at h
    · rename_i quote
      split at h
      · cases h
      rename_i all after read
      obtain ⟨forms, added, written, grown, split⟩ := membersForm_of_scanMembers read
      obtain ⟨blanks, hb, input_eq⟩ := exists_blanks input
      rw [skipped, quote, split, ← List.append_assoc] at input_eq
      simp only [Except.ok.injEq, Prod.mk.injEq] at h
      obtain ⟨rfl, rfl⟩ := h
      rw [grown]
      exact ⟨blanks ++ forms, .members (written.append_blanks hb), input_eq⟩
    · cases h
  · rintro ⟨content, written, rfl⟩
    cases written with
    | empty hb =>
      rw [scanObject, (skipBlanks_eq_cons_iff (by decide)).2 ⟨content, hb, rfl⟩]
      rfl
    | members written =>
      obtain ⟨input, skipped, loop⟩ := scanMembers_of_membersForm written rest
      rw [scanObject, skipped]
      simp [loop]

/-- Reading accepts exactly the ways to write an object of strings. -/
theorem readObject_eq_ok_iff {input : Bytes} {members : List (String × String)} :
    readObject input = .ok members ↔ ObjectForm input members := by
  constructor
  · intro h
    unfold readObject Scanner.readWhole at h
    split at h
    · cases h
    rename_i found rest read
    split at h
    · rename_i blank
      cases h
      rw [List.isEmpty_iff, skipBlanks_eq_nil_iff] at blank
      obtain ⟨before, hb, input_eq⟩ := exists_blanks input
      cases skipped : skipBlanks input with
      | nil => simp [Scanner.objectOf, skipped] at read
      | cons byte afterByte =>
        simp only [Scanner.objectOf, skipped] at read
        split at read
        · rename_i brace
          obtain ⟨content, written, rfl⟩ := scanObject_eq_ok_iff.1 read
          rw [skipped, brace] at input_eq
          exact ⟨before, content, rest, hb, written, blank, input_eq⟩
        · cases read
    · cases h
  · rintro ⟨before, content, after, hb, written, ha, rfl⟩
    have read : scanObject (fun _ => .string) (content ++ 0x7D :: after) = .ok (members, after) :=
      scanObject_eq_ok_iff.2 ⟨content, written, rfl⟩
    rw [readObject, Scanner.readWhole,
      (skipBlanks_eq_cons_iff (by decide)).2 ⟨before, hb, rfl⟩]
    simp [Scanner.objectOf, read, skipBlanks_eq_nil_iff.2 ha]

end AccessStream.Json

import AccessStream.Proofs.Json.Object
import Mathlib.Tactic.ByContra

/-!
# JSON texts cut short

Reading never refuses the beginning of a text that it accepts: either the beginning is long enough
for the same to be read from it, or the fault is that the text ends too early (`AsksForMore`). This
passes from one reader to those that are made of it, up to objects of strings. So an object that is
cut anywhere before its closing brace is faulted for its end, and for nothing else
(`readObject_of_append`).
-/

namespace AccessStream.Json

/-- A reader that takes the beginning of what it can read either as it takes the whole, and then it
leaves less, or as a text that ends too early. -/
def AsksForMore {α : Type} (read : Bytes → Except Fault (α × Bytes)) : Prop :=
  ∀ first second value rest, read (first ++ second) = .ok (value, rest) →
    read first = .error .truncated ∨
      ∃ left, read first = .ok (value, left) ∧ rest = left ++ second

theorem isBlank_of_skipBlanks {input rest : Bytes} {byte : UInt8}
    (h : skipBlanks input = byte :: rest) : isBlank byte = false := by
  induction input with
  | nil => cases h
  | cons first input ih =>
    rw [skipBlanks, List.dropWhile_cons] at h
    split at h
    · exact ih h
    · rename_i solid
      cases h
      exact Bool.eq_false_iff.2 solid

theorem skipBlanks_skipBlanks (input : Bytes) :
    skipBlanks (skipBlanks input) = skipBlanks input := by
  cases found : skipBlanks input with
  | nil => rfl
  | cons byte rest => exact skipBlanks_cons (isBlank_of_skipBlanks found) rest

namespace AsksForMore

variable {α β : Type} {read : Bytes → Except Fault (α × Bytes)}

theorem accept (value : α) : AsksForMore fun rest => .ok (value, rest) := by
  intro first second found rest h
  cases h
  exact .inr ⟨first, rfl, rfl⟩

theorem refuse (fault : Fault) :
    AsksForMore fun _ => (.error fault : Except Fault (α × Bytes)) := by
  intro first second found rest h
  cases h

theorem congr (h : AsksForMore read) {other : Bytes → Except Fault (α × Bytes)}
    (same : ∀ input, other input = read input) : AsksForMore other := by
  rwa [funext same]

theorem of_cons (nil : read [] = .error .truncated)
    (cons : ∀ byte, AsksForMore fun rest => read (byte :: rest)) : AsksForMore read := by
  intro first second value rest h
  cases first with
  | nil => exact .inl nil
  | cons byte first => exact cons byte first second value rest h

/-- What is read by one reader and, after it, by another one. -/
theorem bind (h : AsksForMore read) {next : α → Bytes → Except Fault (β × Bytes)}
    (hn : ∀ value, AsksForMore (next value)) :
    AsksForMore fun input => (read input).bind fun found => next found.1 found.2 := by
  intro first second value rest found
  cases whole : read (first ++ second) with
  | error fault =>
    simp only [whole, Except.bind] at found
    cases found
  | ok pair =>
    obtain ⟨middle, after⟩ := pair
    simp only [whole, Except.bind] at found
    rcases h first second middle after whole with cut | ⟨left, same, rfl⟩
    · left
      simp only [cut, Except.bind]
    · simp only [same, Except.bind]
      exact hn middle left second value rest found

theorem map (h : AsksForMore read) (f : α → β) :
    AsksForMore fun input => (read input).map fun found => (f found.1, found.2) := by
  have bound := h.bind fun value => accept (f value)
  intro first second value rest found
  have same : ∀ input, ((read input).bind fun found => .ok (f found.1, found.2)) =
      (read input).map fun found => (f found.1, found.2) := fun input => by
    cases read input <;> rfl
  have := bound first second value rest
  simp only [same] at this
  exact this found

theorem of_solid (nil : read [] = .error .truncated)
    (cons : ∀ byte, isBlank byte = false → AsksForMore fun rest => read (byte :: rest)) :
    AsksForMore fun input => read (skipBlanks input) := by
  intro first second value rest found
  cases left : skipBlanks first with
  | nil =>
    left
    simp only [left, nil]
  | cons byte more =>
    have solid : isBlank byte = false := isBlank_of_skipBlanks left
    have kept : skipBlanks (first ++ second) = byte :: (more ++ second) := by
      rw [skipBlanks] at left
      rw [skipBlanks, List.dropWhile_append, left, if_neg (by simp), List.cons_append]
    simp only [kept] at found
    simp only [left]
    exact cons byte solid more second value rest found

/-- Blanks are skipped before something is read. -/
theorem afterBlanks (h : AsksForMore read) (nil : read [] = .error .truncated) :
    AsksForMore fun input => read (skipBlanks input) :=
  of_solid nil fun byte _ first second value rest found =>
    h (byte :: first) second value rest found

end AsksForMore

/-! ## Strings -/

theorem asksForMore_expect {α : Type} (byte : UInt8) (value : α) :
    AsksForMore fun input => (expect byte input).map fun rest => (value, rest) := by
  refine .of_cons rfl fun first => ?_
  by_cases same : first = byte
  · simp only [expect, if_pos same, Except.map]
    exact .accept value
  · simp only [expect, if_neg same, Except.map]
    exact .refuse _

namespace Quoted

theorem asksForMore_scanUnit : AsksForMore scanUnit := by
  intro first second value rest h
  match first with
  | [] | [_] | [_, _] | [_, _, _] => exact .inl rfl
  | a :: b :: c :: d :: more =>
    right
    simp only [List.cons_append, scanUnit] at h ⊢
    split at h
    · cases h
      exact ⟨more, rfl, rfl⟩
    · cases h

theorem asksForMore_scanTrailing (leading : Nat) : AsksForMore (scanTrailing leading) := by
  have steps : scanTrailing leading = fun input =>
      ((expect 0x5C input).map fun rest => ((), rest)).bind fun found =>
        ((expect 0x75 found.2).map fun rest => ((), rest)).bind fun found =>
          (scanUnit found.2).bind fun found =>
            if isTrailing found.1 then .ok (ofPair leading found.1, found.2)
            else .error .malformed := by
    funext input
    rw [scanTrailing]
    cases expect 0x5C input with
    | error => rfl
    | ok rest =>
      simp only [Except.map, Except.bind]
      cases expect 0x75 rest with
      | error => rfl
      | ok rest =>
        dsimp only
        cases scanUnit rest <;> rfl
  have half : ∀ unit, AsksForMore fun rest =>
      if isTrailing unit then .ok (ofPair leading unit, rest) else .error .malformed := by
    intro unit
    by_cases trails : isTrailing unit = true
    · simp only [if_pos trails]
      exact .accept _
    · simp only [if_neg trails]
      exact .refuse _
  rw [steps]
  exact (asksForMore_expect 0x5C ()).bind fun _ =>
    (asksForMore_expect 0x75 ()).bind fun _ => asksForMore_scanUnit.bind half

theorem asksForMore_scanUnicode : AsksForMore scanUnicode := by
  have steps : scanUnicode = fun input => (scanUnit input).bind fun found =>
      if isTrailing found.1 then .error .malformed
      else if isLeading found.1 then scanTrailing found.1 found.2
      else .ok (Char.ofNat found.1, found.2) := by
    funext input
    rw [scanUnicode]
    cases scanUnit input <;> rfl
  have character : ∀ unit, AsksForMore fun rest =>
      if isTrailing unit then .error .malformed
      else if isLeading unit then scanTrailing unit rest
      else .ok (Char.ofNat unit, rest) := by
    intro unit
    by_cases trails : isTrailing unit = true
    · simp only [if_pos trails]
      exact .refuse _
    · by_cases leads : isLeading unit = true
      · simp only [if_neg trails, if_pos leads]
        exact asksForMore_scanTrailing unit
      · simp only [if_neg trails, if_neg leads]
        exact .accept _
  rw [steps]
  exact asksForMore_scanUnit.bind character

theorem asksForMore_scanEscape : AsksForMore scanEscape := by
  refine .of_cons rfl fun byte => ?_
  by_cases unit : byte = 0x75
  · simp only [scanEscape, if_pos unit]
    exact asksForMore_scanUnicode
  · simp only [scanEscape, if_neg unit]
    cases shortEscape? byte with
    | none => exact .refuse _
    | some c => exact .accept c

/-- Content is read byte by byte, so where it is cut, the fault is found at the cut or in the escape
that is cut. -/
theorem asksForMore_scanContent (found : Array UInt8) : AsksForMore (scanContent found) := by
  intro first second content rest h
  fun_induction scanContent found first with
  | case1 => exact .inl rfl
  | case2 found tail =>
    rw [List.cons_append, scanContent, if_pos rfl] at h
    cases h
    exact .inr ⟨tail, rfl, rfl⟩
  | case3 found tail fault refused =>
    -- the escape is cut
    rw [List.cons_append, scanContent, if_neg (by decide), if_pos rfl] at h
    split at h
    · cases h
    · rename_i c after escape
      rcases asksForMore_scanEscape tail second c after escape with cut | ⟨left, same, -⟩
      · rw [cut] at refused
        cases refused
        exact .inl rfl
      · rw [same] at refused
        cases refused
  | case4 found tail c after escape _ ih =>
    have whole : scanEscape (tail ++ second) = .ok (c, after ++ second) := by
      obtain ⟨form, written, rfl⟩ := scanEscape_eq_ok_iff.1 escape
      exact scanEscape_eq_ok_iff.2 ⟨form, written, List.append_assoc _ _ _⟩
    rw [List.cons_append, scanContent_escape whole] at h
    exact ih h
  | case5 found byte tail quote backslash control =>
    rw [List.cons_append, scanContent, if_neg quote, if_neg backslash, if_pos control] at h
    cases h
  | case6 found byte tail quote backslash printable ih =>
    rw [List.cons_append, scanContent, if_neg quote, if_neg backslash, if_neg printable] at h
    exact ih h

theorem asksForMore_scan : AsksForMore scan := by
  have steps : scan = fun input => (scanContent #[] input).bind fun found =>
      ((Utf8.decode? found.1.toList).elim (.error .malformed) fun text => .ok (text, found.2)) := by
    funext input
    rw [scan]
    cases scanContent #[] input with
    | error => rfl
    | ok found =>
      simp only [Except.bind]
      cases Utf8.decode? found.1.toList <;> rfl
  have text : ∀ content : Array UInt8, AsksForMore fun rest =>
      (Utf8.decode? content.toList).elim (.error .malformed) fun text => .ok (text, rest) := by
    intro content
    cases Utf8.decode? content.toList with
    | none => exact .refuse _
    | some text => exact .accept text
  rw [steps]
  exact (asksForMore_scanContent #[]).bind text

end Quoted

theorem asksForMore_scanString : AsksForMore scanString := by
  refine .of_cons rfl fun byte => ?_
  by_cases quote : byte = 0x22
  · simp only [scanString, if_pos quote]
    exact Quoted.asksForMore_scan
  · simp only [scanString, if_neg quote]
    intro first second text rest h
    cases h

/-! ## Objects -/

theorem asksForMore_scanMember : AsksForMore (scanMember fun _ => .string) := by
  have steps : scanMember (fun _ => .string) = fun input =>
      (Quoted.scan input).bind fun key =>
        ((expect 0x3A (skipBlanks key.2)).map fun rest => ((), rest)).bind fun colon =>
          (scanString (skipBlanks colon.2)).map fun value => ((key.1, value.1), value.2) := by
    funext input
    rw [scanMember]
    cases Quoted.scan input with
    | error => rfl
    | ok key =>
      simp only [Except.bind]
      cases expect 0x3A (skipBlanks key.2) with
      | error => rfl
      | ok rest =>
        simp only [Except.map, Scanner.string]
        cases scanString (skipBlanks rest) <;> rfl
  have colon := (asksForMore_expect 0x3A ()).afterBlanks rfl
  have value := asksForMore_scanString.afterBlanks rfl
  rw [steps]
  exact Quoted.asksForMore_scan.bind fun key =>
    colon.bind fun _ => value.map fun text => (key, text)

theorem asksForMore_scanSeparator : AsksForMore scanSeparator := by
  have nil : scanSeparator [] = .error .truncated := rfl
  have same : ∀ input, scanSeparator (skipBlanks input) = scanSeparator input := by
    intro input
    simp only [scanSeparator, skipBlanks_skipBlanks]
  have solid : ∀ byte, isBlank byte = false →
      AsksForMore fun rest => scanSeparator (byte :: rest) := by
    intro byte solid
    simp only [scanSeparator, skipBlanks_cons solid]
    by_cases brace : byte = 0x7D
    · simp only [if_pos brace]
      exact .accept false
    by_cases comma : byte = 0x2C
    · simp only [if_neg brace, if_pos comma]
      exact (asksForMore_expect 0x22 true).afterBlanks rfl
    · simp only [if_neg brace, if_neg comma]
      exact .refuse _
  have asks := AsksForMore.of_solid nil solid
  simp only [same] at asks
  exact asks

/-- One turn of the loop over the members. -/
theorem scanMembers_eq {α : Type} (value : String → Scanner α) (found : Array (String × α))
    (input : Bytes) :
    scanMembers value found input = (scanMember value input).bind fun member =>
      (scanSeparator member.2).bind fun next =>
        if next.1 then scanMembers value (found.push member.1) next.2
        else .ok (found.push member.1, next.2) := by
  cases read : scanMember value input with
  | error fault =>
    rw [scanMembers]
    split <;> simp_all [Except.bind]
  | ok pair =>
    obtain ⟨member, after⟩ := pair
    simp only [Except.bind]
    cases separated : scanSeparator after with
    | error fault =>
      rw [scanMembers]
      split
      · simp_all
      · rename_i read'
        rw [read] at read'
        cases read'
        split <;> simp_all
    | ok next =>
      obtain ⟨more, rest⟩ := next
      cases more with
      | false => simpa using scanMembers_of_close read separated found
      | true => simpa using scanMembers_of_comma read separated found

theorem scanMember_append {input rest : Bytes} {member : String × String}
    (h : scanMember (fun _ => .string) input = .ok (member, rest)) (more : Bytes) :
    scanMember (fun _ => .string) (input ++ more) = .ok (member, rest ++ more) := by
  obtain ⟨form, written, split⟩ := scanMember_eq_ok_iff.1 h
  refine scanMember_eq_ok_iff.2 ⟨form, written, ?_⟩
  rw [← List.cons_append, split, List.append_assoc]

theorem scanSeparator_append {input rest : Bytes} {next : Bool}
    (h : scanSeparator input = .ok (next, rest)) (more : Bytes) :
    scanSeparator (input ++ more) = .ok (next, rest ++ more) := by
  obtain ⟨form, separator, rfl⟩ := scanSeparator_eq_ok_iff.1 h
  exact scanSeparator_eq_ok_iff.2 ⟨form, separator, List.append_assoc _ _ _⟩

/-- The members before the cut are read as they are in the whole object, so the fault is found in
the member or the separator that is cut. -/
theorem asksForMore_scanMembers (found : Array (String × String)) :
    AsksForMore (scanMembers (fun _ => .string) found) := by
  intro first second members rest h
  fun_induction scanMembers (fun _ => .string) found first with
  | case1 found first fault refused =>
    rw [scanMembers_eq] at h
    cases whole : scanMember (fun _ => .string) (first ++ second) with
    | error fault =>
      rw [whole] at h
      cases h
    | ok pair =>
      rcases asksForMore_scanMember first second pair.1 pair.2 whole with cut | ⟨left, same, -⟩
      · rw [cut] at refused
        cases refused
        exact .inl rfl
      · rw [same] at refused
        cases refused
  | case2 found first member after read fault refused =>
    rw [scanMembers_eq, scanMember_append read second] at h
    simp only [Except.bind] at h
    cases whole : scanSeparator (after ++ second) with
    | error fault =>
      rw [whole] at h
      cases h
    | ok pair =>
      rcases asksForMore_scanSeparator after second pair.1 pair.2 whole with cut | ⟨left, same, -⟩
      · rw [cut] at refused
        cases refused
        exact .inl rfl
      · rw [same] at refused
        cases refused
  | case3 found first member after read left separated =>
    rw [scanMembers_of_close (scanMember_append read second)
      (scanSeparator_append separated second)] at h
    cases h
    exact .inr ⟨left, rfl, rfl⟩
  | case4 found first member after read left separated ih =>
    rw [scanMembers_of_comma (scanMember_append read second)
      (scanSeparator_append separated second)] at h
    exact ih h

theorem asksForMore_scanObject : AsksForMore (scanObject fun _ => .string) := by
  have same : ∀ input, scanObject (fun _ => .string) (skipBlanks input) =
      scanObject (fun _ => .string) input := by
    intro input
    simp only [scanObject, skipBlanks_skipBlanks]
  have solid : ∀ byte, isBlank byte = false →
      AsksForMore fun rest => scanObject (fun _ => .string) (byte :: rest) := by
    intro byte solid
    simp only [scanObject, skipBlanks_cons solid]
    by_cases brace : byte = 0x7D
    · simp only [if_pos brace]
      exact .accept []
    by_cases quote : byte = 0x22
    · simp only [if_neg brace, if_pos quote]
      refine ((asksForMore_scanMembers #[]).map Array.toList).congr fun input => ?_
      cases scanMembers (fun _ => .string) #[] input <;> rfl
    · simp only [if_neg brace, if_neg quote]
      exact .refuse _
  have asks := AsksForMore.of_solid rfl solid
  simp only [same] at asks
  exact asks

theorem asksForMore_objectOf : AsksForMore (Scanner.objectOf fun _ => Scanner.string).scan := by
  refine .of_cons rfl fun byte => ?_
  by_cases brace : byte = 0x7B
  · simp only [Scanner.objectOf, if_pos brace]
    exact asksForMore_scanObject
  · simp only [Scanner.objectOf, if_neg brace]
    intro first second members rest h
    cases h

/-- The beginning of an object is faulted for its end, unless only blanks are missing. -/
theorem readObject_of_append {first second : Bytes} {members : List (String × String)}
    (h : readObject (first ++ second) = .ok members) :
    readObject first = .error .truncated ∨ Blanks second := by
  have asks := asksForMore_objectOf.afterBlanks rfl
  rw [readObject, Scanner.readWhole] at h ⊢
  cases whole : (Scanner.objectOf fun _ => Scanner.string).scan (skipBlanks (first ++ second)) with
  | error fault =>
    rw [whole] at h
    cases h
  | ok found =>
    obtain ⟨all, rest⟩ := found
    rw [whole] at h
    rcases asks first second all rest whole with cut | ⟨left, -, rest_eq⟩
    · left
      simp only [cut]
    · right
      have blank : (skipBlanks rest).isEmpty = true := by
        by_contra solid
        simp only [if_neg solid] at h
        cases h
      have blanks : Blanks (left ++ second) := by
        rw [← rest_eq]
        exact skipBlanks_eq_nil_iff.1 (List.isEmpty_iff.1 blank)
      intro byte hb
      exact blanks byte (List.mem_append_right left hb)

end AccessStream.Json

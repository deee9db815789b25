/-!
# The front of a text

What stands in front of a text and is all of one class is what is taken as long as the class lasts,
if what follows does not go on with the class.
-/

namespace AccessStream

variable {α : Type} {p : α → Bool} {front rest : List α}

theorem takeWhile_front (inside : ∀ a ∈ front, p a = true) (next : ∀ a ∈ rest.head?, p a = false) :
    (front ++ rest).takeWhile p = front := by
  have stop : rest.takeWhile p = [] := by
    cases rest with
    | nil => rfl
    | cons a rest => exact List.takeWhile_cons_of_neg (by simp [next a rfl])
  rw [List.takeWhile_append_of_pos inside, stop, List.append_nil]

theorem dropWhile_front (inside : ∀ a ∈ front, p a = true) (next : ∀ a ∈ rest.head?, p a = false) :
    (front ++ rest).dropWhile p = rest := by
  have stop : rest.dropWhile p = rest := by
    cases rest with
    | nil => rfl
    | cons a rest => exact List.dropWhile_cons_of_neg (by simp [next a rfl])
  rw [List.dropWhile_append_of_pos inside, stop]

/-- What does not go on with one of a class. -/
def Stops (p : α → Bool) (rest : List α) : Prop := ∀ a ∈ rest.head?, p a = false

theorem stops_nil : Stops p [] := by
  intro a first
  cases first

theorem stops_cons {a : α} (h : p a = false) (rest : List α) : Stops p (a :: rest) := by
  rintro _ ⟨rfl⟩
  exact h

/-- What stands in front says whether a text goes on with a class; if nothing does, the rest says
it. -/
theorem Stops.append (first : Stops p front) (second : Stops p rest) : Stops p (front ++ rest) := by
  cases front with
  | nil => exact second
  | cons a front => exact first

theorem Stops.mono {q : α → Bool} (h : Stops p rest) (smaller : ∀ a, q a = true → p a = true) :
    Stops q rest := by
  intro a first
  have outside : p a = false := h a first
  cases inside : q a with
  | false => rfl
  | true => exact absurd (smaller a inside) (by simp [outside])

end AccessStream

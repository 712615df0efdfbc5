/-!
# Parts of a text

`partsAt` cuts a text at every separator; the separators themselves belong to no part. `joinWith`
is the way back, and `joinWith_partsAt` says that nothing is lost.
-/

namespace CloudClient

/-- The parts of a text between the separators; there is at least one. -/
def partsAt (separator : Char) : List Char → List (List Char)
  | [] => [[]]
  | c :: s =>
    if c = separator then [] :: partsAt separator s
    else
      match partsAt separator s with
      | [] => [[c]]
      | part :: parts => (c :: part) :: parts

/-- The parts with separators between them. -/
def joinWith (separator : Char) : List (List Char) → List Char
  | [] => []
  | [part] => part
  | part :: next :: parts => part ++ separator :: joinWith separator (next :: parts)

theorem partsAt_ne_nil (separator : Char) (s : List Char) : partsAt separator s ≠ [] := by
  cases s with
  | nil => simp [partsAt]
  | cons c s =>
    simp only [partsAt]
    split
    · simp
    · split <;> simp

/-- A text is its parts, joined again. -/
theorem joinWith_partsAt (separator : Char) (s : List Char) :
    joinWith separator (partsAt separator s) = s := by
  induction s with
  | nil => rfl
  | cons c s ih =>
    simp only [partsAt]
    split
    · rename_i h
      cases hp : partsAt separator s with
      | nil => exact absurd hp (partsAt_ne_nil separator s)
      | cons part parts => rw [hp] at ih; simp [joinWith, ih, h]
    · cases hp : partsAt separator s with
      | nil => exact absurd hp (partsAt_ne_nil separator s)
      | cons part parts =>
        rw [hp] at ih
        cases parts with
        | nil => simpa [joinWith] using ih
        | cons next rest => simpa [joinWith] using ih

end CloudClient

/-!
# The keypad

Sixteen keys are each up or down. What a waiting machine is shown of them comes as a
script of frames, one for each time it looks.

## Main definitions

* `Keypad.released`, `Keypad.press`, `Keypad.ofList` — keypads with given keys down.
* `Keypad.held`, `Keypad.lowest?` — the keys that are down.
* `Frame` — what one look at the keys shows.
-/

namespace Chip8

/-- The state of the sixteen keys; one that is down is true. -/
abbrev Keypad := Vector Bool 16

namespace Keypad

/-- The keypad with every key up. -/
def released : Keypad := .replicate 16 false

/-- The keypad with one key put down or up. -/
def set (keypad : Keypad) (key : Fin 16) (down : Bool) : Keypad :=
  keypad.setIfInBounds key down

/-- Puts keys down and leaves the others as they are. -/
def press (keypad : Keypad) (keys : List (Fin 16)) : Keypad :=
  keys.foldl (fun pad key => pad.set key true) keypad

/-- The keypad with just these keys down. -/
def ofList (keys : List (Fin 16)) : Keypad :=
  released.press keys

/-- The keys that are down, in ascending order. -/
def held (keypad : Keypad) : List (Fin 16) :=
  (List.finRange 16).filter fun key => keypad.get key

/-- The lowest key that is down. -/
def lowest? (keypad : Keypad) : Option (Fin 16) :=
  (List.finRange 16).find? fun key => keypad.get key

theorem lowest?_eq_none_iff {keypad : Keypad} :
    keypad.lowest? = none ↔ ∀ key : Fin 16, keypad.get key = false := by
  simp [lowest?]

theorem down_of_lowest? {keypad : Keypad} {key : Fin 16} (h : keypad.lowest? = some key) :
    keypad.get key = true := by
  simpa using List.find?_some h

/-- Every key below the lowest one that is down is up. -/
theorem up_of_lowest? {keypad : Keypad} {key lower : Fin 16} (h : keypad.lowest? = some key)
    (below : lower < key) : keypad.get lower = false := by
  obtain ⟨-, place, inside, at_place, earlier⟩ := List.find?_eq_some_iff_getElem.1 h
  rw [List.getElem_finRange] at at_place
  subst at_place
  have up := earlier lower.val below
  rw [List.getElem_finRange] at up
  simpa using up

end Keypad

/-- What one look at the keys shows: their state, and whether to go on waiting. -/
structure Frame where
  keys : Keypad
  go : Bool

end Chip8

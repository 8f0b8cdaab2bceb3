/-!
# Blocks of consecutive cells

Memory and the register file are both rows of cells of a fixed length, and several
instructions move a run of values between them. A run is read only when every cell of
it exists; it is written cell by cell, and what would fall beyond the end is dropped.

## Main definitions

* `Block.read? cells start len` — the values of a run, if the run lies inside.
* `Block.write cells start values` — the row after a run has been overwritten.
-/

namespace Chip8.Block

variable {α : Type} {n : Nat}

/-- The values of the `len` cells from `start` on, if all of them exist. A run of no
cells exists wherever it starts. -/
def read? (cells : Vector α n) (start len : Nat) : Option (List α) :=
  if inside : len = 0 ∨ start + len ≤ n then
    some (List.ofFn fun k : Fin len =>
      have : start + k.val < n := by omega
      cells[start + k.val])
  else none

/-- Puts the values into the cells from `start` on. -/
def write (cells : Vector α n) (start : Nat) : List α → Vector α n
  | [] => cells
  | value :: rest => write (cells.setIfInBounds start value) (start + 1) rest

theorem read?_eq_none_iff {cells : Vector α n} {start len : Nat} :
    read? cells start len = none ↔ 0 < len ∧ n < start + len := by
  unfold read?
  split <;> simp <;> omega

theorem isSome_read?_iff {cells : Vector α n} {start len : Nat} :
    (read? cells start len).isSome ↔ len = 0 ∨ start + len ≤ n := by
  unfold read?
  split <;> simp_all

/-- A run that is read has the length asked for. -/
theorem length_of_read? {cells : Vector α n} {start len : Nat} {values : List α}
    (h : read? cells start len = some values) : values.length = len := by
  unfold read? at h
  split at h <;> cases h
  simp

/-- The values of a run, cell by cell. -/
theorem getElem?_of_read? {cells : Vector α n} {start len : Nat} {values : List α}
    (h : read? cells start len = some values) {k : Nat} (hk : k < len) :
    values[k]? = cells[start + k]? := by
  unfold read? at h
  split at h
  · cases h
    rename_i inside
    have : start + k < n := by omega
    simp [hk, this]
  · cases h

@[simp] theorem write_nil (cells : Vector α n) (start : Nat) : write cells start [] = cells := rfl

/-- After a write, the cells of the run hold the values and all others are as before. -/
theorem getElem_write (cells : Vector α n) (start : Nat) (values : List α) {a : Nat}
    (ha : a < n) :
    (write cells start values)[a] =
      if start ≤ a then values[a - start]?.getD cells[a] else cells[a] := by
  induction values generalizing cells start with
  | nil => simp
  | cons value rest ih =>
    rw [write, ih, Vector.getElem_setIfInBounds]
    by_cases h : start = a
    · subst h
      rw [if_neg (Nat.not_succ_le_self start), if_pos rfl, if_pos (Nat.le_refl start),
        Nat.sub_self]
      rfl
    · by_cases hs : start ≤ a
      · have e : a - start = a - (start + 1) + 1 := by omega
        have : start + 1 ≤ a := by omega
        simp [h, hs, this, e]
      · have : ¬ start + 1 ≤ a := by omega
        simp [h, hs, this]

/-- A write leaves the cells outside the run alone. -/
theorem getElem_write_of_outside (cells : Vector α n) {start : Nat} {values : List α} {a : Nat}
    (ha : a < n) (outside : a < start ∨ start + values.length ≤ a) :
    (write cells start values)[a] = cells[a] := by
  rw [getElem_write]
  split
  · rw [List.getElem?_eq_none (by omega), Option.getD_none]
  · rfl

/-- A write puts each value into its cell. -/
theorem getElem?_write_of_inside (cells : Vector α n) {start : Nat} {values : List α} {a : Nat}
    (ha : a < n) (low : start ≤ a) (high : a < start + values.length) :
    (write cells start values)[a]? = values[a - start]? := by
  have place : a - start < values.length := by omega
  rw [Vector.getElem?_eq_getElem ha, getElem_write, if_pos low, List.getElem?_eq_getElem place,
    Option.getD_some]

end Chip8.Block

import Chip8.Layout

/-!
# The call stack

Return addresses lie in sixteen slots, and a signed byte points at the newest one. It
stands at `-1` when there is none, so a push moves the pointer before it writes, and a
pop moves it after it has read. What has been popped stays in its slot until the next
push.

## Main definitions

* `CallStack` — the slots and the pointer.
* `CallStack.push`, `CallStack.newest`, `CallStack.pop` — its operations.
* `CallStack.addresses` — the addresses that have been pushed and not popped.
* `CallStack.InRange` — the pointers that a machine can reach.
-/

namespace Chip8

/-- Sixteen slots and a pointer to the newest return address. -/
structure CallStack where
  slots : Vector Word 16 := .replicate 16 0
  pointer : Int8 := -1

namespace CallStack

/-- Whether there is no address to pop. -/
def isEmpty (s : CallStack) : Bool :=
  s.pointer < 0

/-- Whether there is no slot for another address. -/
def isFull (s : CallStack) : Bool :=
  .ofNat Layout.stackDepth - 1 ≤ s.pointer

/-- The stack with one more address. -/
def push (s : CallStack) (back : Word) : CallStack :=
  let pointer := s.pointer + 1
  { slots := s.slots.setIfInBounds pointer.toNatClampNeg back, pointer }

/-- The address that was pushed last. -/
def newest (s : CallStack) : Word :=
  s.slots[s.pointer.toNatClampNeg]?.getD 0

/-- The stack without its newest address. -/
def pop (s : CallStack) : CallStack :=
  { s with pointer := s.pointer - 1 }

/-- How many addresses there are. -/
def size (s : CallStack) : Nat :=
  (s.pointer.toInt + 1).toNat

/-- The addresses, the oldest first. -/
def addresses (s : CallStack) : List Word :=
  s.slots.toList.take s.size

/-- The pointer stands at a slot, or just below the first one. -/
def InRange (s : CallStack) : Prop :=
  -1 ≤ s.pointer.toInt ∧ s.pointer.toInt ≤ 15

instance (s : CallStack) : Decidable s.InRange :=
  inferInstanceAs (Decidable (_ ∧ _))

/-! ## The pointer -/

theorem isEmpty_iff {s : CallStack} : s.isEmpty = true ↔ s.pointer.toInt < 0 := by
  have zero : (0 : Int8).toInt = 0 := by decide
  rw [isEmpty, decide_eq_true_iff, Int8.lt_iff_toInt_lt, zero]

theorem isEmpty_eq_false_iff {s : CallStack} : s.isEmpty = false ↔ 0 ≤ s.pointer.toInt := by
  rw [← Bool.not_eq_true, isEmpty_iff, Int.not_lt]

theorem isFull_iff {s : CallStack} : s.isFull = true ↔ 15 ≤ s.pointer.toInt := by
  have last : (Int8.ofNat Layout.stackDepth - 1).toInt = 15 := by decide
  rw [isFull, decide_eq_true_iff, Int8.le_iff_toInt_le, last]

theorem isFull_eq_false_iff {s : CallStack} : s.isFull = false ↔ s.pointer.toInt < 15 := by
  rw [← Bool.not_eq_true, isFull_iff, Int.not_le]

/-- A push moves the pointer up by one, without leaving its type. -/
theorem toInt_pointer_push {s : CallStack} (h : s.InRange) (back : Word) :
    (s.push back).pointer.toInt = s.pointer.toInt + 1 := by
  obtain ⟨low, high⟩ := h
  have one : (1 : Int8).toInt = 1 := by decide
  change (s.pointer + 1).toInt = _
  rw [Int8.toInt_add, one, Int.bmod_def]
  omega

/-- A pop moves the pointer down by one, without leaving its type. -/
theorem toInt_pointer_pop {s : CallStack} (h : s.InRange) :
    s.pop.pointer.toInt = s.pointer.toInt - 1 := by
  obtain ⟨low, high⟩ := h
  have one : (1 : Int8).toInt = 1 := by decide
  change (s.pointer - 1).toInt = _
  rw [Int8.toInt_sub, one, Int.bmod_def]
  omega

theorem InRange.push {s : CallStack} (h : s.InRange) (room : s.isFull = false) (back : Word) :
    (s.push back).InRange := by
  have e := toInt_pointer_push h back
  have below := isFull_eq_false_iff.1 room
  have low := h.1
  constructor <;> omega

theorem InRange.pop {s : CallStack} (h : s.InRange) (held : s.isEmpty = false) :
    s.pop.InRange := by
  have e := toInt_pointer_pop h
  have above := isEmpty_eq_false_iff.1 held
  have high := h.2
  constructor <;> omega

/-! ## The addresses -/

/-- As many addresses are pushed as the pointer says. -/
theorem length_addresses {s : CallStack} (h : s.InRange) :
    (s.addresses.length : Int) = s.pointer.toInt + 1 := by
  obtain ⟨low, high⟩ := h
  rw [addresses, List.length_take, Vector.length_toList, size]
  omega

/-- A push adds its address behind the others. -/
theorem addresses_push {s : CallStack} (h : s.InRange) (room : s.isFull = false) (back : Word) :
    (s.push back).addresses = s.addresses ++ [back] := by
  have e := toInt_pointer_push h back
  have below := isFull_eq_false_iff.1 room
  have low := h.1
  have place : (s.pointer + 1).toNatClampNeg = s.size := by
    change (s.push back).pointer.toInt.toNat = _
    rw [e, size]
  have inside : s.size < s.slots.toList.length := by
    rw [Vector.length_toList, size]
    omega
  have grown : (s.push back).size = s.size + 1 := by
    rw [size, e, size]
    omega
  have slots : (s.push back).slots.toList = s.slots.toList.set s.size back := by
    change (s.slots.setIfInBounds _ back).toList = _
    rw [place, Vector.toList_setIfInBounds]
  rw [addresses, addresses, grown, slots, List.take_add_one, List.take_set_of_le (Nat.le_refl _),
    List.getElem?_set_self inside]
  rfl

/-- A pop takes the newest address away from the end. -/
theorem addresses_eq_pop_append {s : CallStack} (h : s.InRange) (held : s.isEmpty = false) :
    s.addresses = s.pop.addresses ++ [s.newest] := by
  have e := toInt_pointer_pop h
  have above := isEmpty_eq_false_iff.1 held
  have high := h.2
  have shrunk : s.size = s.pop.size + 1 := by
    rw [size, size, e]
    omega
  have place : s.pointer.toNatClampNeg = s.pop.size := by
    change s.pointer.toInt.toNat = _
    rw [size, e]
    omega
  have inside : s.pop.size < s.slots.toList.length := by
    rw [Vector.length_toList, size, e]
    omega
  have last : s.newest = s.slots.toList[s.pop.size] := by
    rw [newest, place, ← Vector.getElem?_toList, List.getElem?_eq_getElem inside]
    rfl
  rw [addresses, shrunk, List.take_add_one, List.getElem?_eq_getElem inside, last]
  rfl

/-- The newest address is one of them. -/
theorem newest_mem_addresses {s : CallStack} (h : s.InRange) (held : s.isEmpty = false) :
    s.newest ∈ s.addresses := by
  rw [addresses_eq_pop_append h held]
  exact List.mem_append_right _ (List.mem_singleton_self _)

end CallStack
end Chip8

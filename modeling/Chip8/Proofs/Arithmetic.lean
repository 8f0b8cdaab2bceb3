import Chip8.Proofs.Operating
import Mathlib.Data.Int.Notation

/-!
# Arithmetic in whole numbers

Ten instructions compute: the addition of a byte, and the nine operations on two registers.
What they leave is told here in whole numbers, from what the two registers held before. Both
operands are read before the flag is written and the result is stored after it, so the same
formulas hold if the registers are the same, and if one or both of them are the flag register;
where the result goes to the flag register, it is the result that stays.

## Main definitions

* `Alu.value`, `Alu.report?` — the result of an operation and its flag, in whole numbers.
* `Machine.Computes` — what a computation makes of a machine.

## Main statements

* `Machine.computes_alu`, `Machine.computes_addByte` — the two kinds of computation.
* `Machine.arithmetic_of_executed` — every instruction that computes.
-/

namespace Chip8

/-! ## Operations on bytes -/

namespace Alu

/-- The result of an operation on two bytes, in whole numbers. -/
def value (op : Alu) (a b : ℕ) : ℤ :=
  match op with
  | .copy => b
  | .or => (a ||| b : ℕ)
  | .and => (a &&& b : ℕ)
  | .xor => (a ^^^ b : ℕ)
  | .add => (a + b) % 256
  | .sub => (a - b) % 256
  | .shiftRight => a / 2
  | .subFrom => (b - a) % 256
  | .shiftLeft => 2 * a % 256

/-- What an operation on two bytes reports, if it reports anything. -/
def report? (op : Alu) (a b : ℕ) : Option Bool :=
  match op with
  | .add => some (a + b > 255)
  | .sub => some (a > b)
  | .shiftRight => some (a % 2 = 1)
  | .subFrom => some (b > a)
  | .shiftLeft => some (a ≥ 128)
  | .copy | .or | .and | .xor => none

theorem toNat_result (op : Alu) (a b : UInt8) :
    ((op.result a b).toNat : ℤ) = op.value a.toNat b.toNat := by
  have small := a.toNat_lt
  have small' := b.toNat_lt
  cases op with
  | copy => rfl
  | or => exact congrArg Nat.cast (UInt8.toNat_or a b)
  | and => exact congrArg Nat.cast (UInt8.toNat_and a b)
  | xor => exact congrArg Nat.cast (UInt8.toNat_xor a b)
  | add =>
    rw [result, value, UInt8.toNat_add]
    omega
  | sub =>
    rw [result, value, UInt8.toNat_sub]
    omega
  | shiftRight =>
    have halved : (a >>> 1).toNat = a.toNat >>> 1 := UInt8.toNat_shiftRight a 1
    rw [result, value, halved, Nat.shiftRight_eq_div_pow]
    omega
  | subFrom =>
    rw [result, value, UInt8.toNat_sub]
    omega
  | shiftLeft =>
    have doubled : (a <<< 1).toNat = a.toNat <<< 1 % 256 := UInt8.toNat_shiftLeft a 1
    rw [result, value, doubled, Nat.shiftLeft_eq]
    omega

theorem flag?_eq_report? (op : Alu) (a b : UInt8) : op.flag? a b = op.report? a.toNat b.toNat := by
  cases op with
  | sub => exact congrArg some (decide_eq_decide.2 UInt8.lt_iff_toNat_lt)
  | subFrom => exact congrArg some (decide_eq_decide.2 UInt8.lt_iff_toNat_lt)
  | shiftLeft => exact congrArg some (decide_eq_decide.2 UInt8.le_iff_toNat_le)
  | _ => rfl

end Alu

namespace Machine

variable {m : Machine} {op : Operation} {i : Instruction} {x y : Register} {v : Registers}
  {kk : UInt8}

/-! ## Computations -/

/-- `m'` is `m` after a computation has put a value into `Vx`, and has reported in the flag
register if it reports. Nothing else has changed but the program counter and the redraw flag. -/
structure Computes (m m' : Machine) (x : Register) (value : ℤ) (report : Option Bool) : Prop where
  result : ((m'.registers.get x).toNat : ℤ) = value
  reported : x ≠ Registers.flag → ∀ set, report = some set →
    m'.registers.get Registers.flag = if set then 1 else 0
  unreported : x ≠ Registers.flag → report = none →
    m'.registers.get Registers.flag = m.registers.get Registers.flag
  others : ∀ r, r ≠ x → r ≠ Registers.flag → m'.registers.get r = m.registers.get r
  rest : m' = { m with registers := m'.registers, pc := m'.pc, redraw := m'.redraw }

/-- A step at an instruction that only writes registers, as an equation. -/
theorem step_of_registers (found : m.instruction = .ok i)
    (carried : execute { m with redraw := false } i =
      proceed { m with redraw := false, registers := v } .next) :
    m.step =
      ⟨.ok (.executed i), { m with redraw := false, registers := v, pc := m.pc + 2 }⟩ := by
  rw [step_of_ok found, carryOut, carried, conclude_next]

theorem computes_alu (alu : Alu) (executed : (m.perform op).1.executed? = some (.alu alu x y)) :
    m.Computes (m.perform op).2 x
      (alu.value (m.registers.get x).toNat (m.registers.get y).toNat)
      (alu.report? (m.registers.get x).toNat (m.registers.get y).toNat) := by
  obtain ⟨stepped, same⟩ := perform_of_executed executed (by simp)
  have ran := step_of_registers (v := m.registers.operate alu x y)
    (instruction_of_executed stepped) rfl
  rw [same, ran]
  have after := m.registers.get_operate alu x y
  exact {
    result := by
      rw [after, if_pos rfl]
      exact alu.toNat_result _ _
    reported := by
      intro other set reports
      rw [after, if_neg other.symm, if_pos rfl, alu.flag?_eq_report?, reports]
      rfl
    unreported := by
      intro other silent
      rw [after, if_neg other.symm, if_pos rfl, alu.flag?_eq_report?, silent]
      rfl
    others := by
      intro r other unflagged
      rw [after, if_neg other, if_neg unflagged]
    rest := rfl }

theorem computes_addByte (executed : (m.perform op).1.executed? = some (.addByte x kk)) :
    m.Computes (m.perform op).2 x (((m.registers.get x).toNat + kk.toNat) % 256) none := by
  obtain ⟨stepped, same⟩ := perform_of_executed executed (by simp)
  have ran := step_of_registers (v := m.registers.set x (m.registers.get x + kk))
    (instruction_of_executed stepped) rfl
  rw [same, ran]
  exact {
    result := by
      rw [Registers.get_set_self, UInt8.toNat_add]
      rfl
    reported := by
      intro _ set reports
      cases reports
    unreported := by
      intro other _
      exact Registers.get_set_of_ne _ other.symm _
    others := by
      intro r other _
      exact Registers.get_set_of_ne _ other _
    rest := rfl }

/-- Arithmetic is exact, whichever registers an instruction names. The addition of a byte and
the nine operations leave in `Vx` what the formulas say of the values before; the flag register
holds what the operation reports, and keeps its value if it reports nothing, unless it is `Vx`
itself; and all else is as before. The second register of a shift makes no difference. -/
theorem arithmetic_of_executed (m : Machine) (op : Operation) :
    (∀ x kk, (m.perform op).1.executed? = some (.addByte x kk) →
        m.Computes (m.perform op).2 x (((m.registers.get x).toNat + kk.toNat) % 256) none) ∧
      (∀ alu x y, (m.perform op).1.executed? = some (.alu alu x y) →
        m.Computes (m.perform op).2 x
          (alu.value (m.registers.get x).toNat (m.registers.get y).toNat)
          (alu.report? (m.registers.get x).toNat (m.registers.get y).toNat)) ∧
      ∀ x y y', m.execute (.alu .shiftRight x y) = m.execute (.alu .shiftRight x y') ∧
        m.execute (.alu .shiftLeft x y) = m.execute (.alu .shiftLeft x y') := by
  refine ⟨?_, ?_, ?_⟩
  · intro x kk executed
    exact computes_addByte executed
  · intro alu x y executed
    exact computes_alu alu executed
  · intro x y y'
    exact ⟨rfl, rfl⟩

/-- A machine about to take `V1` away from the flag register, which holds less. -/
def borrowing : Machine :=
  { memory := Block.write Memory.initial 0x200 [0x8F, 0x15]
    registers := (Registers.zero.set 1 201).set Registers.flag 200
    collision := .lastBit
    noise := { bytes := fun k => .ofNat k } }

theorem arithmetic_of_executed_borrowing :
    (borrowing.perform .step).1.executed? = some (.alu .sub 0xF 1) ∧
      ((borrowing.perform .step).2.registers.get 0xF).toNat = 255 ∧
      (borrowing.perform .step).2.registers.get 1 = 201 := by
  obtain ⟨executed, held, other⟩ :
      (borrowing.perform .step).1.executed? = some (.alu .sub 0xF 1) ∧
        (borrowing.registers.get 0xF).toNat = 200 ∧ borrowing.registers.get 1 = 201 := by
    decide +kernel
  have computes := (arithmetic_of_executed borrowing .step).2.1 .sub 0xF 1 executed
  refine ⟨executed, ?_, ?_⟩
  · have result := computes.result
    rw [held, other] at result
    exact Int.natCast_inj.1 result
  · exact (computes.others 1 (by decide) (by decide)).trans other

end Machine
end Chip8

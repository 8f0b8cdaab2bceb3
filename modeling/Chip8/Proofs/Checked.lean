import Chip8.Machine.Operation
import Chip8.Proofs.Decoding

/-!
# The machine with every access checked

The machine reads registers, cells, slots, keys and pixels, copies runs of cells, and adds
to words and to the stack pointer. Here all of this is done by plain numbers and with a
check: an access beyond a row of cells, a copy between runs of different lengths, a number
that does not fit its type, and a group of commands that is handed one of another group
all have no result. The numbers come from the machine and from the words that it fetches,
so nothing keeps these operations from failing but what is known of the two.

Where a byte or `I` is meant to wrap around, it wraps here too. An addition to the program
counter is not meant to.

## Main definitions

* `Checked.read`, `Checked.write`, `Checked.slice`, `Checked.copy` — accesses by number.
* `Checked.Lies` — values that lie in a row of cells from a place on.
* `Checked.add`, `Checked.mul`, `Checked.up`, `Checked.down` — arithmetic that must fit.
* `Checked.execute`, `Checked.step`, `Checked.perform` — the machine in terms of these.
* `Checked.register`, `Checked.pixel`, `Checked.stack`, `Checked.memory` — what a driver
  can read.
-/

namespace Chip8.Checked

/-! ## Accesses by number -/

section

variable {α : Type} {n : Nat}

/-- The value in a cell. -/
def read (cells : Vector α n) (place : Nat) : Option α :=
  cells[place]?

/-- The row with another value in a cell. -/
def write (cells : Vector α n) (place : Nat) (value : α) : Option (Vector α n) :=
  if place < n then some (cells.setIfInBounds place value) else none

/-- The values from `start` up to `stop`. -/
def slice (cells : Vector α n) (start stop : Nat) : Option (List α) :=
  if start ≤ stop ∧ stop ≤ n then some ((cells.toList.take stop).drop start) else none

/-- The row after the cells from `start` up to `stop` have been replaced by as many values. -/
def copy (cells : Vector α n) (start stop : Nat) (values : List α) : Option (Vector α n) :=
  if start ≤ stop ∧ stop ≤ n ∧ values.length = stop - start then
    some (Block.write cells start values)
  else none

variable {cells : Vector α n} {start : Nat} {values : List α}

theorem read_eq (cells : Vector α n) (place : Fin n) :
    read cells place = some (cells.get place) :=
  Vector.getElem?_eq_getElem place.isLt

theorem write_eq (cells : Vector α n) (place : Fin n) (value : α) :
    write cells place value = some (cells.setIfInBounds place value) :=
  if_pos place.isLt

/-- The values lie in the cells from a place on. -/
def Lies (cells : Vector α n) (start : Nat) (values : List α) : Prop :=
  ∀ k value, values[k]? = some value → cells[start + k]? = some value

theorem lies_nil (cells : Vector α n) (start : Nat) : Lies cells start [] := by
  intro k value at_k
  cases at_k

theorem lies_of_read? {len : Nat} (found : Block.read? cells start len = some values) :
    Lies cells start values := by
  intro k value at_k
  have below : k < len := by
    rw [← Block.length_of_read? found]
    exact (List.getElem?_eq_some_iff.1 at_k).1
  rw [← Block.getElem?_of_read? found below, at_k]

/-- The first of the values can be read. -/
theorem Lies.head {value : α} (h : Lies cells start (value :: values)) :
    read cells start = some value :=
  h 0 value rfl

theorem Lies.tail {value : α} (h : Lies cells start (value :: values)) :
    Lies cells (start + 1) values := by
  intro k later at_k
  have found := h (k + 1) later at_k
  rwa [← Nat.add_assoc, Nat.add_right_comm] at found

theorem slice_eq {stop : Nat} (order : start ≤ stop) (inside : stop ≤ n) :
    slice cells start stop = some ((cells.toList.take stop).drop start) :=
  if_pos ⟨order, inside⟩

theorem Lies.slice (h : Lies cells start values) (inside : start + values.length ≤ n) :
    slice cells start (start + values.length) = some values := by
  rw [slice_eq (Nat.le_add_right _ _) inside]
  congr 1
  apply List.ext_getElem?
  intro k
  rw [List.getElem?_drop, List.getElem?_take]
  by_cases below : k < values.length
  · rw [if_pos (Nat.add_lt_add_left below start), Vector.getElem?_toList,
      h k values[k] (List.getElem?_eq_getElem below), List.getElem?_eq_getElem below]
  · rw [if_neg (by omega), List.getElem?_eq_none (Nat.not_lt.1 below)]

theorem copy_eq (cells : Vector α n) (start : Nat) (values : List α) {stop : Nat}
    (inside : stop ≤ n) (length : start + values.length = stop) :
    copy cells start stop values = some (Block.write cells start values) :=
  if_pos ⟨by omega, inside, by omega⟩

end

/-! ## Arithmetic that must fit -/

/-- The sum of two words. -/
def add (a b : Word) : Option Word :=
  if a.toNat + b.toNat < 65536 then some (a + b) else none

/-- The product of two words. -/
def mul (a b : Word) : Option Word :=
  if a.toNat * b.toNat < 65536 then some (a * b) else none

/-- The difference of two numbers. -/
def sub (a b : Nat) : Option Nat :=
  if b ≤ a then some (a - b) else none

/-- A byte shifted down by less than its width. -/
def shiftDown (byte : UInt8) (places : Nat) : Option UInt8 :=
  if places < 8 then some (byte >>> .ofNat places) else none

/-- The stack pointer one higher. -/
def up (pointer : Int8) : Option Int8 :=
  if pointer.toInt + 1 ≤ 127 then some (pointer + 1) else none

/-- The stack pointer one lower. -/
def down (pointer : Int8) : Option Int8 :=
  if -128 ≤ pointer.toInt - 1 then some (pointer - 1) else none

/-- The stack pointer as a number of slots. -/
def count (pointer : Int8) : Option Nat :=
  if 0 ≤ pointer.toInt then some pointer.toInt.toNat else none

theorem add_eq {a b : Word} (fits : a.toNat + b.toNat < 65536) : add a b = some (a + b) :=
  if_pos fits

theorem mul_eq {a b : Word} (fits : a.toNat * b.toNat < 65536) : mul a b = some (a * b) :=
  if_pos fits

theorem up_eq {s : CallStack} (range : s.InRange) : up s.pointer = some (s.pointer + 1) := by
  have high := range.2
  exact if_pos (by omega)

theorem down_eq {s : CallStack} (range : s.InRange) : down s.pointer = some (s.pointer - 1) := by
  have low := range.1
  exact if_pos (by omega)

theorem count_eq {pointer : Int8} (nonneg : 0 ≤ pointer.toInt) :
    count pointer = some pointer.toInt.toNat :=
  if_pos nonneg

/-! ## Registers and keys -/

/-- Whether the key is down that the low digit of a register names. -/
def keyDown (m : Machine) (x : Nat) : Option Bool := do
  let value ← read m.registers x
  read m.keys (value &&& 0xF).toNat

/-- Passes over the next instruction, or goes on to it. -/
def skipIf (m : Machine) (skips : Bool) : Outcome Fault Flow :=
  m.proceed (if skips then .skip else .next)

/-- The commands on two registers. No other one may come here. -/
def alu (v : Registers) : Command → Option Registers
  | .copy x y => do
    let b ← read v y
    write v x b
  | .or x y => do
    let a ← read v x
    let b ← read v y
    write v x (a ||| b)
  | .and x y => do
    let a ← read v x
    let b ← read v y
    write v x (a &&& b)
  | .xor x y => do
    let a ← read v x
    let b ← read v y
    write v x (a ^^^ b)
  | .add x y => do
    let a ← read v x
    let b ← read v y
    let sum ← add a.toUInt16 b.toUInt16
    let v ← write v Registers.flag (if 0xFF < sum then 1 else 0)
    write v x sum.toUInt8
  | .sub x y => do
    let a ← read v x
    let b ← read v y
    let v ← write v Registers.flag (if b < a then 1 else 0)
    write v x (a - b)
  | .subFrom x y => do
    let a ← read v x
    let b ← read v y
    let v ← write v Registers.flag (if a < b then 1 else 0)
    write v x (b - a)
  | .shiftRight x _ => do
    let a ← read v x
    let v ← write v Registers.flag (a &&& 0x01)
    write v x (a >>> 1)
  | .shiftLeft x _ => do
    let a ← read v x
    let v ← write v Registers.flag ((a &&& 0x80) >>> 7)
    write v x (a <<< 1)
  | _ => none

/-! ## Subroutines -/

def leave (m : Machine) : Option (Outcome Fault Flow) :=
  if m.calls.pointer < 0 then some (m.refuse (.stackUnderflow m.pc))
  else do
    let newest ← count m.calls.pointer
    let target ← read m.calls.slots newest
    let pointer ← down m.calls.pointer
    some (Machine.proceed { m with calls := { m.calls with pointer := pointer } } (.jump target))

def enter (m : Machine) (target : Word) : Option (Outcome Fault Flow) :=
  if .ofNat Layout.stackDepth - 1 ≤ m.calls.pointer then some (m.refuse (.stackOverflow m.pc))
  else do
    let pointer ← up m.calls.pointer
    let newest ← count pointer
    let back ← add m.pc 2
    let slots ← write m.calls.slots newest back
    some (Machine.proceed { m with calls := { slots := slots, pointer := pointer } }
      (.jump target))

/-! ## The cells at `I` -/

/-- Where the `len` cells at `I` begin and end, if they lie inside memory. -/
def bounds (m : Machine) (len : Nat) : Except Fault (Nat × Nat) :=
  if len = 0 then .ok (0, 0)
  else if 4096 < m.index.toNat + len then
    .error (.addressOutOfRange (max m.index.toNat Layout.memorySize) m.pc)
  else .ok (m.index.toNat, m.index.toNat + len)

/-- Works on the `len` cells at `I`. -/
def onBlock (m : Machine) (len : Nat) (act : Nat → Nat → Option Machine) :
    Option (Outcome Fault Flow) :=
  match bounds m len with
  | .error fault => some (m.refuse fault)
  | .ok (start, stop) => (act start stop).map fun m' => m'.proceed .next

/-! ## Drawing -/

/-- Reports in the flag register whether a bit has erased a lit pixel. -/
def report (rule : CollisionRule) (v : Registers) (erased : Bool) : Option Registers :=
  match rule with
  | .lastBit => write v Registers.flag (if erased then 1 else 0)
  | .anyPixel => if erased then write v Registers.flag 1 else some v

/-- Draws one bit of a row of a sprite, writing the screen and the flag register. -/
def drawBit (rule : CollisionRule) (x y : Nat) (row : UInt8) (canvas : Screen × Registers)
    (column : Nat) : Option (Screen × Registers) := do
  let places ← sub 7 column
  let shifted ← shiftDown row places
  let bit := shifted &&& 1
  let place := 64 * (y % 32) + (x + column) % 64
  let old ← read canvas.1 place
  let screen ← write canvas.1 place (old ^^^ bit)
  let v ← report rule canvas.2 (old == 1 && bit == 1)
  some (screen, v)

/-- Draws rows of a sprite whose bytes lie from `start` on. -/
def drawRows (memory : Memory) (rule : CollisionRule) (x : Nat) :
    Nat → Nat → Nat → Screen × Registers → Option (Screen × Registers)
  | _, _, 0, canvas => some canvas
  | y, start, rows + 1, canvas => do
    let row ← read memory start
    let canvas ← (List.range 8).foldlM (drawBit rule x y row) canvas
    drawRows memory rule x (y + 1) (start + 1) rows canvas

def drawSprite (m : Machine) (x y height : Nat) : Option (Outcome Fault Flow) :=
  onBlock m height fun start stop => do
    let column ← read m.registers x
    let line ← read m.registers y
    let v ←
      match m.collision with
      | .lastBit => some m.registers
      | .anyPixel => write m.registers Registers.flag 0
    let (screen, v) ← drawRows m.memory m.collision column.toNat line.toNat start (stop - start)
      (m.screen, v)
    some { m with registers := v, screen := screen, redraw := true }

/-! ## Commands -/

/-- The commands on timers, on `I` and on the cells there. No other one may come here. -/
def misc (m : Machine) : Command → Option (Outcome Fault Flow)
  | .readDelay x => do
    let v ← write m.registers x m.delay
    some (Machine.proceed { m with registers := v } .next)
  | .setDelay x => do
    let value ← read m.registers x
    some (Machine.proceed { m with delay := value } .next)
  | .setSound x => do
    let value ← read m.registers x
    some (Machine.proceed { m with sound := value } .next)
  | .addIndex x => do
    let value ← read m.registers x
    some (Machine.proceed { m with index := m.index + value.toUInt16 } .next)
  | .glyph x => do
    let value ← read m.registers x
    let offset ← mul (value &&& 0xF).toUInt16 (.ofNat Layout.glyphHeight)
    let address ← add Layout.fontBase offset
    some (Machine.proceed { m with index := address } .next)
  | .decimal x =>
    onBlock m 3 fun start stop => do
      let value ← read m.registers x
      let memory ← copy m.memory start stop (Registers.decimalDigits value)
      some { m with memory := memory }
  | .save x =>
    onBlock m (x + 1) fun start stop => do
      let values ← slice m.registers 0 (x + 1)
      let memory ← copy m.memory start stop values
      some { m with memory := memory }
  | .restore x =>
    onBlock m (x + 1) fun start stop => do
      let values ← slice m.memory start stop
      let v ← copy m.registers 0 (x + 1) values
      some { m with registers := v }
  | _ => none

/-- Puts the lowest key that is down into a register, or waits for one. -/
def takeKey (m : Machine) (x : Nat) : Option (Outcome Fault Flow) :=
  match m.keys.lowest? with
  | none => some (m.proceed .wait)
  | some key => do
    let v ← write m.registers x (.ofNat key)
    some (Machine.proceed { m with registers := v } .next)

/-- The effect of a command. -/
def execute (m : Machine) (c : Command) : Option (Outcome Fault Flow) :=
  match c with
  | .sys _ => some (m.proceed .next)
  | .clear => some (Machine.proceed { m with screen := .blank, redraw := true } .next)
  | .ret => leave m
  | .jump nnn => some (m.proceed (.jump nnn))
  | .call nnn => enter m nnn
  | .skipByte x kk => do
    let a ← read m.registers x
    some (skipIf m (a == kk))
  | .skipNotByte x kk => do
    let a ← read m.registers x
    some (skipIf m (a != kk))
  | .skipSame x y => do
    let a ← read m.registers x
    let b ← read m.registers y
    some (skipIf m (a == b))
  | .setByte x kk => do
    let v ← write m.registers x kk
    some (Machine.proceed { m with registers := v } .next)
  | .addByte x kk => do
    let a ← read m.registers x
    let v ← write m.registers x (a + kk)
    some (Machine.proceed { m with registers := v } .next)
  | .copy .. | .or .. | .and .. | .xor .. | .add .. | .sub .. | .shiftRight .. | .subFrom ..
  | .shiftLeft .. => do
    let v ← alu m.registers c
    some (Machine.proceed { m with registers := v } .next)
  | .skipDiffer x y => do
    let a ← read m.registers x
    let b ← read m.registers y
    some (skipIf m (a != b))
  | .setIndex nnn => some (Machine.proceed { m with index := nnn } .next)
  | .jumpPlus nnn => do
    let offset ← read m.registers 0
    let goal ← add nnn offset.toUInt16
    some (m.proceed (.jump goal))
  | .random x kk => do
    let v ← write m.registers x (m.noise.next &&& kk)
    some (Machine.proceed { m with registers := v, noise := m.noise.advance } .next)
  | .draw x y n => drawSprite m x y n.toNat
  | .skipDown x => do
    let down ← keyDown m x
    some (skipIf m down)
  | .skipUp x => do
    let down ← keyDown m x
    some (skipIf m !down)
  | .awaitKey x => takeKey m x
  | .readDelay _ | .setDelay _ | .setSound _ | .addIndex _ | .glyph _ | .decimal _ | .save _
  | .restore _ => misc m c

/-! ## Steps -/

/-- The word at the program counter. -/
def fetch (m : Machine) : Option (Except Fault Word) :=
  if 4096 ≤ m.pc.toNat + 1 then some (.error (.addressOutOfRange m.pc.toNat m.pc))
  else do
    let high ← read m.memory m.pc.toNat
    let low ← read m.memory (m.pc.toNat + 1)
    some (.ok (.ofBytes high low))

/-- The new program counter, if the program goes on. -/
def target? (pc : Word) : Flow → Option (Option Word)
  | .next => (add pc 2).map some
  | .skip => (add pc 4).map some
  | .jump target => some (some target)
  | .wait => some none

/-- Ends a step that began at `before`. -/
def conclude (before : Machine) (c : Command) (out : Outcome Fault Flow) :
    Option (Outcome Fault Progress) :=
  match out.result with
  | .error fault => some ⟨.error fault, { out.machine with redraw := before.redraw }⟩
  | .ok flow => do
    let goal ← target? before.pc flow
    let i ← c.instruction?
    match goal with
    | some pc => some ⟨.ok (.executed i), { out.machine with pc := pc }⟩
    | none => some ⟨.ok .awaitingKey, out.machine⟩

/-- One step. -/
def step (m : Machine) : Option (Outcome Fault Progress) := do
  match ← fetch m with
  | .error fault => some ⟨.error fault, m⟩
  | .ok word =>
    match Command.decode? word with
    | none => some ⟨.error (.invalidOpcode word m.pc), m⟩
    | some c => do
      let out ← execute { m with redraw := false } c
      conclude m c out

/-- A step that looks at the keys while it has to wait. -/
def stepBlocking (m : Machine) (frames : List Frame) : Option Waited := do
  let out ← step m
  if out.isAwaiting then
    match frames with
    | [] => some ⟨out, 1⟩
    | frame :: rest =>
      let shown := { out.machine with keys := frame.keys }
      if frame.go then (stepBlocking shown rest).map Waited.polledBefore
      else some ⟨⟨.ok .awaitingKey, shown⟩, 1⟩
  else some ⟨out, 0⟩

/-! ## Operations -/

/-- The state of a new machine: the built-in glyphs are copied into an empty memory. -/
def fresh : Option State := do
  let start := Layout.fontBase.toNat
  let memory ← copy (.replicate 4096 0) start (start + Font.bytes.length) Font.bytes
  some { memory := memory }

/-- Copies a program to the start address, if it fits. -/
def loadBytes (m : Machine) (rom : List UInt8) : Option (Outcome LoadError Unit) :=
  if Layout.programLimit < rom.length then some ⟨.error (.tooLarge rom.length), m⟩
  else do
    let start := Layout.programStart.toNat
    let memory ← copy m.memory start (start + rom.length) rom
    some ⟨.ok (), { m with memory := memory }⟩

def load (m : Machine) (source : Source) : Option (Outcome LoadError Unit) :=
  match source.contents with
  | .error cause => some ⟨.error (.unreadable cause), m⟩
  | .ok rom => loadBytes m rom

/-- Puts the key down or up that the low digit of a number names. -/
def setKey (m : Machine) (key : Nat) (down : Bool) : Option Machine := do
  let keys ← write m.keys (key &&& 0xF) down
  some { m with keys := keys }

/-- Does one operation. -/
def perform (m : Machine) : Operation → Option (Answer × Machine)
  | .load source => (load m source).map fun out => (.loaded out.result, out.machine)
  | .step => (step m).map fun out => (.stepped out.result, out.machine)
  | .stepBlocking frames =>
    (stepBlocking m frames).map fun out => (.waited out.result out.polls, out.machine)
  | .setKey key down => (setKey m key down).map fun m' => (.done, m')
  | .setKeys keys => some (.done, { m with keys := keys })
  | .pressKeys keys => do
    let keys ← keys.foldlM (fun (pad : Keypad) (key : Fin 16) => write pad key.val true) m.keys
    some (.done, { m with keys := keys })
  | .releaseKeys => some (.done, { m with keys := .released })
  | .tick => some (.done, { m with toState := m.toState.tick })
  | .tickDelay => some (.done, { m with toState := m.toState.tickDelay })
  | .tickSound => some (.done, { m with toState := m.toState.tickSound })
  | .reset => fresh.map fun s => (.done, { m with toState := s })

/-! ## Reading -/

/-- The register that the low digit of a number names. -/
def register (m : Machine) (r : Nat) : Option UInt8 :=
  read m.registers (r &&& 0xF)

/-- Whether the pixel at any coordinates is lit. -/
def pixel (m : Machine) (x y : Nat) : Option Bool :=
  (read m.screen (64 * (y % 32) + x % 64)).map (· == 1)

/-- The return addresses, the oldest first. -/
def stack (m : Machine) : Option (List Word) := do
  let top ← up m.calls.pointer
  let size ← count top
  slice m.calls.slots 0 size

/-- All cells of memory. -/
def memory (m : Machine) : Option (List UInt8) :=
  slice m.memory 0 Layout.memorySize

end Chip8.Checked

import Chip8.Proofs.Conventions
import Chip8.Proofs.Spelling

/-!
# Every choice can be spelled

Whatever reads the command line, if only it keeps what is promised of single arguments. While a
line is read, what has been found is the part of the choice that the items before the place
make up. An item whose kind has not been read yet extends this part by itself; so the items of
a choice, in whatever order, are read as the choice.

The other way round, whatever line is read, only a file name that is not empty and values that
their settings accept are ever found.

## Main definitions

* `Chosen.add`, `Chosen.Lacks` — one item more, and a kind of items that is missing.
* `Choice.part` — what a choice says of some kinds of items.
* `Chosen.Sound` — only what is acceptable has been found.

## Main statements

* `Reader.Documented.item`, `Reader.Documented.items` — one item, and all of them.
* `Reader.Documented.sound_of_next` — what one argument can give.
* `parse_spelled` — choices are read back from any spelling, and nothing else is read.
-/

namespace Chip8.CommandLine

/-! ## One item more -/

namespace Chosen

/-- With what an item gives. -/
def add (c : Chosen) : Item → Chosen
  | .file f => c.withFile f.name
  | .setting s given => c.withValue s given.value
  | .switch s => c.withSwitch s

/-- No item of a kind has been given. -/
def Lacks (c : Chosen) : Kind → Prop
  | .file => c.rom = none
  | .setting s => c.values s = none
  | .switch s => c.switches s = false

end Chosen

namespace Choice

/-- What a choice says of some kinds of items. -/
def part (c : Choice) (kinds : List Kind) : Chosen where
  rom := if .file ∈ kinds then some c.file.name else none
  values s := if .setting s ∈ kinds then c.value? s else none
  switches s := decide (.switch s ∈ kinds) && c.switches s

variable {c : Choice} {i : Item} {k : Kind} {kinds : List Kind}

theorem part_nil (c : Choice) : c.part [] = {} := by
  simp [part]

theorem lacks_part (fresh : k ∉ kinds) : (c.part kinds).Lacks k := by
  cases k with
  | file => exact if_neg fresh
  | setting s => exact if_neg fresh
  | switch s =>
    change (decide _ && _) = false
    rw [decide_eq_false fresh, Bool.false_and]

/-- An item adds itself to what is said of other kinds. -/
theorem add_part (given : c.item? i.kind = some i) :
    (c.part kinds).add i = c.part (kinds ++ [i.kind]) := by
  cases i with
  | file f =>
    obtain rfl : c.file = f := by simpa [item?, Item.kind] using given
    simp [Chosen.add, Chosen.withFile, part, Item.kind]
  | setting s value =>
    obtain same : c.settings s = some value := by simpa [item?, Item.kind] using given
    simp only [Chosen.add, Chosen.withValue, part, Item.kind, Chosen.mk.injEq, List.mem_append,
      List.mem_singleton, reduceCtorEq, or_false, Kind.setting.injEq, true_and, and_true]
    funext t
    by_cases here : t = s
    · subst here
      simp [value?, same]
    · simp [here]
  | switch s =>
    obtain on : c.switches s = true := by simpa [item?, Item.kind] using given
    simp only [Chosen.add, Chosen.withSwitch, part, Item.kind, Chosen.mk.injEq, List.mem_append,
      List.mem_singleton, reduceCtorEq, or_false, Kind.switch.injEq, true_and]
    funext t
    by_cases here : t = s
    · simp [here, on]
    · simp [here]

/-- Where all items of a choice have been read, it is what has been chosen. -/
theorem arguments_part (whole : ∀ i ∈ c.items, i.kind ∈ kinds) :
    (c.part kinds).arguments = .ok c.arguments := by
  have file : .file ∈ kinds := whole (.file c.file) (mem_items.2 rfl)
  have settings (s : Setting) : (c.part kinds).values s = c.value? s := by
    by_cases told : .setting s ∈ kinds
    · exact if_pos told
    · cases given : c.settings s with
      | none => simp [part, told, value?, given]
      | some value =>
        have asked : .setting s value ∈ c.items :=
          mem_items.2 (by simp [item?, Item.kind, given])
        exact absurd (whole _ asked) told
  have switches (s : Switch) : (c.part kinds).switches s = c.switches s := by
    cases on : c.switches s with
    | false => simp [part, on]
    | true =>
      have asked : .switch s ∈ c.items := mem_items.2 (by simp [item?, Item.kind, on])
      have told : .switch s ∈ kinds := whole _ asked
      simp [part, told, on]
  have rom : (c.part kinds).rom = some c.file.name := if_pos file
  simp only [Chosen.arguments, rom, settings, switches]
  rfl

end Choice

/-! ## Reading from left to right -/

namespace Reader

variable {p : Reader} {place later : p.Place} {a : Argument} {c : Chosen} {e : Expectation}

theorem parseFrom_cons (read : p.next place a = .ok later) (rest : List Argument) :
    p.parseFrom place (a :: rest) = p.parseFrom later rest := by
  rw [parseFrom, read]

/-- The rest of a line is read from the place behind an argument. -/
theorem Takes.exists_place (takes : p.Takes place a c e) :
    ∃ later, p.expects later = e ∧ p.found later = c ∧
      ∀ rest, p.parseFrom place (a :: rest) = p.parseFrom later rest := by
  obtain ⟨later, read, found, expects⟩ := takes
  exact ⟨later, expects, found, parseFrom_cons read⟩

namespace Documented

/-- An item is read as a whole, where none of its kind has been read. -/
theorem item (documented : p.Documented) {i : Item} (open' : p.expects place = .item)
    (lacks : (p.found place).Lacks i.kind) :
    ∃ later, p.expects later = .item ∧ p.found later = (p.found place).add i ∧
      ∀ rest, p.parseFrom place (i.spelling ++ rest) = p.parseFrom later rest := by
  cases i with
  | file f => exact (documented.placed open' lacks f.filled f.bare).exists_place
  | setting s given =>
    have read := Setting.read?_argument given.low given.high
    rw [Item.spelling]
    cases given.attached with
    | true => exact (documented.attached open' lacks read).exists_place
    | false =>
      obtain ⟨middle, awaits, same, named⟩ := (documented.named open' lacks).exists_place
      rw [← same] at lacks ⊢
      obtain ⟨later, expects, found, value⟩ :=
        (documented.apart awaits lacks given.dashed_argument read).exists_place
      exact ⟨later, expects, found, fun rest => (named _).trans (value rest)⟩
  | switch s => exact (documented.switched open' lacks).exists_place

/-- The items of a choice are read from a place where none of their kinds has been. -/
theorem items (documented : p.Documented) {c : Choice} {kinds : List Kind} {items : List Item}
    (open' : p.expects place = .item) (found : p.found place = c.part kinds)
    (given : ∀ i ∈ items, c.item? i.kind = some i)
    (fresh : (kinds ++ items.map Item.kind).Nodup) :
    p.parseFrom place (items.flatMap Item.spelling) =
      (c.part (kinds ++ items.map Item.kind)).arguments := by
  induction items generalizing place kinds with
  | nil =>
    rw [List.map_nil, List.append_nil, List.flatMap_nil, parseFrom, documented.ended open', found]
  | cons i items ih =>
    have here := given i List.mem_cons_self
    have others : ∀ i ∈ items, c.item? i.kind = some i :=
      fun j mem => given j (List.mem_cons_of_mem _ mem)
    have new : i.kind ∉ kinds := by
      intro mem
      exact (List.nodup_middle.1 fresh).notMem (List.mem_append_left _ mem)
    have lacks : (p.found place).Lacks i.kind := by
      rw [found]
      exact Choice.lacks_part new
    obtain ⟨later, open'', added, reads⟩ := documented.item open' lacks
    rw [found, Choice.add_part here] at added
    rw [List.map_cons, List.append_cons] at fresh ⊢
    rw [List.flatMap_cons, reads, ih open'' added others fresh]

end Documented

end Reader

/-! ## What can be read -/

/-- The file name, if there is one, is not empty, and settings have numbers they accept. -/
structure Chosen.Sound (c : Chosen) : Prop where
  file : c.rom ≠ some []
  values : ∀ s n, c.values s = some n → s.least ≤ n ∧ n ≤ s.most

/-- A default that a setting accepts is as good as what it was given. -/
theorem Chosen.Sound.getD_range {c : Chosen} {s : Setting} (sound : c.Sound) (low : s.least ≤ 10)
    (high : 10 ≤ s.most) : s.least ≤ (c.values s).getD 10 ∧ (c.values s).getD 10 ≤ s.most := by
  cases value : c.values s with
  | none => exact ⟨low, high⟩
  | some n => exact sound.values s n value

namespace Reader.Documented

variable {p : Reader} {place later : p.Place} {a : Argument}

/-- One argument gives nothing that is not acceptable. -/
theorem sound_of_next (documented : p.Documented) (sound : (p.found place).Sound)
    (read : p.next place a = .ok later) : (p.found later).Sound where
  file := by
    intro named
    rcases documented.filled read named with old | filled
    · exact sound.file old
    · exact filled rfl
  values := by
    intro s n value
    rcases documented.checked read value with old | ⟨v, accepted⟩
    · exact sound.values s n old
    · exact Setting.range_of_read? accepted

/-- What a line asks for in the end is what has been found up to there. -/
theorem sound_of_parseFrom (documented : p.Documented) {line : List Argument} {a : Arguments}
    (sound : (p.found place).Sound) (parsed : p.parseFrom place line = .ok a) :
    ∃ c : Chosen, c.Sound ∧ c.arguments = .ok a := by
  induction line generalizing place with
  | nil => exact ⟨p.found place, sound, documented.answered parsed⟩
  | cons first rest ih =>
    rw [parseFrom] at parsed
    split at parsed
    · cases parsed
    · next later read => exact ih (documented.sound_of_next sound read) parsed

end Reader.Documented

/-- Every choice is read back however it is spelled. A choice is a file name that is not empty
and does not begin with a dash, any of the settings with a number they accept, and any of the
switches. Its items may come in any order, a number with a plus or without and with any number
of zeros in front, attached to the name of its setting or behind it. The line is accepted, and
what is read is what was chosen, with the defaults for what was not. The other way round,
whatever line is accepted, its file name is not empty and its numbers are in their ranges. All
this holds of every reader that keeps what is promised of single arguments. -/
theorem parse_spelled (p : Reader) (documented : p.Documented) :
    (∀ (c : Choice) (items : List Item), items.Perm c.items →
        p.parse (items.flatMap Item.spelling) = .ok c.arguments) ∧
      ∀ line a, p.parse line = .ok a →
        1 ≤ a.scale ∧ a.scale ≤ 100 ∧ a.cyclesPerFrame < 4294967296 ∧
          (∀ seed, a.seed = some seed → seed < 18446744073709551616) ∧ a.rom ≠ [] := by
  constructor
  · intro c items order
    have given : ∀ i ∈ items, c.item? i.kind = some i :=
      fun i mem => Choice.mem_items.1 (order.mem_iff.1 mem)
    have fresh : ([] ++ items.map Item.kind).Nodup :=
      (order.map Item.kind).nodup_iff.2 c.nodup_kinds
    have whole : ∀ i ∈ c.items, i.kind ∈ [] ++ items.map Item.kind :=
      fun i mem => List.mem_map_of_mem (order.mem_iff.2 mem)
    have blank : p.found p.start = c.part [] := documented.start_found.trans c.part_nil.symm
    rw [Reader.parse, documented.items documented.start_expects blank given fresh,
      Choice.arguments_part whole]
  · intro line a parsed
    have blank : (p.found p.start).Sound := by
      rw [documented.start_found]
      exact ⟨nofun, nofun⟩
    obtain ⟨c, sound, asked⟩ := documented.sound_of_parseFrom blank parsed
    rw [Chosen.arguments] at asked
    split at asked
    · cases asked
    · next rom named =>
      cases asked
      have scale := sound.getD_range (s := .scale) (by decide) (by decide)
      have cycles := sound.getD_range (s := .cyclesPerFrame) (by decide) (by decide)
      refine ⟨scale.1, scale.2, Nat.lt_succ_of_le cycles.2, fun seed value => ?_, ?_⟩
      · exact Nat.lt_succ_of_le (sound.values .seed seed value).2
      · rintro rfl
        exact sound.file named

/-- The name of a file that is no text in UTF-8. -/
def accented : FileName where
  name := [0x6A, 0x65, 0x75, 0xE9]
  filled := by decide
  bare := by decide

/-- A seed with a plus and two zeros in front, and a file name behind it. -/
theorem parse_spelled_mixed :
    conventional.parse
          [.ofText "--seed=+007", accented.name, .ofText "--disassemble", .ofText "--scale",
            .ofText "0100"] =
        .ok {
          rom := accented.name, scale := 100, cyclesPerFrame := 10, seed := some 7
          anyPixelCollision := false, disassemble := true } ∧
      7 < 18446744073709551616 := by
  obtain ⟨spelled, sound⟩ := parse_spelled conventional conventional_documented
  let seed : Given .seed := ⟨⟨true, 2, 7⟩, by decide, by decide, true⟩
  let scale : Given .scale := ⟨⟨false, 1, 100⟩, by decide, by decide, false⟩
  let c : Choice :=
    { file := accented
      settings :=
        Function.update (Function.update (fun _ => none) .scale (some scale)) .seed (some seed)
      switches := fun s => s = .disassemble }
  let items : List Item :=
    [.setting .seed seed, .file c.file, .switch .disassemble, .setting .scale scale]
  have spelling : items.flatMap Item.spelling =
      [.ofText "--seed=+007", accented.name, .ofText "--disassemble", .ofText "--scale",
        .ofText "0100"] := by decide
  have parsed := spelled c items (by decide)
  rw [spelling] at parsed
  exact ⟨parsed, (sound _ _ parsed).2.2.2.1 7 rfl⟩

end Chip8.CommandLine

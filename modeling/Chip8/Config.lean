import Chip8.Text.Record

/-!
# Configuration of a machine

Interpreters disagree on how a drawn sprite reports a collision, so the rule is a
choice. So is the seed of the random bytes; without one they are different each time.

## Main definitions

* `CollisionRule` — how drawing a sprite sets the flag register.
* `Config` — the choices for a new machine, and `Config.record`, their text.
-/

namespace Chip8

/-- How drawing a sprite reports in the flag register that it has erased pixels. -/
inductive CollisionRule where
  /-- Every sprite bit writes the flag, so the last bit drawn decides. -/
  | lastBit
  /-- The flag is set if any pixel was erased. -/
  | anyPixel
  deriving DecidableEq

namespace CollisionRule

/-- The name of a rule. -/
def name : CollisionRule → String
  | .lastBit => "LastBit"
  | .anyPixel => "AnyPixel"

/-- The written form of the disputed behaviours, of which the collision rule is the
only one. -/
def record (rule : CollisionRule) : String :=
  Record.render "Quirks" [("collision", rule.name)]

/-- The flag before the first bit is drawn, from the value that the flag register
held: the last-bit rule starts from that value, the other from zero. -/
def start (rule : CollisionRule) (held : UInt8) : UInt8 :=
  match rule with
  | .lastBit => held
  | .anyPixel => 0

/-- The flag after one more bit, which may have erased a pixel. -/
def update (rule : CollisionRule) (flag : UInt8) (erased : Bool) : UInt8 :=
  match rule with
  | .lastBit => if erased then 1 else 0
  | .anyPixel => if erased then 1 else flag

end CollisionRule

/-- The choices for a new machine. -/
structure Config where
  collision : CollisionRule := .lastBit
  /-- The seed of the random bytes; without one they come from outside. -/
  seed : Option UInt64 := none
  deriving DecidableEq

/-- The written form of a configuration. -/
def Config.record (config : Config) : String :=
  Record.render "Config"
    [("quirks", config.collision.record),
      ("seed", Record.optional (config.seed.map fun seed => Nat.repr seed.toNat))]

end Chip8

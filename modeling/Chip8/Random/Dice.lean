import Chip8.Random.Twister

/-! A source of randomness chosen at run time: a script, or a generator with a seed. -/
namespace Chip8

inductive Dice
  | script (s : Script)
  | twister (t : Twister)

namespace Dice

def draw : Dice → Except Fault Int × Dice
  | script s => let (value, s) := s.draw; (value, script s)
  | twister t => let (value, t) := t.draw; (value, twister t)

instance : RandomSource Dice := ⟨draw⟩

end Dice

end Chip8

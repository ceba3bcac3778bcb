import Chip8.Fault

/-! Sources of random bytes. The machine asks for one value at a time and uses its low
bits, so a source may return any integer. It may also have none to give. -/
namespace Chip8

/-- A stream of integers, read one at a time. A draw that fails leaves the source changed too. -/
class RandomSource (ρ : Type) where
  draw : ρ → Except Fault Int × ρ

structure Script where
  values : Array Int
  drawn : Nat

namespace Script

def ofArray (values : Array Int) : Script := ⟨values, 0⟩

def value (s : Script) : Except Fault Int :=
  match s.values[s.drawn % s.values.size]? with
  | some value => .ok value
  | none => .error .noNumbers

def draw (s : Script) : Except Fault Int × Script :=
  (s.value, { s with drawn := s.drawn + 1 })

instance : RandomSource Script := ⟨draw⟩

theorem value_eq_error_iff (s : Script) : s.value = .error .noNumbers ↔ s.values = #[] := by
  unfold value
  constructor
  · intro failed
    split at failed
    · cases failed
    · next missing =>
      rw [Array.getElem?_eq_none_iff] at missing
      by_cases none : s.values.size = 0
      · exact Array.size_eq_zero_iff.mp none
      · have inside := Nat.mod_lt s.drawn (Nat.pos_of_ne_zero none)
        omega
  · intro none
    simp [none]

end Script

end Chip8

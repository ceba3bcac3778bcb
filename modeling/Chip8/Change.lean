/-! Changes of a state that can fail. What was done before a failure remains. -/
namespace Chip8

/-- A change of a state of type `σ`, which may fail for a reason of type `ε`. -/
abbrev Change (σ ε α : Type) := EStateM ε σ α

abbrev Changed (σ ε α : Type) := EStateM.Result ε σ α

variable {σ ε α : Type}

/-- The result of a change that is made as a whole or not at all. -/
def Changed.whole (before : σ) : Except ε σ → Changed σ ε Unit
  | .ok after => .ok () after
  | .error reason => .error reason before

namespace Change

def whole (change : σ → Except ε σ) : Change σ ε Unit :=
  fun before => Changed.whole before (change before)

def after (change : Change σ ε α) (before : σ) : σ :=
  match change before with
  | .ok _ after => after
  | .error _ after => after

theorem after_whole (change : σ → Except ε σ) (before : σ) :
    (whole change).after before = (change before).toOption.getD before := by
  unfold after whole
  cases change before <;> rfl

end Change

end Chip8

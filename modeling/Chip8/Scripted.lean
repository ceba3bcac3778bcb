import Chip8.Session

/-! A host that plays back key snapshots and writes down how it is called. -/
namespace Chip8

inductive HostCall
  | render (frame : Frame)
  | poll
  | beep

structure Scripted where
  polls : Array (Array Bool)
  /-- The poll at which the host asks to stop, counted from one. -/
  stopAt : Option Int
  reason : CodePoints
  polled : Nat
  calls : Array HostCall

namespace Scripted

/-- The snapshot for the next poll, unless there is none at all. -/
def snapshot? (p : Scripted) : Option (Array Bool) :=
  p.polls[min p.polled (p.polls.size - 1)]?

variable {ε : Type}

def host : Host Scripted ε where
  render f p := ⟨{ p with calls := p.calls.push (.render f) }, [], [], .ok ()⟩
  poll p :=
    let stops := if p.stopAt = some ((p.polled + 1 : Nat) : Int) then [p.reason] else []
    let value := match p.snapshot? with
      | some keys => .ok keys
      | none => .error (.fault .noSnapshot)
    ⟨{ p with polled := p.polled + 1, calls := p.calls.push .poll }, stops, [], value⟩
  beep p := ⟨{ p with calls := p.calls.push .beep }, [], [], .ok ()⟩

end Scripted

end Chip8

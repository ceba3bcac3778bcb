import Chip8.Headless
import Chip8.Observer
import Chip8.Program
import Chip8.Scripted

/-! The world around a session: an observer and a host side by side, the threshold of the
log, and the faults that a handler has received. -/
namespace Chip8

structure World (η : Type) where
  observer : Option Observer
  host : η
  threshold : Int
  handled : List Fault

namespace World

variable {η ε α : Type}

def ofHost (w : World η) (reply : Reply η ε α) : Reply (World η) ε α :=
  { reply with world := { w with host := reply.world } }

def liftHost (h : Host η ε) : Host (World η) ε where
  render f w := w.ofHost (h.render f w.host)
  poll w := w.ofHost (h.poll w.host)
  beep w := w.ofHost (h.beep w.host)

def notice (s : State) (w : World η) : Reply (World η) ε Unit :=
  match w.observer with
  | none => ⟨w, [], [], .ok ()⟩
  | some observer =>
    let n := observer.notice w.threshold s
    let value := match n.fault with
      | some fault => .error (.fault fault)
      | none => .ok ()
    ⟨{ w with observer := some n.observer }, n.stops, n.reports, value⟩

theorem notice_host (s : State) (w : World η) :
    (notice s w : Reply (World η) ε Unit).world.host = w.host := by
  unfold notice
  split <;> rfl

def surroundings (h : Option (Host η ε)) : Surroundings (World η) ε :=
  ⟨some notice, h.map liftHost⟩

def keep (f : Fault) (w : World η) : Reply (World η) ε Unit :=
  ⟨{ w with handled := w.handled ++ [f] }, [], [], .ok ()⟩

def keepAndFail (failure : ε) (f : Fault) (w : World η) : Reply (World η) ε Unit :=
  ⟨{ w with handled := w.handled ++ [f] }, [], [], .error (.outside failure)⟩

end World

/-- The hosts that need no window, one of which is to have none. -/
inductive Bench
  | bare
  | headless (h : Headless)
  | scripted (p : Scripted)

namespace Bench

variable {ε α : Type}

def ofReply {η : Type} (wrap : η → Bench) (reply : Reply η ε α) : Reply Bench ε α :=
  { reply with world := wrap reply.world }

def host : Host Bench ε where
  render f
    | bare => ⟨bare, [], [], .ok ()⟩
    | headless h => ofReply headless (Headless.host.render f h)
    | scripted p => ofReply scripted (Scripted.host.render f p)
  poll
    | bare => ⟨bare, [], [], .ok #[]⟩
    | headless h => ofReply headless (Headless.host.poll h)
    | scripted p => ofReply scripted (Scripted.host.poll p)
  beep
    | bare => ⟨bare, [], [], .ok ()⟩
    | headless h => ofReply headless (Headless.host.beep h)
    | scripted p => ofReply scripted (Scripted.host.beep p)

def host? : Bench → Option (Host Bench ε)
  | bare => none
  | _ => some host

end Bench

end Chip8

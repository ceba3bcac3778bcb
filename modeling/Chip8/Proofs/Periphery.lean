import Chip8.Proofs.Trail

/-! The periphery of a machine: its keys, its timers and its source of randomness. A few
instructions read or write them. All others do the same whatever the periphery is, and hand it on
as it was. Nothing is assumed of the machine, which may be set up with any numbers. -/
namespace Chip8

namespace Operation

def readsKeys : Operation → Bool
  | skipIfPressed | skipUnlessPressed | awaitKey => true
  | _ => false

def setsTimer : Operation → Bool
  | setDelay | setSound => true
  | _ => false

end Operation

/-- The same effect on a machine that has other keys and timers. A timer that the instruction has
set stays as it was set. -/
def Effect.dressed (op : Operation) (keys : Keys) (delay sound : Int) : Effect → Effect
  | .ok () t => .ok () { t with
      keys
      delay := if op = .setDelay then t.delay else delay
      sound := if op = .setSound then t.sound else sound }
  | .error fault t => .error fault { t with keys, delay, sound }

namespace State

variable {ρ : Type} [RandomSource ρ]

omit [RandomSource ρ] in
theorem dressed_withRegisters {op : Operation} (untimed : op.setsTimer = false) (s : State) (r : ρ)
    (keys : Keys) (delay sound : Int) (v : Except Fault Registers) :
    (Changed.whole { s with keys, delay, sound }
        ((withRegisters { s with keys, delay, sound } v).map advance), r) =
      (Effect.dressed op keys delay sound (Changed.whole s ((s.withRegisters v).map advance)), r) := by
  cases v with
  | error fault => rfl
  | ok v => cases op <;> first | rfl | cases untimed

theorem perform_dressed (ins : Instruction) (s : State) (r : ρ) (keys : Keys) (delay sound : Int)
    (unseen : ins.operation.readsKeys = true → keys = s.keys)
    (untimed : ins.operation = .readDelay → delay = s.delay) :
    perform ins { s with keys, delay, sound } r =
      (Effect.dressed ins.operation keys delay sound (perform ins s r).1, (perform ins s r).2) := by
  obtain ⟨op, word⟩ := ins
  -- What an instruction may fail at (a register, a slot, a block of memory) is the same on both
  -- sides, so the cases are split there.
  cases op with
  | clear | jump | loadIndex => rfl
  | ret =>
    simp only [perform, returnFromCall, slot]
    by_cases empty : s.sp = 0
    · rw [if_pos empty, if_pos empty]
      rfl
    · rw [if_neg empty, if_neg empty]
      cases slot? (s.sp - 1) .noSuchSlot <;> rfl
  | call =>
    simp only [perform, callTo, setSlot]
    by_cases full : 16 ≤ s.sp
    · rw [if_pos full, if_pos full]
      rfl
    · rw [if_neg full, if_neg full]
      cases slot? s.sp .noSlotToFill <;> rfl
  | skipIfByte | skipUnlessByte | jumpOffset | setDelay | setSound | glyph =>
    simp only [perform]
    generalize s.v.get _ = b
    cases b <;> rfl
  | skipIfEqual | skipUnlessEqual =>
    simp only [perform]
    generalize s.v.get (Instruction.mk _ word).x = b
    generalize s.v.get (Instruction.mk _ word).y = c
    cases b
    · rfl
    · cases c <;> rfl
  | loadByte | or | and | xor | add | subtract | shiftRight | subtractFrom | shiftLeft =>
    exact dressed_withRegisters rfl s r keys delay sound _
  | addByte | copy =>
    simp only [perform]
    generalize s.v.get _ = b
    cases b with
    | error fault => rfl
    | ok b => exact dressed_withRegisters rfl s r keys delay sound _
  | random =>
    simp only [perform, setRegister]
    cases RandomSource.draw r with | mk value after =>
    cases value with
    | error fault => rfl
    | ok value => exact dressed_withRegisters rfl s after keys delay sound _
  | draw =>
    have same : spriteCells { s with keys, delay, sound } = s.spriteCells := rfl
    simp only [perform, drawSprite, same]
    generalize s.spriteCells _ _ _ = cells
    cases cells with
    | error fault => rfl
    | ok cells =>
      dsimp only
      generalize s.v.setFlag _ = v
      cases v <;> rfl
  | skipIfPressed | skipUnlessPressed =>
    obtain rfl := unseen rfl
    simp only [perform]
    generalize pressed : s.keyOf _ = b
    have same : keyOf { s with delay, sound } (Instruction.mk _ word).x = b := pressed
    cases b <;> rw [same] <;> rfl
  | readDelay =>
    obtain rfl := untimed rfl
    simp only [perform, readDelay]
    by_cases byte : 0 ≤ s.delay ∧ s.delay < 256
    · rw [if_pos byte, if_pos byte]
      exact dressed_withRegisters rfl s r keys s.delay sound _
    · rw [if_neg byte, if_neg byte]
      rfl
  | awaitKey =>
    obtain rfl := unseen rfl
    simp only [perform, waitForKey]
    cases s.keys.highest? with
    | none => rfl
    | some key => exact dressed_withRegisters rfl s r s.keys delay sound _
  | addIndex =>
    simp only [perform, addToIndex]
    generalize s.v.get _ = b
    cases b with
    | error fault => rfl
    | ok b =>
      simp only [bind, Except.bind]
      generalize s.v.setFlag _ = v
      cases v <;> rfl
  | decimal =>
    simp only [perform, writeDecimal]
    have free : requireBlock { s with keys, delay, sound } 3 = s.requireBlock 3 := rfl
    rw [free]
    cases s.requireBlock 3 with
    | error fault => rfl
    | ok _ =>
      generalize s.v.get _ = b
      cases b with
      | error fault => rfl
      | ok b =>
        simp only [writeAtIndex, bind, Except.bind]
        cases s.memory.writeBytes s.i [b / 100, b / 10 % 10, b % 10] <;> rfl
  | save =>
    simp only [perform, saveRegisters]
    have free : requireBlock { s with keys, delay, sound } = s.requireBlock := rfl
    rw [free]
    generalize s.requireBlock _ = allowed
    cases allowed with
    | error fault => rfl
    | ok _ =>
      simp only [writeAtIndex, bind, Except.bind]
      generalize s.memory.writeBytes s.i _ = memory
      cases memory <;> rfl
  | restore =>
    simp only [perform, restoreRegisters]
    have free : requireBlock { s with keys, delay, sound } = s.requireBlock := rfl
    rw [free]
    generalize s.requireBlock _ = allowed
    cases allowed <;> rfl

section Completed

variable {ins : Instruction} {s t : State} {r after : ρ}

theorem periphery_perform (done : perform ins s r = (.ok () t, after)) :
    t.keys = s.keys ∧ (ins.operation ≠ .setDelay → t.delay = s.delay) ∧
      (ins.operation ≠ .setSound → t.sound = s.sound) := by
  have same := perform_dressed ins s r s.keys s.delay s.sound (fun _ => rfl) fun _ => rfl
  have own : { s with keys := s.keys, delay := s.delay, sound := s.sound } = s := rfl
  rw [own, done] at same
  obtain ⟨handed, _⟩ := Prod.mk.inj same
  have handed := (EStateM.Result.ok.inj handed).2
  refine ⟨congrArg (·.keys) handed, fun other => ?_, fun other => ?_⟩
  · exact (congrArg (·.delay) handed).trans (if_neg other)
  · exact (congrArg (·.sound) handed).trans (if_neg other)

omit [RandomSource ρ] in
theorem byte_of_step {x : Fin 16} {f : UInt8 → State}
    (done : (Changed.whole s ((do return f (← s.v.get x) : Except Fault State).map advance), r) =
      (EStateM.Result.ok () t, after)) : t = (f (s.v.byte x)).advance := by
  cases given : s.v.get x with
  | error fault =>
    rw [given] at done
    cases done
  | ok b =>
    rw [given] at done
    cases done
    rw [Registers.byte_of_get given]

theorem delay_perform (done : perform ins s r = (.ok () t, after))
    (sets : ins.operation = .setDelay) : t.delay = (s.v.byte ins.x).toNat := by
  obtain ⟨op, word⟩ := ins
  cases sets
  exact congrArg (·.delay) (byte_of_step done)

theorem sound_perform (done : perform ins s r = (.ok () t, after))
    (sets : ins.operation = .setSound) : t.sound = (s.v.byte ins.x).toNat := by
  obtain ⟨op, word⟩ := ins
  cases sets
  exact congrArg (·.sound) (byte_of_step done)

theorem byte_of_readDelay (done : perform ins s r = (.ok () t, after))
    (reads : ins.operation = .readDelay) : ((t.v.byte ins.x).toNat : Int) = s.delay := by
  obtain ⟨op, word⟩ := ins
  cases reads
  simp only [perform, readDelay] at done
  by_cases byte : 0 ≤ s.delay ∧ s.delay < 256
  · rw [if_pos byte, setRegister] at done
    cases written : s.v.set (Instruction.mk .readDelay word).x (.ofInt s.delay) with
    | error fault =>
      rw [written] at done
      cases done
    | ok v =>
      rw [written] at done
      cases done
      have loaded := Registers.get_set written (Instruction.mk .readDelay word).x
      rw [if_pos rfl] at loaded
      have found : ((UInt8.ofInt s.delay).toNat : Int) = s.delay := by
        rw [Memory.toNat_ofInt]
        omega
      exact (congrArg (fun b : UInt8 => (b.toNat : Int)) (Registers.byte_of_get loaded)).trans found
  · rw [if_neg byte] at done
    cases done

theorem perform_of_no_random {ρ' : Type} [RandomSource ρ'] (still : ins.operation ≠ .random)
    (q : ρ') : perform ins s q = ((perform ins s r).1, q) := by
  obtain ⟨op, word⟩ := ins
  cases op <;> first | rfl | exact absurd rfl still

end Completed

section Execute

variable {ins : Instruction} {s t : State} {r after : ρ}

theorem execute_eq_ok_iff_perform : s.execute r = (.ok ins t, after) ↔
    s.instruction = .ok ins ∧
      ∃ u, perform ins s r = (.ok () u, after) ∧ t = { u with opcode := ins.word } := by
  unfold execute instruction
  cases Instruction.fetch s.memory s.pc with
  | error cause => simp
  | ok word =>
    dsimp only
    cases decoded : Instruction.decode? word with
    | none => simp
    | some found =>
      have same := Instruction.decode?_word decoded
      dsimp only
      constructor
      · intro done
        split at done
        · next performed =>
          cases done
          exact ⟨rfl, _, performed, by rw [same]⟩
        · cases done
      · rintro ⟨⟨⟩, u, performed, rfl⟩
        rw [performed, same]

theorem delay_execute (done : s.execute r = (.ok ins t, after)) :
    t.delay = if ins.operation = .setDelay then ((s.v.byte ins.x).toNat : Int) else s.delay := by
  obtain ⟨_, u, performed, rfl⟩ := execute_eq_ok_iff_perform.1 done
  split
  · next sets => exact (delay_perform performed sets :)
  · next other => exact (periphery_perform performed).2.1 other

theorem sound_execute (done : s.execute r = (.ok ins t, after)) :
    t.sound = if ins.operation = .setSound then ((s.v.byte ins.x).toNat : Int) else s.sound := by
  obtain ⟨_, u, performed, rfl⟩ := execute_eq_ok_iff_perform.1 done
  split
  · next sets => exact (sound_perform performed sets :)
  · next other => exact (periphery_perform performed).2.2 other

theorem byte_execute (done : s.execute r = (.ok ins t, after))
    (reads : ins.operation = .readDelay) : ((t.v.byte ins.x).toNat : Int) = s.delay := by
  obtain ⟨_, u, performed, rfl⟩ := execute_eq_ok_iff_perform.1 done
  exact (byte_of_readDelay performed reads :)

theorem execute_keyed (done : s.execute r = (.ok ins t, after))
    (unread : ins.operation.readsKeys = false) (keys : Keys) :
    { s with keys }.execute r = (.ok ins { t with keys }, after) := by
  obtain ⟨found, u, performed, rfl⟩ := execute_eq_ok_iff_perform.1 done
  obtain ⟨_, delay, sound⟩ := periphery_perform performed
  have dressed := perform_dressed ins s r keys s.delay s.sound
    (fun reads => by rw [unread] at reads; cases reads) fun _ => rfl
  rw [performed] at dressed
  have kept : (if ins.operation = .setDelay then u.delay else s.delay) = u.delay := by
    split
    · rfl
    · next other => exact (delay other).symm
  have kept' : (if ins.operation = .setSound then u.sound else s.sound) = u.sound := by
    split
    · rfl
    · next other => exact (sound other).symm
  refine execute_eq_ok_iff_perform.2 ⟨found, _, dressed, ?_⟩
  simp only [kept, kept']

theorem execute_of_no_random {ρ' : Type} [RandomSource ρ']
    (done : s.execute r = (.ok ins t, after)) (still : ins.operation ≠ .random) (q : ρ') :
    s.execute q = (.ok ins t, q) := by
  obtain ⟨found, u, performed, rfl⟩ := execute_eq_ok_iff_perform.1 done
  have other := perform_of_no_random (s := s) (r := r) still q
  rw [performed] at other
  exact execute_eq_ok_iff_perform.2 ⟨found, u, other, rfl⟩

end Execute

end State

end Chip8

import Chip8.Proofs.Footprint

/-! Blocks between registers and memory. Fx55 writes the first registers to memory and Fx65 reads
them from there, and each undoes the other where the block lies; Fx33 writes a register as three
decimal digits, from which it can be computed again. A block that would pass the end of memory is
refused as a whole. -/
namespace Chip8

namespace Registers

variable {v : Registers}

theorem byte_replaceFirst_of_lt {count : Nat} {block : List UInt8} {y : Fin 16}
    (covered : y.val < block.length) : (v.replaceFirst count block).byte y = block[y.val] := by
  simp only [replaceFirst, ofList, toList, byte, Array.getD_eq_getD_getElem?,
    List.getElem?_toArray, List.getElem?_append_left covered, List.getElem?_eq_getElem covered,
    Option.getD_some]

theorem Full.length_take (full : v.Full) (x : Fin 16) :
    (v.toList.take (x.val + 1)).length = x.val + 1 := by
  have size : v.toList.length = 16 := full
  rw [List.length_take, size]
  omega

theorem Full.getElem_take (full : v.Full) {x k : Fin 16}
    (covered : k.val < (v.toList.take (x.val + 1)).length) :
    (v.toList.take (x.val + 1))[k.val] = v.byte k := by
  have inside : k.val < v.bytes.size := by
    have size : v.bytes.size = 16 := full
    omega
  rw [List.getElem_take, byte, Array.getD_eq_getD_getElem?, Array.getElem?_eq_getElem inside]
  rfl

end Registers

theorem decimal_digits (b : UInt8) :
    (b / 100).toNat ≤ 9 ∧ (b / 10 % 10).toNat ≤ 9 ∧ (b % 10).toNat ≤ 9 ∧
      100 * (b / 100).toNat + 10 * (b / 10 % 10).toNat + (b % 10).toNat = b.toNat := by
  have byte := b.toNat_lt
  have hundreds : (b / 100).toNat = b.toNat / 100 := UInt8.toNat_div b 100
  have tens : (b / 10 % 10).toNat = b.toNat / 10 % 10 := by
    rw [UInt8.toNat_mod, UInt8.toNat_div]
    rfl
  have ones : (b % 10).toNat = b.toNat % 10 := UInt8.toNat_mod b 10
  omega

namespace State

variable {s : State} {ins : Instruction}

/-- `t` is `s` with V0 to Vx stored from I on, and I behind them. -/
structure Saved (x : Fin 16) (s t : State) : Prop where
  block : ∀ k ≤ x, t.memory.byteAt (s.i.toNat + k.val) = s.v.byte k
  others : ∀ a : Nat, a < s.i ∨ s.i + x.val < a → t.memory.byteAt a = s.memory.byteAt a
  rest : t = { s with
    memory := t.memory, i := s.i + x.val + 1, pc := (s.pc + 2) % 0x10000 }

/-- `t` is `s` with V0 to Vx loaded from I on, and I behind them. -/
structure Restored (x : Fin 16) (s t : State) : Prop where
  full : t.v.Full
  block : ∀ k ≤ x, t.v.byte k = s.memory.byteAt (s.i.toNat + k.val)
  others : ∀ k, x < k → t.v.byte k = s.v.byte k
  rest : t = { s with v := t.v, i := s.i + x.val + 1, pc := (s.pc + 2) % 0x10000 }

theorem refusal?_of_past {count : Nat} (length : ins.blockLength? = some count)
    (past : 0x1000 < s.i + count) : s.refusal? ins = some (.pastEnd count s.i) := by
  have refused : s.blockRefusal? count = some (.pastEnd count s.i) := if_pos past
  obtain ⟨op, word⟩ := ins
  cases op with
  | draw =>
    cases length
    rw [refusal?, spriteRefusal?, refused, Option.some_or]
  | decimal | save | restore =>
    cases length
    exact refused
  | _ => cases length

theorem blockRefusal?_of_fits {count : Nat} (fits : s.i + count ≤ 0x1000) :
    s.blockRefusal? count = none := if_neg (Int.not_lt.2 fits)

theorem WellFormed.moved (whole : s.WellFormed) (memory : Memory 0x1000) {v : Registers}
    (full : v.Full) {i : Int} (low : 0 ≤ i) (high : i ≤ 0xFFFF) :
    WellFormed { s with memory, v, i, pc := (s.pc + 2) % 0x10000 } where
  full := full
  sp_nonneg := whole.sp_nonneg
  sp_le := whole.sp_le
  i_nonneg := low
  i_le := high
  pc_nonneg := Int.emod_nonneg _ (by decide)
  pc_le := by
    have := Int.emod_lt_of_pos (s.pc + 2) (show 0 < 0x10000 by decide)
    show (s.pc + 2) % 0x10000 ≤ 0xFFFF
    omega

theorem Restored.memory {x : Fin 16} {t : State} (restored : Restored x s t) :
    t.memory = s.memory := by rw [restored.rest]

theorem Restored.index {x : Fin 16} {t : State} (restored : Restored x s t) :
    t.i = s.i + x.val + 1 := by rw [restored.rest]

theorem Saved.wellFormed {x : Fin 16} {t : State} (saved : Saved x s t) (whole : s.WellFormed)
    {v : Registers} (full : v.Full) : WellFormed { t with v, i := s.i } := by
  rw [saved.rest]
  exact whole.moved t.memory full whole.i_nonneg whole.i_le

theorem Restored.wellFormed {x : Fin 16} {t : State} (restored : Restored x s t)
    (whole : s.WellFormed) : WellFormed { t with i := s.i } := by
  rw [restored.rest]
  exact whole.moved s.memory restored.full whole.i_nonneg whole.i_le

section Transfers

variable {ρ : Type} [RandomSource ρ] (whole : s.WellFormed)
include whole

theorem WellFormed.perform_past {count : Nat} (length : ins.blockLength? = some count)
    (past : 0x1000 < s.i + count) (r : ρ) :
    perform ins s r = (.error (.pastEnd count s.i) s, r) := by
  rw [perform_eq whole, refusal?_of_past length past]

theorem WellFormed.perform_save (saves : ins.operation = .save)
    (fits : s.i + ins.x.val + 1 ≤ 0x1000) (r : ρ) : perform ins s r = (.ok () { s with
      memory := s.memory.overwrite s.i.toNat (s.v.toList.take (ins.x.val + 1))
      i := s.i + ins.x.val + 1, pc := (s.pc + 2) % 0x10000 }, r) := by
  have low := whole.i_nonneg
  have allowed : s.refusal? ins = none := by
    rw [refusal?, saves]
    exact blockRefusal?_of_fits (by omega)
  have unmasked : (s.i + (ins.x.val + 1 : Nat)) % 0x10000 = s.i + ins.x.val + 1 := by omega
  obtain ⟨op, word⟩ := ins
  cases saves
  rw [perform_eq whole, allowed, ← unmasked]
  rfl

theorem WellFormed.perform_restore (restores : ins.operation = .restore)
    (fits : s.i + ins.x.val + 1 ≤ 0x1000) (r : ρ) : perform ins s r = (.ok () { s with
      v := s.v.replaceFirst (ins.x.val + 1)
        ((List.range (ins.x.val + 1)).map fun k => s.memory.byteAt (s.i.toNat + k))
      i := s.i + ins.x.val + 1, pc := (s.pc + 2) % 0x10000 }, r) := by
  have low := whole.i_nonneg
  have block : s.readAtIndex (ins.x.val + 1) = _ := readAtIndex_of_fits low (by omega)
  have allowed : s.refusal? ins = none := by
    rw [refusal?, restores]
    exact blockRefusal?_of_fits (by omega)
  have unmasked : (s.i + (ins.x.val + 1 : Nat)) % 0x10000 = s.i + ins.x.val + 1 := by omega
  obtain ⟨op, word⟩ := ins
  cases restores
  rw [perform_eq whole, allowed, ← unmasked, ← block]
  rfl

theorem WellFormed.perform_decimal (writes : ins.operation = .decimal)
    (fits : s.i + 3 ≤ 0x1000) (r : ρ) : perform ins s r = (.ok () { s with
      memory := s.memory.overwrite s.i.toNat
        [s.v.byte ins.x / 100, s.v.byte ins.x / 10 % 10, s.v.byte ins.x % 10]
      pc := (s.pc + 2) % 0x10000 }, r) := by
  have allowed : s.refusal? ins = none := by
    rw [refusal?, writes]
    exact blockRefusal?_of_fits fits
  obtain ⟨op, word⟩ := ins
  cases writes
  rw [perform_eq whole, allowed]
  rfl

theorem WellFormed.saved (saves : ins.operation = .save) (fits : s.i + ins.x.val + 1 ≤ 0x1000)
    (r : ρ) : ∃ t, perform ins s r = (.ok () t, r) ∧ Saved ins.x s t := by
  have low := whole.i_nonneg
  have length := whole.full.length_take ins.x
  refine ⟨_, whole.perform_save saves fits r, fun k within => ?_, fun a outside => ?_, rfl⟩
  · rw [s.memory.byteAt_overwrite_add (by omega) (by omega), whole.full.getElem_take]
  · exact s.memory.byteAt_overwrite (by omega)

theorem WellFormed.restored (restores : ins.operation = .restore)
    (fits : s.i + ins.x.val + 1 ≤ 0x1000) (r : ρ) :
    ∃ t, perform ins s r = (.ok () t, r) ∧ Restored ins.x s t := by
  have length : ((List.range (ins.x.val + 1)).map
      fun k => s.memory.byteAt (s.i.toNat + k)).length = ins.x.val + 1 := by
    rw [List.length_map, List.length_range]
  refine ⟨_, whole.perform_restore restores fits r, ?_, fun k within => ?_, fun k behind => ?_, rfl⟩
  · exact whole.full.replaceFirst (by omega) length
  · have covered : k.val < ins.x.val + 1 := by omega
    rw [Registers.byte_replaceFirst_of_lt (by omega), List.getElem_map, List.getElem_range]
  · exact Registers.byte_replaceFirst length (by omega)

theorem WellFormed.save_then_restore {save restore : Instruction} (saves : save.operation = .save)
    (restores : restore.operation = .restore) (same : restore.x = save.x)
    (fits : s.i + save.x.val + 1 ≤ 0x1000) (r q : ρ) :
    ∃ t, perform save s r = (.ok () t, r) ∧ Saved save.x s t ∧ ∀ v : Registers, v.Full →
      ∃ u, perform restore { t with v, i := s.i } q = (.ok () u, q) ∧
        (∀ k, u.v.byte k = if k ≤ save.x then s.v.byte k else v.byte k) ∧
        u.memory = t.memory ∧ u.i = s.i + save.x.val + 1 := by
  obtain ⟨t, done, saved⟩ := whole.saved saves fits r
  refine ⟨t, done, saved, fun v full => ?_⟩
  obtain ⟨u, undone, restored⟩ :=
    (saved.wellFormed whole full).restored restores (by rw [same]; exact fits) q
  rw [same] at restored
  refine ⟨u, undone, fun k => ?_, restored.memory, restored.index⟩
  split
  · next within => exact (restored.block k within).trans (saved.block k within)
  · next behind => exact restored.others k (Fin.not_le.1 behind)

theorem WellFormed.restore_then_save {restore save : Instruction}
    (restores : restore.operation = .restore) (saves : save.operation = .save)
    (same : save.x = restore.x) (fits : s.i + restore.x.val + 1 ≤ 0x1000) (r q : ρ) :
    ∃ t, perform restore s r = (.ok () t, r) ∧ Restored restore.x s t ∧
      ∃ u, perform save { t with i := s.i } q = (.ok () u, q) ∧ u.memory = s.memory := by
  have low := whole.i_nonneg
  obtain ⟨t, done, restored⟩ := whole.restored restores fits r
  obtain ⟨u, undone, saved⟩ :=
    (restored.wellFormed whole).saved saves (by rw [same]; exact fits) q
  rw [same] at saved
  refine ⟨t, done, restored, u, undone, Memory.ext_byteAt fun a inside => ?_⟩
  by_cases outside : a < s.i ∨ s.i + restore.x.val < a
  · rw [saved.others a outside, restored.memory]
  · have place : a = s.i.toNat + (a - s.i.toNat) := by omega
    have within : (⟨a - s.i.toNat, by omega⟩ : Fin 16) ≤ restore.x := by
      rw [Fin.le_def]
      show a - s.i.toNat ≤ restore.x.val
      omega
    rw [place]
    exact (saved.block _ within).trans (restored.block _ within)

theorem WellFormed.decimal_then_restore {decimal restore : Instruction}
    (writes : decimal.operation = .decimal) (restores : restore.operation = .restore)
    (three : restore.x.val = 2) (fits : s.i + 3 ≤ 0x1000) (r q : ρ) :
    ∃ t, perform decimal s r = (.ok () t, r) ∧ t.i = s.i ∧
      ∃ u, perform restore t q = (.ok () u, q) ∧ ∃ hundreds tens ones,
        u.v.toList.take 3 = [hundreds, tens, ones] ∧
        hundreds.toNat ≤ 9 ∧ tens.toNat ≤ 9 ∧ ones.toNat ≤ 9 ∧
        100 * hundreds.toNat + 10 * tens.toNat + ones.toNat = (s.v.byte decimal.x).toNat := by
  have low := whole.i_nonneg
  let b := s.v.byte decimal.x
  let memory := s.memory.overwrite s.i.toNat [b / 100, b / 10 % 10, b % 10]
  have stored (k : Nat) (inside : k < 3) :
      memory.byteAt (s.i.toNat + k) = [b / 100, b / 10 % 10, b % 10][k] :=
    s.memory.byteAt_overwrite_add (by simp only [List.length_cons, List.length_nil]; omega) inside
  have read : (List.range (restore.x.val + 1)).map (fun k => memory.byteAt (s.i.toNat + k)) =
      [b / 100, b / 10 % 10, b % 10] := by
    refine List.ext_getElem (by simp [three]) fun k _ inside => ?_
    rw [List.getElem_map, List.getElem_range]
    exact stored k inside
  have moved := whole.moved memory whole.full low whole.i_le
  refine ⟨_, whole.perform_decimal writes fits r, rfl, _,
    moved.perform_restore restores (show s.i + restore.x.val + 1 ≤ 0x1000 by omega) q, _, _, _, ?_,
    decimal_digits b⟩
  show List.take 3 (_ ++ _) = _
  rw [read]
  rfl

/-- Fx55 and Fx65 undo each other where the block lies, up to the last byte of memory and with any
registers in between, and Fx33 can be read back through Fx65. A block that would pass the end is
refused, and nothing has changed then. -/
theorem WellFormed.transfers_round_trip (x : Fin 16) (r q : ρ) :
    (∀ save restore : Instruction, save.operation = .save → save.x = x →
      restore.operation = .restore → restore.x = x → s.i + x.val + 1 ≤ 0x1000 →
      (∃ t, perform save s r = (.ok () t, r) ∧ Saved x s t ∧ ∀ v : Registers, v.Full →
        ∃ u, perform restore { t with v, i := s.i } q = (.ok () u, q) ∧
          (∀ k, u.v.byte k = if k ≤ x then s.v.byte k else v.byte k) ∧
          u.memory = t.memory ∧ u.i = s.i + x.val + 1) ∧
      ∃ t, perform restore s r = (.ok () t, r) ∧ Restored x s t ∧
        ∃ u, perform save { t with i := s.i } q = (.ok () u, q) ∧ u.memory = s.memory) ∧
    (∀ decimal restore : Instruction, decimal.operation = .decimal → decimal.x = x →
      restore.operation = .restore → restore.x.val = 2 → s.i + 3 ≤ 0x1000 →
      ∃ t, perform decimal s r = (.ok () t, r) ∧ t.i = s.i ∧
        ∃ u, perform restore t q = (.ok () u, q) ∧ ∃ hundreds tens ones,
          u.v.toList.take 3 = [hundreds, tens, ones] ∧
          hundreds.toNat ≤ 9 ∧ tens.toNat ≤ 9 ∧ ones.toNat ≤ 9 ∧
          100 * hundreds.toNat + 10 * tens.toNat + ones.toNat = (s.v.byte x).toNat) ∧
    ∀ (ins : Instruction) (count : Nat), ins.x = x →
      (ins.operation = .save ∨ ins.operation = .restore) ∧ count = x.val + 1 ∨
        ins.operation = .decimal ∧ count = 3 →
      0x1000 < s.i + count → perform ins s r = (.error (.pastEnd count s.i) s, r) := by
  refine ⟨?_, ?_, ?_⟩
  · rintro save restore saves rfl restores same fits
    refine ⟨whole.save_then_restore saves restores same fits r q, ?_⟩
    rw [← same] at fits ⊢
    exact whole.restore_then_save restores saves same.symm fits r q
  · rintro decimal restore writes rfl restores three fits
    exact whole.decimal_then_restore writes restores three fits r q
  · rintro ins count rfl transfer past
    refine whole.perform_past ?_ past r
    unfold Instruction.blockLength?
    obtain ⟨operation | operation, rfl⟩ | ⟨operation, rfl⟩ := transfer <;> rw [operation]

end Transfers

def brimming : State := { initial with v := .ofList ((List.range 16).map UInt8.ofNat), i := 0xFF0 }

theorem brimming_comes_back : brimming.WellFormed ∧
    ∃ t, perform ⟨.save, 0xFF55⟩ brimming (Script.ofArray #[]) = (.ok () t, Script.ofArray #[]) ∧
      t.i = 0x1000 ∧ t.memory.byteAt 0xFFF = 15 ∧
      ∃ u, perform ⟨.restore, 0xFF65⟩ { t with v := .zeros, i := 0xFF0 } (Script.ofArray #[]) =
          (.ok () u, Script.ofArray #[]) ∧ u.v.byte Registers.flag = 15 := by
  have whole : brimming.WellFormed := by
    constructor
    · rfl
    all_goals decide
  have last : (Instruction.mk .save 0xFF55).x = Registers.flag := by decide
  have same : (Instruction.mk .restore 0xFF65).x = Registers.flag := by decide
  obtain ⟨t, done, saved, back⟩ := ((whole.transfers_round_trip Registers.flag
    (Script.ofArray #[]) (Script.ofArray #[])).1 ⟨.save, 0xFF55⟩ ⟨.restore, 0xFF65⟩ rfl last rfl
      same (by decide)).1
  obtain ⟨u, undone, bytes, _⟩ := back .zeros Registers.full_zeros
  refine ⟨whole, t, done, congrArg State.i saved.rest,
    saved.block Registers.flag (Fin.le_refl _), u, undone, ?_⟩
  rw [bytes]
  rfl

end State

end Chip8

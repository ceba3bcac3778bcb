import Chip8.Proofs.Blocks
import Chip8.Proofs.Cycle

/-! Loads in a row. An image that fits replaces the bytes from the start of the programs on, as many
as it has, and is remembered; one that does not fit changes nothing. So a byte up there is the one
that the latest image gave it that fitted and was long enough, and no byte below is ever changed. -/
namespace Chip8

/-- A program given as bytes, with the name that it is to be known by. -/
structure Image where
  bytes : List UInt8
  name : CodePoints

namespace Image

variable {ρ κ : Type}

def program (image : Image) : Program :=
  ⟨if image.name.isEmpty then Session.plainName else image.name, image.bytes.length, none⟩

/-- The byte that an image gives an address, if it fits and reaches so far. -/
def byte? (image : Image) (a : Nat) : Option UInt8 :=
  if image.bytes.length ≤ 3584 ∧ 0x200 ≤ a then image.bytes[a - 0x200]? else none

/-- `k` is `m` with the image in its memory, and remembers `p` for it. -/
structure Laid (image : Image) (m k : Session ρ κ) (p : Program) : Prop where
  size : p.size = image.bytes.length
  finish : p.finish = 0x1FF + image.bytes.length
  finish_le : p.finish ≤ 0xFFF
  program : k.program = some p
  covered : ∀ i, (inside : i < image.bytes.length) →
    k.state.memory.byteAt (0x200 + i) = image.bytes[i]
  kept : ∀ a, a < 0x200 ∨ 0x200 + image.bytes.length ≤ a →
    k.state.memory.byteAt a = m.state.memory.byteAt a
  rest : k = { m with
    state := { m.state with memory := k.state.memory }, program := k.program }

end Image

namespace Session

variable {ρ κ : Type}

def loadAll (m : Session ρ κ) (images : List Image) : Session ρ κ :=
  images.foldl (fun m image => (m.loadImage image.bytes image.name).2) m

theorem loadImage_of_fits (m : Session ρ κ) {image : Image} (fits : image.bytes.length ≤ 3584) :
    m.loadImage image.bytes image.name = (.ok image.program,
      { m with
        state := { m.state with memory := m.state.memory.overwrite 0x200 image.bytes }
        program := some image.program }) := by
  simp only [loadImage, load_of_fits m _ _ fits]
  rfl

theorem loadImage_of_large (m : Session ρ κ) {image : Image} (large : 3584 < image.bytes.length) :
    m.loadImage image.bytes image.name =
      (.error (.program (.tooLarge image.bytes.length)), m) := by
  have refused : Program.place m.state.memory image.bytes =
      .error (.tooLarge image.bytes.length) := if_pos large
  simp only [loadImage, load, refused]
  rfl

theorem laid_loadImage (m : Session ρ κ) {image : Image} (fits : image.bytes.length ≤ 3584) :
    image.Laid m (m.loadImage image.bytes image.name).2 image.program := by
  have finish : image.program.finish = 0x1FF + image.bytes.length := by
    simp only [Program.finish, Program.start, State.programStart, Image.program]
    omega
  rw [loadImage_of_fits m fits]
  exact {
    size := rfl
    finish
    finish_le := by omega
    program := rfl
    covered := fun i inside => m.state.memory.byteAt_overwrite_add (by omega) inside
    kept := fun a outside => m.state.memory.byteAt_overwrite outside
    rest := rfl }

theorem byteAt_loadImage (m : Session ρ κ) (image : Image) {a : Nat} (inside : a < 0x1000) :
    (m.loadImage image.bytes image.name).2.state.memory.byteAt a =
      (image.byte? a).getD (m.state.memory.byteAt a) := by
  unfold Image.byte?
  by_cases fits : image.bytes.length ≤ 3584
  · rw [loadImage_of_fits m fits]
    simp only [fits, true_and]
    exact m.state.memory.byteAt_overwrite_of_inside 0x200 image.bytes inside
  · rw [loadImage_of_large m (Nat.lt_of_not_le fits), if_neg (fun both => fits both.1),
      Option.getD_none]

theorem byteAt_loadAll (m : Session ρ κ) (images : List Image) {a : Nat} (inside : a < 0x1000) :
    (m.loadAll images).state.memory.byteAt a =
      images.foldl (fun b image => (image.byte? a).getD b) (m.state.memory.byteAt a) := by
  induction images generalizing m with
  | nil => rfl
  | cons image rest ih =>
    rw [loadAll, List.foldl_cons, ← loadAll, ih, List.foldl_cons, byteAt_loadImage m image inside]

/-- Every load of a row puts its image into memory as a whole, or refuses it for its size and
changes nothing. In the end each byte is the one that the latest image gave it, and those below the
programs are what they were. -/
theorem loads_lay_or_refuse (m : Session ρ κ) (images : List Image) :
    Program.start = 0x200 ∧
    (∀ earlier image later, images = earlier ++ image :: later →
      let before := m.loadAll earlier
      let load := before.loadImage image.bytes image.name
      (image.bytes.length ≤ 3584 →
        load.1 = .ok image.program ∧ image.Laid before load.2 image.program) ∧
      (3584 < image.bytes.length → load.2 = before ∧
        ∃ fault : Program.Fault, load.1 = .error (.program fault) ∧
          fault = .tooLarge image.bytes.length ∧
          fault.message = s!"ROM is {image.bytes.length} bytes, limit is {3584}") ∧
      ∀ cause, load.1 ≠ .error (.program (.memory cause))) ∧
    (∀ a < 0x200, (m.loadAll images).state.memory.byteAt a = m.state.memory.byteAt a) ∧
    ∀ a, 0x200 ≤ a → a < 0x1000 →
      (∀ image ∈ images, image.byte? a = none) ∧
          (m.loadAll images).state.memory.byteAt a = m.state.memory.byteAt a ∨
        ∃ earlier image later b, images = earlier ++ image :: later ∧ image.byte? a = some b ∧
          (∀ other ∈ later, other.byte? a = none) ∧
          (m.loadAll images).state.memory.byteAt a = b := by
  refine ⟨rfl, ?_, ?_, ?_⟩
  · intro earlier image later _ before load
    by_cases fits : image.bytes.length ≤ 3584
    · have loaded : load = _ := loadImage_of_fits before fits
      refine ⟨fun _ => ⟨congrArg Prod.fst loaded, laid_loadImage before fits⟩,
        fun large => absurd fits (Nat.not_le_of_lt large), fun cause failed => ?_⟩
      rw [loaded] at failed
      cases failed
    · have refused : load = _ := loadImage_of_large before (Nat.lt_of_not_le fits)
      refine ⟨fun small => absurd small fits, fun _ => ?_, fun cause failed => ?_⟩
      · rw [refused]
        exact ⟨rfl, _, rfl, rfl, rfl⟩
      · rw [refused] at failed
        cases failed
  · intro a below
    rw [byteAt_loadAll m images (by omega)]
    obtain ⟨_, same⟩ | ⟨_, image, _, b, _, given, _⟩ :=
      foldl_latest (fun image : Image => image.byte? a) images (m.state.memory.byteAt a)
    · exact same
    · rw [Image.byte?, if_neg (fun both => by omega)] at given
      cases given
  · intro a _ inside
    rw [byteAt_loadAll m images inside]
    exact foldl_latest (fun image : Image => image.byte? a) images (m.state.memory.byteAt a)

def largest : Image := ⟨List.replicate 3584 0x1F, []⟩

theorem largest_laid :
    let m : Session Script Unit := start (Script.ofArray #[]) ()
    largest.Laid m (m.loadImage largest.bytes largest.name).2 largest.program := by
  intro m
  have fits : largest.bytes.length ≤ 3584 := Nat.le_of_eq List.length_replicate
  exact (((loads_lay_or_refuse m [largest]).2.1 [] largest [] rfl).1 fits).2

end Session

end Chip8

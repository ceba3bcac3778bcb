/-! Hexadecimal numerals as they are printed: digit values most significant first, letters
in one case, zeros in front up to a width. -/
namespace Chip8.Hex

/-- The digit values of `n`, most significant first; zero has the single digit 0. -/
def digits (n : Nat) : List Nat :=
  if n < 16 then [n] else digits (n / 16) ++ [n % 16]
termination_by n
decreasing_by omega

theorem digits_lt_sixteen (n : Nat) : ∀ d ∈ digits n, d < 16 := by
  induction n using digits.induct with
  | case1 n small => rw [digits]; simp [small]
  | case2 n large ih =>
    rw [digits]
    simp only [large, if_false, List.mem_append, List.mem_singleton]
    rintro d (inner | rfl)
    · exact ih d inner
    · omega

def value (ds : List Nat) : Nat :=
  ds.foldl (fun total d => 16 * total + d) 0

theorem value_append_digit (ds : List Nat) (d : Nat) :
    value (ds ++ [d]) = 16 * value ds + d := by
  simp [value]

theorem value_digits (n : Nat) : value (digits n) = n := by
  induction n using digits.induct with
  | case1 n small => rw [digits]; simp [small, value]
  | case2 n large ih =>
    rw [digits]
    simp only [large, if_false, value_append_digit, ih]
    omega

def lowerDigit (d : Nat) : Char :=
  if d < 10 then Char.ofNat (48 + d) else Char.ofNat (87 + d)

def upperDigit (d : Nat) : Char :=
  if d < 10 then Char.ofNat (48 + d) else Char.ofNat (55 + d)

/-- Zeros in front of `cs` until it is `width` long; a longer text stays as it is. -/
def fill (width : Nat) (cs : List Char) : List Char :=
  List.replicate (width - cs.length) '0' ++ cs

theorem length_fill (width : Nat) (cs : List Char) :
    (fill width cs).length = max width cs.length := by
  simp only [fill, List.length_append, List.length_replicate]
  omega

def upper (width n : Nat) : String :=
  String.ofList (fill width ((digits n).map upperDigit))

def lower (width n : Nat) : String :=
  String.ofList (fill width ((digits n).map lowerDigit))

/-- Upper-case digits of an integer, the sign counted into the width. -/
def upperSigned (width : Nat) (i : Int) : String :=
  if i < 0 then "-" ++ upper (width - 1) i.natAbs else upper width i.natAbs

/-- A numeral tagged `0x`, in lower case; sign and tag count into the width. -/
def tagged (width : Nat) (i : Int) : String :=
  if i < 0 then "-0x" ++ lower (width - 3) i.natAbs else "0x" ++ lower (width - 2) i.natAbs

def byte (b : UInt8) : String :=
  upper 2 b.toNat

example : upper 3 0x2F = "02F" := by decide +kernel
example : tagged 5 (-1) = "-0x01" := by decide +kernel
example : tagged 6 0x15001 = "0x15001" := by decide +kernel

end Chip8.Hex

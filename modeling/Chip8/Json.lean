import Chip8.Number
import Chip8.Text.CodePoints

/-! Values of the data format JSON. Objects keep their members in order, each name once. -/
namespace Chip8

inductive Json
  | null
  | truth (b : Bool)
  | number (n : Number)
  | text (t : CodePoints)
  | list (items : List Json)
  | object (members : List (CodePoints × Json))

namespace Json

/-- Adds a member. A name that is there already keeps its place and gets the new value. -/
def setMember (members : List (CodePoints × Json)) (name : CodePoints) (value : Json) :
    List (CodePoints × Json) :=
  match members with
  | [] => [(name, value)]
  | (known, old) :: rest =>
    if known = name then (known, value) :: rest else (known, old) :: setMember rest name value

def ofMembers (written : List (CodePoints × Json)) : Json :=
  .object (written.foldl (fun members (name, value) => setMember members name value) [])

theorem setMember_names (members : List (CodePoints × Json)) (name : CodePoints) (value : Json) :
    (setMember members name value).map Prod.fst =
      if name ∈ members.map Prod.fst then members.map Prod.fst
      else members.map Prod.fst ++ [name] := by
  induction members with
  | nil => simp [setMember]
  | cons first rest ih =>
    obtain ⟨known, old⟩ := first
    simp only [setMember]
    split
    · next same => simp [same]
    · next other =>
      have apart : name ≠ known := fun h => other h.symm
      simp only [List.map_cons, ih, List.mem_cons, apart, false_or]
      split <;> simp

end Json

end Chip8

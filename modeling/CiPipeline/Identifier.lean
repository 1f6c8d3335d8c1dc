/-!
# Identifier — random identifiers as texts

An identifier carries 122 free bits.  It is written as 32 hexadecimal digits in groups of 8, 4, 4, 4
and 12, of which the thirteenth names the version and the seventeenth begins with the variant.

* `Identifier.digits`: hexadecimal digits of a fixed count;
* `Identifier.ofNat`: the identifier with the given bits;
* `IdSupply`: the identifiers that are drawn while something is made;
* `IdSupply.ofSeed`: a supply from one random number.
-/

namespace CiPipeline
namespace Identifier

/-- The last `count` hexadecimal digits of a number. -/
def digits (n : Nat) : Nat → List Char
  | 0 => []
  | count + 1 => digits (n / 16) count ++ [Nat.digitChar (n % 16)]

/-- Identifiers of random numbers have this version. -/
def version : Char := '4'

/-- The two bits in front of the fourth group. -/
def variant : Nat := 0x8000

/-- The groups of an identifier, from the highest of its bits to the lowest. -/
def groups (n : Nat) : List (List Char) :=
  [digits (n / Nat.pow 2 90) 8, digits (n / Nat.pow 2 74) 4, version :: digits (n / Nat.pow 2 62) 3,
    digits (variant + n / Nat.pow 2 48 % Nat.pow 2 14) 4, digits n 12]

def ofNat (n : Nat) : String := String.ofList (['-'].intercalate (groups n))

end Identifier

/-- Identifiers to be drawn.  What is made consists of parts with numbers, which consist of parts in
turn, so each thing that is made has a place; the supply has an identifier for each of them. -/
def IdSupply : Type := List Nat → String

namespace IdSupply

/-- The identifier of the thing itself. -/
def drawn (ids : IdSupply) : String := ids []

/-- The supply of a part. -/
def part (ids : IdSupply) (n : Nat) : IdSupply := fun place => ids (n :: place)

/-- Items in their order, each with a supply of its own. -/
def among {α : Type} (ids : IdSupply) (items : List α) : List (α × IdSupply) :=
  items.zipIdx.map fun (item, n) => (item, ids.part n)

theorem getElem?_among {α : Type} (ids : IdSupply) (items : List α) (i : Nat) :
    (ids.among items)[i]? = items[i]?.map fun item => (item, ids.part i) := by
  simp [among, Function.comp_def]

@[simp] theorem map_fst_among {α : Type} (ids : IdSupply) (items : List α) :
    (ids.among items).map Prod.fst = items := by
  simp [among, Function.comp_def]

/-- What is made of items whatever their supplies is made of them again with another supply. -/
theorem map_among_eq {α β : Type} {f : α → IdSupply → β}
    (same : ∀ item ids ids', f item ids = f item ids') (ids ids' : IdSupply) (items : List α) :
    (ids.among items).map (fun item => f item.1 item.2) =
      (ids'.among items).map (fun item => f item.1 item.2) := by
  refine List.ext_getElem? fun i => ?_
  simp only [List.getElem?_map, getElem?_among]
  cases items[i]? with
  | none => rfl
  | some item => exact congrArg some (same item _ _)

/-- Pairs of numbers are counted along the diagonals. -/
def pair (m n : Nat) : Nat := (m + n) * (m + n + 1) / 2 + n

/-- Places are counted on from the seed. -/
def ofSeed (seed : Nat) : IdSupply :=
  fun place => Identifier.ofNat (seed + place.foldr (fun n rest => pair n rest + 1) 0)

end IdSupply
end CiPipeline

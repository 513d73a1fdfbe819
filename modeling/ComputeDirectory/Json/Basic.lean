import ComputeDirectory.Binary64.Basic
import ComputeDirectory.Text.Basic

/-!
# JSON values

Two decisions are made here for the whole library. A number written with a point or an exponent is
a binary64 number, any other number is an integer of any size, and the two are different values.
The members of an object keep their order, and a name that is given twice keeps its place and the
value given last.

Not every value can be written out: a writer gives up on halves of surrogate pairs and on integers
of too many digits, and a strict one on numbers that are not finite.
-/

namespace ComputeDirectory

/-- A JSON value. -/
inductive Json
  | null
  | bool (value : Bool)
  | int (value : Int)
  | float (value : Binary64)
  | str (value : Text)
  | arr (items : List Json)
  | obj (members : List (Text × Json))
  deriving Inhabited, Repr, BEq

namespace Json

/-- Sets a member: in the place that the name has, or at the end. -/
def setMember (name : Text) (value : Json) : List (Text × Json) → List (Text × Json)
  | [] => [(name, value)]
  | (other, v) :: rest =>
    if other = name then (name, value) :: rest else (other, v) :: setMember name value rest

/-- The member of that name among the members of an object. -/
def member? (name : Text) (members : List (Text × Json)) : Option Json :=
  (members.find? (·.1 = name)).map Prod.snd

/-- The member of that name, when the value is an object that has one. -/
def get? (name : Text) : Json → Option Json
  | .obj members => member? name members
  | _ => none

/-- The item at an index, when the value is an array that has one. -/
def item? (index : Nat) : Json → Option Json
  | .arr items => items[index]?
  | _ => none

/-- Text, or null for its absence. -/
def ofText? : Option Text → Json
  | none => .null
  | some text => .str text

/-- An integer, or null for its absence. -/
def ofInt? : Option Int → Json
  | none => .null
  | some n => .int n

/-- A binary64 number, or null for its absence. -/
def ofFloat? : Option Binary64 → Json
  | none => .null
  | some x => .float x

/-! ## Leaving members out -/

mutual

/-- A value without the members of a kind, at any depth. -/
def without (kind : Text → Bool) : Json → Json
  | .arr items => .arr (itemsWithout kind items)
  | .obj members => .obj (membersWithout kind members)
  | value => value

/-- Items without the members of a kind. -/
def itemsWithout (kind : Text → Bool) : List Json → List Json
  | [] => []
  | item :: items => without kind item :: itemsWithout kind items

/-- Members without those of a kind. -/
def membersWithout (kind : Text → Bool) : List (Text × Json) → List (Text × Json)
  | [] => []
  | (name, value) :: members =>
    if kind name then membersWithout kind members
    else (name, without kind value) :: membersWithout kind members

end

/-! ## What can be written -/

/-- The most digits that an integer may have when it is read or written. -/
def maxDigits : Nat := 4300

/-- The least natural number with too many digits: ten to the power of `maxDigits`, in two steps so
that it evaluates. -/
def tooManyDigitsFrom : Nat := Nat.pow (Nat.pow 10 100) 43

theorem tooManyDigitsFrom_eq : tooManyDigitsFrom = Nat.pow 10 maxDigits := by
  have hdigits : 100 * 43 = maxDigits := by decide
  rw [← hdigits, tooManyDigitsFrom]
  generalize 100 = m
  exact (Nat.pow_mul 10 m 43).symm

/-- Whether an integer has no more digits than are written. -/
def isShort (n : Int) : Bool := n.natAbs < tooManyDigitsFrom

mutual

/-- Whether all numbers of a value pass a test, and all its texts and names are plain. -/
def isMadeOf (test : Binary64 → Bool) : Json → Bool
  | .null | .bool _ => true
  | .int n => isShort n
  | .float x => test x
  | .str text => text.isPlain
  | .arr items => itemsMadeOf test items
  | .obj members => membersMadeOf test members

/-- Whether this holds of all items. -/
def itemsMadeOf (test : Binary64 → Bool) : List Json → Bool
  | [] => true
  | item :: items => isMadeOf test item && itemsMadeOf test items

/-- Whether this holds of all members and their names. -/
def membersMadeOf (test : Binary64 → Bool) : List (Text × Json) → Bool
  | [] => true
  | (name, value) :: members =>
    name.isPlain && isMadeOf test value && membersMadeOf test members

end

/-- Whether a value can be written out. -/
def isWritable (value : Json) : Bool := isMadeOf (fun _ => true) value

/-- Whether a value can be written out by a writer that takes finite numbers only. -/
def isStrict (value : Json) : Bool := isMadeOf Binary64.isFinite value

end Json

end ComputeDirectory

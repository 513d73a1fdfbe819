import ComputeDirectory.Schema.Checked

/-!
# Reading members of records

A `Reader` checks a JSON value. Readers are lenient where clients are: a numeral in text is a
number, a number without fraction is an integer, and a truth value counts as one or zero. A member
that is absent takes its default; a member that is `null` is a value like any other, which only
`nullable` readers accept.
-/

namespace ComputeDirectory.Schema

/-- A check of a JSON value. -/
abbrev Reader (α : Type) := Json → Checked α

/-- A check of the members of an object. -/
abbrev MemberReader (α : Type) := List (Text × Json) → Checked α

/-- Where a value comes from; a value of the wrong kind is described differently. -/
inductive Source
  | row
  | request
  deriving DecidableEq, Repr

namespace Reader

variable {α β : Type}

/-! ## Scalars -/

/-- Text. -/
def text : Reader Text
  | .str s => .valid s
  | _ => .fault .notText

/-- Checks the characters of a text. -/
def plain (check : List Char → Checked α) (s : Text) : Checked α :=
  match s.chars? with
  | some chars => check chars
  | none => .fault .notPlainText

/-- An integer: also a truth value, an integer numeral, or a number without fraction that fits 64
bits with either sign. -/
def integer : Reader Int
  | .int n => .valid n
  | .bool b => .valid (if b then 1 else 0)
  | .float x =>
    if !x.isFinite then .fault .infiniteInteger
    else
      match x.toInt? with
      | none => .fault .fractionalInteger
      | some n =>
        if Text.isWord n && Text.isWord (-n) then .valid n else .fault .oversizedInteger
  | .str s => s |> plain fun chars =>
    match Text.integer chars with
    | .ok n => .valid n
    | .error .tooLong => .fault .oversizedInteger
    | .error .malformed => .fault .unreadableInteger
  | _ => .fault .notAnInteger

/-- A number: also an integer in range, a truth value, or a numeral. -/
def number : Reader Binary64
  | .float x => .valid x
  | .int n =>
    match Binary64.ofInt? n with
    | some x => .valid x
    | none => .fault .notANumber
  | .bool b => .valid (Binary64.ofNat (if b then 1 else 0))
  | .str s => s |> plain fun chars =>
    match Text.real? chars with
    | some x => .valid x
    | none => .fault .unreadableNumber
  | _ => .fault .notANumber

/-- A truth value in words, in any case. -/
def flag : Reader Bool
  | .bool b => .valid b
  | .str s => s |> plain fun chars =>
    let word := String.ofList (chars.map Char.toLower)
    if word ∈ ["1", "on", "t", "true", "y", "yes"] then .valid true
    else if word ∈ ["0", "off", "f", "false", "n", "no"] then .valid false
    else .fault .unreadableFlag
  | _ => .fault .unreadableFlag

/-- The problem with a text that is no timestamp. -/
def timestampTextProblem : Timestamp.Fault → Problem
  | .yearZero => .badTimestamp .yearZero
  | fault => .badTimestampText fault

/-- A timestamp: text, or a number of seconds or milliseconds since the start of 1970. An integer
beyond all binary64 numbers is no such number. -/
def timestamp : Reader Timestamp
  | .str s => s |> plain fun chars =>
    match Timestamp.ofChars chars with
    | .ok t => .valid t
    | .error fault => .fault (timestampTextProblem fault)
  | .int n =>
    if (Binary64.ofInt? n).isNone then .fault .notATimestamp
    else
      match Timestamp.ofUnix n with
      | .ok t => .valid t
      | .error fault => .fault (.badTimestamp fault)
  | .float x =>
    match Timestamp.ofNumber x with
    | .ok t => .valid t
    | .error fault => .fault (.badTimestamp fault)
  | _ => .fault .notATimestamp

/-- One of some named values. -/
def choice (choices : List (String × α)) : Reader α := fun value =>
  let found : Option (String × α) :=
    match value with
    | .str s => choices.find? (s = ·.1)
    | _ => none
  match found with
  | some (_, a) => .valid a
  | none => .fault (.notAChoice (choices.map Prod.fst))

/-! ## Bounds -/

/-- A number that is not below the bound. -/
def atLeast (bound : Nat) (x : Binary64) : Checked Binary64 :=
  if (Binary64.ofNat bound).le x then .valid x else .fault (.below bound)

/-- A number that is not above the bound. -/
def atMost (bound : Nat) (x : Binary64) : Checked Binary64 :=
  if x.le (Binary64.ofNat bound) then .valid x else .fault (.above bound)

/-- A number that is not negative. -/
def nonNegative : Reader Binary64 := fun v => (number v).andThen (atLeast 0)

/-- A number from zero to one hundred. -/
def percentage : Reader Binary64 := fun v =>
  ((number v).andThen (atMost 100)).andThen (atLeast 0)

/-- An integer that is not negative. -/
def naturalInteger : Reader Int := fun v =>
  (integer v).andThen fun n => if 0 ≤ n then .valid n else .fault (.below 0)

/-- An integer above zero. -/
def positiveInteger : Reader Int := fun v =>
  (integer v).andThen fun n => if 0 < n then .valid n else .fault (.notAbove 0)

/-! ## Compounds -/

/-- Null, or what the reader reads. -/
def nullable (read : Reader α) : Reader (Option α)
  | .null => .valid none
  | value => some <$> read value

/-- The items from an index on. -/
def itemsFrom (read : Reader α) : Nat → List Json → Checked (List α)
  | _, [] => .valid []
  | index, item :: rest =>
    List.cons <$> (read item).under (.item index) <*> itemsFrom read (index + 1) rest

/-- A list of what the reader reads. -/
def list (read : Reader α) : Reader (List α)
  | .arr items => itemsFrom read 0 items
  | _ => .fault .notAList

/-- An object; `name` is what its record is called. -/
def record (source : Source) (name : String) (read : MemberReader α) : Reader α
  | .obj members => read members
  | _ =>
    match source with
    | .row => .fault (.notARecord name)
    | .request => .fault .notAnObject

end Reader

namespace MemberReader

variable {α : Type}

/-- A member that must be there. -/
def required (name : String) (read : Reader α) : MemberReader α := fun members =>
  match Json.member? name members with
  | some value => (read value).under (.member name)
  | none => .invalid [⟨[.member name], .missing⟩]

/-- A member with a default. -/
def defaulted (name : String) (default : α) (read : Reader α) : MemberReader α := fun members =>
  match Json.member? name members with
  | some value => (read value).under (.member name)
  | none => .valid default

/-- A time; when it is absent the present moment counts. -/
def stamped (name : String) (now : Moment) : MemberReader Timestamp := fun members =>
  match Json.member? name members with
  | some value => (Reader.timestamp value).under (.member name)
  | none =>
    match Timestamp.ofMoment now with
    | .ok t => .valid t
    | .error fault => .untimed fault

/-- A member that may be absent or null. -/
def optional (name : String) (read : Reader α) : MemberReader (Option α) :=
  defaulted name none (Reader.nullable read)

/-- A member with a second name, which counts when the first is absent. A fault of the value is
shown at the name that was used, a missing member at the first. -/
def requiredOr (name other : String) (read : Reader α) : MemberReader α := fun members =>
  match Json.member? name members with
  | some value => (read value).under (.member name)
  | none =>
    match Json.member? other members with
    | some value => (read value).under (.member other)
    | none => .invalid [⟨[.member name], .missing⟩]

end MemberReader

end ComputeDirectory.Schema

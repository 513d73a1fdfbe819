import ComputeDirectory.Host.Label
import ComputeDirectory.Text.Pieces

/-!
# Names of hosts

The name of a host consists of labels with dots between them; a dot at the end adds no label. Other
scripts have dots of their own. A name with symbols beyond ASCII is written by labels: those beyond
ASCII are coded, the others stay. `encode?` says which names can be written, and how;
`checkWritten` checks that a written name can be told in plain letters again. An address is refused
when its host fails either (`Service.Address.read`, `Service.Address.checkHost`).
-/

namespace ComputeDirectory.Host

/-- Whether a code point is the dot between labels. -/
def isDot (code : Nat) : Bool := [0x2e, 0x3002, 0xff0e, 0xff61].contains code

/-- The labels of a name, and whether a dot follows the last. -/
def labelsOf (codes : List Nat) : List Label × Bool :=
  let pieces := Text.pieces isDot codes
  if pieces.getLast? = some [] then (pieces.dropLast, true) else (pieces, false)

/-- The most characters of a written label. -/
def maxLabel : Nat := 63

/-- The most characters of a written name, a dot at the end apart. -/
def maxName : Nat := 253

/-- Writes a label in ASCII. -/
def encodeLabel? (label : Label) : Option (List Char) :=
  let written :=
    if label.all (· < 0x80) then
      let plain := label.map Char.ofNat
      (Label.checkPlain plain).toOption.map fun _ => plain
    else (Label.check label).toOption.map fun _ => Label.codeMark ++ Punycode.encode label
  written.filter fun text => text.length ≤ maxLabel

/-- Writes a name in ASCII, in small letters. -/
def encode? (name : List Char) : Option (List Char) :=
  let codes := name.flatMap fun c => Text.lowercase c.toNat
  if maxName + 1 < codes.length then none
  else
    let (labels, isDotted) := labelsOf codes
    match labels.mapM encodeLabel? with
    | none | some [] => none
    | some written =>
      let name := List.intercalate ['.'] written
      if maxName < name.length then none else some (if isDotted then name ++ ['.'] else name)

/-- Checks a written name: its labels, coded or not, have to be in order. -/
def checkWritten (name : List Char) : Except Fault Unit :=
  if maxName + 1 < name.length then .error .nameTooLong
  else (labelsOf (name.map Char.toNat)).1.forM fun label => Label.checkPlain (label.map Char.ofNat)

end ComputeDirectory.Host

import ComputeDirectory.Service.Address
import ComputeDirectory.Text.Utf8

/-!
# Targets of requests

The target of a request is what its address means to the service: the segments of the path, and
parameters. Percent signs with two hexadecimal digits stand for octets of UTF-8, in the path and in
the parameters, and a plus sign in the parameters stands for a space. The path is decoded before it
is compared with the routes, so an encoded slash separates segments like a plain one.
-/

namespace ComputeDirectory.Service

/-- What a request is addressed to. -/
structure Target where
  /-- The segments of the path, decoded; the first stands after the leading slash. -/
  segments : List String
  /-- The parameters by name, in the order given. -/
  parameters : List (String × String)
  deriving DecidableEq, Repr

/-- The octets of percent-encoded text; a percent sign without two digits stands for itself. -/
def percentOctets : List Char → List UInt8
  | [] => []
  | '%' :: a :: b :: rest =>
    match Text.hexValue? a, Text.hexValue? b with
    | some x, some y => UInt8.ofNat (16 * x + y) :: percentOctets rest
    | _, _ => '%'.toNat.toUInt8 :: percentOctets (a :: b :: rest)
  | c :: rest => (String.singleton c).toUTF8.toList ++ percentOctets rest

/-- Percent-decodes text. -/
def percentDecoded (text : List Char) : List Char := Text.decodeLossy (percentOctets text)

/-- A name or value of a parameter. -/
def parameterText (text : List Char) : String :=
  String.ofList (percentDecoded (text.map fun c => if c = '+' then ' ' else c))

/-- The parameters of a query; empty pieces are skipped, and a piece without an equals sign has an
empty value. -/
def parametersOf (query : List Char) : List (String × String) :=
  ((splitAt '&' query).filter (!·.isEmpty)).map fun piece =>
    let (name, value) := cutAt '=' piece
    (parameterText name, parameterText value)

namespace Target

/-- The target of a request to an address. -/
def ofAddress (a : Address) : Target :=
  let decoded := (percentDecoded a.requestPath).drop 1
  ⟨(splitAt '/' decoded).map String.ofList, parametersOf a.query⟩

/-- The last value given for a parameter. -/
def parameter? (t : Target) (name : String) : Option String :=
  (t.parameters.reverse.find? (·.1 = name)).map Prod.snd

/-- The target without empty segments at the end of its path. -/
def trimmed (t : Target) : Target :=
  { t with segments := (t.segments.reverse.dropWhile (·.isEmpty)).reverse }

end Target

end ComputeDirectory.Service

import QueryShell.Http.Domain
import QueryShell.Http.Percent
import QueryShell.Json.Printer
import QueryShell.Text.Cut

/-
The host of a URL: a domain name in lower case, or an address of four or of eight numbers in its
usual spelling.
-/
namespace QueryShell.Http

/-- What is wrong with a URL. -/
inductive UrlError where
  | relative
  | emptyHost
  | port
  | ipv4
  | ipv6
  | domainCharacter
  | internationalName
deriving DecidableEq, Repr

/-- The complaint. -/
def UrlError.message : UrlError → String
  | .relative => "relative URL without a base"
  | .emptyHost => "empty host"
  | .port => "invalid port number"
  | .ipv4 => "invalid IPv4 address"
  | .ipv6 => "invalid IPv6 address"
  | .domainCharacter => "invalid domain character"
  | .internationalName => "invalid international domain name"

namespace Host

/-! ## Four numbers -/

/-- The value of a digit in a base. -/
def digitIn? (base : Nat) (c : Char) : Option Nat :=
  (Percent.hexValue? c).filter (· < base)

/-- The value of digits in a base. -/
def numberIn? (base : Nat) (cs : List Char) : Option Nat :=
  cs.foldlM (fun n c => (digitIn? base c).map (n * base + ·)) 0

/-- A part of an address of four numbers: hexadecimal behind `0x`, octal behind `0`, or decimal. -/
def number? : List Char → Option Nat
  | [] => none
  | '0' :: 'x' :: rest | '0' :: 'X' :: rest => numberIn? 16 rest
  | '0' :: c :: rest => numberIn? 8 (c :: rest)
  | cs => numberIn? 10 cs

/-- The parts of a name between dots, without an empty last one. -/
def dotParts (name : List Char) : List (List Char) :=
  let parts := Text.cutAt '.' name
  if parts.getLast? = some [] then parts.dropLast else parts

/-- The last part of a name is a number, so that the name is an address. -/
def endsInNumber (name : List Char) : Bool :=
  match (dotParts name).getLast? with
  | none => false
  | some last => (!last.isEmpty && last.all Char.isDigit) || (number? last).isSome

/-- An address: up to four numbers, the last of which fills all places that are left. -/
def ipv4? (name : List Char) : Option Nat := do
  let parts := dotParts name
  let numbers ← if parts.length ≤ 4 then parts.mapM number? else none
  let last ← numbers.getLast?
  let front := numbers.dropLast
  if front.all (· ≤ 255) && last < Nat.pow 256 (4 - front.length) then
    return front.zipIdx.foldl (fun sum (n, i) => sum + n * Nat.pow 256 (3 - i)) last
  else none

/-- The text of an address. -/
def ipv4Text (address : Nat) : List Char :=
  ['.'].intercalate ([3, 2, 1, 0].map fun i => Json.digits (address / Nat.pow 256 i % 256))

/-! ## Eight numbers -/

/-- A decimal number up to 255 without a leading zero. -/
def octet? (cs : List Char) : Option Nat :=
  match cs with
  | [] | '0' :: _ :: _ => none
  | _ => (numberIn? 10 cs).filter (· ≤ 255)

/-- The two numbers that an address of four numbers stands for inside one of eight. -/
def tail? (cs : List Char) : Option (List Nat) :=
  match (Text.cutAt '.' cs).mapM octet? with
  | some [a, b, c, d] => some [a * 256 + b, c * 256 + d]
  | _ => none

/-- A number of up to four hexadecimal digits. -/
def group? (cs : List Char) : Option Nat :=
  if cs.isEmpty || 4 < cs.length then none else numberIn? 16 cs

/-- The numbers between colons; the last one may be an address of four numbers. -/
def groups? (cs : List Char) : Option (List Nat) :=
  let parts := Text.cutAt ':' cs
  let last := parts.getLastD []
  if last.contains '.' then do
    return (← parts.dropLast.mapM group?) ++ (← tail? last)
  else parts.mapM group?

/-- Cuts a text at its first pair of colons. -/
def cutAtGap : List Char → List Char × Option (List Char)
  | ':' :: ':' :: rest => ([], some rest)
  | c :: rest => let (left, right) := cutAtGap rest; (c :: left, right)
  | [] => ([], none)

/-- An address of eight numbers, where a pair of colons stands for one or more zeros. -/
def ipv6? (cs : List Char) : Option (List Nat) := do
  let side (cs : List Char) : Option (List Nat) := if cs.isEmpty then some [] else groups? cs
  match cutAtGap cs with
  | (left, none) =>
    let groups ← groups? left
    if groups.length = 8 then return groups else none
  | (left, some right) =>
    let front ← if left.contains '.' then none else side left
    let back ← side right
    if front.length + back.length ≤ 7 then
      return front ++ List.replicate (8 - front.length - back.length) 0 ++ back
    else none

/-- The lengths of the runs of zeros that start at each place. -/
def zeroRuns : List Nat → List Nat
  | [] => []
  | 0 :: rest =>
    let runs := zeroRuns rest
    (runs.headD 0 + 1) :: runs
  | _ :: rest => 0 :: zeroRuns rest

/-- The text of an address: the first of the longest runs of two or more zeros is left out. -/
def ipv6Text (groups : List Nat) : List Char :=
  let runs := zeroRuns groups
  let longest := runs.foldl max 0
  let join (gs : List Nat) := [':'].intercalate (gs.map fun g => Nat.toDigits 16 g)
  if longest < 2 then join groups
  else
    let start := runs.findIdx (· == longest)
    join (groups.take start) ++ [':', ':'] ++ join (groups.drop (start + longest))

/-! ## Names -/

/-- A domain name in ASCII. -/
def domain? (name : List Char) : Except UrlError (List Char) :=
  match (Text.Utf8.text? (Percent.decode name)).bind Domain.ascii? with
  | none => .error .internationalName
  | some cs => .ok cs

/-- Reads an address of eight numbers between brackets. -/
def bracketed (cs : List Char) : Except UrlError (List Char) :=
  match cs.getLast?, ipv6? (cs.drop 1).dropLast with
  | some ']', some groups => .ok ('[' :: ipv6Text groups ++ [']'])
  | _, _ => .error .ipv6

/-- Reads a host whose name is a domain name. -/
def parse (cs : List Char) : Except UrlError (List Char) := do
  if cs.head? = some '[' then bracketed cs
  else
    let name ← domain? cs
    if name.isEmpty then throw .emptyHost
    else if endsInNumber name then
      match ipv4? name with
      | some address => return ipv4Text address
      | none => throw .ipv4
    else return name

/-- May not occur in a host that is no domain name. -/
def forbiddenOpaque (c : Char) : Bool :=
  c.toNat = 0 || [' ', '#', '/', ':', '<', '>', '?', '@', '[', '\\', ']', '^', '|'].contains c

/-- Reads a host that is no domain name. -/
def parseOpaque (cs : List Char) : Except UrlError (List Char) :=
  if cs.head? = some '[' then bracketed cs
  else if cs.any forbiddenOpaque then .error .domainCharacter
  else .ok (Percent.encode Percent.controls cs)

end Host

end QueryShell.Http

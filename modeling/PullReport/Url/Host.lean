import PullReport.Text.Number
import PullReport.Text.Percent
import PullReport.Url.HostLabel

/-!
# Hosts

The host part of an address. Under the schemes of the web a host is a domain name or an IP address:
a name is decoded, mapped to one spelling of all that mean the same name, and checked label by
label, and a name that ends in a number must be an IPv4 address. Under any other scheme a host is a
text that means nothing here.

## Main definitions

* `Host`: domain names, IP addresses, uninterpreted hosts.
* `Host.ofWeb?`, `Host.ofOther?`: the host that a text denotes under the two sorts of schemes.
* `Host.isNamed`: whether a host is written as the given name.
-/

namespace PullReport

/-- A host. -/
inductive Host where
  | domain (name : List Char)
  | ipv4 (address : Nat)
  | ipv6 (groups : List Nat)
  | uninterpreted (text : List Char)
  deriving DecidableEq, Repr

namespace Host

open Text

/-- The characters that no host holds, under any scheme. -/
def isForbidden (c : Char) : Bool :=
  c == '\x00' || c == '\t' || c == '\n' || c == '\r' || c == ' ' || c == '#' || c == '/' || c == ':'
    || c == '<' || c == '>' || c == '?' || c == '@' || c == '[' || c == '\\' || c == ']' || c == '^'
    || c == '|'

/-- The characters that no domain name holds. -/
def isForbiddenInDomain (c : Char) : Bool :=
  isForbidden c || c.toNat < 0x20 || c == '%' || c == '\x7f'

/-! ### IPv4 -/

/-- The value of a number in an IPv4 address: hexadecimal behind `0x`, octal behind a further
leading zero, else decimal. -/
def ipv4Number? (cs : List Char) : Option Nat :=
  let inBase (base : Nat) (digits : List Char) : Option Nat :=
    digits.foldlM (fun n c => do
      let d ← hexValue? c
      if d < base then some (base * n + d) else none) 0
  match cs with
  | [] => none
  | '0' :: 'x' :: digits => inBase 16 digits
  | '0' :: 'X' :: digits => inBase 16 digits
  | '0' :: d :: digits => inBase 8 (d :: digits)
  | digits => inBase 10 digits

/-- The parts of a name between its full stops, less an empty last one. -/
def labels (name : List Char) : List (List Char) :=
  let parts := name.splitOn '.'
  if parts.getLast? = some [] ∧ parts.length > 1 then parts.dropLast else parts

/-- Whether the last label of a name is a number, which makes the name an IPv4 address. -/
def endsInNumber (name : List Char) : Bool :=
  match (labels name).getLast? with
  | none => false
  | some last => (last ≠ [] && last.all isDigit) || isHexNumber last
where
  isHexNumber : List Char → Bool
    | '0' :: x :: digits => (x == 'x' || x == 'X') && digits.all fun c => (hexValue? c).isSome
    | _ => false

/-- The address of at most four numbers. The last one fills all the bytes that are left. -/
def ipv4? (name : List Char) : Option Nat := do
  let numbers ← (labels name).mapM ipv4Number?
  let leading := numbers.dropLast
  let last ← numbers.getLast?
  if numbers.length ≤ 4 ∧ leading.all (· < 256) ∧ last < Nat.pow 256 (4 - leading.length) then
    some (leading.foldl (fun n byte => 256 * n + byte) 0 * Nat.pow 256 (4 - leading.length) + last)
  else none

/-! ### IPv6 -/

/-- A group of an IPv6 address: one to four hexadecimal digits. -/
def ipv6Group? (cs : List Char) : Option Nat :=
  if cs = [] ∨ cs.length > 4 then none
  else cs.foldlM (fun n c => (hexValue? c).map (16 * n + ·)) 0

/-- One byte of an IPv4 address at the end of an IPv6 address: decimal, without leading zeros. -/
def ipv6Byte? (cs : List Char) : Option Nat :=
  if cs.all isDigit ∧ cs ≠ [] ∧ (cs.length = 1 ∨ cs.head? ≠ some '0') ∧ decimal cs < 256 then
    some (decimal cs)
  else none

/-- The two groups that an IPv4 address stands for. -/
def ipv6Tail? (cs : List Char) : Option (List Nat) := do
  match ← (cs.splitOn '.').mapM ipv6Byte? with
  | [a, b, c, d] => some [256 * a + b, 256 * c + d]
  | _ => none

/-- The groups of a run of groups between colons. Only the last one may be an IPv4 address, and only
where the run ends the address. -/
def ipv6Groups? (endsAddress : Bool) (cs : List Char) : Option (List Nat) := do
  if cs = [] then return []
  let parts := cs.splitOn ':'
  let leading ← parts.dropLast.mapM ipv6Group?
  let last ← parts.getLast?
  if endsAddress && last.contains '.' then return leading ++ (← ipv6Tail? last)
  else return leading ++ [← ipv6Group? last]

/-- The text before the first double colon and the text behind it. -/
def splitDoubleColon? : List Char → Option (List Char × List Char)
  | ':' :: ':' :: cs => some ([], cs)
  | c :: cs => (splitDoubleColon? cs).map fun (before, behind) => (c :: before, behind)
  | [] => none

/-- The eight groups of an address. A double colon stands for at least one group of zeros. -/
def ipv6? (cs : List Char) : Option (List Nat) := do
  match splitDoubleColon? cs with
  | none =>
    let groups ← ipv6Groups? true cs
    if groups.length = 8 then some groups else none
  | some (before, behind) =>
    let first ← ipv6Groups? false before
    let last ← ipv6Groups? true behind
    if first.length + last.length ≤ 7 then
      some (first ++ List.replicate (8 - first.length - last.length) 0 ++ last)
    else none

/-- The address between square brackets. -/
def bracketed? (cs : List Char) : Option Host :=
  if cs.getLast? = some ']' then (ipv6? cs.dropLast).map ipv6 else none

/-! ### Hosts -/

/-- The host that a text denotes under a scheme of the web. -/
def ofWeb? (cs : List Char) : Option Host :=
  match cs with
  | '[' :: inner => bracketed? inner
  | _ => do
    let decoded ← String.fromUTF8? (percentDecode cs).toByteArray
    let name := canonicalForm (← decoded.toList.mapM mapChar?).flatten
    if name = [] ∨ name.any isForbiddenInDomain ∨ !isName name then none
    else if endsInNumber name then (ipv4? name).map ipv4
    else some (domain name)

/-- Whether a character of an uninterpreted host is kept; the others are percent-encoded. -/
def isKept (c : Char) : Bool := 0x20 ≤ c.toNat && c.toNat < 0x7F

/-- The host that a text denotes under another scheme. -/
def ofOther? (cs : List Char) : Option Host :=
  match cs with
  | '[' :: inner => bracketed? inner
  | _ => if cs.any isForbidden then none else some (uninterpreted (percentEncode isKept cs))

/-- Whether a host is written as the given name. -/
def isNamed (host : Host) (name : List Char) : Bool :=
  match host with
  | domain text => text == name
  | uninterpreted text => text == name
  | ipv4 _ => false
  | ipv6 _ => false

end Host

end PullReport

import ProofKey.Text.Pieces

/-!
# Written IP addresses

An IPv4 address is four numbers below 256 with dots between them. An IPv6 address is eight groups
of up to four hexadecimal digits with colons between them, of which `::` leaves out one or more in
a row and the last two may be written as an IPv4 address; behind a `%` it may name a zone. An
address of a later version names the version and says nothing else that can be checked.
-/

namespace ProofKey.IpAddress

def decimal (digits : Text) : Nat := digits.foldl (fun n c => n * 10 + (c.value - 0x30)) 0

/-- A number from 0 to 255, without a zero before other digits. -/
def isOctet (t : Text) : Bool :=
  match t with
  | [] => false
  | first :: more =>
      t.all CodePoint.isDigit && t.length ≤ 3 && decimal t ≤ 255 &&
        (first != CodePoint.ofChar '0' || more.isEmpty)

def isV4 (t : Text) : Bool :=
  let octets := List.splitOn (CodePoint.ofChar '.') t
  octets.length == 4 && octets.all isOctet

def isGroup (t : Text) : Bool := !t.isEmpty && t.length ≤ 4 && t.all CodePoint.isHexDigit

/-- How many groups stand before a `::`. -/
def countBefore? (t : Text) : Option Nat :=
  if t.isEmpty then some 0
  else
    let groups := List.splitOn (CodePoint.ofChar ':') t
    if groups.all isGroup then some groups.length else none

/-- How many groups some parts stand for, of which the last may be an IPv4 address. -/
def countGroups? : List Text → Option Nat
  | [] => some 0
  | [last] => if isV4 last then some 2 else if isGroup last then some 1 else none
  | part :: more => if isGroup part then (countGroups? more).map (· + 1) else none

/-- How many groups stand after a `::`. -/
def countAfter? (t : Text) : Option Nat :=
  if t.isEmpty then some 0 else countGroups? (List.splitOn (CodePoint.ofChar ':') t)

/-- What stands before and after the first `::`. -/
def elision? : Text → Option (Text × Text)
  | [] => none
  | a :: rest =>
      match rest with
      | [] => none
      | b :: more =>
          if a = CodePoint.ofChar ':' ∧ b = CodePoint.ofChar ':' then some ([], more)
          else (elision? (b :: more)).map fun (before, after) => (a :: before, after)

/-- The groups of an IPv6 address. -/
def hasEightGroups (t : Text) : Bool :=
  match elision? t with
  | none => countGroups? (List.splitOn (CodePoint.ofChar ':') t) == some 8
  | some (before, after) =>
      match countBefore? before, countAfter? after with
      | some m, some n => m + n ≤ 7
      | _, _ => false

/-- A zone is named by any text that is not empty and has no `%`. -/
def isZone (t : Text) : Bool := !t.isEmpty && !t.contains (CodePoint.ofChar '%')

def isV6 (t : Text) : Bool :=
  let (address, zone) := t.cut '%'
  hasEightGroups address && zone.all isZone

/-- Behind the `v` that marks an address of a later version: a version of hexadecimal digits and,
after a dot, any text; both are not empty. -/
def isVersioned (t : Text) : Bool :=
  match t.cut '.' with
  | (version, some address) =>
      !version.isEmpty && version.all CodePoint.isHexDigit && !address.isEmpty
  | (_, none) => false

end ProofKey.IpAddress

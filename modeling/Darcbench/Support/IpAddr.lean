import Mathlib.Data.List.Basic

/-!
# Internet addresses

The addresses of the two versions of the protocol, and how a text is read as
one.
-/

namespace Darcbench

inductive IpAddr where
  | v4 (octets : List ℕ)
  | v6 (segments : List ℕ)
  deriving DecidableEq

namespace IpAddr

def isLoopback : IpAddr → Bool
  | v4 octets => octets.head? = some 127
  | v6 segments => segments = [0, 0, 0, 0, 0, 0, 0, 1]

/-! ## Reading a text -/

/-- What a reader found, and the text behind it. -/
abbrev Reader (α : Type) : Type := List Char → Option (α × List Char)

def toDigit (radix : ℕ) (c : Char) : Option ℕ :=
  let digit? :=
    if '0' ≤ c ∧ c ≤ '9' then some (c.toNat - '0'.toNat)
    else if 'a' ≤ c ∧ c ≤ 'z' then some (c.toNat - 'a'.toNat + 10)
    else if 'A' ≤ c ∧ c ≤ 'Z' then some (c.toNat - 'A'.toNat + 10)
    else none
  digit?.filter (· < radix)

/-- All digits that follow, of which there are not too many. -/
def readNumber (radix maxDigits bound : ℕ) (allowZeroPrefix : Bool) :
    Reader ℕ := fun text =>
  let digits := (text.takeWhile fun c => (toDigit radix c).isSome).filterMap
    (toDigit radix)
  let value := digits.foldl (fun value digit => value * radix + digit) 0
  if digits.isEmpty || maxDigits < digits.length then none
  else if !allowZeroPrefix && text.head? = some '0' && 1 < digits.length then
    none
  else if value < bound then some (value, text.drop digits.length)
  else none

/-- Reads the separator before every item but the first. -/
def readSeparator {α : Type} (separator : Char) (index : ℕ)
    (read : Reader α) : Reader α := fun text =>
  if index = 0 then read text
  else
    match text with
    | c :: rest => if c = separator then read rest else none
    | [] => none

def readIpv4 : Reader (List ℕ) := fun text => do
  let octet (index : ℕ) : Reader ℕ :=
    readSeparator '.' index (readNumber 10 3 256 false)
  let (a, text) ← octet 0 text
  let (b, text) ← octet 1 text
  let (c, text) ← octet 2 text
  let (d, text) ← octet 3 text
  return ([a, b, c, d], text)

/-- Reads groups up to a limit.  The last two may be written as an address of
the older version, which ends them. -/
def readGroups (limit : ℕ) : ℕ → ℕ → List ℕ → List Char →
    (List ℕ × Bool) × List Char
  | 0, _, groups, text => ((groups, false), text)
  | count + 1, index, groups, text =>
      let mapped? :=
        if index + 1 < limit then readSeparator ':' index readIpv4 text
        else none
      match mapped? with
      | some (octets, rest) =>
          let pair (i : ℕ) := octets.getD i 0 * 256 + octets.getD (i + 1) 0
          ((groups ++ [pair 0, pair 2], true), rest)
      | none =>
          match readSeparator ':' index (readNumber 16 4 65536 true) text with
          | some (group, rest) =>
              readGroups limit count (index + 1) (groups ++ [group]) rest
          | none => ((groups, false), text)

def readIpv6 : Reader (List ℕ) := fun text =>
  let ((head, mapped), rest) := readGroups 8 8 0 [] text
  if head.length = 8 then some (head, rest)
  else if mapped then none
  else
    match rest with
    | ':' :: ':' :: rest =>
        let limit := 8 - (head.length + 1)
        let ((tail, _), rest) := readGroups limit limit 0 [] rest
        let zeros := List.replicate (8 - head.length - tail.length) 0
        some (head ++ zeros ++ tail, rest)
    | _ => none

/-- Reads a text as an address, and as nothing if some of it is left. -/
def parse (text : List Char) : Option IpAddr :=
  let read? := ((readIpv4 text).map fun r => (v4 r.1, r.2)).or
    ((readIpv6 text).map fun r => (v6 r.1, r.2))
  (read?.filter fun r => r.2.isEmpty).map Prod.fst

end IpAddr

example : (["127.0.0.1", "::1", "127.0.0.01", "::ffff:127.0.0.1"].map fun s =>
    (IpAddr.parse s.toList).map IpAddr.isLoopback) =
      [some true, some true, none, some false] := by
  decide +kernel

end Darcbench

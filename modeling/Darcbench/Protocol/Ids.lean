import Mathlib.Data.String.Basic

/-!
# Identifiers

An identifier is a text together with the fact that it passed the grammar
check, so a malformed one cannot be built.  The checks fail with the messages
of the source.
-/

namespace Darcbench

inductive ProtocolError where
  | invalidId (message : String)
  deriving DecidableEq

def isAsciiLowercase (c : Char) : Bool :=
  'a' ≤ c && c ≤ 'z'

def isAsciiDigit (c : Char) : Bool :=
  '0' ≤ c && c ≤ '9'

/-- A hexadecimal digit that is not an upper-case letter. -/
def isLowerHexDigit (c : Char) : Bool :=
  isAsciiDigit c || ('a' ≤ c && c ≤ 'f')

namespace ModuleId

/-- Checks one segment of a module id against `[a-z][a-z0-9_]{0,31}`. -/
def checkSegment (segment : String) : Except ProtocolError Unit :=
  match segment.toList with
  | [] =>
      .error (.invalidId s!"segment `{segment}` must start with [a-z]")
  | c :: rest =>
      if !isAsciiLowercase c then
        .error (.invalidId s!"segment `{segment}` must start with [a-z]")
      else if segment.utf8ByteSize > 32 then
        .error (.invalidId s!"segment `{segment}` too long")
      else if !rest.all fun c =>
          isAsciiLowercase c || isAsciiDigit c || c == '_' then
        .error (.invalidId s!"segment `{segment}` must match [a-z][a-z0-9_]*")
      else
        .ok ()

/-- The segments of a module id, as separated by dots. -/
def segments (s : String) : List String :=
  (s.toList.splitOn '.').map String.ofList

/-- The checks that `ModuleId::from_str` makes before it accepts a text. -/
def check (s : String) : Except ProtocolError Unit :=
  if s.utf8ByteSize = 0 || s.utf8ByteSize > 96 then
    .error (.invalidId "module id length out of range")
  else
    (segments s).forM checkSegment

end ModuleId

/-- A benchmark module identifier such as `cpu.mixed`. -/
structure ModuleId where
  asStr : String
  valid : ModuleId.check asStr = .ok ()
  deriving DecidableEq

/-- Accepts a text that passes the grammar check. -/
def ModuleId.fromStr (s : String) : Except ProtocolError ModuleId :=
  match h : ModuleId.check s with
  | .ok () => .ok ⟨s, h⟩
  | .error e => .error e

namespace RunId

def prefixText : String := "run_"

/-- The checks that `RunId::from_str` makes before it accepts a text. -/
def check (s : String) : Except ProtocolError Unit :=
  if !prefixText.toList.isPrefixOf s.toList then
    .error (.invalidId s!"missing `{prefixText}` prefix")
  else
    let body := s.toList.drop 4
    if (String.ofList body).utf8ByteSize ≠ 32 || !body.all isLowerHexDigit then
      .error (.invalidId "run id body must be 32 lowercase hex characters")
    else
      .ok ()

end RunId

/-- A run identifier: `run_` followed by 32 lowercase hex characters. -/
structure RunId where
  asStr : String
  valid : RunId.check asStr = .ok ()
  deriving DecidableEq

/-- Accepts a text that passes the grammar check. -/
def RunId.fromStr (s : String) : Except ProtocolError RunId :=
  match h : RunId.check s with
  | .ok () => .ok ⟨s, h⟩
  | .error e => .error e

/-- A module identity pinned to a version of the workload definition. -/
structure ModuleRef where
  id : ModuleId
  version : String
  deriving DecidableEq

theorem ModuleId.check_cpuMixed : check "cpu.mixed" = .ok () := by decide

theorem RunId.check_zeros :
    check "run_00000000000000000000000000000000" = .ok () := by
  decide

example : ModuleId.check "cpu..mixed" ≠ .ok () := by decide

end Darcbench

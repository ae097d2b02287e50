import Provision.Text.Digits

/-!
# Authorities

The authority of an address says who is asked: a host, before which there may be a user and behind which
there may be a port. `Authority.isReadable` is the strict form in which requests name one, in letters,
digits and a few signs; percent signs may only stand in front of the host.
-/

namespace Provision.Http.Authority

/-- What has been read of an authority: the colons of its last part, whether a bracket was opened and
closed, and whether its last part has a percent sign. -/
structure Scan where
  colons : Nat := 0
  opened : Bool := false
  closed : Bool := false
  hasPercent : Bool := false

/-- The most colons that a part may have. -/
def colonLimit : Nat := 8

def isPlain (c : Char) : Bool :=
  Text.isLetter c || Text.isDigit c || "!$&'()*+,-.;=_~".toList.contains c

/-- Reads a character. A bracket that closes and the sign `@` begin a new part. -/
def Scan.next? (scan : Scan) (c : Char) : Option Scan :=
  if c = ':' then
    if scan.colons < colonLimit then some { scan with colons := scan.colons + 1 } else none
  else if c = '[' then
    if scan.hasPercent || scan.opened then none else some { scan with opened := true }
  else if c = ']' then
    if scan.opened && !scan.closed then
      some { scan with closed := true, colons := 0, hasPercent := false }
    else none
  else if c = '@' then some { scan with colons := 0, hasPercent := false }
  else if c = '%' then some { scan with hasPercent := true }
  else if isPlain c then some scan
  else none

def isReadable (chars : List Char) : Bool :=
  match chars.foldlM Scan.next? {} with
  | none => false
  | some scan =>
      chars ≠ [] && scan.opened = scan.closed && scan.colons ≤ 1 && !scan.hasPercent &&
        chars.getLast? ≠ some '@'

end Provision.Http.Authority

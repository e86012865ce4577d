/-!
# URIs an HTTP client accepts

`Uri.check` tells whether a text is a URI by the rules of the HTTP client the exporters use,
and if not, why. The rules, on octets:

* The text is not empty and shorter than 65535 octets.
* A single octet is `/`, `*`, or an authority of one character.
* A text starting with `/` is a path and query.
* Otherwise a scheme may lead: `http://` or `https://` in any case, or up to 64 scheme
  characters (letters, digits, `+`, `-`, `.` and `~`) before `://`. Without a scheme the
  whole text must be an authority; with one, something must follow, and it must start with
  an authority, then a path and query.
* An authority runs to the first `/`, `?` or `#`; it holds URI characters only, at most one
  port colon (colons in user information or in brackets do not count), balanced brackets,
  something after an `@`, and no `%` outside its user information.
* A path holds the characters a path may hold (`"`, `{` and `}` included, the delete
  character not); after a `?` the query may hold more; a `#` ends both.
-/

namespace DocBatch

namespace Uri

/-- Why a text is not a URI. -/
inductive Fault where
  | invalidUriChar
  | invalidScheme
  | invalidAuthority
  | invalidFormat
  | tooLong
  | empty
  | schemeTooLong
  deriving Repr, DecidableEq, Inhabited

/-- The text of a fault. -/
def Fault.message : Fault → String
  | .invalidUriChar => "invalid uri character"
  | .invalidScheme => "invalid scheme"
  | .invalidAuthority => "invalid authority"
  | .invalidFormat => "invalid format"
  | .tooLong => "uri too long"
  | .empty => "empty string"
  | .schemeTooLong => "scheme too long"

/-- The longest text accepted. -/
def maxLength : Nat := 65534

/-- The longest scheme accepted. -/
def maxSchemeLength : Nat := 64

/-- Whether an octet is a letter or a digit. -/
def isAlnum (b : Nat) : Bool :=
  (48 ≤ b && b ≤ 57) || (65 ≤ b && b ≤ 90) || (97 ≤ b && b ≤ 122)

/-- Whether an octet may appear in a scheme. -/
def isSchemeChar (b : Nat) : Bool := isAlnum b || b == 43 || b == 45 || b == 46 || b == 126

/-- Whether an octet may appear in a URI outside its path. -/
def isUriChar (b : Nat) : Bool :=
  isAlnum b || [33, 35, 36, 38, 39, 40, 41, 42, 43, 44, 45, 46, 47, 58, 59, 61, 63, 64, 91, 93, 95, 126].contains b

/-- The state of reading an authority: port colons, brackets seen, a `%` not yet known to be
in user information, where the last `@` was. -/
structure AuthorityState where
  colons : Nat := 0
  opened : Bool := false
  closed : Bool := false
  percent : Bool := false
  at? : Option Nat := none

/-- Reads an authority from position `i`; where it ends, or why it is not one. -/
def authorityScan : Nat → AuthorityState → List Nat → Except Fault (Nat × AuthorityState)
  | i, st, [] => .ok (i, st)
  | i, st, b :: rest =>
    if b == 47 || b == 63 || b == 35 then .ok (i, st)
    else if b == 58 then
      if st.colons ≥ 8 then .error .invalidAuthority
      else authorityScan (i + 1) { st with colons := st.colons + 1 } rest
    else if b == 91 then
      if st.percent || st.opened then .error .invalidAuthority
      else authorityScan (i + 1) { st with opened := true } rest
    else if b == 93 then
      if !st.opened || st.closed then .error .invalidAuthority
      else authorityScan (i + 1) { st with closed := true, colons := 0, percent := false } rest
    else if b == 64 then authorityScan (i + 1) { st with at? := some i, colons := 0, percent := false } rest
    else if b == 37 then authorityScan (i + 1) { st with percent := true } rest
    else if isUriChar b then authorityScan (i + 1) st rest
    else .error .invalidUriChar

/-- Where the authority at the front of the octets ends, or why it is not one. -/
def authorityEnd (bs : List Nat) : Except Fault Nat := do
  let (stop, st) ← authorityScan 0 {} bs
  if st.opened != st.closed then throw .invalidAuthority
  if st.colons > 1 then throw .invalidAuthority
  if stop > 0 && st.at? == some (stop - 1) then throw .invalidAuthority
  if st.percent then throw .invalidAuthority
  return stop

/-- Whether an octet may appear in a path as it is. -/
def isPathChar (b : Nat) : Bool :=
  b == 0x21 || (0x24 ≤ b && b ≤ 0x3B) || b == 0x3D || (0x40 ≤ b && b ≤ 0x5F) ||
    (0x61 ≤ b && b ≤ 0x7A) || b == 0x7C || b == 0x7E || b ≥ 0x80 || b == 34 || b == 123 || b == 125

/-- Whether an octet may appear in a query as it is. -/
def isQueryChar (b : Nat) : Bool :=
  b == 0x21 || (0x24 ≤ b && b ≤ 0x3B) || b == 0x3D || (0x3F ≤ b && b ≤ 0x7E) || b ≥ 0x80

/-- Checks a query, up to a `#`. -/
def queryCheck : List Nat → Except Fault Unit
  | [] => .ok ()
  | b :: rest => if b == 35 then .ok () else if isQueryChar b then queryCheck rest else .error .invalidUriChar

/-- Checks a path and query, up to a `#`. -/
def pathCheck : List Nat → Except Fault Unit
  | [] => .ok ()
  | b :: rest =>
    if b == 63 then queryCheck rest
    else if b == 35 then .ok ()
    else if isPathChar b then pathCheck rest
    else .error .invalidUriChar

/-- The length of a scheme and its `://` at the front of the octets, if any. -/
def schemeLength (bs : List Nat) : Except Fault Nat :=
  let lower := bs.map fun b => if 65 ≤ b && b ≤ 90 then b + 32 else b
  let http := "http://".toList.map Char.toNat
  let https := "https://".toList.map Char.toNat
  if http.isPrefixOf lower then .ok 7
  else if https.isPrefixOf lower then .ok 8
  else if bs.length > 3 then
    let name := bs.takeWhile isSchemeChar
    match bs.drop name.length with
    | 58 :: 47 :: 47 :: _ =>
      if name.length > maxSchemeLength then .error .schemeTooLong else .ok (name.length + 3)
    | _ => .ok 0
  else .ok 0

/-- Checks that octets are a URI. -/
def checkBytes (bs : List Nat) : Except Fault Unit := do
  if bs.length > maxLength then throw .tooLong
  match bs with
  | [] => throw .empty
  | [47] | [42] => return ()
  | [b] =>
    let stop ← authorityEnd [b]
    if stop != 1 then throw .invalidUriChar
  | 47 :: _ => pathCheck bs
  | _ =>
    let schemeLen ← schemeLength bs
    let rest := bs.drop schemeLen
    if schemeLen != 0 && rest.isEmpty then throw .empty
    let stop ← authorityEnd rest
    if schemeLen == 0 then
      if stop != rest.length then throw .invalidFormat
    else
      if stop == 0 then throw .invalidFormat
      pathCheck (rest.drop stop)

/-- Checks that a text is a URI. -/
def check (s : String) : Except Fault Unit :=
  checkBytes (s.toUTF8.toList.map UInt8.toNat)

end Uri

end DocBatch

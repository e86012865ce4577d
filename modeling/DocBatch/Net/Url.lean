import DocBatch.Text.Utf8
import DocBatch.Net.Domain

/-!
# URLs

`Url.parse` reads an absolute URL the way the URL standard does, far enough to give its
parts: the scheme, the user information, the host, the port, the path and the query. A text
that is no URL gives the fault that the standard's parser meets first.

* Blanks and control characters around the text are dropped, and tabs and line ends within
  it are ignored.
* A scheme starts with an ASCII letter, goes on with letters, digits, `+`, `-` and `.`, and
  ends at a `:`; without one the text is relative, and there is no base to resolve it on.
* The special schemes (`http`, `https`, `ws`, `wss`, `ftp`) always have an authority, after
  any run of slashes and backslashes; another scheme has one only after `//`.
* In an authority the last `@` ends the user information, whose first `:` divides the user
  from the password. The host runs to a `:` outside brackets, or to `/`, `?` or `#`; for a
  special scheme also to `\`. A port is at most five digits' worth, up to 65535, ended by one
  of those characters or the end.
* A host in brackets is an IPv6 address. Another host of a special scheme is percent-decoded
  and read as an international domain name (`Domain.process?`), which maps it and may refuse
  it; the mapped host is an IPv4 address when it ends in a number. A host of another scheme is opaque: it must hold no forbidden character. Only a
  special scheme requires a host; an empty host is refused where a port or user information
  needs one.
-/

namespace DocBatch

/-- An absolute URL, in parts. The host is as the URL writes it (`none` when there is no
host), the path and query as written. -/
structure Url where
  scheme : String
  username : String := ""
  password : Option String := none
  host : Option String := none
  port : Option Nat := none
  path : String := ""
  query : Option String := none
  deriving Repr, Inhabited

namespace Url

/-- Why a text is not a URL. -/
inductive Fault where
  | emptyHost
  | invalidPort
  | invalidIpv4Address
  | invalidIpv6Address
  | invalidDomainCharacter
  | invalidDomainName
  | relativeWithoutBase
  deriving Repr, DecidableEq, Inhabited

/-- The text of a fault. -/
def Fault.message : Fault → String
  | .emptyHost => "empty host"
  | .invalidPort => "invalid port number"
  | .invalidIpv4Address => "invalid IPv4 address"
  | .invalidIpv6Address => "invalid IPv6 address"
  | .invalidDomainCharacter => "invalid domain character"
  | .invalidDomainName => "invalid international domain name"
  | .relativeWithoutBase => "relative URL without a base"

/-- The schemes with an authority always, and their default ports. -/
def specialSchemes : List (String × Option Nat) :=
  [("http", some 80), ("https", some 443), ("ws", some 80), ("wss", some 443), ("ftp", some 21), ("file", none)]

/-- Whether a scheme is special. -/
def isSpecial (scheme : String) : Bool := specialSchemes.any (·.1 == scheme)

/-- The default port of a scheme, if it has one. -/
def defaultPort (scheme : String) : Option Nat := ((specialSchemes.find? (·.1 == scheme)).bind (·.2))

/-- Whether a character may go on a scheme. -/
def isSchemeChar (c : Char) : Bool := (c.isAlphanum && c.toNat < 128) || c == '+' || c == '-' || c == '.'

/-- Reads a scheme at the front: the scheme in lower case and what follows its `:`. -/
def scheme? (cs : List Char) : Option (String × List Char) :=
  match cs with
  | c :: _ =>
    if c.isAlpha && c.toNat < 128 then
      match cs.dropWhile isSchemeChar with
      | ':' :: rest => some (String.ofList ((cs.takeWhile isSchemeChar).map Char.toLower), rest)
      | _ => none
    else none
  | [] => none

/-- Whether a character ends an authority's part for a scheme. -/
def endsPart (special : Bool) (c : Char) : Bool := c == '/' || c == '?' || c == '#' || (special && c == '\\')

/-- The value of a hexadecimal digit. -/
def hexValue? (c : Char) : Option Nat :=
  if '0' ≤ c && c ≤ '9' then some (c.toNat - '0'.toNat)
  else if 'a' ≤ c && c ≤ 'f' then some (c.toNat - 'a'.toNat + 10)
  else if 'A' ≤ c && c ≤ 'F' then some (c.toNat - 'A'.toNat + 10)
  else none

/-- Octets with every `%` followed by two hexadecimal digits replaced by the octet they
write. -/
def percentDecodeBytes : Bytes → Bytes
  | [] => []
  | b :: h :: l :: more =>
    if b.toNat == 37 then
      match hexValue? (Char.ofNat h.toNat), hexValue? (Char.ofNat l.toNat) with
      | some x, some y => UInt8.ofNat (x * 16 + y) :: percentDecodeBytes more
      | _, _ => b :: percentDecodeBytes (h :: l :: more)
    else b :: percentDecodeBytes (h :: l :: more)
  | b :: rest => b :: percentDecodeBytes rest

/-- The octets a percent-encoded text writes. -/
def percentDecode (s : String) : Bytes := percentDecodeBytes (Utf8.encode s)

/-! ## IPv6 addresses -/

/-- Reads up to `k` hexadecimal digits: their value and count, and the rest. -/
def hexRun : Nat → Nat → Nat → List Char → Nat × Nat × List Char
  | 0, v, n, cs => (v, n, cs)
  | _, v, n, [] => (v, n, [])
  | k + 1, v, n, c :: rest =>
    match hexValue? c with
    | some d => hexRun k (v * 16 + d) (n + 1) rest
    | none => (v, n, c :: rest)

/-- Reads the dotted part at the end of an IPv6 address: four decimal numbers below 256,
without leading zeros. -/
def ipv4Tail (cs : List Char) : Bool :=
  let parts := cs.splitOn '.'
  parts.length == 4 && parts.all fun p =>
    !p.isEmpty && p.all Char.isDigit && (p.length == 1 || p.head? != some '0') &&
      (String.ofList p).toNat! < 256

/-- Reads the pieces of an IPv6 address after its start: whether it is well formed, given
the pieces read and whether `::` was seen. `fuel` bounds the steps. -/
def ipv6Pieces : Nat → Nat → Bool → List Char → Bool
  | 0, _, _, _ => false
  | _, pieces, compressed, [] => if compressed then pieces ≤ 8 else pieces == 8
  | fuel + 1, pieces, compressed, cs =>
    if pieces == 8 then false
    else
      match cs with
      | ':' :: rest => if compressed then false else ipv6Pieces fuel (pieces + 1) true rest
      | _ =>
        let (_, n, rest) := hexRun 4 0 0 cs
        match rest with
        | [] => if n == 0 then false else ipv6Pieces fuel (pieces + 1) compressed []
        | '.' :: _ =>
          n != 0 && pieces ≤ 6 && ipv4Tail cs &&
            (if compressed then pieces + 2 ≤ 8 else pieces + 2 == 8)
        | ':' :: more => if n == 0 || more.isEmpty then false else ipv6Pieces fuel (pieces + 1) compressed more
        | _ => false

/-- Whether a text is an IPv6 address (the text between the brackets). -/
def isIpv6 (cs : List Char) : Bool :=
  match cs with
  | ':' :: ':' :: rest => ipv6Pieces (cs.length + 1) 1 true rest
  | ':' :: _ => false
  | _ => ipv6Pieces (cs.length + 1) 0 false cs

/-! ## IPv4 addresses -/

/-- The digits of a number of an IPv4 address in its base: decimal, octal after a `0`,
hexadecimal after `0x`. `none` when the text is not such a number. -/
def ipv4Number? (cs : List Char) : Option Nat :=
  let (base, digits) := match cs with
    | '0' :: 'x' :: rest => (16, rest)
    | '0' :: 'X' :: rest => (16, rest)
    | '0' :: rest@(_ :: _) => (8, rest)
    | _ => (10, cs)
  if cs.isEmpty then none
  else if digits.isEmpty then some 0
  else
    let values := digits.map fun c => (hexValue? c).filter (· < base)
    if values.all Option.isSome then some (values.foldl (fun acc v => acc * base + v.getD 0) 0) else none

/-- Whether a host ends in a number, and so must be an IPv4 address. -/
def endsInNumber (cs : List Char) : Bool :=
  let parts := (cs.splitOn '.').reverse
  let last := match parts with
    | [] :: next :: _ => some next
    | [] :: [] => none
    | last :: _ => some last
    | [] => none
  match last with
  | none => false
  | some l => (!l.isEmpty && l.all Char.isDigit) || (ipv4Number? l).isSome

/-- Whether a host is a well-formed IPv4 address. -/
def isIpv4 (cs : List Char) : Bool :=
  let parts := cs.splitOn '.'
  let parts := if parts.getLast? == some [] then parts.dropLast else parts
  if parts.length > 4 || parts.isEmpty then false
  else
    let numbers := parts.map ipv4Number?
    if !numbers.all Option.isSome then false
    else
      let ns := numbers.map (·.getD 0)
      let front := ns.dropLast
      (ns.getLast?.getD 0) < Nat.pow 256 (4 - front.length) && front.all (· ≤ 255)

/-! ## Hosts -/

/-- Whether a character is forbidden in an opaque host. -/
def forbiddenOpaque (c : Char) : Bool :=
  [ '\x00', '\t', '\n', '\r', ' ', '#', '/', ':', '<', '>', '?', '@', '[', '\\', ']', '^', '|' ].contains c

/-- Reads a host in brackets. -/
def bracketed (cs : List Char) : Except Fault String :=
  if cs.getLast? != some ']' then .error .invalidIpv6Address
  else if isIpv6 ((cs.drop 1).dropLast) then .ok (String.ofList cs)
  else .error .invalidIpv6Address

/-- Reads the host of a special scheme. -/
def specialHost (cs : List Char) : Except Fault String :=
  match cs with
  | '[' :: _ => bracketed cs
  | _ =>
    match Domain.process? (Utf8.decodeLossy (percentDecode (String.ofList cs))).toList with
    | none => .error .invalidDomainName
    | some domain =>
      if domain.isEmpty then .error .emptyHost
      else if endsInNumber domain then
        if isIpv4 domain then .ok (String.ofList domain) else .error .invalidIpv4Address
      else .ok (String.ofList domain)

/-- Reads the host of another scheme. -/
def opaqueHost (cs : List Char) : Except Fault String :=
  match cs with
  | '[' :: _ => bracketed cs
  | _ => if cs.any forbiddenOpaque then .error .invalidDomainCharacter else .ok (String.ofList cs)

/-- The characters of a host, up to a `:` outside brackets or the end of the authority. -/
def hostChars (special : Bool) : Bool → List Char → List Char × List Char
  | _, [] => ([], [])
  | inside, c :: rest =>
    if (c == ':' && !inside) || endsPart special c then ([], c :: rest)
    else
      let inside := if c == '[' then true else if c == ']' then false else inside
      let (h, r) := hostChars special inside rest
      (c :: h, r)

/-- Reads a port after its `:`: the port unless it is the scheme's default, and the rest. -/
def port? (scheme : String) (cs : List Char) : Except Fault (Option Nat × List Char) :=
  go cs 0 false
where
  /-- Reads digits onto a value. -/
  go : List Char → Nat → Bool → Except Fault (Option Nat × List Char)
    | [], v, any => .ok (finish v any, [])
    | c :: rest, v, any =>
      if c.isDigit then
        let v := v * 10 + (c.toNat - '0'.toNat)
        if v > 65535 then .error .invalidPort else go rest v true
      else if c == '/' || c == '\\' || c == '?' || c == '#' then .ok (finish v any, c :: rest)
      else .error .invalidPort
  /-- The port read, unless none was or it is the default. -/
  finish (v : Nat) (any : Bool) : Option Nat :=
    if !any || defaultPort scheme == some v then none else some v

/-- The user information of an authority: the user, the password and the rest, or `none`
when the authority has none. -/
def userinfo (special : Bool) (cs : List Char) : Except Fault (Option (String × Option String) × List Char) :=
  let part := cs.takeWhile fun c => !endsPart special c
  match part.reverse.findIdx? (· == '@') with
  | none => .ok (none, cs)
  | some fromEnd =>
    let at_ := part.length - 1 - fromEnd
    let rest := cs.drop (at_ + 1)
    if at_ = 0 then
      match rest with
      | c :: _ => if endsPart special c then .error .emptyHost else .ok (none, rest)
      | [] => .ok (none, rest)
    else
      let info := cs.take at_
      let user := info.takeWhile (· != ':')
      let password := match info.dropWhile (· != ':') with
        | ':' :: p@(_ :: _) => some (String.ofList p)
        | _ => none
      if user.isEmpty && password.isNone then .ok (none, rest)
      else .ok (some (String.ofList user, password), rest)

/-- Splits a path, query and fragment. -/
def pathAndQuery (cs : List Char) : String × Option String :=
  let beforeFragment := cs.takeWhile (· != '#')
  let path := beforeFragment.takeWhile (· != '?')
  let query := match beforeFragment.dropWhile (· != '?') with
    | '?' :: q => some (String.ofList q)
    | _ => none
  (String.ofList path, query)

/-- Reads an authority and what follows it. -/
def authority (scheme : String) (cs : List Char) : Except Fault Url := do
  let special := isSpecial scheme
  let (info, rest) ← userinfo special cs
  let (hostText, rest) := hostChars special false rest
  let host ← if special && scheme != "file" then specialHost hostText
    else if hostText.isEmpty then pure "" else opaqueHost hostText
  if host.isEmpty then
    if rest.head? == some ':' then throw .emptyHost
    if info.isSome then throw .emptyHost
  let (port, rest) ← match rest with
    | ':' :: more => port? scheme more
    | _ => pure (none, rest)
  let (path, query) := pathAndQuery rest
  return { scheme := scheme, username := (info.map (·.1)).getD "", password := info.bind (·.2),
           host := if host.isEmpty then none else some host, port := port, path := path, query := query }

/-- Reads an absolute URL. -/
def parse (text : String) : Except Fault Url :=
  let trimmed := ((text.toList.dropWhile (·.toNat ≤ 0x20)).reverse.dropWhile (·.toNat ≤ 0x20)).reverse
  let cs := trimmed.filter fun c => c != '\t' && c != '\n' && c != '\r'
  match scheme? cs with
  | none => .error .relativeWithoutBase
  | some (scheme, rest) =>
    if isSpecial scheme then authority scheme (rest.dropWhile fun c => c == '/' || c == '\\')
    else
      match rest with
      | '/' :: '/' :: more => authority scheme more
      | _ =>
        let (path, query) := pathAndQuery rest
        .ok { scheme := scheme, path := path, query := query }

/-- The pairs of a query, read as form data: split at `&` and at the first `=`, with `+`
standing for a blank and percent escapes decoded. -/
def queryPairs (u : Url) : List (String × String) :=
  let decode := fun (cs : List Char) =>
    Utf8.decodeLossy (percentDecode (String.ofList (cs.map fun c => if c == '+' then ' ' else c)))
  match u.query with
  | none => []
  | some q =>
    ((q.toList.splitOn '&').filter (!·.isEmpty)).map fun part =>
      (decode (part.takeWhile (· != '=')), decode ((part.dropWhile (· != '=')).drop 1))

/-- The fault of a text that is no URL, if any. -/
def fault? (text : String) : Option Fault :=
  match parse text with
  | .error f => some f
  | .ok _ => none

example : fault? "postgres://u@h:notaport/db" = some .invalidPort := by decide
example : fault? "not a url" = some .relativeWithoutBase := by decide
example : fault? "postgres:///db?host=/nonexistent" = none := by decide

end Url

end DocBatch

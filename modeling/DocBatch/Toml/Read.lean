import DocBatch.Toml.Tree

/-!
# Reading TOML text

`Toml.parse` reads a document. Reading is by small readers that either give a result and
the rest of the text or stop; a stop is *soft* (another way may be tried) or *hard* (the
text is wrong here, whatever else might follow). A stop carries where reading stopped and
a context: what was being read (a label, innermost first) and what would have been
accepted there. Its message is `invalid <label>`, then `expected <a>, <b>`, then the cause,
each on its own line and each only when known.

The grammar is the format's, read the way the reference reader reads it: a value is told by
its first character, numbers try a date, then a float, then an integer; a table header and
a key-value pair must end their line; arrays may span lines and hold comments.
-/

namespace DocBatch

namespace Toml

/-- What the context of a stop says. -/
inductive Note where
  | label (s : String)
  | expected (s : String)
  deriving Repr, DecidableEq, Inhabited

/-- Where and why reading stopped; `offset` is in characters, `none` when the fault
belongs to no place. -/
structure Stop where
  offset : Option Nat
  notes : List Note := []
  cause : Option String := none
  hard : Bool := false
  deriving Repr, Inhabited

/-- The message of a stop. -/
def Stop.message (s : Stop) : String :=
  let label := s.notes.findSome? fun | .label l => some l | _ => none
  let expected := s.notes.filterMap fun | .expected e => some e | _ => none
  let parts := (label.map ("invalid " ++ ·)).toList ++
    (if expected.isEmpty then [] else ["expected " ++ ", ".intercalate expected]) ++
    s.cause.toList
  "\n".intercalate parts

/-- The text still to read and how many characters were read before it. -/
structure Input where
  rest : List Char
  offset : Nat
  deriving Inhabited

/-- Reads an `α` from the front of the text. -/
abbrev Reader (α : Type) := Input → Except Stop (α × Input)

namespace Reader

variable {α β : Type}

/-- Gives `a`, reading nothing. -/
def pure (a : α) : Reader α := fun i => .ok (a, i)

/-- Reads with `p`, then with what `f` makes of its result. -/
def bind (p : Reader α) (f : α → Reader β) : Reader β := fun i =>
  match p i with
  | .ok (a, j) => f a j
  | .error s => .error s

instance : Monad Reader where
  pure := Reader.pure
  bind := Reader.bind

/-- A soft stop here. -/
def fail : Reader α := fun i => .error { offset := some i.offset }

/-- A soft stop here with a cause. -/
def failWith (cause : String) : Reader α := fun i => .error { offset := some i.offset, cause := some cause }

/-- Adds a note to the stops of `p`. -/
def note (n : Note) (p : Reader α) : Reader α := fun i =>
  match p i with
  | .error s => .error { s with notes := s.notes ++ [n] }
  | r => r

/-- Adds the label `l` to the stops of `p`. -/
def label (l : String) (p : Reader α) : Reader α := note (.label l) p

/-- Adds what would have been accepted to the stops of `p`. -/
def expect (e : String) (p : Reader α) : Reader α := note (.expected e) p

/-- Makes every stop of `p` hard. -/
def cut (p : Reader α) : Reader α := fun i =>
  match p i with
  | .error s => .error { s with hard := true }
  | r => r

/-- `p`, or nothing when it stops softly. -/
def opt (p : Reader α) : Reader (Option α) := fun i =>
  match p i with
  | .ok (a, j) => .ok (some a, j)
  | .error s => if s.hard then .error s else .ok (none, i)

/-- `p`, or else `q` from the same place; when both stop softly, `q`'s stop counts. -/
def orElse (p q : Reader α) : Reader α := fun i =>
  match p i with
  | .error s => if s.hard then .error s else q i
  | r => r

/-- The next character, not taken. -/
def peek : Reader (Option Char) := fun i => .ok (i.rest.head?, i)

/-- The next two characters, not taken. -/
def peekTwo : Reader (List Char) := fun i => .ok (i.rest.take 2, i)

/-- Where reading stands. -/
def offset : Reader Nat := fun i => .ok (i.offset, i)

/-- Takes the next character. -/
def any : Reader Char := fun i =>
  match i.rest with
  | c :: rest => .ok (c, ⟨rest, i.offset + 1⟩)
  | [] => .error { offset := some i.offset }

/-- Takes the next character if it satisfies `p`. -/
def satisfy (p : Char → Bool) : Reader Char := fun i =>
  match i.rest with
  | c :: rest => if p c then .ok (c, ⟨rest, i.offset + 1⟩) else .error { offset := some i.offset }
  | [] => .error { offset := some i.offset }

/-- Takes the character `c`. -/
def char (c : Char) : Reader Char := satisfy (· == c)

/-- Takes the exact text `t`. -/
def tag (t : String) : Reader Unit := fun i =>
  let cs := t.toList
  if cs.isPrefixOf i.rest then .ok ((), ⟨i.rest.drop cs.length, i.offset + cs.length⟩)
  else .error { offset := some i.offset }

/-- Succeeds at the end of the text only. -/
def eof : Reader Unit := fun i =>
  if i.rest.isEmpty then .ok ((), i) else .error { offset := some i.offset }

/-- Takes characters satisfying `p`, at least `lo` and at most `hi` of them; with fewer,
it stops where it started. -/
def takeWhile (lo hi : Nat) (p : Char → Bool) : Reader String := fun i =>
  let taken := (i.rest.take hi).takeWhile p
  if taken.length < lo then .error { offset := some i.offset }
  else .ok (String.ofList taken, ⟨i.rest.drop taken.length, i.offset + taken.length⟩)

/-- The text that `p` reads. -/
def taken (p : Reader α) : Reader String := fun i =>
  match p i with
  | .ok (_, j) => .ok (String.ofList (i.rest.take (j.offset - i.offset)), j)
  | .error s => .error s

/-- `p`'s result with the span it read. -/
def spanned (p : Reader α) : Reader (α × Span) := fun i =>
  match p i with
  | .ok (a, j) => .ok ((a, ⟨i.offset, j.offset⟩), j)
  | .error s => .error s

/-- `p` with `f` applied to its result; when `f` refuses, a soft stop where `p` started,
with `f`'s cause. -/
def tryMap (p : Reader α) (f : α → Except String β) : Reader β := fun i =>
  match p i with
  | .ok (a, j) =>
    match f a with
    | .ok b => .ok (b, j)
    | .error cause => .error { offset := some i.offset, cause := some cause }
  | .error s => .error s

/-- `p` when its result passes `test`; otherwise a soft stop where `p` started. -/
def verify (p : Reader α) (test : α → Bool) : Reader α := fun i =>
  match p i with
  | .ok (a, j) => if test a then .ok (a, j) else .error { offset := some i.offset }
  | .error s => .error s

/-- Repeats `p` while it reads something, at most `fuel` times. -/
def manyFor (p : Reader α) : Nat → List α → Reader (List α)
  | 0, acc => fun i => .ok (acc.reverse, i)
  | fuel + 1, acc => fun i =>
    match p i with
    | .ok (a, j) =>
      if j.offset == i.offset then .ok ((a :: acc).reverse, j) else manyFor p fuel (a :: acc) j
    | .error s => if s.hard then .error s else .ok (acc.reverse, i)

/-- `p` as often as it reads something: a soft stop ends the repetition where it began. -/
def many (p : Reader α) : Reader (List α) := fun i => manyFor p (i.rest.length + 1) [] i

/-- `p` at least once, then as often as it reads something. -/
def many1 (p : Reader α) : Reader (List α) := do
  let a ← p
  let rest ← many p
  return a :: rest

/-- More items after separators, after the first: a separator not followed by an item is
not taken. -/
def sepTail (p : Reader α) (sep : Reader β) : Nat → List α → Reader (List α)
  | 0, acc => fun i => .ok (acc.reverse, i)
  | fuel + 1, acc => fun i =>
    match sep i with
    | .error s => if s.hard then .error s else .ok (acc.reverse, i)
    | .ok (_, j) =>
      match p j with
      | .error s => if s.hard then .error s else .ok (acc.reverse, i)
      | .ok (a, k) => if k.offset == i.offset then .ok ((a :: acc).reverse, k)
        else sepTail p sep fuel (a :: acc) k

/-- One or more items between separators. -/
def sep1 (p : Reader α) (sep : Reader β) : Reader (List α) := fun i =>
  match p i with
  | .ok (a, j) => sepTail p sep (j.rest.length + 1) [a] j
  | .error s => .error s

/-- Items between separators, maybe none. -/
def sep0 (p : Reader α) (sep : Reader β) : Reader (List α) := fun i =>
  match p i with
  | .ok (a, j) => sepTail p sep (j.rest.length + 1) [a] j
  | .error s => if s.hard then .error s else .ok ([], i)

end Reader

open Reader

/-! ## Characters -/

/-- Blanks within a line. -/
def isBlank (c : Char) : Bool := c == ' ' || c == '\t'

/-- Characters allowed in a comment. -/
def isCommentChar (c : Char) : Bool := c == '\t' || (0x20 ≤ c.toNat && c.toNat ≤ 0x7E) || 0x80 ≤ c.toNat

/-- Characters of a bare key. -/
def isBareKeyChar (c : Char) : Bool := c.isAlphanum || c == '-' || c == '_'

/-- Characters standing for themselves in a basic string. -/
def isBasicChar (c : Char) : Bool :=
  isBlank c || c.toNat == 0x21 || (0x23 ≤ c.toNat && c.toNat ≤ 0x5B) ||
    (0x5D ≤ c.toNat && c.toNat ≤ 0x7E) || 0x80 ≤ c.toNat

/-- Characters of a literal string. -/
def isLiteralChar (c : Char) : Bool :=
  c == '\t' || (0x20 ≤ c.toNat && c.toNat ≤ 0x26) || (0x28 ≤ c.toNat && c.toNat ≤ 0x7E) ||
    0x80 ≤ c.toNat

/-- Hexadecimal digits. -/
def isHexDigit (c : Char) : Bool :=
  c.isDigit || ('a' ≤ c && c ≤ 'f') || ('A' ≤ c && c ≤ 'F')

/-- The value of a digit in a base up to 16. -/
def digitOf (c : Char) : Nat :=
  if c.isDigit then c.toNat - '0'.toNat
  else if 'a' ≤ c && c ≤ 'f' then c.toNat - 'a'.toNat + 10
  else c.toNat - 'A'.toNat + 10

/-! ## Blanks, comments and line ends -/

/-- Blanks. -/
def blanks : Reader String := takeWhile 0 (Nat.pow 2 64) isBlank

/-- A line end: a line feed, or a carriage return and a line feed. -/
def newline : Reader Unit := do
  match ← any with
  | '\n' => return ()
  | '\r' => let _ ← char '\n'; return ()
  | _ => fail

/-- A comment, up to the line end. -/
def comment : Reader Unit := do
  let _ ← char '#'
  let _ ← takeWhile 0 (Nat.pow 2 64) isCommentChar

/-- A line end or the end of the text. -/
def lineEnding : Reader Unit := orElse newline eof

/-- What may end a line after its content: blanks, a comment, the line end. -/
def lineTrailing : Reader Unit := do
  let _ ← blanks
  let _ ← opt comment
  lineEnding

/-- Blanks and line ends. -/
def blanksAndNewlines : Reader Unit := do
  let _ ← many (orElse (do newline; return "\n") (takeWhile 1 (Nat.pow 2 64) isBlank))

/-- Blanks, comments and line ends, at most `fuel` lines of them. A comment must end its
line, and a carriage return must be followed by a line feed: otherwise reading stops there. -/
def gapFor : Nat → Reader Unit
  | 0 => Reader.pure ()
  | fuel + 1 => fun i =>
    match blanks i with
    | .error s => .error s
    | .ok (_, j) =>
      let line : Option (Reader Unit) := match j.rest with
        | '#' :: _ => some (do comment; newline)
        | '\n' :: _ | '\r' :: _ => some newline
        | _ => none
      match line with
      | none => .ok ((), j)
      | some p =>
        match p j with
        | .ok (_, k) => gapFor fuel k
        | .error s => .error s

/-- Blanks, comments and line ends between and around array items. -/
def gap : Reader Unit := fun i => gapFor (i.rest.length + 1) i

/-! ## Strings -/

/-- A code point from `n` hexadecimal digits. -/
def hexEscape (n : Nat) : Reader Char :=
  tryMap (verify (takeWhile 0 n isHexDigit) (·.length == n)) fun digits =>
    let v := digits.toList.foldl (fun acc c => acc * 16 + digitOf c) 0
    if v < 0xD800 || (0xDFFF < v && v ≤ 0x10FFFF) then .ok (Char.ofNat v)
    else .error Conflict.outOfRange.message

/-- The characters that may follow a backslash. -/
def escapeLetters : List String := ["`b`", "`f`", "`n`", "`r`", "`t`", "`u`", "`U`", "`\\`", "`\"`"]

/-- What a backslash and the letters after it stand for. The letter is judged by its first
octet, so an unknown one stops reading after it when it is a single octet, and at it when it
is longer. -/
def escaped : Reader Char := do
  let _ ← char '\\'
  let start ← offset
  match ← any with
  | 'b' => return '\x08'
  | 'f' => return '\x0c'
  | 'n' => return '\n'
  | 'r' => return '\r'
  | 't' => return '\t'
  | '\\' => return '\\'
  | '"' => return '"'
  | 'u' => label "unicode 4-digit hex code" (cut (hexEscape 4))
  | 'U' => label "unicode 8-digit hex code" (cut (hexEscape 8))
  | c =>
    let stop : Reader Char := fun i =>
      .error { offset := some (if c.toNat < 0x80 then i.offset else start) }
    escapeLetters.foldl (fun p e => expect e p) (label "escape sequence" (cut stop))

/-- A piece of a basic string: characters standing for themselves, or an escape. -/
def basicPiece : Reader String :=
  orElse (takeWhile 1 (Nat.pow 2 64) isBasicChar) (do return String.singleton (← escaped))

/-- A basic string, `"…"`. -/
def basicString : Reader String := do
  let _ ← char '"'
  let pieces ← many basicPiece
  let _ ← label "basic string" (cut (char '"'))
  return String.join pieces

/-- A literal string, `'…'`. -/
def literalString : Reader String :=
  label "literal string" do
    let _ ← char '\''
    let s ← cut (takeWhile 0 (Nat.pow 2 64) isLiteralChar)
    let _ ← cut (char '\'')
    return s

/-- Reads with `p` but takes nothing. -/
def lookahead (p : Reader α) : Reader Unit := fun i =>
  match p i with
  | .ok _ => .ok ((), i)
  | .error s => .error s

/-- One or two quote characters `q` when followed by what `term` reads. -/
def quotes (q : Char) (term : Reader Unit) : Reader String :=
  orElse (do tag (String.ofList [q, q]); lookahead term; return String.ofList [q, q])
    (do let _ ← char q; lookahead term; return String.singleton q)

/-- A piece of a multi-line basic string. -/
def multiBasicPiece : Reader String :=
  orElse (takeWhile 1 (Nat.pow 2 64) isBasicChar) <|
  orElse (do let _ ← many1 (do let _ ← char '\\'; let _ ← blanks; newline; blanksAndNewlines); return "") <|
  orElse (do return String.singleton (← escaped)) (do newline; return "\n")

/-- Not a quote character `q`. -/
def notQuote (q : Char) : Reader Unit := do let _ ← satisfy (· != q)

/-- Runs of one or two quotes inside a multi-line basic string, each followed by pieces, at
most `fuel` of them. Quotes after which no piece can be read end the body there, the quotes
taken. -/
def multiBasicQuoted : Nat → Reader String
  | 0 => Reader.pure ""
  | fuel + 1 => fun i =>
    match opt (quotes '"' (notQuote '"')) i with
    | .error s => .error s
    | .ok (none, j) => .ok ("", j)
    | .ok (some q, j) =>
      match opt multiBasicPiece j with
      | .error s => .error s
      | .ok (none, k) => .ok ("", k)
      | .ok (some p, k) =>
        match many multiBasicPiece k with
        | .error s => .error s
        | .ok (ps, l) =>
          match multiBasicQuoted fuel l with
          | .error s => .error s
          | .ok (rest, m) => .ok (q ++ p ++ String.join ps ++ rest, m)

/-- The body of a multi-line basic string. -/
def multiBasicBody : Reader String := do
  let first ← many multiBasicPiece
  let middle ← fun i => multiBasicQuoted (i.rest.length + 1) i
  let last ← opt (quotes '"' (tag "\"\"\""))
  return String.join first ++ middle ++ (last.getD "")

/-- A multi-line basic string, `"""…"""`. -/
def multiBasicString : Reader String :=
  label "multiline basic string" do
    tag "\"\"\""
    let _ ← opt newline
    let s ← cut multiBasicBody
    cut (tag "\"\"\"")
    return s

/-- A piece of a multi-line literal string. -/
def multiLiteralPiece : Reader String :=
  orElse (do return String.singleton (← satisfy isLiteralChar)) (do newline; return "\n")

/-- The body of a multi-line literal string. -/
def multiLiteralBody : Reader String := do
  let first ← many multiLiteralPiece
  let middle ← many (do
    let q ← quotes '\'' (notQuote '\'')
    let more ← many1 multiLiteralPiece
    return q ++ String.join more)
  let last ← opt (quotes '\'' (tag "'''"))
  return String.join first ++ String.join middle ++ (last.getD "")

/-- A multi-line literal string, `'''…'''`. -/
def multiLiteralString : Reader String :=
  label "multiline literal string" do
    tag "'''"
    let _ ← opt newline
    let s ← cut multiLiteralBody
    cut (tag "'''")
    return s

/-- A string of any of the four kinds. -/
def string : Reader String :=
  orElse multiBasicString <| orElse basicString <| orElse multiLiteralString literalString

/-! ## Keys -/

/-- A key without dots: quoted, or bare. -/
def simpleKey : Reader Key := do
  let (name, span) ← spanned do
    match ← peek with
    | some '"' => basicString
    | some '\'' => literalString
    | _ => takeWhile 1 (Nat.pow 2 64) isBareKeyChar
  return { name := name, raw := "", span := span }

/-- A key, maybe dotted, with blanks around its parts. -/
def key : Reader (List Key) :=
  label "key" (sep1 (do let _ ← blanks; let k ← simpleKey; let _ ← blanks; return k) (char '.'))

/-! ## Numbers -/

/-- Digits accepted by `p`, single underscores allowed between them. -/
def digitsWith (p : Char → Bool) : Reader Unit := do
  let _ ← satisfy p
  let _ ← many (orElse (do let _ ← satisfy p; return ())
    (do let _ ← char '_'; let _ ← cut (expect "digit" (satisfy p)); return ()))

/-- A decimal integer as written: a sign, then `0` or digits not starting with `0`. -/
def decimalText : Reader String :=
  label "integer" <| taken do
    let _ ← opt (satisfy fun c => c == '+' || c == '-')
    orElse (do
        let _ ← satisfy fun c => c.isDigit && c != '0'
        let _ ← many (orElse (do let _ ← satisfy Char.isDigit; return ())
          (do let _ ← char '_'; let _ ← cut (expect "digit" (satisfy Char.isDigit)); return ())))
      (do let _ ← satisfy Char.isDigit; return ())

/-- The 64-bit signed integer a decimal text stands for. -/
def decimalValue (s : String) : Except String Int :=
  let cs := s.toList.filter (· != '_')
  let (negative, digits) := match cs with
    | '-' :: rest => (true, rest)
    | '+' :: rest => (false, rest)
    | rest => (false, rest)
  let v : Int := digits.foldl (fun acc c => acc * 10 + (c.toNat - '0'.toNat)) 0
  if negative then
    if v > Int.pow 2 63 then .error "number too small to fit in target type" else .ok (-v)
  else if v ≥ Int.pow 2 63 then .error "number too large to fit in target type" else .ok v

/-- Digits after a base prefix. -/
def prefixed (pre name : String) (p : Char → Bool) : Reader String :=
  label name do
    tag pre
    cut (taken (digitsWith p))

/-- The value of digits in a base, within the 64-bit signed range. -/
def radixValue (base : Nat) (s : String) : Except String Int :=
  let v := (s.toList.filter (· != '_')).foldl (fun acc c => acc * base + digitOf c) 0
  if v ≥ Nat.pow 2 63 then .error "number too large to fit in target type" else .ok (v : Int)

/-- An integer: hexadecimal, octal, binary or decimal. -/
def integer : Reader Int := do
  match ← peekTwo with
  | ['0', 'x'] => cut (tryMap (prefixed "0x" "hexadecimal integer" isHexDigit) (radixValue 16))
  | ['0', 'o'] => cut (tryMap (prefixed "0o" "octal integer" fun c => '0' ≤ c && c ≤ '7') (radixValue 8))
  | ['0', 'b'] => cut (tryMap (prefixed "0b" "binary integer" fun c => c == '0' || c == '1') (radixValue 2))
  | _ => fun i =>
    match decimalText i with
    | .error s => .error s
    | .ok (text, j) =>
      match decimalValue text with
      | .ok v => .ok (v, j)
      | .error cause => .error { offset := some i.offset, cause := some cause, hard := true }

/-- Decimal digits with single underscores between them, a leading `0` allowed. -/
def zeroPrefixable : Reader Unit := digitsWith Char.isDigit

/-- An exponent part. -/
def exponentPart : Reader Unit := do
  let _ ← satisfy fun c => c == 'e' || c == 'E'
  let _ ← opt (satisfy fun c => c == '+' || c == '-')
  cut zeroPrefixable

/-- A fraction part. -/
def fractionPart : Reader Unit := do
  let _ ← char '.'
  cut (expect "digit" zeroPrefixable)

/-- The text of a float: an integer part, then an exponent, or a fraction and maybe an
exponent. -/
def floatText : Reader String :=
  taken do
    let _ ← decimalText
    orElse exponentPart (do fractionPart; let _ ← opt exponentPart)

/-- The nearest double to a decimal text (digits, a point, an exponent), rounded to even;
positive infinity when too large. -/
def realValue (s : String) : Real :=
  let cs := s.toList.filter (· != '_')
  let (negative, cs) := match cs with
    | '-' :: rest => (true, rest)
    | '+' :: rest => (false, rest)
    | rest => (false, rest)
  let mantissa := cs.takeWhile fun c => c != 'e' && c != 'E'
  let expText := (cs.dropWhile fun c => c != 'e' && c != 'E').drop 1
  let whole := mantissa.takeWhile (· != '.')
  let frac := (mantissa.dropWhile (· != '.')).drop 1
  let digits := (whole ++ frac).foldl (fun acc c => acc * 10 + (c.toNat - '0'.toNat)) 0
  let (expNeg, expDigits) := match expText with
    | '-' :: rest => (true, rest)
    | '+' :: rest => (false, rest)
    | rest => (false, rest)
  let e : Int := expDigits.foldl (fun acc c => acc * 10 + (c.toNat - '0'.toNat)) 0
  let e : Int := (if expNeg then -e else e) - frac.length
  let magnitude : Option Binary64 :=
    if digits = 0 then some Binary64.zero
    else if e > 400 then none
    else if e < -800 then some Binary64.zero
    else if e ≥ 0 then Binary64.roundRatio (digits * Nat.pow 10 e.toNat) 1
    else Binary64.roundRatio digits (Nat.pow 10 e.natAbs)
  match magnitude with
  | some x => .finite (if negative then x.neg else x)
  | none => .infinite negative

/-- `inf` or `nan`, maybe signed. -/
def specialFloat : Reader Real := do
  let sign ← opt (satisfy fun c => c == '+' || c == '-')
  orElse (do tag "inf"; return .infinite (sign == some '-')) (do tag "nan"; return .nan)

/-- A float. -/
def float : Reader Real :=
  label "floating-point number" <|
    orElse (fun i =>
      match floatText i with
      | .error s => .error s
      | .ok (text, j) =>
        match realValue text with
        | .infinite false => .error { offset := some i.offset, hard := true }
        | x => .ok (x, j))
      specialFloat

/-! ## Dates and times -/

/-- Exactly `n` digits as a number. -/
def digitsValue (n : Nat) : Reader Nat := do
  let s ← takeWhile n n Char.isDigit
  return s.toList.foldl (fun acc c => acc * 10 + (c.toNat - '0'.toNat)) 0

/-- Two digits within `[lo, hi]`. -/
def bounded (lo hi : Nat) : Reader Nat :=
  tryMap (digitsValue 2) fun v => if lo ≤ v && v ≤ hi then .ok v else .error Conflict.outOfRange.message

/-- Whether a year is a leap year. -/
def isLeap (y : Nat) : Bool := y % 4 == 0 && (y % 100 != 0 || y % 400 == 0)

/-- The days of a month. -/
def monthDays (y m : Nat) : Nat :=
  if m == 2 then (if isLeap y then 29 else 28)
  else if m == 4 || m == 6 || m == 9 || m == 11 then 30 else 31

/-- A date `YYYY-MM-DD`. -/
def fullDate : Reader Unit := do
  let y ← digitsValue 4
  let _ ← char '-'
  let m ← cut (bounded 1 12)
  let _ ← cut (char '-')
  let d ← cut (bounded 1 31)
  if monthDays y m < d then
    fun i => .error { offset := some (i.offset - 2), cause := some Conflict.outOfRange.message, hard := true }
  else return ()

/-- A time `HH:MM:SS` with maybe a fraction of a second. -/
def partialTime : Reader Unit := do
  let _ ← bounded 0 23
  let _ ← char ':'
  cut do
    let _ ← bounded 0 59
    let _ ← char ':'
    let _ ← bounded 0 60
    let _ ← opt (do let _ ← char '.'; takeWhile 1 (Nat.pow 2 64) Char.isDigit)

/-- A time offset: `Z`, or a signed `HH:MM`. -/
def timeOffset : Reader Unit :=
  label "time offset" <|
    orElse (do let _ ← satisfy fun c => c == 'Z' || c == 'z'; return ())
      (do
        let _ ← satisfy fun c => c == '+' || c == '-'
        let _ ← cut (do let _ ← bounded 0 23; let _ ← char ':'; bounded 0 59)
        return ())

/-- A date with maybe a time and an offset, or a time alone. -/
def dateTime : Reader Moment :=
  orElse
    (label "date-time" do
      fullDate
      let time ← opt (do
        let _ ← satisfy fun c => c == 'T' || c == 't' || c == ' '
        partialTime
        opt timeOffset)
      return match time with
        | none => .localDate
        | some none => .localDateTime
        | some (some _) => .offsetDateTime)
    (label "time" do partialTime; return .localTime)

/-! ## Values -/

/-- Notes that a string was expected here. -/
def asString (p : Reader α) : Reader α := expect "`'`" (expect "`\"`" (label "string" p))

/-- An array of values read by `item`: items between commas, each with blanks, comments
and line ends around it, maybe a comma after the last item, more blanks, comments and line
ends, and the closing bracket. -/
def array (item : Reader Value) : Reader (List Value) := do
  let _ ← char '['
  let items ← cut do
    let items ← sep0 (do gap; let v ← item; gap; return v) (char ',')
    let _ ← if items.isEmpty then Reader.pure none else opt (char ',')
    gap
    return items
  let _ ← cut (expect "`]`" (label "array" (char ']')))
  return items

/-- A key-value pair inside an inline table. -/
def inlinePair (item : Reader Value) : Reader (List Key × Key × Value) := do
  let path ← key
  cut do
    let _ ← expect "`=`" (expect "`.`" (char '='))
    let _ ← blanks
    let v ← item
    let _ ← blanks
    return (path.dropLast, path.getLast!, v)

/-- An inline table of values read by `item`. -/
def inlineTable (item : Reader Value) : Reader (List (Key × Value)) := do
  let _ ← char '{'
  let entries ← cut (tryMap (do let ps ← sep0 (inlinePair item) (char ','); let _ ← blanks; return ps)
    fun ps => (inlineEntries ps []).mapError Conflict.message)
  let _ ← cut (expect "`\x7d`" (label "inline table" (char '}')))
  return entries

/-- How many arrays and inline tables may be open at once; one more is refused at its
opening bracket. -/
def nestingLimit : Nat := 79

/-- A stop at an opening bracket that would nest too deep. -/
def tooDeep {α : Type} : Reader α := cut (failWith Conflict.tooDeep.message)

/-- A value, inside which `room` more arrays and inline tables may open. It is told by its
first character; a point or an underscore is read as the start of a number, and a letter
other than those of `true`, `false`, `inf` and `nan` as the start of a string. -/
def value (room : Nat) : Reader Value := fun i =>
  let body : Reader (Span → Value) := do
    match ← peek with
    | none => fail
    | some '"' | some '\'' => return .string (← string)
    | some '[' =>
      match room with
      | 0 => tooDeep
      | r + 1 => return .array (← array (value r))
    | some '{' =>
      match room with
      | 0 => tooDeep
      | r + 1 => do
        let entries ← inlineTable (value r)
        return fun s => .inline entries false (some s)
    | some c =>
      if c == '+' || c == '-' || c.isDigit then
        orElse (do return .datetime (← dateTime)) <|
        orElse (do return .float (← float)) (do return .integer (← integer))
      else if c == '.' then expect "leading digit" do return .float (← float)
      else if c == '_' then expect "leading digit" do return .integer (← integer)
      else if c == 'i' then asString do tag "inf"; return .float (.infinite false)
      else if c == 'n' then asString do tag "nan"; return .float .nan
      else if c == 't' then asString do cut (tag "true"); return .boolean true
      else if c == 'f' then asString do cut (tag "false"); return .boolean false
      else asString fail
  match spanned body i with
  | .ok ((make, span), j) => .ok (make span, j)
  | .error s => .error s

/-! ## Documents -/

/-- The header of a table, `[path]`, or of an array of tables, `[[path]]`, with its span;
the flag tells an array of tables. -/
def header : Reader (Bool × List Key × Span) :=
  label "table header" do
    let two ← peekTwo
    if two.length < 2 then fail
    if two == ['[', '['] then
      let (path, span) ← spanned do
        tag "[["
        let path ← cut key
        cut (expect "`]]`" (expect "`.`" (tag "]]")))
        return path
      cut (expect "`#`" (expect "newline" lineTrailing))
      return (true, path, span)
    else
      let (path, span) ← spanned do
        let _ ← char '['
        let path ← cut key
        let _ ← cut (expect "`]`" (expect "`.`" (char ']')))
        return path
      cut (expect "`#`" (expect "newline" lineTrailing))
      return (false, path, span)

/-- A key-value pair on a line of its own. -/
def pair : Reader (List Key × Key × Value) := do
  let path ← key
  cut do
    let _ ← expect "`=`" (expect "`.`" (char '='))
    let _ ← blanks
    let v ← value nestingLimit
    expect "`#`" (expect "newline" lineTrailing)
    return (path.dropLast, path.getLast!, v)

/-- The text of keys, taken from the source by their spans. -/
def withRaw (source : List Char) (ks : List Key) : List Key :=
  ks.map fun k => { k with raw := String.ofList ((source.drop k.span.start).take (k.span.stop - k.span.start)) }

/-- A stop that a conflict makes where something started. -/
def conflictAt (start : Nat) (notes : List Note) (c : Conflict) : Stop :=
  { offset := some start, notes := notes, cause := some c.message, hard := true }

/-- Reads the lines of a document into the builder; `fuel` bounds the lines. -/
def lines (source : List Char) : Nat → Builder → Input → Except Stop Builder
  | 0, b, _ => .ok b
  | fuel + 1, b, i =>
    match i.rest with
    | [] => .ok b
    | c :: _ =>
      let step : Except Stop (Builder × Input) :=
        if c == '#' then
          match cut (do comment; lineEnding) i with
          | .ok (_, j) => .ok (b, j)
          | .error s => .error s
        else if c == '[' then
          match cut header i with
          | .error s => .error s
          | .ok ((isArray, path, span), j) =>
            let path := withRaw source path
            let built := if isArray then b.arrayHeader path span else b.header path span
            match built with
            | .ok b => .ok (b, j)
            | .error e => .error (conflictAt i.offset [.label "table header"] e)
        else if c == '\n' || c == '\r' then
          match newline i with
          | .ok (_, j) => .ok (b, j)
          | .error _ => .error { offset := some i.offset }
        else
          match cut pair i with
          | .error s => .error s
          | .ok ((path, k, v), j) =>
            match b.keyval (withRaw source path) k v with
            | .ok b => .ok (b, j)
            | .error e => .error (conflictAt i.offset [] e)
      match step with
      | .error s => .error s
      | .ok (b, j) =>
        match blanks j with
        | .ok (_, k) => lines source fuel b k
        | .error s => .error s

/-- Reads a TOML document: the root table's entries, or where and why reading stopped. -/
def parse (text : String) : Except Stop Entries := do
  let source := text.toList
  let start : Input := match source with
    | '\uFEFF' :: rest => ⟨rest, 1⟩
    | _ => ⟨source, 0⟩
  let (_, i) ← blanks start
  let b ← lines source (source.length + 1) {} i
  match b.close with
  | .ok b => return b.root
  | .error e => .error { offset := none, cause := some e.message }

end Toml

end DocBatch

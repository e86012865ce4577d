import DocBatch.Text.Utf8
import DocBatch.Text.Words
import DocBatch.Number.Digits
import DocBatch.Text.Alphanumeric

/-!
# Log filter directives

A log filter is a list of directives separated by commas; empty ones are skipped. A
directive is a level (`off`, `error`, `warn`, `info`, `debug`, `trace` in any case, or a
number from 0 to 5), a target, or `target[span{field=value,…}]=level` with any of its parts
left out.

A directive is read character by character after its surrounding blanks are dropped, but
the parts it cuts out are taken from the directive as written: positions count octets of the
trimmed text and are applied to the untrimmed one. What decides whether it reads:

* It must not be blank, and its first character must be `[`, `-`, `:`, `_`, or a letter or
  digit.
* A span in brackets must be closed; fields in braces must be closed, none of them empty,
  and after the closing brace only `]` may come; after a span only `=` may come.
* The text after `=` must be a level; what follows a target without `=` may be anything,
  since a text that is no level is a target.

A filter read leniently skips each directive it cannot read, with a warning naming it; a
filter read strictly fails at the first.
-/

namespace DocBatch

namespace LogFilter

/-- The levels a filter lets through, from none to all. -/
inductive Level where
  | off
  | error
  | warn
  | info
  | debug
  | trace
  deriving Repr, DecidableEq, Inhabited

/-- Whether two texts are equal up to the case of ASCII letters. -/
def sameIgnoringCase (a b : String) : Bool := a.toList.map Char.toLower == b.toList.map Char.toLower

/-- The level a text names, if any: a number from 0 to 5 or a name in any case; the empty
text names `error`. -/
def Level.ofString? (s : String) : Option Level :=
  match (readNatural (Nat.pow 2 64 - 1) s).toOption with
  | some 0 => some .off
  | some 1 => some .error
  | some 2 => some .warn
  | some 3 => some .info
  | some 4 => some .debug
  | some 5 => some .trace
  | _ =>
    if s.isEmpty then some .error
    else
      [("error", Level.error), ("warn", .warn), ("info", .info), ("debug", .debug), ("trace", .trace),
        ("off", .off)].find? (fun (name, _) => sameIgnoringCase s name) |>.map (·.2)

/-- Why a directive cannot be read. -/
inductive Fault where
  /-- The directive's shape is wrong. -/
  | invalid
  /-- The text after `=` names no level. -/
  | level
  deriving Repr, DecidableEq, Inhabited

/-- The text of a fault. -/
def Fault.message : Fault → String
  | .invalid => "invalid filter directive"
  | .level =>
    "error parsing level filter: expected one of \"off\", \"error\", \"warn\", \"info\", \"debug\", " ++
      "\"trace\", or a number 0-5"

/-- Where the reading of a directive is. -/
inductive State where
  | start
  | levelOrTarget
  | span
  | field (from_ : Nat)
  | fields
  | target
  | level (from_ : Nat)
  deriving Repr, DecidableEq, Inhabited

/-- Whether a character counts as a letter or a digit, of any script. -/
def isAlphanumeric (c : Char) : Bool := Alphanumeric.contains c

/-- The text of the octets of a directive from one position to another (or its end). -/
def cut (raw : Bytes) (from_ : Nat) (upTo : Option Nat) : String :=
  let rest := raw.drop from_
  Utf8.decodeLossy (match upTo with
    | some t => rest.take (t - from_)
    | none => rest)

/-- Reads the characters of a trimmed directive, each with its octet position, from a state;
the state at the end. -/
def step (raw : Bytes) : State → List (Nat × Char) → Except Fault State
  | s, [] => .ok s
  | s, (i, c) :: rest =>
    let next : Except Fault State := match s, c with
      | .start, '[' => .ok .span
      | .start, c =>
        if c == '-' || c == ':' || c == '_' || isAlphanumeric c then .ok .levelOrTarget else .error .invalid
      | .levelOrTarget, '=' => .ok (.level (i + 1))
      | .levelOrTarget, '[' => .ok .span
      | .levelOrTarget, _ => .ok .levelOrTarget
      | .target, '=' => .ok (.level (i + 1))
      | .span, ']' => .ok .target
      | .span, '\x7b' => .ok (.field (i + 1))
      | .span, _ => .ok .span
      | .field from_, '\x7d' => if (cut raw from_ (some i)).isEmpty then .error .invalid else .ok .fields
      | .field from_, _ => .ok (.field from_)
      | .fields, ']' => .ok .target
      | .level from_, _ => .ok (.level from_)
      | _, _ => .error .invalid
    match next with
    | .ok s => step raw s rest
    | .error f => .error f

/-- The characters of a text with the octet position of each. -/
def positioned (cs : List Char) : List (Nat × Char) :=
  (cs.foldl (fun (acc : List (Nat × Char) × Nat) c => ((acc.2, c) :: acc.1, acc.2 + (Utf8.encodeChar c).length))
    ([], 0)).1.reverse

/-- Reads a directive, failing with the fault that stops it. -/
def Directive.check (directive : String) : Except Fault Unit := do
  let raw := Utf8.encode directive
  let trimmed := ((directive.toList.dropWhile Words.isSpace).reverse.dropWhile Words.isSpace).reverse
  match ← step raw .start (positioned trimmed) with
  | .levelOrTarget | .target => return ()
  | .level from_ =>
    let text := cut raw from_ none
    if text.isEmpty || (Level.ofString? text).isSome then return () else throw .level
  | _ => throw .invalid

/-- The fault that stops a directive, if any. -/
def Directive.fault? (directive : String) : Option Fault :=
  match Directive.check directive with
  | .ok () => none
  | .error f => some f

/-- The directives of a filter: its texts between commas, the empty ones skipped. -/
def directives (filter : String) : List String := (filter.splitOn ",").filter (!·.isEmpty)

/-- The warnings of reading a filter leniently, one line for each directive it skips. -/
def warnings (filter : String) : List String :=
  (directives filter).filterMap fun d =>
    (Directive.fault? d).map fun f =>
      "ignoring " ++ String.singleton (Char.ofNat 96) ++ d ++ String.singleton (Char.ofNat 96) ++ ": " ++ f.message

/-- Whether a filter reads strictly: every directive reads. -/
def isValid (filter : String) : Bool := (directives filter).all fun d => (Directive.fault? d).isNone

example : Directive.fault? "info" = none := by decide
example : Directive.fault? "not==a filter" = some .level := by decide
example : Directive.fault? "a[b" = some .invalid := by decide
example : Directive.fault? "a=debug " = some .level := by decide

end LogFilter

end DocBatch

import DocBatch.Number.Binary64

/-!
# TOML documents

A TOML document is a table: keys, in the order they were first written, each holding a
value, a table or an array of tables. Values remember where they were written (a span of
characters), so that a fault found when reading settings from them can point at them.

A table is *defined* by a header `[a.b]`, or made *implicitly* as a parent of a header
path, or made by *dotted* keys `a.b = 1`. The building rules (`Builder`) are those of the
format: a key is defined once; a table is defined by a header at most once, and a table that
dotted keys made is never reopened by a header, nor the other way round; a dotted key
never reaches into a value, and an array of tables is extended through its last table.
Inline tables are closed once written: nothing reaches into them.
-/

namespace DocBatch

namespace Toml

/-- A stretch of the source in characters: from `start` up to, not including, `stop`. -/
structure Span where
  start : Nat
  stop : Nat
  deriving Repr, DecidableEq, Inhabited

/-- A key as written: its name, its text in the source (quotes included) and where. -/
structure Key where
  name : String
  raw : String
  span : Span
  deriving Repr, Inhabited

/-- A floating-point number of the format, infinities and not-a-number included. -/
inductive Real where
  | finite (x : Binary64)
  | infinite (negative : Bool)
  | nan
  deriving Repr, DecidableEq, Inhabited

/-- The kinds of date and time values. -/
inductive Moment where
  | offsetDateTime
  | localDateTime
  | localDate
  | localTime
  deriving Repr, DecidableEq, Inhabited

/-- The name of a kind of date and time value. -/
def Moment.name : Moment → String
  | .offsetDateTime => "offset datetime"
  | .localDateTime => "local datetime"
  | .localDate => "local date"
  | .localTime => "local time"

/-- A value, with where it was written. An inline table made by a dotted key inside
another inline table is `dotted` and has no span of its own. -/
inductive Value where
  | string (s : String) (span : Span)
  | integer (i : Int) (span : Span)
  | float (x : Real) (span : Span)
  | boolean (b : Bool) (span : Span)
  | datetime (m : Moment) (span : Span)
  | array (items : List Value) (span : Span)
  | inline (entries : List (Key × Value)) (dotted : Bool) (span : Option Span)
  deriving Repr, Inhabited

/-- Where a value was written. -/
def Value.span? : Value → Option Span
  | .string _ s | .integer _ s | .float _ s | .boolean _ s | .datetime _ s | .array _ s => some s
  | .inline _ _ s => s

/-- The name of a value's type, as conflicts name it. -/
def Value.typeName : Value → String
  | .string .. => "string"
  | .integer .. => "integer"
  | .float .. => "float"
  | .boolean .. => "boolean"
  | .datetime m _ => m.name
  | .array .. => "array"
  | .inline .. => "inline table"

/-- How a table came to be: `implicit` while only a parent of other tables, `dotted` when
dotted keys made it; `span` is where it was defined. -/
structure Origin where
  implicit : Bool := false
  dotted : Bool := false
  span : Option Span := none
  deriving Repr, Inhabited

/-- What a key of a table holds. -/
inductive Item where
  | value (v : Value)
  | table (origin : Origin) (entries : List (Key × Item))
  | tables (list : List (Origin × List (Key × Item)))
  deriving Repr, Inhabited

/-- The entries of a table. -/
abbrev Entries := List (Key × Item)

/-- Why a document cannot be built. -/
inductive Conflict where
  /-- A key defined twice; the table is named when known (`some []` is the root). -/
  | duplicateKey (key : String) (table : Option (List String))
  /-- A dotted key reaching into a value. -/
  | extendsValue (path : List String) (actual : String)
  /-- A date, time or code point out of range. -/
  | outOfRange
  /-- Nesting too deep. -/
  | tooDeep
  deriving Repr, DecidableEq, Inhabited

/-- The text of a conflict. -/
def Conflict.message : Conflict → String
  | .duplicateKey key none => "duplicate key `" ++ key ++ "`"
  | .duplicateKey key (some []) => "duplicate key `" ++ key ++ "` in document root"
  | .duplicateKey key (some path) =>
    "duplicate key `" ++ key ++ "` in table `" ++ ".".intercalate path ++ "`"
  | .extendsValue path actual =>
    "dotted key `" ++ ".".intercalate path ++ "` attempted to extend non-table type (" ++ actual ++ ")"
  | .outOfRange => "value is out of range"
  | .tooDeep => "recursion limit exceeded"

/-- What a key holds among entries. -/
def lookup {β : Type} (name : String) (es : List (Key × β)) : Option β :=
  (es.find? (·.1.name == name)).map (·.2)

/-- Entries with what a key holds replaced in place. -/
def replace {β : Type} (name : String) (b : β) (es : List (Key × β)) : List (Key × β) :=
  es.map fun (k, x) => if k.name == name then (k, b) else (k, x)

/-- Entries without a key, the others in their order. -/
def removeKey {β : Type} (name : String) (es : List (Key × β)) : List (Key × β) :=
  es.filter (·.1.name != name)

/-- The names of keys. -/
def names (ks : List Key) : List String := ks.map (·.name)

/-- Follows `path` from a table, making implicit tables where keys are missing (`dotted`
when dotted keys are followed), entering the last table of an array of tables, and changes
the table reached by `f`, which is also given that table's origin. `whole` is the full path,
`i` the position of `path` in it. -/
def descend {α : Type} (dotted : Bool) (whole : List Key)
    (f : Origin → Entries → Except Conflict (Entries × α)) :
    Nat → Origin → Entries → List Key → Except Conflict (Entries × α)
  | _, o, es, [] => f o es
  | i, _, es, key :: rest =>
    match lookup key.name es with
    | none => do
      let o : Origin := { implicit := true, dotted := dotted }
      let (inner, a) ← descend dotted whole f (i + 1) o [] rest
      return (es ++ [(key, .table o inner)], a)
    | some (.value v) => .error (.extendsValue (names (whole.take (i + 1))) v.typeName)
    | some (.tables ts) =>
      match ts.getLast? with
      | some (o, inner) => do
        let (inner, a) ← descend dotted whole f (i + 1) o inner rest
        return (replace key.name (.tables (ts.dropLast ++ [(o, inner)])) es, a)
      | none => do
        let (inner, a) ← descend dotted whole f (i + 1) {} [] rest
        return (replace key.name (.tables [({}, inner)]) es, a)
    | some (.table o inner) =>
      if dotted && !o.implicit then .error (.duplicateKey key.name none)
      else do
        let (inner, a) ← descend dotted whole f (i + 1) o inner rest
        return (replace key.name (.table o inner) es, a)

/-- The state of building a document: the tables closed so far, and the table whose keys
are being written, with its origin, path and whether it is an element of an array. -/
structure Builder where
  root : Entries := []
  current : Entries := []
  origin : Origin := { span := some ⟨0, 0⟩ }
  path : List Key := []
  isArray : Bool := false
  deriving Inhabited

namespace Builder

/-- The conflict of defining the last key of a path again. -/
def redefined (path : List Key) : Conflict :=
  match path.getLast? with
  | some k => .duplicateKey k.raw (some (names path.dropLast))
  | none => .duplicateKey "" (some [])

/-- Adds `key = v` to the current table, under the dotted `path`. -/
def keyval (b : Builder) (path : List Key) (key : Key) (v : Value) : Except Conflict Builder := do
  let origin := match b.origin.span, v.span? with
    | some s, some t => { b.origin with span := some ⟨s.start, t.stop⟩ }
    | _, _ => b.origin
  let insert (o : Origin) (es : Entries) : Except Conflict (Entries × Unit) :=
    if o.dotted == path.isEmpty then .error (.duplicateKey key.name none)
    else if (lookup key.name es).isSome then .error (.duplicateKey key.name (some (names b.path)))
    else .ok (es ++ [(key, .value v)], ())
  let (current, ()) ← descend true path insert 0 origin b.current path
  return { b with current := current, origin := origin }

/-- Puts the current table in its place in the document and starts none. -/
def close (b : Builder) : Except Conflict Builder := do
  let done : Builder := { b with current := [], origin := {}, path := [], isArray := false }
  match b.path.getLast? with
  | none => return { done with root := b.current }
  | some key =>
    let parent := b.path.dropLast
    let place (_ : Origin) (es : Entries) : Except Conflict (Entries × Unit) :=
      if b.isArray then
        match lookup key.name es with
        | none => .ok (es ++ [(key, .tables [(b.origin, b.current)])], ())
        | some (.tables ts) => .ok (replace key.name (.tables (ts ++ [(b.origin, b.current)])) es, ())
        | some _ => .error (redefined b.path)
      else
        match lookup key.name es with
        | none => .ok (es ++ [(key, .table b.origin b.current)], ())
        | some (.table o _) =>
          if o.implicit then .ok (replace key.name (.table b.origin b.current) es, ())
          else .error (redefined b.path)
        | some _ => .error (redefined b.path)
    let (root, ()) ← descend false parent place 0 {} b.root parent
    return { done with root := root }

/-- Starts the table of a header `[path]` written at `span`: a table only implied so far is
taken up with what it holds. -/
def header (b : Builder) (path : List Key) (span : Span) : Except Conflict Builder := do
  let b ← b.close
  let parent := path.dropLast
  let take (_ : Origin) (es : Entries) : Except Conflict (Entries × Entries) :=
    match path.getLast? with
    | none => .ok (es, [])
    | some key =>
      match lookup key.name es with
      | none => .ok (es, [])
      | some (.table o inner) =>
        if o.implicit && !o.dotted then .ok (removeKey key.name es, inner)
        else .error (redefined path)
      | some _ => .error (redefined path)
  let (root, current) ← descend false parent take 0 {} b.root parent
  return { root := root, current := current, origin := { span := some span }, path := path,
           isArray := false }

/-- Starts a new table of the array of tables of a header `[[path]]` written at `span`. -/
def arrayHeader (b : Builder) (path : List Key) (span : Span) : Except Conflict Builder := do
  let b ← b.close
  let parent := path.dropLast
  let make (_ : Origin) (es : Entries) : Except Conflict (Entries × Unit) :=
    match path.getLast? with
    | none => .ok (es, ())
    | some key =>
      match lookup key.name es with
      | none => .ok (es ++ [(key, .tables [])], ())
      | some (.tables _) => .ok (es, ())
      | some _ => .error (redefined path)
  let (root, ()) ← descend false parent make 0 {} b.root parent
  return { root := root, current := [], origin := { span := some span }, path := path,
           isArray := true }

end Builder

/-- Follows a dotted path inside an inline table, making dotted inline tables where keys are
missing, and changes the table reached by `f`, which is told whether that table is dotted. -/
def descendInline {α : Type} (whole : List Key)
    (f : Bool → List (Key × Value) → Except Conflict (List (Key × Value) × α)) :
    Nat → Bool → List (Key × Value) → List Key → Except Conflict (List (Key × Value) × α)
  | _, d, es, [] => f d es
  | i, _, es, key :: rest =>
    match lookup key.name es with
    | none => do
      let (inner, a) ← descendInline whole f (i + 1) true [] rest
      return (es ++ [(key, .inline inner true none)], a)
    | some (.inline inner d s) =>
      if !d then .error (.duplicateKey key.name none)
      else do
        let (inner, a) ← descendInline whole f (i + 1) d inner rest
        return (replace key.name (.inline inner d s) es, a)
    | some v => .error (.extendsValue (names (whole.take (i + 1))) v.typeName)

/-- The entries of an inline table written as `path.key = value` pairs, in order. -/
def inlineEntries : List (List Key × Key × Value) → List (Key × Value) →
    Except Conflict (List (Key × Value))
  | [], es => .ok es
  | (path, key, v) :: rest, es => do
    let insert (d : Bool) (inner : List (Key × Value)) : Except Conflict (List (Key × Value) × Unit) :=
      if d == path.isEmpty then .error (.duplicateKey key.name none)
      else if (lookup key.name inner).isSome then .error (.duplicateKey key.name none)
      else .ok (inner ++ [(key, v)], ())
    let (es, ()) ← descendInline path insert 0 false es path
    inlineEntries rest es

end Toml

end DocBatch

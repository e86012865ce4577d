import DocBatch.Text.Words
import DocBatch.Text.Alphanumeric

/-!
# Environment files

An environment file (`.env`) sets variables that the environment does not set already. Its
lines are `KEY=value`, optionally after `export `; blank lines and lines starting with `#`
are skipped.

* A key starts with an ASCII letter or `_` and goes on with ASCII letters, digits, `_` and
  `.`. Blanks may surround the `=`.
* An unquoted value ends at a blank, after which only blanks or a `#` comment may follow.
  A backslash escapes `\`, `'`, `"`, `$` or a space, and `\n` is a line feed.
* In single quotes everything is literal; in double quotes the backslash escapes work. A
  quoted value may run over several lines.
* `$NAME` and `${NAME}` outside single quotes stand for the variable's value (from the
  environment first, then from the file so far); a bare name is made of letters and digits
  of any script, and the character that ends it is kept as written.

White space is Unicode white space throughout.

A byte order mark at the start of the file is skipped. Loading stops at the first line
that cannot be read; the variables set before it stay set.
-/

namespace DocBatch

namespace EnvFile

/-- Where the scan of a line's end is: whether a quote or an escape is open. -/
inductive Scan where
  | complete
  | escape
  | strongOpen
  | strongOpenEscape
  | weakOpen
  | weakOpenEscape
  | comment
  | whiteSpace
  deriving Repr, DecidableEq, Inhabited

/-- Whether a character is white space, line ends apart. -/
def isInlineSpace (c : Char) : Bool := Words.isSpace c && c != '\n' && c != '\r'

/-- Characters without leading white space. -/
def skipSpace (cs : List Char) : List Char := cs.dropWhile Words.isSpace

/-- Characters without trailing white space. -/
def trimEnd (cs : List Char) : List Char := (skipSpace cs.reverse).reverse

/-- Scans a physical line from a state: the state at its end, and for a comment the number
of characters before it. -/
def scanEnd : Scan → Nat → List Char → Scan × Nat
  | s, _, [] => (s, 0)
  | s, i, c :: rest =>
    let next := match s with
      | .whiteSpace =>
        if c == '#' then none
        else if c == '\\' then some Scan.escape
        else if c == '"' then some .weakOpen
        else if c == '\'' then some .strongOpen
        else some .complete
      | .escape => some .complete
      | .complete =>
        if isInlineSpace c then some .whiteSpace
        else if c == '\\' then some .escape
        else if c == '"' then some .weakOpen
        else if c == '\'' then some .strongOpen
        else some .complete
      | .weakOpen => if c == '\\' then some .weakOpenEscape else if c == '"' then some .complete else some .weakOpen
      | .weakOpenEscape => some .weakOpen
      | .strongOpen => if c == '\\' then some .strongOpenEscape else if c == '\'' then some .complete else some .strongOpen
      | .strongOpenEscape => some .strongOpen
      | .comment => none
    match next with
    | none => (.comment, i)
    | some s => scanEnd s (i + 1) rest

/-- The first physical line of characters, with its line feed, and the rest. -/
def physicalLine (cs : List Char) : List Char × List Char :=
  match cs.span (· != '\n') with
  | (line, '\n' :: rest) => (line ++ ['\n'], rest)
  | (line, rest) => (line, rest)

/-- Drops one line end from the end of a line: a line feed, then a carriage return. -/
def dropLineEnd (cs : List Char) : List Char :=
  let cs := if cs.getLast? == some '\n' then cs.dropLast else cs
  if cs.getLast? == some '\r' then cs.dropLast else cs

/-- The next logical line after `buf`, scanned from `state`: the line (or `none` when the
text ended inside a quote), and the rest of the text. `fuel` bounds the physical lines. -/
def logicalLine : Nat → Scan → List Char → List Char → Option (List Char) × List Char
  | 0, _, buf, rest => (some buf, rest)
  | fuel + 1, state, buf, rest =>
    match rest with
    | [] => (none, [])
    | _ =>
      let (line, rest) := physicalLine rest
      let whole := buf ++ line
      if (skipSpace whole).head? == some '#' then (some [], rest)
      else
        match scanEnd state 0 line with
        | (.complete, _) => (some (dropLineEnd whole), rest)
        | (.comment, i) => (some (buf ++ line.take i), rest)
        | (s, _) =>
          if rest.isEmpty then (none, []) else logicalLine fuel s whole rest

/-- The logical lines of a text, after a byte order mark if any, up to the first that ends
inside a quote. -/
def lines (text : String) : List String :=
  let cs := match text.toList with
    | '\uFEFF' :: rest => rest
    | cs => cs
  go (cs.length + 1) cs
where
  /-- The lines of the rest; `fuel` bounds their number. -/
  go : Nat → List Char → List String
    | 0, _ => []
    | _, [] => []
    | fuel + 1, cs =>
      match logicalLine (cs.length + 1) .complete [] cs with
      | (none, _) => []
      | (some line, rest) => String.ofList line :: go fuel rest

/-- Why a line cannot be read. -/
structure LineFault where
  line : String
  deriving Repr, Inhabited

/-- What values are known while reading: the environment's, then the file's so far. -/
structure Known where
  env : String → Option String
  file : List (String × String) := []

/-- The value a name stands for. -/
def Known.lookup (k : Known) (name : String) : String :=
  match k.env name with
  | some v => v
  | none => ((k.file.find? (·.1 == name)).map (·.2)).getD ""

/-- How a `$` substitution is being read. -/
inductive Substitution where
  | none
  | bare
  | braced
  deriving DecidableEq

/-- The state of reading a value. -/
structure ValueState where
  strong : Bool := false
  weak : Bool := false
  escaped : Bool := false
  expectingEnd : Bool := false
  output : String := ""
  mode : Substitution := .none
  name : String := ""

/-- Reads the characters of a value; `none` when the value is malformed. -/
def readValue (k : Known) : ValueState → List Char → Option ValueState
  | st, [] => some st
  | st, c :: rest =>
    if st.expectingEnd then
      if c == ' ' || c == '\t' then readValue k st rest
      else if c == '#' then some st
      else none
    else if st.escaped then
      if c == '\\' || c == '\'' || c == '"' || c == '$' || c == ' ' then
        readValue k { st with output := st.output.push c, escaped := false } rest
      else if c == 'n' then readValue k { st with output := st.output.push '\n', escaped := false } rest
      else none
    else if st.strong then
      if c == '\'' then readValue k { st with strong := false } rest
      else readValue k { st with output := st.output.push c } rest
    else if st.mode != .none then
      if Alphanumeric.contains c then readValue k { st with name := st.name.push c } rest
      else if st.mode == .bare then
        if c == '\x7b' && st.name.isEmpty then readValue k { st with mode := .braced } rest
        else
          let out := st.output ++ k.lookup st.name
          if c == '$' then readValue k { st with output := out, name := "", mode := .bare } rest
          else readValue k { st with output := out.push c, name := "", mode := .none } rest
      else if c == '\x7d' then
        readValue k { st with output := st.output ++ k.lookup st.name, name := "", mode := .none } rest
      else readValue k { st with name := st.name.push c } rest
    else if c == '$' then readValue k { st with mode := .bare } rest
    else if st.weak then
      if c == '"' then readValue k { st with weak := false } rest
      else if c == '\\' then readValue k { st with escaped := true } rest
      else readValue k { st with output := st.output.push c } rest
    else if c == '\'' then readValue k { st with strong := true } rest
    else if c == '"' then readValue k { st with weak := true } rest
    else if c == '\\' then readValue k { st with escaped := true } rest
    else if c == ' ' || c == '\t' then readValue k { st with expectingEnd := true } rest
    else readValue k { st with output := st.output.push c } rest

/-- The value of a value's text. -/
def value (k : Known) (text : String) : Option String :=
  match readValue k {} text.toList with
  | none => none
  | some st =>
    if st.mode == .braced || st.strong || st.weak then none
    else some (st.output ++ k.lookup st.name)

/-- Whether a character may start a key. -/
def isKeyStart (c : Char) : Bool := (c.isAlpha && c.toNat < 128) || c == '_'

/-- Whether a character may go on a key. -/
def isKeyChar (c : Char) : Bool := (c.isAlphanum && c.toNat < 128) || c == '_' || c == '.'

/-- Reads a key at the front of characters. -/
def key (cs : List Char) : Option (String × List Char) :=
  match cs with
  | c :: _ => if isKeyStart c then some (String.ofList (cs.takeWhile isKeyChar), cs.dropWhile isKeyChar) else none
  | [] => none

/-- Reads a logical line: nothing for a blank or comment line, else its variable. -/
def parseLine (k : Known) (line : String) : Except LineFault (Option (String × String)) := do
  let fault := LineFault.mk line
  let cs := skipSpace (trimEnd line.toList)
  match cs with
  | [] => return none
  | '#' :: _ => return none
  | _ =>
    let (name, rest) ← (key cs).elim (throw fault) pure
    let rest := skipSpace rest
    let (name, rest) ← match name, rest with
      | "export", '=' :: rest => pure (name, rest)
      | "export", _ =>
        match key rest with
        | some (name, rest) =>
          match skipSpace rest with
          | '=' :: rest => pure (name, rest)
          | _ => throw fault
        | none => throw fault
      | _, '=' :: rest => pure (name, rest)
      | _, _ => throw fault
    match skipSpace rest with
    | [] => return some (name, "")
    | '#' :: _ => return some (name, "")
    | rest =>
      match value k (String.ofList rest) with
      | some v => return some (name, v)
      | none => throw fault

/-- Loads the lines of a file into an environment, in order: each variable is set unless
the environment has it; loading stops at the first line that cannot be read. The variables
added, in order. -/
def load (env : String → Option String) (text : String) : List (String × String) :=
  go { env := env } [] (lines text)
where
  /-- Loads the remaining lines, knowing the values so far and the variables added. -/
  go : Known → List (String × String) → List String → List (String × String)
    | _, added, [] => added
    | k, added, line :: rest =>
      let current := fun name => (k.env name).orElse fun _ => (added.find? (·.1 == name)).map (·.2)
      match parseLine { k with env := current } line with
      | .error _ => added
      | .ok none => go k added rest
      | .ok (some (name, v)) =>
        let k := { k with file := (name, v) :: k.file }
        if (current name).isSome then go k added rest else go k (added ++ [(name, v)]) rest

example : load (fun _ => none) "DATABASE_URL=postgres://u@h:notaport/db\n" =
    [("DATABASE_URL", "postgres://u@h:notaport/db")] := by decide
example : load (fun _ => none) "this is not = a valid\n'line\n" = [] := by decide

end EnvFile

end DocBatch

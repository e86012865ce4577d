import DocBatch.Toml.Read
import DocBatch.Text.Utf8

/-!
# Showing TOML faults

A fault of a TOML text points at a character where reading stopped, or at the stretch of
text of a value that could not be used; a fault that belongs to no place has its message
only.

Shown, a fault names its line and column (both from 1; the column counts characters), then
quotes the line under a gutter as wide as the line number, marks the place with `^` (one per
octet of the character or of the value, within the line, at least one), and ends with the
message. A place at the very end of the text is shown after the last character of the text.
-/

namespace DocBatch

namespace Toml

/-- What a fault points at. -/
inductive Mark where
  /-- The character where reading stopped, or the end of the text. -/
  | point (offset : Nat)
  /-- The text of a value. -/
  | stretch (span : Span)
  deriving Repr, Inhabited

/-- A fault of a TOML text. -/
structure Fault where
  mark : Option Mark
  message : String
  deriving Repr, Inhabited

/-- The fault of a stop of reading. -/
def Stop.toFault (s : Stop) : Fault :=
  { mark := s.offset.map Mark.point, message := s.message }

/-- The line and column (both from 0) of an octet offset: the column counts the characters
of the line up to the offset; past the end, the place after the last octet. -/
def position (bytes : Bytes) (index : Nat) : Nat × Nat :=
  if bytes.isEmpty then (0, index)
  else
    let safe := min index (bytes.length - 1)
    let extra := index - safe
    let lineStart := match (bytes.take safe).reverse.findIdx? (· == 10) with
      | some k => safe - k
      | none => 0
    let line := ((bytes.take lineStart).filter (· == 10)).length
    let column := match Utf8.decode? ((bytes.drop lineStart).take (safe + 1 - lineStart)) with
      | some s => s.length - 1
      | none => safe - lineStart
    (line, column + extra)

/-- `n` copies of a character. -/
def repeatChar (n : Nat) (c : Char) : String := String.ofList (List.replicate n c)

/-- A fault shown against the text it is about. -/
def Fault.render (source : String) (f : Fault) : String :=
  match f.mark with
  | none => f.message ++ "\n"
  | some mark =>
    let chars := source.toList
    let (offset, width) := match mark with
      | .point o => (o, ((chars.drop o).head?.map fun c => (Utf8.encodeChar c).length).getD 0)
      | .stretch s => (s.start, Utf8.size (String.ofList ((chars.drop s.start).take (s.stop - s.start))))
    let (line, column) := position (Utf8.encode source) (Utf8.size (String.ofList (chars.take offset)))
    let number := toString (line + 1)
    let content := ((source.splitOn "\n")[line]?).getD ""
    let highlight := min width (Utf8.size content - column)
    let pad := repeatChar (number.length + 1) ' '
    "TOML parse error at line " ++ number ++ ", column " ++ toString (column + 1) ++ "\n" ++
      pad ++ "|\n" ++
      number ++ " | " ++ content ++ "\n" ++
      pad ++ "|" ++ repeatChar (column + 1) ' ' ++ "^" ++ repeatChar (highlight - 1) '^' ++ "\n" ++
      f.message ++ "\n"

end Toml

end DocBatch

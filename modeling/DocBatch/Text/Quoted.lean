import DocBatch.Text.Hidden

/-!
# Quoted text

Two ways of quoting a string between double quotes.

* `json` is the JSON string literal: a quote, a backslash and the control characters are
  escaped (the five with a short form as `\b \f \n \r \t`, the others as `\u00xx` with
  lowercase hexadecimal), everything else is written as it is.
* `debug` is the diagnostic literal used in messages: a quote, a backslash, `\0 \t \r \n`
  take their short forms, and the characters that do not show on their own (`Hidden`) are
  written as `\u{x}` with the fewest lowercase hexadecimal digits. Everything else is kept.
-/

namespace DocBatch

namespace Quoted

/-- A hexadecimal digit, lowercase. -/
def hexDigit (n : Nat) : Char :=
  if n < 10 then Char.ofNat (48 + n) else Char.ofNat (87 + n)

/-- Lowercase hexadecimal digits of a natural, without leading zeros. -/
def hexDigits (n : Nat) : List Char := Nat.toDigits 16 n

/-- The JSON escape of one character. -/
def jsonChar (c : Char) : List Char :=
  match c with
  | '"' => ['\\', '"']
  | '\\' => ['\\', '\\']
  | '\n' => ['\\', 'n']
  | '\r' => ['\\', 'r']
  | '\t' => ['\\', 't']
  | '\x08' => ['\\', 'b']
  | '\x0c' => ['\\', 'f']
  | c =>
    if c.toNat < 0x20 then
      ['\\', 'u', '0', '0', hexDigit (c.toNat / 16), hexDigit (c.toNat % 16)]
    else [c]

/-- The JSON string literal of a string. -/
def json (s : String) : String :=
  String.ofList ('"' :: s.toList.flatMap jsonChar ++ ['"'])

/-- The diagnostic escape of one character. -/
def debugChar (c : Char) : List Char :=
  match c with
  | '"' => ['\\', '"']
  | '\\' => ['\\', '\\']
  | '\n' => ['\\', 'n']
  | '\r' => ['\\', 'r']
  | '\t' => ['\\', 't']
  | '\x00' => ['\\', '0']
  | c => if Hidden.contains c then ['\\', 'u', '{'] ++ hexDigits c.toNat ++ ['}'] else [c]

/-- The diagnostic literal of a string, quotes included. -/
def debug (s : String) : String :=
  String.ofList ('"' :: s.toList.flatMap debugChar ++ ['"'])

end Quoted

end DocBatch

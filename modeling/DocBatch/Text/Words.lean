/-!
# Words of a text

A word is a maximal run of characters that are not white space. White space is the Unicode
`White_Space` property: the ASCII tab, line feed, vertical tab, form feed, carriage return
and space; next line (U+0085) and no-break space (U+00A0); the Ogham space mark; the spaces
U+2000 to U+200A; the line and paragraph separators; the narrow no-break space, the medium
mathematical space and the ideographic space.
-/

namespace DocBatch

namespace Words

/-- Whether a character is white space. -/
def isSpace (c : Char) : Bool :=
  let n := c.toNat
  (0x09 ≤ n && n ≤ 0x0D) || n == 0x20 || n == 0x85 || n == 0xA0 || n == 0x1680 ||
    (0x2000 ≤ n && n ≤ 0x200A) || n == 0x2028 || n == 0x2029 || n == 0x202F || n == 0x205F || n == 0x3000

/-- The number of words among characters, given whether a word is under way. -/
def countFrom : Bool → List Char → Nat
  | _, [] => 0
  | inWord, c :: rest =>
    if isSpace c then countFrom false rest
    else if inWord then countFrom true rest
    else countFrom true rest + 1

/-- The number of words of a text. -/
def count (s : String) : Nat := countFrom false s.toList

example : count "four  five\tsix" = 3 := by decide
example : count "   " = 0 := by decide

theorem countFrom_spaces (inWord : Bool) (cs : List Char) (h : ∀ c ∈ cs, isSpace c) :
    countFrom inWord cs = 0 := by
  induction cs generalizing inWord with
  | nil => rfl
  | cons c rest ih =>
    simp only [List.mem_cons, forall_eq_or_imp] at h
    simp only [countFrom, h.1, if_true]
    exact ih false h.2

end Words

end DocBatch

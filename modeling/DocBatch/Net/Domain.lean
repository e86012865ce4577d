import DocBatch.Net.DomainChars
import DocBatch.Text.Punycode

/-!
# International domain names

The host of a URL with a special scheme is a domain, and the URL standard reads it as an
international domain name before it uses it. `Domain.process?` follows that reading far
enough to tell a domain that is refused from one that is not:

* The characters are mapped. Ignored characters are dropped, full-width ASCII forms become
  ASCII, ASCII letters become lower case, and the ideographic full stops become `.`. Other
  characters are kept as they are.
* A domain is refused when it holds a forbidden ASCII character: a control character, the
  space, the delete character, or one of `%`, `#`, `/`, `:`, `<`, `>`, `?`, `@`, `[`, `\`,
  `]`, `^` and `|`. It is also refused when it holds a character refused wherever it stands.
* The labels are the pieces between full stops. A label starting with `xn--` is Punycode.
  It is refused unless it decodes to a text that is not all ASCII and whose characters all
  stand for themselves.
* A label, decoded or not, may not start with a character that cannot lead a label (a
  combining mark).

The mapped domain is what the host is read as afterwards, as an IPv4 address when it ends in
a number. Empty labels are allowed, and so are hyphens anywhere and labels of any length.
-/

namespace DocBatch

namespace Domain

/-- Whether an ASCII character is forbidden in a domain. -/
def isForbidden (c : Char) : Bool :=
  c.toNat < 0x20 || c == ' ' || c.toNat == 0x7F || "%#/:<>?@[\\]^|".toList.contains c

/-- Maps one character of a domain; `none` drops it. -/
def mapChar (c : Char) : Option Char :=
  let n := c.toNat
  if Intervals.covers DomainChars.ignored c then none
  else if 0xFF01 ≤ n && n ≤ 0xFF5E then some (Char.ofNat (n - 0xFEE0)).toLower
  else if n == 0x3002 || n == 0xFF61 then some '.'
  else some c.toLower

/-- Whether a mapped character refuses the domain that holds it. -/
def refuses (c : Char) : Bool :=
  isForbidden c || Intervals.covers DomainChars.refused c

/-- Whether a label may start as it does. -/
def leadsWell : List Char → Bool
  | c :: _ => !Intervals.covers DomainChars.cannotLead c
  | [] => true

/-- Whether a label of a mapped domain is acceptable. -/
def labelOk (label : List Char) : Bool :=
  match label with
  | 'x' :: 'n' :: '-' :: '-' :: code =>
    match Punycode.decode code with
    | some decoded =>
      decoded.any (fun c => 0x80 ≤ c.toNat) &&
        decoded.all (fun c => c.toNat < 0x80 || Intervals.covers DomainChars.valid c) &&
        leadsWell decoded
    | none => false
  | _ => leadsWell label

/-- The mapped domain, or `none` when the domain is refused. -/
def process? (cs : List Char) : Option (List Char) :=
  let mapped := cs.filterMap mapChar
  if mapped.any refuses then none
  else if (mapped.splitOn '.').all labelOk then some mapped
  else none

/-- Lower case leaves a character beyond ASCII as it is. -/
theorem toLower_of_le {c : Char} (h : 0x80 ≤ c.toNat) : c.toLower = c := by
  unfold Char.toLower
  rw [dif_neg]
  rintro ⟨-, hz⟩
  have hle : c.val.toNat ≤ 90 := UInt32.le_iff_toNat_le.1 hz
  have hge : 0x80 ≤ c.val.toNat := h
  omega

/-- Lower case keeps an ASCII character in ASCII, and changes nothing the second time. -/
theorem toLower_ascii {c : Char} (h : c.toNat < 0x80) :
    c.toLower.toNat < 0x80 ∧ c.toLower.toLower = c.toLower := by
  have hall : ∀ n < 0x80, (Char.ofNat n).toLower.toNat < 0x80 ∧
      (Char.ofNat n).toLower.toLower = (Char.ofNat n).toLower := by decide
  simpa [Char.ofNat_toNat] using hall c.toNat h

/-- An ASCII character maps to its lower case. -/
theorem mapChar_ascii {c : Char} (h : c.toNat < 0x80) : mapChar c = some c.toLower := by
  have hwide : ¬ (0xFF01 ≤ c.toNat) := by omega
  have hstop : c.toNat ≠ 0x3002 ∧ c.toNat ≠ 0xFF61 := ⟨by omega, by omega⟩
  simp [mapChar, (DomainChars.covers_ascii h).2.2.1, hwide, hstop]

/-- What an ASCII character maps to maps to itself. -/
theorem mapChar_toLower_ascii {c : Char} (h : c.toNat < 0x80) : mapChar c.toLower = some c.toLower := by
  obtain ⟨hlow, hidem⟩ := toLower_ascii h
  rw [mapChar_ascii hlow, hidem]

/-- A character the mapping gives maps to itself. -/
theorem mapChar_idem {c d : Char} (h : mapChar c = some d) : mapChar d = some d := by
  unfold mapChar at h
  dsimp only at h
  split at h
  · cases h
  · next hig =>
      split at h
      · next hwide =>
          obtain rfl := Option.some.inj h
          have hlt : (Char.ofNat (c.toNat - 0xFEE0)).toNat < 0x80 := by
            have hall : ∀ m < 0x80, (Char.ofNat m).toNat < 0x80 := by decide
            simp only [Bool.and_eq_true, decide_eq_true_eq] at hwide
            exact hall _ (by omega)
          exact mapChar_toLower_ascii hlt
      · next hwide =>
          split at h
          · obtain rfl := Option.some.inj h
            decide
          · next hstop =>
              obtain rfl := Option.some.inj h
              by_cases hc : c.toNat < 0x80
              · exact mapChar_toLower_ascii hc
              · rw [toLower_of_le (Nat.le_of_not_lt hc)]
                unfold mapChar
                dsimp only
                rw [if_neg hig, if_neg hwide, if_neg hstop, toLower_of_le (Nat.le_of_not_lt hc)]

/-- A processed domain is processed to itself: the mapping gives characters it keeps, and the
checks that passed pass again. -/
theorem process?_idem {cs m : List Char} (h : process? cs = some m) : process? m = some m := by
  unfold process? at h ⊢
  dsimp only at h ⊢
  split at h
  · cases h
  · next hrefuse =>
      split at h
      · next hlabels =>
          cases h
          have hbind : (fun c => (mapChar c).bind mapChar) = mapChar := by
            funext c
            cases hc : mapChar c with
            | none => rfl
            | some d => exact mapChar_idem hc
          have hfix : (cs.filterMap mapChar).filterMap mapChar = cs.filterMap mapChar := by
            rw [List.filterMap_filterMap, hbind]
          rw [hfix, if_neg hrefuse, if_pos hlabels]
      · cases h

example : process? "Example.COM".toList = some "example.com".toList := by decide +kernel
example : process? "xn--tda.b".toList = some "xn--tda.b".toList := by decide +kernel
example : process? "xn--a".toList = none := by decide +kernel
example : process? "ü。b".toList = some "ü.b".toList := by decide +kernel
example : process? "a.\u0301".toList = none := by decide +kernel

end Domain

end DocBatch

/-
  `Lexing` — written scalars are read back.

  What the writer puts down for a number or a string the scanner takes up again, whatever text
  follows. A number has no end of its own, so the text after it must not go on with it
  (`Numeral.Ends`). A number is read back as long as it fits into 64 bits (`all_toDigits`), a string
  always (`all_quote`): the escapes that are written are among those that are read, and none of the
  characters that stand for themselves is a quote, a backslash or a control character.
-/
import Mathlib.Tactic.ByContra
import Mathlib.Tactic.IntervalCases
import Mathlib.Tactic.SplitIfs
import SchemaSurvey.Json.Token
import SchemaSurvey.Json.Value

namespace SchemaSurvey.Json

/-! ### Numbers -/

namespace Numeral

/-- A text that does not go on with the number before it. -/
def Ends (rest : List Char) : Prop :=
  ∀ c ∈ rest.head?, c.isDigit = false ∧ c ≠ '.' ∧ c ≠ 'e' ∧ c ≠ 'E'

theorem ends_nil : Ends [] := nofun

theorem ends_cons {c : Char} {rest : List Char}
    (h : c.isDigit = false ∧ c ≠ '.' ∧ c ≠ 'e' ∧ c ≠ 'E') : Ends (c :: rest) := by
  intro d hd
  obtain rfl := Option.some.inj hd
  exact h

theorem digits_append {ds rest : List Char} (hds : ∀ c ∈ ds, c.isDigit = true)
    (hrest : Ends rest) : digits (ds ++ rest) = (ds, rest) := by
  have htail : rest.takeWhile Char.isDigit = [] ∧ rest.dropWhile Char.isDigit = rest := by
    cases rest with
    | nil => exact ⟨rfl, rfl⟩
    | cons c rest => simp [(hrest c rfl).1]
  rw [digits, List.takeWhile_append_of_pos hds, List.dropWhile_append_of_pos hds, htail.1, htail.2,
    List.append_nil]

theorem digitsValue_toDigits (n : Nat) : digitsValue (Nat.toDigits 10 n) = n := by
  have h := Nat.ofDigitChars_ten_toDigits (n := n)
  rw [Nat.ofDigitChars_eq_foldl] at h
  simp only [Nat.mul_comm 10] at h
  exact h

/-- A number of several digits does not start with a zero. -/
theorem head?_toDigits {n : Nat} (hn : 0 < n) : (Nat.toDigits 10 n).head? ≠ some '0' := by
  -- A number of several digits starts like its quotient by ten.
  induction n using Nat.strong_induction_on with
  | _ n ih =>
    by_cases hlt : n < 10
    · rw [Nat.toDigits_of_lt_base hlt]
      interval_cases n <;> decide
    · have hquotient : 0 < n / 10 := by omega
      obtain ⟨c, cs, hcs⟩ := List.exists_cons_of_ne_nil (@Nat.toDigits_ne_nil (n / 10) 10)
      have hhead := ih (n / 10) (by omega) hquotient
      rw [hcs] at hhead
      rw [Nat.toDigits_of_base_le (by decide) (by omega), hcs]
      exact hhead

theorem scanFraction_of_ends (n : Numeral) {rest : List Char} (hrest : Ends rest) :
    scanFraction n rest = (.ok n, rest) := by
  cases rest with
  | nil => rfl
  | cons c rest =>
    obtain ⟨-, hpoint, he, hE⟩ := hrest c rfl
    rw [scanFraction, if_neg hpoint, scanExponent, if_neg (not_or.mpr ⟨he, hE⟩)]

/-- **A written number is scanned as its digits.** -/
theorem scan_toDigits (n : Nat) {rest : List Char} (hrest : Ends rest) :
    scan (Nat.toDigits 10 n ++ rest) =
      (.ok { negative := false, whole := Nat.toDigits 10 n, fraction := [], exponent? := none },
        rest) := by
  have hdigits : ∀ c ∈ Nat.toDigits 10 n, c.isDigit = true := fun c hc =>
    Nat.isDigit_of_mem_toDigits (by decide) (by decide) hc
  have hne : Nat.toDigits 10 n ≠ [] := Nat.toDigits_ne_nil
  have hsign : ((Nat.toDigits 10 n ++ rest).head? == some '-') = false := by
    obtain ⟨c, cs, hcs⟩ := List.exists_cons_of_ne_nil hne
    have hc := hdigits c (by rw [hcs]; exact List.mem_cons_self)
    rw [hcs, List.cons_append, List.head?_cons]
    by_contra h
    have : c = '-' := by simpa using h
    rw [this] at hc
    exact absurd hc (by decide)
  have hzero : ((Nat.toDigits 10 n).head? == some '0' && (Nat.toDigits 10 n).length != 1) =
      false := by
    rcases Nat.eq_zero_or_pos n with rfl | hn
    · decide
    · rw [beq_eq_false_iff_ne.mpr (head?_toDigits hn), Bool.false_and]
  rw [scan, hsign, if_neg Bool.false_ne_true, scanUnsigned, digits_append hdigits hrest]
  simp only [hzero, List.isEmpty_eq_false_iff.mpr hne, Bool.false_eq_true, if_false]
  exact scanFraction_of_ends _ hrest

/-- **A written number is read back,** if it fits into 64 bits. -/
theorem reading_scan_toDigits {n : Nat} (hn : n < 2 ^ 64) {rest : List Char} (hrest : Ends rest) :
    reading (scan (Nat.toDigits 10 n ++ rest)).1 = .clear (.integer n) ∧
      (scan (Nat.toDigits 10 n ++ rest)).2 = rest := by
  rw [scan_toDigits n hrest]
  refine ⟨?_, rfl⟩
  have hlt : n < 0x10000000000000000 := hn
  simp [reading, number, digitsValue_toDigits, hlt, Reading.clear]

end Numeral

/-! ### Strings -/

namespace Quoted

theorem hexValue?_hexDigit {n : Nat} (hn : n < 16) : hexValue? (hexDigit n) = some n := by
  interval_cases n <;> decide

theorem codeUnit?_hexDigits {n : Nat} (hn : n < 32) :
    codeUnit? '0' '0' (hexDigit (n / 16)) (hexDigit (n % 16)) = some n := by
  have hzero : hexValue? '0' = some 0 := by decide
  rw [codeUnit?, hzero, hexValue?_hexDigit (by omega), hexValue?_hexDigit (by omega)]
  simp only [Option.bind_eq_bind, Option.bind_some, Option.some.injEq]
  omega

theorem scan_backslash {e : Char} {rest : List Char} (he : e ≠ 'u') {a : Char}
    (ha : escapedBy? e = some a) : scan ('\\' :: e :: rest) = cons (.char a) (scan rest) := by
  rw [scan.eq_def]
  simp only [if_neg (show ¬ '\\' = '"' by decide), if_true, if_neg he, ha]

/-- **An escaped character is one piece,** which is joined to the character again. -/
theorem scan_escapeChar (c : Char) (rest : List Char) :
    ∃ p, scan (escapeChar c ++ rest) = cons p (scan rest) ∧
      ∀ closing ps, join closing (p :: ps) = (join closing ps).map (c :: ·) := by
  -- Characters written as code units are read by a branch of their own.
  by_cases hunit : c.toNat < 32 ∧ escapeChar c =
      ['\\', 'u', '0', '0', hexDigit (c.toNat / 16), hexDigit (c.toNat % 16)]
  · obtain ⟨hlt, hescape⟩ := hunit
    refine ⟨.unit c.toNat, ?_, fun closing ps => ?_⟩
    · rw [hescape]
      simp only [List.cons_append, List.nil_append]
      rw [scan.eq_def]
      simp only [if_neg (show ¬ '\\' = '"' by decide), if_true, codeUnit?_hexDigits hlt]
    · -- The units of control characters are no halves of pairs, so they are joined one by one.
      have hlow : isLow c.toNat = false := by simp [isLow]; omega
      have hhigh : isHigh c.toNat = false := by simp [isHigh]; omega
      rw [join.eq_def]
      simp only [hlow, hhigh, Char.ofNat_toNat]
      rfl
  · refine ⟨.char c, ?_, fun _ _ => rfl⟩
    unfold escapeChar at hunit ⊢
    split_ifs at hunit ⊢ with hquote hbackslash hb hf hn hr ht hcontrol
    · subst hquote; exact scan_backslash (by decide) (by decide)
    · subst hbackslash; exact scan_backslash (by decide) (by decide)
    · subst hb; exact scan_backslash (by decide) (by decide)
    · subst hf; exact scan_backslash (by decide) (by decide)
    · subst hn; exact scan_backslash (by decide) (by decide)
    · subst hr; exact scan_backslash (by decide) (by decide)
    · subst ht; exact scan_backslash (by decide) (by decide)
    · exact absurd ⟨hcontrol, rfl⟩ hunit
    · rw [List.singleton_append, scan.eq_def]
      simp only [if_neg hquote, if_neg hbackslash, if_neg hcontrol]

theorem scan_escape (cs rest : List Char) :
    ∃ ps, scan (escape cs ++ '"' :: rest) = (⟨ps, .quote⟩, rest) ∧ join .quote ps = .ok cs := by
  induction cs with
  | nil => exact ⟨[], by rw [escape, List.nil_append, scan.eq_def]; rfl, rfl⟩
  | cons c cs ih =>
    obtain ⟨ps, hscan, hjoin⟩ := ih
    obtain ⟨p, hp, hjoin_p⟩ := scan_escapeChar c (escape cs ++ '"' :: rest)
    refine ⟨p :: ps, ?_, ?_⟩
    · rw [escape, List.append_assoc, hp, hscan]
      rfl
    · rw [hjoin_p, hjoin]
      rfl

/-- **A written string is read back.** -/
theorem reading_scan_escape (s : String) (rest : List Char) :
    (scan (escape s.toList ++ '"' :: rest)).1.reading = .clear s ∧
      (scan (escape s.toList ++ '"' :: rest)).2 = rest := by
  obtain ⟨ps, hscan, hjoin⟩ := scan_escape s.toList rest
  rw [hscan]
  refine ⟨?_, rfl⟩
  rw [reading, text, hjoin, Reading.clear]
  simp [Except.map, Closing.check]

end Quoted

/-! ### Tokens -/

namespace Token

theorem all_of_dropWhile_nil {s : List Char} (h : s.dropWhile isBlank = []) : all s = [] := by
  rw [all.eq_def]
  split
  · rfl
  · rename_i hcons
    rw [h] at hcons
    cases hcons

theorem all_of_dropWhile_cons {s : List Char} {c : Char} {cs : List Char}
    (h : s.dropWhile isBlank = c :: cs) : all s = (first c cs).1 :: all (first c cs).2 := by
  rw [all.eq_def]
  split
  · rename_i hnil
    rw [h] at hnil
    cases hnil
  · rename_i d ds hcons
    rw [h] at hcons
    obtain ⟨rfl, rfl⟩ := List.cons.inj hcons
    rfl

theorem all_nil : all [] = [] := all_of_dropWhile_nil rfl

theorem all_cons {c : Char} (hc : isBlank c = false) (cs : List Char) :
    all (c :: cs) = (first c cs).1 :: all (first c cs).2 := by
  apply all_of_dropWhile_cons
  rw [List.dropWhile_cons, hc, if_neg Bool.false_ne_true]

/-- White space before a token is not seen. -/
theorem all_blanks_append {blanks : List Char} (h : ∀ c ∈ blanks, isBlank c = true)
    (rest : List Char) : all (blanks ++ rest) = all rest := by
  have hdrop : (blanks ++ rest).dropWhile isBlank = rest.dropWhile isBlank :=
    List.dropWhile_append_of_pos h
  cases hrest : rest.dropWhile isBlank with
  | nil => rw [all_of_dropWhile_nil hrest, all_of_dropWhile_nil (hdrop.trans hrest)]
  | cons c cs => rw [all_of_dropWhile_cons hrest, all_of_dropWhile_cons (hdrop.trans hrest)]

theorem all_punctuation {c : Char} {t : Token} (hc : isBlank c = false)
    (ht : punctuation? c = some t) (rest : List Char) : all (c :: rest) = t :: all rest := by
  rw [all_cons hc, first]
  simp only [ht]

theorem all_scalar {c : Char} {cs : List Char} {s : Scalar} {rest : List Char}
    (hc : isBlank c = false) (hpunctuation : punctuation? c = none)
    (hs : scalar? c cs = some (s, rest)) : all (c :: cs) = .scalar s :: all rest := by
  rw [all_cons hc, first]
  simp only [hpunctuation, hs]

theorem all_null (rest : List Char) :
    all ('n' :: 'u' :: 'l' :: 'l' :: rest) = .scalar .null :: all rest :=
  all_scalar (by decide) (by decide) rfl

/-- **A written string is one token.** -/
theorem all_quote (s : String) (rest : List Char) :
    all (quote s rest) = .scalar (.string (.clear s)) :: all rest := by
  refine all_scalar (by decide) (by decide) ?_
  obtain ⟨hreading, hrest⟩ := Quoted.reading_scan_escape s rest
  rw [scalar?, if_pos rfl, hreading, hrest]

/-- **A written number is one token,** if it fits into 64 bits. -/
theorem all_toDigits {n : Nat} (hn : n < 2 ^ 64) {rest : List Char} (hrest : Numeral.Ends rest) :
    all (Nat.toDigits 10 n ++ rest) = .scalar (.number (.clear (.integer n))) :: all rest := by
  obtain ⟨hreading, hsnd⟩ := Numeral.reading_scan_toDigits hn hrest
  obtain ⟨c, cs, hcs⟩ := List.exists_cons_of_ne_nil (@Nat.toDigits_ne_nil n 10)
  have hdigit : c.isDigit = true :=
    Nat.isDigit_of_mem_toDigits (by decide) (by decide) (hcs ▸ List.mem_cons_self)
  rw [hcs, List.cons_append] at hreading hsnd ⊢
  -- A digit is neither a blank nor a punctuation mark, and starts no word and no string.
  have hne : ∀ d : Char, d.isDigit = false → c ≠ d := by
    rintro d hd rfl
    rw [hd] at hdigit
    cases hdigit
  refine all_scalar ?_ ?_ ?_
  · simp [isBlank, hne]
  · simp [punctuation?, hne]
  · simp [scalar?, hne, hdigit, hreading, hsnd]

end Token

end SchemaSurvey.Json

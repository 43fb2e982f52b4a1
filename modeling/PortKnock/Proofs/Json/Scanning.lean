import Mathlib.Algebra.Group.Nat.Defs
import PortKnock.Json.Number
import PortKnock.Proofs.Json.Grammar

/-!
# Scanning what the grammar describes

Below the level of values, the scanners and the grammar are two descriptions of
the same pieces of text: blanks, the characters of a string and the parts of a
number.  For every piece there is one fact, that the scanner finds its end where
the grammar does.

A number has no end of its own, so the scanner goes on as long as a number may;
`EndsNumber` says that it cannot go on into what follows.
-/

namespace PortKnock.Json

variable {text middle rest behind : List Char} {c : Char}

/-! ## Blanks -/

theorem isBlank_of_mem (hblank : c ∈ [' ', '\t', '\n', '\r']) : isBlank c = true := by
  simp only [List.mem_cons, List.not_mem_nil, or_false] at hblank
  rcases hblank with rfl | rfl | rfl | rfl <;> rfl

theorem skipBlank_cons_of_not_isBlank (hc : isBlank c = false) :
    skipBlank (c :: rest) = c :: rest := by
  rw [skipBlank, List.dropWhile_cons, hc]
  rfl

/-- Blanks make no difference to whoever skips them. -/
theorem skipBlank_of_blanks (blanks : Blanks text rest) : skipBlank text = skipBlank rest := by
  induction blanks with
  | none => rfl
  | @more c text rest hblank _ ih =>
    rw [← ih, skipBlank, List.dropWhile_cons, isBlank_of_mem hblank]
    rfl

theorem skipBlank_eq_cons (blanks : Blanks text (c :: rest)) (hc : isBlank c = false) :
    skipBlank text = c :: rest :=
  (skipBlank_of_blanks blanks).trans (skipBlank_cons_of_not_isBlank hc)

/-! ## Strings -/

theorem hexValue?_of_hexDigit {value : Nat} (hc : HexDigit c value) :
    hexValue? c = some value := by
  have hall : ∀ value < 16, hexValue? (Nat.digitChar value) = some value ∧
      hexValue? (Nat.digitChar value).toUpper = some value := by decide
  obtain ⟨hlt, rfl | rfl⟩ := hc
  · exact (hall value hlt).1
  · exact (hall value hlt).2

theorem readHex_of_hexText {value : Nat} (htext : HexText text value rest) :
    readHex text = .ok (value, rest) := by
  cases htext with
  | digits ha hb hc hd =>
    simp [readHex, hexValue4?, hexValue?_of_hexDigit ha, hexValue?_of_hexDigit hb,
      hexValue?_of_hexDigit hc, hexValue?_of_hexDigit hd]

theorem simpleEscape?_of_mem {letter : Char} (hletter : (letter, c) ∈ shortEscapes) :
    letter ≠ 'u' ∧ simpleEscape? letter = some c := by
  have hall : ∀ escape ∈ shortEscapes,
      escape.1 ≠ 'u' ∧ simpleEscape? escape.1 = some escape.2 := by decide
  exact hall _ hletter

/-- The number of a character is none of those that are kept for surrogates. -/
theorem not_isSurrogate (c : Char) :
    isTrailingSurrogate c.toNat = false ∧ isLeadingSurrogate c.toNat = false := by
  have hvalid : c.toNat < 0xd800 ∨ 0xdfff < c.toNat := by
    rcases c.valid with hlow | hhigh
    · exact Or.inl hlow
    · exact Or.inr hhigh.1
  simp only [isTrailingSurrogate, isLeadingSurrogate, Bool.and_eq_false_iff,
    decide_eq_false_iff_not]
  omega

theorem ofSurrogates_add {high low code : Nat} (hcode : code = 0x10000 + 0x400 * high + low) :
    ofSurrogates (0xd800 + high) (0xdc00 + low) = code := by
  have hunfold (leading trailing : Nat) : ofSurrogates leading trailing =
      0x10000 + 0x400 * (leading - 0xd800) + (trailing - 0xdc00) := rfl
  rw [hunfold, Nat.add_sub_cancel_left, Nat.add_sub_cancel_left, hcode]

/-- An escaped character, from behind its backslash. -/
theorem readEscape_of_charText (hchar : CharText ('\\' :: text) c rest) :
    readEscape text = .ok (c, rest) := by
  cases hchar with
  | plain _ hbackslash _ => exact absurd rfl hbackslash
  | short hletter =>
    obtain ⟨hu, hsimple⟩ := simpleEscape?_of_mem hletter
    rw [readEscape.eq_def]
    simp [hsimple]
  | unit hunit =>
    obtain ⟨htrailing, hleading⟩ := not_isSurrogate c
    simp [readEscape, readHex_of_hexText hunit, htrailing, hleading, Char.ofNat_toNat]
  | @pair _ high low _ middle _ hhigh hlow hc hleading htrailing =>
    have hcode := ofSurrogates_add hc
    generalize hleading' : 0xd800 + high = leading at hleading hcode
    generalize htrailing' : 0xdc00 + low = trailing at htrailing hcode
    have hfirst : isTrailingSurrogate leading = false ∧ isLeadingSurrogate leading = true := by
      simp only [isTrailingSurrogate, isLeadingSurrogate, Bool.and_eq_false_iff,
        Bool.and_eq_true, decide_eq_false_iff_not, decide_eq_true_eq]
      omega
    have hsecond : isTrailingSurrogate trailing = true := by
      simp only [isTrailingSurrogate, Bool.and_eq_true, decide_eq_true_eq]
      omega
    simp [readEscape, readTrailing, readHex_of_hexText hleading, readHex_of_hexText htrailing,
      hfirst, hsecond, hcode, Char.ofNat_toNat]

/-- Whoever only looks for the end finds the same one. -/
theorem skipEscape_of_charText (hchar : CharText ('\\' :: text) c rest) :
    ∃ middle, skipEscape text = .ok middle ∧ skipString middle = skipString rest := by
  cases hchar with
  | plain _ hbackslash _ => exact absurd rfl hbackslash
  | short hletter =>
    obtain ⟨hu, hsimple⟩ := simpleEscape?_of_mem hletter
    refine ⟨rest, ?_, rfl⟩
    rw [skipEscape.eq_def]
    simp [hsimple]
  | unit hunit => exact ⟨rest, by simp [skipEscape, readHex_of_hexText hunit], rfl⟩
  | @pair _ high low _ middle _ hhigh hlow hc hleading htrailing =>
    -- the second surrogate is an escape of its own then
    refine ⟨'\\' :: 'u' :: middle, by simp [skipEscape, readHex_of_hexText hleading], ?_⟩
    have hsecond : skipEscape ('u' :: middle) = .ok rest := by
      simp [skipEscape, readHex_of_hexText htrailing]
    rw [skipString]
    split <;> simp_all

theorem isControl_of_le (hc : 0x20 ≤ c.toNat) : isControl c = false := by
  rw [isControl, decide_eq_false_iff_not]
  omega

theorem readString_of_charText (hchar : CharText text c middle) :
    readString text = (readString middle).map fun result => (c :: result.1, result.2) := by
  by_cases hescape : ∃ escape, text = '\\' :: escape
  · obtain ⟨escape, rfl⟩ := hescape
    have hread := readEscape_of_charText hchar
    rw [readString]
    split
    · simp_all
    · rename_i hread'
      rw [hread] at hread'
      cases hread'
      cases readString middle <;> rfl
  · cases hchar with
    | plain hquote hbackslash hcontrol =>
      have hvalid := isControl_of_le hcontrol
      rw [readString.eq_def]
      simp only [hvalid]
      cases readString middle <;> rfl
    | _ => exact absurd ⟨_, rfl⟩ hescape

theorem skipString_of_charText (hchar : CharText text c middle) :
    skipString text = skipString middle := by
  by_cases hescape : ∃ escape, text = '\\' :: escape
  · obtain ⟨escape, rfl⟩ := hescape
    obtain ⟨behind, hskip, hsame⟩ := skipEscape_of_charText hchar
    rw [← hsame, skipString]
    split <;> simp_all
  · cases hchar with
    | plain hquote hbackslash hcontrol =>
      have hvalid := isControl_of_le hcontrol
      rw [skipString.eq_def]
      simp [hvalid]
    | _ => exact absurd ⟨_, rfl⟩ hescape

theorem readString_of_stringText {cs : List Char} (hstring : StringText text cs rest) :
    readString text = .ok (cs, rest) := by
  induction hstring with
  | close => rw [readString]
  | char hchar _ ih =>
    rw [readString_of_charText hchar, ih]
    rfl

theorem skipString_of_stringText {cs : List Char} (hstring : StringText text cs rest) :
    skipString text = .ok rest := by
  induction hstring with
  | close => rw [skipString]
  | char hchar _ ih => rw [skipString_of_charText hchar, ih]

/-! ## Numbers -/

/-- A number cannot go on into `rest`. -/
def EndsNumber (rest : List Char) : Prop :=
  ∀ c ∈ rest.head?, c.isDigit = false ∧ c ∉ ['.', 'e', 'E']

theorem EndsNumber.of_blanks (hc : c ∈ [',', ']', '\x7d']) (blanks : Blanks text (c :: rest)) :
    EndsNumber text := by
  have hall : ∀ c ∈ [' ', '\t', '\n', '\r'] ++ [',', ']', '\x7d'],
      c.isDigit = false ∧ c ∉ ['.', 'e', 'E'] := by simp [Char.isDigit]
  cases blanks with
  | none =>
    rintro _ ⟨⟩
    exact hall c (List.mem_append_right _ hc)
  | @more blank _ _ hblank _ =>
    rintro _ ⟨⟩
    exact hall blank (List.mem_append_left _ hblank)

/-- No digit stands at the start of what is left behind a whole part. -/
def EndsDigits (rest : List Char) : Prop :=
  ∀ c ∈ rest.head?, c.isDigit = false

theorem EndsNumber.endsDigits (hend : EndsNumber rest) : EndsDigits rest :=
  fun c hc => (hend c hc).1

theorem spanDigits_of_endsDigits (hend : EndsDigits rest) : spanDigits rest = ([], rest) := by
  cases rest with
  | nil => rfl
  | cons c rest => simp [spanDigits, hend c rfl]

theorem spanDigits_of_digitsText {digits : List Char} (hdigits : DigitsText text digits rest)
    (hend : EndsDigits rest) : spanDigits text = (digits, rest) := by
  induction hdigits with
  | one hdigit =>
    have hrest := spanDigits_of_endsDigits hend
    simp_all [spanDigits]
  | more hdigit _ ih =>
    have hmore := ih hend
    simp_all [spanDigits]

theorem DigitsText.cons {digits : List Char} (hdigits : DigitsText text digits rest) :
    ∃ digit more, text = digit :: more ∧ digit.isDigit = true ∧
      (EndsDigits rest → (spanDigits more).2 = rest) := by
  cases hdigits with
  | one hdigit => exact ⟨_, _, rfl, hdigit, fun hend => by rw [spanDigits_of_endsDigits hend]⟩
  | more hdigit hmore =>
    exact ⟨_, _, rfl, hdigit, fun hend => by rw [spanDigits_of_digitsText hmore hend]⟩

theorem ExponentText.endsDigits {present : Bool} (hexponent : ExponentText text present rest)
    (hend : EndsNumber rest) : EndsDigits text := by
  cases hexponent with
  | absent => exact hend.endsDigits
  | digits hletter =>
    have hall : ∀ c ∈ ['e', 'E'], c.isDigit = false := by simp [Char.isDigit]
    rintro _ ⟨⟩
    exact hall _ hletter

theorem FractionText.endsDigits {present : Bool} (hfraction : FractionText text present rest)
    (hend : EndsDigits rest) : EndsDigits text := by
  cases hfraction with
  | absent => exact hend
  | digits =>
    rintro _ ⟨⟩
    rfl

/-- What starts with a digit does not start with a sign. -/
theorem cons_ne_of_isDigit {digit sign : Char} (hdigit : digit.isDigit = true)
    (hsign : sign.isDigit = false) (behind : List Char) : digit :: text ≠ sign :: behind := by
  rintro ⟨⟩
  rw [hdigit] at hsign
  cases hsign

theorem skipExponent_of_digitsText {sign digits : List Char} (hsign : sign ∈ [[], ['+'], ['-']])
    (hdigits : DigitsText text digits rest) (hend : EndsNumber rest) :
    skipExponent (sign ++ text) = .ok rest := by
  obtain ⟨digit, more, rfl, hdigit, hmore⟩ := hdigits.cons
  have hspan : (spanSign (sign ++ digit :: more)).2 = digit :: more := by
    simp only [List.mem_cons, List.not_mem_nil, or_false] at hsign
    rcases hsign with rfl | rfl | rfl
    · rw [List.nil_append,
        spanSign.eq_3 _ (cons_ne_of_isDigit hdigit rfl) (cons_ne_of_isDigit hdigit rfl)]
    · rfl
    · rfl
  simp [skipExponent, hspan, hdigit, hmore hend.endsDigits]

theorem skipExponentOrEnd_of_exponentText {present : Bool}
    (hexponent : ExponentText text present rest) (hend : EndsNumber rest) :
    skipExponentOrEnd text = .ok rest := by
  cases hexponent with
  | absent =>
    unfold skipExponentOrEnd
    split
    · exact absurd (hend 'e' rfl).2 (by decide)
    · exact absurd (hend 'E' rfl).2 (by decide)
    · rfl
  | digits hletter hsign hdigits =>
    have hskip := skipExponent_of_digitsText hsign hdigits hend
    simp only [List.mem_cons, List.not_mem_nil, or_false] at hletter
    rcases hletter with rfl | rfl
    · exact hskip
    · exact hskip

theorem skipBehindWhole_of_fractionText {fraction exponent : Bool}
    (hfraction : FractionText text fraction middle) (hexponent : ExponentText middle exponent rest)
    (hend : EndsNumber rest) : skipBehindWhole text = .ok rest := by
  have hskip := skipExponentOrEnd_of_exponentText hexponent hend
  cases hfraction with
  | absent =>
    unfold skipBehindWhole
    split
    · -- a point would be a fraction
      cases hexponent with
      | absent => exact absurd (hend '.' rfl).2 (by decide)
      | digits hletter => exact absurd hletter (by decide)
    · exact hskip
  | digits hdigits =>
    have hspan := spanDigits_of_digitsText hdigits (hexponent.endsDigits hend)
    cases hdigits <;> simp [skipBehindWhole, hspan, hskip]

theorem skipMagnitude_of_wholeText {value : Nat} {fraction exponent : Bool}
    (hwhole : WholeText text value behind) (hfraction : FractionText behind fraction middle)
    (hexponent : ExponentText middle exponent rest) (hend : EndsNumber rest) :
    skipMagnitude text = .ok rest := by
  have hskip := skipBehindWhole_of_fractionText hfraction hexponent hend
  have hdigits := hfraction.endsDigits (hexponent.endsDigits hend)
  cases hwhole with
  | zero => simp [skipMagnitude, spanDigits_of_endsDigits hdigits, hskip]
  | positive hfirst hwhole =>
    obtain ⟨first, more, heq, hdigit, hmore⟩ := hwhole.cons
    cases heq
    simp [skipMagnitude, hfirst, hdigit, hmore hdigits, hskip]

/-! ### The values of numbers -/

/-- A number of any size ends where the number that was read ends. -/
theorem skipExponent_of_readExponent {negative : Bool} {significand : Nat} {scaled : Int}
    {number : Number} (h : readExponent negative significand scaled text = .ok (number, rest)) :
    skipExponent text = .ok rest := by
  unfold readExponent readExponentDigits at h
  unfold skipExponent
  split at h
  · cases h
  · rename_i c more hspan
    split at h
    · rename_i hdigit
      have hrest : (spanDigits (spanSign text).2).2 = (spanDigits more).2 := by
        rw [hspan]
        simp [spanDigits, hdigit]
      simp only [hrest] at h
      simp only [hdigit, if_true]
      split at h
      · rw [eq_of_readScaled h]
      · split at h
        · cases h
        · cases h
          rfl
    · cases h

theorem skipExponentOrEnd_of_readExponentOrEnd {negative : Bool} {significand : Nat} {scaled : Int}
    {number : Number}
    (h : readExponentOrEnd negative significand scaled text = .ok (number, rest)) :
    skipExponentOrEnd text = .ok rest := by
  unfold readExponentOrEnd at h
  unfold skipExponentOrEnd
  split at h
  · exact skipExponent_of_readExponent h
  · exact skipExponent_of_readExponent h
  · simp [eq_of_readScaled h]

theorem skipBehindWhole_of_readBehindWhole {negative : Bool} {significand : Nat}
    {surplus : List Char} {number : Number}
    (h : readBehindWhole negative significand surplus text = .ok (number, rest)) :
    skipBehindWhole text = .ok rest := by
  unfold readBehindWhole at h
  unfold skipBehindWhole
  split at h
  · unfold readFraction at h
    simp only at h
    split at h
    · cases h
    · rename_i hdigits
      simp only [hdigits]
      exact skipExponentOrEnd_of_readExponentOrEnd h
  · exact skipExponent_of_readExponent h
  · exact skipExponent_of_readExponent h
  · split at h
    · cases h
      simp [skipExponentOrEnd]
    · simp [skipExponentOrEnd, eq_of_readScaled h]

theorem skipMagnitude_of_readMagnitude {negative : Bool} {number : Number}
    (h : readMagnitude negative text = .ok (number, rest)) : skipMagnitude text = .ok rest := by
  unfold readMagnitude at h
  unfold skipMagnitude
  split at h
  · cases h
  · rename_i c more
    split at h
    · rename_i hzero
      split at h
      · rename_i hempty
        simp only [hzero, hempty, if_true]
        exact skipBehindWhole_of_readBehindWhole h
      · cases h
    · rename_i hzero
      split at h
      · rename_i hdigit
        have hrest : (spanDigits (c :: more)).2 = (spanDigits more).2 := by
          simp [spanDigits, hdigit]
        simp only [hrest] at h
        simp only [hzero, hdigit, if_true, if_false]
        exact skipBehindWhole_of_readBehindWhole h
      · cases h

theorem WholeText.cons {value : Nat} (hwhole : WholeText text value rest) :
    ∃ digit more, text = digit :: more ∧ digit.isDigit = true := by
  cases hwhole with
  | zero => exact ⟨_, _, rfl, rfl⟩
  | positive _ hdigits =>
    obtain ⟨digit, more, heq, hdigit, _⟩ := hdigits.cons
    exact ⟨digit, more, heq, hdigit⟩

theorem NumberText.cons {plain : Option Nat} (hnumber : NumberText text plain rest) :
    ∃ first more, text = first :: more ∧ (first = '-' ∨ first.isDigit = true) := by
  cases hnumber with
  | parts hsign hwhole _ _ =>
    cases hsign with
    | absent =>
      obtain ⟨digit, more, heq, hdigit⟩ := hwhole.cons
      exact ⟨digit, more, heq, Or.inr hdigit⟩
    | minus => exact ⟨_, _, rfl, Or.inl rfl⟩

theorem readNumber_of_wholeText {value : Nat} (hwhole : WholeText text value behind) :
    readNumber text = readMagnitude false text := by
  obtain ⟨digit, more, rfl, hdigit⟩ := hwhole.cons
  exact readNumber.eq_2 _ (cons_ne_of_isDigit hdigit rfl)

/-- Where a number stops that was read. -/
theorem eq_of_readNumber {plain : Option Nat} {number : Number} {stop : List Char}
    (hnumber : NumberText text plain rest) (hend : EndsNumber rest)
    (h : readNumber text = .ok (number, stop)) : stop = rest := by
  cases hnumber with
  | parts hsign hwhole hfraction hexponent =>
    have hskip := skipMagnitude_of_wholeText hwhole hfraction hexponent hend
    cases hsign with
    | absent =>
      rw [readNumber_of_wholeText hwhole] at h
      exact Except.ok.inj ((skipMagnitude_of_readMagnitude h).symm.trans hskip)
    | minus => exact Except.ok.inj ((skipMagnitude_of_readMagnitude h).symm.trans hskip)

theorem le_ofDigitChars (digits : List Char) (value : Nat) :
    value ≤ Nat.ofDigitChars 10 digits value := by
  induction digits generalizing value with
  | nil => simp
  | cons digit digits ih =>
    rw [Nat.ofDigitChars_cons]
    exact Nat.le_trans (by omega) (ih _)

/-- Digits that stay below the bound are gathered to the number that they spell. -/
theorem gather_of_lt {bound value : Nat} {digits : List Char}
    (hlt : Nat.ofDigitChars 10 digits value < bound) :
    gather bound value digits = (Nat.ofDigitChars 10 digits value, []) := by
  induction digits generalizing value with
  | nil => rfl
  | cons digit digits ih =>
    rw [Nat.ofDigitChars_cons] at hlt ⊢
    have hlonger : 10 * value + digitValue digit < bound :=
      Nat.lt_of_le_of_lt (le_ofDigitChars digits _) hlt
    rw [gather]
    simp only [hlonger, if_true]
    exact ih hlt

theorem readBehindWhole_of_endsNumber {significand : Nat} (hend : EndsNumber rest) :
    readBehindWhole false significand [] rest =
      .ok (.natural (UInt64.ofNat significand), rest) := by
  unfold readBehindWhole
  split
  · exact absurd (hend '.' rfl).2 (by decide)
  · exact absurd (hend 'e' rfl).2 (by decide)
  · exact absurd (hend 'E' rfl).2 (by decide)
  · rfl

/-- Whole numbers of 64 bits are read exactly. -/
theorem readNumber_of_numberText {value : Nat} (hnumber : NumberText text (some value) rest)
    (hlt : value < 2 ^ 64) (hend : EndsNumber rest) :
    readNumber text = .ok (.natural (UInt64.ofNat value), rest) := by
  generalize hplain : some value = plain at hnumber
  cases hnumber with
  | parts hsign hwhole hfraction hexponent =>
    cases hsign <;> cases hfraction <;> cases hexponent <;> cases hplain
    rw [readNumber_of_wholeText hwhole]
    cases hwhole with
    | zero =>
      simp [readMagnitude, spanDigits_of_endsDigits hend.endsDigits,
        readBehindWhole_of_endsNumber hend]
    | positive hfirst hdigits =>
      obtain ⟨first, more, heq, hdigit, _⟩ := hdigits.cons
      cases heq
      have hgather := gather_of_lt (show _ < significandBound from hlt)
      simp [readMagnitude, hfirst, hdigit, spanDigits_of_digitsText hdigits hend.endsDigits,
        hgather, readBehindWhole_of_endsNumber hend]

end PortKnock.Json

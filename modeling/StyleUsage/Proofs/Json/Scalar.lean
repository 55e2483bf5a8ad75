import StyleUsage.Json.Compact
import StyleUsage.Json.Reader

/-!
# Reading texts and whole numbers back

The reader takes the text of a string or of a whole number off the front of its input and gives back
the string or the number. A number has to end where its text ends: what follows must not go on with
a digit, a fraction part or an exponent (`EndsNumber`).
-/

namespace StyleUsage.Json

/-! ## Strings -/

theorem hexValue?_hexDigit : ∀ n < 16, Text.hexValue? (hexDigit n) = some n := by
  decide

theorem fourHex?_low {n : Nat} (h : n < 0x20) (tail : List Char) :
    fourHex? ('0' :: '0' :: hexDigit (n / 16) :: hexDigit (n % 16) :: tail) = some (n, tail) := by
  have hzero : Text.hexValue? '0' = some 0 := rfl
  have hhigh := hexValue?_hexDigit (n / 16) (by omega)
  have hlow := hexValue?_hexDigit (n % 16) (by omega)
  unfold fourHex?
  dsimp only
  rw [hzero, hhigh, hlow]
  show some (((0 * 16 + 0) * 16 + n / 16) * 16 + n % 16, tail) = some (n, tail)
  rw [show ((0 * 16 + 0) * 16 + n / 16) * 16 + n % 16 = n by omega]

/-- The reader takes one escaped character off the front of a string. -/
theorem stringBody_escapeChar (start : List Char) (fuel : Nat) (done : List Char) (c : Char)
    {tail : List Char} (htail : tail ≠ []) :
    stringBody start (fuel + 1) done (escapeChar c ++ tail) =
      stringBody start fuel (c :: done) tail := by
  unfold escapeChar
  split
  case h_8 hquote hslash _ _ _ _ _ =>
    by_cases hlow : c.toNat < 0x20
    · have hlen : ¬ tail.length + 4 ≤ 4 := by
        have := List.length_pos_iff.2 htail
        omega
      have hhigh : isHighHalf c.toNat = false := by simp [isHighHalf]; omega
      have hhalf : isLowHalf c.toNat = false := by simp [isLowHalf]; omega
      rw [if_pos hlow]
      simp [stringBody, hlen, fourHex?_low hlow, hhigh, hhalf]
    · rw [if_neg hlow]
      exact (if_neg hquote).trans ((if_neg hslash).trans (if_neg hlow))
  all_goals rfl

theorem stringBody_flatMap (start : List Char) (rest : List Char) :
    ∀ (cs : List Char) (fuel : Nat) (done : List Char), cs.length < fuel →
      stringBody start fuel done (cs.flatMap escapeChar ++ '"' :: rest) =
        .ok (String.ofList (done.reverse ++ cs), rest)
  | [], fuel + 1, done, _ => by
    rw [List.append_nil]
    rfl
  | c :: cs, fuel + 1, done, h => by
    rw [List.flatMap_cons, List.append_assoc, stringBody_escapeChar _ _ _ _ (by simp),
      stringBody_flatMap start rest cs fuel (c :: done) (by simpa using h), List.reverse_cons,
      List.append_assoc]
    rfl

theorem length_le_length_flatMap (cs : List Char) : cs.length ≤ (cs.flatMap escapeChar).length := by
  induction cs with
  | nil => exact Nat.le_refl 0
  | cons c cs ih =>
    have hc : 1 ≤ (escapeChar c).length := by
      unfold escapeChar
      split <;> try simp
      split <;> simp
    rw [List.flatMap_cons, List.length_append, List.length_cons]
    omega

/-- A string is read back from its text. -/
theorem readString_stringText (s : String) (rest : List Char) :
    readString (stringText s ++ rest) = .ok (s, rest) := by
  have hlen := length_le_length_flatMap s.toList
  have htext : stringText s ++ rest = '"' :: (s.toList.flatMap escapeChar ++ '"' :: rest) := by
    unfold stringText
    rw [List.cons_append, List.cons_append, List.append_assoc]
    rfl
  have hfuel : s.toList.length < ('"' :: (s.toList.flatMap escapeChar ++ '"' :: rest)).length := by
    rw [List.length_cons, List.length_append]
    omega
  unfold readString
  rw [htext, List.drop_one, List.tail_cons, stringBody_flatMap _ _ _ _ _ hfuel, List.reverse_nil,
    List.nil_append, String.ofList_toList]

/-! ## Whole numbers -/

/-- The rest of a text does not go on with a number. -/
def EndsNumber (rest : List Char) : Prop :=
  ∀ c tail, rest = c :: tail → c.isDigit = false ∧ c ≠ '.' ∧ c ≠ 'e' ∧ c ≠ 'E'

theorem digitsValue_toDigits (n : Nat) : Text.digitsValue (Nat.toDigits 10 n) = n := by
  have h := Nat.ofDigitChars_ten_toDigits (n := n)
  unfold Nat.ofDigitChars at h
  unfold Text.digitsValue
  simpa [Nat.mul_comm] using h

theorem takeDigits_append {ds rest : List Char} (hds : ∀ c ∈ ds, c.isDigit = true)
    (hrest : EndsNumber rest) : takeDigits (ds ++ rest) = (ds, rest) := by
  unfold takeDigits
  rw [List.takeWhile_append_of_pos hds, List.dropWhile_append_of_pos hds]
  cases rest with
  | nil => simp
  | cons c tail =>
    have hc := (hrest c tail rfl).1
    simp [hc]

theorem toDigits_ne_zero_cons {n : Nat} (h : 0 < n) (tail : List Char) :
    Nat.toDigits 10 n ≠ '0' :: tail := by
  induction n using Nat.strongRecOn generalizing tail with
  | ind n ih =>
    by_cases hn : n < 10
    · have hchar : ∀ m < 10, 0 < m → Nat.digitChar m ≠ '0' := by decide
      rw [Nat.toDigits_of_lt_base hn]
      intro heq
      exact hchar n hn h (List.cons.inj heq).1
    · rw [Nat.toDigits_of_base_le (by decide) (by omega)]
      cases hd : Nat.toDigits 10 (n / 10) with
      | nil => exact absurd hd Nat.toDigits_ne_nil
      | cons d ds =>
        intro heq
        have hd0 : d = '0' := (List.cons.inj heq).1
        exact ih (n / 10) (by omega) (by omega) ds (hd0 ▸ hd)

theorem takeFraction_of_endsNumber {rest : List Char} (h : EndsNumber rest) :
    takeFraction rest = (none, rest) := by
  unfold takeFraction
  split
  · exact absurd rfl (h _ _ rfl).2.1
  · rfl

theorem takeExponent_of_endsNumber {rest : List Char} (h : EndsNumber rest) :
    takeExponent rest = (none, rest) := by
  unfold takeExponent
  dsimp only
  split
  · next e tail =>
    obtain ⟨-, -, he, he'⟩ := h e tail rfl
    rw [if_neg (by simp [he, he'])]
  · rfl

theorem unsignedNumber_toDigits (negative : Bool) (start : List Char) (n : Nat) {rest : List Char}
    (h : EndsNumber rest) :
    unsignedNumber negative start (Nat.toDigits 10 n ++ rest) =
      .ok (.int (if negative then -(n : Int) else n), rest) := by
  have hvalue := digitsValue_toDigits n
  have hdigits : ∀ c ∈ Nat.toDigits 10 n, c.isDigit = true := fun c hc =>
    Nat.isDigit_of_mem_toDigits (by decide) (by decide) hc
  have htake := takeDigits_append hdigits h
  have hfraction := takeFraction_of_endsNumber h
  have hexponent := takeExponent_of_endsNumber h
  rcases Nat.eq_zero_or_pos n with rfl | hn
  · rw [Nat.toDigits_zero] at hvalue ⊢
    simp [unsignedNumber, hfraction, hexponent, hvalue]
  · cases hd : Nat.toDigits 10 n with
    | nil => exact absurd hd Nat.toDigits_ne_nil
    | cons d ds =>
      have hzero : d ≠ '0' := fun h0 => toDigits_ne_zero_cons hn ds (h0 ▸ hd)
      have hdigit : d.isDigit = true := hdigits d (hd ▸ List.mem_cons_self)
      rw [hd, List.cons_append] at htake
      rw [hd] at hvalue
      simp [unsignedNumber, hdigit, htake, hfraction, hexponent, hvalue]

theorem ne_of_isDigit {c : Char} (h : c.isDigit = true) : c ≠ '-' ∧ c ≠ 'I' ∧ c ≠ 'N' := by
  refine ⟨?_, ?_, ?_⟩ <;> (rintro rfl; exact absurd h (by decide))

theorem readNumber_digit {d : Char} (h : d.isDigit = true) (cs : List Char) :
    readNumber (d :: cs) = unsignedNumber false (d :: cs) (d :: cs) := by
  obtain ⟨hminus, hinfinity, hnan⟩ := ne_of_isDigit h
  unfold readNumber
  split
  case h_5 => rfl
  all_goals simp_all

theorem readNumber_minus {d : Char} (h : d.isDigit = true) (cs : List Char) :
    readNumber ('-' :: d :: cs) = unsignedNumber true ('-' :: d :: cs) (d :: cs) := by
  obtain ⟨-, hinfinity, -⟩ := ne_of_isDigit h
  unfold readNumber
  split
  case h_4 heq => cases heq; rfl
  all_goals simp_all

theorem readValue_number (fuel : Nat) {c : Char} (h : c.isDigit = true ∨ c = '-') (cs : List Char) :
    readValue (fuel + 1) (c :: cs) = readNumber (c :: cs) := by
  have hne : c ≠ '"' ∧ c ≠ '{' ∧ c ≠ '[' ∧ c ≠ 'n' ∧ c ≠ 't' ∧ c ≠ 'f' := by
    refine ⟨?_, ?_, ?_, ?_, ?_, ?_⟩ <;> (rintro rfl; exact absurd h (by decide))
  obtain ⟨_, _, _, _, _, _⟩ := hne
  unfold readValue
  split
  case h_7 => rfl
  all_goals simp_all

theorem intText_cases (i : Int) : ∃ d ds, d.isDigit = true ∧ Nat.toDigits 10 i.natAbs = d :: ds ∧
    (0 ≤ i ∧ intText i = d :: ds ∨ i < 0 ∧ intText i = '-' :: d :: ds) := by
  cases hd : Nat.toDigits 10 i.natAbs with
  | nil => exact absurd hd Nat.toDigits_ne_nil
  | cons d ds =>
    have hdigit : d.isDigit = true :=
      Nat.isDigit_of_mem_toDigits (by decide) (by decide) (hd ▸ List.mem_cons_self)
    refine ⟨d, ds, hdigit, rfl, ?_⟩
    unfold intText
    rw [hd]
    by_cases hi : i < 0
    · exact .inr ⟨hi, if_pos hi⟩
    · exact .inl ⟨by omega, if_neg hi⟩

/-- A whole number is read back from its text, if that is where a number ends. -/
theorem readValue_intText (fuel : Nat) (i : Int) {rest : List Char} (h : EndsNumber rest) :
    readValue (fuel + 1) (intText i ++ rest) = .ok (.int i, rest) := by
  obtain ⟨d, ds, hdigit, hds, ⟨hi, htext⟩ | ⟨hi, htext⟩⟩ := intText_cases i
  · have hread := unsignedNumber_toDigits false (d :: (ds ++ rest)) i.natAbs h
    rw [hds, List.cons_append] at hread
    rw [htext, List.cons_append, readValue_number fuel (.inl hdigit), readNumber_digit hdigit,
      hread, if_neg Bool.false_ne_true, Int.natAbs_of_nonneg hi]
  · have hread := unsignedNumber_toDigits true ('-' :: d :: (ds ++ rest)) i.natAbs h
    rw [hds, List.cons_append] at hread
    rw [htext, List.cons_append, List.cons_append, readValue_number fuel (.inr rfl),
      readNumber_minus hdigit, hread, if_pos rfl, Int.ofNat_natAbs_of_nonpos (Int.le_of_lt hi),
      Int.neg_neg]

end StyleUsage.Json

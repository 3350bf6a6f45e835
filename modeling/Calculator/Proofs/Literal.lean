import Mathlib.Data.List.TakeWhile
import Calculator.Calculation
import Calculator.Proofs.Lexical

/-!
The text of a number token is a literal. The scanner reads a number as ASCII digits with an
optional point and more digits; such a text has no non-ASCII character to translate, no
underscore, no blank to trim and no sign, so the literal reader takes it as a decimal numeral
with a non-negative value, never as an infinity or a word.

Main statement: `Decimal.readFloat?_of_numberText`.
-/

namespace Calculator
open Calculator.Text

/-- The scanner's digits are the core's decimal digits. -/
theorem isDigit_of_isAsciiDigit {c : Char} (h : Lexeme.isAsciiDigit c = true) :
    c.isDigit = true := by
  simp only [Lexeme.isAsciiDigit, Bool.and_eq_true, decide_eq_true_eq] at h
  simp only [Char.isDigit, Bool.and_eq_true, decide_eq_true_eq]
  exact h

namespace Decimal

/-- A digit or a point is plain ASCII: no separator, no blank. -/
theorem numberChar_plain {c : Char} (h : c = '.' ∨ Lexeme.isAsciiDigit c = true) :
    asciiOf c = some c ∧ c ≠ '_' ∧ isAsciiBlank c = false := by
  rcases h with rfl | h
  · exact ⟨by decide, by decide, by decide⟩
  simp only [Lexeme.isAsciiDigit, Bool.and_eq_true, decide_eq_true_eq] at h
  have hlo : 48 ≤ c.toNat := h.1
  have hhi : c.toNat ≤ 57 := h.2
  refine ⟨if_pos (by omega), ?_, ?_⟩
  · rintro rfl
    exact absurd hhi (by decide)
  · simp only [isAsciiBlank, Bool.or_eq_false_iff, beq_eq_false_iff_ne, Bool.and_eq_false_iff,
      decide_eq_false_iff_not]
    refine ⟨?_, .inr fun hle => ?_⟩
    · rintro rfl
      exact absurd hlo (by decide)
    · have h13 : c.toNat ≤ 13 := hle
      omega

/-- A text of plain ASCII characters stands for itself. -/
theorem mapM_asciiOf {cs : List Char} (h : ∀ c ∈ cs, asciiOf c = some c) :
    cs.mapM asciiOf = some cs := by
  induction cs with
  | nil => rfl
  | cons c rest ih =>
    rw [List.mapM_cons, h c (List.mem_cons_self ..), ih fun d hd => h d (List.mem_cons_of_mem _ hd)]
    rfl

/-- A text with no underscore has no misplaced separator. -/
theorem separatorsValid_of_not_mem {previous : Char} {cs : List Char} (hp : previous ≠ '_')
    (h : '_' ∉ cs) : separatorsValid previous cs = true := by
  induction cs generalizing previous with
  | nil => simpa [separatorsValid] using hp
  | cons c rest ih =>
    have hc : c ≠ '_' := fun hc => h (hc ▸ List.mem_cons_self ..)
    simp only [separatorsValid, Bool.and_eq_true]
    refine ⟨?_, ih hc fun hmem => h (List.mem_cons_of_mem _ hmem)⟩
    simp [hc, hp]

/-- A text with no ASCII blank is left as it is by trimming. -/
theorem trimAsciiBlanks_of_forall {cs : List Char} (h : ∀ c ∈ cs, isAsciiBlank c = false) :
    trimAsciiBlanks cs = cs := by
  have hdrop : ∀ l : List Char, (∀ c ∈ l, isAsciiBlank c = false) →
      l.dropWhile isAsciiBlank = l :=
    fun l hl => dropWhile_of_head fun c hc => hl c (List.mem_of_mem_head? hc)
  rw [trimAsciiBlanks, hdrop cs h, hdrop cs.reverse (fun c hc => h c (List.mem_reverse.mp hc)),
    List.reverse_reverse]

/-- A text that starts with a digit has no sign. -/
theorem splitSign_of_digit {c : Char} (h : c.isDigit = true) (rest : List Char) :
    splitSign (c :: rest) = (false, c :: rest) := by
  have hminus : c ≠ '-' := by rintro rfl; exact absurd h (by decide)
  have hplus : c ≠ '+' := by rintro rfl; exact absurd h (by decide)
  unfold splitSign
  split
  next _ _ heq => exact absurd (List.cons.inj heq).1 hminus
  next _ _ heq => exact absurd (List.cons.inj heq).1 hplus
  next => rfl

/-- A number's text is a non-negative decimal numeral: its digits, scaled down by the length of
its fraction. -/
theorem readNumeral_of_numberText {cs : List Char} (h : NumberText cs) :
    ∃ digits exponent, readNumeral cs = some ⟨false, digits, exponent⟩ := by
  obtain ⟨w, f, rfl, ⟨hw0, hw⟩, hf⟩ := h
  have hwd : ∀ c ∈ w, c.isDigit = true := fun c hc => isDigit_of_isAsciiDigit (hw c hc)
  obtain ⟨c, w', rfl⟩ := List.exists_cons_of_ne_nil hw0
  have hc := hwd c (List.mem_cons_self ..)
  rcases hf with rfl | ⟨g, rfl, ⟨-, hg⟩⟩
  · have htake : (c :: w').takeWhile Char.isDigit = c :: w' := List.takeWhile_eq_self_iff.mpr hwd
    have hdrop : (c :: w').dropWhile Char.isDigit = [] := List.dropWhile_eq_nil_iff.mpr hwd
    refine ⟨digitValue (c :: w'), 0, ?_⟩
    simp [readNumeral, List.append_nil, splitSign_of_digit hc, htake, hdrop, readExponent]
  · have hgd : ∀ c ∈ g, c.isDigit = true := fun c hc => isDigit_of_isAsciiDigit (hg c hc)
    have htake : (c :: (w' ++ '.' :: g)).takeWhile Char.isDigit = c :: w' := by
      rw [← List.cons_append, List.takeWhile_append_of_pos hwd]
      simp
    have hdrop : (c :: (w' ++ '.' :: g)).dropWhile Char.isDigit = '.' :: g := by
      rw [← List.cons_append, List.dropWhile_append_of_pos hwd]
      simp
    refine ⟨digitValue (c :: w' ++ g), -(g.length : Int), ?_⟩
    simp [readNumeral, splitSign_of_digit hc, htake, hdrop, readExponent,
      List.takeWhile_eq_self_iff.mpr hgd, List.dropWhile_eq_nil_iff.mpr hgd]

/-- A number's text reads as a double: the double of its numeral. -/
theorem readFloat?_of_numberText {text : String} (h : NumberText text.toList) :
    ∃ n, readNumeral text.toList = some n ∧ readFloat? text = some n.toFloat := by
  have hplain := fun c hc => numberChar_plain (h.mem c hc)
  obtain ⟨digits, exponent, hn⟩ := readNumeral_of_numberText h
  have hmap := mapM_asciiOf fun c hc => (hplain c hc).1
  have hsep : separatorsValid (Char.ofNat 0) text.toList = true :=
    separatorsValid_of_not_mem (by decide) fun hmem => (hplain '_' hmem).2.1 rfl
  have hfilter : text.toList.filter (· != '_') = text.toList :=
    List.filter_eq_self.mpr fun c hc => by simpa using (hplain c hc).2.1
  have htrim := trimAsciiBlanks_of_forall fun c hc => (hplain c hc).2.2
  refine ⟨_, hn, ?_⟩
  simp [readFloat?, hmap, hsep, hfilter, htrim, readLiteral, hn, Literal.toFloat]
end Decimal

end Calculator

import Mathlib.Data.List.Chain
import Calculator.Proofs.Depth

/-!
Reading ends, on every list of tokens and under every nesting limit, zero and negative ones
included.

A rule that returns a tree has read at least one token: a factor begins with its number, its
function name or its opening parenthesis, and a power, a term and an expression begin with a
factor. The runs of `+`/`-` terms and of `*`/`/` powers may read nothing, but each round of them
reads its operator and a whole operand; each round of the factorial signs after a number reads
its sign. An expression is entered only by a factor, one level deeper, just after an opening
parenthesis.

So every rule enters the next on fewer tokens, or on the same tokens at a rule of lower rank:
the pair of the tokens left and the rank falls in the lexicographic order at every entry. No
chain of entries goes on forever, and one from a rule on `n` tokens has at most `7 n` entries
more than the rule's rank.

Main statement: `Reader.reading_terminates`.
-/

namespace Calculator

namespace Phrase

/-- Whether the phrase stands on its own: an expression, a term, a power or a factor. The runs
after a term or a power, and the optional exponent, continue a phrase whose start is read. -/
def isWhole : Phrase → Bool
  | .expression | .term | .power | .factor => true
  | .moreTerms _ | .morePowers _ | .exponent _ => false

/-- Whether the phrase is a run of `+`/`-` terms or of `*`/`/` powers. -/
def isRun : Phrase → Bool
  | .moreTerms _ | .morePowers _ => true
  | .expression | .term | .power | .factor | .exponent _ => false

theorem rank_le (P : Phrase) : P.rank ≤ 6 := by
  cases P <;> simp [rank]

end Phrase

namespace Reader

variable (rd : Reader) (d : Nat)

/-- Reading on, with any rule, from a reading that left fewer tokens than `ts`, leaves fewer
tokens than `ts`. -/
theorem length_lt_of_bind {ts r : List Token} {e : Expr}
    {x : Except ParseError (Expr × List Token)} {next : Expr → Phrase}
    (hx : ∀ a r₁, x = .ok (a, r₁) → r₁.length < ts.length)
    (h : (x >>= fun p => rd.read d (next p.1) p.2) = .ok (e, r)) : r.length < ts.length := by
  obtain ⟨⟨a, r₁⟩, h₁, h₂⟩ := bind_eq_ok_iff.mp h
  have hlt := hx a r₁ h₁
  have hle : r.length ≤ r₁.length := rd.length_le_of_read d h₂
  omega

/-- An expression read one level deeper and its closing parenthesis leave fewer tokens than the
expression was given. -/
theorem length_lt_of_enclosed {ts r : List Token} {e : Expr} {fault : ParseFault}
    (g : Expr → Expr)
    (h : (rd.read (d + 1) .expression ts >>= fun p => rd.closing fault (g p.1) p.2) =
      .ok (e, r)) :
    r.length < ts.length := by
  obtain ⟨⟨a, r₁⟩, h₁, h₂⟩ := bind_eq_ok_iff.mp h
  obtain ⟨c, rfl, -, -⟩ := rd.eq_of_closing h₂
  have hle := rd.length_le_of_read (d + 1) h₁
  simp only [List.length_cons] at hle
  omega

/-- A factor that is read has read its first token: a number, a function name or an opening
parenthesis. -/
theorem length_lt_of_read_factor {ts r : List Token} {e : Expr}
    (h : rd.read d .factor ts = .ok (e, r)) : r.length < ts.length := by
  cases ts with
  | nil =>
    rw [read_factor_nil] at h
    cases h
  | cons t rest =>
    rw [read_factor_cons] at h
    simp only [List.length_cons]
    split at h
    · -- a number and the factorial signs after it
      have hle := length_le_of_forget h
      omega
    split at h
    · -- a function name, then its argument between parentheses
      cases rest with
      | nil => cases h
      | cons o inside =>
        simp only at h
        split at h
        · split at h
          · cases h
          · have hlt := rd.length_lt_of_enclosed d (.call t.text) h
            simp only [List.length_cons]
            omega
        · cases h
    split at h
    · -- a group
      split at h
      · cases h
      · have hlt := rd.length_lt_of_enclosed d id h
        omega
    · cases h

theorem length_lt_of_read_power {ts r : List Token} {e : Expr}
    (h : rd.read d .power ts = .ok (e, r)) : r.length < ts.length := by
  rw [read_power] at h
  exact rd.length_lt_of_bind d (fun _ _ h₁ => rd.length_lt_of_read_factor d h₁) h

theorem length_lt_of_read_term {ts r : List Token} {e : Expr}
    (h : rd.read d .term ts = .ok (e, r)) : r.length < ts.length := by
  rw [read_term] at h
  exact rd.length_lt_of_bind d (fun _ _ h₁ => rd.length_lt_of_read_power d h₁) h

theorem length_lt_of_read_expression {ts r : List Token} {e : Expr}
    (h : rd.read d .expression ts = .ok (e, r)) : r.length < ts.length := by
  rw [read_expression] at h
  exact rd.length_lt_of_bind d (fun _ _ h₁ => rd.length_lt_of_read_term d h₁) h

/-- A phrase that stands on its own, once read, has read at least one token. -/
theorem length_lt_of_read {P : Phrase} (hP : P.isWhole = true) {ts r : List Token} {e : Expr}
    (h : rd.read d P ts = .ok (e, r)) : r.length < ts.length := by
  cases P with
  | expression => exact rd.length_lt_of_read_expression d h
  | term => exact rd.length_lt_of_read_term d h
  | power => exact rd.length_lt_of_read_power d h
  | factor => exact rd.length_lt_of_read_factor d h
  | moreTerms | morePowers | exponent => cases hP

variable {c c' : Entry}

/-- Each round of a run reads its operator and a whole operand, two tokens at least. -/
theorem Enters.length_add_two_le (h : rd.Enters c c') (hc : c.phrase.isRun = true)
    (hc' : c'.phrase.isRun = true) : c'.tokens.length + 2 ≤ c.tokens.length := by
  cases h with
  | moreTermsMore _ hr | morePowersMore _ hr =>
    have hlt := rd.length_lt_of_read _ rfl hr
    simp only [List.length_cons]
    omega
  | expressionTerm | expressionMore | termPower | termMore | powerBase | powerExponent
    | factorArgument | factorGroup => cases hc
  | moreTermsTerm | morePowersPower => cases hc'

/-- An expression is entered only by a factor, one level deeper, just after the opening
parenthesis of a group or of a function's argument. -/
theorem Enters.expression_after_open {d' : Nat} {ts : List Token}
    (h : rd.Enters c ⟨.expression, d', ts⟩) :
    c.phrase = .factor ∧ d' = c.depth + 1 ∧
      ∃ o, o.isOpen = true ∧
        (c.tokens = o :: ts ∨ ∃ f, f.kind = .function ∧ c.tokens = f :: o :: ts) := by
  cases h with
  | factorArgument hf ho _ => exact ⟨rfl, rfl, _, ho, .inr ⟨_, hf, rfl⟩⟩
  | factorGroup ho _ => exact ⟨rfl, rfl, _, ho, .inl rfl⟩

/-- Each rule enters the next on fewer tokens, or on the same tokens at a rule of lower rank. -/
theorem Enters.lex_lt (h : rd.Enters c c') :
    Prod.Lex (· < ·) (· < ·) (c'.tokens.length, c'.phrase.rank)
      (c.tokens.length, c.phrase.rank) := by
  cases h with
  -- only a rule's first step stays on its tokens; every other entry follows a phrase or a
  -- token that was read
  | expressionTerm | termPower | powerBase => exact .right _ (by simp [Phrase.rank])
  | expressionMore hr | termMore hr => exact .left _ _ (rd.length_lt_of_read _ rfl hr)
  | moreTermsTerm _ | morePowersPower _ => exact .left _ _ (by simp)
  | moreTermsMore _ hr | morePowersMore _ hr =>
    have hlt := rd.length_lt_of_read _ rfl hr
    exact .left _ _ (by simp only [List.length_cons]; omega)
  | powerExponent hr _ =>
    have hlt := rd.length_lt_of_read _ rfl hr
    exact .left _ _ (by simp only [List.length_cons] at hlt ⊢; omega)
  | factorArgument | factorGroup => exact .left _ _ (by simp only [List.length_cons]; omega)

/-- The lexicographic fall, counted: seven for each token left, and the rank, fall at every
entry, since a rank is at most six. -/
theorem Enters.budget_lt (h : rd.Enters c c') :
    7 * c'.tokens.length + c'.phrase.rank < 7 * c.tokens.length + c.phrase.rank := by
  have hrank := c'.phrase.rank_le
  rcases Prod.lex_def.mp (h.lex_lt rd) with hlt | ⟨heq, hlt⟩
  · omega
  · simp only at heq hlt
    omega

/-- No chain of entries goes on forever: pairs of natural numbers admit no endless
lexicographic fall. -/
theorem enters_wellFounded : WellFounded (flip rd.Enters) :=
  Subrelation.wf (fun h => Enters.lex_lt rd h)
    (InvImage.wf (fun c : Entry => (c.tokens.length, c.phrase.rank))
      (Prod.lex Nat.lt_wfRel Nat.lt_wfRel).wf)

/-- A chain of entries from a rule on `n` tokens has at most `7 n` entries more than the rule's
rank. -/
theorem chain_length_le {cs : List Entry} (h : List.IsChain rd.Enters (c :: cs)) :
    cs.length ≤ 7 * c.tokens.length + c.phrase.rank := by
  induction cs generalizing c with
  | nil => simp
  | cons c' cs ih =>
    rw [List.isChain_cons_cons] at h
    have hrest := ih h.2
    have hlt := h.1.budget_lt rd
    simp only [List.length_cons]
    omega

/-- Reading a token list ends under every nesting limit. A rule that stands on its own returns
only after reading a token; each round of a run reads its operator and an operand, and each
round of factorial signs its sign; an expression is entered again only after an opening
parenthesis. So every entry lowers the tokens left, then the rank, and the rules enter each other
in chains that end, at most `7 n + 6` entries after the start on `n` tokens. -/
theorem reading_terminates (maxDepth : Int) (tokens : List Token) :
    let rd : Reader := ⟨maxDepth, endPosition tokens⟩
    (∀ P d ts e r, P.isWhole = true → rd.read d P ts = .ok (e, r) → r.length < ts.length) ∧
    (∀ c c', rd.Enters c c' → c.phrase.isRun = true → c'.phrase.isRun = true →
      c'.tokens.length + 2 ≤ c.tokens.length) ∧
    (∀ d node k ts e r, rd.readBangs d node k ts = .ok (e, r) →
      ∃ bs, ts = bs ++ r ∧ (∀ b ∈ bs, b.kind = .factorial) ∧ e = Expr.bangs bs.length node) ∧
    (∀ c d ts, rd.Enters c ⟨.expression, d, ts⟩ →
      c.phrase = .factor ∧ d = c.depth + 1 ∧
        ∃ o, o.isOpen = true ∧
          (c.tokens = o :: ts ∨ ∃ f, f.kind = .function ∧ c.tokens = f :: o :: ts)) ∧
    (∀ c c', rd.Enters c c' →
      Prod.Lex (· < ·) (· < ·) (c'.tokens.length, c'.phrase.rank)
        (c.tokens.length, c.phrase.rank)) ∧
    WellFounded (flip rd.Enters) ∧
    ∀ cs, List.IsChain rd.Enters (⟨.expression, 0, tokens⟩ :: cs) →
      cs.length ≤ 7 * tokens.length + 6 := by
  intro rd
  refine ⟨fun P d _ _ _ hP h => rd.length_lt_of_read d hP h,
    fun _ _ h hc hc' => h.length_add_two_le rd hc hc',
    fun d _ _ _ _ _ h => rd.readBangs_rounds d h,
    fun _ _ _ h => h.expression_after_open rd,
    fun _ _ h => h.lex_lt rd, rd.enters_wellFounded, fun _ h => ?_⟩
  simpa [Phrase.rank] using rd.chain_length_le h

end Reader

end Calculator

import Calculator.Expr.Parse

/-!
The grammar of expressions, as derivations over tokens:

    expression → term (("+" | "-") term)*
    term       → power (("*" | "/") power)*
    power      → factor ("^" factor)?
    factor     → NUMBER "!"* | FUNCTION "(" expression ")" | "(" expression ")"

A derivation relates the tokens of a phrase to its tree. Operators, parentheses and the power
and factorial signs are matched by kind and text, numbers and function names by kind alone. A
run of `+`/`-` terms (or of `*`/`/` powers) is folded onto the tree before it, so chains group
to the left; a number with `k` factorial signs is the number under `k` factorials, the first
innermost; a group adds no node.

A derivation also records how deep it nests: a group or a call opens one level, and the `k`-th
factorial sign of a number stands `k` levels deep. The reader's nesting limit is checked
against this depth.
-/

namespace Calculator

namespace Token

/-- Whether the token is the power sign `^`. -/
def isCaret (t : Token) : Bool :=
  t.kind == .power && t.text == "^"

/-- Whether the token is the factorial sign `!`. -/
def isBang (t : Token) : Bool :=
  t.kind == .factorial && t.text == "!"

/-- Whether a power or factorial token carries its sign as its text. -/
def carriesSign (t : Token) : Bool :=
  (t.kind != .power || t.text == "^") && (t.kind != .factorial || t.text == "!")

theorem isCaret_of_carriesSign {t : Token} (hs : t.carriesSign = true)
    (hk : t.kind = .power) : t.isCaret = true := by
  simp_all [carriesSign, isCaret]

theorem isBang_of_carriesSign {t : Token} (hs : t.carriesSign = true)
    (hk : t.kind = .factorial) : t.isBang = true := by
  simp_all [carriesSign, isBang]

end Token

/-- A tree under `k` factorials, the first innermost. -/
def Expr.bangs : Nat → Expr → Expr
  | 0, e => e
  | k + 1, e => .post "!" (Expr.bangs k e)

/-- One more factorial taken inside the others. -/
theorem Expr.bangs_succ' (k : Nat) (e : Expr) :
    Expr.bangs (k + 1) e = Expr.bangs k (.post "!" e) := by
  induction k with
  | zero => rfl
  | succ k ih => rw [Expr.bangs, ih, Expr.bangs]

/-- The phrases of the grammar. `moreTerms left` is a run of `+`/`-` terms read after `left`,
`morePowers left` a run of `*`/`/` powers, and `exponent base` the optional `^` factor after
`base`. -/
inductive Phrase where
  | expression
  | moreTerms (left : Expr)
  | term
  | morePowers (left : Expr)
  | power
  | exponent (base : Expr)
  | factor

/-- `Derives P u e n`: the tokens `u` form the phrase `P` with tree `e`, nested `n` levels
deep. -/
inductive Derives : Phrase → List Token → Expr → Nat → Prop where
  | expression {u v a e m n} : Derives .term u a m → Derives (.moreTerms a) v e n →
      Derives .expression (u ++ v) e (max m n)
  | moreTermsNil {a} : Derives (.moreTerms a) [] a 0
  | moreTermsCons {o v w a b e m n} : o.isAdditive = true → Derives .term v b m →
      Derives (.moreTerms (.bin o.text a b)) w e n →
      Derives (.moreTerms a) (o :: (v ++ w)) e (max m n)
  | term {u v a e m n} : Derives .power u a m → Derives (.morePowers a) v e n →
      Derives .term (u ++ v) e (max m n)
  | morePowersNil {a} : Derives (.morePowers a) [] a 0
  | morePowersCons {o v w a b e m n} : o.isMultiplicative = true → Derives .power v b m →
      Derives (.morePowers (.bin o.text a b)) w e n →
      Derives (.morePowers a) (o :: (v ++ w)) e (max m n)
  | power {u v a e m n} : Derives .factor u a m → Derives (.exponent a) v e n →
      Derives .power (u ++ v) e (max m n)
  | exponentNone {a} : Derives (.exponent a) [] a 0
  | exponentSome {o v a b n} : o.isCaret = true → Derives .factor v b n →
      Derives (.exponent a) (o :: v) (.bin "^" a b) n
  | number {t bs} : t.kind = .number → (∀ b ∈ bs, b.isBang = true) →
      Derives .factor (t :: bs) (Expr.bangs bs.length (.num t.text)) bs.length
  | call {f o c u e n} : f.kind = .function → o.isOpen = true → Derives .expression u e n →
      c.isClose = true → Derives .factor (f :: o :: (u ++ [c])) (.call f.text e) (n + 1)
  | group {o c u e n} : o.isOpen = true → Derives .expression u e n → c.isClose = true →
      Derives .factor (o :: (u ++ [c])) e (n + 1)

/-- The tokens form a whole expression with tree `e`. -/
def Sentence (ts : List Token) (e : Expr) : Prop :=
  ∃ n, Derives .expression ts e n

/-- A phrase never nests deeper than it has tokens: every level is opened by a token. -/
theorem Derives.depth_le_length {P : Phrase} {u : List Token} {e : Expr} {n : Nat}
    (h : Derives P u e n) : n ≤ u.length := by
  induction h with
  | number => simp
  | call _ _ _ _ ih => simp; omega
  | group _ _ _ ih => simp; omega
  | moreTermsNil | morePowersNil | exponentNone => simp
  | exponentSome _ _ ih => simp; omega
  | expression _ _ ih₁ ih₂ | term _ _ ih₁ ih₂ | power _ _ ih₁ ih₂ => simp; omega
  | moreTermsCons _ _ _ ih₁ ih₂ | morePowersCons _ _ _ ih₁ ih₂ => simp; omega

/-- A factor is a power with no exponent. -/
theorem Derives.power_of_factor {u : List Token} {e : Expr} {n : Nat}
    (h : Derives .factor u e n) : Derives .power u e n := by
  have h' := Derives.power h .exponentNone
  rwa [List.append_nil, Nat.max_zero] at h'

/-- A power is a term with no products. -/
theorem Derives.term_of_power {u : List Token} {e : Expr} {n : Nat}
    (h : Derives .power u e n) : Derives .term u e n := by
  have h' := Derives.term h .morePowersNil
  rwa [List.append_nil, Nat.max_zero] at h'

/-- A term is an expression with no sums. -/
theorem Derives.expression_of_term {u : List Token} {e : Expr} {n : Nat}
    (h : Derives .term u e n) : Derives .expression u e n := by
  have h' := Derives.expression h .moreTermsNil
  rwa [List.append_nil, Nat.max_zero] at h'

namespace Phrase

/-- Whether a token cannot continue the phrase, so that a reader of the phrase stops before
it. -/
def stopsAt : Phrase → Token → Bool
  | .factor, t => t.kind != .factorial
  | .power, t | .exponent _, t => t.kind != .power && t.kind != .factorial
  | .term, t | .morePowers _, t =>
    !t.isMultiplicative && t.kind != .power && t.kind != .factorial
  | .expression, t | .moreTerms _, t =>
    !t.isAdditive && !t.isMultiplicative && t.kind != .power && t.kind != .factorial

/-- The tokens `rest` may follow the phrase: their first one, if any, cannot continue it. -/
def Follows (P : Phrase) (rest : List Token) : Prop :=
  ∀ t ∈ rest.head?, P.stopsAt t = true

@[simp] theorem follows_nil (P : Phrase) : P.Follows [] := by
  simp [Follows]

theorem follows_cons {P : Phrase} {t : Token} {rest : List Token} :
    P.Follows (t :: rest) ↔ P.stopsAt t = true := by
  simp [Follows]

end Phrase

end Calculator

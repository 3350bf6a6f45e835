import Calculator.Proofs.Literal
import Calculator.Proofs.Canonical
import Calculator.Proofs.Machine

/-!
How a calculation can fail. Scanning and reading fail on the sources they do not accept; what
they accept reads to a canonical tree, whose numbers are literals, whose operators and functions
are known, and whose factorials stand on numbers or factorials. Evaluating such a tree fails only
at a factorial of a value that is not a non-negative whole number: every operation on doubles
has a value, an infinity or not-a-number included, so a division by zero, an overflowing power
or the sine of an infinity leaves no error behind.

Main statement: `calculate_fails_only_by`.
-/

namespace Calculator

/-- A sequenced computation fails exactly when its first step fails, or the first step succeeds
and the rest fails. -/
theorem bind_eq_error_iff {ε α β : Type} {x : Except ε α} {f : α → Except ε β} {e : ε} :
    x >>= f = .error e ↔ x = .error e ∨ ∃ a, x = .ok a ∧ f a = .error e := by
  cases x <;> simp [bind, Except.bind]

/-- A number's text has a value. -/
theorem numberValue_of_numberText {text : String} (h : NumberText text.toList) :
    ∃ x, numberValue text = .ok x := by
  obtain ⟨n, -, hread⟩ := Decimal.readFloat?_of_numberText h
  exact ⟨n.toFloat, by rw [numberValue, hread]⟩

/-- A known operator applies to any two doubles. -/
theorem binaryValue_of_mem {op : String} (hop : op ∈ ["+", "-", "*", "/", "^"]) (a b : Float) :
    ∃ x, binaryValue op a b = .ok x := by
  simp only [List.mem_cons, List.not_mem_nil, or_false] at hop
  rcases hop with rfl | rfl | rfl | rfl | rfl <;> exact ⟨_, rfl⟩

/-- A known function applies to any double. -/
theorem callValue_of_mem {name : String} (hname : name ∈ ["sin", "cos"]) (x : Float) :
    ∃ y, callValue name x = .ok y := by
  simp only [List.mem_cons, List.not_mem_nil, or_false] at hname
  rcases hname with rfl | rfl <;> exact ⟨_, rfl⟩

/-- The factorial has a value, or fails as outside its domain. -/
theorem postfixValue_bang (x : Float) :
    (∃ y, postfixValue "!" x = .ok y) ∨ postfixValue "!" x = .error .factorialDomain := by
  rw [postfixValue, if_pos rfl]
  cases wholeValue? x with
  | some n => exact .inl ⟨_, rfl⟩
  | none => exact .inr rfl

/-- Evaluating a canonical tree fails only at a factorial outside its domain. -/
theorem Expr.eval_error_of_canonical {t : Expr} (h : t.Canonical) {err : EvalError}
    (herr : t.eval = .error err) : err = .factorialDomain := by
  induction t generalizing err with
  | num text =>
    obtain ⟨x, hx⟩ := numberValue_of_numberText h
    rw [Expr.eval, hx] at herr
    cases herr
  | bin op l r ihl ihr =>
    obtain ⟨hop, hl, hr⟩ := h
    rw [Expr.eval] at herr
    -- the first failure is the left operand's, the right operand's or the operation's
    rcases bind_eq_error_iff.mp herr with hle | ⟨a, -, herr⟩
    · exact ihl hl hle
    rcases bind_eq_error_iff.mp herr with hre | ⟨b, -, happly⟩
    · exact ihr hr hre
    obtain ⟨x, hx⟩ := binaryValue_of_mem hop a b
    rw [hx] at happly
    cases happly
  | post op e ih =>
    obtain ⟨rfl, -, he⟩ := h
    rw [Expr.eval] at herr
    rcases bind_eq_error_iff.mp herr with hee | ⟨x, -, hbang⟩
    · exact ih he hee
    rcases postfixValue_bang x with ⟨y, hy⟩ | hy
    · rw [hy] at hbang
      cases hbang
    · rw [hy] at hbang
      cases hbang
      rfl
  | call name e ih =>
    obtain ⟨hname, he⟩ := h
    rw [Expr.eval] at herr
    rcases bind_eq_error_iff.mp herr with hee | ⟨x, -, happly⟩
    · exact ih he hee
    obtain ⟨y, hy⟩ := callValue_of_mem hname x
    rw [hy] at happly
    cases happly
  | stray => exact absurd h id

/-- The machine fails on a canonical tree only at a factorial outside its domain. -/
theorem Expr.evaluate_error_of_canonical {t : Expr} (h : t.Canonical) {err : EvalError}
    (herr : t.evaluate = .error err) : err = .factorialDomain := by
  rw [Expr.evaluate, runFrames_start] at herr
  cases heval : t.eval with
  | error e =>
    rw [heval] at herr
    cases herr
    exact Expr.eval_error_of_canonical h heval
  | ok x =>
    rw [heval] at herr
    cases herr

/-- A calculation stage by stage: the first stage that fails stops it. -/
theorem calculate_eq (settings : Settings) (source : String) :
    calculate settings source =
      match Token.scan source with
      | .error e => .error (.lex e)
      | .ok ts =>
        match Expr.parse settings.maxDepth ts with
        | .error e => .error (.parse e)
        | .ok t =>
          match t.evaluate with
          | .error e => .error (.eval e)
          | .ok x => .ok ⟨source, ts, t, x⟩ := by
  unfold calculate
  cases Token.scan source with
  | error e => rfl
  | ok ts =>
    dsimp only [mapError_ok, bind, Except.bind]
    cases Expr.parse settings.maxDepth ts with
    | error e => rfl
    | ok t =>
      dsimp only [mapError_ok]
      cases t.evaluate <;> rfl

/-- A calculation returns its result, or fails while scanning, while reading, or at a factorial
outside its domain. No other evaluation error is reachable from a source: no number text that
is no literal, no unknown operator or function, no node of an unknown kind. -/
theorem calculate_fails_only_by (settings : Settings) (source : String) :
    ((∃ c, calculate settings source = .ok c) ∨
      (∃ e, calculate settings source = .error (.lex e)) ∨
      (∃ e, calculate settings source = .error (.parse e)) ∨
      calculate settings source = .error (.eval .factorialDomain)) ∧
    EvalError.factorialDomain.message = "Factorial is defined for non-negative integers only" := by
  refine ⟨?_, rfl⟩
  cases hscan : Token.scan source with
  | error e => exact .inr (.inl ⟨e, by simp [calculate_eq, hscan]⟩)
  | ok ts =>
    cases hparse : Expr.parse settings.maxDepth ts with
    | error e => exact .inr (.inr (.inl ⟨e, by simp [calculate_eq, hscan, hparse]⟩))
    | ok t =>
      cases hev : t.evaluate with
      | error e =>
        -- what was read is canonical, so its evaluation fails only at a factorial
        have he := Expr.evaluate_error_of_canonical (Expr.canonical_of_parse hscan hparse) hev
        subst he
        exact .inr (.inr (.inr (by simp [calculate_eq, hscan, hparse, hev])))
      | ok x => exact .inl ⟨⟨source, ts, t, x⟩, by simp [calculate_eq, hscan, hparse, hev]⟩

end Calculator

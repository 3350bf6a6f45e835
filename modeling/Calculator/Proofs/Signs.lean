import Calculator.Proofs.Nesting
import Calculator.Proofs.Lexical

/-!
The reader checks the text of an operator and of a parenthesis, keeps the text of a number and
of a function name, but looks only at the kind of a power or factorial token: such a token
stands for its sign whatever it spells. `Token.signed` spells the sign out. Reading a token list
and reading it with its signs spelled out end the same way: with the same tree and the same
tokens left, or with a fault at the same place, the nesting in both or in neither. Only the text
by which an unexpected or a trailing token is reported may differ.

So reading succeeds exactly on the token lists that are sentences of the grammar once their
signs are spelled out. The tokens of a source spell their signs already, and for them this is
the grammar as it stands, power and factorial signs matched by their text too.

Main statement: `Expr.parse_eq_ok_iff_signed_sentence`.
-/

namespace Calculator

namespace Token

/-- The token with its sign spelled out: a power token reads `^` and a factorial token `!`,
whatever they spelled. Other tokens are kept. -/
def signed (t : Token) : Token :=
  match t.kind with
  | .power => { t with text := "^" }
  | .factorial => { t with text := "!" }
  | _ => t

@[simp] theorem signed_kind (t : Token) : t.signed.kind = t.kind := by
  obtain ⟨k, x, p⟩ := t
  cases k <;> rfl

@[simp] theorem signed_pos (t : Token) : t.signed.pos = t.pos := by
  obtain ⟨k, x, p⟩ := t
  cases k <;> rfl

/-- Signing keeps every position. -/
@[simp] theorem pos_comp_signed : Token.pos ∘ signed = Token.pos :=
  funext signed_pos

/-- A token that is no sign is kept. -/
theorem signed_of_kind {t : Token} (hp : t.kind ≠ .power) (hf : t.kind ≠ .factorial) :
    t.signed = t := by
  obtain ⟨k, x, p⟩ := t
  cases k <;> simp_all [signed]

theorem signed_of_carriesSign {t : Token} (h : t.carriesSign = true) : t.signed = t := by
  obtain ⟨k, x, p⟩ := t
  cases k <;> simp_all [signed, carriesSign]

@[simp] theorem carriesSign_signed (t : Token) : t.signed.carriesSign = true := by
  obtain ⟨k, x, p⟩ := t
  cases k <;> simp [signed, carriesSign]

@[simp] theorem signed_isOpen (t : Token) : t.signed.isOpen = t.isOpen := by
  obtain ⟨k, x, p⟩ := t
  cases k <;> rfl

@[simp] theorem signed_isClose (t : Token) : t.signed.isClose = t.isClose := by
  obtain ⟨k, x, p⟩ := t
  cases k <;> rfl

@[simp] theorem signed_isAdditive (t : Token) : t.signed.isAdditive = t.isAdditive := by
  obtain ⟨k, x, p⟩ := t
  cases k <;> rfl

@[simp] theorem signed_isMultiplicative (t : Token) :
    t.signed.isMultiplicative = t.isMultiplicative := by
  obtain ⟨k, x, p⟩ := t
  cases k <;> rfl

theorem signed_of_isAdditive {o : Token} (ho : o.isAdditive = true) : o.signed = o :=
  signed_of_kind (by simp [kind_of_isAdditive ho]) (by simp [kind_of_isAdditive ho])

theorem signed_of_isMultiplicative {o : Token} (ho : o.isMultiplicative = true) : o.signed = o :=
  signed_of_kind (by simp [kind_of_isMultiplicative ho]) (by simp [kind_of_isMultiplicative ho])

/-- Signed tokens spell their signs. -/
theorem carriesSign_map_signed (ts : List Token) : ∀ t ∈ ts.map signed, t.carriesSign = true := by
  intro t ht
  obtain ⟨t', -, rfl⟩ := List.mem_map.mp ht
  exact carriesSign_signed t'

/-- Tokens that spell their signs are their own signed form. -/
theorem map_signed_of_carriesSign {ts : List Token} (h : ∀ t ∈ ts, t.carriesSign = true) :
    ts.map signed = ts := by
  conv => rhs; rw [← List.map_id ts]
  exact List.map_congr_left fun t ht => signed_of_carriesSign (h t ht)

end Token

/-- The fault without the text of the token it reports, for the two faults that report a token
which may be a sign. -/
def ParseFault.untexted : ParseFault → ParseFault
  | .unexpected _ => .unexpected ""
  | .trailing _ => .trailing ""
  | f => f

/-- The error without the text of the token it reports. -/
def ParseError.untexted (e : ParseError) : ParseError :=
  ⟨e.fault.untexted, e.pos⟩

/-- Dropping a text never makes or unmakes the nesting fault. -/
theorem ParseFault.untexted_eq_tooDeep {f : ParseFault} {m : Int} :
    f.untexted = .tooDeep m ↔ f = .tooDeep m := by
  cases f <;> simp [untexted]

/-- Two answers whose errors agree up to the text they report: one is a tree exactly when the
other is that tree. -/
theorem eq_ok_iff_of_untexted {x y : Except ParseError Expr}
    (h : x.mapError ParseError.untexted = y.mapError ParseError.untexted) (e : Expr) :
    x = .ok e ↔ y = .ok e := by
  cases x with
  | ok a =>
    cases y with
    | ok b =>
      cases h
      rfl
    | error err => cases h
  | error err =>
    cases y with
    | ok b => cases h
    | error err' =>
      constructor
      · intro hx
        cases hx
      · intro hy
        cases hy

/-- An answer that fails has an answer alike up to texts that fails too, with the same error up
to its text. -/
theorem exists_error_of_untexted {x y : Except ParseError Expr}
    (h : x.mapError ParseError.untexted = y.mapError ParseError.untexted) {err : ParseError}
    (hy : y = .error err) : ∃ err', x = .error err' ∧ err'.untexted = err.untexted := by
  subst hy
  cases x with
  | ok a => cases h
  | error err' => exact ⟨err', rfl, Except.error.inj h⟩

/-- Errors alike up to the text they report are at the same place, and are the nesting fault
together. -/
theorem ParseError.alike_of_untexted {e e' : ParseError} (h : e.untexted = e'.untexted)
    (m : Int) : e.pos = e'.pos ∧ (e.fault = .tooDeep m ↔ e'.fault = .tooDeep m) := by
  have hf : e.fault.untexted = e'.fault.untexted := congrArg ParseError.fault h
  have hp : e.untexted.pos = e'.untexted.pos := congrArg ParseError.pos h
  refine ⟨hp, ?_⟩
  rw [← ParseFault.untexted_eq_tooDeep, hf, ParseFault.untexted_eq_tooDeep]

open Token

/-- Reading `y`, of tokens with their signs spelled out, ends as reading `x` does: with the same
value and the tokens `x` leaves, signed, or with an error that differs at most in the text of the
token it reports. -/
def SignedAs {α : Type} : Except ParseError (α × List Token) →
    Except ParseError (α × List Token) → Prop
  | .ok (a, r), .ok (b, s) => a = b ∧ r = s.map signed
  | .error e, .error e' => e.untexted = e'.untexted
  | _, _ => False

namespace SignedAs

variable {α β : Type}

theorem ok (a : α) (r : List Token) : SignedAs (.ok (a, r.map signed)) (.ok (a, r)) :=
  ⟨rfl, rfl⟩

theorem error {e e' : ParseError} (h : e.untexted = e'.untexted) :
    SignedAs (α := α) (.error e) (.error e') :=
  h

theorem failAt (rd : Reader) (f : ParseFault) (rest : List Token) :
    SignedAs (α := α) (rd.failAt f (rest.map signed)) (rd.failAt f rest) := by
  cases rest <;> simp [SignedAs, Reader.failAt, Reader.posOf]

/-- Reading on from where two readings that end alike stopped, with rules that end alike. -/
theorem bind {x y : Except ParseError (α × List Token)}
    {f g : α × List Token → Except ParseError (β × List Token)} (hxy : SignedAs y x)
    (hfg : ∀ a r, x = .ok (a, r) → SignedAs (g (a, r.map signed)) (f (a, r))) :
    SignedAs (y >>= g) (x >>= f) := by
  cases x with
  | ok p =>
    obtain ⟨b, s⟩ := p
    cases y with
    | ok q =>
      obtain ⟨a, r⟩ := q
      obtain ⟨rfl, rfl⟩ := hxy
      exact hfg a s rfl
    | error e => exact absurd hxy id
  | error e' =>
    cases y with
    | ok q => exact absurd hxy id
    | error e => exact hxy

theorem map {x y : Except ParseError (α × List Token)} (h : α → β) (hxy : SignedAs y x) :
    SignedAs (y.map fun p => (h p.1, p.2)) (x.map fun p => (h p.1, p.2)) := by
  cases x with
  | ok p =>
    cases y with
    | ok q =>
      obtain ⟨heq, hr⟩ := hxy
      exact ⟨by rw [heq], hr⟩
    | error e => exact absurd hxy id
  | error e' =>
    cases y with
    | ok q => exact absurd hxy id
    | error e => exact hxy

end SignedAs

namespace Reader

variable (rd : Reader)

/-- A closing parenthesis, read from signed tokens or not, ends alike. -/
theorem closing_signed (fault : ParseFault) (e : Expr) (r : List Token) :
    SignedAs (rd.closing fault e (r.map signed)) (rd.closing fault e r) := by
  cases r with
  | nil => exact .failAt rd fault []
  | cons c after =>
    simp only [List.map_cons, closing, signed_isClose]
    split
    · exact .ok e after
    · exact .failAt rd fault (c :: after)

/-- The factorial signs after a number are read alike, whatever they spell: the loop looks at
their kind only. -/
theorem readBangs_signed (d : Nat) (node : Expr) (k : Nat) (ts : List Token) :
    SignedAs (rd.readBangs d node k (ts.map signed)) (rd.readBangs d node k ts) := by
  induction ts generalizing node k with
  | nil => exact .ok node []
  | cons t ts ih =>
    rw [List.map_cons, readBangs_cons, readBangs_cons, signed_kind]
    split
    · split
      · exact .error (by simp [ParseError.untexted])
      · exact ih _ _
    · exact .ok node (t :: ts)

/-- A power or factorial sign starts no factor: it is reported by its text. -/
theorem read_factor_of_sign (d : Nat) {t : Token} (hs : t.kind = .power ∨ t.kind = .factorial)
    (rest : List Token) : rd.read d .factor (t :: rest) = .error ⟨.unexpected t.text, t.pos⟩ := by
  have hn : (t.kind == .number) = false := by rcases hs with h | h <;> simp [h]
  have hf : (t.kind == .function) = false := by rcases hs with h | h <;> simp [h]
  have ho : t.isOpen = false := by rcases hs with h | h <;> simp [isOpen, h]
  rw [read_factor_cons, hn, hf, ho]
  rfl

/-- Every rule reads a token list and its signed form alike. -/
theorem read_signed (P : Phrase) (d : Nat) (ts : List Token) :
    SignedAs (rd.read d P (ts.map signed)) (rd.read d P ts) := by
  match P with
  | .expression =>
    rw [read_expression, read_expression]
    refine (read_signed .term d ts).bind fun a r h => ?_
    have := rd.length_le_of_read d h
    exact read_signed (.moreTerms a) d r
  | .moreTerms left =>
    match ts with
    | [] =>
      rw [List.map_nil, read_moreTerms_nil]
      exact .ok left []
    | o :: tail =>
      rw [List.map_cons, read_moreTerms_cons, read_moreTerms_cons, signed_isAdditive]
      split
      next ho =>
        rw [signed_of_isAdditive ho]
        refine (read_signed .term d tail).bind fun b r h => ?_
        have := rd.length_le_of_read d h
        exact read_signed (.moreTerms _) d r
      · exact .ok left (o :: tail)
  | .term =>
    rw [read_term, read_term]
    refine (read_signed .power d ts).bind fun a r h => ?_
    have := rd.length_le_of_read d h
    exact read_signed (.morePowers a) d r
  | .morePowers left =>
    match ts with
    | [] =>
      rw [List.map_nil, read_morePowers_nil]
      exact .ok left []
    | o :: tail =>
      rw [List.map_cons, read_morePowers_cons, read_morePowers_cons, signed_isMultiplicative]
      split
      next ho =>
        rw [signed_of_isMultiplicative ho]
        refine (read_signed .power d tail).bind fun b r h => ?_
        have := rd.length_le_of_read d h
        exact read_signed (.morePowers _) d r
      · exact .ok left (o :: tail)
  | .power =>
    rw [read_power, read_power]
    refine (read_signed .factor d ts).bind fun a r h => ?_
    have := rd.length_le_of_read d h
    exact read_signed (.exponent a) d r
  | .exponent base =>
    match ts with
    | [] => exact .ok base []
    | o :: tail =>
      rw [List.map_cons, read_exponent_cons, read_exponent_cons, signed_kind]
      split
      · exact (read_signed .factor d tail).map _
      · exact .ok base (o :: tail)
  | .factor =>
    match ts with
    | [] =>
      rw [List.map_nil, read_factor_nil]
      exact .error rfl
    | t :: rest =>
      rw [List.map_cons]
      by_cases hs : t.kind = .power ∨ t.kind = .factorial
      · -- the sign is reported by its text, which signing may change
        rw [rd.read_factor_of_sign d hs, rd.read_factor_of_sign d (by simpa using hs)]
        exact .error (by simp [ParseError.untexted, ParseFault.untexted])
      rw [signed_of_kind (fun h => hs (.inl h)) (fun h => hs (.inr h)), read_factor_cons,
        read_factor_cons]
      split
      · exact rd.readBangs_signed d _ 0 rest
      split
      · -- a function name, then its argument between parentheses
        match rest with
        | [] => exact .failAt rd _ []
        | o :: inside =>
          simp only [List.map_cons, signed_isOpen]
          split
          · split
            · exact .failAt rd _ inside
            · exact (read_signed .expression (d + 1) inside).bind fun a r _ =>
                rd.closing_signed .missingClose _ r
          · exact .failAt rd _ (o :: inside)
      split
      · -- a group
        split
        · exact .failAt rd _ rest
        · exact (read_signed .expression (d + 1) rest).bind fun a r _ =>
            rd.closing_signed .unclosedGroup a r
      · exact .error rfl
termination_by 8 * ts.length + P.rank
decreasing_by all_goals simp only [Phrase.rank, List.length_cons] at *; omega

/-- The end of reading a whole token list: the tree when no token is left, else a fault at the
first token left. -/
def finish (p : Expr × List Token) : Except ParseError Expr :=
  match p.2 with
  | [] => .ok p.1
  | t :: _ => .error ⟨.trailing t.text, t.pos⟩

theorem bind_finish_eq_ok {x : Except ParseError (Expr × List Token)} {e : Expr} :
    x >>= finish = .ok e ↔ x = .ok (e, []) := by
  cases x with
  | error err => simp [bind, Except.bind]
  | ok p =>
    obtain ⟨a, r⟩ := p
    cases r <;> simp [bind, Except.bind, finish]

end Reader

/-- Two readings that end alike finish a whole reading alike, up to the text of a token left
over. -/
theorem SignedAs.bind_finish {x y : Except ParseError (Expr × List Token)} (h : SignedAs y x) :
    (y >>= Reader.finish).mapError ParseError.untexted =
      (x >>= Reader.finish).mapError ParseError.untexted := by
  cases x with
  | ok p =>
    obtain ⟨b, s⟩ := p
    cases y with
    | ok q =>
      obtain ⟨a, r⟩ := q
      obtain ⟨rfl, rfl⟩ := h
      cases s with
      | nil => rfl
      | cons t s =>
        -- the token left first is reported by its text
        show Except.error (ParseError.untexted ⟨.trailing t.signed.text, t.signed.pos⟩) =
          Except.error (ParseError.untexted ⟨.trailing t.text, t.pos⟩)
        simp [ParseError.untexted, ParseFault.untexted]
    | error e => exact absurd h id
  | error e' =>
    cases y with
    | ok q => exact absurd h id
    | error e => exact congrArg Except.error h

/-- Reading a whole token list is reading an expression, then finding nothing left. -/
theorem Expr.parse_eq_finish (maxDepth : Int) (ts : List Token) :
    Expr.parse maxDepth ts =
      (⟨maxDepth, endPosition ts⟩ : Reader).read 0 .expression ts >>= Reader.finish :=
  Expr.parse_eq_read maxDepth ts

/-- Reading a whole token list ends as reading its signed form does, under the same limit and
with the same end of input: the same tree, or an error that differs at most in the text of the
token it reports. -/
theorem Expr.parse_signed (maxDepth : Int) (ts : List Token) :
    ((⟨maxDepth, endPosition ts⟩ : Reader).read 0 .expression (ts.map signed) >>=
        Reader.finish).mapError ParseError.untexted =
      (Expr.parse maxDepth ts).mapError ParseError.untexted := by
  rw [Expr.parse_eq_finish]
  exact ((⟨maxDepth, endPosition ts⟩ : Reader).read_signed .expression 0 ts).bind_finish

/-- Tokens that spell their signs, under a limit no smaller than their number, are read whole
exactly when they form a sentence, to its tree. -/
theorem Reader.read_eq_ok_iff_sentence (rd : Reader) {ts : List Token} (hs : ∀ t ∈ ts, t.carriesSign = true)
    (hM : (ts.length : Int) ≤ rd.maxDepth) (e : Expr) :
    rd.read 0 .expression ts = .ok (e, []) ↔ Sentence ts e := by
  constructor
  · intro h
    obtain ⟨u, n, hts, hu⟩ := rd.derives_of_read .expression 0 ts [] e h hs
    rw [List.append_nil] at hts
    exact ⟨n, hts ▸ hu⟩
  · rintro ⟨n, hd⟩
    have hn := hd.depth_le_length
    have hread : rd.read 0 .expression (ts ++ []) = .ok (e, []) :=
      rd.read_of_derives hd (by omega) (Phrase.follows_nil _)
    rwa [List.append_nil] at hread

/-- Reading succeeds exactly on the token lists that form a sentence once their power and
factorial signs are spelled out, and returns the sentence's tree, when the nesting limit is no
smaller than the number of tokens. The tokens of a source spell their signs: for them this is
the grammar as written, every terminal matched by its kind and its text. -/
theorem Expr.parse_eq_ok_iff_signed_sentence {ts : List Token} {maxDepth : Int}
    (hM : (ts.length : Int) ≤ maxDepth) (e : Expr) :
    (Expr.parse maxDepth ts = .ok e ↔ Sentence (ts.map signed) e) ∧
      ∀ source, Token.scan source = .ok ts →
        (Expr.parse maxDepth ts = .ok e ↔ Sentence ts e) := by
  have hsigned : Expr.parse maxDepth ts = .ok e ↔ Sentence (ts.map signed) e := by
    rw [← eq_ok_iff_of_untexted (Expr.parse_signed maxDepth ts), Reader.bind_finish_eq_ok]
    exact Reader.read_eq_ok_iff_sentence _ (carriesSign_map_signed ts) (by simpa using hM) e
  refine ⟨hsigned, fun source hscan => ?_⟩
  have hs : ∀ t ∈ ts, t.carriesSign = true := fun t ht =>
    carriesSign_of_lexical (lexical_of_scan hscan t ht)
  rw [hsigned, map_signed_of_carriesSign hs]

/-- A power token that spells `**`: read by its kind, it is the power sign. -/
theorem parse_eq_ok_iff_signed_sentence_double_star :
    ((([⟨.number, "2", 0⟩, ⟨.power, "**", 1⟩, ⟨.number, "3", 3⟩] : List Token).length : Int) ≤
        3) ∧
      (Expr.parse 3 [⟨.number, "2", 0⟩, ⟨.power, "**", 1⟩, ⟨.number, "3", 3⟩] =
          .ok (.bin "^" (.num "2") (.num "3")) ↔
        Sentence (([⟨.number, "2", 0⟩, ⟨.power, "**", 1⟩, ⟨.number, "3", 3⟩] :
          List Token).map signed) (.bin "^" (.num "2") (.num "3"))) ∧
      ∀ source, Token.scan source = .ok [⟨.number, "2", 0⟩, ⟨.power, "**", 1⟩, ⟨.number, "3", 3⟩] →
        (Expr.parse 3 [⟨.number, "2", 0⟩, ⟨.power, "**", 1⟩, ⟨.number, "3", 3⟩] =
            .ok (.bin "^" (.num "2") (.num "3")) ↔
          Sentence [⟨.number, "2", 0⟩, ⟨.power, "**", 1⟩, ⟨.number, "3", 3⟩]
            (.bin "^" (.num "2") (.num "3"))) :=
  ⟨by decide, Expr.parse_eq_ok_iff_signed_sentence (by decide) _⟩

end Calculator

import Calculator.Proofs.Recognition
import Calculator.Proofs.Lexical

/-!
Canonical trees: the trees the reader builds from a source. A number's text is ASCII digits
with an optional fraction, an operator is one of `+ - * / ^`, a function is `sin` or `cos`,
and a factorial stands on a number or on another factorial.

Writing a canonical tree out and reading it back gives the tree again. Writing puts every
binary operation in parentheses with a blank on each side of its sign, so each operation is a
group of its own and the blanks keep neighbouring numbers apart; a function name is always
followed by its opening parenthesis, so the name ends there; and a factorial follows a number
directly. Every level the text opens is a node on the tree's longest path, so a nesting limit
no smaller than the tree's height lets the reader through.

Main statement: `Expr.render_round_trip`.
-/

namespace Calculator

open Calculator.Text

namespace Expr

/-- Whether a tree may stand under a factorial: a number, or a number under factorials. -/
def takesBang : Expr → Bool
  | .num _ | .post _ _ => true
  | _ => false

/-- A tree as the reader builds it from a source. -/
def Canonical : Expr → Prop
  | .num text => NumberText text.toList
  | .bin op l r => op ∈ ["+", "-", "*", "/", "^"] ∧ l.Canonical ∧ r.Canonical
  | .post op e => op = "!" ∧ e.takesBang = true ∧ e.Canonical
  | .call name e => name ∈ ["sin", "cos"] ∧ e.Canonical
  | .stray _ => False

/-- The number of nodes on the longest path from the root to a leaf. -/
def height : Expr → Nat
  | .num _ | .stray _ => 1
  | .bin _ l r => max l.height r.height + 1
  | .post _ e | .call _ e => e.height + 1

theorem canonical_bangs {text : String} (h : NumberText text.toList) (k : Nat) :
    (Expr.bangs k (.num text)).Canonical := by
  induction k with
  | zero => exact h
  | succ k ih =>
    refine ⟨rfl, ?_, ih⟩
    cases k <;> rfl

theorem height_bangs (k : Nat) (text : String) : (Expr.bangs k (.num text)).height = k + 1 := by
  induction k with
  | zero => rfl
  | succ k ih => simp only [Expr.bangs, height, ih]

/-- A canonical tree under a factorial is a number under factorials. -/
theorem eq_bangs_of_canonical {op : String} {e : Expr} (h : (Expr.post op e).Canonical) :
    ∃ k text, Expr.post op e = Expr.bangs (k + 1) (.num text) ∧ NumberText text.toList := by
  induction e generalizing op with
  | num text =>
    obtain ⟨rfl, -, htext⟩ := h
    exact ⟨0, text, rfl, htext⟩
  | post op' e ih =>
    obtain ⟨rfl, -, he⟩ := h
    obtain ⟨k, text, hk, htext⟩ := ih he
    exact ⟨k + 1, text, by rw [hk]; rfl, htext⟩
  | bin | call | stray => exact absurd h.2.1 (by simp [takesBang])

end Expr

/-! ### What the reader builds is canonical -/

/-- The tree a phrase carries in from before it: the left operand of a run of sums or
products, or the base of an exponent. -/
def Phrase.carried : Phrase → Option Expr
  | .moreTerms a | .morePowers a | .exponent a => some a
  | _ => none

/-- A phrase over tokens spelled as their kinds allow has a canonical tree, given a canonical
tree carried in. -/
theorem Derives.canonical {P : Phrase} {u : List Token} {e : Expr} {n : Nat}
    (h : Derives P u e n) (hlex : ∀ t ∈ u, t.Lexical)
    (hin : ∀ a ∈ P.carried, a.Canonical) : e.Canonical := by
  induction h with
  | expression _ _ ihu ihv | term _ _ ihu ihv | power _ _ ihu ihv =>
    simp only [List.mem_append] at hlex
    refine ihv (fun t ht => hlex t (.inr ht)) ?_
    intro a ha
    cases ha
    exact ihu (fun t ht => hlex t (.inl ht)) (by simp [Phrase.carried])
  | moreTermsNil | morePowersNil | exponentNone => exact hin _ rfl
  | @moreTermsCons o v w a b e m n ho _ _ ihv ihw =>
    simp only [List.mem_cons, List.mem_append] at hlex
    refine ihw (fun t ht => hlex t (.inr (.inr ht))) ?_
    intro a' ha'
    cases ha'
    simp only [Token.isAdditive, Bool.and_eq_true, beq_iff_eq, Bool.or_eq_true] at ho
    refine ⟨by rcases ho.2 with h | h <;> simp [h], hin a rfl, ?_⟩
    exact ihv (fun t ht => hlex t (.inr (.inl ht))) (by simp [Phrase.carried])
  | @morePowersCons o v w a b e m n ho _ _ ihv ihw =>
    simp only [List.mem_cons, List.mem_append] at hlex
    refine ihw (fun t ht => hlex t (.inr (.inr ht))) ?_
    intro a' ha'
    cases ha'
    simp only [Token.isMultiplicative, Bool.and_eq_true, beq_iff_eq, Bool.or_eq_true] at ho
    refine ⟨by rcases ho.2 with h | h <;> simp [h], hin a rfl, ?_⟩
    exact ihv (fun t ht => hlex t (.inr (.inl ht))) (by simp [Phrase.carried])
  | @exponentSome o v a b n _ _ ih =>
    simp only [List.mem_cons] at hlex
    exact ⟨by simp, hin a rfl, ih (fun t ht => hlex t (.inr ht)) (by simp [Phrase.carried])⟩
  | @number t bs ht _ =>
    have hnum := hlex t (List.mem_cons_self ..)
    simp only [Token.Lexical, ht] at hnum
    exact Expr.canonical_bangs hnum _
  | @call f o c u e n hf _ _ _ ih =>
    have hname := hlex f (List.mem_cons_self ..)
    simp only [Token.Lexical, hf] at hname
    refine ⟨hname, ih (fun t ht => hlex t ?_) (by simp [Phrase.carried])⟩
    simp [ht]
  | group _ _ _ ih =>
    exact ih (fun t ht => hlex t (by simp [ht])) (by simp [Phrase.carried])

/-! ### Writing a canonical tree out and reading it back -/

namespace Expr

/-- A canonical tree is written starting with a character that is not blank. -/
theorem render_head {t : Expr} (h : t.Canonical) :
    ∃ c cs, t.render.toList = c :: cs ∧ isBlank c = false := by
  induction t with
  | num text =>
    obtain ⟨w, f, hw, ⟨hw0, hdigits⟩, -⟩ := h
    obtain ⟨c, w', rfl⟩ := List.exists_cons_of_ne_nil hw0
    exact ⟨c, w' ++ f, hw, isBlank_of_isAsciiDigit (hdigits c (List.mem_cons_self ..))⟩
  | bin => exact ⟨'(', _, by simp [render]; rfl, by decide⟩
  | post op e ih =>
    obtain ⟨c, cs, hc, hb⟩ := ih h.2.2
    exact ⟨c, cs ++ op.toList, by simp [render, hc], hb⟩
  | call name e =>
    simp only [Canonical, List.mem_cons, List.not_mem_nil, or_false] at h
    rcases h.1 with rfl | rfl
    · exact ⟨'s', _, by simp [render]; rfl, by decide⟩
    · exact ⟨'c', _, by simp [render]; rfl, by decide⟩
  | stray => exact absurd h id

/-- A number under `k` factorials is scanned as the number and `k` factorial signs. -/
theorem scansTo_bangs {text : String} (h : NumberText text.toList) (pos : Nat) (k : Nat) :
    ∃ bs, ScansTo pos (Expr.bangs k (.num text)).render.toList (⟨.number, text, pos⟩ :: bs)
      NumberStops ∧ (∀ b ∈ bs, b.isBang = true) ∧ bs.length = k := by
  induction k with
  | zero =>
    refine ⟨[], ?_, by simp, rfl⟩
    simpa [Expr.bangs, render] using scansTo_number h pos
  | succ k ih =>
    obtain ⟨bs, hs, hb, hlen⟩ := ih
    have hbang := hs.append (scansTo_single first?_bang) (by simp) (by simp [NumberStops]; decide)
    refine ⟨bs ++ [⟨.factorial, String.ofList ['!'],
      pos + (Expr.bangs k (.num text)).render.toList.length⟩], ?_, ?_, by simp [hlen]⟩
    · have hrender : (Expr.bangs (k + 1) (.num text)).render.toList =
          (Expr.bangs k (.num text)).render.toList ++ ['!'] := by
        simp [Expr.bangs, render]
      rw [hrender]
      simpa using hbang.mono (fun _ _ => trivial)
    · intro b hb'
      rcases List.mem_append.mp hb' with hb' | hb'
      · exact hb b hb'
      · rw [List.mem_singleton] at hb'
        subst hb'
        rfl

end Expr

section Operations

variable {tl tr : List Token} {l r : Expr} {m n : Nat}

/-- Two factors around a `+`/`-` sign form an expression. -/
theorem Derives.sum_of_factors {o : Token} (ho : o.isAdditive = true)
    (hl : Derives .factor tl l m) (hr : Derives .factor tr r n) :
    Derives .expression (tl ++ o :: tr) (.bin o.text l r) (max m n) := by
  have h := Derives.expression hl.power_of_factor.term_of_power
    (.moreTermsCons ho hr.power_of_factor.term_of_power .moreTermsNil)
  rwa [List.append_nil, Nat.max_zero] at h

/-- Two factors around a `*`/`/` sign form a term. -/
theorem Derives.product_of_factors {o : Token} (ho : o.isMultiplicative = true)
    (hl : Derives .factor tl l m) (hr : Derives .factor tr r n) :
    Derives .term (tl ++ o :: tr) (.bin o.text l r) (max m n) := by
  have h := Derives.term hl.power_of_factor (.morePowersCons ho hr.power_of_factor .morePowersNil)
  rwa [List.append_nil, Nat.max_zero] at h

/-- Two factors around an operator sign form an expression of that operation, as deep as the
deeper factor. -/
theorem Derives.bin_of_factors {op : String} (hop : op ∈ ["+", "-", "*", "/", "^"])
    (hl : Derives .factor tl l m) (hr : Derives .factor tr r n) (p : Nat) :
    Derives .expression (tl ++ ⟨signKind op, op, p⟩ :: tr) (.bin op l r) (max m n) := by
  simp only [List.mem_cons, List.not_mem_nil, or_false] at hop
  -- a sum is a run of terms, a product a run of powers, and a power an exponent
  rcases hop with rfl | rfl | rfl | rfl | rfl
  · exact .sum_of_factors (by simp [Token.isAdditive, signKind]) hl hr
  · exact .sum_of_factors (by simp [Token.isAdditive, signKind]) hl hr
  · exact .expression_of_term
      (.product_of_factors (by simp [Token.isMultiplicative, signKind]) hl hr)
  · exact .expression_of_term
      (.product_of_factors (by simp [Token.isMultiplicative, signKind]) hl hr)
  · have hcaret : (⟨signKind "^", "^", p⟩ : Token).isCaret = true := by
      simp [Token.isCaret, signKind]
    exact (Derives.power hl (.exponentSome hcaret hr)).term_of_power.expression_of_term

end Operations

namespace Expr

/-- Scanning the written form of a canonical tree, wherever it starts, reads the tokens of a
factor whose tree is that tree, nested less deeply than the tree is high. -/
theorem scansTo_render {t : Expr} (h : t.Canonical) (pos : Nat) :
    ∃ toks n, n < t.height ∧ ScansTo pos t.render.toList toks NumberStops ∧
      Derives .factor toks t n := by
  induction t generalizing pos with
  | num text =>
    refine ⟨_, 0, by simp [height], scansTo_number h pos, ?_⟩
    have hd := @Derives.number ⟨.number, String.ofList text.toList, pos⟩ [] rfl (by simp)
    simpa [Expr.bangs] using hd
  | post op e _ =>
    -- a canonical factorial is a number under factorials, read as one factor
    obtain ⟨k, text, heq, htext⟩ := eq_bangs_of_canonical h
    rw [heq, height_bangs]
    obtain ⟨bs, hs, hb, hlen⟩ := scansTo_bangs htext pos (k + 1)
    have hd := @Derives.number ⟨.number, text, pos⟩ bs rfl hb
    rw [hlen] at hd
    exact ⟨_, k + 1, by omega, hs, hd⟩
  | bin op l r ihl ihr =>
    obtain ⟨hop, hl, hr⟩ := h
    obtain ⟨cl, csl, hlist_l, -⟩ := render_head hl
    obtain ⟨cr, csr, hlist_r, hcr⟩ := render_head hr
    obtain ⟨cs, hcs, hcsb, -⟩ := first?_sign hop
    -- the text is "(" l " " op " " r ")", scanned piece by piece from the left
    obtain ⟨tl, nl, hnl, hsl, hdl⟩ := ihl hl (pos + ['('].length)
    have s1 := (scansTo_single first?_open).append hsl (by simp [hlist_l]) trivial
    have s2 := s1.append (scansTo_space _) (by simp) (by simp [NumberStops]; decide)
    have s3 := s2.append (scansTo_sign hop _) (by simp [hcs]) (by simp [hcs, hcsb])
    have s4 := s3.append (scansTo_space _) (by simp) trivial
    obtain ⟨tr, nr, hnr, hsr, hdr⟩ :=
      ihr hr (pos + ((((['('] ++ l.render.toList) ++ [' ']) ++ op.toList) ++ [' ']).length)
    have s5 := s4.append hsr (by simp [hlist_r]) (by simp [hlist_r, hcr])
    have s6 := s5.append (scansTo_single first?_close) (by simp) (by simp [NumberStops]; decide)
    have hrender : (Expr.bin op l r).render.toList =
        ((((((['('] ++ l.render.toList) ++ [' ']) ++ op.toList) ++ [' ']) ++ r.render.toList) ++
          [')']) := by
      simp [render]
    rw [← hrender] at s6
    have hd :=
      Derives.bin_of_factors hop hdl hdr (pos + ((['('] ++ l.render.toList) ++ [' ']).length)
    refine ⟨_, max nl nr + 1, by simp only [height]; omega, s6.mono (fun _ _ => trivial), ?_⟩
    have hshape : ∀ (o c x : Token) (a b : List Token),
        ((((([o] ++ a) ++ []) ++ [x]) ++ []) ++ b) ++ [c] = o :: ((a ++ x :: b) ++ [c]) := by
      simp
    rw [hshape]
    exact .group rfl hd rfl
  | call name e ih =>
    obtain ⟨hname, he⟩ := h
    obtain ⟨c, cs, hlist, -⟩ := render_head he
    -- the text is name "(" e ")"
    have s1 := (scansTo_function hname pos).append (scansTo_single first?_open) (by simp)
      (by simp; decide)
    obtain ⟨te, n, hn, hse, hde⟩ := ih he (pos + (name.toList ++ ['(']).length)
    have s2 := s1.append hse (by simp [hlist]) trivial
    have s3 := s2.append (scansTo_single first?_close) (by simp) (by simp [NumberStops]; decide)
    have hrender : (Expr.call name e).render.toList =
        ((name.toList ++ ['(']) ++ e.render.toList) ++ [')'] := by
      simp [render]
    rw [← hrender] at s3
    refine ⟨_, n + 1, by simp only [height]; omega, s3.mono (fun _ _ => trivial), ?_⟩
    have hshape : ∀ (f o c : Token) (a : List Token),
        (([f] ++ [o]) ++ a) ++ [c] = f :: o :: (a ++ [c]) := by
      simp
    rw [hshape]
    exact .call rfl rfl hde.power_of_factor.term_of_power.expression_of_term rfl
  | stray => exact absurd h id

/-- A canonical tree's written form scans to the tokens of one factor whose tree it is. -/
theorem scan_render {t : Expr} (h : t.Canonical) :
    ∃ toks n, n < t.height ∧ Token.scan t.render = .ok toks ∧ Derives .factor toks t n := by
  obtain ⟨toks, n, hn, hs, hd⟩ := scansTo_render h 0
  exact ⟨toks, n, hn, Token.scan_of_scansTo hs (by simp [NumberStops]), hd⟩

/-- Whatever a source reads to is canonical. -/
theorem canonical_of_parse {source : String} {maxDepth : Int} {ts : List Token} {t : Expr}
    (hscan : Token.scan source = .ok ts) (hparse : Expr.parse maxDepth ts = .ok t) :
    t.Canonical := by
  have hlex := Token.lexical_of_scan hscan
  obtain ⟨n, hd⟩ :=
    Expr.sentence_of_parse hparse (fun t ht => Token.carriesSign_of_lexical (hlex t ht))
  exact hd.canonical hlex (by simp [Phrase.carried])

/-- A canonical tree, written out and read back under a nesting limit no smaller than its
height, is read to itself. -/
theorem parse_render {t : Expr} (ht : t.Canonical) {maxDepth : Int}
    (hM : (t.height : Int) ≤ maxDepth) :
    ∃ ts, Token.scan t.render = .ok ts ∧ Expr.parse maxDepth ts = .ok t := by
  obtain ⟨toks, n, hn, hscan, hd⟩ := scan_render ht
  have hexpr := hd.power_of_factor.term_of_power.expression_of_term
  exact ⟨toks, hscan, Expr.parse_of_derives hexpr (by omega)⟩

/-- Reading is the inverse of writing on canonical trees, and canonical trees are exactly what
reading a source returns. -/
theorem render_round_trip :
    (∀ (source : String) (maxDepth : Int) (ts : List Token) (t : Expr),
        Token.scan source = .ok ts → Expr.parse maxDepth ts = .ok t → t.Canonical) ∧
    (∀ t : Expr, t.Canonical → ∀ maxDepth : Int, (t.height : Int) ≤ maxDepth →
        ∃ ts, Token.scan t.render = .ok ts ∧ Expr.parse maxDepth ts = .ok t) ∧
    (∀ t : Expr, t.Canonical ↔
        ∃ (source : String) (maxDepth : Int) (ts : List Token),
          Token.scan source = .ok ts ∧ Expr.parse maxDepth ts = .ok t) := by
  refine ⟨fun _ _ _ _ => canonical_of_parse, fun _ ht _ => parse_render ht,
    fun t => ⟨?_, ?_⟩⟩
  · intro ht
    obtain ⟨ts, hscan, hparse⟩ := parse_render ht (Int.le_refl _)
    exact ⟨t.render, t.height, ts, hscan, hparse⟩
  · rintro ⟨source, maxDepth, ts, hscan, hparse⟩
    exact canonical_of_parse hscan hparse

end Expr

/-- The sum `2 + 3`, written as `(2 + 3)` and read back under a limit of two levels. -/
theorem render_round_trip_two_plus_three :
    ∃ ts, Token.scan (Expr.bin "+" (.num "2") (.num "3")).render = .ok ts ∧
      Expr.parse 2 ts = .ok (.bin "+" (.num "2") (.num "3")) := by
  have hdigit : ∀ c, Lexeme.isAsciiDigit c = true → NumberText [c] := fun c hc =>
    ⟨[c], [], rfl, ⟨List.cons_ne_nil _ _, by simpa using hc⟩, .inl rfl⟩
  have hcanon : (Expr.bin "+" (.num "2") (.num "3")).Canonical :=
    ⟨by simp, hdigit '2' (by decide), hdigit '3' (by decide)⟩
  exact Expr.render_round_trip.2.1 _ hcanon 2 (by simp [Expr.height])

end Calculator

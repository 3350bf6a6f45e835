import Calculator.Proofs.Descent

/-!
The reader recognises exactly the sentences of the grammar, and builds the tree of their
derivation. Completeness: a phrase followed by a token that cannot continue it is read whole,
to its tree, when the nesting limit leaves room for its depth. Soundness: what a rule reads is a
phrase whose tree is the one the rule returns, as long as the power and factorial tokens carry
their signs, since the reader checks only their kind.

With a nesting limit no smaller than the number of tokens, no derivation is too deep:
`Expr.parse_of_sentence` and `Expr.sentence_of_parse`.
-/

namespace Calculator

namespace Phrase

theorem follows_of_moreTerms {a e : Expr} {v rest : List Token} {n : Nat}
    (hv : Derives (.moreTerms a) v e n) (hr : expression.Follows rest) :
    term.Follows (v ++ rest) := by
  cases hv with
  | moreTermsNil =>
    intro t ht
    have := hr t ht
    simp_all [stopsAt]
  | moreTermsCons ho _ _ =>
    rw [List.cons_append, follows_cons]
    simp only [Token.isAdditive, Bool.and_eq_true, beq_iff_eq, Bool.or_eq_true] at ho
    obtain ⟨hk, ht | ht⟩ := ho <;> simp [stopsAt, Token.isMultiplicative, hk, ht]

theorem follows_of_morePowers {a e : Expr} {v rest : List Token} {n : Nat}
    (hv : Derives (.morePowers a) v e n) (hr : term.Follows rest) :
    power.Follows (v ++ rest) := by
  cases hv with
  | morePowersNil =>
    intro t ht
    have := hr t ht
    simp_all [stopsAt]
  | morePowersCons ho _ _ =>
    rw [List.cons_append, follows_cons]
    simp_all [stopsAt, Token.isMultiplicative]

theorem follows_of_exponent {a e : Expr} {v rest : List Token} {n : Nat}
    (hv : Derives (.exponent a) v e n) (hr : power.Follows rest) :
    factor.Follows (v ++ rest) := by
  cases hv with
  | exponentNone =>
    intro t ht
    have := hr t ht
    simp_all [stopsAt]
  | exponentSome ho _ =>
    rw [List.cons_append, follows_cons]
    simp_all [stopsAt, Token.isCaret]

/-- A closing parenthesis ends any phrase. -/
theorem follows_close {P : Phrase} {c : Token} (hc : c.isClose = true) (rest : List Token) :
    P.Follows (c :: rest) := by
  rw [follows_cons]
  cases P <;> simp_all [stopsAt, Token.isClose, Token.isAdditive, Token.isMultiplicative]

end Phrase

namespace Reader

variable (rd : Reader)

/-- The factorial signs after a number are all read, within the limit, and wrap the number
the first innermost. -/
theorem readBangs_append {bs rest : List Token} (hb : ∀ b ∈ bs, b.isBang = true)
    (hr : Phrase.factor.Follows rest) :
    ∀ (d k : Nat) (node : Expr), ((d + k + bs.length : Nat) : Int) ≤ rd.maxDepth →
      rd.readBangs d node k (bs ++ rest) = .ok (Expr.bangs bs.length node, rest) := by
  induction bs with
  | nil =>
    intro d k node _
    cases rest with
    | nil => simp [Expr.bangs]
    | cons t rest =>
      have ht : (t.kind == .factorial) = false := by
        have := Phrase.follows_cons.mp hr
        simp_all [Phrase.stopsAt]
      rw [List.nil_append, readBangs_cons, ht]
      rfl
  | cons b bs ih =>
    intro d k node hlim
    have hbang := hb b (List.mem_cons_self ..)
    have hk : (b.kind == .factorial) = true := by
      simp only [Token.isBang, Bool.and_eq_true] at hbang
      exact hbang.1
    have hroom : ¬ rd.maxDepth ≤ ((d + k : Nat) : Int) := by
      simp only [List.length_cons] at hlim
      omega
    rw [List.cons_append, readBangs_cons, if_pos hk, if_neg hroom, List.length_cons,
      Expr.bangs_succ']
    apply ih (fun b' hb' => hb b' (List.mem_cons_of_mem _ hb'))
    simp only [List.length_cons] at hlim
    omega

/-- Completeness: a phrase nested no deeper than the limit leaves room for, and followed by
tokens that cannot continue it, is read whole, to the tree of its derivation. -/
theorem read_of_derives {P : Phrase} {u : List Token} {e : Expr} {n : Nat}
    (h : Derives P u e n) :
    ∀ {d : Nat} {rest : List Token}, ((d + n : Nat) : Int) ≤ rd.maxDepth → P.Follows rest →
      rd.read d P (u ++ rest) = .ok (e, rest) := by
  induction h with
  | @expression u v a e m n hu hv ihu ihv =>
    intro d rest hd hr
    rw [read_expression, List.append_assoc, ihu (by omega) (Phrase.follows_of_moreTerms hv hr)]
    exact ihv (by omega) hr
  | moreTermsNil =>
    intro d rest _ hr
    cases rest with
    | nil => simp
    | cons t rest =>
      have ht : t.isAdditive = false := by
        have := Phrase.follows_cons.mp hr
        simp_all [Phrase.stopsAt]
      rw [List.nil_append, read_moreTerms_cons, ht]
      rfl
  | @moreTermsCons o v w a b e m n ho hv hw ihv ihw =>
    intro d rest hd hr
    rw [List.cons_append, read_moreTerms_cons, if_pos ho, List.append_assoc,
      ihv (by omega) (Phrase.follows_of_moreTerms hw hr)]
    exact ihw (by omega) hr
  | @term u v a e m n hu hv ihu ihv =>
    intro d rest hd hr
    rw [read_term, List.append_assoc, ihu (by omega) (Phrase.follows_of_morePowers hv hr)]
    exact ihv (by omega) hr
  | morePowersNil =>
    intro d rest _ hr
    cases rest with
    | nil => simp
    | cons t rest =>
      have ht : t.isMultiplicative = false := by
        have := Phrase.follows_cons.mp hr
        simp_all [Phrase.stopsAt]
      rw [List.nil_append, read_morePowers_cons, ht]
      rfl
  | @morePowersCons o v w a b e m n ho hv hw ihv ihw =>
    intro d rest hd hr
    rw [List.cons_append, read_morePowers_cons, if_pos ho, List.append_assoc,
      ihv (by omega) (Phrase.follows_of_morePowers hw hr)]
    exact ihw (by omega) hr
  | @power u v a e m n hu hv ihu ihv =>
    intro d rest hd hr
    rw [read_power, List.append_assoc, ihu (by omega) (Phrase.follows_of_exponent hv hr)]
    exact ihv (by omega) hr
  | exponentNone =>
    intro d rest _ hr
    cases rest with
    | nil => simp
    | cons t rest =>
      have ht : (t.kind == .power) = false := by
        have := Phrase.follows_cons.mp hr
        simp_all [Phrase.stopsAt]
      rw [List.nil_append, read_exponent_cons, ht]
      rfl
  | @exponentSome o v a b n ho hv ih =>
    intro d rest hd hr
    have hk : (o.kind == .power) = true := by
      simp only [Token.isCaret, Bool.and_eq_true] at ho
      exact ho.1
    have hf : Phrase.factor.Follows rest := by
      intro t ht
      have := hr t ht
      simp_all [Phrase.stopsAt]
    rw [List.cons_append, read_exponent_cons, if_pos hk, ih hd hf]
    rfl
  | @number t bs ht hb =>
    intro d rest hd hr
    have hk : (t.kind == .number) = true := by simp [ht]
    rw [List.cons_append, read_factor_cons, if_pos hk]
    exact rd.readBangs_append hb hr d 0 _ (by simpa using hd)
  | @call f o c u e n hf ho hu hc ih =>
    intro d rest hd hr
    have hn : (f.kind == .number) = false := by simp [hf]
    have hfun : (f.kind == .function) = true := by simp [hf]
    have hroom : ¬ rd.maxDepth < ((d + 1 : Nat) : Int) := by omega
    rw [List.cons_append, read_factor_cons, hn, if_neg Bool.false_ne_true, if_pos hfun]
    simp only [List.cons_append, List.append_assoc, List.nil_append]
    rw [if_pos ho, if_neg hroom, ih (by omega) (Phrase.follows_close hc rest)]
    simp only [bind, Except.bind, closing, hc]
    rfl
  | @group o c u e n ho hu hc ih =>
    intro d rest hd hr
    have hopen := ho
    simp only [Token.isOpen, Bool.and_eq_true, beq_iff_eq] at hopen
    have hn : (o.kind == .number) = false := by simp [hopen.1]
    have hfun : (o.kind == .function) = false := by simp [hopen.1]
    have hroom : ¬ rd.maxDepth < ((d + 1 : Nat) : Int) := by omega
    rw [List.cons_append, read_factor_cons, hn, if_neg Bool.false_ne_true, hfun,
      if_neg Bool.false_ne_true, if_pos ho, if_neg hroom]
    simp only [List.append_assoc, List.cons_append, List.nil_append]
    rw [ih (by omega) (Phrase.follows_close hc rest)]
    simp only [bind, Except.bind, closing, hc]
    rfl

/-- The factorial signs read after a number are signs, and wrap the number the first
innermost. -/
theorem bangs_of_readBangs {d k : Nat} {node e : Expr} {ts r : List Token}
    (h : rd.readBangs d node k ts = .ok (e, r)) (hs : ∀ t ∈ ts, t.carriesSign = true) :
    ∃ bs, ts = bs ++ r ∧ (∀ b ∈ bs, b.isBang = true) ∧ e = Expr.bangs bs.length node := by
  obtain ⟨bs, rfl, hb, rfl⟩ := rd.readBangs_rounds d h
  refine ⟨bs, rfl, fun b hb' => ?_, rfl⟩
  exact Token.isBang_of_carriesSign (hs b (List.mem_append_left _ hb')) (hb b hb')

end Reader

/-- The order in which the rules call each other on the same tokens. -/
def Phrase.rank : Phrase → Nat
  | .exponent _ => 0
  | .factor => 1
  | .power => 2
  | .morePowers _ => 3
  | .term => 4
  | .moreTerms _ => 5
  | .expression => 6

namespace Reader

variable (rd : Reader)

theorem carriesSign_of_append {u r : List Token} (hs : ∀ t ∈ u ++ r, t.carriesSign = true) :
    ∀ t ∈ r, t.carriesSign = true :=
  fun t ht => hs t (List.mem_append_right _ ht)

/-- Soundness: what a rule reads is a phrase of its kind whose tree is the one it returns,
when the power and factorial tokens carry their signs. -/
theorem derives_of_read (P : Phrase) (d : Nat) (ts r : List Token) (e : Expr)
    (h : rd.read d P ts = .ok (e, r)) (hs : ∀ t ∈ ts, t.carriesSign = true) :
    ∃ u n, ts = u ++ r ∧ Derives P u e n := by
  match P with
  | .expression =>
    rw [read_expression, bind_eq_ok_iff] at h
    obtain ⟨⟨a, r₁⟩, h₁, h₂⟩ := h
    have hlen := rd.length_le_of_read d h₁
    obtain ⟨u₁, m, hts, hu⟩ := derives_of_read .term d ts r₁ a h₁ hs
    obtain ⟨u₂, n, rfl, hv⟩ :=
      derives_of_read (.moreTerms a) d r₁ r e h₂ (carriesSign_of_append (hts ▸ hs))
    exact ⟨u₁ ++ u₂, max m n, by rw [hts, List.append_assoc], .expression hu hv⟩
  | .moreTerms left =>
    match ts with
    | [] =>
      rw [read_moreTerms_nil] at h
      cases h
      exact ⟨[], 0, rfl, .moreTermsNil⟩
    | o :: tail =>
      rw [read_moreTerms_cons] at h
      split at h
      next ho =>
        rw [bind_eq_ok_iff] at h
        obtain ⟨⟨b, r₁⟩, h₁, h₂⟩ := h
        have hlen := rd.length_le_of_read d h₁
        have hs' := carriesSign_of_append (u := [o]) hs
        obtain ⟨v, m, hts, hv⟩ := derives_of_read .term d tail r₁ b h₁ hs'
        obtain ⟨w, n, rfl, hw⟩ :=
          derives_of_read (.moreTerms (.bin o.text left b)) d r₁ r e h₂
          (carriesSign_of_append (hts ▸ hs'))
        exact ⟨o :: (v ++ w), max m n, by rw [hts]; simp, .moreTermsCons ho hv hw⟩
      · cases h
        exact ⟨[], 0, rfl, .moreTermsNil⟩
  | .term =>
    rw [read_term, bind_eq_ok_iff] at h
    obtain ⟨⟨a, r₁⟩, h₁, h₂⟩ := h
    have hlen := rd.length_le_of_read d h₁
    obtain ⟨u₁, m, hts, hu⟩ := derives_of_read .power d ts r₁ a h₁ hs
    obtain ⟨u₂, n, rfl, hv⟩ :=
      derives_of_read (.morePowers a) d r₁ r e h₂ (carriesSign_of_append (hts ▸ hs))
    exact ⟨u₁ ++ u₂, max m n, by rw [hts, List.append_assoc], .term hu hv⟩
  | .morePowers left =>
    match ts with
    | [] =>
      rw [read_morePowers_nil] at h
      cases h
      exact ⟨[], 0, rfl, .morePowersNil⟩
    | o :: tail =>
      rw [read_morePowers_cons] at h
      split at h
      next ho =>
        rw [bind_eq_ok_iff] at h
        obtain ⟨⟨b, r₁⟩, h₁, h₂⟩ := h
        have hlen := rd.length_le_of_read d h₁
        have hs' := carriesSign_of_append (u := [o]) hs
        obtain ⟨v, m, hts, hv⟩ := derives_of_read .power d tail r₁ b h₁ hs'
        obtain ⟨w, n, rfl, hw⟩ :=
          derives_of_read (.morePowers (.bin o.text left b)) d r₁ r e h₂
          (carriesSign_of_append (hts ▸ hs'))
        exact ⟨o :: (v ++ w), max m n, by rw [hts]; simp, .morePowersCons ho hv hw⟩
      · cases h
        exact ⟨[], 0, rfl, .morePowersNil⟩
  | .power =>
    rw [read_power, bind_eq_ok_iff] at h
    obtain ⟨⟨a, r₁⟩, h₁, h₂⟩ := h
    have hlen := rd.length_le_of_read d h₁
    obtain ⟨u₁, m, hts, hu⟩ := derives_of_read .factor d ts r₁ a h₁ hs
    obtain ⟨u₂, n, rfl, hv⟩ :=
      derives_of_read (.exponent a) d r₁ r e h₂ (carriesSign_of_append (hts ▸ hs))
    exact ⟨u₁ ++ u₂, max m n, by rw [hts, List.append_assoc], .power hu hv⟩
  | .exponent base =>
    match ts with
    | [] =>
      rw [read_exponent_nil] at h
      cases h
      exact ⟨[], 0, rfl, .exponentNone⟩
    | o :: tail =>
      rw [read_exponent_cons] at h
      split at h
      next hk =>
        cases hf : rd.read d .factor tail with
        | error err => rw [hf] at h; cases h
        | ok q =>
          rw [hf] at h
          cases h
          have hs' := carriesSign_of_append (u := [o]) hs
          obtain ⟨v, n, rfl, hv⟩ := derives_of_read .factor d tail q.2 q.1 hf hs'
          have hcaret : o.isCaret = true :=
            Token.isCaret_of_carriesSign (hs o (List.mem_cons_self ..)) (by simpa using hk)
          exact ⟨o :: v, n, rfl, .exponentSome hcaret hv⟩
      · cases h
        exact ⟨[], 0, rfl, .exponentNone⟩
  | .factor =>
    match ts with
    | [] =>
      rw [read_factor_nil] at h
      cases h
    | t :: rest =>
      rw [read_factor_cons] at h
      have hs' := carriesSign_of_append (u := [t]) hs
      split at h
      next hk =>
        obtain ⟨bs, rfl, hb, rfl⟩ := rd.bangs_of_readBangs h hs'
        exact ⟨t :: bs, bs.length, rfl, .number (by simpa using hk) hb⟩
      split at h
      next hk =>
        -- a function name, its opening parenthesis, its argument and the closing one
        match hrest : rest, hs' with
        | [], _ => cases h
        | o :: inside, hs' =>
          have hlen : rest.length = inside.length + 1 := by rw [hrest]; rfl
          simp only at h
          split at h
          next ho =>
            split at h
            · cases h
            · rw [bind_eq_ok_iff] at h
              obtain ⟨⟨a, r₁⟩, h₁, h₂⟩ := h
              obtain ⟨c, rfl, hc, rfl⟩ := rd.eq_of_closing h₂
              obtain ⟨u, n, rfl, hu⟩ :=
                derives_of_read .expression (d + 1) inside (c :: r) a h₁
                (carriesSign_of_append (u := [o]) hs')
              exact ⟨t :: o :: (u ++ [c]), n + 1, by simp, .call (by simpa using hk) ho hu hc⟩
          · cases h
      split at h
      next ho =>
        -- a group: an expression between parentheses
        split at h
        · cases h
        · rw [bind_eq_ok_iff] at h
          obtain ⟨⟨a, r₁⟩, h₁, h₂⟩ := h
          obtain ⟨c, rfl, hc, rfl⟩ := rd.eq_of_closing h₂
          obtain ⟨u, n, rfl, hu⟩ := derives_of_read .expression (d + 1) rest (c :: r) _ h₁ hs'
          exact ⟨t :: (u ++ [c]), n + 1, by simp, .group ho hu hc⟩
      · cases h
termination_by 8 * ts.length + P.rank
decreasing_by all_goals simp only [Phrase.rank, List.length_cons]; omega

end Reader

/-- Reading a whole list of tokens is reading an expression from the first token and leaving
nothing. -/
theorem Expr.parse_eq_ok_iff_read (maxDepth : Int) (ts : List Token) (e : Expr) :
    Expr.parse maxDepth ts = .ok e ↔
      (⟨maxDepth, endPosition ts⟩ : Reader).read 0 .expression ts = .ok (e, []) := by
  rw [Expr.parse]
  simp only [Reader.read, Reader.forget]
  cases (⟨maxDepth, endPosition ts⟩ : Reader).expression 0 ts with
  | error err =>
    constructor
    · intro h
      cases h
    · intro h
      cases h
  | ok p =>
    obtain ⟨e', r, hr⟩ := p
    cases r with
    | nil =>
      show Except.ok e' = _ ↔ Except.ok (e', []) = _
      simp
    | cons t rest =>
      show Except.error _ = _ ↔ Except.ok (e', t :: rest) = _
      simp

/-- A whole expression is read to its tree when the nesting limit leaves room for its
depth. -/
theorem Expr.parse_of_derives {ts : List Token} {maxDepth : Int} {e : Expr} {n : Nat}
    (hd : Derives .expression ts e n) (hn : (n : Int) ≤ maxDepth) :
    Expr.parse maxDepth ts = .ok e := by
  have hread : (⟨maxDepth, endPosition ts⟩ : Reader).read 0 .expression (ts ++ []) =
      .ok (e, []) :=
    Reader.read_of_derives _ hd (by simpa using hn) (Phrase.follows_nil _)
  rw [List.append_nil] at hread
  exact (Expr.parse_eq_ok_iff_read maxDepth ts e).mpr hread

/-- A sentence is read to its tree when the nesting limit is no smaller than its length. -/
theorem Expr.parse_of_sentence {ts : List Token} {maxDepth : Int}
    (hM : (ts.length : Int) ≤ maxDepth) {e : Expr} (h : Sentence ts e) :
    Expr.parse maxDepth ts = .ok e := by
  obtain ⟨n, hd⟩ := h
  have hn := hd.depth_le_length
  exact Expr.parse_of_derives hd (by omega)

/-- The grammar is unambiguous: a sentence has one tree. -/
theorem Sentence.tree_unique {ts : List Token} {e e' : Expr} (h : Sentence ts e)
    (h' : Sentence ts e') : e = e' := by
  have hM : (ts.length : Int) ≤ ts.length := Int.le_refl _
  have := (Expr.parse_of_sentence hM h).symm.trans (Expr.parse_of_sentence hM h')
  exact Except.ok.inj this

/-- What the reader returns from tokens that carry their signs is a sentence's tree. -/
theorem Expr.sentence_of_parse {ts : List Token} {maxDepth : Int} {e : Expr}
    (h : Expr.parse maxDepth ts = .ok e) (hs : ∀ t ∈ ts, t.carriesSign = true) :
    Sentence ts e := by
  obtain ⟨u, n, hts, hu⟩ :=
    Reader.derives_of_read _ .expression 0 ts [] e ((Expr.parse_eq_ok_iff_read _ _ _).mp h) hs
  rw [List.append_nil] at hts
  exact ⟨n, hts ▸ hu⟩

end Calculator

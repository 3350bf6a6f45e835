import Mathlib.Data.Nat.Find
import Calculator.Proofs.Nesting
import Calculator.Proofs.Splitting
import Calculator.Proofs.Signs

/-!
Where the reader reports a failure. A viable prefix of a token list is a beginning that some
sentence shares. Reading looks at most one token past what it has read, and what it has read
when it fails for another reason than the nesting is viable: some tokens complete it to the
phrase being read. So such a failure is reported at the first token that makes the prefix no
longer viable, or at the end of the input.

The reader tells a power or factorial token by its kind alone, so on any token list the prefixes
are judged with their signs spelled out (`Token.signed`); the reader reads both lists alike.

Main statement: `Expr.parse_error_at_signed_viableLength`.
-/

namespace Calculator

namespace Reader

/-- How a reading ends: a tree with the tokens left, or a fault at the next token or at the end
of the input. -/
def stopAt (rd : Reader) : Except ParseFault Expr → List Token →
    Except ParseError (Expr × List Token)
  | .ok e, r => .ok (e, r)
  | .error f, r => rd.failAt f r

/-- Reading `P` at depth `d` under the limit `M` from `ts` stops after the tokens `c`, before
`r`, with the outcome `o`. It looks at no token past the first of `r`: from `c` followed by any
tokens that begin as `r` does, the reading ends the same way, wherever the input ends. And when
it fails for another reason than the nesting, on tokens that carry their signs, some tokens
complete what it read to the phrase. -/
structure Stops (M : Int) (d : Nat) (P : Phrase) (ts c r : List Token)
    (o : Except ParseFault Expr) : Prop where
  split : ts = c ++ r
  reads : ∀ (E : Nat) (r' : List Token), r'.head? = r.head? →
    (⟨M, E⟩ : Reader).read d P (c ++ r') = (⟨M, E⟩ : Reader).stopAt o r'
  completes : (∀ t ∈ ts, t.carriesSign = true) → ∀ f, o = .error f → f ≠ .tooDeep M →
    ∃ s e n, Derives P (c ++ s) e n

theorem head?_append_congr {c r r' : List Token} (h : r'.head? = r.head?) :
    (c ++ r').head? = (c ++ r).head? := by
  cases c with
  | nil => exact h
  | cons t c => rfl

/-- The number one is a factor. -/
theorem derives_one : Derives .factor [⟨.number, "1", 0⟩] (.num "1") 0 :=
  Derives.number rfl (fun _ h => nomatch h)

/-- The rule of a phrase that reads the tokens `pre`, then a first phrase, then a second one
chosen by the first one's tree. -/
def Seq (M : Int) (d : Nat) (P : Phrase) (pre : List Token) (P₁ : Phrase)
    (P₂ : Expr → Phrase) : Prop :=
  ∀ (E : Nat) (r' : List Token), (⟨M, E⟩ : Reader).read d P (pre ++ r') =
    (⟨M, E⟩ : Reader).read d P₁ r' >>= fun p => (⟨M, E⟩ : Reader).read d (P₂ p.1) p.2

namespace Stops

variable {M : Int} {d : Nat} {P : Phrase} {ts c r : List Token} {o : Except ParseFault Expr}

theorem read_eq (h : Stops M d P ts c r o) (E : Nat) :
    (⟨M, E⟩ : Reader).read d P ts = (⟨M, E⟩ : Reader).stopAt o r := by
  rw [h.split]
  exact h.reads E r rfl

theorem length_le (h : Stops M d P ts c r o) : r.length ≤ ts.length := by
  rw [h.split, List.length_append]
  omega

/-- What a reading that stops with a tree has read is a phrase with that tree. -/
theorem derives {a : Expr} (h : Stops M d P ts c r (.ok a))
    (hs : ∀ t ∈ ts, t.carriesSign = true) : ∃ n, Derives P c a n := by
  obtain ⟨u, n, hts, hd⟩ := Reader.derives_of_read _ P d ts r a (h.read_eq 0) hs
  have hu : u = c := List.append_cancel_right (hts.symm.trans h.split)
  exact ⟨n, hu ▸ hd⟩

/-- A phrase that ends at the end of the input, reading nothing. -/
theorem here_nil {a : Expr} (h : ∀ E : Nat, (⟨M, E⟩ : Reader).read d P [] = .ok (a, [])) :
    Stops M d P [] [] [] (.ok a) where
  split := rfl
  reads E r' hr := by
    rw [List.head?_nil, List.head?_eq_none_iff] at hr
    subst hr
    exact h E
  completes _ _ h := nomatch h

/-- A phrase that ends before the token `o`, reading nothing. -/
theorem here_cons {a : Expr} {o : Token} {rest : List Token}
    (h : ∀ (E : Nat) (rest' : List Token), (⟨M, E⟩ : Reader).read d P (o :: rest') =
      .ok (a, o :: rest')) : Stops M d P (o :: rest) [] (o :: rest) (.ok a) where
  split := rfl
  reads E r' hr := by
    obtain ⟨rest', rfl⟩ := List.head?_eq_some_iff.mp hr
    exact h E rest'
  completes _ _ h := nomatch h

/-- A phrase that fails at the end of the input, which some tokens complete. -/
theorem fail_nil {f : ParseFault}
    (h : ∀ E : Nat, (⟨M, E⟩ : Reader).read d P [] = (⟨M, E⟩ : Reader).failAt f [])
    (hc : ∃ s e n, Derives P s e n) : Stops M d P [] [] [] (.error f) where
  split := rfl
  reads E r' hr := by
    rw [List.head?_nil, List.head?_eq_none_iff] at hr
    subst hr
    exact h E
  completes _ _ _ _ := hc

/-- A phrase that fails at the token `t`, which no phrase begins with. -/
theorem fail_cons {f : ParseFault} {t : Token} {rest : List Token}
    (h : ∀ (E : Nat) (rest' : List Token), (⟨M, E⟩ : Reader).read d P (t :: rest') =
      (⟨M, E⟩ : Reader).failAt f (t :: rest'))
    (hc : ∃ s e n, Derives P s e n) : Stops M d P (t :: rest) [] (t :: rest) (.error f) where
  split := rfl
  reads E r' hr := by
    obtain ⟨rest', rfl⟩ := List.head?_eq_some_iff.mp hr
    exact h E rest'
  completes _ _ _ _ := hc

variable {P₁ : Phrase} {P₂ : Expr → Phrase}

/-- The first phrase of a sequence fails: so does the sequence. -/
theorem seq_error {f : ParseFault} (pre : List Token) (hseq : Seq M d P pre P₁ P₂)
    (hder : ∀ u a m, Derives P₁ u a m → ∃ s e n, Derives P (pre ++ (u ++ s)) e n)
    (h₁ : Stops M d P₁ ts c r (.error f)) : Stops M d P (pre ++ ts) (pre ++ c) r (.error f) where
  split := by rw [h₁.split, List.append_assoc]
  reads E r' hr := by
    rw [List.append_assoc, hseq, h₁.reads E r' hr]
    rfl
  completes hs f' hf hne := by
    cases hf
    obtain ⟨s, a, m, hd⟩ :=
      h₁.completes (fun t ht => hs t (List.mem_append_right _ ht)) f rfl hne
    obtain ⟨s', e, n, hd'⟩ := hder _ _ _ hd
    exact ⟨s ++ s', e, n, by simpa [List.append_assoc] using hd'⟩

/-- The first phrase of a sequence ends with a tree: the sequence stops where the second phrase
stops. -/
theorem seq_ok {a : Expr} {c₂ r₂ : List Token} (pre : List Token) (hseq : Seq M d P pre P₁ P₂)
    (hder : ∀ u v e m n, Derives P₁ u a m → Derives (P₂ a) v e n →
      ∃ k, Derives P (pre ++ (u ++ v)) e k)
    (h₁ : Stops M d P₁ ts c r (.ok a)) (h₂ : Stops M d (P₂ a) r c₂ r₂ o) :
    Stops M d P (pre ++ ts) (pre ++ (c ++ c₂)) r₂ o where
  split := by rw [h₁.split, h₂.split]; simp
  reads E r' hr := by
    have hr₁ : (c₂ ++ r').head? = r.head? := by
      rw [h₂.split]
      exact head?_append_congr hr
    rw [List.append_assoc, List.append_assoc, hseq, h₁.reads E _ hr₁]
    exact h₂.reads E r' hr
  completes hs f hf hne := by
    have hs₁ : ∀ t ∈ ts, t.carriesSign = true := fun t ht => hs t (List.mem_append_right _ ht)
    have hs₂ : ∀ t ∈ r, t.carriesSign = true := fun t ht =>
      hs₁ t (h₁.split ▸ List.mem_append_right _ ht)
    obtain ⟨m, hd₁⟩ := h₁.derives hs₁
    obtain ⟨s, e, n, hd₂⟩ := h₂.completes hs₂ f hf hne
    obtain ⟨k, hd⟩ := hder _ _ _ _ _ hd₁ hd₂
    exact ⟨s, e, k, by simpa [List.append_assoc] using hd⟩

/-- A sequence stops where its first phrase fails, or else where its second phrase stops. The
second phrase may be empty, so a failing first phrase is completed by its own completion. -/
theorem seq {c₁ r₁ : List Token} {o₁ : Except ParseFault Expr} (pre : List Token)
    (hseq : Seq M d P pre P₁ P₂)
    (hder : ∀ u v a e m n, Derives P₁ u a m → Derives (P₂ a) v e n →
      ∃ k, Derives P (pre ++ (u ++ v)) e k)
    (hnil : ∀ a, ∃ e n, Derives (P₂ a) [] e n) (h₁ : Stops M d P₁ ts c₁ r₁ o₁)
    (h₂ : ∀ a, o₁ = .ok a → ∃ c₂ r₂ o₂, Stops M d (P₂ a) r₁ c₂ r₂ o₂) :
    ∃ c r o, Stops M d P (pre ++ ts) c r o := by
  cases o₁ with
  | error f =>
    refine ⟨_, _, _, seq_error pre hseq (fun u a m hd => ?_) h₁⟩
    obtain ⟨e, n, hn⟩ := hnil a
    obtain ⟨k, hk⟩ := hder u [] a e m n hd hn
    exact ⟨[], e, k, hk⟩
  | ok a =>
    obtain ⟨c₂, r₂, o₂, h₂⟩ := h₂ a rfl
    exact ⟨_, _, _, seq_ok pre hseq (fun u v => hder u v a) h₁ h₂⟩

end Stops

/-- The closing parenthesis after an argument or the contents of a group: read, or missing. -/
theorem closing_stops (M : Int) (fault : ParseFault) (e : Expr) (r : List Token) :
    ∃ c r₂ o, r = c ++ r₂ ∧
      (∀ (E : Nat) (r' : List Token), r'.head? = r₂.head? →
        (⟨M, E⟩ : Reader).closing fault e (c ++ r') = (⟨M, E⟩ : Reader).stopAt o r') ∧
      ((∃ cl, c = [cl] ∧ cl.isClose = true ∧ o = .ok e) ∨ (c = [] ∧ o = .error fault)) := by
  match r with
  | [] =>
    refine ⟨[], [], .error fault, rfl, fun E r' hr => ?_, .inr ⟨rfl, rfl⟩⟩
    rw [List.head?_nil, List.head?_eq_none_iff] at hr
    subst hr
    rfl
  | cl :: after =>
    by_cases hc : cl.isClose = true
    · refine ⟨[cl], after, .ok e, rfl, fun E r' _ => ?_, .inl ⟨cl, rfl, hc, rfl⟩⟩
      simp [closing, hc, stopAt]
    · refine ⟨[], cl :: after, .error fault, rfl, fun E r' hr => ?_, .inr ⟨rfl, rfl⟩⟩
      obtain ⟨rest, rfl⟩ := List.head?_eq_some_iff.mp hr
      simp [closing, hc, stopAt]

/-- A group or a call: after the tokens `pre`, the limit is checked, an expression is read one
level deeper, and then its closing parenthesis. -/
theorem Stops.enclosed {M : Int} {d : Nat} {inside c₁ r₁ : List Token}
    {o₁ : Except ParseFault Expr} (pre : List Token) (fault : ParseFault) (node : Expr → Expr)
    (hread : ∀ (E : Nat) (r' : List Token), (⟨M, E⟩ : Reader).read d .factor (pre ++ r') =
      if M < ((d + 1 : Nat) : Int) then (⟨M, E⟩ : Reader).failAt (.tooDeep M) r'
      else (⟨M, E⟩ : Reader).read (d + 1) .expression r' >>= fun p =>
        (⟨M, E⟩ : Reader).closing fault (node p.1) p.2)
    (hder : ∀ u e n cl, Derives .expression u e n → cl.isClose = true →
      ∃ k, Derives .factor (pre ++ (u ++ [cl])) (node e) k)
    (h₁ : Stops M (d + 1) .expression inside c₁ r₁ o₁) :
    ∃ c r o, Stops M d .factor (pre ++ inside) c r o := by
  have hclose : Token.isClose ⟨.parenthesis, ")", 0⟩ = true := by decide
  by_cases hm : M < ((d + 1 : Nat) : Int)
  · -- the level is not entered
    refine ⟨pre, inside, .error (.tooDeep M), rfl, fun E r' _ => ?_, fun _ _ hf hne => ?_⟩
    · rw [hread, if_pos hm]
      rfl
    · cases hf
      exact absurd rfl hne
  cases o₁ with
  | error f =>
    refine ⟨pre ++ c₁, r₁, .error f, by rw [h₁.split, List.append_assoc], fun E r' hr => ?_,
      fun hs f' hf hne => ?_⟩
    · rw [List.append_assoc, hread, if_neg hm, h₁.reads E r' hr]
      rfl
    · cases hf
      obtain ⟨s, e, n, hd⟩ :=
        h₁.completes (fun t ht => hs t (List.mem_append_right _ ht)) f rfl hne
      obtain ⟨k, hd'⟩ := hder _ _ _ _ hd hclose
      exact ⟨s ++ [⟨.parenthesis, ")", 0⟩], node e, k, by simpa [List.append_assoc] using hd'⟩
  | ok a =>
    obtain ⟨c₂, r₂, o₂, hr₁, hreads, hkind⟩ := closing_stops M fault (node a) r₁
    refine ⟨pre ++ (c₁ ++ c₂), r₂, o₂, by rw [h₁.split, hr₁]; simp, fun E r' hr => ?_,
      fun hs f hf hne => ?_⟩
    · have hr' : (c₂ ++ r').head? = r₁.head? := by
        rw [hr₁]
        exact head?_append_congr hr
      rw [List.append_assoc, List.append_assoc, hread, if_neg hm, h₁.reads E _ hr']
      exact hreads E r' hr
    · rcases hkind with ⟨cl, rfl, hc, rfl⟩ | ⟨rfl, rfl⟩
      · cases hf
      · obtain ⟨n, hd⟩ := h₁.derives (fun t ht => hs t (List.mem_append_right _ ht))
        obtain ⟨k, hd'⟩ := hder _ _ _ _ hd hclose
        exact ⟨[⟨.parenthesis, ")", 0⟩], node a, k, by simpa using hd'⟩

/-- The factorial signs after a number: they are read up to the first other token, and only the
nesting can stop them. -/
theorem readBangs_stops (M : Int) (d : Nat) (node : Expr) (k : Nat) (ts : List Token) :
    ∃ bs r o, ts = bs ++ r ∧
      (∀ (E : Nat) (r' : List Token), r'.head? = r.head? →
        (⟨M, E⟩ : Reader).readBangs d node k (bs ++ r') = (⟨M, E⟩ : Reader).stopAt o r') ∧
      ∀ f, o = .error f → f = .tooDeep M := by
  induction ts generalizing node k with
  | nil =>
    refine ⟨[], [], .ok node, rfl, fun E r' hr => ?_, fun _ h => nomatch h⟩
    rw [List.head?_nil, List.head?_eq_none_iff] at hr
    subst hr
    rw [List.nil_append, readBangs_nil]
    rfl
  | cons t ts ih =>
    by_cases hf : (t.kind == .factorial) = true
    · by_cases hk : M ≤ ((d + k : Nat) : Int)
      · refine ⟨[], t :: ts, .error (.tooDeep M), rfl, fun E r' hr => ?_, fun _ h => ?_⟩
        · obtain ⟨rest, rfl⟩ := List.head?_eq_some_iff.mp hr
          rw [List.nil_append, readBangs_cons, if_pos hf, if_pos hk]
          rfl
        · cases h
          rfl
      · obtain ⟨bs, r, o, rfl, hreads, hdeep⟩ := ih (.post "!" node) (k + 1)
        refine ⟨t :: bs, r, o, rfl, fun E r' hr => ?_, hdeep⟩
        rw [List.cons_append, readBangs_cons, if_pos hf, if_neg hk]
        exact hreads E r' hr
    · refine ⟨[], t :: ts, .ok node, rfl, fun E r' hr => ?_, fun _ h => nomatch h⟩
      obtain ⟨rest, rfl⟩ := List.head?_eq_some_iff.mp hr
      rw [List.nil_append, readBangs_cons, if_neg hf]
      rfl

/-- Every reading stops somewhere, after looking at one token past what it read. -/
theorem stops (M : Int) (P : Phrase) (d : Nat) (ts : List Token) :
    ∃ c r o, Stops M d P ts c r o := by
  match P with
  | .expression =>
    have hseq : Seq M d .expression [] .term Phrase.moreTerms := fun _ r' =>
      read_expression _ d r'
    obtain ⟨c₁, r₁, o₁, h₁⟩ := stops M .term d ts
    have hlen := h₁.length_le
    exact Stops.seq [] hseq
      (fun _ _ _ _ _ _ hu hv => ⟨_, by rw [List.nil_append]; exact .expression hu hv⟩)
      (fun _ => ⟨_, _, .moreTermsNil⟩) h₁ fun a _ => stops M (.moreTerms a) d r₁
  | .moreTerms left =>
    match ts with
    | [] => exact ⟨_, _, _, Stops.here_nil fun _ => read_moreTerms_nil _ d left⟩
    | o :: tail =>
      by_cases ho : o.isAdditive = true
      · have hseq :
            Seq M d (.moreTerms left) [o] .term (fun b => .moreTerms (.bin o.text left b)) :=
          fun _ _ => by rw [List.singleton_append, read_moreTerms_cons, if_pos ho]
        obtain ⟨c₁, r₁, o₁, h₁⟩ := stops M .term d tail
        have hlen := h₁.length_le
        exact Stops.seq [o] hseq
          (fun _ _ _ _ _ _ hv hw =>
            ⟨_, by rw [List.singleton_append]; exact .moreTermsCons ho hv hw⟩)
          (fun _ => ⟨_, _, .moreTermsNil⟩) h₁
          fun b _ => stops M (.moreTerms (.bin o.text left b)) d r₁
      · exact ⟨_, _, _, Stops.here_cons fun _ _ => by rw [read_moreTerms_cons, if_neg ho]⟩
  | .term =>
    have hseq : Seq M d .term [] .power Phrase.morePowers := fun _ r' => read_term _ d r'
    obtain ⟨c₁, r₁, o₁, h₁⟩ := stops M .power d ts
    have hlen := h₁.length_le
    exact Stops.seq [] hseq
      (fun _ _ _ _ _ _ hu hv => ⟨_, by rw [List.nil_append]; exact .term hu hv⟩)
      (fun _ => ⟨_, _, .morePowersNil⟩) h₁ fun a _ => stops M (.morePowers a) d r₁
  | .morePowers left =>
    match ts with
    | [] => exact ⟨_, _, _, Stops.here_nil fun _ => read_morePowers_nil _ d left⟩
    | o :: tail =>
      by_cases ho : o.isMultiplicative = true
      · have hseq :
            Seq M d (.morePowers left) [o] .power (fun b => .morePowers (.bin o.text left b)) :=
          fun _ _ => by rw [List.singleton_append, read_morePowers_cons, if_pos ho]
        obtain ⟨c₁, r₁, o₁, h₁⟩ := stops M .power d tail
        have hlen := h₁.length_le
        exact Stops.seq [o] hseq
          (fun _ _ _ _ _ _ hv hw =>
            ⟨_, by rw [List.singleton_append]; exact .morePowersCons ho hv hw⟩)
          (fun _ => ⟨_, _, .morePowersNil⟩) h₁
          fun b _ => stops M (.morePowers (.bin o.text left b)) d r₁
      · exact ⟨_, _, _, Stops.here_cons fun _ _ => by rw [read_morePowers_cons, if_neg ho]⟩
  | .power =>
    have hseq : Seq M d .power [] .factor Phrase.exponent := fun _ r' => read_power _ d r'
    obtain ⟨c₁, r₁, o₁, h₁⟩ := stops M .factor d ts
    have hlen := h₁.length_le
    exact Stops.seq [] hseq
      (fun _ _ _ _ _ _ hu hv => ⟨_, by rw [List.nil_append]; exact .power hu hv⟩)
      (fun _ => ⟨_, _, .exponentNone⟩) h₁ fun a _ => stops M (.exponent a) d r₁
  | .exponent base =>
    match ts with
    | [] => exact ⟨_, _, _, Stops.here_nil fun _ => read_exponent_nil _ d base⟩
    | o :: tail =>
      by_cases hk : (o.kind == .power) = true
      · obtain ⟨c₁, r₁, o₁, h₁⟩ := stops M .factor d tail
        refine ⟨o :: c₁, r₁, o₁.map (.bin "^" base), ⟨by rw [h₁.split]; rfl, fun E r' hr => ?_,
          fun hs f hf hne => ?_⟩⟩
        · rw [List.cons_append, read_exponent_cons, if_pos hk, h₁.reads E r' hr]
          cases o₁ <;> rfl
        · cases o₁ with
          | ok b => cases hf
          | error f' =>
            cases hf
            obtain ⟨s, e, n, hd⟩ :=
              h₁.completes (fun t ht => hs t (List.mem_cons_of_mem _ ht)) f rfl hne
            have hcaret := Token.isCaret_of_carriesSign (hs o (List.mem_cons_self ..))
              (by simpa using hk)
            exact ⟨s, _, _, .exponentSome hcaret hd⟩
      · exact ⟨_, _, _, Stops.here_cons fun _ _ => by rw [read_exponent_cons, if_neg hk]⟩
  | .factor =>
    match ts with
    | [] =>
      exact ⟨_, _, .error .endOfInput, Stops.fail_nil (fun _ => read_factor_nil _ d)
        ⟨_, _, _, derives_one⟩⟩
    | t :: rest =>
      by_cases hn : (t.kind == .number) = true
      · -- a number and its factorial signs
        obtain ⟨bs, r, o, rfl, hreads, hdeep⟩ := readBangs_stops M d (.num t.text) 0 rest
        refine ⟨t :: bs, r, o, rfl, fun E r' hr => ?_, fun _ f hf hne => absurd (hdeep f hf) hne⟩
        rw [List.cons_append, read_factor_cons, if_pos hn]
        exact hreads E r' hr
      by_cases hf : (t.kind == .function) = true
      · -- a call, or a function name without its opening parenthesis
        have hf' : t.kind = .function := by simpa using hf
        have hcall : ∃ s e n, Derives .factor ([t] ++ s) e n :=
          ⟨[⟨.parenthesis, "(", 0⟩, ⟨.number, "1", 0⟩, ⟨.parenthesis, ")", 0⟩], _, _,
            .call hf' (by decide) derives_one.power_of_factor.term_of_power.expression_of_term
              (by decide)⟩
        match hrest : rest with
        | [] =>
          refine ⟨[t], [], .error (.missingOpen t.text), rfl, fun E r' hr => ?_,
            fun _ _ _ _ => hcall⟩
          rw [List.head?_nil, List.head?_eq_none_iff] at hr
          subst hr
          rw [List.append_nil, read_factor_cons, if_neg hn, if_pos hf]
          rfl
        | o :: inside =>
          have hlen : rest.length = inside.length + 1 := by rw [hrest]; rfl
          by_cases ho : o.isOpen = true
          · obtain ⟨c₁, r₁, o₁, h₁⟩ := stops M .expression (d + 1) inside
            refine Stops.enclosed [t, o] .missingClose (.call t.text) (fun E r' => ?_)
              (fun _ _ _ _ hu hc => ⟨_, .call hf' ho hu hc⟩) h₁
            rw [List.cons_append, List.cons_append, List.nil_append, read_factor_cons, if_neg hn,
              if_pos hf]
            simp only [if_pos ho]
          · refine ⟨[t], o :: inside, .error (.missingOpen t.text), rfl, fun E r' hr => ?_,
              fun _ _ _ _ => hcall⟩
            obtain ⟨rest', rfl⟩ := List.head?_eq_some_iff.mp hr
            rw [List.singleton_append, read_factor_cons, if_neg hn, if_pos hf]
            simp only [if_neg ho]
            rfl
      by_cases ho : t.isOpen = true
      · -- a group
        obtain ⟨c₁, r₁, o₁, h₁⟩ := stops M .expression (d + 1) rest
        refine Stops.enclosed [t] .unclosedGroup id (fun E r' => ?_)
          (fun _ _ _ _ hu hc => ⟨_, .group ho hu hc⟩) h₁
        rw [List.singleton_append, read_factor_cons, if_neg hn, if_neg hf, if_pos ho]
        rfl
      · -- any other token cannot begin a factor
        refine ⟨_, _, .error (.unexpected t.text), Stops.fail_cons (fun E rest' => ?_)
          ⟨_, _, _, derives_one⟩⟩
        rw [read_factor_cons, if_neg hn, if_neg hf, if_neg ho]
        rfl
termination_by 8 * ts.length + P.rank
decreasing_by all_goals simp only [Phrase.rank, List.length_cons]; omega

end Reader

/-- A viable prefix: a beginning of a token list that some sentence shares. -/
def Viable (p : List Token) : Prop :=
  ∃ s e, Sentence (p ++ s) e

theorem Viable.of_append {p q : List Token} (h : Viable (p ++ q)) : Viable p := by
  obtain ⟨s, e, hs⟩ := h
  exact ⟨q ++ s, e, by rwa [← List.append_assoc]⟩

open Classical in
/-- The length of the longest viable prefix of a token list. -/
noncomputable def viableLength (ts : List Token) : Nat :=
  Nat.findGreatest (fun k => Viable (ts.take k)) ts.length

/-- A viable prefix that no next token keeps viable is the longest one. -/
theorem viableLength_eq {ts c r : List Token} (hts : ts = c ++ r) (hc : Viable c)
    (hnext : ∀ t r₀, r = t :: r₀ → ¬Viable (c ++ [t])) : viableLength ts = c.length := by
  classical
  unfold viableLength
  rw [Nat.findGreatest_eq_iff]
  refine ⟨by rw [hts, List.length_append]; omega, fun _ => by rwa [hts, List.take_left], ?_⟩
  intro k hlt hle hv
  cases r with
  | nil =>
    rw [hts, List.append_nil] at hle
    omega
  | cons t r₀ =>
    -- a longer prefix holds `c` and the next token
    have htake : ts.take k = (c ++ [t]) ++ r₀.take (k - c.length - 1) := by
      obtain ⟨j, rfl⟩ : ∃ j, k = c.length + (j + 1) := ⟨k - c.length - 1, by omega⟩
      rw [hts, List.take_append, List.take_of_length_le (by omega)]
      simp
    rw [htake] at hv
    exact hnext t r₀ rfl hv.of_append

/-- A reading of a whole expression that stops before a token `t`, with a tree or with a fault
other than the nesting, shows that no sentence has `t` after what it read: a sentence that did
would be read the same way up to `t` under a limit large enough to read it whole. -/
theorem not_viable_of_stops {m : Int} {ts c r₀ : List Token} {t : Token}
    {o : Except ParseFault Expr} (hst : Reader.Stops m 0 .expression ts c (t :: r₀) o)
    (ho : ∀ f, o = .error f → f ≠ .tooDeep m) : ¬Viable (c ++ [t]) := by
  rintro ⟨s, e, hsent⟩
  rw [List.append_assoc, List.singleton_append] at hsent
  have hread := hst.reads (endPosition (c ++ t :: s)) (t :: s) rfl
  have hparse := Expr.parse_of_sentence (Int.le_max_right m (c ++ t :: s).length) hsent
  rcases Reader.read_same_or_tooDeep (⟨m, endPosition (c ++ t :: s)⟩ : Reader)
      (Int.le_max_left m (c ++ t :: s).length) .expression 0 (c ++ t :: s) with hsame | ⟨p, hdeep⟩
  · -- the larger limit reads the same: it stops before `t` too
    rw [Expr.parse_eq_read, ← hsame, hread] at hparse
    cases o with
    | ok a => cases hparse
    | error f => cases hparse
  · rw [hread] at hdeep
    cases o with
    | ok a => cases hdeep
    | error f =>
      cases hdeep
      exact ho _ rfl rfl

/-- A failure of the whole reading of tokens that spell their signs, other than the nesting,
comes after a viable prefix `c`, at the first token that no sentence has after `c`, or at the end
of the input, wherever the input is taken to end. -/
theorem Reader.whole_error_split {ts : List Token} {m : Int} {E : Nat} {err : ParseError}
    (hs : ∀ t ∈ ts, t.carriesSign = true)
    (h : (⟨m, E⟩ : Reader).read 0 .expression ts >>= Reader.finish = .error err)
    (hfault : err.fault ≠ .tooDeep m) :
    ∃ c r, ts = c ++ r ∧ Viable c ∧ (∀ t r₀, r = t :: r₀ → ¬Viable (c ++ [t])) ∧
      err.pos = (r.head?.map Token.pos).getD E := by
  obtain ⟨c, r, o, hst⟩ := Reader.stops m .expression 0 ts
  rw [hst.read_eq] at h
  cases o with
  | error f =>
    -- the expression fails, at the next token or at the end
    cases h
    obtain ⟨s, e, n, hd⟩ := hst.completes hs f rfl hfault
    refine ⟨c, r, hst.split, ⟨s, e, n, hd⟩, ?_, ?_⟩
    · rintro t r₀ rfl
      exact not_viable_of_stops hst fun f' hf' => by cases hf'; exact hfault
    · cases r <;> rfl
  | ok a =>
    -- the expression ends before the last token, which is left over
    cases r with
    | nil => cases h
    | cons t r₀ =>
      cases h
      obtain ⟨n, hd⟩ := hst.derives hs
      refine ⟨c, t :: r₀, hst.split, ⟨[], a, n, by rwa [List.append_nil]⟩, ?_, rfl⟩
      rintro t' r₀' heq
      cases heq
      exact not_viable_of_stops hst fun f hf => nomatch hf

/-- The tokens of a split text end within it. -/
theorem Splits.endPos_le {cs : List Char} {ls : List Lexeme} (h : Splits cs ls) (pos : Nat) :
    ∀ t ∈ Lexeme.tokensFrom pos ls, t.endPos ≤ pos + cs.length := by
  induction h generalizing pos with
  | nil => simp
  | @cons l after ls _ _ _ ih =>
    intro t ht
    rw [Lexeme.tokensFrom_cons, List.mem_append] at ht
    rcases ht with ht | ht
    · -- the lexeme's own token spells the lexeme
      simp only [Lexeme.emit] at ht
      split at ht
      · rw [List.mem_singleton] at ht
        subst ht
        simp [Token.endPos, String.length_ofList]
      · cases ht
    · have := ih (pos + l.length) t ht
      simp only [List.length_append, Lexeme.length_chars]
      omega

/-- The tokens of a source end within it. -/
theorem Token.endPos_le_of_scan {source : String} {ts : List Token}
    (h : Token.scan source = .ok ts) : ∀ t ∈ ts, t.endPos ≤ source.length := by
  obtain ⟨ls, hls, rfl⟩ := splits_of_scanFrom 0 _ ts (Token.scan_eq_ok_iff.mp h)
  intro t ht
  have := hls.endPos_le 0 t ht
  rwa [Nat.zero_add, String.length_toList] at this

theorem endPosition_le {ts : List Token} {n : Nat} (h : ∀ t ∈ ts, t.endPos ≤ n) :
    endPosition ts ≤ n := by
  unfold endPosition
  split
  next t ht => exact h t (List.mem_of_getLast? ht)
  next => exact Nat.zero_le n

/-- The correct-prefix property of the reader, on every token list: a failure for another
reason than the nesting is reported at the first token after the longest viable prefix, or at
the end of the input when the whole list is viable. The reader tells a power or factorial token
by its kind alone, so a prefix is viable when it is with its signs spelled out; the tokens of a
source spell them already. For the tokens of a source, the position is within the source. -/
theorem Expr.parse_error_at_signed_viableLength {ts : List Token} {m : Int} {err : ParseError}
    (h : Expr.parse m ts = .error err) (hfault : err.fault ≠ .tooDeep m) :
    err.pos = (ts[viableLength (ts.map Token.signed)]?.map Token.pos).getD (endPosition ts) ∧
      ∀ source, Token.scan source = .ok ts → err.pos ≤ source.length := by
  -- the signed tokens fail alike, under the same limit and the same end of input
  obtain ⟨err', h', hlike⟩ := exists_error_of_untexted (Expr.parse_signed m ts) h
  obtain ⟨hpos, hdeep⟩ := ParseError.alike_of_untexted hlike m
  obtain ⟨c, r, hts, hc, hnext, hpos'⟩ :=
    Reader.whole_error_split (Token.carriesSign_map_signed ts) h' (fun hf => hfault (hdeep.mp hf))
  have hhead : ts[c.length]?.map Token.pos = r.head?.map Token.pos := by
    have hsigned : (ts.map Token.signed)[c.length]? = r.head? := by
      rw [hts, List.getElem?_append_right (Nat.le_refl _), Nat.sub_self, List.head?_eq_getElem?]
    rw [← hsigned, List.getElem?_map, Option.map_map, Token.pos_comp_signed]
  have hfirst : err.pos =
      (ts[viableLength (ts.map Token.signed)]?.map Token.pos).getD (endPosition ts) := by
    rw [viableLength_eq hts hc hnext, hhead, ← hpos, hpos']
  refine ⟨hfirst, fun source hscan => ?_⟩
  have hends := Token.endPos_le_of_scan hscan
  rw [hfirst]
  cases hk : ts[viableLength (ts.map Token.signed)]? with
  | none => exact endPosition_le hends
  | some t =>
    have := hends t (List.mem_of_getElem? hk)
    simp only [Token.endPos] at this
    simp only [Option.map_some, Option.getD_some]
    omega

/-- A power token that spells `x` is read as the power sign, so `2 x 3` is the power `2^3`
and the number `4` after it is left over: no sentence, signs spelled out, has a token there. -/
theorem parse_error_at_signed_viableLength_power_text :
    Expr.parse 100 [⟨.number, "2", 0⟩, ⟨.power, "x", 1⟩, ⟨.number, "3", 2⟩,
        ⟨.number, "4", 4⟩] = .error ⟨.trailing "4", 4⟩ ∧
      (⟨.trailing "4", 4⟩ : ParseError).fault ≠ .tooDeep 100 ∧
      ((⟨.trailing "4", 4⟩ : ParseError).pos =
          (([⟨.number, "2", 0⟩, ⟨.power, "x", 1⟩, ⟨.number, "3", 2⟩, ⟨.number, "4", 4⟩] :
            List Token)[viableLength (([⟨.number, "2", 0⟩, ⟨.power, "x", 1⟩,
              ⟨.number, "3", 2⟩, ⟨.number, "4", 4⟩] : List Token).map Token.signed)]?.map
                Token.pos).getD
            (endPosition [⟨.number, "2", 0⟩, ⟨.power, "x", 1⟩, ⟨.number, "3", 2⟩,
              ⟨.number, "4", 4⟩]) ∧
        ∀ source, Token.scan source = .ok [⟨.number, "2", 0⟩, ⟨.power, "x", 1⟩,
          ⟨.number, "3", 2⟩, ⟨.number, "4", 4⟩] →
          (⟨.trailing "4", 4⟩ : ParseError).pos ≤ source.length) := by
  have hparse : Expr.parse 100 [⟨.number, "2", 0⟩, ⟨.power, "x", 1⟩, ⟨.number, "3", 2⟩,
      ⟨.number, "4", 4⟩] = .error ⟨.trailing "4", 4⟩ := by
    rw [Expr.parse_eq_read]
    simp [Reader.read_expression, Reader.read_term, Reader.read_power, Reader.read_factor_cons,
      Reader.readBangs_cons, Reader.read_exponent_cons, Reader.read_morePowers_cons,
      Reader.read_moreTerms_cons, Token.isAdditive, Token.isMultiplicative, bind, Except.bind,
      Except.map]
  have hfault : (⟨.trailing "4", 4⟩ : ParseError).fault ≠ .tooDeep 100 := by decide
  exact ⟨hparse, hfault, Expr.parse_error_at_signed_viableLength hparse hfault⟩

end Calculator

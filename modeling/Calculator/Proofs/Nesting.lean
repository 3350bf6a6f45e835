import Calculator.Proofs.Recognition

/-!
The nesting limit. Each opening parenthesis stands at a level, the number of groups open once it
is read, and so does each factorial sign after a number: the `j`-th stands `j` levels below the
groups open at the number. The reader checks these levels against its limit and nothing else. A
smaller limit changes a reading only by stopping it too deep, and a token list that some limit
reads is read under a limit exactly when all its levels are within it.

Main statement: `Expr.parse_limit_iff_levels`.
-/

namespace Calculator

namespace Token

/-- How many more groups the tokens open than they close. -/
def openCount : List Token → Int
  | [] => 0
  | t :: ts => (if t.isOpen then 1 else if t.isClose then -1 else 0) + openCount ts

/-- The levels of the opening parentheses and of the factorial signs after a number, read with
`depth` groups open before the tokens. An opening parenthesis stands at the number of groups open
once it is read; the `j`-th factorial sign after a number stands `j` levels below the groups open
at the number. `run` is how many factorial signs the number just before has taken, while the
tokens continue its run; a factorial sign that follows no number has no level. -/
def levelsFrom (depth : Int) (run : Option Nat) : List Token → List Int
  | [] => []
  | t :: ts =>
    if t.kind == .factorial then
      match run with
      | some j => (depth + j + 1) :: levelsFrom depth (some (j + 1)) ts
      | none => levelsFrom depth none ts
    else if t.isOpen then (depth + 1) :: levelsFrom (depth + 1) none ts
    else if t.isClose then levelsFrom (depth - 1) none ts
    else if t.kind == .number then levelsFrom depth (some 0) ts
    else levelsFrom depth none ts

/-- The levels of the opening parentheses and factorial signs of a whole token list. -/
def levels (ts : List Token) : List Int :=
  levelsFrom 0 none ts

@[simp] theorem openCount_nil : openCount [] = 0 := rfl

theorem openCount_append (u v : List Token) : openCount (u ++ v) = openCount u + openCount v := by
  induction u with
  | nil => simp
  | cons t u ih => simp only [List.cons_append, openCount, ih]; omega

/-- What is not a factorial sign ends a number's run: the levels after it do not depend on the
run. -/
theorem levelsFrom_run {ts : List Token} (h : ∀ t ∈ ts.head?, t.kind ≠ .factorial)
    (depth : Int) (run : Option Nat) : levelsFrom depth run ts = levelsFrom depth none ts := by
  cases ts with
  | nil => rfl
  | cons t ts =>
    have ht : (t.kind == .factorial) = false := by simpa using h t rfl
    simp only [levelsFrom, ht, Bool.false_eq_true, if_false]

/-- The levels of tokens read one part after the other, when the second part does not continue
a run of factorial signs. -/
theorem levelsFrom_append (u : List Token) {v : List Token}
    (hv : ∀ t ∈ v.head?, t.kind ≠ .factorial) (depth : Int) (run : Option Nat) :
    levelsFrom depth run (u ++ v) =
      levelsFrom depth run u ++ levelsFrom (depth + openCount u) none v := by
  induction u generalizing depth run with
  | nil =>
    simp only [List.nil_append, levelsFrom, openCount_nil, Int.add_zero]
    exact levelsFrom_run hv depth run
  | cons t u ih =>
    simp only [List.cons_append, levelsFrom, openCount]
    by_cases hf : (t.kind == .factorial) = true
    · have hno : t.isOpen = false := by simp_all [isOpen]
      have hnc : t.isClose = false := by simp_all [isClose]
      simp only [hf, if_true, hno, hnc, Bool.false_eq_true, if_false]
      cases run with
      | none => simp [ih]
      | some j => simp [ih]
    · simp only [hf, Bool.false_eq_true, if_false]
      by_cases ho : t.isOpen = true
      · simp only [ho, if_true, ih, List.cons_append]
        rw [Int.add_assoc]
      · simp only [ho, Bool.false_eq_true, if_false]
        by_cases hc : t.isClose = true
        · simp only [hc, if_true, ih]
          rw [Int.sub_eq_add_neg, Int.add_assoc]
        · simp only [hc, Bool.false_eq_true, if_false]
          split <;> simp [ih]

theorem levelsFrom_cons_open {o : Token} (ho : o.isOpen = true) (depth : Int) (run : Option Nat)
    (ts : List Token) :
    levelsFrom depth run (o :: ts) = (depth + 1) :: levelsFrom (depth + 1) none ts := by
  have hf : (o.kind == .factorial) = false := by simp_all [isOpen]
  simp only [levelsFrom, hf, ho, Bool.false_eq_true, if_false, if_true]

theorem kind_of_isAdditive {o : Token} (ho : o.isAdditive = true) : o.kind = .operator := by
  simp only [isAdditive, Bool.and_eq_true, beq_iff_eq] at ho
  exact ho.1

theorem kind_of_isMultiplicative {o : Token} (ho : o.isMultiplicative = true) :
    o.kind = .operator := by
  simp only [isMultiplicative, Bool.and_eq_true, beq_iff_eq] at ho
  exact ho.1

theorem isOpen_of_isClose {c : Token} (hc : c.isClose = true) : c.isOpen = false := by
  simp_all [isClose, isOpen]

theorem levelsFrom_close {c : Token} (hc : c.isClose = true) (depth : Int) (run : Option Nat) :
    levelsFrom depth run [c] = [] := by
  have hf : (c.kind == .factorial) = false := by simp_all [isClose]
  have ho : c.isOpen = false := by simp_all [isClose, isOpen]
  simp only [levelsFrom, hf, ho, hc, Bool.false_eq_true, if_false, if_true]

theorem levelsFrom_cons_number {t : Token} (hn : t.kind = .number) (depth : Int) (run : Option Nat)
    (ts : List Token) : levelsFrom depth run (t :: ts) = levelsFrom depth (some 0) ts := by
  have ho : t.isOpen = false := by simp_all [isOpen]
  have hc : t.isClose = false := by simp_all [isClose]
  simp [levelsFrom, hn, ho, hc]

/-- A token that is no parenthesis, number or factorial sign leaves the levels after it as they
are. -/
theorem levelsFrom_cons_of_kind {t : Token}
    (hk : t.kind = .operator ∨ t.kind = .power ∨ t.kind = .function) (depth : Int)
    (run : Option Nat) (ts : List Token) :
    levelsFrom depth run (t :: ts) = levelsFrom depth none ts := by
  have ho : t.isOpen = false := by rcases hk with hk | hk | hk <;> simp [isOpen, hk]
  have hc : t.isClose = false := by rcases hk with hk | hk | hk <;> simp [isClose, hk]
  rcases hk with hk | hk | hk <;> simp [levelsFrom, hk, ho, hc]

/-- Operators carry no level and leave the depth as it is. -/
theorem levelsFrom_operators_append {pre : List Token} (hpre : ∀ o ∈ pre, o.kind = .operator)
    (depth : Int) (u : List Token) :
    levelsFrom depth none (pre ++ u) = levelsFrom depth none u := by
  induction pre with
  | nil => rfl
  | cons o pre ih =>
    rw [List.cons_append, levelsFrom_cons_of_kind (.inl (hpre o (List.mem_cons_self ..))),
      ih fun o' h => hpre o' (List.mem_cons_of_mem _ h)]

theorem openCount_cons_of_not_paren {t : Token} (hk : t.kind ≠ .parenthesis) (ts : List Token) :
    openCount (t :: ts) = openCount ts := by
  have ho : t.isOpen = false := by simp [isOpen, hk]
  have hc : t.isClose = false := by simp [isClose, hk]
  simp [openCount, ho, hc]

theorem openCount_of_factorials {bs : List Token} (hb : ∀ b ∈ bs, b.kind = .factorial) :
    openCount bs = 0 := by
  induction bs with
  | nil => rfl
  | cons b bs ih =>
    rw [openCount_cons_of_not_paren (by simp [hb b (List.mem_cons_self ..)])]
    exact ih fun b' hb' => hb b' (List.mem_cons_of_mem _ hb')

/-- No level goes beyond the groups open before the tokens, the factorial signs already in the
run, and the number of tokens. -/
theorem levelsFrom_le (depth : Int) (run : Option Nat) (ts : List Token) :
    ∀ l ∈ levelsFrom depth run ts, l ≤ depth + (run.getD 0 : Int) + ts.length := by
  -- each token adds at most one to the groups open and the run
  fun_induction levelsFrom depth run ts with
  | case1 => simp
  | case2 depth t ts hf j ih | case4 depth run t ts hf ho ih =>
    intro l hl
    simp only [Option.getD_some, Option.getD_none, List.length_cons] at ih ⊢
    rcases List.mem_cons.mp hl with rfl | hl
    · omega
    · have := ih l hl
      omega
  | case3 depth t ts hf ih | case5 depth run t ts hf ho hc ih
  | case6 depth run t ts hf ho hc hn ih | case7 depth run t ts hf ho hc hn ih =>
    intro l hl
    have := ih l hl
    simp only [Option.getD_some, Option.getD_none, List.length_cons] at this ⊢
    omega

/-- No level of a token list goes beyond its length. -/
theorem levels_le_length (ts : List Token) : ∀ l ∈ levels ts, l ≤ ts.length := by
  intro l hl
  have := levelsFrom_le 0 none ts l hl
  simpa using this

/-- Whether a token has a level: an opening parenthesis or a factorial sign. -/
def hasLevel (t : Token) : Bool :=
  t.isOpen || t.kind == .factorial

theorem head?_append_of {P : Token → Prop} {u v : List Token} (hu : ∀ t ∈ u.head?, P t)
    (hv : ∀ t ∈ v.head?, P t) : ∀ t ∈ (u ++ v).head?, P t := by
  cases u with
  | nil => exact hv
  | cons t u => exact hu

/-- The factorial signs after a number stand deeper than the number, one level each. -/
theorem levelsFrom_factorials {bs : List Token} (hb : ∀ b ∈ bs, b.kind = .factorial) (depth : Int)
    (k : Nat) : (∀ l ∈ levelsFrom depth (some k) bs, depth + k < l) ∧
      (levelsFrom depth (some k) bs).length = bs.length := by
  induction bs generalizing k with
  | nil => simp [levelsFrom]
  | cons b bs ih =>
    have hf : (b.kind == .factorial) = true := by simp [hb b (List.mem_cons_self ..)]
    obtain ⟨hdeeper, hlen⟩ := ih (fun b' hb' => hb b' (List.mem_cons_of_mem _ hb')) (k + 1)
    refine ⟨fun l hl => ?_, by simp [levelsFrom, hf, hlen]⟩
    simp only [levelsFrom, hf, if_true, List.mem_cons] at hl
    rcases hl with rfl | hl
    · omega
    · have := hdeeper l hl
      omega

/-- Tokens that a reading at depth `d` takes whole. They open as many groups as they close and
do not begin with a factorial sign; their opening parentheses and factorial signs each have a
level, and these levels lie deeper than `d`. -/
structure WellNested (d : Int) (u : List Token) : Prop where
  balanced : openCount u = 0
  head : ∀ t ∈ u.head?, t.kind ≠ .factorial
  deeper : ∀ l ∈ levelsFrom d none u, d < l
  count : (levelsFrom d none u).length = u.countP hasLevel

namespace WellNested

variable {d : Int} {u v : List Token}

theorem nil : WellNested d [] :=
  ⟨rfl, by simp, by simp [levelsFrom], rfl⟩

theorem append (hu : WellNested d u) (hv : WellNested d v) : WellNested d (u ++ v) := by
  have hlevels := levelsFrom_append u hv.head d none
  rw [hu.balanced, Int.add_zero] at hlevels
  refine ⟨?_, head?_append_of hu.head hv.head, ?_, ?_⟩
  · rw [openCount_append, hu.balanced, hv.balanced]
    rfl
  · rw [hlevels]
    intro l hl
    rcases List.mem_append.mp hl with hl | hl
    · exact hu.deeper l hl
    · exact hv.deeper l hl
  · rw [hlevels, List.length_append, hu.count, hv.count, List.countP_append]

/-- An operator, a power sign or a function name before tokens taken whole. -/
theorem cons_of_kind {t : Token} (hk : t.kind = .operator ∨ t.kind = .power ∨ t.kind = .function)
    (hu : WellNested d u) : WellNested d (t :: u) := by
  have hp : t.kind ≠ .parenthesis := by rcases hk with hk | hk | hk <;> simp [hk]
  have hf : t.kind ≠ .factorial := by rcases hk with hk | hk | hk <;> simp [hk]
  have hl : hasLevel t = false := by simp [hasLevel, isOpen, hp, hf]
  refine ⟨?_, by simpa using hf, ?_, ?_⟩
  · rw [openCount_cons_of_not_paren hp]
    exact hu.balanced
  · rw [levelsFrom_cons_of_kind hk]
    exact hu.deeper
  · rw [levelsFrom_cons_of_kind hk, List.countP_cons_of_neg (by simp [hl])]
    exact hu.count

/-- A number and the factorial signs after it. -/
theorem number {t : Token} {bs : List Token} (hn : t.kind = .number)
    (hb : ∀ b ∈ bs, b.kind = .factorial) : WellNested d (t :: bs) := by
  obtain ⟨hdeeper, hlen⟩ := levelsFrom_factorials hb d 0
  have hl : hasLevel t = false := by simp [hasLevel, isOpen, hn]
  have hcount : bs.countP hasLevel = bs.length :=
    List.countP_eq_length.mpr fun b h => by simp [hasLevel, hb b h]
  refine ⟨?_, by simp [hn], ?_, ?_⟩
  · rw [openCount_cons_of_not_paren (by simp [hn]), openCount_of_factorials hb]
  · rw [levelsFrom_cons_number hn]
    intro l hl
    have := hdeeper l hl
    omega
  · rw [levelsFrom_cons_number hn, List.countP_cons_of_neg (by simp [hl]), hcount, hlen]

/-- A group: tokens taken whole one level deeper, between parentheses. -/
theorem group {o c : Token} (ho : o.isOpen = true) (hc : c.isClose = true)
    (hu : WellNested (d + 1) u) : WellNested d (o :: (u ++ [c])) := by
  have hcf : c.kind ≠ .factorial := by simp_all [isClose]
  have hlevels : levelsFrom d none (o :: (u ++ [c])) = (d + 1) :: levelsFrom (d + 1) none u := by
    rw [levelsFrom_cons_open ho, levelsFrom_append _ (by simpa using hcf), levelsFrom_close hc,
      List.append_nil]
  refine ⟨?_, by simp_all [isOpen], ?_, ?_⟩
  · simp [openCount, openCount_append, hu.balanced, ho, hc, isOpen_of_isClose hc]
  · rw [hlevels]
    rintro l hl
    rcases List.mem_cons.mp hl with rfl | hl
    · omega
    · have := hu.deeper l hl
      omega
  · have hcl : hasLevel c = false := by simp [hasLevel, isOpen_of_isClose hc, hcf]
    rw [hlevels, List.length_cons, hu.count, List.countP_cons_of_pos (by simp [hasLevel, ho]),
      List.countP_append, List.countP_cons_of_neg (by simp [hcl])]
    rfl

/-- Operators before tokens taken whole. -/
theorem operators_append {pre : List Token} (hpre : ∀ o ∈ pre, o.kind = .operator)
    (hu : WellNested d u) : WellNested d (pre ++ u) := by
  induction pre with
  | nil => exact hu
  | cons o pre ih =>
    exact (ih fun o' h => hpre o' (List.mem_cons_of_mem _ h)).cons_of_kind
      (.inl (hpre o (List.mem_cons_self ..)))

end WellNested

end Token

namespace Reader

/-- A reading that stops at a group or a factorial sign nested deeper than the limit `M`. -/
def TooDeep {α : Type} (M : Int) (x : Except ParseError α) : Prop :=
  ∃ p, x = .error ⟨.tooDeep M, p⟩

/-- A computation that gives the same answer as another or stops too deep, followed by
continuations that do so too, does so as a whole. -/
theorem bind_same_or_tooDeep {α β : Type} {M : Int} {x x' : Except ParseError α}
    {f f' : α → Except ParseError β} (hx : x = x' ∨ TooDeep M x)
    (hf : ∀ a, x = .ok a → f a = f' a ∨ TooDeep M (f a)) :
    (x >>= f) = (x' >>= f') ∨ TooDeep M (x >>= f) := by
  rcases hx with rfl | ⟨p, rfl⟩
  · cases x with
    | error err => exact .inl rfl
    | ok a => exact hf a rfl
  · exact .inr ⟨p, rfl⟩

variable (rd : Reader) {M' : Int}

/-- The factorial signs after a number, under a limit and under a larger one. -/
theorem readBangs_same_or_tooDeep (hM : rd.maxDepth ≤ M') (d : Nat) (node : Expr) (k : Nat)
    (ts : List Token) :
    rd.readBangs d node k ts = (⟨M', rd.endPos⟩ : Reader).readBangs d node k ts ∨
      TooDeep rd.maxDepth (rd.readBangs d node k ts) := by
  induction ts generalizing node k with
  | nil => exact .inl (by rw [readBangs_nil, readBangs_nil])
  | cons t ts ih =>
    rw [readBangs_cons, readBangs_cons]
    by_cases hf : (t.kind == .factorial) = true
    · rw [if_pos hf, if_pos hf]
      by_cases hk : rd.maxDepth ≤ ((d + k : Nat) : Int)
      · rw [if_pos hk]
        exact .inr ⟨_, rfl⟩
      · have hk' : ¬M' ≤ ((d + k : Nat) : Int) := by omega
        rw [if_neg hk, if_neg hk']
        exact ih _ _
    · rw [if_neg hf, if_neg hf]
      exact .inl rfl

/-- A smaller nesting limit changes a reading only by stopping it at a level beyond the
limit. -/
theorem read_same_or_tooDeep (hM : rd.maxDepth ≤ M') (P : Phrase) (d : Nat) (ts : List Token) :
    rd.read d P ts = (⟨M', rd.endPos⟩ : Reader).read d P ts ∨
      TooDeep rd.maxDepth (rd.read d P ts) := by
  match P with
  | .expression =>
    rw [read_expression, read_expression]
    refine bind_same_or_tooDeep (read_same_or_tooDeep hM .term d ts) fun p hp => ?_
    have := rd.length_le_of_read d hp
    exact read_same_or_tooDeep hM (.moreTerms p.1) d p.2
  | .moreTerms left =>
    match ts with
    | [] => exact .inl (by rw [read_moreTerms_nil, read_moreTerms_nil])
    | o :: tail =>
      rw [read_moreTerms_cons, read_moreTerms_cons]
      split
      · refine bind_same_or_tooDeep (read_same_or_tooDeep hM .term d tail) fun p hp => ?_
        have := rd.length_le_of_read d hp
        exact read_same_or_tooDeep hM (.moreTerms _) d p.2
      · exact .inl rfl
  | .term =>
    rw [read_term, read_term]
    refine bind_same_or_tooDeep (read_same_or_tooDeep hM .power d ts) fun p hp => ?_
    have := rd.length_le_of_read d hp
    exact read_same_or_tooDeep hM (.morePowers p.1) d p.2
  | .morePowers left =>
    match ts with
    | [] => exact .inl (by rw [read_morePowers_nil, read_morePowers_nil])
    | o :: tail =>
      rw [read_morePowers_cons, read_morePowers_cons]
      split
      · refine bind_same_or_tooDeep (read_same_or_tooDeep hM .power d tail) fun p hp => ?_
        have := rd.length_le_of_read d hp
        exact read_same_or_tooDeep hM (.morePowers _) d p.2
      · exact .inl rfl
  | .power =>
    rw [read_power, read_power]
    refine bind_same_or_tooDeep (read_same_or_tooDeep hM .factor d ts) fun p hp => ?_
    have := rd.length_le_of_read d hp
    exact read_same_or_tooDeep hM (.exponent p.1) d p.2
  | .exponent base =>
    match ts with
    | [] => exact .inl (by rw [read_exponent_nil, read_exponent_nil])
    | o :: tail =>
      rw [read_exponent_cons, read_exponent_cons]
      split
      · rcases read_same_or_tooDeep hM .factor d tail with h | ⟨p, h⟩
        · exact .inl (by rw [h])
        · exact .inr ⟨p, by rw [h]; rfl⟩
      · exact .inl rfl
  | .factor =>
    match ts with
    | [] => exact .inl (by rw [read_factor_nil, read_factor_nil])
    | t :: rest =>
      rw [read_factor_cons, read_factor_cons]
      -- the limit is checked on entering a group or a call, and by the factorial signs
      by_cases hn : (t.kind == .number) = true
      · rw [if_pos hn, if_pos hn]
        exact rd.readBangs_same_or_tooDeep hM d _ 0 rest
      rw [if_neg hn, if_neg hn]
      by_cases hf : (t.kind == .function) = true
      · rw [if_pos hf, if_pos hf]
        match rest with
        | [] => exact .inl rfl
        | o :: inside =>
          simp only
          by_cases ho : o.isOpen = true
          · rw [if_pos ho, if_pos ho]
            by_cases hm : rd.maxDepth < ((d + 1 : Nat) : Int)
            · rw [if_pos hm]
              exact .inr ⟨_, rfl⟩
            · have hm' : ¬M' < ((d + 1 : Nat) : Int) := by omega
              rw [if_neg hm, if_neg hm']
              exact bind_same_or_tooDeep (read_same_or_tooDeep hM .expression (d + 1) inside)
                fun _ _ => .inl rfl
          · rw [if_neg ho, if_neg ho]
            exact .inl rfl
      rw [if_neg hf, if_neg hf]
      by_cases ho : t.isOpen = true
      · rw [if_pos ho, if_pos ho]
        by_cases hm : rd.maxDepth < ((d + 1 : Nat) : Int)
        · rw [if_pos hm]
          exact .inr ⟨_, rfl⟩
        · have hm' : ¬M' < ((d + 1 : Nat) : Int) := by omega
          rw [if_neg hm, if_neg hm']
          exact bind_same_or_tooDeep (read_same_or_tooDeep hM .expression (d + 1) rest)
            fun _ _ => .inl rfl
      · rw [if_neg ho, if_neg ho]
        exact .inl rfl
termination_by 8 * ts.length + P.rank
decreasing_by all_goals simp only [Phrase.rank, List.length_cons]; omega

/-- A reading under the limit `M` whose tokens have the levels `ls`: it gives `v` when every level
is within the limit, and stops too deep otherwise. -/
structure Limited {α : Type} (M : Int) (ls : List Int) (x : Except ParseError α) (v : α) :
    Prop where
  ok : (∀ l ∈ ls, l ≤ M) → x = .ok v
  deep : (∃ l ∈ ls, M < l) → TooDeep M x

namespace Limited

variable {α β : Type} {M : Int} {ls ls' : List Int} {x : Except ParseError α} {a : α}

theorem pure (v : α) : Limited M [] (.ok v) v :=
  ⟨fun _ => rfl, fun ⟨_, hl, _⟩ => nomatch hl⟩

theorem bind {f : α → Except ParseError β} {v : β} (hx : Limited M ls x a)
    (hf : Limited M ls' (f a) v) : Limited M (ls ++ ls') (x >>= f) v where
  ok h := by
    rw [hx.ok fun l hl => h l (List.mem_append_left _ hl)]
    exact hf.ok fun l hl => h l (List.mem_append_right _ hl)
  deep := by
    rintro ⟨l, hl, hlt⟩
    by_cases hfirst : ∃ l ∈ ls, M < l
    · obtain ⟨p, hp⟩ := hx.deep hfirst
      exact ⟨p, by rw [hp]; rfl⟩
    · have hwithin : ∀ l ∈ ls, l ≤ M := fun l hl => Int.not_lt.mp fun h => hfirst ⟨l, hl, h⟩
      rw [hx.ok hwithin]
      rcases List.mem_append.mp hl with hl | hl
      · exact absurd (hwithin l hl) (Int.not_le.mpr hlt)
      · exact hf.deep ⟨l, hl, hlt⟩

theorem map {g : α → β} (hx : Limited M ls x a) : Limited M ls (x.map g) (g a) where
  ok h := by rw [hx.ok h]; rfl
  deep h := by
    obtain ⟨p, hp⟩ := hx.deep h
    exact ⟨p, by rw [hp]; rfl⟩

theorem bind_ok {f : α → Except ParseError β} {v : β} (hx : Limited M ls x a)
    (hf : f a = .ok v) : Limited M ls (x >>= f) v := by
  have := hx.bind (hf ▸ pure v : Limited M [] (f a) v)
  rwa [List.append_nil] at this

/-- Entering a level `l`: the limit is checked first, then the reading goes on. -/
theorem enter {c : Prop} [Decidable c] {l : Int} {y : Except ParseError α} (hc : c ↔ M < l)
    (hy : TooDeep M y) (hx : Limited M ls x a) : Limited M (l :: ls) (if c then y else x) a where
  ok h := by
    have hl : ¬c := fun hc' => Int.not_le.mpr (hc.mp hc') (h l (List.mem_cons_self ..))
    rw [if_neg hl]
    exact hx.ok fun l' hl' => h l' (List.mem_cons_of_mem _ hl')
  deep := by
    rintro ⟨l', hl', hlt⟩
    by_cases hcc : c
    · rw [if_pos hcc]
      exact hy
    · rw [if_neg hcc]
      rcases List.mem_cons.mp hl' with rfl | hl'
      · exact absurd (hc.mpr hlt) hcc
      · exact hx.deep ⟨l', hl', hlt⟩

end Limited

/-- The factorial signs after a number, read under any limit when some limit reads them. -/
theorem readBangs_limited (d : Nat) (node : Expr) (k : Nat)
    (ts r : List Token) (e : Expr)
    (h : (⟨M', rd.endPos⟩ : Reader).readBangs d node k ts = .ok (e, r)) :
    ∃ bs, ts = bs ++ r ∧ (∀ b ∈ bs, b.kind = .factorial) ∧ (∀ t ∈ r.head?, t.kind ≠ .factorial) ∧
      Limited rd.maxDepth (Token.levelsFrom d (some k) bs) (rd.readBangs d node k ts) (e, r) := by
  induction ts generalizing node k with
  | nil =>
    rw [readBangs_nil] at h
    cases h
    exact ⟨[], rfl, by simp, by simp, by rw [readBangs_nil]; exact Limited.pure _⟩
  | cons t ts ih =>
    rw [readBangs_cons] at h
    split at h
    next hf =>
      split at h
      · cases h
      next hk =>
        obtain ⟨bs, rfl, hbs, hr, hl⟩ := ih _ _ h
        have hf' : t.kind = .factorial := by simpa using hf
        refine ⟨t :: bs, rfl, ?_, hr, ?_⟩
        · intro b hb
          rcases List.mem_cons.mp hb with rfl | hb
          · exact hf'
          · exact hbs b hb
        · rw [readBangs_cons, if_pos hf]
          simp only [Token.levelsFrom, hf, if_true]
          exact Limited.enter (by omega) ⟨_, rfl⟩ hl
    next hf =>
      cases h
      refine ⟨[], rfl, by simp, by simpa using hf, ?_⟩
      rw [readBangs_cons, if_neg hf]
      exact Limited.pure _

/-- Reading the phrase `P` at depth `d` from `ts` under the limit of `rd`, when some limit reads
it to `(e, r)`: the tokens read are taken whole, and the reading goes the same way exactly while
their levels are within the limit. -/
def LimitedRead (d : Nat) (P : Phrase) (ts r : List Token) (e : Expr) : Prop :=
  ∃ u, ts = u ++ r ∧ Token.WellNested d u ∧
    Limited rd.maxDepth (Token.levelsFrom d none u) (rd.read d P ts) (e, r)

/-- A sequence of operators, a first phrase and a second one takes whole what its phrases take,
and its levels are theirs side by side. -/
theorem LimitedRead.seq {d : Nat} {P P₁ : Phrase} {ts r₁ r : List Token} {a e : Expr}
    (pre : List Token) (P₂ : Expr → Phrase) (hpre : ∀ o ∈ pre, o.kind = .operator)
    (hseq : rd.read d P (pre ++ ts) = rd.read d P₁ ts >>= fun p => rd.read d (P₂ p.1) p.2)
    (h₁ : rd.LimitedRead d P₁ ts r₁ a) (h₂ : rd.LimitedRead d (P₂ a) r₁ r e) :
    rd.LimitedRead d P (pre ++ ts) r e := by
  obtain ⟨u₁, rfl, hw₁, hl₁⟩ := h₁
  obtain ⟨u₂, rfl, hw₂, hl₂⟩ := h₂
  refine ⟨pre ++ (u₁ ++ u₂), by simp, (hw₁.append hw₂).operators_append hpre, ?_⟩
  rw [Token.levelsFrom_operators_append hpre, Token.levelsFrom_append _ hw₂.head, hw₁.balanced,
    Int.add_zero, hseq]
  exact hl₁.bind hl₂

/-- An opening parenthesis, an expression read one level deeper, and its closing parenthesis:
the limit is checked on entering the group, whose level comes before those inside it. -/
theorem limited_enclosed {d : Nat} {o c : Token} {inside r : List Token} {a : Expr}
    (fault : ParseFault) (node : Expr → Expr) (ho : o.isOpen = true) (hc : c.isClose = true)
    (h : rd.LimitedRead (d + 1) .expression inside (c :: r) a) :
    ∃ u, o :: inside = u ++ r ∧ Token.WellNested d u ∧
      Limited rd.maxDepth (Token.levelsFrom d none u)
        (if rd.maxDepth < ((d + 1 : Nat) : Int) then rd.failAt (.tooDeep rd.maxDepth) inside
          else rd.read (d + 1) .expression inside >>= fun p => rd.closing fault (node p.1) p.2)
        (node a, r) := by
  obtain ⟨u, rfl, hw, hl⟩ := h
  have hd : ((d + 1 : Nat) : Int) = (d : Int) + 1 := by omega
  rw [hd] at hw hl
  have hok : rd.closing fault (node a) (c :: r) = .ok (node a, r) := by simp [closing, hc]
  refine ⟨o :: (u ++ [c]), by simp, hw.group ho hc, ?_⟩
  rw [Token.levelsFrom_cons_open ho,
    Token.levelsFrom_append _ (by simp [Token.isClose] at hc ⊢; simp [hc.1]),
    Token.levelsFrom_close hc, List.append_nil]
  exact Limited.enter (by omega) ⟨_, rfl⟩ (hl.bind_ok hok)

/-- Under any limit, a phrase that some limit reads is read the same way exactly while every level
of the tokens read is within the limit, and the reading otherwise stops too deep. -/
theorem read_limited (P : Phrase) (d : Nat) (ts r : List Token) (e : Expr)
    (h : (⟨M', rd.endPos⟩ : Reader).read d P ts = .ok (e, r)) : rd.LimitedRead d P ts r e := by
  match P with
  | .expression =>
    rw [read_expression, bind_eq_ok_iff] at h
    obtain ⟨⟨a, r₁⟩, h₁, h₂⟩ := h
    have hlen := Reader.length_le_of_read _ d h₁
    exact LimitedRead.seq rd [] .moreTerms (fun _ h => nomatch h) (read_expression rd d ts)
      (read_limited .term d ts r₁ a h₁) (read_limited (.moreTerms a) d r₁ r e h₂)
  | .moreTerms left =>
    match ts with
    | [] =>
      rw [read_moreTerms_nil] at h
      cases h
      exact ⟨[], rfl, .nil, by rw [read_moreTerms_nil]; exact Limited.pure _⟩
    | o :: tail =>
      rw [read_moreTerms_cons] at h
      split at h
      next ho =>
        rw [bind_eq_ok_iff] at h
        obtain ⟨⟨b, r₁⟩, h₁, h₂⟩ := h
        have hlen := Reader.length_le_of_read _ d h₁
        have hk := Token.kind_of_isAdditive ho
        exact LimitedRead.seq rd [o] (fun b => .moreTerms (.bin o.text left b))
          (fun _ h => List.eq_of_mem_singleton h ▸ hk)
          (by rw [List.singleton_append, read_moreTerms_cons, if_pos ho])
          (read_limited .term d tail r₁ b h₁)
          (read_limited (.moreTerms (.bin o.text left b)) d r₁ r e h₂)
      next ho =>
        cases h
        exact ⟨[], rfl, .nil, by rw [read_moreTerms_cons, if_neg ho]; exact Limited.pure _⟩
  | .term =>
    rw [read_term, bind_eq_ok_iff] at h
    obtain ⟨⟨a, r₁⟩, h₁, h₂⟩ := h
    have hlen := Reader.length_le_of_read _ d h₁
    exact LimitedRead.seq rd [] .morePowers (fun _ h => nomatch h) (read_term rd d ts)
      (read_limited .power d ts r₁ a h₁) (read_limited (.morePowers a) d r₁ r e h₂)
  | .morePowers left =>
    match ts with
    | [] =>
      rw [read_morePowers_nil] at h
      cases h
      exact ⟨[], rfl, .nil, by rw [read_morePowers_nil]; exact Limited.pure _⟩
    | o :: tail =>
      rw [read_morePowers_cons] at h
      split at h
      next ho =>
        rw [bind_eq_ok_iff] at h
        obtain ⟨⟨b, r₁⟩, h₁, h₂⟩ := h
        have hlen := Reader.length_le_of_read _ d h₁
        have hk := Token.kind_of_isMultiplicative ho
        exact LimitedRead.seq rd [o] (fun b => .morePowers (.bin o.text left b))
          (fun _ h => List.eq_of_mem_singleton h ▸ hk)
          (by rw [List.singleton_append, read_morePowers_cons, if_pos ho])
          (read_limited .power d tail r₁ b h₁)
          (read_limited (.morePowers (.bin o.text left b)) d r₁ r e h₂)
      next ho =>
        cases h
        exact ⟨[], rfl, .nil, by rw [read_morePowers_cons, if_neg ho]; exact Limited.pure _⟩
  | .power =>
    rw [read_power, bind_eq_ok_iff] at h
    obtain ⟨⟨a, r₁⟩, h₁, h₂⟩ := h
    have hlen := Reader.length_le_of_read _ d h₁
    exact LimitedRead.seq rd [] .exponent (fun _ h => nomatch h) (read_power rd d ts)
      (read_limited .factor d ts r₁ a h₁) (read_limited (.exponent a) d r₁ r e h₂)
  | .exponent base =>
    match ts with
    | [] =>
      rw [read_exponent_nil] at h
      cases h
      exact ⟨[], rfl, .nil, by rw [read_exponent_nil]; exact Limited.pure _⟩
    | o :: tail =>
      rw [read_exponent_cons] at h
      split at h
      next hk =>
        cases hf : (⟨M', rd.endPos⟩ : Reader).read d .factor tail with
        | error err => rw [hf] at h; cases h
        | ok q =>
          rw [hf] at h
          cases h
          obtain ⟨u₁, rfl, hw₁, hl₁⟩ := read_limited .factor d tail q.2 q.1 hf
          have hk' : o.kind = .power := by simpa using hk
          refine ⟨o :: u₁, rfl, hw₁.cons_of_kind (.inr (.inl hk')), ?_⟩
          rw [Token.levelsFrom_cons_of_kind (.inr (.inl hk')), read_exponent_cons, if_pos hk]
          exact hl₁.map
      next hk =>
        cases h
        exact ⟨[], rfl, .nil, by rw [read_exponent_cons, if_neg hk]; exact Limited.pure _⟩
  | .factor =>
    match ts with
    | [] =>
      rw [read_factor_nil] at h
      cases h
    | t :: rest =>
      rw [read_factor_cons] at h
      split at h
      next hn =>
        obtain ⟨bs, rfl, hbs, -, hl⟩ := rd.readBangs_limited d _ 0 rest r e h
        have hn' : t.kind = .number := by simpa using hn
        refine ⟨t :: bs, rfl, .number hn' hbs, ?_⟩
        rw [Token.levelsFrom_cons_number hn', read_factor_cons, if_pos hn]
        exact hl
      next hn =>
      split at h
      next hf =>
        -- a call: the function name before a group holding its argument
        match hrest : rest with
        | [] => cases h
        | o :: inside =>
          have hlen : rest.length = inside.length + 1 := by rw [hrest]; rfl
          simp only at h
          split at h
          next ho =>
            split at h
            · cases h
            next hm =>
              rw [bind_eq_ok_iff] at h
              obtain ⟨⟨a, r₁⟩, h₁, h₂⟩ := h
              obtain ⟨c, rfl, hc, rfl⟩ := Reader.eq_of_closing _ h₂
              obtain ⟨u, hu, hw, hl⟩ := limited_enclosed rd .missingClose (Expr.call t.text) ho hc
                (read_limited .expression (d + 1) inside (c :: r) a h₁)
              have hf' : t.kind = .function := by simpa using hf
              refine ⟨t :: u, by rw [hu]; rfl, hw.cons_of_kind (.inr (.inr hf')), ?_⟩
              rw [Token.levelsFrom_cons_of_kind (.inr (.inr hf')), read_factor_cons, if_neg hn,
                if_pos hf]
              simp only [if_pos ho]
              exact hl
          · cases h
      next hf =>
      split at h
      next ho =>
        split at h
        · cases h
        next hm =>
          rw [bind_eq_ok_iff] at h
          obtain ⟨⟨a, r₁⟩, h₁, h₂⟩ := h
          obtain ⟨c, rfl, hc, rfl⟩ := Reader.eq_of_closing _ h₂
          obtain ⟨u, hu, hw, hl⟩ := limited_enclosed rd .unclosedGroup id ho hc
            (read_limited .expression (d + 1) rest (c :: r) e h₁)
          refine ⟨u, hu, hw, ?_⟩
          rw [read_factor_cons, if_neg hn, if_neg hf, if_pos ho]
          exact hl
      · cases h
termination_by 8 * ts.length + P.rank
decreasing_by all_goals simp only [Phrase.rank, List.length_cons]; omega

end Reader

/-- Reading a whole token list is reading an expression and finding nothing left. -/
theorem Expr.parse_eq_read (maxDepth : Int) (ts : List Token) :
    Expr.parse maxDepth ts =
      (⟨maxDepth, endPosition ts⟩ : Reader).read 0 .expression ts >>= fun p =>
        match p.2 with
        | [] => .ok p.1
        | t :: _ => .error ⟨.trailing t.text, t.pos⟩ := by
  rw [Expr.parse]
  simp only [Reader.read, Reader.forget]
  cases (⟨maxDepth, endPosition ts⟩ : Reader).expression 0 ts with
  | error err => rfl
  | ok p =>
    obtain ⟨e, r, hr⟩ := p
    cases r <;> rfl

/-- A token list that some limit reads is read under a limit exactly when all its levels are
within it. -/
theorem Expr.parse_eq_ok_iff_levels {ts : List Token} {M M' : Int} {e : Expr}
    (h : Expr.parse M' ts = .ok e) :
    Expr.parse M ts = .ok e ↔ ∀ l ∈ Token.levels ts, l ≤ M := by
  rw [Expr.parse_eq_ok_iff_read] at h
  obtain ⟨u, hts, -, hl⟩ :=
    Reader.read_limited (⟨M, endPosition ts⟩ : Reader) .expression 0 ts [] e h
  rw [List.append_nil] at hts
  subst hts
  rw [Expr.parse_eq_ok_iff_read]
  constructor
  · intro hread l hmem
    refine Int.not_lt.mp fun hlt => ?_
    obtain ⟨p, hp⟩ := hl.deep ⟨l, hmem, hlt⟩
    rw [hread] at hp
    cases hp
  · exact hl.ok

/-- The tokens of a list that some limit reads nest properly. -/
theorem Expr.wellNested_of_parse {ts : List Token} {M : Int} {e : Expr}
    (h : Expr.parse M ts = .ok e) : Token.WellNested 0 ts := by
  rw [Expr.parse_eq_ok_iff_read] at h
  obtain ⟨u, hts, hw, -⟩ :=
    Reader.read_limited (⟨M, endPosition ts⟩ : Reader) .expression 0 ts [] e h
  rw [List.append_nil] at hts
  subst hts
  exact hw

/-- Under a limit of zero or less, a list that some limit reads is read exactly when it has no
opening parenthesis and no factorial sign: every level of a readable list is at least one. -/
theorem Expr.parse_eq_ok_iff_flat {ts : List Token} {M M' : Int} {e : Expr} (hM : M ≤ 0)
    (h : Expr.parse M' ts = .ok e) :
    Expr.parse M ts = .ok e ↔ ∀ t ∈ ts, t.isOpen = false ∧ t.kind ≠ .factorial := by
  have hw := Expr.wellNested_of_parse h
  have hflat : (∀ t ∈ ts, t.isOpen = false ∧ t.kind ≠ .factorial) ↔ Token.levels ts = [] := by
    rw [← List.length_eq_zero_iff, Token.levels, hw.count, List.countP_eq_zero]
    simp [Token.hasLevel]
  rw [Expr.parse_eq_ok_iff_levels h, hflat]
  constructor
  · intro hle
    apply List.eq_nil_iff_forall_not_mem.mpr
    intro l hl
    have := hw.deeper l hl
    have := hle l hl
    omega
  · intro hnil l hl
    rw [hnil] at hl
    cases hl

/-- The nesting limit decides only which readable token lists are read. A list is read under a
limit exactly when it is read under a limit as large as its length and each of its levels (of its
opening parentheses, and of the factorial signs after its numbers) is within the limit; a reading
that fails for another reason than the nesting fails the same way under any larger limit. Under a
limit of zero or less, the lists read are those without parentheses and factorial signs. -/
theorem Expr.parse_limit_iff_levels (ts : List Token) {m m' : Int} (hm : m ≤ m') :
    (∀ e, Expr.parse m ts = .ok e ↔
      Expr.parse ts.length ts = .ok e ∧ ∀ l ∈ Token.levels ts, l ≤ m) ∧
    (m ≤ 0 → ∀ e, Expr.parse m ts = .ok e ↔
      Expr.parse ts.length ts = .ok e ∧ ∀ t ∈ ts, t.isOpen = false ∧ t.kind ≠ .factorial) ∧
    (∀ err, Expr.parse m ts = .error err → err.fault ≠ .tooDeep m →
      Expr.parse m' ts = .error err) := by
  -- every level of a list is within its length, so that limit reads whatever some limit reads
  have hlength : ∀ e, Expr.parse m ts = .ok e → Expr.parse ts.length ts = .ok e := fun e h =>
    (Expr.parse_eq_ok_iff_levels h).mpr (Token.levels_le_length ts)
  refine ⟨fun e => ?_, fun hm0 e => ?_, fun err h hfault => ?_⟩
  · constructor
    · intro h
      exact ⟨hlength e h, (Expr.parse_eq_ok_iff_levels h).mp h⟩
    · rintro ⟨h, hl⟩
      exact (Expr.parse_eq_ok_iff_levels h).mpr hl
  · constructor
    · intro h
      exact ⟨hlength e h, (Expr.parse_eq_ok_iff_flat hm0 h).mp h⟩
    · rintro ⟨h, hflat⟩
      exact (Expr.parse_eq_ok_iff_flat hm0 h).mpr hflat
  · rcases Reader.read_same_or_tooDeep (⟨m, endPosition ts⟩ : Reader) hm .expression 0 ts with
      hsame | ⟨p, hdeep⟩
    · rw [Expr.parse_eq_read, hsame] at h
      rw [Expr.parse_eq_read]
      exact h
    · rw [Expr.parse_eq_read, hdeep] at h
      cases h
      exact absurd rfl hfault

/-- The group `(2)`, one level deep, under the limits zero and one. -/
theorem parse_limit_iff_levels_group :
    (0 : Int) ≤ 1 ∧
      (∀ e, Expr.parse 0 [⟨.parenthesis, "(", 0⟩, ⟨.number, "2", 1⟩, ⟨.parenthesis, ")", 2⟩] = .ok e ↔
        Expr.parse 3 [⟨.parenthesis, "(", 0⟩, ⟨.number, "2", 1⟩, ⟨.parenthesis, ")", 2⟩] = .ok e ∧
          ∀ l ∈ Token.levels [⟨.parenthesis, "(", 0⟩, ⟨.number, "2", 1⟩, ⟨.parenthesis, ")", 2⟩],
            l ≤ 0) ∧
      ((0 : Int) ≤ 0 → ∀ e,
        Expr.parse 0 [⟨.parenthesis, "(", 0⟩, ⟨.number, "2", 1⟩, ⟨.parenthesis, ")", 2⟩] = .ok e ↔
          Expr.parse 3 [⟨.parenthesis, "(", 0⟩, ⟨.number, "2", 1⟩, ⟨.parenthesis, ")", 2⟩] = .ok e ∧
            ∀ t ∈ ([⟨.parenthesis, "(", 0⟩, ⟨.number, "2", 1⟩, ⟨.parenthesis, ")", 2⟩] : List Token),
              t.isOpen = false ∧ t.kind ≠ .factorial) ∧
      (∀ err, Expr.parse 0 [⟨.parenthesis, "(", 0⟩, ⟨.number, "2", 1⟩, ⟨.parenthesis, ")", 2⟩] =
          .error err → err.fault ≠ .tooDeep 0 →
        Expr.parse 1 [⟨.parenthesis, "(", 0⟩, ⟨.number, "2", 1⟩, ⟨.parenthesis, ")", 2⟩] =
          .error err) :=
  ⟨by decide, Expr.parse_limit_iff_levels _ (by decide)⟩

end Calculator

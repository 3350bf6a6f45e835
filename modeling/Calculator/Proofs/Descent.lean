import Calculator.Proofs.Grammar

/-!
The reading rules, one equation for each, stated in a view that forgets the proof that a rule
never leaves more tokens than it was given. `Reader.read P` is the rule for the phrase `P`;
the optional exponent of a power has no rule of its own in the reader and is spelled out here.
Later proofs rewrite with these equations and never unfold the rules themselves.
-/

namespace Calculator

namespace Reader

variable (rd : Reader) (d : Nat)

/-- A rule's answer without the bound on what it leaves. -/
def forget {ts : List Token} (x : Except ParseError (Expr × Rest ts)) :
    Except ParseError (Expr × List Token) :=
  x.map fun p => (p.1, p.2.1)

theorem forget_bind {ts : List Token} {α : Type} (x : Except ParseError α)
    (f : α → Except ParseError (Expr × Rest ts)) :
    forget (x >>= f) = x >>= fun a => forget (f a) := by
  cases x <;> rfl

theorem bind_forget {ts : List Token} {β : Type} (x : Except ParseError (Expr × Rest ts))
    (g : Expr × List Token → Except ParseError β) :
    forget x >>= g = x >>= fun p => g (p.1, p.2.1) := by
  cases x <;> rfl

/-- A computation followed by another succeeds when both do, one after the other. -/
theorem bind_eq_ok_iff {α β : Type} {x : Except ParseError α} {f : α → Except ParseError β}
    {b : β} : x >>= f = .ok b ↔ ∃ a, x = .ok a ∧ f a = .ok b := by
  cases x with
  | error err =>
    constructor
    · intro h
      cases h
    · rintro ⟨_, h, _⟩
      cases h
  | ok a =>
    constructor
    · intro h
      exact ⟨a, rfl, h⟩
    · rintro ⟨_, h, hf⟩
      cases h
      exact hf

/-- What a rule leaves is never longer than what it was given. -/
theorem length_le_of_forget {ts : List Token} {x : Except ParseError (Expr × Rest ts)}
    {e : Expr} {r : List Token} (h : forget x = .ok (e, r)) : r.length ≤ ts.length := by
  cases x with
  | error err => cases h
  | ok p =>
    cases h
    exact p.2.2

/-- The factorial signs after a number, without the bound on what is left. -/
def readBangs (node : Expr) (applied : Nat) (ts : List Token) :
    Except ParseError (Expr × List Token) :=
  forget (rd.bangs d node applied ts)

/-- The rule for each phrase. -/
def read : Phrase → List Token → Except ParseError (Expr × List Token)
  | .expression, ts => forget (rd.expression d ts)
  | .moreTerms left, ts => forget (rd.expressionTail d left ts)
  | .term, ts => forget (rd.term d ts)
  | .morePowers left, ts => forget (rd.termTail d left ts)
  | .power, ts => forget (rd.power d ts)
  | .exponent base, t :: rest =>
    if t.kind == .power then (forget (rd.factor d rest)).map fun q => (.bin "^" base q.1, q.2)
    else .ok (base, t :: rest)
  | .exponent base, [] => .ok (base, [])
  | .factor, ts => forget (rd.factor d ts)

/-- The closing parenthesis of a group or a call, or the fault when it is missing. -/
def closing (fault : ParseFault) (e : Expr) : List Token → Except ParseError (Expr × List Token)
  | c :: after => if c.isClose then .ok (e, after) else rd.failAt fault (c :: after)
  | [] => rd.failAt fault []

/-- A rule that succeeds leaves a part of what it was given. -/
theorem length_le_of_read {P : Phrase} {ts r : List Token} {e : Expr}
    (h : rd.read d P ts = .ok (e, r)) : r.length ≤ ts.length := by
  cases P with
  | exponent base =>
    cases ts with
    | nil => cases h; exact Nat.le_refl _
    | cons t rest =>
      simp only [read] at h
      split at h
      · cases hf : forget (rd.factor d rest) with
        | error err => rw [hf] at h; cases h
        | ok q =>
          rw [hf] at h
          cases h
          have := length_le_of_forget hf
          simp only [List.length_cons]
          omega
      · cases h
        exact Nat.le_refl _
  | _ => exact length_le_of_forget h

theorem read_expression (ts : List Token) :
    rd.read d .expression ts =
      rd.read d .term ts >>= fun p => rd.read d (.moreTerms p.1) p.2 := by
  simp only [read]
  rw [Reader.expression, forget_bind, bind_forget]
  congr 1
  funext p
  obtain ⟨a, r⟩ := p
  rw [forget_bind]
  dsimp only
  cases rd.expressionTail d a r.1 <;> rfl

@[simp] theorem read_moreTerms_nil (left : Expr) :
    rd.read d (.moreTerms left) [] = .ok (left, []) := by
  simp only [read]
  rw [Reader.expressionTail]
  rfl

theorem read_moreTerms_cons (left : Expr) (t : Token) (ts : List Token) :
    rd.read d (.moreTerms left) (t :: ts) =
      if t.isAdditive then
        rd.read d .term ts >>= fun p => rd.read d (.moreTerms (.bin t.text left p.1)) p.2
      else .ok (left, t :: ts) := by
  simp only [read]
  rw [Reader.expressionTail]
  split
  · rw [forget_bind, bind_forget]
    congr 1
    funext p
    obtain ⟨b, r⟩ := p
    rw [forget_bind]
    dsimp only
    cases rd.expressionTail d _ r.1 <;> rfl
  · rfl

theorem read_term (ts : List Token) :
    rd.read d .term ts = rd.read d .power ts >>= fun p => rd.read d (.morePowers p.1) p.2 := by
  simp only [read]
  rw [Reader.term, forget_bind, bind_forget]
  congr 1
  funext p
  obtain ⟨a, r⟩ := p
  rw [forget_bind]
  dsimp only
  cases rd.termTail d a r.1 <;> rfl

@[simp] theorem read_morePowers_nil (left : Expr) :
    rd.read d (.morePowers left) [] = .ok (left, []) := by
  simp only [read]
  rw [Reader.termTail]
  rfl

theorem read_morePowers_cons (left : Expr) (t : Token) (ts : List Token) :
    rd.read d (.morePowers left) (t :: ts) =
      if t.isMultiplicative then
        rd.read d .power ts >>= fun p => rd.read d (.morePowers (.bin t.text left p.1)) p.2
      else .ok (left, t :: ts) := by
  simp only [read]
  rw [Reader.termTail]
  split
  · rw [forget_bind, bind_forget]
    congr 1
    funext p
    obtain ⟨b, r⟩ := p
    rw [forget_bind]
    dsimp only
    cases rd.termTail d _ r.1 <;> rfl
  · rfl

theorem read_power (ts : List Token) :
    rd.read d .power ts = rd.read d .factor ts >>= fun p => rd.read d (.exponent p.1) p.2 := by
  show forget (rd.power d ts) = forget (rd.factor d ts) >>= _
  rw [Reader.power, forget_bind, bind_forget]
  congr 1
  funext p
  obtain ⟨a, r, hr⟩ := p
  -- the reader matches on the tokens left by the base, and so does the exponent
  cases r with
  | nil => rfl
  | cons t rest =>
    show forget (if _ then _ else _) = rd.read d (.exponent a) (t :: rest)
    simp only [read]
    split
    · rw [forget_bind]
      cases rd.factor d rest <;> rfl
    · rfl

@[simp] theorem readBangs_nil (node : Expr) (k : Nat) :
    rd.readBangs d node k [] = .ok (node, []) := by
  simp only [readBangs]
  rw [Reader.bangs]
  rfl

theorem readBangs_cons (node : Expr) (k : Nat) (t : Token) (ts : List Token) :
    rd.readBangs d node k (t :: ts) =
      if t.kind == .factorial then
        if rd.maxDepth ≤ ((d + k : Nat) : Int) then .error ⟨.tooDeep rd.maxDepth, t.pos⟩
        else rd.readBangs d (.post "!" node) (k + 1) ts
      else .ok (node, t :: ts) := by
  simp only [readBangs]
  rw [Reader.bangs]
  split
  · split
    · rfl
    · rw [forget_bind]
      dsimp only
      cases rd.bangs d _ (k + 1) ts <;> rfl
  · rfl

/-- Each round of the factorial signs after a number reads one sign and puts one factorial
around the tree: the tree takes as many factorials as the signs read. -/
theorem readBangs_rounds {node e : Expr} {k : Nat} {ts r : List Token}
    (h : rd.readBangs d node k ts = .ok (e, r)) :
    ∃ bs, ts = bs ++ r ∧ (∀ b ∈ bs, b.kind = .factorial) ∧ e = Expr.bangs bs.length node := by
  induction ts generalizing node k with
  | nil =>
    rw [readBangs_nil] at h
    cases h
    exact ⟨[], rfl, by simp, rfl⟩
  | cons t ts ih =>
    rw [readBangs_cons] at h
    split at h
    next hk =>
      split at h
      · cases h
      · obtain ⟨bs, rfl, hb, rfl⟩ := ih h
        refine ⟨t :: bs, rfl, ?_, by rw [List.length_cons, Expr.bangs_succ']⟩
        intro b hb'
        rcases List.mem_cons.mp hb' with rfl | hb'
        · simpa using hk
        · exact hb b hb'
    · cases h
      exact ⟨[], rfl, by simp, rfl⟩

@[simp] theorem read_factor_nil : rd.read d .factor [] = .error ⟨.endOfInput, rd.endPos⟩ := by
  simp only [read]
  rw [Reader.factor]
  rfl

/-- The rule for a factor, by its first token: a number, a function name, an opening
parenthesis, or anything else, which fails. -/
theorem read_factor_cons (t : Token) (rest : List Token) :
    rd.read d .factor (t :: rest) =
      if t.kind == .number then rd.readBangs d (.num t.text) 0 rest
      else if t.kind == .function then
        match rest with
        | o :: inside =>
          if o.isOpen then
            if rd.maxDepth < ((d + 1 : Nat) : Int) then rd.failAt (.tooDeep rd.maxDepth) inside
            else rd.read (d + 1) .expression inside >>= fun p =>
              rd.closing .missingClose (.call t.text p.1) p.2
          else rd.failAt (.missingOpen t.text) (o :: inside)
        | [] => rd.failAt (.missingOpen t.text) []
      else if t.isOpen then
        if rd.maxDepth < ((d + 1 : Nat) : Int) then rd.failAt (.tooDeep rd.maxDepth) rest
        else rd.read (d + 1) .expression rest >>= fun p => rd.closing .unclosedGroup p.1 p.2
      else .error ⟨.unexpected t.text, t.pos⟩ := by
  simp only [read, readBangs]
  rw [Reader.factor.eq_def]
  simp only
  by_cases hn : (t.kind == .number) = true
  · rw [if_pos hn, if_pos hn, forget_bind]
    show _ = forget (rd.bangs d _ 0 rest)
    cases rd.bangs d _ 0 rest <;> rfl
  rw [if_neg hn, if_neg hn]
  by_cases hf : (t.kind == .function) = true
  · rw [if_pos hf, if_pos hf]
    cases rest with
    | nil => rfl
    | cons o inside =>
      simp only
      by_cases ho : o.isOpen = true
      · rw [if_pos ho, if_pos ho]
        by_cases hm : rd.maxDepth < ((d + 1 : Nat) : Int)
        · rw [if_pos hm, if_pos hm]
          rfl
        · rw [if_neg hm, if_neg hm, forget_bind, bind_forget]
          congr 1
          funext p
          obtain ⟨a, r, hr⟩ := p
          -- the argument is followed by its closing parenthesis or by the fault
          cases r with
          | nil => rfl
          | cons c after =>
            show forget (if _ then _ else _) = _
            simp only [closing]
            split <;> rfl
      · rw [if_neg ho, if_neg ho]
        rfl
  rw [if_neg hf, if_neg hf]
  by_cases ho : t.isOpen = true
  · rw [if_pos ho, if_pos ho]
    by_cases hm : rd.maxDepth < ((d + 1 : Nat) : Int)
    · rw [if_pos hm, if_pos hm]
      rfl
    · rw [if_neg hm, if_neg hm, forget_bind, bind_forget]
      congr 1
      funext p
      obtain ⟨a, r, hr⟩ := p
      cases r with
      | nil => rfl
      | cons c after =>
        show forget (if _ then _ else _) = _
        simp only [closing]
        split <;> rfl
  · rw [if_neg ho, if_neg ho]
    rfl

theorem read_exponent_cons (base : Expr) (t : Token) (ts : List Token) :
    rd.read d (.exponent base) (t :: ts) =
      if t.kind == .power then (rd.read d .factor ts).map fun q => (.bin "^" base q.1, q.2)
      else .ok (base, t :: ts) := rfl

@[simp] theorem read_exponent_nil (base : Expr) :
    rd.read d (.exponent base) [] = .ok (base, []) := rfl

/-- A closing parenthesis that is read leaves what follows it. -/
theorem eq_of_closing {fault : ParseFault} {e e' : Expr} {r r' : List Token}
    (h : rd.closing fault e r = .ok (e', r')) :
    ∃ c, r = c :: r' ∧ c.isClose = true ∧ e' = e := by
  cases r with
  | nil => cases h
  | cons c after =>
    simp only [closing] at h
    split at h
    · cases h
      exact ⟨c, rfl, ‹_›, rfl⟩
    · cases h

end Reader

end Calculator

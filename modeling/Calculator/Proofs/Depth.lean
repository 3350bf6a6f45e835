import Mathlib.Logic.Relation
import Calculator.Proofs.Nesting

/-!
The depth a reading rule is given counts the groups open before it. A rule is entered at a
depth on the tokens still to read; `Reader.Enters` lists the rules a rule enters, at which depth
and on which tokens, as the reader's rules call each other. Entering a group or a function's
argument raises the depth by one just after its opening parenthesis is read, and every rule
that returns a tree has read tokens that close every group they open, so the depth is the same
when the rule returns as when it was entered.

So in every run of the reader, at every rule entered and at every return, the depth is the
number of opening parentheses read minus the number of closing ones.

`Reader.Enters` is tied to the reader by `Reader.read_eq_unfold`: the reading at an entry is one
step of its rule (`Reader.unfold`) over the readings at the entries it enters, and at no others.

Main statement: `Reader.depth_eq_openCount`.
-/

namespace Calculator

open Token

/-- A reading rule entered at a depth on the tokens still to read. -/
structure Entry where
  phrase : Phrase
  depth : Nat
  tokens : List Token

namespace Reader

variable (rd : Reader)

/-- `rd.Enters c c'`: the rule entered at `c` enters the rule at `c'`. An expression reads a
term, then the terms after `+` and `-` one by one; a term does the same with powers and `*`, `/`;
a power reads a factor and, after a power sign, a second one; a factor enters an expression
inside a group or a function's parentheses, one level deeper, unless that passes the limit. -/
inductive Enters : Entry → Entry → Prop where
  | expressionTerm {d ts} : Enters ⟨.expression, d, ts⟩ ⟨.term, d, ts⟩
  | expressionMore {d ts a r} : rd.read d .term ts = .ok (a, r) →
      Enters ⟨.expression, d, ts⟩ ⟨.moreTerms a, d, r⟩
  | moreTermsTerm {d left o ts} : o.isAdditive = true →
      Enters ⟨.moreTerms left, d, o :: ts⟩ ⟨.term, d, ts⟩
  | moreTermsMore {d left o ts b r} : o.isAdditive = true → rd.read d .term ts = .ok (b, r) →
      Enters ⟨.moreTerms left, d, o :: ts⟩ ⟨.moreTerms (.bin o.text left b), d, r⟩
  | termPower {d ts} : Enters ⟨.term, d, ts⟩ ⟨.power, d, ts⟩
  | termMore {d ts a r} : rd.read d .power ts = .ok (a, r) →
      Enters ⟨.term, d, ts⟩ ⟨.morePowers a, d, r⟩
  | morePowersPower {d left o ts} : o.isMultiplicative = true →
      Enters ⟨.morePowers left, d, o :: ts⟩ ⟨.power, d, ts⟩
  | morePowersMore {d left o ts b r} : o.isMultiplicative = true →
      rd.read d .power ts = .ok (b, r) →
      Enters ⟨.morePowers left, d, o :: ts⟩ ⟨.morePowers (.bin o.text left b), d, r⟩
  | powerBase {d ts} : Enters ⟨.power, d, ts⟩ ⟨.factor, d, ts⟩
  | powerExponent {d ts a o r} : rd.read d .factor ts = .ok (a, o :: r) → o.kind = .power →
      Enters ⟨.power, d, ts⟩ ⟨.factor, d, r⟩
  | factorArgument {d f o ts} : f.kind = .function → o.isOpen = true →
      ¬ rd.maxDepth < ((d + 1 : Nat) : Int) →
      Enters ⟨.factor, d, f :: o :: ts⟩ ⟨.expression, d + 1, ts⟩
  | factorGroup {d o ts} : o.isOpen = true → ¬ rd.maxDepth < ((d + 1 : Nat) : Int) →
      Enters ⟨.factor, d, o :: ts⟩ ⟨.expression, d + 1, ts⟩

/-- One step of the reader at an entry: the rule of the entry's phrase, with the reading of each
phrase it enters taken from `k`. The factorial signs after a number are read by their own loop,
and a power reads its exponent's factor itself, as `Enters` has them. -/
def unfold (k : Entry → Except ParseError (Expr × List Token)) :
    Entry → Except ParseError (Expr × List Token)
  | ⟨.expression, d, ts⟩ => k ⟨.term, d, ts⟩ >>= fun p => k ⟨.moreTerms p.1, d, p.2⟩
  | ⟨.moreTerms left, d, o :: ts⟩ =>
    if o.isAdditive then
      k ⟨.term, d, ts⟩ >>= fun p => k ⟨.moreTerms (.bin o.text left p.1), d, p.2⟩
    else .ok (left, o :: ts)
  | ⟨.moreTerms left, _, []⟩ => .ok (left, [])
  | ⟨.term, d, ts⟩ => k ⟨.power, d, ts⟩ >>= fun p => k ⟨.morePowers p.1, d, p.2⟩
  | ⟨.morePowers left, d, o :: ts⟩ =>
    if o.isMultiplicative then
      k ⟨.power, d, ts⟩ >>= fun p => k ⟨.morePowers (.bin o.text left p.1), d, p.2⟩
    else .ok (left, o :: ts)
  | ⟨.morePowers left, _, []⟩ => .ok (left, [])
  | ⟨.power, d, ts⟩ =>
    k ⟨.factor, d, ts⟩ >>= fun p =>
      match p.2 with
      | o :: r =>
        if o.kind == .power then (k ⟨.factor, d, r⟩).map fun q => (.bin "^" p.1 q.1, q.2)
        else .ok p
      | [] => .ok p
  | ⟨.exponent base, d, o :: r⟩ =>
    if o.kind == .power then (k ⟨.factor, d, r⟩).map fun q => (.bin "^" base q.1, q.2)
    else .ok (base, o :: r)
  | ⟨.exponent base, _, []⟩ => .ok (base, [])
  | ⟨.factor, _, []⟩ => rd.failAt .endOfInput []
  | ⟨.factor, d, t :: rest⟩ =>
    if t.kind == .number then rd.readBangs d (.num t.text) 0 rest
    else if t.kind == .function then
      match rest with
      | o :: inside =>
        if o.isOpen then
          if rd.maxDepth < ((d + 1 : Nat) : Int) then rd.failAt (.tooDeep rd.maxDepth) inside
          else k ⟨.expression, d + 1, inside⟩ >>= fun p =>
            rd.closing .missingClose (.call t.text p.1) p.2
        else rd.failAt (.missingOpen t.text) (o :: inside)
      | [] => rd.failAt (.missingOpen t.text) []
    else if t.isOpen then
      if rd.maxDepth < ((d + 1 : Nat) : Int) then rd.failAt (.tooDeep rd.maxDepth) rest
      else k ⟨.expression, d + 1, rest⟩ >>= fun p => rd.closing .unclosedGroup p.1 p.2
    else .error ⟨.unexpected t.text, t.pos⟩

/-- A computation followed by either of two continuations that agree on its answers. -/
theorem bind_congr_of_ok {α β : Type} {x : Except ParseError α}
    {f g : α → Except ParseError β} (h : ∀ a, x = .ok a → f a = g a) : x >>= f = x >>= g := by
  cases x with
  | error err => rfl
  | ok a => exact h a rfl

/-- The reader's rules enter each other along `Enters` and nowhere else: the reading at an entry
is one step of its rule over any readings that agree with the reader's at the entries it enters.
An exponent is no entry of its own, its power reads it. -/
theorem read_eq_unfold {c : Entry} (hc : ∀ base, c.phrase ≠ .exponent base)
    {k : Entry → Except ParseError (Expr × List Token)}
    (hk : ∀ c', rd.Enters c c' → k c' = rd.read c'.depth c'.phrase c'.tokens) :
    rd.read c.depth c.phrase c.tokens = rd.unfold k c := by
  obtain ⟨P, d, ts⟩ := c
  cases P with
  | expression =>
    rw [read_expression, unfold, hk _ .expressionTerm]
    exact bind_congr_of_ok fun p hp => (hk _ (.expressionMore hp)).symm
  | moreTerms left =>
    cases ts with
    | nil => rw [read_moreTerms_nil, unfold]
    | cons o tail =>
      rw [read_moreTerms_cons, unfold]
      split
      next ho =>
        rw [hk _ (.moreTermsTerm ho)]
        exact bind_congr_of_ok fun p hp => (hk _ (.moreTermsMore ho hp)).symm
      · rfl
  | term =>
    rw [read_term, unfold, hk _ .termPower]
    exact bind_congr_of_ok fun p hp => (hk _ (.termMore hp)).symm
  | morePowers left =>
    cases ts with
    | nil => rw [read_morePowers_nil, unfold]
    | cons o tail =>
      rw [read_morePowers_cons, unfold]
      split
      next ho =>
        rw [hk _ (.morePowersPower ho)]
        exact bind_congr_of_ok fun p hp => (hk _ (.morePowersMore ho hp)).symm
      · rfl
  | power =>
    rw [read_power, unfold, hk _ .powerBase]
    refine bind_congr_of_ok fun p hp => ?_
    obtain ⟨a, r⟩ := p
    -- the exponent, when a power sign follows the base, is the power's second factor
    cases r with
    | nil => rfl
    | cons o r =>
      rw [read_exponent_cons]
      dsimp only
      split
      next ho => rw [hk _ (.powerExponent hp (by simpa using ho))]
      · rfl
  | exponent base => exact absurd rfl (hc base)
  | factor =>
    cases ts with
    | nil => rw [read_factor_nil, unfold]; rfl
    | cons t rest =>
      rw [read_factor_cons]
      simp only [unfold]
      split
      · rfl
      split
      next hf =>
        -- a function's argument is an expression one level deeper
        cases rest with
        | nil => rfl
        | cons o inside =>
          dsimp only
          split
          next ho =>
            split
            · rfl
            next hm => rw [hk _ (.factorArgument (by simpa using hf) ho hm)]
          · rfl
      split
      next ho =>
        split
        · rfl
        next hm => rw [hk _ (.factorGroup ho hm)]
      · rfl

/-- A reading that, when it returns a tree, has read tokens that close every group they
open. -/
def ReadsBalanced {α : Type} (x : Except ParseError (α × List Token)) (ts : List Token) :
    Prop :=
  ∀ a r, x = .ok (a, r) → ∃ u, ts = u ++ r ∧ openCount u = 0

namespace ReadsBalanced

variable {α β : Type} {ts : List Token}

theorem ok_self (a : α) : ReadsBalanced (.ok (a, ts)) ts := by
  intro a' r h
  cases h
  exact ⟨[], rfl, rfl⟩

theorem error (err : ParseError) : ReadsBalanced (α := α) (.error err) ts := by
  intro a r h
  cases h

theorem failAt (fault : ParseFault) (rest : List Token) :
    ReadsBalanced (α := α) (rd.failAt fault rest) ts :=
  error _

/-- Reading on from where a balanced reading stopped, balanced again. -/
theorem bind {x : Except ParseError (α × List Token)}
    {f : α × List Token → Except ParseError (β × List Token)} (hx : ReadsBalanced x ts)
    (hf : ∀ a r, x = .ok (a, r) → ReadsBalanced (f (a, r)) r) : ReadsBalanced (x >>= f) ts := by
  intro b r h
  obtain ⟨⟨a, r₁⟩, h₁, h₂⟩ := bind_eq_ok_iff.mp h
  obtain ⟨u, rfl, hu⟩ := hx a r₁ h₁
  obtain ⟨v, rfl, hv⟩ := hf a r₁ h₁ b r h₂
  exact ⟨u ++ v, by rw [List.append_assoc], by rw [openCount_append, hu, hv]; rfl⟩

theorem map {x : Except ParseError (α × List Token)} (g : α → β) (hx : ReadsBalanced x ts) :
    ReadsBalanced (x.map fun p => (g p.1, p.2)) ts := by
  intro b r h
  cases x with
  | error err => cases h
  | ok p =>
    obtain ⟨a, r₁⟩ := p
    cases h
    exact hx a r₁ rfl

/-- A token that is no parenthesis read before a balanced reading. -/
theorem cons {x : Except ParseError (α × List Token)} {t : Token} (ht : t.kind ≠ .parenthesis)
    (hx : ReadsBalanced x ts) : ReadsBalanced x (t :: ts) := by
  intro a r h
  obtain ⟨u, rfl, hu⟩ := hx a r h
  exact ⟨t :: u, rfl, by rw [openCount_cons_of_not_paren ht, hu]⟩

/-- An opening parenthesis, a balanced reading, then the closing parenthesis. -/
theorem enclosed {x : Except ParseError (Expr × List Token)} {o : Token} (ho : o.isOpen = true)
    (fault : ParseFault) (g : Expr → Expr) (hx : ReadsBalanced x ts) :
    ReadsBalanced (x >>= fun p => rd.closing fault (g p.1) p.2) (o :: ts) := by
  intro a r h
  obtain ⟨⟨b, r₁⟩, h₁, h₂⟩ := bind_eq_ok_iff.mp h
  obtain ⟨c, rfl, hc, -⟩ := rd.eq_of_closing h₂
  obtain ⟨u, rfl, hu⟩ := hx b (c :: r) h₁
  refine ⟨o :: (u ++ [c]), by simp, ?_⟩
  simp [openCount, openCount_append, hu, ho, hc, isOpen_of_isClose hc]

end ReadsBalanced

/-- The factorial signs after a number open no group. -/
theorem readBangs_balanced (d : Nat) (node : Expr) (k : Nat) (ts : List Token) :
    ReadsBalanced (rd.readBangs d node k ts) ts := by
  induction ts generalizing node k with
  | nil => rw [readBangs_nil]; exact .ok_self _
  | cons t ts ih =>
    rw [readBangs_cons]
    split
    next hk =>
      split
      · exact .error _
      · exact .cons (by simp_all) (ih _ _)
    · exact .ok_self _

/-- Every rule that returns a tree has read tokens that close every group they open. -/
theorem read_balanced (P : Phrase) (d : Nat) (ts : List Token) :
    ReadsBalanced (rd.read d P ts) ts := by
  match P with
  | .expression =>
    rw [read_expression]
    refine (read_balanced .term d ts).bind fun a r h => ?_
    have := rd.length_le_of_read d h
    exact read_balanced (.moreTerms a) d r
  | .moreTerms left =>
    match ts with
    | [] => rw [read_moreTerms_nil]; exact .ok_self _
    | o :: tail =>
      rw [read_moreTerms_cons]
      split
      next ho =>
        refine .cons (by simp [kind_of_isAdditive ho])
          ((read_balanced .term d tail).bind fun b r h => ?_)
        have := rd.length_le_of_read d h
        exact read_balanced (.moreTerms _) d r
      · exact .ok_self _
  | .term =>
    rw [read_term]
    refine (read_balanced .power d ts).bind fun a r h => ?_
    have := rd.length_le_of_read d h
    exact read_balanced (.morePowers a) d r
  | .morePowers left =>
    match ts with
    | [] => rw [read_morePowers_nil]; exact .ok_self _
    | o :: tail =>
      rw [read_morePowers_cons]
      split
      next ho =>
        refine .cons (by simp [kind_of_isMultiplicative ho])
          ((read_balanced .power d tail).bind fun b r h => ?_)
        have := rd.length_le_of_read d h
        exact read_balanced (.morePowers _) d r
      · exact .ok_self _
  | .power =>
    rw [read_power]
    refine (read_balanced .factor d ts).bind fun a r h => ?_
    have := rd.length_le_of_read d h
    exact read_balanced (.exponent a) d r
  | .exponent base =>
    match ts with
    | [] => rw [read_exponent_nil]; exact .ok_self _
    | o :: tail =>
      rw [read_exponent_cons]
      split
      next hk => exact .cons (by simp_all) (.map _ (read_balanced .factor d tail))
      · exact .ok_self _
  | .factor =>
    match ts with
    | [] => rw [read_factor_nil]; exact .error _
    | t :: rest =>
      rw [read_factor_cons]
      split
      next hk => exact .cons (by simp_all) (rd.readBangs_balanced d _ 0 rest)
      split
      next hk =>
        -- a function name, then its argument between parentheses
        match rest with
        | [] => exact .failAt rd _ _
        | o :: inside =>
          simp only
          split
          next ho =>
            split
            · exact .failAt rd _ _
            · exact .cons (by simp_all)
                (.enclosed rd ho _ _ (read_balanced .expression (d + 1) inside))
          · exact .failAt rd _ _
      split
      next ho =>
        split
        · exact .failAt rd _ _
        · exact .enclosed rd ho _ id (read_balanced .expression (d + 1) rest)
      · exact .error _
termination_by 8 * ts.length + P.rank
decreasing_by all_goals simp only [Phrase.rank, List.length_cons] at *; omega

end Reader

namespace Entry

/-- The depth of an entry counts the groups open in the tokens read before it. -/
def Tracks (tokens : List Token) (c : Entry) : Prop :=
  ∃ pre, tokens = pre ++ c.tokens ∧ (c.depth : Int) = openCount pre

/-- Reading the tokens `u` on from an entry whose depth counts the open groups: the depth that
counts them after `u` adds the groups `u` opens. -/
theorem Tracks.advance {tokens u r : List Token} {P : Phrase} {d : Nat}
    (hc : (⟨P, d, u ++ r⟩ : Entry).Tracks tokens) (P' : Phrase) (d' : Nat)
    (hd : (d' : Int) = d + openCount u) : (⟨P', d', r⟩ : Entry).Tracks tokens := by
  obtain ⟨pre, hts, hpre⟩ := hc
  refine ⟨pre ++ u, by rw [hts, List.append_assoc], ?_⟩
  rw [openCount_append, hd, hpre]

end Entry

namespace Reader

variable (rd : Reader)

/-- Each rule enters the next at a depth that counts the groups open, when its own does: an
entry after a group or a function's opening parenthesis is one level deeper, any other one
follows tokens that opened no group or closed all they opened. -/
theorem Enters.tracks {tokens : List Token} {c c' : Entry} (h : rd.Enters c c')
    (hc : c.Tracks tokens) : c'.Tracks tokens := by
  cases h with
  | expressionTerm | termPower | powerBase => exact hc
  | expressionMore hr | termMore hr =>
    obtain ⟨u, rfl, hu⟩ := rd.read_balanced _ _ _ _ _ hr
    exact hc.advance _ _ (by rw [hu]; rfl)
  | @moreTermsTerm d left o ts ho | @morePowersPower d left o ts ho =>
    refine Entry.Tracks.advance (u := [o]) hc _ _ ?_
    rw [openCount_cons_of_not_paren (by simp_all [isAdditive, isMultiplicative])]
    rfl
  | @moreTermsMore d left o ts b r ho hr | @morePowersMore d left o ts b r ho hr =>
    obtain ⟨u, rfl, hu⟩ := rd.read_balanced _ _ _ _ _ hr
    refine Entry.Tracks.advance (u := o :: u) hc _ _ ?_
    rw [openCount_cons_of_not_paren (by simp_all [isAdditive, isMultiplicative]), hu]
    rfl
  | @powerExponent d ts a o r hr hk =>
    obtain ⟨u, rfl, hu⟩ := rd.read_balanced _ _ _ _ _ hr
    rw [show u ++ o :: r = (u ++ [o]) ++ r by simp] at hc
    refine hc.advance _ _ ?_
    rw [openCount_append, hu, openCount_cons_of_not_paren (by simp [hk])]
    rfl
  | @factorArgument d f o ts hf ho _ =>
    refine Entry.Tracks.advance (u := [f, o]) hc _ _ ?_
    rw [openCount_cons_of_not_paren (by simp [hf])]
    simp [openCount, ho]
  | @factorGroup d o ts ho _ =>
    refine Entry.Tracks.advance (u := [o]) hc _ _ ?_
    simp [openCount, ho]

/-- Every rule entered in a reading from the first token, at depth zero, is entered at the
depth that counts the groups open before it. -/
theorem tracks_of_reaches {tokens : List Token} {c : Entry}
    (h : Relation.ReflTransGen rd.Enters ⟨.expression, 0, tokens⟩ c) : c.Tracks tokens := by
  induction h with
  | refl => exact ⟨[], rfl, rfl⟩
  | tail _ step ih => exact step.tracks rd ih

/-- A rule entered at the depth that counts the open groups returns with that depth counting
them still. -/
theorem tracks_of_read {tokens : List Token} {c : Entry} (hc : c.Tracks tokens) {e : Expr}
    {r : List Token} (h : rd.read c.depth c.phrase c.tokens = .ok (e, r)) :
    (⟨c.phrase, c.depth, r⟩ : Entry).Tracks tokens := by
  obtain ⟨P, d, ts⟩ := c
  obtain ⟨u, rfl, hu⟩ := rd.read_balanced _ _ _ _ _ h
  exact hc.advance _ _ (by rw [hu]; rfl)

/-- In every reading of a token list, under any nesting limit: each rule is entered at a depth
that is the number of opening parentheses read before it minus the number of closing ones, and
a rule that returns a tree returns with its depth counting them still, the group it read
closed. -/
theorem depth_eq_openCount (maxDepth : Int) (tokens : List Token) (c : Entry)
    (hc : Relation.ReflTransGen (⟨maxDepth, endPosition tokens⟩ : Reader).Enters
      ⟨.expression, 0, tokens⟩ c) :
    (∃ pre, tokens = pre ++ c.tokens ∧ (c.depth : Int) = openCount pre) ∧
      ∀ e r, (⟨maxDepth, endPosition tokens⟩ : Reader).read c.depth c.phrase c.tokens =
          .ok (e, r) →
        ∃ pre, tokens = pre ++ r ∧ (c.depth : Int) = openCount pre := by
  have htracks := tracks_of_reaches _ hc
  exact ⟨htracks, fun e r h => tracks_of_read _ htracks h⟩

end Reader

/-- In `(1)`, the factor `1` is entered one level deep, after the one opening parenthesis. -/
theorem depth_eq_openCount_group :
    Relation.ReflTransGen
        (⟨5, endPosition [⟨.parenthesis, "(", 0⟩, ⟨.number, "1", 1⟩, ⟨.parenthesis, ")", 2⟩]⟩ :
          Reader).Enters
        ⟨.expression, 0, [⟨.parenthesis, "(", 0⟩, ⟨.number, "1", 1⟩, ⟨.parenthesis, ")", 2⟩]⟩
        ⟨.factor, 1, [⟨.number, "1", 1⟩, ⟨.parenthesis, ")", 2⟩]⟩ ∧
      (∃ pre, [⟨.parenthesis, "(", 0⟩, ⟨.number, "1", 1⟩, ⟨.parenthesis, ")", 2⟩] =
          pre ++ [⟨.number, "1", 1⟩, ⟨.parenthesis, ")", 2⟩] ∧
        (1 : Int) = openCount pre) ∧
      ∀ e r, (⟨5, endPosition [⟨.parenthesis, "(", 0⟩, ⟨.number, "1", 1⟩,
          ⟨.parenthesis, ")", 2⟩]⟩ : Reader).read 1 .factor
            [⟨.number, "1", 1⟩, ⟨.parenthesis, ")", 2⟩] = .ok (e, r) →
        ∃ pre, [⟨.parenthesis, "(", 0⟩, ⟨.number, "1", 1⟩, ⟨.parenthesis, ")", 2⟩] =
          pre ++ r ∧ (1 : Int) = openCount pre := by
  -- expression, term, power and factor at depth zero, then the group's expression down to its
  -- first factor at depth one
  have hreach : Relation.ReflTransGen
      (⟨5, endPosition [⟨.parenthesis, "(", 0⟩, ⟨.number, "1", 1⟩, ⟨.parenthesis, ")", 2⟩]⟩ :
        Reader).Enters
      ⟨.expression, 0, [⟨.parenthesis, "(", 0⟩, ⟨.number, "1", 1⟩, ⟨.parenthesis, ")", 2⟩]⟩
      ⟨.factor, 1, [⟨.number, "1", 1⟩, ⟨.parenthesis, ")", 2⟩]⟩ :=
    .tail (.tail (.tail (.tail (.tail (.tail (.tail .refl .expressionTerm) .termPower)
      .powerBase) (.factorGroup rfl (by decide))) .expressionTerm) .termPower) .powerBase
  exact ⟨hreach, Reader.depth_eq_openCount 5 _ _ hreach⟩

end Calculator

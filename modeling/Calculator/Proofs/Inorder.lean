import Calculator.Proofs.Canonical
import Calculator.Graph

/-!
The nodes of a tree that is read from a source stand in the order of the tokens they were
read from. Listed in order (a binary operation between its operands, a factorial after its
operand, a call before its argument), each node shows the text and kind of one token, and the
tokens they show are the source's tokens less its parentheses, each once and in place. So the
reader loses, repeats and reorders no token, and the kind a graph gives a node is the kind of
its token.

The proof follows a derivation of the grammar: a phrase's tokens, less parentheses, show what
the nodes of its tree show beyond those of the tree it carries in.

Main statement: `Expr.parse_inorder_marks`.
-/

namespace Calculator

namespace Expr

/-- The nodes of a tree in the order of the tokens they are read from. -/
def inorder : Expr → List Expr
  | e@(.num _) => [e]
  | e@(.bin _ l r) => l.inorder ++ e :: r.inorder
  | e@(.post _ x) => x.inorder ++ [e]
  | e@(.call _ x) => e :: x.inorder
  | e@(.stray _) => [e]

/-- What the nodes of a tree show, in order: each node's text and the kind of its token. -/
def marks (e : Expr) : List (String × TokenKind) :=
  e.inorder.map fun n => (n.symbol, n.kind)

@[simp] theorem marks_num (text : String) : (Expr.num text).marks = [(text, .number)] := rfl

theorem marks_bin (op : String) (l r : Expr) :
    (Expr.bin op l r).marks =
      l.marks ++ (op, if op = "^" then .power else .operator) :: r.marks := by
  simp [marks, inorder, symbol, kind]

@[simp] theorem marks_post (op : String) (x : Expr) :
    (Expr.post op x).marks = x.marks ++ [(op, .factorial)] := by
  simp [marks, inorder, symbol, kind]

@[simp] theorem marks_call (name : String) (x : Expr) :
    (Expr.call name x).marks = (name, .function) :: x.marks := by
  simp [marks, inorder, symbol, kind]

/-- A number under `k` factorials shows the number, then `k` factorial signs. -/
theorem marks_bangs (k : Nat) (e : Expr) :
    (Expr.bangs k e).marks = e.marks ++ List.replicate k ("!", .factorial) := by
  induction k with
  | zero => simp [Expr.bangs]
  | succ k ih => rw [Expr.bangs, marks_post, ih, List.replicate_succ', List.append_assoc]

end Expr

namespace Token

/-- What tokens show, in order, once parentheses are left out: each one's text and kind. -/
def marks (ts : List Token) : List (String × TokenKind) :=
  (ts.filter fun t => t.kind != .parenthesis).map fun t => (t.text, t.kind)

@[simp] theorem marks_nil : marks [] = [] := rfl

@[simp] theorem marks_append (us vs : List Token) : marks (us ++ vs) = marks us ++ marks vs := by
  simp [marks]

theorem marks_cons_of_ne {t : Token} (h : t.kind ≠ .parenthesis) (ts : List Token) :
    marks (t :: ts) = (t.text, t.kind) :: marks ts := by
  simp [marks, h]

theorem marks_cons_of_eq {t : Token} (h : t.kind = .parenthesis) (ts : List Token) :
    marks (t :: ts) = marks ts := by
  simp [marks, h]

theorem kind_of_isOpen {t : Token} (h : t.isOpen = true) : t.kind = .parenthesis := by
  simp_all [isOpen]

theorem kind_of_isClose {t : Token} (h : t.isClose = true) : t.kind = .parenthesis := by
  simp_all [isClose]

/-- Factorial signs show as such. -/
theorem marks_of_isBang {bs : List Token} (h : ∀ b ∈ bs, b.isBang = true) :
    marks bs = List.replicate bs.length ("!", .factorial) := by
  induction bs with
  | nil => rfl
  | cons b bs ih =>
    have hb := h b (List.mem_cons_self ..)
    simp only [isBang, Bool.and_eq_true, beq_iff_eq] at hb
    rw [marks_cons_of_ne (by simp [hb.1]), ih (fun b' hb' => h b' (List.mem_cons_of_mem _ hb')),
      hb.1, hb.2]
    rfl

/-- An operator `+`, `-`, `*` or `/` shows as an operator node does. -/
theorem mark_of_operator {o : Token} (hk : o.kind = .operator) (ho : o.text ≠ "^") :
    (o.text, o.kind) = (o.text, if o.text = "^" then TokenKind.power else .operator) := by
  simp [hk, ho]

end Token

/-- The nodes a phrase adds to the tree it carries in show the phrase's tokens, less
parentheses, in order. -/
theorem Derives.marks {P : Phrase} {u : List Token} {e : Expr} {n : Nat}
    (h : Derives P u e n) :
    e.marks = (P.carried.elim [] Expr.marks) ++ Token.marks u := by
  induction h with
  | expression _ _ ihu ihv | term _ _ ihu ihv | power _ _ ihu ihv =>
    simp only [Phrase.carried, Option.elim, List.nil_append] at ihu ihv ⊢
    rw [ihv, ihu, Token.marks_append]
  | moreTermsNil | morePowersNil | exponentNone =>
    simp [Phrase.carried]
  | @moreTermsCons o v w a b e m n ho _ _ ihv ihw
  | @morePowersCons o v w a b e m n ho _ _ ihv ihw =>
    -- the sign is an operator other than the power sign, so its node is an operator node
    simp only [Phrase.carried, Option.elim, List.nil_append] at ihv ihw ⊢
    simp only [Token.isAdditive, Token.isMultiplicative, Bool.and_eq_true, beq_iff_eq,
      Bool.or_eq_true] at ho
    rw [ihw, Expr.marks_bin, ihv, Token.marks_cons_of_ne (by simp [ho.1]), Token.marks_append,
      Token.mark_of_operator ho.1 (by rcases ho.2 with h | h <;> simp [h]), List.append_assoc]
    rfl
  | @exponentSome o v a b n ho _ ih =>
    simp only [Phrase.carried, Option.elim, List.nil_append] at ih ⊢
    simp only [Token.isCaret, Bool.and_eq_true, beq_iff_eq] at ho
    rw [Expr.marks_bin, ih, Token.marks_cons_of_ne (by simp [ho.1]), ho.1, ho.2]
    rfl
  | @number t bs ht hb =>
    simp only [Phrase.carried, Option.elim, List.nil_append]
    rw [Expr.marks_bangs, Expr.marks_num, Token.marks_cons_of_ne (by simp [ht]),
      Token.marks_of_isBang hb, ht]
    rfl
  | @call f o c u e n hf ho _ hc ih =>
    simp only [Phrase.carried, Option.elim, List.nil_append] at ih ⊢
    rw [Expr.marks_call, ih, Token.marks_cons_of_ne (by simp [hf]),
      Token.marks_cons_of_eq (Token.kind_of_isOpen ho), Token.marks_append,
      Token.marks_cons_of_eq (Token.kind_of_isClose hc), Token.marks_nil, List.append_nil, hf]
  | @group o c u e n ho _ hc ih =>
    simp only [Phrase.carried, Option.elim, List.nil_append] at ih ⊢
    rw [ih, Token.marks_cons_of_eq (Token.kind_of_isOpen ho), Token.marks_append,
      Token.marks_cons_of_eq (Token.kind_of_isClose hc), Token.marks_nil, List.append_nil]

/-- Read from a source, a tree's nodes in order show the source's tokens without the
parentheses: each node the text and kind of the token it was read from. -/
theorem Expr.parse_inorder_marks {source : String} {maxDepth : Int} {ts : List Token}
    {t : Expr} (hscan : Token.scan source = .ok ts) (hparse : Expr.parse maxDepth ts = .ok t) :
    t.inorder.map (fun n => (n.symbol, n.kind)) =
      (ts.filter fun tok => tok.kind != .parenthesis).map fun tok => (tok.text, tok.kind) := by
  have hlex := Token.lexical_of_scan hscan
  obtain ⟨n, hd⟩ :=
    Expr.sentence_of_parse hparse (fun t ht => Token.carriesSign_of_lexical (hlex t ht))
  have hmarks := hd.marks
  simp only [Phrase.carried, Option.elim, List.nil_append] at hmarks
  exact hmarks

/-- A computation whose optional result is `a` returned `a`. -/
theorem eq_ok_of_toOption {ε α : Type} {x : Except ε α} {a : α} (h : x.toOption = some a) :
    x = .ok a := by
  cases x with
  | ok b => exact congrArg Except.ok (Option.some.inj h)
  | error err => cases h

/-- `sin(2^3!)`: the call, the power sign, the numbers and the factorial sign, in the order of
their tokens. -/
theorem parse_inorder_marks_sin_power :
    Token.scan "sin(2^3!)" = .ok [⟨.function, "sin", 0⟩, ⟨.parenthesis, "(", 3⟩,
        ⟨.number, "2", 4⟩, ⟨.power, "^", 5⟩, ⟨.number, "3", 6⟩, ⟨.factorial, "!", 7⟩,
        ⟨.parenthesis, ")", 8⟩] ∧
      Expr.parse 100 [⟨.function, "sin", 0⟩, ⟨.parenthesis, "(", 3⟩, ⟨.number, "2", 4⟩,
          ⟨.power, "^", 5⟩, ⟨.number, "3", 6⟩, ⟨.factorial, "!", 7⟩, ⟨.parenthesis, ")", 8⟩] =
        .ok (.call "sin" (.bin "^" (.num "2") (.post "!" (.num "3")))) ∧
      (Expr.call "sin" (.bin "^" (.num "2") (.post "!" (.num "3")))).inorder.map
          (fun n => (n.symbol, n.kind)) =
        [("sin", .function), ("2", .number), ("^", .power), ("3", .number),
          ("!", .factorial)] := by
  have hscan : Token.scan "sin(2^3!)" = .ok [⟨.function, "sin", 0⟩, ⟨.parenthesis, "(", 3⟩,
      ⟨.number, "2", 4⟩, ⟨.power, "^", 5⟩, ⟨.number, "3", 6⟩, ⟨.factorial, "!", 7⟩,
      ⟨.parenthesis, ")", 8⟩] :=
    eq_ok_of_toOption (by decide +kernel)
  have hparse : Expr.parse 100 [⟨.function, "sin", 0⟩, ⟨.parenthesis, "(", 3⟩,
      ⟨.number, "2", 4⟩, ⟨.power, "^", 5⟩, ⟨.number, "3", 6⟩, ⟨.factorial, "!", 7⟩,
      ⟨.parenthesis, ")", 8⟩] =
        .ok (.call "sin" (.bin "^" (.num "2") (.post "!" (.num "3")))) :=
    eq_ok_of_toOption (by decide +kernel)
  exact ⟨hscan, hparse, Expr.parse_inorder_marks hscan hparse⟩

end Calculator

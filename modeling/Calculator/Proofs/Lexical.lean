import Calculator.Proofs.Grammar
import Calculator.Token.Scan

/-!
What the scanner emits. Every token it reads is spelled as its kind allows: a number is ASCII
digits with an optional point and more digits, an operator one of `+ - * /`, a parenthesis one
of `(` `)`, the power and factorial signs themselves, and a function name `sin` or `cos`.

Scanning goes one lexeme at a time, so the facts here come from one step of the scanner
(`scanFrom_of_first?`) and one lemma for each rule about what it reads.
-/

namespace Calculator

open Calculator.Text

/-- An answer keeps its value when its error is mapped. -/
@[simp] theorem mapError_ok {ε ε' α : Type} (f : ε → ε') (a : α) :
    (Except.ok a : Except ε α).mapError f = .ok a := rfl

@[simp] theorem mapError_error {ε ε' α : Type} (f : ε → ε') (e : ε) :
    (Except.error e : Except ε α).mapError f = .error (f e) := rfl

/-- A non-empty run of ASCII digits. -/
def DigitRun (cs : List Char) : Prop :=
  cs ≠ [] ∧ ∀ c ∈ cs, Lexeme.isAsciiDigit c = true

/-- The text of a number: ASCII digits, then optionally a point and more ASCII digits. -/
def NumberText (cs : List Char) : Prop :=
  ∃ w f, cs = w ++ f ∧ DigitRun w ∧ (f = [] ∨ ∃ g, f = '.' :: g ∧ DigitRun g)

/-- What each character of a number's text is: a digit or its point. -/
theorem NumberText.mem {cs : List Char} (h : NumberText cs) :
    ∀ c ∈ cs, c = '.' ∨ Lexeme.isAsciiDigit c = true := by
  obtain ⟨w, f, rfl, ⟨-, hw⟩, hf⟩ := h
  intro c hc
  rcases List.mem_append.mp hc with hc | hc
  · exact .inr (hw c hc)
  · rcases hf with rfl | ⟨g, rfl, -, hg⟩
    · cases hc
    · rcases List.mem_cons.mp hc with rfl | hc
      · exact .inl rfl
      · exact .inr (hg c hc)

/-- A token spelled as its kind allows. -/
def Token.Lexical (t : Token) : Prop :=
  match t.kind with
  | .number => NumberText t.text.toList
  | .operator => t.text ∈ ["+", "-", "*", "/"]
  | .parenthesis => t.text ∈ ["(", ")"]
  | .power => t.text = "^"
  | .factorial => t.text = "!"
  | .function => t.text ∈ ["sin", "cos"]

theorem Token.carriesSign_of_lexical {t : Token} (h : t.Lexical) : t.carriesSign = true := by
  obtain ⟨kind, text, pos⟩ := t
  cases kind <;> simp_all [Lexical, carriesSign]

namespace Lexeme

/-- The tokens a lexeme emits at a position: one, or none for blanks. -/
def emit (l : Lexeme) (pos : Nat) : List Token :=
  match l.kind with
  | some k => [⟨k, String.ofList l.chars, pos⟩]
  | none => []

theorem number?_eq_some {cs : List Char} {l : Lexeme} (h : number? cs = some l) :
    l.kind = some .number ∧ NumberText l.chars := by
  cases cs with
  | nil => cases h
  | cons c rest =>
    simp only [number?] at h
    split at h
    next hc =>
      cases h
      refine ⟨rfl, c :: rest.takeWhile isAsciiDigit, _, rfl, ⟨by simp, ?_⟩, ?_⟩
      · intro x hx
        rcases List.mem_cons.mp hx with rfl | hx
        · exact hc
        · exact List.all_eq_true.mp List.all_takeWhile x hx
      · -- the fraction is there only when at least one digit follows the point
        split
        next after _ =>
          by_cases hds : (after.takeWhile isAsciiDigit).isEmpty = true
          · simp [hds]
          · refine .inr ⟨after.takeWhile isAsciiDigit, by simp [hds], by simpa using hds, ?_⟩
            exact fun x hx => List.all_eq_true.mp List.all_takeWhile x hx
        · exact .inl rfl
    · cases h

theorem single?_eq_some {kind : TokenKind} {set cs : List Char} {l : Lexeme}
    (h : single? kind set cs = some l) : l.kind = some kind ∧ ∃ c ∈ set, l.chars = [c] := by
  cases cs with
  | nil => cases h
  | cons c rest =>
    simp only [single?] at h
    split at h
    next hc =>
      cases h
      exact ⟨rfl, c, by simpa using hc, rfl⟩
    · cases h

theorem keyword?_eq_some {word : String} {cs : List Char} {l : Lexeme}
    (h : keyword? word cs = some l) : l.kind = some .function ∧ l.chars = word.toList := by
  simp only [keyword?] at h
  split at h
  next w ws hw =>
    split at h
    · split at h
      · split at h
        · cases h
        · cases h
          exact ⟨rfl, hw.symm⟩
      · cases h
        exact ⟨rfl, hw.symm⟩
    · cases h
  · cases h

theorem blanks?_eq_some {cs : List Char} {l : Lexeme} (h : blanks? cs = some l) :
    l.kind = none := by
  cases cs with
  | nil => cases h
  | cons c rest =>
    simp only [blanks?] at h
    split at h
    · cases h
      rfl
    · cases h

theorem lexical_of_single? {kind : TokenKind} {set cs : List Char} {l : Lexeme}
    (h : single? kind set cs = some l) {k : TokenKind} (hk : l.kind = some k) (pos : Nat)
    (hset : ∀ c ∈ set, (⟨kind, String.ofList [c], pos⟩ : Token).Lexical) :
    (⟨k, String.ofList l.chars, pos⟩ : Token).Lexical := by
  obtain ⟨hs, c, hc, hchars⟩ := single?_eq_some h
  rw [hk] at hs
  cases hs
  rw [hchars]
  exact hset c hc

theorem lexical_of_keyword? {word : String} {cs : List Char} {l : Lexeme}
    (h : keyword? word cs = some l) {k : TokenKind} (hk : l.kind = some k) (pos : Nat)
    (hword : (⟨.function, word, pos⟩ : Token).Lexical) :
    (⟨k, String.ofList l.chars, pos⟩ : Token).Lexical := by
  obtain ⟨hs, hchars⟩ := keyword?_eq_some h
  rw [hk] at hs
  cases hs
  rw [hchars, String.ofList_toList]
  exact hword

/-- Whatever rule reads a token, the token is spelled as its kind allows. -/
theorem lexical_of_first? {cs : List Char} {l : Lexeme} (h : first? cs = some l)
    {k : TokenKind} (hk : l.kind = some k) (pos : Nat) :
    (⟨k, String.ofList l.chars, pos⟩ : Token).Lexical := by
  simp only [first?, Option.orElse_eq_orElse, Option.orElse_eq_or, Option.or_eq_some_iff] at h
  rcases h with hnum | ⟨-, hop | ⟨-, hparen | ⟨-, hpow | ⟨-, hbang | ⟨-, hsin |
    ⟨-, hcos | ⟨-, hblank⟩⟩⟩⟩⟩⟩⟩
  · obtain ⟨hn, htext⟩ := number?_eq_some hnum
    rw [hk] at hn
    cases hn
    simpa [Token.Lexical] using htext
  · refine lexical_of_single? hop hk pos ?_
    intro c hc
    simp only [List.mem_cons, List.not_mem_nil, or_false] at hc
    rcases hc with rfl | rfl | rfl | rfl <;> simp only [Token.Lexical] <;> decide
  · refine lexical_of_single? hparen hk pos ?_
    intro c hc
    simp only [List.mem_cons, List.not_mem_nil, or_false] at hc
    rcases hc with rfl | rfl <;> simp only [Token.Lexical] <;> decide
  · refine lexical_of_single? hpow hk pos ?_
    intro c hc
    simp only [List.mem_cons, List.not_mem_nil, or_false] at hc
    subst hc
    simp only [Token.Lexical]
  · refine lexical_of_single? hbang hk pos ?_
    intro c hc
    simp only [List.mem_cons, List.not_mem_nil, or_false] at hc
    subst hc
    simp only [Token.Lexical]
  · exact lexical_of_keyword? hsin hk pos (by simp [Token.Lexical])
  · exact lexical_of_keyword? hcos hk pos (by simp [Token.Lexical])
  · rw [blanks?_eq_some hblank] at hk
    cases hk

end Lexeme

/-- One step of the scanner: the lexeme that the first matching rule reads, then the rest. -/
theorem scanFrom_of_first? {pos : Nat} {c : Char} {rest : List Char} {l : Lexeme}
    (h : Lexeme.first? (c :: rest) = some l) :
    scanFrom pos (c :: rest) =
      (scanFrom (pos + l.length) ((c :: rest).drop l.length)).map (l.emit pos ++ ·) := by
  rw [scanFrom, h]
  simp only
  cases scanFrom (pos + l.length) ((c :: rest).drop l.length) with
  | error err => rfl
  | ok ts =>
    simp only [Lexeme.emit]
    cases l.kind <;> rfl

theorem scanFrom_of_first?_none {pos : Nat} {c : Char} {rest : List Char}
    (h : Lexeme.first? (c :: rest) = none) : scanFrom pos (c :: rest) = .error (c, pos) := by
  rw [scanFrom, h]

/-- Every token the scanner reads from a position on is spelled as its kind allows. -/
theorem lexical_of_scanFrom (pos : Nat) (cs : List Char) (ts : List Token)
    (h : scanFrom pos cs = .ok ts) : ∀ t ∈ ts, t.Lexical := by
  match cs with
  | [] =>
    rw [scanFrom] at h
    cases h
    simp
  | c :: rest =>
    cases hl : Lexeme.first? (c :: rest) with
    | none =>
      rw [scanFrom_of_first?_none hl] at h
      cases h
    | some l =>
      rw [scanFrom_of_first? hl] at h
      cases hs : scanFrom (pos + l.length) ((c :: rest).drop l.length) with
      | error err =>
        rw [hs] at h
        cases h
      | ok ts' =>
        rw [hs] at h
        cases h
        have hpos : 0 < l.length := Nat.succ_pos _
        intro t ht
        rcases List.mem_append.mp ht with ht | ht
        · simp only [Lexeme.emit] at ht
          split at ht
          next k hk =>
            rw [List.mem_singleton] at ht
            subst ht
            exact Lexeme.lexical_of_first? hl hk pos
          · cases ht
        · exact lexical_of_scanFrom _ _ ts' hs t ht
termination_by cs.length

/-- Every token read from a source is spelled as its kind allows. -/
theorem Token.lexical_of_scan {source : String} {ts : List Token}
    (h : Token.scan source = .ok ts) : ∀ t ∈ ts, t.Lexical := by
  simp only [Token.scan] at h
  cases hs : scanFrom 0 source.toList with
  | ok found =>
    rw [hs] at h
    cases h
    exact lexical_of_scanFrom 0 _ _ hs
  | error err =>
    rw [hs] at h
    cases h

/-! ### Scanning a text piece by piece -/

/-- Scanning `cs` from `pos` reads the tokens `toks` and stops exactly at the end of `cs`,
whatever follows, as long as the next character satisfies `next`. -/
def ScansTo (pos : Nat) (cs : List Char) (toks : List Token) (next : Option Char → Prop) :
    Prop :=
  ∀ rest, next rest.head? →
    scanFrom pos (cs ++ rest) = (scanFrom (pos + cs.length) rest).map (toks ++ ·)

/-- What may follow a number's text without being read into it: neither a digit nor a
point. -/
def NumberStops (next : Option Char) : Prop :=
  ∀ c ∈ next, c ≠ '.' ∧ Lexeme.isAsciiDigit c = false

theorem ScansTo.mono {pos : Nat} {cs : List Char} {toks : List Token}
    {P Q : Option Char → Prop} (h : ScansTo pos cs toks P) (hPQ : ∀ next, Q next → P next) :
    ScansTo pos cs toks Q :=
  fun rest hrest => h rest (hPQ _ hrest)

/-- Two pieces scan one after the other, when the second begins with a character the first
lets follow it. -/
theorem ScansTo.append {pos : Nat} {a b : List Char} {ta tb : List Token}
    {P Q : Option Char → Prop} (ha : ScansTo pos a ta P) (hb : ScansTo (pos + a.length) b tb Q)
    (hne : b ≠ []) (hP : P b.head?) : ScansTo pos (a ++ b) (ta ++ tb) Q := by
  intro rest hrest
  have hhead : (b ++ rest).head? = b.head? := by
    cases b with
    | nil => exact absurd rfl hne
    | cons c b => rfl
  rw [List.append_assoc, ha (b ++ rest) (hhead ▸ hP), hb rest hrest, List.length_append,
    Nat.add_assoc]
  cases scanFrom (pos + (a.length + b.length)) rest with
  | error err => rfl
  | ok ts => simp only [Except.map, List.append_assoc]

/-- A whole source that scans to some tokens, with nothing after it, is read as those tokens. -/
theorem Token.scan_of_scansTo {source : String} {toks : List Token} {next : Option Char → Prop}
    (h : ScansTo 0 source.toList toks next) (hnone : next none) : Token.scan source = .ok toks := by
  have hs := h [] hnone
  rw [List.append_nil, scanFrom, Except.map] at hs
  simp only [Token.scan, hs, List.append_nil]

/-- A lexeme that the first matching rule reads whole, whatever follows it. -/
theorem scansTo_of_first? {pos : Nat} {c : Char} {more : List Char} {k : TokenKind}
    {next : Option Char → Prop}
    (h : ∀ rest, next rest.head? →
      Lexeme.first? (c :: (more ++ rest)) = some ⟨some k, c, more⟩) :
    ScansTo pos (c :: more) [⟨k, String.ofList (c :: more), pos⟩] next := by
  intro rest hrest
  rw [List.cons_append, scanFrom_of_first? (h rest hrest)]
  simp [Lexeme.length, Lexeme.emit, Lexeme.chars]

/-- A single character that a rule other than the number rule reads as a token of its own. -/
theorem scansTo_single {pos : Nat} {c : Char} {k : TokenKind}
    (h : ∀ rest, Lexeme.first? (c :: rest) = some ⟨some k, c, []⟩) :
    ScansTo pos [c] [⟨k, String.ofList [c], pos⟩] (fun _ => True) :=
  scansTo_of_first? fun rest _ => by
    rw [List.nil_append]
    exact h rest

theorem first?_open (rest : List Char) :
    Lexeme.first? ('(' :: rest) = some ⟨some .parenthesis, '(', []⟩ := by
  simp [Lexeme.first?, Lexeme.number?, Lexeme.single?, Lexeme.isAsciiDigit]

theorem first?_close (rest : List Char) :
    Lexeme.first? (')' :: rest) = some ⟨some .parenthesis, ')', []⟩ := by
  simp [Lexeme.first?, Lexeme.number?, Lexeme.single?, Lexeme.isAsciiDigit]

theorem first?_caret (rest : List Char) :
    Lexeme.first? ('^' :: rest) = some ⟨some .power, '^', []⟩ := by
  simp [Lexeme.first?, Lexeme.number?, Lexeme.single?, Lexeme.isAsciiDigit]

theorem first?_bang (rest : List Char) :
    Lexeme.first? ('!' :: rest) = some ⟨some .factorial, '!', []⟩ := by
  simp [Lexeme.first?, Lexeme.number?, Lexeme.single?, Lexeme.isAsciiDigit]

theorem first?_operator {c : Char} (hc : c ∈ ['+', '-', '*', '/']) (rest : List Char) :
    Lexeme.first? (c :: rest) = some ⟨some .operator, c, []⟩ := by
  simp only [List.mem_cons, List.not_mem_nil, or_false] at hc
  rcases hc with rfl | rfl | rfl | rfl <;>
    simp [Lexeme.first?, Lexeme.number?, Lexeme.single?, Lexeme.isAsciiDigit]

theorem takeWhile_of_head {p : Char → Bool} {l : List Char}
    (h : ∀ c ∈ l.head?, p c = false) : l.takeWhile p = [] := by
  cases l with
  | nil => rfl
  | cons c l => simp [h c rfl]

theorem dropWhile_of_head {p : Char → Bool} {l : List Char}
    (h : ∀ c ∈ l.head?, p c = false) : l.dropWhile p = l := by
  cases l with
  | nil => rfl
  | cons c l => simp [h c rfl]

/-- No ASCII digit is blank. -/
theorem isBlank_of_isAsciiDigit {c : Char} (h : Lexeme.isAsciiDigit c = true) :
    isBlank c = false := by
  simp only [Lexeme.isAsciiDigit, Bool.and_eq_true, decide_eq_true_eq] at h
  have hlo : 48 ≤ c.toNat := h.1
  have hhi : c.toNat ≤ 57 := h.2
  simp only [isBlank, CodeRange.anyContains, blankRanges, CodeRange.contains, List.any_cons,
    List.any_nil]
  simp only [Bool.or_false, Bool.or_eq_false_iff, Bool.and_eq_false_iff, decide_eq_false_iff_not]
  omega

/-- The number rule reads a number's text whole when neither a digit nor a point follows. -/
theorem scansTo_number {p : List Char} (hp : NumberText p) (pos : Nat) :
    ScansTo pos p [⟨.number, String.ofList p, pos⟩] NumberStops := by
  obtain ⟨w, f, rfl, ⟨hw0, hw⟩, hf⟩ := hp
  obtain ⟨c, w', rfl⟩ := List.exists_cons_of_ne_nil hw0
  rw [List.cons_append]
  refine scansTo_of_first? fun rest hrest => ?_
  have hc : Lexeme.isAsciiDigit c = true := hw c (List.mem_cons_self ..)
  have hw' : ∀ x ∈ w', Lexeme.isAsciiDigit x = true :=
    fun x hx => hw x (List.mem_cons_of_mem _ hx)
  -- after the digits comes the fraction or what follows, neither starting with a digit
  have hafter : ∀ x ∈ (f ++ rest).head?, Lexeme.isAsciiDigit x = false := by
    rcases hf with rfl | ⟨g, rfl, -⟩
    · exact fun x hx => (hrest x (by simpa using hx)).2
    · intro x hx
      simp only [List.cons_append, List.head?_cons, Option.mem_def, Option.some.injEq] at hx
      subst hx
      decide
  have hnum : Lexeme.number? (c :: (w' ++ (f ++ rest))) =
      some ⟨some .number, c, w' ++ f⟩ := by
    simp only [Lexeme.number?, hc, if_true]
    rw [List.takeWhile_append_of_pos hw', takeWhile_of_head hafter,
      List.dropWhile_append_of_pos hw', dropWhile_of_head hafter, List.append_nil]
    -- the fraction the rule reads is the text's own
    rcases hf with rfl | ⟨g, rfl, ⟨hg0, hg⟩⟩
    · cases rest with
      | nil => rfl
      | cons x rest =>
        have hx : x ≠ '.' := (hrest x rfl).1
        simp only [List.nil_append]
        split
        · simp_all
        · rfl
    · simp only [List.cons_append]
      rw [List.takeWhile_append_of_pos (fun x hx => hg x hx),
        takeWhile_of_head (fun x hx => (hrest x hx).2), List.append_nil]
      simp [hg0]
  rw [List.append_assoc]
  simp [Lexeme.first?, hnum]

/-- A blank before a character that is not blank is skipped alone. -/
theorem scansTo_space (pos : Nat) :
    ScansTo pos [' '] [] (fun next => ∀ c ∈ next, isBlank c = false) := by
  intro rest hrest
  have hfirst : Lexeme.first? (' ' :: rest) = some ⟨none, ' ', []⟩ := by
    cases rest with
    | nil =>
      simp [Lexeme.first?, Lexeme.number?, Lexeme.single?, Lexeme.isAsciiDigit,
        Lexeme.keyword?, Lexeme.blanks?]
      decide
    | cons c rest =>
      have hc : isBlank c = false := hrest c rfl
      simp [Lexeme.first?, Lexeme.number?, Lexeme.single?, Lexeme.isAsciiDigit,
        Lexeme.keyword?, Lexeme.blanks?, hc, (by decide : isBlank ' ' = true)]
  rw [List.cons_append, List.nil_append, scanFrom_of_first? hfirst]
  simp [Lexeme.length, Lexeme.emit]

/-- A function name before a character that is not a word character. -/
theorem scansTo_function {name : String} (hname : name ∈ ["sin", "cos"]) (pos : Nat) :
    ScansTo pos name.toList [⟨.function, name, pos⟩]
      (fun next => ∀ c ∈ next, isWordChar c = false) := by
  simp only [List.mem_cons, List.not_mem_nil, or_false] at hname
  rcases hname with rfl | rfl
  · have h : ScansTo pos ['s', 'i', 'n'] [⟨.function, String.ofList ['s', 'i', 'n'], pos⟩]
        (fun next => ∀ c ∈ next, isWordChar c = false) := by
      refine scansTo_of_first? fun rest hrest => ?_
      cases rest with
      | nil => simp [Lexeme.first?, Lexeme.number?, Lexeme.single?, Lexeme.isAsciiDigit,
          Lexeme.keyword?]
      | cons c rest =>
        have hc : isWordChar c = false := hrest c rfl
        simp [Lexeme.first?, Lexeme.number?, Lexeme.single?, Lexeme.isAsciiDigit,
          Lexeme.keyword?, hc]
    simpa using h
  · have h : ScansTo pos ['c', 'o', 's'] [⟨.function, String.ofList ['c', 'o', 's'], pos⟩]
        (fun next => ∀ c ∈ next, isWordChar c = false) := by
      refine scansTo_of_first? fun rest hrest => ?_
      cases rest with
      | nil => simp [Lexeme.first?, Lexeme.number?, Lexeme.single?, Lexeme.isAsciiDigit,
          Lexeme.keyword?]
      | cons c rest =>
        have hc : isWordChar c = false := hrest c rfl
        simp [Lexeme.first?, Lexeme.number?, Lexeme.single?, Lexeme.isAsciiDigit,
          Lexeme.keyword?, hc]
    simpa using h

/-- The kind of token the sign of a binary operator is read as. -/
def signKind (op : String) : TokenKind :=
  if op = "^" then .power else .operator

/-- The sign of a binary operator is one character, not a blank, that the scanner reads alone
whatever follows it. -/
theorem first?_sign {op : String} (hop : op ∈ ["+", "-", "*", "/", "^"]) :
    ∃ c, op.toList = [c] ∧ isBlank c = false ∧
      ∀ rest, Lexeme.first? (c :: rest) = some ⟨some (signKind op), c, []⟩ := by
  simp only [List.mem_cons, List.not_mem_nil, or_false] at hop
  rcases hop with rfl | rfl | rfl | rfl | rfl
  · exact ⟨'+', rfl, by decide, by simpa [signKind] using first?_operator (c := '+') (by decide)⟩
  · exact ⟨'-', rfl, by decide, by simpa [signKind] using first?_operator (c := '-') (by decide)⟩
  · exact ⟨'*', rfl, by decide, by simpa [signKind] using first?_operator (c := '*') (by decide)⟩
  · exact ⟨'/', rfl, by decide, by simpa [signKind] using first?_operator (c := '/') (by decide)⟩
  · exact ⟨'^', rfl, by decide, by simpa [signKind] using first?_caret⟩

/-- The sign of a binary operator is read as one token, whatever follows. -/
theorem scansTo_sign {op : String} (hop : op ∈ ["+", "-", "*", "/", "^"]) (pos : Nat) :
    ScansTo pos op.toList [⟨signKind op, op, pos⟩] (fun _ => True) := by
  obtain ⟨c, hc, -, hfirst⟩ := first?_sign hop
  have h : ScansTo pos [c] [⟨signKind op, String.ofList [c], pos⟩] (fun _ => True) :=
    scansTo_single hfirst
  rwa [← hc, String.ofList_toList] at h

end Calculator

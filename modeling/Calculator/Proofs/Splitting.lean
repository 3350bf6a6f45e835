import Calculator.Proofs.Lexical

/-!
How the scanner splits a text. A text splits into lexemes when it is the lexemes one after the
other, each spelled as its kind allows (a number, an operator, a parenthesis, the power or
factorial sign, a function name, or a run of blanks) and followed by what may follow it: no
digit after a number, nor a point and a digit after a number without a fraction; no word
character after a function name; no blank after a run of blanks, so that runs of blanks are
maximal.

The rules the scanner tries in order and the splitting agree one lexeme at a time: the first
rule that matches reads a lexeme that may stand there (`Lexeme.first?_spec`), and a lexeme that
may stand at the front of a text is the one the first matching rule reads
(`Lexeme.first?_of_valid`). Hence a text scans exactly when it splits, its splitting is unique,
and the tokens are those of the splitting at the offsets where their texts stand. A text that
does not scan stops at a character where no lexeme splits off, after a part that scans.

Main statement: `Token.scan_eq_ok_iff_splits`.
-/

namespace Calculator

open Calculator.Text

/-- No blank is a word character: the blank table and the word table share no code point, and
the ASCII blanks lie below the letters, the digits and the underscore. -/
theorem isWordChar_of_isBlank {c : Char} (h : isBlank c = true) : isWordChar c = false := by
  have hdisjoint : (blankRanges.all fun b => wordRanges.all fun r =>
      decide (r.hi < b.lo) || decide (b.hi < r.lo)) = true := by decide +kernel
  obtain ⟨b, hb, hlo, hhi⟩ := (CodeRange.anyContains_iff _ _).mp h
  have hfar := List.all_eq_true.mp hdisjoint b hb
  unfold isWordChar
  split
  · -- the ASCII blanks lie below the letters, the digits and the underscore
    have hsmall : c.toNat ≤ 0x20 := by
      simp only [blankRanges, List.mem_cons, List.not_mem_nil, or_false] at hb
      rcases hb with rfl | rfl | rfl | rfl | rfl | rfl | rfl | rfl | rfl | rfl <;> simp_all <;>
        omega
    have hbelow : ∀ d : Char, 33 ≤ d.toNat → ¬c.val ≥ d.val := fun d hd hge => by
      rw [ge_iff_le, UInt32.le_iff_toNat_le, Char.toNat_val, Char.toNat_val] at hge
      omega
    have hne : (c == '_') = false := beq_eq_false_iff_ne.mpr fun hc => by subst hc; simp at hsmall
    unfold Char.isAlphanum Char.isAlpha Char.isUpper Char.isLower Char.isDigit
    rw [decide_eq_false fun hu => hbelow 'A' (by decide) hu.1,
      decide_eq_false (hbelow 'a' (by decide)), decide_eq_false (hbelow '0' (by decide)), hne]
    rfl
  · apply Bool.eq_false_iff.mpr
    intro hw
    obtain ⟨r, hr, hrlo, hrhi⟩ := (CodeRange.anyContains_iff _ _).mp hw
    have := List.all_eq_true.mp hfar r hr
    simp only [Bool.or_eq_true, decide_eq_true_eq] at this
    omega

/-- The characters that begin a token are not blanks. -/
theorem isBlank_of_tokenStart {c : Char}
    (h : c ∈ ['+', '-', '*', '/', '(', ')', '^', '!', 's', 'c']) : isBlank c = false := by
  simp only [List.mem_cons, List.not_mem_nil, or_false] at h
  rcases h with rfl | rfl | rfl | rfl | rfl | rfl | rfl | rfl | rfl | rfl <;> decide

theorem isAsciiDigit_of_isBlank {c : Char} (h : isBlank c = true) :
    Lexeme.isAsciiDigit c = false := by
  cases hd : Lexeme.isAsciiDigit c
  · rfl
  · rw [isBlank_of_isAsciiDigit hd] at h
    cases h

namespace Lexeme

/-- The characters a lexeme of its kind may read: a number's digits with an optional fraction,
one operator, one parenthesis, the power or the factorial sign, a function name, or blanks. -/
def Valid (l : Lexeme) : Prop :=
  match l.kind with
  | some .number => NumberText l.chars
  | some .operator => l.chars ∈ [['+'], ['-'], ['*'], ['/']]
  | some .parenthesis => l.chars ∈ [['('], [')']]
  | some .power => l.chars = ['^']
  | some .factorial => l.chars = ['!']
  | some .function => l.chars ∈ [['s', 'i', 'n'], ['c', 'o', 's']]
  | none => ∀ c ∈ l.chars, isBlank c = true

/-- What may come right after a lexeme: no digit after a number, nor a point and a digit after a
number without a fraction; no word character after a function name; no blank after blanks. -/
def Follows (l : Lexeme) (after : List Char) : Prop :=
  match l.kind with
  | some .number =>
    (∀ c ∈ after.head?, isAsciiDigit c = false) ∧
      ('.' ∉ l.chars → ∀ d rest, after = '.' :: d :: rest → isAsciiDigit d = false)
  | some .function => ∀ c ∈ after.head?, isWordChar c = false
  | some _ => True
  | none => ∀ c ∈ after.head?, isBlank c = false

/-- The tokens of lexemes read one after the other, the first at position `pos`. -/
def tokensFrom (pos : Nat) : List Lexeme → List Token
  | [] => []
  | l :: ls => l.emit pos ++ tokensFrom (pos + l.length) ls

@[simp] theorem length_chars (l : Lexeme) : l.chars.length = l.length := by
  simp [chars, length]

@[simp] theorem tokensFrom_nil (pos : Nat) : tokensFrom pos [] = [] := rfl

@[simp] theorem tokensFrom_cons (pos : Nat) (l : Lexeme) (ls : List Lexeme) :
    tokensFrom pos (l :: ls) = l.emit pos ++ tokensFrom (pos + l.length) ls := rfl

/-- A condition on the next character only holds of any prefix of what follows. -/
theorem head?_take_of {p : Char → Prop} {after : List Char} (h : ∀ c ∈ after.head?, p c)
    (n : Nat) : ∀ c ∈ (after.take n).head?, p c := by
  rw [List.head?_take]
  split
  · simp
  · exact h

/-- What may follow a lexeme may be cut short. -/
theorem Follows.take {l : Lexeme} {after : List Char} (h : l.Follows after) (n : Nat) :
    l.Follows (after.take n) := by
  unfold Follows at h ⊢
  split
  next hk =>
    rw [hk] at h
    refine ⟨head?_take_of h.1 n, fun hdot d rest heq => h.2 hdot d (rest ++ after.drop n) ?_⟩
    have hsplit := List.take_append_drop n after
    rw [heq] at hsplit
    exact hsplit.symm
  next hk =>
    rw [hk] at h
    exact head?_take_of h n
  next => trivial
  next hk =>
    rw [hk] at h
    exact head?_take_of h n

/-! ### The rule that matches first reads a lexeme that may stand there -/

theorem number?_spec {cs : List Char} {l : Lexeme} (h : number? cs = some l) :
    ∃ after, cs = l.chars ++ after ∧ l.Follows after := by
  cases cs with
  | nil => cases h
  | cons c rest =>
    simp only [number?] at h
    split at h
    next hc =>
      cases h
      have hsplit := List.takeWhile_append_dropWhile (p := isAsciiDigit) (l := rest)
      have hhead := List.head?_dropWhile_not isAsciiDigit rest
      generalize rest.takeWhile isAsciiDigit = whole at hsplit ⊢
      -- the rule reads the digits, then a fraction when a point and a digit follow them
      split
      next after hdrop =>
        rw [hdrop] at hsplit hhead
        subst hsplit
        by_cases hds : (after.takeWhile isAsciiDigit).isEmpty = true
        · refine ⟨'.' :: after, by simp [hds, chars], ?_, fun _ d rest' heq => ?_⟩
          · intro x hx
            simp only [List.head?_cons, Option.mem_def, Option.some.injEq] at hx
            subst hx
            rfl
          · simp only [List.cons.injEq] at heq
            obtain ⟨-, rfl⟩ := heq
            cases hd : isAsciiDigit d
            · rfl
            · simp [hd] at hds
        · refine ⟨after.dropWhile isAsciiDigit, ?_, ?_,
            fun hdot => absurd (by simp [chars, hds]) hdot⟩
          · conv => lhs; rw [← List.takeWhile_append_dropWhile (p := isAsciiDigit) (l := after)]
            simp [hds, chars]
          · intro x hx
            have := List.head?_dropWhile_not isAsciiDigit after
            rw [hx] at this
            exact this
      next _ hnot =>
        refine ⟨rest.dropWhile isAsciiDigit, by simp [chars, hsplit], fun x hx => ?_,
          fun _ d rest' heq => absurd heq (hnot _)⟩
        rw [hx] at hhead
        exact hhead
    · cases h

theorem single?_spec {kind : TokenKind} {set cs : List Char} {l : Lexeme}
    (h : single? kind set cs = some l) : ∃ c after, c ∈ set ∧ cs = c :: after ∧
      l = ⟨some kind, c, []⟩ := by
  cases cs with
  | nil => cases h
  | cons c rest =>
    simp only [single?] at h
    split at h
    next hc =>
      cases h
      exact ⟨c, rest, by simpa using hc, rfl, rfl⟩
    · cases h

theorem keyword?_spec {word : String} {cs : List Char} {l : Lexeme}
    (h : keyword? word cs = some l) :
    ∃ after, cs = l.chars ++ after ∧ ∀ c ∈ after.head?, isWordChar c = false := by
  have hchars := (keyword?_eq_some h).2
  simp only [keyword?] at h
  split at h
  next w ws hw =>
    split at h
    next hpre =>
      have hafter := List.prefix_iff_eq_append.mp (List.isPrefixOf_iff_prefix.mp hpre)
      simp only [List.length_cons] at hafter
      refine ⟨cs.drop (ws.length + 1), by rw [hchars, hw, hafter], ?_⟩
      -- the word is read only when no word character follows it
      split at h
      next next rest hdrop =>
        split at h
        · cases h
        next hnext =>
          rw [hdrop]
          intro c hc
          simp only [List.head?_cons, Option.mem_def, Option.some.injEq] at hc
          subst hc
          simpa using hnext
      next hdrop => simp [hdrop]
    · cases h
  · cases h

theorem blanks?_spec {cs : List Char} {l : Lexeme} (h : blanks? cs = some l) :
    ∃ after, cs = l.chars ++ after ∧ l.Valid ∧ l.Follows after := by
  cases cs with
  | nil => cases h
  | cons c rest =>
    simp only [blanks?] at h
    split at h
    next hc =>
      cases h
      refine ⟨rest.dropWhile isBlank, ?_, ?_, ?_⟩
      · simp [chars]
      · intro x hx
        rcases List.mem_cons.mp hx with rfl | hx
        · exact hc
        · exact List.all_eq_true.mp List.all_takeWhile x hx
      · intro x hx
        have := List.head?_dropWhile_not isBlank rest
        rw [hx] at this
        exact this
    · cases h

/-- The first rule that matches reads a lexeme that may stand at the front of the text: it is
spelled as its kind allows and followed by what may follow it. -/
theorem first?_spec {cs : List Char} {l : Lexeme} (h : first? cs = some l) :
    ∃ after, cs = l.chars ++ after ∧ l.Valid ∧ l.Follows after := by
  simp only [first?, Option.orElse_eq_orElse, Option.orElse_eq_or, Option.or_eq_some_iff] at h
  rcases h with hnum | ⟨-, hop | ⟨-, hparen | ⟨-, hpow | ⟨-, hbang | ⟨-, hsin |
    ⟨-, hcos | ⟨-, hblank⟩⟩⟩⟩⟩⟩⟩
  · obtain ⟨hk, htext⟩ := number?_eq_some hnum
    obtain ⟨after, hcs, hf⟩ := number?_spec hnum
    refine ⟨after, hcs, ?_, hf⟩
    simp only [Valid, hk]
    exact htext
  · obtain ⟨c, after, hc, rfl, rfl⟩ := single?_spec hop
    refine ⟨after, rfl, ?_, trivial⟩
    simp only [List.mem_cons, List.not_mem_nil, or_false] at hc
    simp only [Valid, chars]
    rcases hc with rfl | rfl | rfl | rfl <;> simp
  · obtain ⟨c, after, hc, rfl, rfl⟩ := single?_spec hparen
    refine ⟨after, rfl, ?_, trivial⟩
    simp only [List.mem_cons, List.not_mem_nil, or_false] at hc
    simp only [Valid, chars]
    rcases hc with rfl | rfl <;> simp
  · obtain ⟨c, after, hc, rfl, rfl⟩ := single?_spec hpow
    refine ⟨after, rfl, ?_, trivial⟩
    simp only [List.mem_singleton] at hc
    simp [Valid, chars, hc]
  · obtain ⟨c, after, hc, rfl, rfl⟩ := single?_spec hbang
    refine ⟨after, rfl, ?_, trivial⟩
    simp only [List.mem_singleton] at hc
    simp [Valid, chars, hc]
  · obtain ⟨hk, hchars⟩ := keyword?_eq_some hsin
    obtain ⟨after, hcs, hf⟩ := keyword?_spec hsin
    refine ⟨after, hcs, ?_, ?_⟩
    · simp only [Valid, hk, hchars]
      decide
    · simpa only [Follows, hk] using hf
  · obtain ⟨hk, hchars⟩ := keyword?_eq_some hcos
    obtain ⟨after, hcs, hf⟩ := keyword?_spec hcos
    refine ⟨after, hcs, ?_, ?_⟩
    · simp only [Valid, hk, hchars]
      decide
    · simpa only [Follows, hk] using hf
  · exact blanks?_spec hblank

/-! ### A lexeme that may stand at the front of a text is the one the scanner reads -/

theorem number?_of_valid {c : Char} {more after : List Char}
    (hv : NumberText (c :: more)) (hf : Follows ⟨some .number, c, more⟩ after) :
    number? (c :: (more ++ after)) = some ⟨some .number, c, more⟩ := by
  obtain ⟨w, f, hcw, ⟨hw0, hw⟩, hfrac⟩ := hv
  simp only [Follows] at hf
  obtain ⟨hnext, hdot⟩ := hf
  obtain ⟨c', w', rfl⟩ := List.exists_cons_of_ne_nil hw0
  simp only [List.cons_append, List.cons.injEq] at hcw
  obtain ⟨rfl, rfl⟩ := hcw
  have hc : isAsciiDigit c = true := hw c (List.mem_cons_self ..)
  have hw' : ∀ x ∈ w', isAsciiDigit x = true := fun x hx => hw x (List.mem_cons_of_mem _ hx)
  have hpoint : isAsciiDigit '.' = false := by decide
  simp only [number?, hc, if_true, List.append_assoc, Option.some.injEq, Lexeme.mk.injEq,
    true_and]
  rw [List.takeWhile_append_of_pos hw', List.dropWhile_append_of_pos hw', List.append_assoc]
  congr 1
  -- what follows the digits is the fraction, or what follows the number itself
  rcases hfrac with rfl | ⟨g, rfl, ⟨hg0, hg⟩⟩
  · rw [List.nil_append, takeWhile_of_head hnext, dropWhile_of_head hnext, List.nil_append]
    have hnodot : '.' ∉ chars ⟨some .number, c, w' ++ []⟩ := by
      intro hmem
      have := hw '.' (by simpa [chars] using hmem)
      rw [hpoint] at this
      cases this
    split
    next _ after' =>
      cases after' with
      | nil => rfl
      | cons d rest => simp [hdot hnodot d rest rfl]
    · rfl
  · have hafter : ∀ x ∈ after.head?, isAsciiDigit x = false := hnext
    rw [List.cons_append, takeWhile_of_head (by simpa using hpoint),
      dropWhile_of_head (by simpa using hpoint), List.nil_append]
    simp only
    rw [List.takeWhile_append_of_pos hg, takeWhile_of_head hafter, List.append_nil]
    simp [List.isEmpty_iff, hg0]

theorem first?_of_blanks {c : Char} {more after : List Char}
    (hv : ∀ x ∈ c :: more, isBlank x = true) (hf : ∀ x ∈ after.head?, isBlank x = false) :
    first? (c :: (more ++ after)) = some ⟨none, c, more⟩ := by
  have hc : isBlank c = true := hv c (List.mem_cons_self ..)
  have hdigit : isAsciiDigit c = false := isAsciiDigit_of_isBlank hc
  have hstart : c ∉ ['+', '-', '*', '/', '(', ')', '^', '!', 's', 'c'] :=
    fun hmem => by rw [isBlank_of_tokenStart hmem] at hc; cases hc
  simp only [List.mem_cons, List.not_mem_nil, or_false, not_or] at hstart
  obtain ⟨h1, h2, h3, h4, h5, h6, h7, h8, h9, h10⟩ := hstart
  have hmore : (more ++ after).takeWhile isBlank = more := by
    rw [List.takeWhile_append_of_pos (fun x hx => hv x (List.mem_cons_of_mem _ hx)),
      takeWhile_of_head hf, List.append_nil]
  simp [first?, number?, single?, keyword?, blanks?, hdigit, hc, hmore, h1, h2, h3, h4, h5, h6,
    h7, h8, Ne.symm h9, Ne.symm h10]

theorem first?_of_function {c : Char} {more after : List Char}
    (hv : c :: more ∈ [['s', 'i', 'n'], ['c', 'o', 's']])
    (hf : ∀ x ∈ after.head?, isWordChar x = false) :
    first? (c :: (more ++ after)) = some ⟨some .function, c, more⟩ := by
  simp only [List.mem_cons, List.cons.injEq, List.not_mem_nil, or_false] at hv
  rcases hv with ⟨rfl, rfl⟩ | ⟨rfl, rfl⟩ <;> cases after with
  | nil => simp [first?, number?, single?, isAsciiDigit, keyword?]
  | cons x after =>
    have hx : isWordChar x = false := hf x rfl
    simp [first?, number?, single?, isAsciiDigit, keyword?, hx]

/-- A lexeme that may stand at the front of a text, before what may follow it, is the lexeme the
first matching rule reads there. -/
theorem first?_of_valid {l : Lexeme} {after : List Char} (hv : l.Valid) (hf : l.Follows after) :
    first? (l.chars ++ after) = some l := by
  obtain ⟨kind, c, more⟩ := l
  simp only [chars, List.cons_append]
  cases kind with
  | none => exact first?_of_blanks hv hf
  | some k =>
    cases k with
    | number =>
      have hnum := number?_of_valid hv hf
      simp [first?, hnum]
    | operator =>
      simp only [Valid, chars, List.mem_cons, List.cons.injEq, List.not_mem_nil, or_false] at hv
      rcases hv with ⟨rfl, rfl⟩ | ⟨rfl, rfl⟩ | ⟨rfl, rfl⟩ | ⟨rfl, rfl⟩ <;>
        exact first?_operator (by decide) _
    | parenthesis =>
      simp only [Valid, chars, List.mem_cons, List.cons.injEq, List.not_mem_nil, or_false] at hv
      rcases hv with ⟨rfl, rfl⟩ | ⟨rfl, rfl⟩
      · exact first?_open _
      · exact first?_close _
    | power =>
      simp only [Valid, chars, List.cons.injEq] at hv
      obtain ⟨rfl, rfl⟩ := hv
      exact first?_caret _
    | factorial =>
      simp only [Valid, chars, List.cons.injEq] at hv
      obtain ⟨rfl, rfl⟩ := hv
      exact first?_bang _
    | function => exact first?_of_function hv hf

end Lexeme

/-! ### Splitting a text -/

/-- A text split into lexemes: the lexemes one after the other, each spelled as its kind allows
and followed by what may follow it. -/
inductive Splits : List Char → List Lexeme → Prop where
  | nil : Splits [] []
  | cons {l : Lexeme} {after : List Char} {ls : List Lexeme} :
      l.Valid → l.Follows after → Splits after ls → Splits (l.chars ++ after) (l :: ls)

/-- One step of the scanner over a lexeme that the first matching rule reads. -/
theorem scanFrom_chars_append {pos : Nat} {l : Lexeme} {after : List Char}
    (h : Lexeme.first? (l.chars ++ after) = some l) :
    scanFrom pos (l.chars ++ after) = (scanFrom (pos + l.length) after).map (l.emit pos ++ ·) := by
  simp only [Lexeme.chars, List.cons_append] at h ⊢
  rw [scanFrom_of_first? h, ← List.cons_append, List.drop_left' (by simp [Lexeme.length])]

/-- A text that splits scans to the tokens of its lexemes. -/
theorem scanFrom_of_splits {cs : List Char} {ls : List Lexeme} (h : Splits cs ls) (pos : Nat) :
    scanFrom pos cs = .ok (Lexeme.tokensFrom pos ls) := by
  induction h generalizing pos with
  | nil => rw [scanFrom]; rfl
  | cons hv hf _ ih =>
    rw [scanFrom_chars_append (Lexeme.first?_of_valid hv hf), ih]
    rfl

/-- A text that scans splits into the lexemes the scanner reads. -/
theorem splits_of_scanFrom (pos : Nat) (cs : List Char) (ts : List Token)
    (h : scanFrom pos cs = .ok ts) : ∃ ls, Splits cs ls ∧ ts = Lexeme.tokensFrom pos ls := by
  match cs with
  | [] =>
    rw [scanFrom] at h
    cases h
    exact ⟨[], .nil, rfl⟩
  | c :: rest =>
    cases hl : Lexeme.first? (c :: rest) with
    | none =>
      rw [scanFrom_of_first?_none hl] at h
      cases h
    | some l =>
      obtain ⟨after, hcs, hv, hf⟩ := Lexeme.first?_spec hl
      rw [hcs] at hl h
      rw [scanFrom_chars_append hl] at h
      cases hs : scanFrom (pos + l.length) after with
      | error err =>
        rw [hs] at h
        cases h
      | ok ts' =>
        rw [hs] at h
        cases h
        have hlen : after.length < (c :: rest).length := by
          rw [hcs, List.length_append, Lexeme.length_chars]
          simp [Lexeme.length]
        obtain ⟨ls, hls, rfl⟩ := splits_of_scanFrom _ after ts' hs
        exact ⟨l :: ls, hcs ▸ .cons hv hf hls, rfl⟩
termination_by cs.length
decreasing_by all_goals simp only [List.length_cons] at hlen ⊢; omega

/-- A text splits in one way only: at each step the lexeme that splits off is the one the first
matching rule reads. -/
theorem Splits.unique {cs : List Char} {ls ls' : List Lexeme} (h : Splits cs ls)
    (h' : Splits cs ls') : ls = ls' := by
  induction h generalizing ls' with
  | nil =>
    cases h'
    rfl
  | @cons l after ls hv hf _ ih =>
    generalize hcs : l.chars ++ after = cs at h'
    cases h' with
    | nil => simp [Lexeme.chars] at hcs
    | @cons l' after' ls'' hv' hf' hsplit =>
      have hsame : l = l' := by
        have h1 := Lexeme.first?_of_valid hv hf
        rw [hcs, Lexeme.first?_of_valid hv' hf'] at h1
        exact (Option.some.inj h1).symm
      subst hsame
      rw [ih (List.append_cancel_left hcs ▸ hsplit)]

/-- The tokens of a splitting stand in increasing order, each at the offset where its text is. -/
theorem Splits.tokens_placed {cs : List Char} {ls : List Lexeme} (h : Splits cs ls) (pos : Nat) :
    ((Lexeme.tokensFrom pos ls).map Token.pos).Pairwise (· < ·) ∧
      ∀ t ∈ Lexeme.tokensFrom pos ls, pos ≤ t.pos ∧ t.text.toList <+: cs.drop (t.pos - pos) := by
  induction h generalizing pos with
  | nil => simp
  | @cons l after ls _ _ _ ih =>
    obtain ⟨ihsorted, ihplaced⟩ := ih (pos + l.length)
    have hlen : 0 < l.length := Nat.succ_pos _
    -- the lexeme's own token stands at `pos`, the later ones at or after its end
    have hemit : ∀ t ∈ l.emit pos, t.pos = pos ∧ t.text.toList = l.chars := by
      intro t ht
      simp only [Lexeme.emit] at ht
      split at ht
      · simp only [List.mem_singleton] at ht
        subst ht
        simp
      · cases ht
    refine ⟨?_, ?_⟩
    · rw [Lexeme.tokensFrom_cons, List.map_append, List.pairwise_append]
      refine ⟨?_, ihsorted, ?_⟩
      · simp only [Lexeme.emit]
        split <;> simp
      · intro a ha b hb
        obtain ⟨t, ht, rfl⟩ := List.mem_map.mp ha
        obtain ⟨u, hu, rfl⟩ := List.mem_map.mp hb
        have := (ihplaced u hu).1
        rw [(hemit t ht).1]
        omega
    · intro t ht
      rcases List.mem_append.mp ht with ht | ht
      · obtain ⟨hpos, htext⟩ := hemit t ht
        rw [hpos, Nat.sub_self, List.drop_zero, htext]
        exact ⟨Nat.le_refl _, List.prefix_append _ _⟩
      · obtain ⟨hle, hpre⟩ := ihplaced t ht
        refine ⟨by omega, ?_⟩
        have hshift : t.pos - pos = l.chars.length + (t.pos - (pos + l.length)) := by
          rw [Lexeme.length_chars]
          omega
        rw [hshift, List.drop_append, List.drop_eq_nil_of_le (by omega), List.nil_append,
          Nat.add_sub_cancel_left]
        exact hpre

/-- A text that does not scan stops at a character after a part that splits. -/
theorem scanFrom_error_spec (pos : Nat) (cs : List Char) (c : Char) (q : Nat)
    (h : scanFrom pos cs = .error (c, q)) :
    ∃ k, q = pos + k ∧ cs[k]? = some c ∧ ∃ ls, Splits (cs.take k) ls := by
  match cs with
  | [] =>
    rw [scanFrom] at h
    cases h
  | c' :: rest =>
    cases hl : Lexeme.first? (c' :: rest) with
    | none =>
      rw [scanFrom_of_first?_none hl] at h
      cases h
      exact ⟨0, rfl, rfl, [], .nil⟩
    | some l =>
      obtain ⟨after, hcs, hv, hf⟩ := Lexeme.first?_spec hl
      rw [hcs] at hl h
      rw [scanFrom_chars_append hl] at h
      cases hs : scanFrom (pos + l.length) after with
      | ok ts =>
        rw [hs] at h
        cases h
      | error err =>
        rw [hs] at h
        cases h
        have hlen : after.length < (c' :: rest).length := by
          rw [hcs, List.length_append, Lexeme.length_chars]
          simp [Lexeme.length]
        obtain ⟨k, rfl, hk, ls, hls⟩ := scanFrom_error_spec _ after c _ hs
        refine ⟨l.length + k, by omega, ?_, l :: ls, ?_⟩
        · rw [hcs, List.getElem?_append_right (by simp), Lexeme.length_chars, Nat.add_sub_cancel_left]
          exact hk
        · rw [hcs, List.take_append, Lexeme.length_chars, Nat.add_sub_cancel_left,
            List.take_of_length_le (by simp)]
          exact .cons hv (hf.take k) hls
termination_by cs.length
decreasing_by all_goals simp only [List.length_cons] at hlen ⊢; omega

theorem Token.scan_eq_ok_iff {source : String} {ts : List Token} :
    Token.scan source = .ok ts ↔ scanFrom 0 source.toList = .ok ts := by
  simp only [Token.scan]
  split <;> simp_all

theorem Token.scan_eq_error_iff {source : String} {e : LexError} :
    Token.scan source = .error e ↔ e.source = source ∧ scanFrom 0 source.toList = .error (e.char, e.pos) := by
  simp only [Token.scan]
  split
  next ts h => simp [h]
  next c pos h =>
    rw [h]
    constructor
    · intro heq
      cases heq
      exact ⟨rfl, rfl⟩
    · rintro ⟨hsource, heq⟩
      cases heq
      cases e
      simp_all

/-- Scanning reads a text exactly when the text splits into lexemes, each spelled as its kind
allows and followed by what may follow it; the splitting is unique, and the tokens are those of
its lexemes, in increasing order, each at the offset where its text stands. A text that does not
scan stops at the character its error names, and the text before that character scans. -/
theorem Token.scan_eq_ok_iff_splits (source : String) :
    (∀ ts, Token.scan source = .ok ts ↔
      ∃ ls, Splits source.toList ls ∧ ts = Lexeme.tokensFrom 0 ls) ∧
    (∀ ls ls', Splits source.toList ls → Splits source.toList ls' → ls = ls') ∧
    (∀ ts, Token.scan source = .ok ts →
      (ts.map Token.pos).Pairwise (· < ·) ∧ ∀ t ∈ ts, t.text.toList <+: source.toList.drop t.pos) ∧
    (∀ e, Token.scan source = .error e →
      source.toList[e.pos]? = some e.char ∧
        ∃ ts, Token.scan (String.ofList (source.toList.take e.pos)) = .ok ts) := by
  refine ⟨fun ts => ?_, fun _ _ h h' => h.unique h', fun ts hscan => ?_, fun e herr => ?_⟩
  · rw [Token.scan_eq_ok_iff]
    constructor
    · exact splits_of_scanFrom 0 _ ts
    · rintro ⟨ls, hls, rfl⟩
      exact scanFrom_of_splits hls 0
  · obtain ⟨ls, hls, rfl⟩ := splits_of_scanFrom 0 _ ts (Token.scan_eq_ok_iff.mp hscan)
    obtain ⟨hsorted, hplaced⟩ := hls.tokens_placed 0
    exact ⟨hsorted, fun t ht => by simpa using (hplaced t ht).2⟩
  · obtain ⟨-, hscan⟩ := Token.scan_eq_error_iff.mp herr
    obtain ⟨k, hk, hc, ls, hls⟩ := scanFrom_error_spec 0 _ _ _ hscan
    rw [Nat.zero_add] at hk
    subst hk
    refine ⟨hc, Lexeme.tokensFrom 0 ls, Token.scan_eq_ok_iff.mpr ?_⟩
    rw [String.toList_ofList]
    exact scanFrom_of_splits hls 0

end Calculator

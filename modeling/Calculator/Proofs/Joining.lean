import Calculator.Proofs.Splitting

/-!
Texts joined by blanks. A blank ends every lexeme but a run of blanks, and it is skipped
together with the blanks around it. So a text `a`, then blanks, then a text `b` scans as `a`
alone, then as `b` alone: the tokens of `b` move on by the length of what stands before it, an
error in `a` stays where it is, and an error in `b` moves with `b`.

The step that carries this is `scanFrom_append_of_blank`: scanning a text followed by a blank
is scanning the text, then what follows from where the text ends. A lexeme the scanner reads
inside the text is read the same when a blank follows the text (`Lexeme.Follows.append_blank`),
and a character where scanning stops still stops it (`first?_append_blank_none`).

Main statement: `Token.scan_append_blanks`.
-/

namespace Calculator

open Calculator.Text

/-- A token moved `k` places on. -/
def Token.shift (k : Nat) (t : Token) : Token :=
  { t with pos := t.pos + k }

namespace Lexeme

/-- A lexeme that reads a token holds no blank. -/
theorem Valid.not_blank {l : Lexeme} (hv : l.Valid) {k : TokenKind} (hk : l.kind = some k) :
    ∀ x ∈ l.chars, isBlank x = false := by
  obtain ⟨kind, c, more⟩ := l
  simp only at hk
  subst hk
  intro x hx
  cases k with
  | number =>
    rcases NumberText.mem hv x hx with rfl | hd
    · decide
    · exact isBlank_of_isAsciiDigit hd
  | function =>
    simp only [Valid, List.mem_cons, List.not_mem_nil, or_false] at hv
    rcases hv with h | h <;> rw [h] at hx <;>
      simp only [List.mem_cons, List.not_mem_nil, or_false] at hx <;>
      rcases hx with rfl | rfl | rfl <;> decide
  | operator =>
    simp only [Valid, List.mem_cons, List.not_mem_nil, or_false] at hv
    rcases hv with h | h | h | h <;> rw [h, List.mem_singleton] at hx <;> subst hx <;> decide
  | parenthesis =>
    simp only [Valid, List.mem_cons, List.not_mem_nil, or_false] at hv
    rcases hv with h | h <;> rw [h, List.mem_singleton] at hx <;> subst hx <;> decide
  | power | factorial =>
    simp only [Valid] at hv
    rw [hv, List.mem_singleton] at hx
    subst hx
    decide

/-- What may follow a lexeme may be followed by blanks, unless the lexeme is blanks that reach
the end. -/
theorem Follows.append_blank {l : Lexeme} {d rest : List Char} (h : l.Follows d)
    (hd : d ≠ [] ∨ l.kind ≠ none) (hrest : ∀ c ∈ rest.head?, isBlank c = true) :
    l.Follows (d ++ rest) := by
  -- the next character is the lexeme's own next one, or a blank where nothing followed
  have hhead : ∀ p : Char → Prop, (∀ c ∈ d.head?, p c) → (∀ c, isBlank c = true → p c) →
      ∀ c ∈ (d ++ rest).head?, p c := by
    intro p hp hblank c hc
    cases d with
    | nil => exact hblank c (hrest c (by simpa using hc))
    | cons x d => exact hp c (by simpa using hc)
  unfold Follows at h ⊢
  split
  next hk =>
    rw [hk] at h
    refine ⟨hhead _ h.1 fun c hc => isAsciiDigit_of_isBlank hc, fun hdot e r heq => ?_⟩
    -- a point and a digit after the number lie within the text: a blank is neither
    cases d with
    | nil =>
      rw [List.nil_append] at heq
      subst heq
      exact absurd (hrest '.' rfl) (by decide)
    | cons x d =>
      cases d with
      | nil =>
        simp only [List.cons_append, List.nil_append, List.cons.injEq] at heq
        obtain ⟨-, rfl⟩ := heq
        exact isAsciiDigit_of_isBlank (hrest e rfl)
      | cons y d' =>
        simp only [List.cons_append, List.cons.injEq] at heq
        obtain ⟨rfl, rfl, -⟩ := heq
        exact h.2 hdot _ d' rfl
  next hk =>
    rw [hk] at h
    exact hhead _ h fun c hc => isWordChar_of_isBlank hc
  next => trivial
  next hk =>
    rw [hk] at h
    -- blanks are followed by the text's own next character, which is not blank
    obtain ⟨x, d', rfl⟩ := List.exists_cons_of_ne_nil (hd.resolve_right (by simp [hk]))
    simpa using h

end Lexeme

theorem map_nil_append {ε : Type} (x : Except ε (List Token)) : x.map ([] ++ ·) = x := by
  cases x <;> rfl

/-- A run of blanks up to a character that is not blank is skipped as one lexeme. -/
theorem scanFrom_skip {pos : Nat} {c : Char} {more after : List Char}
    (hv : ∀ x ∈ c :: more, isBlank x = true) (hf : ∀ x ∈ after.head?, isBlank x = false) :
    scanFrom pos (c :: (more ++ after)) = scanFrom (pos + (more.length + 1)) after := by
  exact (@scanFrom_chars_append pos ⟨none, c, more⟩ after (Lexeme.first?_of_blanks hv hf)).trans
    (map_nil_append _)

/-- Blanks at the front are skipped, together with the blanks that follow them. -/
theorem scanFrom_blanks_append {pos : Nat} {w : List Char} (hw : ∀ x ∈ w, isBlank x = true)
    (rest : List Char) : scanFrom pos (w ++ rest) = scanFrom (pos + w.length) rest := by
  -- the blanks of `rest` at its front, and the character after them
  obtain ⟨tb, dr, rfl, htb, hdr⟩ : ∃ tb dr, rest = tb ++ dr ∧ (∀ x ∈ tb, isBlank x = true) ∧
      ∀ x ∈ dr.head?, isBlank x = false := by
    refine ⟨_, _, List.takeWhile_append_dropWhile.symm,
      fun x hx => List.all_eq_true.mp List.all_takeWhile x hx, fun x hx => ?_⟩
    have := List.head?_dropWhile_not isBlank rest
    rw [hx] at this
    exact this
  -- both sides skip to that character
  have hskip : ∀ (p : Nat) (u : List Char), (∀ x ∈ u, isBlank x = true) →
      scanFrom p (u ++ dr) = scanFrom (p + u.length) dr := by
    intro p u hu
    cases u with
    | nil => simp
    | cons c more => rw [List.cons_append, scanFrom_skip hu hdr, List.length_cons]
  have hwtb : ∀ x ∈ w ++ tb, isBlank x = true := fun x hx =>
    (List.mem_append.mp hx).elim (hw x) (htb x)
  rw [← List.append_assoc, hskip pos _ hwtb, hskip _ tb htb, List.length_append, Nat.add_assoc]

/-- A character where scanning stops still stops it when a blank follows the text. -/
theorem first?_append_blank_none {c : Char} {a rest : List Char}
    (h : Lexeme.first? (c :: a) = none) (hrest : ∀ x ∈ rest.head?, isBlank x = true) :
    Lexeme.first? (c :: (a ++ rest)) = none := by
  cases hl : Lexeme.first? (c :: (a ++ rest)) with
  | none => rfl
  | some l =>
    exfalso
    obtain ⟨after, hcs, hv, hf⟩ := Lexeme.first?_spec hl
    by_cases hlen : l.length ≤ (c :: a).length
    · -- the lexeme lies within the text, and would be read there too
      have hchars : l.chars = (c :: a).take l.length := by
        have := congrArg (List.take l.length) hcs
        rw [← List.cons_append, List.take_append_of_le_length hlen,
          List.take_left' (Lexeme.length_chars l)] at this
        exact this.symm
      have hafter : after = (c :: a).drop l.length ++ rest := by
        have := congrArg (List.drop l.length) hcs
        rw [← List.cons_append, List.drop_append_of_le_length hlen,
          List.drop_left' (Lexeme.length_chars l)] at this
        exact this.symm
      have hfollows := hf.take ((c :: a).drop l.length).length
      rw [hafter, List.take_left' rfl] at hfollows
      have hfirst := Lexeme.first?_of_valid hv hfollows
      rw [hchars, List.take_append_drop, h] at hfirst
      cases hfirst
    · -- the lexeme reaches the blank after the text, so it is blanks, and so is `c`
      obtain ⟨b, rest', rfl⟩ : ∃ b rest', rest = b :: rest' := by
        cases rest with
        | nil =>
          have := congrArg List.length hcs
          simp only [List.length_cons, List.append_nil, List.length_append,
            Lexeme.length_chars] at this hlen
          omega
        | cons b rest' => exact ⟨b, rest', rfl⟩
      have hb : isBlank b = true := hrest b rfl
      have hmem : b ∈ l.chars := by
        have := congrArg (List.take l.length) hcs
        rw [List.take_left' (Lexeme.length_chars l)] at this
        rw [← this, ← List.cons_append]
        apply List.mem_take_iff_getElem.mpr
        refine ⟨(c :: a).length, by simp at hlen ⊢; omega, ?_⟩
        simp
      have hkind : l.kind = none := by
        cases hk : l.kind with
        | none => rfl
        | some k =>
          rw [hv.not_blank hk b hmem] at hb
          cases hb
      have hc : isBlank c = true := by
        have hcl : c = l.first := by
          have := congrArg List.head? hcs
          simpa [Lexeme.chars] using this
        have hvb : ∀ x ∈ l.chars, isBlank x = true := by
          simpa only [Lexeme.Valid, hkind] using hv
        exact hcl ▸ hvb l.first (List.mem_cons_self ..)
      have hblank : ∀ x ∈ c :: a.takeWhile isBlank, isBlank x = true := by
        intro x hx
        rcases List.mem_cons.mp hx with rfl | hx
        · exact hc
        · exact List.all_eq_true.mp List.all_takeWhile x hx
      have hnext : ∀ x ∈ (a.dropWhile isBlank).head?, isBlank x = false := by
        intro x hx
        have := List.head?_dropWhile_not isBlank a
        rw [hx] at this
        exact this
      have hfirst := Lexeme.first?_of_blanks hblank hnext
      rw [List.takeWhile_append_dropWhile, h] at hfirst
      cases hfirst

/-- A text followed by a blank scans as it does alone, then what follows from where it ends. -/
theorem scanFrom_append_of_blank (pos : Nat) (a : List Char) {rest : List Char}
    (hrest : ∀ x ∈ rest.head?, isBlank x = true) :
    scanFrom pos (a ++ rest) =
      scanFrom pos a >>= fun A => (scanFrom (pos + a.length) rest).map (A ++ ·) := by
  match a with
  | [] =>
    rw [List.nil_append, scanFrom]
    exact (map_nil_append _).symm
  | c :: a' =>
    cases hl : Lexeme.first? (c :: a') with
    | none =>
      rw [scanFrom_of_first?_none hl, List.cons_append,
        scanFrom_of_first?_none (first?_append_blank_none hl hrest)]
      rfl
    | some l =>
      obtain ⟨d, hcs, hv, hf⟩ := Lexeme.first?_spec hl
      rw [hcs]
      rw [hcs] at hl
      by_cases hend : l.kind = none ∧ d = []
      · -- the text ends in blanks that merge with the blank after it
        obtain ⟨hk, rfl⟩ := hend
        have hvb : ∀ x ∈ l.chars, isBlank x = true := by
          simpa only [Lexeme.Valid, hk] using hv
        rw [List.append_nil, scanFrom_blanks_append hvb,
          (by simpa using scanFrom_blanks_append hvb [] :
            scanFrom pos l.chars = scanFrom (pos + l.chars.length) [])]
        rw [scanFrom]
        exact (map_nil_append _).symm
      · have hd : d ≠ [] ∨ l.kind ≠ none := by
          by_cases hk : l.kind = none
          · exact .inl fun hnil => hend ⟨hk, hnil⟩
          · exact .inr hk
        have hlen : d.length < (c :: a').length := by
          rw [hcs, List.length_append, Lexeme.length_chars]
          simp [Lexeme.length]
        rw [List.append_assoc,
          scanFrom_chars_append (Lexeme.first?_of_valid hv (hf.append_blank hd hrest)),
          scanFrom_append_of_blank (pos + l.length) d hrest, scanFrom_chars_append hl]
        cases scanFrom (pos + l.length) d with
        | error err => rfl
        | ok D =>
          simp only [List.length_append, Lexeme.length_chars, Nat.add_assoc]
          cases scanFrom (pos + (l.length + d.length)) rest <;> simp [Except.map, bind,
            Except.bind]
termination_by a.length
decreasing_by all_goals simp only [List.length_cons] at hlen ⊢; omega

/-- Scanning from a later position moves every token and the error by as much. -/
theorem scanFrom_add (pos k : Nat) (cs : List Char) :
    scanFrom (pos + k) cs =
      ((scanFrom pos cs).map (·.map (Token.shift k))).mapError fun e => (e.1, e.2 + k) := by
  match cs with
  | [] =>
    rw [scanFrom, scanFrom]
    rfl
  | c :: rest =>
    cases hl : Lexeme.first? (c :: rest) with
    | none =>
      rw [scanFrom_of_first?_none hl, scanFrom_of_first?_none hl]
      rfl
    | some l =>
      have hpos : 0 < l.length := Nat.succ_pos _
      rw [scanFrom_of_first? hl, scanFrom_of_first? hl, Nat.add_right_comm,
        scanFrom_add (pos + l.length) k]
      -- the lexeme's own token moves with the rest
      have hemit : l.emit (pos + k) = (l.emit pos).map (Token.shift k) := by
        simp only [Lexeme.emit]
        split <;> rfl
      rw [hemit]
      cases scanFrom (pos + l.length) ((c :: rest).drop l.length) <;>
        simp [Except.map]
termination_by cs.length

/-- Joining two texts with blanks between them scans each text on its own: the tokens of the
second move on by the length of what stands before it; an error in the first text stays where
it is, and an error in the second moves with it. -/
theorem Token.scan_append_blanks (a w b : String) (hw : w ≠ "")
    (hblank : ∀ c ∈ w.toList, isBlank c = true) :
    (∀ A B, Token.scan a = .ok A → Token.scan b = .ok B →
      Token.scan (a ++ w ++ b) = .ok (A ++ B.map (Token.shift (a.length + w.length)))) ∧
    (∀ e, Token.scan a = .error e →
      Token.scan (a ++ w ++ b) = .error ⟨a ++ w ++ b, e.pos, e.char⟩) ∧
    (∀ A e, Token.scan a = .ok A → Token.scan b = .error e →
      Token.scan (a ++ w ++ b) = .error ⟨a ++ w ++ b, a.length + w.length + e.pos, e.char⟩) := by
  have hhead : ∀ x ∈ (w.toList ++ b.toList).head?, isBlank x = true := by
    obtain ⟨x, w', hx⟩ := List.exists_cons_of_ne_nil fun h => hw (String.toList_eq_nil_iff.mp h)
    rw [hx]
    intro y hy
    simp only [List.cons_append, List.head?_cons, Option.mem_def, Option.some.injEq] at hy
    subst hy
    exact hblank x (by rw [hx]; exact List.mem_cons_self ..)
  -- the joined text scans as `a`, then as `b` from where the blanks after `a` end
  have hjoin : scanFrom 0 (a ++ w ++ b).toList =
      scanFrom 0 a.toList >>= fun A =>
        (((scanFrom 0 b.toList).map (·.map (Token.shift (a.length + w.length)))).mapError
          fun e => (e.1, e.2 + (a.length + w.length))).map (A ++ ·) := by
    rw [String.toList_append, String.toList_append, List.append_assoc,
      scanFrom_append_of_blank 0 _ hhead, scanFrom_blanks_append hblank, ← scanFrom_add,
      String.length_toList, String.length_toList]
    simp
  refine ⟨fun A B ha hb => ?_, fun e ha => ?_, fun A e ha hb => ?_⟩
  · rw [Token.scan_eq_ok_iff, hjoin, Token.scan_eq_ok_iff.mp ha, Token.scan_eq_ok_iff.mp hb]
    rfl
  · obtain ⟨-, ha⟩ := Token.scan_eq_error_iff.mp ha
    rw [Token.scan_eq_error_iff, hjoin, ha]
    exact ⟨rfl, rfl⟩
  · obtain ⟨-, hb⟩ := Token.scan_eq_error_iff.mp hb
    rw [Token.scan_eq_error_iff, hjoin, Token.scan_eq_ok_iff.mp ha, hb]
    exact ⟨rfl, by simp [Except.map, bind, Except.bind, Nat.add_comm]⟩

/-- `2`, a blank, then `+3`. -/
theorem scan_append_blanks_two_plus_three :
    " " ≠ "" ∧ (∀ c ∈ " ".toList, isBlank c = true) ∧
      ((∀ A B, Token.scan "2" = .ok A → Token.scan "+3" = .ok B →
        Token.scan ("2" ++ " " ++ "+3") =
          .ok (A ++ B.map (Token.shift ("2".length + " ".length)))) ∧
      (∀ e, Token.scan "2" = .error e →
        Token.scan ("2" ++ " " ++ "+3") = .error ⟨"2" ++ " " ++ "+3", e.pos, e.char⟩) ∧
      (∀ A e, Token.scan "2" = .ok A → Token.scan "+3" = .error e →
        Token.scan ("2" ++ " " ++ "+3") =
          .error ⟨"2" ++ " " ++ "+3", "2".length + " ".length + e.pos, e.char⟩)) := by
  have hblank : ∀ c ∈ " ".toList, isBlank c = true := by
    intro c hc
    rw [show " ".toList = [' '] from rfl, List.mem_singleton] at hc
    subst hc
    decide
  exact ⟨by decide, hblank, Token.scan_append_blanks "2" " " "+3" (by decide) hblank⟩

end Calculator

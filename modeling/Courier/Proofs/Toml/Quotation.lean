import Courier.Toml.Quotation
import Courier.Toml.QuotationForm

/-!
# Quoted strings are read back

A text is found again between the quotes it is written in, whichever of the four forms was chosen
and whatever follows, as long as that is no further quote. The reader has to tell quotes that belong
to a text from those that close it, so the forms of several lines are treated up to two quotes
ahead.
-/

namespace Courier.Toml

/-! ## Characters -/

/-- A character of a class differs from one that is not in it. -/
theorem ne_of_holds {holds : Char → Bool} {c d : Char} (hc : holds c = true)
    (hd : holds d = false) : c ≠ d := by
  intro heq
  rw [heq, hd] at hc
  cases hc

/-- A character that is written as it is between double quotes is read as it is. -/
theorem isBasicChar_of_not_isEscaped {c : Char} (hquote : c ≠ '"') (hline : c ≠ '\n')
    (hplain : isEscaped c = false) : isBasicChar c = true := by
  simp only [isEscaped, isForbiddenControl, Bool.or_eq_false_iff, Bool.and_eq_false_iff,
    beq_eq_false_iff_ne, bne_eq_false_iff_eq, decide_eq_false_iff_not] at hplain
  obtain ⟨⟨hback, htab⟩, hlow, hdel⟩ := hplain
  have hspace : 0x20 ≤ c.toNat := by
    rcases hlow with (h | h) | h
    · omega
    · exact absurd h htab
    · exact absurd h hline
  simp only [isBasicChar, isNonAscii, Bool.or_eq_true, Bool.and_eq_true, beq_iff_eq, bne_iff_ne,
    decide_eq_true_eq]
  by_cases hascii : c.toNat ≤ 0x7E
  · exact .inl (.inr ⟨⟨⟨hspace, hascii⟩, hquote⟩, hback⟩)
  · exact .inr (by omega)

/-- A character of a text without forbidden controls is read as it is between single quotes. -/
theorem isLiteralChar_of_not_isForbiddenControl {c : Char} (hquote : c ≠ '\'') (hline : c ≠ '\n')
    (hplain : isForbiddenControl c = false) : isLiteralChar c = true := by
  simp only [isForbiddenControl, Bool.or_eq_false_iff, Bool.and_eq_false_iff,
    beq_eq_false_iff_ne, bne_eq_false_iff_eq, decide_eq_false_iff_not] at hplain
  obtain ⟨hlow, hdel⟩ := hplain
  simp only [isLiteralChar, isNonAscii, Bool.or_eq_true, Bool.and_eq_true, beq_iff_eq, bne_iff_ne,
    decide_eq_true_eq]
  rcases hlow with (h | h) | h
  · by_cases hascii : c.toNat ≤ 0x7E
    · exact .inl (.inr ⟨⟨by omega, hascii⟩, hquote⟩)
    · exact .inr (by omega)
  · exact .inl (.inl h)
  · exact absurd h hline

/-- Four hexadecimal digits are read as the ASCII character that they were written for. -/
theorem codePoint?_paddedHex {n : Nat} (hn : n < 128) :
    ∃ a b c d, Text.paddedHex 4 n = [a, b, c, d] ∧
      codePoint? [a, b, c, d] = some (Char.ofNat n) := by
  have hall : ∀ n < 128, (Text.paddedHex 4 n).length = 4 ∧
      codePoint? (Text.paddedHex 4 n) = some (Char.ofNat n) := by decide
  obtain ⟨hlength, hpoint⟩ := hall n hn
  match hds : Text.paddedHex 4 n, hlength with
  | [a, b, c, d], _ => exact ⟨a, b, c, d, rfl, hds ▸ hpoint⟩

/-- The characters that are escaped by a letter. -/
def letterEscaped : List Char :=
  ['\x08', '\t', '\n', '\x0c', '\r', '"', '\\']

/-- An escaped character without a letter of its own is written by its code point. -/
theorem escapeChar_eq_codePoint {c : Char} (hc : c = '"' ∨ c = '\n' ∨ isEscaped c = true)
    (hletter : c ∉ letterEscaped) :
    escapeChar c = '\\' :: 'u' :: Text.paddedHex 4 c.toNat ∧ c.toNat < 128 := by
  simp only [letterEscaped, List.mem_cons, List.not_mem_nil, or_false, not_or] at hletter
  obtain ⟨hb, ht, hn, hf, hr, hquote, hback⟩ := hletter
  refine ⟨by simp [escapeChar, hb, ht, hn, hf, hr, hquote, hback], ?_⟩
  simp only [hquote, hn, false_or, isEscaped, isForbiddenControl, Bool.or_eq_true, beq_iff_eq,
    Bool.and_eq_true, decide_eq_true_eq, bne_iff_ne, ht, hback] at hc
  omega

/-! ## Strings on one line -/

theorem basicLine_cons {c : Char} (hc : isBasicChar c = true) (rest : List Char) :
    basicLine (c :: rest) = consRead c (basicLine rest) := by
  have hquote : c ≠ '"' := ne_of_holds hc (by decide)
  have hback : c ≠ '\\' := ne_of_holds hc (by decide)
  rw [basicLine.eq_def]
  split <;> simp_all

theorem basicLine_escapeChar {c : Char} (hc : c = '"' ∨ c = '\n' ∨ isEscaped c = true)
    (rest : List Char) : basicLine (escapeChar c ++ rest) = consRead c (basicLine rest) := by
  by_cases hletter : c ∈ letterEscaped
  · simp only [letterEscaped, List.mem_cons, List.not_mem_nil, or_false] at hletter
    rcases hletter with rfl | rfl | rfl | rfl | rfl | rfl | rfl <;> rfl
  · obtain ⟨hescape, hsmall⟩ := escapeChar_eq_codePoint hc hletter
    obtain ⟨d₁, d₂, d₃, d₄, hdigits, hpoint⟩ := codePoint?_paddedHex hsmall
    rw [hescape, hdigits]
    simp [basicLine, hpoint]

theorem basicLine_escapeLine (cs rest : List Char) :
    basicLine (escapeLine cs ++ '"' :: rest) = some (cs, rest) := by
  induction cs with
  | nil => rfl
  | cons c cs ih =>
      rw [escapeLine, List.flatMap_cons, List.append_assoc]
      split
      next hescape =>
        simp only [Bool.or_eq_true, decide_eq_true_eq, or_assoc] at hescape
        rw [basicLine_escapeChar hescape]
        rw [escapeLine] at ih
        rw [ih]
        rfl
      next hplain =>
        simp only [Bool.or_eq_true, decide_eq_true_eq, not_or, Bool.not_eq_true] at hplain
        obtain ⟨⟨hquote, hline⟩, hescaped⟩ := hplain
        rw [List.singleton_append,
          basicLine_cons (isBasicChar_of_not_isEscaped hquote hline hescaped)]
        rw [escapeLine] at ih
        rw [ih]
        rfl

theorem literalLine_append {cs : List Char} (hcs : ∀ c ∈ cs, isLiteralChar c = true)
    (rest : List Char) : literalLine (cs ++ '\'' :: rest) = some (cs, rest) := by
  induction cs with
  | nil => rfl
  | cons c cs ih =>
      have hc := hcs c List.mem_cons_self
      have hquote : c ≠ '\'' := ne_of_holds hc (by decide)
      have hstep : literalLine (c :: (cs ++ '\'' :: rest)) =
          consRead c (literalLine (cs ++ '\'' :: rest)) := by
        rw [literalLine.eq_def]
        split <;> simp_all
      rw [List.cons_append, hstep, ih fun d hd => hcs d (List.mem_cons_of_mem _ hd)]
      rfl

/-! ## Strings on several lines -/

theorem basicLines_line (rest : List Char) :
    basicLines .text ('\n' :: rest) = consRead '\n' (basicLines .text rest) := by
  rw [basicLines.eq_def]
  rfl

theorem basicLines_cons {c : Char} (hc : isBasicChar c = true) (rest : List Char) :
    basicLines .text (c :: rest) = consRead c (basicLines .text rest) := by
  have hquote : c ≠ '"' := ne_of_holds hc (by decide)
  have hback : c ≠ '\\' := ne_of_holds hc (by decide)
  have hline : c ≠ '\n' := ne_of_holds hc (by decide)
  have hreturn : c ≠ '\r' := ne_of_holds hc (by decide)
  rw [basicLines.eq_def]
  split <;> simp_all

theorem basicLines_escapeChar {c : Char} (hc : c = '"' ∨ c = '\n' ∨ isEscaped c = true)
    (rest : List Char) :
    basicLines .text (escapeChar c ++ rest) = consRead c (basicLines .text rest) := by
  by_cases hletter : c ∈ letterEscaped
  · simp only [letterEscaped, List.mem_cons, List.not_mem_nil, or_false] at hletter
    rcases hletter with rfl | rfl | rfl | rfl | rfl | rfl | rfl <;> rfl
  · obtain ⟨hescape, hsmall⟩ := escapeChar_eq_codePoint hc hletter
    obtain ⟨d₁, d₂, d₃, d₄, hdigits, hpoint⟩ := codePoint?_paddedHex hsmall
    rw [hescape, hdigits]
    simp [basicLines, hpoint]

/-- A quote belongs to the text unless two more follow. -/
theorem basicLines_quote {rest : List Char} (hrest : ∀ more, rest ≠ '"' :: '"' :: more) :
    basicLines .text ('"' :: rest) = consRead '"' (basicLines .text rest) := by
  rw [basicLines.eq_def]
  split <;> grind

/-- Three quotes close a text; one or two before them belong to it. -/
theorem basicLines_close {rest : List Char} (hrest : rest.head? ≠ some '"') (count : Nat)
    (hcount : count ≤ 2) :
    basicLines .text (List.replicate (count + 3) '"' ++ rest) =
      some (List.replicate count '"', rest) := by
  match count, hcount with
  | 0, _ =>
      cases rest with
      | nil => rfl
      | cons c rest =>
          have hc : c ≠ '"' := fun h => hrest (h ▸ rfl)
          change basicLines .text ('"' :: '"' :: '"' :: c :: rest) = _
          rw [basicLines.eq_def]
          split <;> grind
  | 1, _ =>
      cases rest with
      | nil => rfl
      | cons c rest =>
          have hc : c ≠ '"' := fun h => hrest (h ▸ rfl)
          change basicLines .text ('"' :: '"' :: '"' :: '"' :: c :: rest) = _
          rw [basicLines.eq_def]
          split <;> grind
  | 2, _ => rfl

theorem escapeChar_eq_backslash_cons (c : Char) : ∃ cs, escapeChar c = '\\' :: cs := by
  unfold escapeChar
  repeat' split
  all_goals exact ⟨_, rfl⟩

/-- The inside of a string does not start with a quote after two of them, or where the text does not
start with one. -/
theorem escapeLines_cons_head {run : Nat} {c : Char} (hc : c ≠ '"' ∨ run = 2) (cs : List Char) :
    ∃ d ds, escapeLines run (c :: cs) = d :: ds ∧ d ≠ '"' := by
  rw [escapeLines]
  split
  next hquote =>
    rw [if_pos (hc.resolve_left (fun hne => hne hquote))]
    exact ⟨_, _, rfl, by decide⟩
  next hne =>
    split
    next =>
      obtain ⟨ds, hescape⟩ := escapeChar_eq_backslash_cons c
      rw [hescape]
      exact ⟨_, _, rfl, by decide⟩
    next => exact ⟨_, _, rfl, hne⟩

/-- After a quote that is no part of the closing ones, no two quotes follow. -/
theorem escapeLines_no_pair {run : Nat} {cs rest : List Char} (hrun : run = 1 ∨ run = 2)
    (hne : cs ≠ []) (hlast : run = 1 → cs ≠ ['"']) (more : List Char) :
    escapeLines run cs ++ rest ≠ '"' :: '"' :: more := by
  cases cs with
  | nil => exact absurd rfl hne
  | cons c cs =>
      by_cases hhead : c ≠ '"' ∨ run = 2
      · obtain ⟨d, ds, hds, hd⟩ := escapeLines_cons_head hhead cs
        rw [hds]
        exact fun heq => hd (List.cons.inj heq).1
      · obtain ⟨hquote, htwo⟩ := not_or.mp hhead
        have hone := hrun.resolve_right htwo
        have hc : c = '"' := Decidable.not_not.mp hquote
        subst hone
        subst hc
        cases cs with
        | nil => exact absurd rfl (hlast rfl)
        | cons e es =>
            obtain ⟨d, ds, hds, hd⟩ := escapeLines_cons_head (c := e) (.inr rfl) es
            rw [escapeLines, if_pos rfl, if_neg (by decide), hds]
            intro heq
            exact hd (List.cons.inj (List.cons.inj heq).2).1

theorem basicLines_escapeLines {rest : List Char} (hrest : rest.head? ≠ some '"')
    (cs : List Char) : ∀ run ≤ 2,
    basicLines .text (escapeLines run cs ++ '"' :: '"' :: '"' :: rest) = some (cs, rest) := by
  -- `run` counts the quotes that were written last, so that never three of them follow each other.
  induction cs with
  | nil => exact fun _ _ => basicLines_close hrest 0 (by decide)
  | cons c cs ih =>
      intro run hrun
      by_cases hquote : c = '"'
      · subst hquote
        by_cases htwo : run = 2
        · have hescape := basicLines_escapeChar (c := '"') (.inl rfl)
            (escapeLines 0 cs ++ '"' :: '"' :: '"' :: rest)
          rw [ih 0 (by decide)] at hescape
          rw [escapeLines, if_pos rfl, if_pos htwo]
          exact hescape
        · rw [escapeLines, if_pos rfl, if_neg htwo, List.cons_append]
          -- The quotes at the end of the text run into the closing ones.
          by_cases hnil : cs = []
          · subst hnil
            exact basicLines_close hrest 1 (by decide)
          by_cases hlast : run + 1 = 1 ∧ cs = ['"']
          · obtain ⟨hzero, rfl⟩ := hlast
            rw [hzero]
            exact basicLines_close hrest 2 (by decide)
          rw [basicLines_quote (escapeLines_no_pair (by omega) hnil
            fun hone heq => hlast ⟨hone, heq⟩), ih (run + 1) (by omega)]
          rfl
      · rw [escapeLines, if_neg hquote]
        split
        next hescaped =>
          rw [List.append_assoc, basicLines_escapeChar (.inr (.inr hescaped)), ih 0 (by decide)]
          rfl
        next hplain =>
          rw [List.cons_append]
          by_cases hline : c = '\n'
          · rw [hline, basicLines_line, ih 0 (by decide)]
            rfl
          · rw [basicLines_cons (isBasicChar_of_not_isEscaped hquote hline
              (Bool.not_eq_true _ ▸ hplain)), ih 0 (by decide)]
            rfl

theorem literalLines_line (rest : List Char) :
    literalLines ('\n' :: rest) = consRead '\n' (literalLines rest) := by
  rw [literalLines.eq_def]
  rfl

theorem literalLines_cons {c : Char} (hc : isLiteralChar c = true) (rest : List Char) :
    literalLines (c :: rest) = consRead c (literalLines rest) := by
  have hquote : c ≠ '\'' := ne_of_holds hc (by decide)
  have hline : c ≠ '\n' := ne_of_holds hc (by decide)
  have hreturn : c ≠ '\r' := ne_of_holds hc (by decide)
  rw [literalLines.eq_def]
  split <;> simp_all

theorem literalLines_quote {rest : List Char} (hrest : ∀ more, rest ≠ '\'' :: '\'' :: more) :
    literalLines ('\'' :: rest) = consRead '\'' (literalLines rest) := by
  rw [literalLines.eq_def]
  split <;> grind

theorem literalLines_close {rest : List Char} (hrest : rest.head? ≠ some '\'') (count : Nat)
    (hcount : count ≤ 2) :
    literalLines (List.replicate (count + 3) '\'' ++ rest) =
      some (List.replicate count '\'', rest) := by
  match count, hcount with
  | 0, _ =>
      cases rest with
      | nil => rfl
      | cons c rest =>
          have hc : c ≠ '\'' := fun h => hrest (h ▸ rfl)
          change literalLines ('\'' :: '\'' :: '\'' :: c :: rest) = _
          rw [literalLines.eq_def]
          split <;> grind
  | 1, _ =>
      cases rest with
      | nil => rfl
      | cons c rest =>
          have hc : c ≠ '\'' := fun h => hrest (h ▸ rfl)
          change literalLines ('\'' :: '\'' :: '\'' :: '\'' :: c :: rest) = _
          rw [literalLines.eq_def]
          split <;> grind
  | 2, _ => rfl

theorem hasTriple_tail {q c : Char} {cs : List Char} (h : hasTriple q (c :: cs) = false) :
    hasTriple q cs = false := by
  match cs with
  | [] => rfl
  | [_] => rfl
  | _ :: _ :: _ =>
      rw [hasTriple, Bool.or_eq_false_iff] at h
      exact h.2

/-- After a quote of a text without three in a row, two quotes follow only at its end. -/
theorem no_pair_of_not_hasTriple {q : Char} {cs rest : List Char}
    (htriple : hasTriple q (q :: cs) = false) (hne : cs ≠ []) (hlast : cs ≠ [q])
    (more : List Char) : cs ++ rest ≠ q :: q :: more := by
  match cs with
  | [] => exact absurd rfl hne
  | [c] =>
      intro heq
      exact hlast (by rw [(List.cons.inj heq).1])
  | c :: d :: ds =>
      intro heq
      obtain ⟨hc, htail⟩ := List.cons.inj heq
      have hd := (List.cons.inj htail).1
      exact absurd htriple (by simp [hasTriple, hc, hd])

theorem literalLines_append {cs rest : List Char} (hrest : rest.head? ≠ some '\'')
    (hcs : ∀ c ∈ cs, isForbiddenControl c = false) (htriple : hasTriple '\'' cs = false) :
    literalLines (cs ++ '\'' :: '\'' :: '\'' :: rest) = some (cs, rest) := by
  induction cs with
  | nil => exact literalLines_close hrest 0 (by decide)
  | cons c cs ih =>
      have htail := ih (fun d hd => hcs d (List.mem_cons_of_mem _ hd)) (hasTriple_tail htriple)
      rw [List.cons_append]
      by_cases hquote : c = '\''
      · subst hquote
        -- The quotes at the end of the text run into the closing ones.
        by_cases hnil : cs = []
        · subst hnil
          exact literalLines_close hrest 1 (by decide)
        by_cases hlast : cs = ['\'']
        · subst hlast
          exact literalLines_close hrest 2 (by decide)
        rw [literalLines_quote (no_pair_of_not_hasTriple htriple hnil hlast), htail]
        rfl
      · by_cases hline : c = '\n'
        · rw [hline, literalLines_line, htail]
          rfl
        · rw [literalLines_cons (isLiteralChar_of_not_isForbiddenControl hquote hline
            (hcs c List.mem_cons_self)), htail]
          rfl

/-! ## Strings of any form -/

/-- The line end that opens a text of several lines is dropped, and nothing else is. -/
theorem dropLineEnd_opening {cs text : List Char}
    (htext : '\n' ∉ cs → ∀ c ∈ text.head?, c ≠ '\n' ∧ c ≠ '\r') :
    dropLineEnd ((if '\n' ∈ cs then ['\n'] else []) ++ text) = text := by
  split
  next => rfl
  next hline =>
    match text, htext hline with
    | [], _ => rfl
    | c :: rest, hhead =>
        obtain ⟨hfeed, hreturn⟩ := hhead c rfl
        rw [List.nil_append, dropLineEnd.eq_def]
        split <;> simp_all

theorem quotation_basicLine {cs : List Char} (hcs : ∀ more, cs ≠ '"' :: '"' :: more) :
    quotation ('"' :: cs) = basicLine cs := by
  rw [quotation.eq_def]
  split <;> simp_all [quotedLine]

theorem quotation_literalLine {cs : List Char} (hcs : cs.head? ≠ some '\'') :
    quotation ('\'' :: cs) = literalLine cs := by
  rw [quotation.eq_def]
  split <;> simp_all [quotedLine]

theorem escapeLine_no_pair {cs rest : List Char} (hrest : rest.head? ≠ some '"')
    (more : List Char) : escapeLine cs ++ '"' :: rest ≠ '"' :: '"' :: more := by
  cases cs with
  | nil =>
      intro heq
      rw [(List.cons.inj heq).2] at hrest
      exact hrest rfl
  | cons c cs =>
      rw [escapeLine, List.flatMap_cons]
      split
      next =>
        obtain ⟨ds, hescape⟩ := escapeChar_eq_backslash_cons c
        rw [hescape]
        intro heq
        exact absurd (List.cons.inj heq).1 (by decide)
      next hplain =>
        intro heq
        exact hplain (by simp [(List.cons.inj heq).1])

/-- The inside of a string of several lines does not start with a line end of its own. -/
theorem escapeLines_head {cs : List Char} (hline : '\n' ∉ cs) (rest : List Char) :
    ∀ c ∈ (escapeLines 0 cs ++ '"' :: rest).head?, c ≠ '\n' ∧ c ≠ '\r' := by
  intro d hd
  cases cs with
  | nil =>
      rw [← Option.some.inj hd]
      decide
  | cons c cs =>
      rw [escapeLines] at hd
      split at hd
      next =>
        rw [if_neg (by decide)] at hd
        rw [← Option.some.inj hd]
        decide
      next =>
        split at hd
        next =>
          obtain ⟨ds, hescape⟩ := escapeChar_eq_backslash_cons c
          rw [hescape] at hd
          rw [← Option.some.inj hd]
          decide
        next hplain =>
          rw [← Option.some.inj hd]
          refine ⟨fun hc => hline (hc ▸ List.mem_cons_self), ?_⟩
          rintro rfl
          exact hplain (by decide)

/-- A form without escapes is chosen only for a text that it can hold. -/
theorem holds_of {cs : List Char} (hform : QuotationForm.of cs = .literal ∨
    QuotationForm.of cs = .literalLines) :
    QuotationForm.holds cs (QuotationForm.of cs) = true := by
  unfold QuotationForm.of at hform ⊢
  split
  next form hfind => exact List.find?_some hfind
  next hnone =>
    rw [hnone] at hform
    dsimp only at hform
    split at hform <;> rcases hform with h | h <;> exact absurd h (by decide)

/-- A quoted text is read back, unless a further quote follows it. -/
theorem quotation_quote (cs : List Char) {rest : List Char} (hdouble : rest.head? ≠ some '"')
    (hsingle : rest.head? ≠ some '\'') : quotation (quote cs ++ rest) = some (cs, rest) := by
  unfold quote
  split
  next =>
    change quotation ('"' :: (escapeLine cs ++ ['"'] ++ rest)) = _
    rw [List.append_assoc, List.singleton_append, quotation_basicLine (escapeLine_no_pair hdouble),
      basicLine_escapeLine]
  next hform =>
    have hholds := holds_of (.inl hform)
    simp only [hform, QuotationForm.holds, List.all_eq_true, Bool.and_eq_true, bne_iff_ne,
      Bool.not_eq_true'] at hholds
    have hliteral : ∀ c ∈ cs, isLiteralChar c = true := fun c hc =>
      isLiteralChar_of_not_isForbiddenControl (hholds c hc).1.1 (hholds c hc).1.2 (hholds c hc).2
    change quotation ('\'' :: (cs ++ ['\''] ++ rest)) = _
    rw [List.append_assoc, List.singleton_append]
    cases cs with
    | nil => exact absurd hform (by decide)
    | cons c cs =>
        have hc : c ≠ '\'' := (hholds c List.mem_cons_self).1.1
        rw [quotation_literalLine (by simpa using hc), literalLine_append hliteral]
  next =>
    change basicLines .text (dropLineEnd ((if '\n' ∈ cs then ['\n'] else []) ++ escapeLines 0 cs ++
      ['"', '"', '"'] ++ rest)) = _
    simp only [List.append_assoc, List.cons_append, List.nil_append]
    rw [dropLineEnd_opening (fun hline => escapeLines_head hline _),
      basicLines_escapeLines hdouble cs 0 (by decide)]
  next hform =>
    have hholds := holds_of (.inr hform)
    simp only [hform, QuotationForm.holds, List.all_eq_true, Bool.and_eq_true,
      Bool.not_eq_true'] at hholds
    obtain ⟨hplain, htriple⟩ := hholds
    change literalLines (dropLineEnd ((if '\n' ∈ cs then ['\n'] else []) ++ cs ++
      ['\'', '\'', '\''] ++ rest)) = _
    simp only [List.append_assoc, List.cons_append, List.nil_append]
    rw [dropLineEnd_opening, literalLines_append hsingle hplain htriple]
    intro hline c hc
    cases cs with
    | nil =>
        rw [← Option.some.inj hc]
        decide
    | cons d ds =>
        rw [← Option.some.inj hc]
        refine ⟨fun hd => hline (hd ▸ List.mem_cons_self), ?_⟩
        rintro rfl
        exact absurd (hplain '\r' List.mem_cons_self) (by decide)

end Courier.Toml

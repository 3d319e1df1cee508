import Courier.Proofs.Text.Numeral
import Courier.Proofs.Toml.Quotation
import Courier.Toml.Grammar
import Courier.Toml.Printer
import Mathlib.Data.Option.Basic

/-!
# Lines are read back

The lines that the printer writes are read as what they say: a bare key with a plain value, and the
headers of tables and of elements of lists. Every reader is followed in front of an arbitrary rest.
-/

namespace Courier.Toml

/-! ## Keys -/

/-- Whether a key can be written without quotes. -/
def isBareKey (key : String) : Bool :=
  !key.toList.isEmpty && key.toList.all isBareKeyChar

theorem isBareKey_iff {key : String} :
    isBareKey key = true ↔ key.toList ≠ [] ∧ ∀ c ∈ key.toList, isBareKeyChar c = true := by
  simp [isBareKey]

theorem toList_eq_cons_of_isBareKey {key : String} (hkey : isBareKey key = true) :
    ∃ c cs, key.toList = c :: cs ∧ isBareKeyChar c = true := by
  obtain ⟨hne, hbare⟩ := isBareKey_iff.mp hkey
  cases hcs : key.toList with
  | nil => exact absurd hcs hne
  | cons c cs => exact ⟨c, cs, rfl, hbare c (hcs ▸ List.mem_cons_self)⟩

theorem keyPart_append {key : String} (hkey : isBareKey key = true) {rest : List Char}
    (hrest : ∀ c ∈ rest.head?, isBareKeyChar c = false) :
    keyPart (key.toList ++ rest) = some (key, rest) := by
  obtain ⟨hne, hbare⟩ := isBareKey_iff.mp hkey
  have htaken : (key.toList ++ rest).takeWhile isBareKeyChar = key.toList := by
    rw [List.takeWhile_append_of_pos hbare]
    cases rest with
    | nil => simp
    | cons c rest => simp [hrest c rfl]
  have hdropped : (key.toList ++ rest).dropWhile isBareKeyChar = rest := by
    rw [List.dropWhile_append_of_pos hbare]
    cases rest with
    | nil => rfl
    | cons c rest => simp [hrest c rfl]
  have hstep : keyPart (key.toList ++ rest) = if key.toList.isEmpty then none else
      some (String.ofList key.toList, rest) := by
    obtain ⟨c, cs, hcs, hc⟩ := toList_eq_cons_of_isBareKey hkey
    have hdouble : c ≠ '"' := ne_of_holds hc (by decide)
    have hsingle : c ≠ '\'' := ne_of_holds hc (by decide)
    rw [hcs] at htaken hdropped ⊢
    rw [List.cons_append] at htaken hdropped ⊢
    rw [keyPart.eq_def]
    split <;> simp_all
  rw [hstep, if_neg (by simpa using hne), String.ofList_toList]

theorem skipSpaces_cons {c : Char} (hc : isSpace c = false) (cs : List Char) :
    skipSpaces (c :: cs) = c :: cs := by
  rw [skipSpaces, List.dropWhile_cons_of_neg (by simp [hc])]

/-- No space stands before a bare key. -/
theorem skipSpaces_key {key : String} (hkey : isBareKey key = true) (rest : List Char) :
    skipSpaces (key.toList ++ rest) = key.toList ++ rest := by
  obtain ⟨c, cs, hcs, hc⟩ := toList_eq_cons_of_isBareKey hkey
  have hspace : c ≠ ' ' := ne_of_holds hc (by decide)
  have htab : c ≠ '\t' := ne_of_holds hc (by decide)
  rw [hcs]
  exact skipSpaces_cons (by simp [isSpace, hspace, htab]) _

theorem pathText_singleton (key : String) : pathText [key] = key.toList := by
  simp [pathText, List.intercalate]

theorem pathText_cons_cons (key next : String) (path : List String) :
    pathText (key :: next :: path) = key.toList ++ '.' :: pathText (next :: path) := by
  simp [pathText, List.intercalate]

/-- A path is read up to what cannot belong to it, blanks included. -/
theorem keyParts_pathText {path : List String} (hpath : ∀ key ∈ path, isBareKey key = true)
    (hne : path ≠ []) {rest : List Char} (hrest : ∀ c ∈ rest.head?, isBareKeyChar c = false)
    (hpoint : (skipSpaces rest).head? ≠ some '.') :
    keyParts (pathText path ++ rest) = some (path, skipSpaces rest) := by
  induction path with
  | nil => exact absurd rfl hne
  | cons key path ih =>
      have hkey := hpath key List.mem_cons_self
      cases path with
      | nil =>
          rw [pathText_singleton, keyParts, skipSpaces_key hkey, keyPart_append hkey hrest]
          dsimp only
          split
          next more heq =>
            rw [heq] at hpoint
            exact absurd rfl hpoint
          next => rfl
      | cons next path =>
          have hstop : ∀ c ∈ ('.' :: (pathText (next :: path) ++ rest)).head?,
              isBareKeyChar c = false := by
            intro c hc
            rw [← Option.some.inj hc]
            decide
          have hrec := ih (fun k hk => hpath k (List.mem_cons_of_mem _ hk)) (by simp)
          have hshort : (pathText (next :: path) ++ rest).length <
              (key.toList ++ '.' :: (pathText (next :: path) ++ rest)).length := by
            simp only [List.length_append, List.length_cons]
            omega
          rw [pathText_cons_cons, List.append_assoc, List.cons_append, keyParts,
            skipSpaces_key hkey, keyPart_append hkey hstop]
          have hskip (cs : List Char) : skipSpaces ('.' :: cs) = '.' :: cs :=
            skipSpaces_cons (by decide) cs
          simp only [hskip]
          rw [if_pos hshort, hrec]
          rfl

/-- A path of bare keys is read as its keys on the way and its last one. -/
theorem keyPath_pathText {through : List String} {key : String}
    (hpath : ∀ k ∈ through ++ [key], isBareKey k = true) (hlength : through.length < maxKeyParts)
    {rest : List Char} (hrest : ∀ c ∈ rest.head?, isBareKeyChar c = false)
    (hpoint : (skipSpaces rest).head? ≠ some '.') :
    keyPath (pathText (through ++ [key]) ++ rest) = some (⟨through, key⟩, skipSpaces rest) := by
  have hcount : (guard ((through ++ [key]).length ≤ maxKeyParts) : Option Unit) = some () := by
    rw [List.length_append]
    exact if_pos hlength
  rw [keyPath, keyParts_pathText hpath (by simp) hrest hpoint, Option.bind_eq_bind,
    Option.bind_some]
  dsimp only
  rw [hcount, Option.bind_eq_bind, Option.bind_some]
  simp

/-! ## Values -/

/-- The values that are written on a line of their own, as they are read. -/
inductive IsPlain : Value → Prop
  | string (s : String) : IsPlain (.string s)
  | integer {n : Nat} (hn : n ≤ maxInteger) : IsPlain (.integer n)
  | boolean (b : Bool) : IsPlain (.boolean b)
  | emptyList : IsPlain (.array false [])

theorem quote_cons (cs : List Char) :
    ∃ q inside, quote cs = q :: inside ∧ (q = '"' ∨ q = '\'') := by
  unfold quote
  split
  · exact ⟨_, _, rfl, .inl rfl⟩
  · exact ⟨_, _, rfl, .inr rfl⟩
  · exact ⟨_, _, rfl, .inl rfl⟩
  · exact ⟨_, _, rfl, .inr rfl⟩

theorem value_quote (depth : Nat) (s : String) (rest : List Char) :
    value depth (quote s.toList ++ '\n' :: rest) = some (.string s, '\n' :: rest) := by
  have hread : quotation (quote s.toList ++ '\n' :: rest) = some (s.toList, '\n' :: rest) :=
    quotation_quote s.toList (by simp) (by simp)
  obtain ⟨q, inside, hquote, hq⟩ := quote_cons s.toList
  rw [hquote, List.cons_append] at hread ⊢
  rcases hq with rfl | rfl
  · rw [value.eq_def]
    simp [hread]
  · rw [value.eq_def]
    simp [hread]

/-- An exact number of digits leaves what follows them, digits before a line end. -/
theorem fixedDigits?_rest {count n : Nat} {ds rest more : List Char}
    (hread : fixedDigits? count (ds ++ '\n' :: rest) = some (n, more)) :
    more = ds.drop count ++ '\n' :: rest := by
  simp only [fixedDigits?] at hread
  split at hread
  next hall =>
    simp only [Bool.and_eq_true, decide_eq_true_eq, List.all_eq_true] at hall
    obtain ⟨hlength, hdigits⟩ := hall
    have hle : count ≤ ds.length := by
      apply Nat.le_of_not_lt
      intro hlt
      have hmem : '\n' ∈ (ds ++ '\n' :: rest).take count := by
        obtain ⟨extra, hextra⟩ := Nat.exists_eq_add_of_lt hlt
        rw [List.take_append, hextra, Nat.add_assoc, Nat.add_sub_cancel_left]
        simp
      exact absurd (hdigits _ hmem) (by decide)
    rw [← (Prod.mk.inj (Option.some.inj hread)).2, List.drop_append_of_le_length hle]
  next => exact absurd hread (by simp)

theorem char?_digits {mark : Char} (hdigit : mark.isDigit = false) (hline : mark ≠ '\n')
    {ds : List Char} (hdigits : ∀ c ∈ ds, c.isDigit = true) (rest : List Char) :
    char? mark (ds ++ '\n' :: rest) = none := by
  cases ds with
  | nil => simp [char?, hline.symm]
  | cons d ds =>
      have hd : d ≠ mark := ne_of_holds (hdigits d List.mem_cons_self) hdigit
      simp [char?, hd]

/-- A numeral on its own is no date and no time. -/
theorem datetime?_digits {ds : List Char} (hdigits : ∀ c ∈ ds, c.isDigit = true)
    (rest : List Char) : datetime? (ds ++ '\n' :: rest) = none := by
  have hdrop (count : Nat) : ∀ c ∈ ds.drop count, c.isDigit = true := fun c hc =>
    hdigits c (List.mem_of_mem_drop hc)
  have hdate : fullDate? (ds ++ '\n' :: rest) = none := by
    unfold fullDate?
    cases hyear : fixedDigits? 4 (ds ++ '\n' :: rest) with
    | none => rfl
    | some read =>
        obtain ⟨year, more⟩ := read
        rw [fixedDigits?_rest hyear]
        have hmark : char? '-' (ds.drop 4 ++ '\n' :: rest) = none :=
          char?_digits (by decide) (by decide) (hdrop 4) rest
        simp [hmark]
  have htime : clockTime? (ds ++ '\n' :: rest) = none := by
    unfold clockTime?
    cases hhour : fixedDigits? 2 (ds ++ '\n' :: rest) with
    | none => rfl
    | some read =>
        obtain ⟨hour, more⟩ := read
        rw [fixedDigits?_rest hhour]
        have hmark : char? ':' (ds.drop 2 ++ '\n' :: rest) = none :=
          char?_digits (by decide) (by decide) (hdrop 2) rest
        simp [hmark]
  simp [datetime?, hdate, htime]

theorem digitRun_digits {ds : List Char} (hdigits : ∀ c ∈ ds, c.isDigit = true)
    (rest : List Char) : digitRun Char.isDigit (ds ++ '\n' :: rest) = (ds, '\n' :: rest) := by
  induction ds with
  | nil =>
      rw [List.nil_append, digitRun.eq_def]
      rfl
  | cons d ds ih =>
      have hd := hdigits d List.mem_cons_self
      have htail := ih fun c hc => hdigits c (List.mem_cons_of_mem _ hc)
      rw [List.cons_append, digitRun.eq_def]
      split <;> simp_all

/-- A numeral is read as a decimal integer up to the line end. -/
theorem decimal?_digits (n : Nat) (rest : List Char) :
    decimal? (Text.digits n ++ '\n' :: rest) = some (Text.digits n, '\n' :: rest) := by
  by_cases hzero : n = 0
  · subst hzero
    rfl
  · have hdigits : ∀ c ∈ Text.digits n, c.isDigit = true := fun _ => Text.isDigit_of_mem_digits
    obtain ⟨d, ds, hds, hd, hnonzero⟩ := Text.digits_eq_cons_of_pos (Nat.pos_of_ne_zero hzero)
    rw [hds] at hdigits ⊢
    have hrun := digitRun_digits (fun c hc => hdigits c (List.mem_cons_of_mem _ hc)) rest
    rw [List.cons_append, decimal?.eq_def]
    split <;> simp_all [digits?]

/-- A numeral has no sign. -/
theorem sign_digits (n : Nat) (rest : List Char) :
    sign (Text.digits n ++ rest) = (false, Text.digits n ++ rest) := by
  obtain ⟨d, ds, hds, hd⟩ := Text.digits_eq_cons n
  rw [hds, List.cons_append, sign.eq_def]
  split
  next heq =>
    rw [(List.cons.inj heq).1] at hd
    exact absurd hd (by decide)
  next heq =>
    rw [(List.cons.inj heq).1] at hd
    exact absurd hd (by decide)
  next => rfl

/-- No word starts with a digit. -/
theorem word?_digits {w : Char} (hw : w.isDigit = false) (word : List Char) (n : Nat)
    (rest : List Char) : word? (w :: word) (Text.digits n ++ rest) = none := by
  obtain ⟨d, ds, hds, hd⟩ := Text.digits_eq_cons n
  rw [hds, List.cons_append, word?, if_neg (ne_of_holds hd hw)]

/-- Without a point and an exponent a numeral is no floating-point number. -/
theorem float?_digits (n : Nat) (rest : List Char) :
    float? (Text.digits n ++ '\n' :: rest) = none := by
  have hparts : floatParts? (Text.digits n ++ '\n' :: rest) = none := by
    simp [floatParts?, decimal?_digits, fractionPart?, exponentPart?]
  have hinf (cs rest : List Char) : word? ('i' :: cs) (Text.digits n ++ rest) = none :=
    word?_digits (by decide) cs n rest
  have hnan (cs rest : List Char) : word? ('n' :: cs) (Text.digits n ++ rest) = none :=
    word?_digits (by decide) cs n rest
  simp [float?, sign_digits, hparts, hinf, hnan]

theorem based?_digits (n : Nat) (rest : List Char) :
    based? (Text.digits n ++ '\n' :: rest) = none := by
  by_cases hzero : n = 0
  · subst hzero
    rfl
  · obtain ⟨d, ds, hds, -, hnonzero⟩ := Text.digits_eq_cons_of_pos (Nat.pos_of_ne_zero hzero)
    rw [hds, List.cons_append, based?.eq_def]
    split <;> simp_all

theorem integer?_digits {n : Nat} (hn : n ≤ maxInteger) (rest : List Char) :
    integer? (Text.digits n ++ '\n' :: rest) = some (.integer n, '\n' :: rest) := by
  have hbound : isInteger64 (n : Int) = true := by
    simp only [isInteger64, Bool.and_eq_true, decide_eq_true_eq]
    omega
  have hfits : (guard (isInteger64 (n : Int) = true) : Option Unit) = some () := if_pos hbound
  simp [integer?, based?_digits, sign_digits, decimal?_digits, Text.ofDigits_digits, hfits]

theorem value_digits {n : Nat} (hn : n ≤ maxInteger) (depth : Nat) (rest : List Char) :
    value depth (Text.digits n ++ '\n' :: rest) = some (.integer n, '\n' :: rest) := by
  have hdigits : ∀ c ∈ Text.digits n, c.isDigit = true := fun _ => Text.isDigit_of_mem_digits
  have hplain : (datetime? (Text.digits n ++ '\n' :: rest)).or
      ((float? (Text.digits n ++ '\n' :: rest)).or (integer? (Text.digits n ++ '\n' :: rest))) =
      some (.integer n, '\n' :: rest) := by
    rw [datetime?_digits hdigits, float?_digits, integer?_digits hn, Option.none_or, Option.none_or]
  obtain ⟨d, ds, hds, hd⟩ := Text.digits_eq_cons n
  have hdouble : d ≠ '"' := ne_of_holds hd (by decide)
  have hsingle : d ≠ '\'' := ne_of_holds hd (by decide)
  have hbracket : d ≠ '[' := ne_of_holds hd (by decide)
  have hbrace : d ≠ '\x7b' := ne_of_holds hd (by decide)
  have ht : d ≠ 't' := ne_of_holds hd (by decide)
  have hf : d ≠ 'f' := ne_of_holds hd (by decide)
  rw [hds, List.cons_append] at hplain ⊢
  -- Neither a string nor a bracket nor a word starts here, so a plain value is read.
  have hdispatch : value depth (d :: (ds ++ '\n' :: rest)) =
      plainValue (d :: (ds ++ '\n' :: rest)) := by
    rw [value.eq_def]
    split <;> simp_all
  rw [hdispatch, plainValue.eq_def]
  split <;> simp_all

/-- A plain value is read back up to the line end. -/
theorem value_inlineText {v : Value} (hv : IsPlain v) (rest : List Char) :
    value maxDepth (inlineText v ++ '\n' :: rest) = some (v, '\n' :: rest) := by
  cases hv with
  | string s =>
      rw [inlineText]
      exact value_quote maxDepth s rest
  | @integer n hn =>
      have htext : (toString (n : Int)).toList = Text.digits n := Nat.toList_repr
      rw [inlineText, htext]
      exact value_digits hn maxDepth rest
  | boolean b => cases b <;> rfl
  | emptyList =>
      change value maxDepth ('[' :: ']' :: '\n' :: rest) = _
      rw [value.eq_def]
      simp [maxDepth, listItems, skipVoid, isSpace]

/-! ## Lines -/

theorem finishLine?_line (rest : List Char) : finishLine? ('\n' :: rest) = some rest := by
  rw [finishLine?, skipSpaces_cons (by decide)]
  rfl

/-- A value does not start with a blank. -/
theorem skipSpaces_inlineText {v : Value} (hv : IsPlain v) (rest : List Char) :
    skipSpaces (inlineText v ++ rest) = inlineText v ++ rest := by
  cases hv with
  | string s =>
      obtain ⟨q, inside, hquote, hq⟩ := quote_cons s.toList
      rw [inlineText, hquote]
      rcases hq with rfl | rfl
      · exact skipSpaces_cons (by decide) _
      · exact skipSpaces_cons (by decide) _
  | @integer n hn =>
      have htext : (toString (n : Int)).toList = Text.digits n := Nat.toList_repr
      rw [inlineText, htext]
      obtain ⟨d, ds, hds, hd⟩ := Text.digits_eq_cons n
      have hspace : d ≠ ' ' := ne_of_holds hd (by decide)
      have htab : d ≠ '\t' := ne_of_holds hd (by decide)
      rw [hds]
      exact skipSpaces_cons (by simp [isSpace, hspace, htab]) _
  | boolean b => cases b <;> rfl
  | emptyList => rfl

theorem pair_pairLine {key : String} (hkey : isBareKey key = true) {v : Value} (hv : IsPlain v)
    (rest : List Char) :
    pair (value maxDepth) (pairLine key v ++ rest) = some (⟨⟨[], key⟩, v⟩, '\n' :: rest) := by
  have htext : pairLine key v ++ rest =
      pathText ([] ++ [key]) ++ ' ' :: '=' :: ' ' :: (inlineText v ++ '\n' :: rest) := by
    rw [List.nil_append, pathText_singleton]
    simp [pairLine]
  have hpath : keyPath (pathText ([] ++ [key]) ++ ' ' :: '=' :: ' ' ::
      (inlineText v ++ '\n' :: rest)) =
      some (⟨[], key⟩, '=' :: ' ' :: (inlineText v ++ '\n' :: rest)) := by
    refine keyPath_pathText (by simpa using hkey) (by decide) ?_ ?_
    · intro c hc
      rw [← Option.some.inj hc]
      decide
    · change ('=' :: ' ' :: (inlineText v ++ '\n' :: rest)).head? ≠ some '.'
      simp
  have hvalue : skipSpaces (' ' :: (inlineText v ++ '\n' :: rest)) =
      inlineText v ++ '\n' :: rest := by
    change skipSpaces (inlineText v ++ '\n' :: rest) = _
    exact skipSpaces_inlineText hv _
  rw [htext, pair, hpath]
  simp [char?, hvalue, value_inlineText hv]

/-- The line of a plain value under a bare key. -/
theorem line_pairLine {key : String} (hkey : isBareKey key = true) {v : Value} (hv : IsPlain v)
    (rest : List Char) : line (pairLine key v ++ rest) = some (.pair ⟨⟨[], key⟩, v⟩, rest) := by
  have hpair := pair_pairLine hkey hv rest
  have hskip : skipSpaces (pairLine key v ++ rest) = pairLine key v ++ rest := by
    rw [pairLine, List.append_assoc, List.append_assoc]
    exact skipSpaces_key hkey _
  have hcontent : lineContent (pairLine key v ++ rest) =
      some (.pair ⟨⟨[], key⟩, v⟩, '\n' :: rest) := by
    obtain ⟨c, cs, hcs, hc⟩ := toList_eq_cons_of_isBareKey hkey
    have hbracket : c ≠ '[' := ne_of_holds hc (by decide)
    have hhash : c ≠ '#' := ne_of_holds hc (by decide)
    have hline : c ≠ '\n' := ne_of_holds hc (by decide)
    have hreturn : c ≠ '\r' := ne_of_holds hc (by decide)
    have htext : pairLine key v ++ rest =
        c :: (cs ++ ' ' :: '=' :: ' ' :: inlineText v ++ ['\n'] ++ rest) := by
      simp [pairLine, hcs]
    rw [htext] at hpair ⊢
    rw [lineContent.eq_def]
    split <;> simp_all
  simp [line, hskip, hcontent, finishLine?_line]

theorem line_blank (rest : List Char) : line ('\n' :: rest) = some (.blank, rest) := by
  have hcontent : lineContent ('\n' :: rest) = some (.blank, '\n' :: rest) := by
    rw [lineContent.eq_def]
    rfl
  have hskip : skipSpaces ('\n' :: rest) = '\n' :: rest := skipSpaces_cons (by decide) rest
  simp [line, hskip, hcontent, finishLine?_line]

/-- What follows a path within brackets is read after it. -/
theorem keyPath_bracket {through : List String} {key : String}
    (hpath : ∀ k ∈ through ++ [key], isBareKey k = true) (hlength : through.length < maxKeyParts)
    (rest : List Char) :
    keyPath (pathText (through ++ [key]) ++ ']' :: rest) = some (⟨through, key⟩, ']' :: rest) := by
  have hskip : skipSpaces (']' :: rest) = ']' :: rest := skipSpaces_cons (by decide) _
  have hstop : ∀ c ∈ (']' :: rest).head?, isBareKeyChar c = false := by
    intro c hc
    rw [← Option.some.inj hc]
    decide
  rw [keyPath_pathText hpath hlength hstop (by rw [hskip]; simp), hskip]

/-- A path of bare keys starts with a character of a key. -/
theorem pathText_cons {path : List String} (hne : path ≠ [])
    (hpath : ∀ k ∈ path, isBareKey k = true) :
    ∃ c cs, pathText path = c :: cs ∧ isBareKeyChar c = true := by
  cases path with
  | nil => exact absurd rfl hne
  | cons key path =>
      obtain ⟨c, cs, hcs, hc⟩ := toList_eq_cons_of_isBareKey (hpath key List.mem_cons_self)
      cases path with
      | nil => exact ⟨c, cs, by rw [pathText_singleton, hcs], hc⟩
      | cons next path =>
          refine ⟨c, cs ++ '.' :: pathText (next :: path), ?_, hc⟩
          rw [pathText_cons_cons, hcs, List.cons_append]

theorem skipSpaces_bracket (cs : List Char) : skipSpaces ('[' :: cs) = '[' :: cs :=
  skipSpaces_cons (by decide) cs

/-- A single bracket that is not followed by another opens a table. -/
theorem lineContent_bracket {c : Char} (hc : c ≠ '[') (cs : List Char) :
    lineContent ('[' :: c :: cs) = (do
      let (path, rest) ← keyPath (c :: cs)
      return (.table path, ← char? ']' rest)) := by
  rw [lineContent.eq_def]
  split <;> grind

/-- The line that opens a table. -/
theorem line_tableHeader {through : List String} {key : String}
    (hpath : ∀ k ∈ through ++ [key], isBareKey k = true) (hlength : through.length < maxKeyParts)
    (rest : List Char) :
    line ('[' :: (pathText (through ++ [key]) ++ ']' :: '\n' :: rest)) =
      some (.table ⟨through, key⟩, rest) := by
  have hread := keyPath_bracket hpath hlength ('\n' :: rest)
  have hcontent : lineContent ('[' :: (pathText (through ++ [key]) ++ ']' :: '\n' :: rest)) =
      some (.table ⟨through, key⟩, '\n' :: rest) := by
    obtain ⟨c, cs, htext, hc⟩ := pathText_cons (by simp) hpath
    have hbracket : c ≠ '[' := ne_of_holds hc (by decide)
    rw [htext, List.cons_append] at hread ⊢
    rw [lineContent_bracket hbracket, hread]
    simp [char?]
  simp [line, skipSpaces_bracket, hcontent, finishLine?_line]

/-- The line that opens an element of a list of tables. -/
theorem line_elementHeader {through : List String} {key : String}
    (hpath : ∀ k ∈ through ++ [key], isBareKey k = true) (hlength : through.length < maxKeyParts)
    (rest : List Char) :
    line ('[' :: '[' :: (pathText (through ++ [key]) ++ ']' :: ']' :: '\n' :: rest)) =
      some (.element ⟨through, key⟩, rest) := by
  have hread := keyPath_bracket hpath hlength (']' :: '\n' :: rest)
  have hcontent :
      lineContent ('[' :: '[' :: (pathText (through ++ [key]) ++ ']' :: ']' :: '\n' :: rest)) =
        some (.element ⟨through, key⟩, '\n' :: rest) := by
    rw [lineContent.eq_def]
    simp [hread, word?]
  simp [line, skipSpaces_bracket, hcontent, finishLine?_line]

end Courier.Toml

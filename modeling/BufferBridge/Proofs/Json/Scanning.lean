import BufferBridge.Json.Grammar
import BufferBridge.Json.Scan
import BufferBridge.Proofs.Windows
import Mathlib.Data.List.TakeDrop
import Mathlib.Tactic.IntervalCases

/-!
# Reading what the grammar derives

Each reader takes exactly one derived text off the front. A number is the one text whose end depends on
what follows it, so what follows a value must not go on with a number.
-/
namespace BufferBridge.Json

variable {text rest gap : List Char}

/-! ## Blanks -/

theorem skipBlanks_append (h : Blank gap) (rest : List Char) :
    skipBlanks (gap ++ rest) = skipBlanks rest := by
  induction gap with
  | nil => rfl
  | cons c gap ih =>
    have hrest := ih fun d hd => h d (List.mem_cons_of_mem _ hd)
    have hc := h c List.mem_cons_self
    simp only [List.mem_cons, List.not_mem_nil, or_false] at hc
    rcases hc with rfl | rfl | rfl | rfl <;> exact hrest

theorem skipBlanks_cons {c : Char} (h : c ∉ [' ', '\n', '\t', '\r']) (rest : List Char) :
    skipBlanks (c :: rest) = c :: rest := by
  simp only [List.mem_cons, List.not_mem_nil, or_false, not_or] at h
  rw [skipBlanks]
  all_goals grind

/-- Blanks in front of a character that is none. -/
theorem skipBlanks_gap {c : Char} (hgap : Blank gap) (h : c ∉ [' ', '\n', '\t', '\r'])
    (rest : List Char) : skipBlanks (gap ++ c :: rest) = c :: rest := by
  rw [skipBlanks_append hgap, skipBlanks_cons h]

theorem skipBlanks_skipBlanks (text : List Char) : skipBlanks (skipBlanks text) = skipBlanks text := by
  fun_induction skipBlanks text with
  | case1 rest ih => exact ih
  | case2 rest ih => exact ih
  | case3 rest ih => exact ih
  | case4 rest ih => exact ih
  | case5 text hspace hline htab hreturn =>
    rw [skipBlanks]
    all_goals assumption

/-! ## Numbers -/

/-- Text that does not go on with digits. -/
def NoDigit (text : List Char) : Prop := ∀ c rest, text = c :: rest → c.isDigit = false

/-- Text that does not go on with digits or a fraction. -/
def NoFraction (text : List Char) : Prop :=
  ∀ c rest, text = c :: rest → c.isDigit = false ∧ c ≠ '.'

/-- Text that does not go on with a number. -/
def NoNumber (text : List Char) : Prop :=
  ∀ c rest, text = c :: rest → c.isDigit = false ∧ c ≠ '.' ∧ c ≠ 'e' ∧ c ≠ 'E'

theorem NoFraction.noDigit (h : NoFraction rest) : NoDigit rest := fun c tail hc => (h c tail hc).1

theorem NoNumber.noFraction (h : NoNumber rest) : NoFraction rest := fun c tail hc =>
  ⟨(h c tail hc).1, (h c tail hc).2.1⟩

theorem spanDigits_append {digits : List Char} (hdigits : ∀ c ∈ digits, c.isDigit)
    (hrest : NoDigit rest) : spanDigits (digits ++ rest) = (digits, rest) := by
  have hstop : rest.takeWhile Char.isDigit = [] ∧ rest.dropWhile Char.isDigit = rest := by
    cases rest with
    | nil => exact ⟨rfl, rfl⟩
    | cons c tail =>
      have hc := hrest c tail rfl
      simp [hc]
  rw [spanDigits, List.span_eq_takeWhile_dropWhile, List.takeWhile_append_of_pos hdigits,
    List.dropWhile_append_of_pos hdigits, hstop.1, hstop.2, List.append_nil]

theorem someDigits_append {digits : List Char} (h : Digits digits) (hrest : NoDigit rest) :
    someDigits (digits ++ rest) = .ok (digits, rest) := by
  obtain ⟨hne, hdigits⟩ := h
  rw [someDigits, spanDigits_append hdigits hrest]
  cases digits with
  | nil => exact absurd rfl hne
  | cons c digits => rfl

theorem Whole.digits {whole : List Char} (h : Whole whole) : Digits whole := by
  cases h with
  | zero => exact ⟨List.cons_ne_nil _ _, by simp⟩
  | other hfirst _ hrest => exact ⟨List.cons_ne_nil _ _, List.forall_mem_cons.mpr ⟨hfirst, hrest⟩⟩

theorem wholeDigits_append {whole : List Char} (h : Whole whole) (hrest : NoDigit rest) :
    wholeDigits (whole ++ rest) = .ok (whole, rest) := by
  have hzero : ¬(whole.head? = some '0' ∧ 1 < whole.length) := by
    cases h with
    | zero => simp
    | other _ hfirst _ => simp [hfirst]
  rw [wholeDigits, someDigits_append h.digits hrest]
  exact if_neg hzero

theorem fractionDigits_of_noFraction (h : NoFraction rest) : fractionDigits rest = .ok ([], rest) := by
  cases rest with
  | nil => rfl
  | cons c tail =>
    have hc := (h c tail rfl).2
    rw [fractionDigits]
    simpa using hc

theorem Fraction.read {fraction : List Char} (h : Fraction fraction) (hrest : NoFraction rest) :
    ∃ digits, fractionDigits (fraction ++ rest) = .ok (digits, rest) := by
  cases h with
  | absent => exact ⟨_, fractionDigits_of_noFraction hrest⟩
  | present hdigits => exact ⟨_, someDigits_append hdigits hrest.noDigit⟩

theorem exponentPart_of_noNumber (h : NoNumber rest) : exponentPart rest = .ok (none, rest) := by
  cases rest with
  | nil => rfl
  | cons c tail =>
    obtain ⟨-, -, hsmall, hlarge⟩ := h c tail rfl
    rw [exponentPart]
    · simpa using hsmall
    · simpa using hlarge

theorem Exponent.read {exponent : List Char} (h : Exponent exponent) (hrest : NoNumber rest) :
    ∃ power, exponentPart (exponent ++ rest) = .ok (power, rest) := by
  cases h with
  | absent => exact ⟨_, exponentPart_of_noNumber hrest⟩
  | @present letter sign digits hletter hsign hdigits =>
    have hread := someDigits_append hdigits hrest.noFraction.noDigit
    have hfirst : ∃ c tail, digits ++ rest = c :: tail ∧ c ≠ '-' ∧ c ≠ '+' := by
      obtain ⟨hne, hall⟩ := hdigits
      cases digits with
      | nil => exact absurd rfl hne
      | cons c tail =>
        have hc := hall c List.mem_cons_self
        refine ⟨c, tail ++ rest, rfl, ?_, ?_⟩ <;> rintro rfl <;> exact absurd hc (by decide)
    obtain ⟨c, tail, hcons, hminus, hplus⟩ := hfirst
    simp only [List.mem_cons, List.not_mem_nil, or_false] at hletter hsign
    rw [List.cons_append, List.append_assoc]
    rw [hcons] at hread ⊢
    rcases hletter with rfl | rfl <;> rcases hsign with rfl | rfl | rfl <;>
      simp [exponentPart, hread, hminus, hplus, bind, Except.bind, pure, Except.pure]

theorem Exponent.noFraction {exponent : List Char} (h : Exponent exponent) (hrest : NoNumber rest) :
    NoFraction (exponent ++ rest) := by
  cases h with
  | absent => exact hrest.noFraction
  | present hletter =>
    intro c tail hc
    cases hc
    simp only [List.mem_cons, List.not_mem_nil, or_false] at hletter
    rcases hletter with rfl | rfl <;> exact ⟨rfl, by decide⟩

theorem Fraction.noDigit {fraction : List Char} (h : Fraction fraction) (hrest : NoFraction rest) :
    NoDigit (fraction ++ rest) := by
  cases h with
  | absent => exact hrest.noDigit
  | present hdigits =>
    intro c tail hc
    cases hc
    rfl

/-- The digits before the point do not start with a sign. -/
theorem Whole.no_sign {whole : List Char} (h : Whole whole) (rest tail : List Char) :
    whole ++ rest ≠ '-' :: tail := by
  obtain ⟨hne, hdigits⟩ := h.digits
  cases whole with
  | nil => exact absurd rfl hne
  | cons c whole =>
    intro hc
    cases hc
    exact absurd (hdigits _ List.mem_cons_self) (by decide)

/-- A number is read in its parts, behind a minus or without one. -/
theorem readNumeral_of_parts {whole fraction after final : List Char}
    {power : Option (Bool × List Char)} (hread : wholeDigits text = .ok (whole, after))
    (hsign : ∀ tail, text ≠ '-' :: tail) (hfraction : fractionDigits after = .ok (fraction, final))
    (hpower : exponentPart final = .ok (power, rest)) :
    readNumeral text = .ok (⟨false, whole, fraction, power⟩, rest) ∧
      readNumeral ('-' :: text) = .ok (⟨true, whole, fraction, power⟩, rest) := by
  constructor
  · rw [readNumeral]
    · simp only [hread, hfraction, hpower, bind, Except.bind, pure, Except.pure]
    · exact hsign
  · rw [readNumeral]
    simp only [hread, hfraction, hpower, bind, Except.bind, pure, Except.pure]

theorem Numeric.read (h : Numeric text) (hrest : NoNumber rest) :
    ∃ numeral, readNumeral (text ++ rest) = .ok (numeral, rest) := by
  obtain @⟨sign, whole, fraction, exponent, hsign, hwhole, hfraction, hexponent⟩ := h
  have hfinal := hexponent.noFraction hrest
  obtain ⟨power, hpower⟩ := hexponent.read hrest
  obtain ⟨digits, hdigits⟩ := hfraction.read hfinal
  have hread := readNumeral_of_parts (wholeDigits_append hwhole (hfraction.noDigit hfinal))
    (hwhole.no_sign _) hdigits hpower
  simp only [List.mem_cons, List.not_mem_nil, or_false] at hsign
  simp only [List.append_assoc]
  rcases hsign with rfl | rfl
  · exact ⟨_, hread.1⟩
  · exact ⟨_, hread.2⟩

/-! ## Strings -/

theorem Hex.read {c : Char} {value : Nat} (h : Hex c value) :
    hexDigit? c = some value ∧ value < 16 := by
  have hbound : value < 16 := by
    rcases h with h | h <;> exact (List.getElem?_eq_some_iff.mp h).1
  refine ⟨?_, hbound⟩
  rcases h with h | h <;> interval_cases value <;> cases h <;> rfl

theorem HexWord.read {digits : List Char} {value : Nat} (h : HexWord digits value) :
    ∃ a b c d, digits = [a, b, c, d] ∧ hexWord? a b c d = some value := by
  obtain ⟨ha, hb, hc, hd⟩ := h
  refine ⟨_, _, _, _, rfl, ?_⟩
  simp [hexWord?, ha.read.1, hb.read.1, hc.read.1, hd.read.1]

theorem escaped?_of_mem {letter c : Char} (h : (letter, c) ∈ shortEscapes) :
    escaped? letter = some c ∧ letter ≠ 'u' := by
  simp only [shortEscapes, List.mem_cons, List.not_mem_nil, or_false, Prod.mk.injEq] at h
  rcases h with ⟨rfl, rfl⟩ | ⟨rfl, rfl⟩ | ⟨rfl, rfl⟩ | ⟨rfl, rfl⟩ | ⟨rfl, rfl⟩ | ⟨rfl, rfl⟩ |
    ⟨rfl, rfl⟩ | ⟨rfl, rfl⟩ <;> exact ⟨rfl, by decide⟩

/-! The steps over a string, whose values are passed over or kept. -/

theorem skipString_plain {c : Char} (h : Plain c) (rest : List Char) :
    skipString (c :: rest) = skipString rest := by
  obtain ⟨hquote, hescape, hcontrol⟩ := h
  rw [skipString, if_neg (by omega)]
  · simpa using hquote
  · simp [hescape]
  · simp [hescape]

theorem skipString_short {letter c : Char} (h : (letter, c) ∈ shortEscapes) (rest : List Char) :
    skipString ('\\' :: letter :: rest) = skipString rest := by
  obtain ⟨hescaped, hletter⟩ := escaped?_of_mem h
  rw [skipString, hescaped]
  · rfl
  · intro a b c d tail hu
    exact absurd hu hletter

theorem skipString_hex {digits : List Char} {value : Nat} (h : HexWord digits value)
    (rest : List Char) : skipString ('\\' :: 'u' :: (digits ++ rest)) = skipString rest := by
  obtain ⟨a, b, c, d, rfl, hword⟩ := h.read
  simp only [List.cons_append, List.nil_append]
  rw [skipString, hword]
  rfl

theorem Quotable.read (h : Quotable text) (rest : List Char) :
    skipString (text ++ '"' :: rest) = .ok rest := by
  induction h with
  | nil => rfl
  | plain hplain _ ih => rw [List.cons_append, skipString_plain hplain, ih]
  | short hshort _ ih => rw [List.cons_append, List.cons_append, skipString_short hshort, ih]
  | hex hword _ ih =>
    rw [List.cons_append, List.cons_append, List.append_assoc, skipString_hex hword, ih]

theorem readChars_plain {c : Char} (h : Plain c) (before rest : List Char) :
    readChars before (c :: rest) = readChars (c :: before) rest := by
  obtain ⟨hquote, hescape, hcontrol⟩ := h
  rw [readChars, if_neg (by omega)]
  · simpa using hquote
  · simp [hescape]
  · simp [hescape]

theorem readChars_short {letter c : Char} (h : (letter, c) ∈ shortEscapes)
    (before rest : List Char) :
    readChars before ('\\' :: letter :: rest) = readChars (c :: before) rest := by
  obtain ⟨hescaped, hletter⟩ := escaped?_of_mem h
  rw [readChars, hescaped]
  · intro a b c d tail hu
    exact absurd hu hletter

/-- A character is no half of a surrogate pair. -/
theorem not_surrogate (c : Char) : c.toNat < 0xD800 ∨ 0xE000 ≤ c.toNat := by
  rcases c.valid with h | h
  · exact .inl h
  · exact .inr (by have := h.1; simp only [Char.toNat]; omega)

theorem readChars_hex {c : Char} {digits : List Char} (h : HexWord digits c.toNat)
    (before rest : List Char) :
    readChars before ('\\' :: 'u' :: (digits ++ rest)) = readChars (c :: before) rest := by
  obtain ⟨i, j, k, l, rfl, hword⟩ := h.read
  have hsurrogate := not_surrogate c
  simp only [List.cons_append, List.nil_append]
  rw [readChars, hword]
  simp only
  rw [if_neg (by omega), if_neg (by omega), Char.ofNat_toNat]

theorem readChars_pair {c : Char} {first second : List Char} {high low : Nat}
    (hfirst : HexWord first (0xD800 + high)) (hsecond : HexWord second (0xDC00 + low))
    (hhigh : high < 0x400) (hlow : low < 0x400)
    (hc : c.toNat = 0x10000 + high * 0x400 + low) (before rest : List Char) :
    readChars before ('\\' :: 'u' :: (first ++ '\\' :: 'u' :: (second ++ rest))) =
      readChars (c :: before) rest := by
  obtain ⟨i, j, k, l, rfl, hhighWord⟩ := hfirst.read
  obtain ⟨i', j', k', l', rfl, hlowWord⟩ := hsecond.read
  have hchar :
      Char.ofNat (0x10000 + (0xD800 + high - 0xD800) * 0x400 + (0xDC00 + low - 0xDC00)) = c := by
    rw [Nat.add_sub_cancel_left, Nat.add_sub_cancel_left, ← hc, Char.ofNat_toNat]
  simp only [List.cons_append, List.nil_append]
  rw [readChars, hhighWord]
  simp only
  rw [if_neg (by omega), if_pos (by omega), hlowWord]
  simp only
  rw [if_pos (by omega), hchar]

theorem Spells.read {name : List Char} (h : Spells name text) (before rest : List Char) :
    readChars before (text ++ '"' :: rest) = .ok (String.ofList (before.reverse ++ name), rest) := by
  induction h generalizing before with
  | nil => rw [List.append_nil, List.nil_append, readChars]
  | plain hplain _ ih => rw [List.cons_append, readChars_plain hplain, ih]; simp
  | short hshort _ ih => rw [List.cons_append, List.cons_append, readChars_short hshort, ih]; simp
  | hex hword _ ih =>
    rw [List.cons_append, List.cons_append, List.append_assoc, readChars_hex hword, ih]
    simp
  | pair hfirst hsecond hhigh hlow hc _ ih =>
    simp only [List.cons_append, List.append_assoc]
    rw [readChars_pair hfirst hsecond hhigh hlow hc, ih]
    simp

/-- A string of characters that stand for themselves is written as it is. -/
theorem spells_plain {name : List Char} (h : ∀ c ∈ name, Plain c) : Spells name name := by
  induction name with
  | nil => exact .nil
  | cons c name ih =>
    exact .plain (h c List.mem_cons_self) (ih fun d hd => h d (List.mem_cons_of_mem _ hd))

theorem InQuotes.read {name : String} (h : InQuotes name text) (rest : List Char) :
    ∃ body, text ++ rest = '"' :: body ∧ readString body = .ok (name, rest) := by
  obtain @⟨text, hspells⟩ := h
  refine ⟨text ++ '"' :: rest, by simp, ?_⟩
  rw [readString, hspells.read, List.reverse_nil, List.nil_append, String.ofList_toList]

/-- A string that can be read can be passed over, and leaves the same. -/
theorem skipString_of_readChars {before : List Char} {name : String}
    (h : readChars before text = .ok (name, rest)) : skipString text = .ok rest := by
  fun_induction readChars before text with
  | case2 => cases h; rfl
  | case6 before i j k l high hhigh _ _ i' j' k' l' tail low hlow _ char ih =>
    rw [skipString, hhigh, Option.isSome_some, if_pos rfl, skipString, hlow, Option.isSome_some,
      if_pos rfl]
    exact ih h
  | case9 before i j k l tail value hvalue _ _ ih =>
    rw [skipString, hvalue, Option.isSome_some, if_pos rfl]
    exact ih h
  | case10 before letter tail hletter char hchar ih =>
    rw [skipString, hchar, Option.isSome_some, if_pos rfl]
    · exact ih h
    · exact hletter
  | case13 before char tail hquote hhex hshort hcontrol ih =>
    rw [skipString, if_neg hcontrol]
    · exact ih h
    all_goals assumption
  | _ => cases h

/-! ## Values that are passed over -/

/-- The characters that end a value inside another. -/
def closers : List Char := [',', ']', '\x7d']

theorem noNumber_cons {c : Char} (h : c.isDigit = false ∧ c ≠ '.' ∧ c ≠ 'e' ∧ c ≠ 'E')
    (rest : List Char) : NoNumber (c :: rest) := by
  intro d tail hd
  cases hd
  exact h

/-- What comes after a value, up to the character that ends it, does not go on with a number. -/
theorem noNumber_gap {c : Char} (hgap : Blank gap) (hc : c ∈ closers) (rest : List Char) :
    NoNumber (gap ++ c :: rest) := by
  cases gap with
  | nil =>
    simp only [closers, List.mem_cons, List.not_mem_nil, or_false] at hc
    rcases hc with rfl | rfl | rfl <;> exact noNumber_cons (by decide) _
  | cons d gap =>
    have hd := hgap d List.mem_cons_self
    simp only [List.mem_cons, List.not_mem_nil, or_false] at hd
    rcases hd with rfl | rfl | rfl | rfl <;> exact noNumber_cons (by decide) _

theorem closers_not_blank {c : Char} (h : c ∈ closers) : c ∉ [' ', '\n', '\t', '\r'] := by
  simp only [closers, List.mem_cons, List.not_mem_nil, or_false] at h
  rcases h with rfl | rfl | rfl <;> decide

theorem skipValue_skipBlanks (fuel : Nat) (text : List Char) :
    skipValue fuel (skipBlanks text) = skipValue fuel text := by
  cases fuel with
  | zero => rw [skipValue, skipValue]
  | succ fuel => rw [skipValue, skipValue, skipBlanks_skipBlanks]

theorem skipValue_gap (hgap : Blank gap) (fuel : Nat) (rest : List Char) :
    skipValue fuel (gap ++ rest) = skipValue fuel rest := by
  rw [← skipValue_skipBlanks, skipBlanks_append hgap, skipValue_skipBlanks]

/-- The first character of a number. -/
theorem Numeric.first (h : Numeric text) : ∃ c tail, text = c :: tail ∧ (c = '-' ∨ c.isDigit) := by
  obtain @⟨sign, whole, fraction, exponent, hsign, hwhole, -, -⟩ := h
  simp only [List.mem_cons, List.not_mem_nil, or_false] at hsign
  rcases hsign with rfl | rfl
  · obtain ⟨hne, hdigits⟩ := hwhole.digits
    cases whole with
    | nil => exact absurd rfl hne
    | cons c whole => exact ⟨c, _, rfl, .inr (hdigits c List.mem_cons_self)⟩
  · exact ⟨'-', _, rfl, .inl rfl⟩

/-- A number starts with no blank, and with the first character of no other value. -/
theorem not_number_start {c d : Char} (h : c = '-' ∨ c.isDigit)
    (hd : d ∈ [' ', '\n', '\t', '\r', 'n', 't', 'f', '"', '[', '\x7b']) : c ≠ d := by
  intro hcd
  subst hcd
  simp only [List.mem_cons, List.not_mem_nil, or_false] at hd
  rcases hd with rfl | rfl | rfl | rfl | rfl | rfl | rfl | rfl | rfl | rfl <;> revert h <;> decide

theorem skipBlanks_number {c : Char} (h : c = '-' ∨ c.isDigit) (rest : List Char) :
    skipBlanks (c :: rest) = c :: rest :=
  skipBlanks_cons (fun hmem => not_number_start h (List.mem_append_left
    ['n', 't', 'f', '"', '[', '\x7b'] hmem) rfl) rest

theorem skipValue_number {c : Char} (h : c = '-' ∨ c.isDigit) (fuel : Nat) (rest : List Char) :
    skipValue (fuel + 1) (c :: rest) = (readNumeral (c :: rest)).map Prod.snd := by
  rw [skipValue, skipBlanks_number h]
  simp [not_number_start h]

/-! What is left of an array or an object is read from its next character that is no blank. -/

theorem skipItems_skipBlanks (fuel : Nat) (text : List Char) :
    skipItems fuel (skipBlanks text) = skipItems fuel text := by
  cases fuel with
  | zero => rw [skipItems, skipItems]
  | succ fuel =>
    rw [skipItems, skipItems, skipValue_skipBlanks]

theorem skipMembers_skipBlanks (fuel : Nat) (text : List Char) :
    skipMembers fuel (skipBlanks text) = skipMembers fuel text := by
  cases fuel with
  | zero => rw [skipMembers, skipMembers]
  | succ fuel => rw [skipMembers, skipMembers, skipBlanks_skipBlanks]

/-- An array with values is one whose values can be passed over: there is no value at the bracket. -/
theorem skipValue_items {fuel : Nat} (h : skipItems fuel text = .ok rest) :
    skipValue (fuel + 1) ('[' :: text) = .ok rest := by
  rw [skipValue, skipBlanks_cons (by decide)]
  simp only
  split
  · rename_i tail hclose
    rw [← skipItems_skipBlanks, hclose] at h
    cases fuel with
    | zero => rw [skipItems] at h; cases h
    | succ fuel =>
      cases fuel with
      | zero => rw [skipItems, skipValue] at h; cases h
      | succ fuel => rw [skipItems, skipValue] at h; cases h
  · rw [skipItems_skipBlanks, h]

theorem skipValue_members {fuel : Nat} (h : skipMembers fuel text = .ok rest) :
    skipValue (fuel + 1) ('\x7b' :: text) = .ok rest := by
  rw [skipValue, skipBlanks_cons (by decide)]
  simp only
  split
  · rename_i tail hclose
    rw [← skipMembers_skipBlanks, hclose] at h
    cases fuel with
    | zero => rw [skipMembers] at h; cases h
    | succ fuel => rw [skipMembers] at h; cases h
  · rw [skipMembers_skipBlanks, h]

/-- What the scanner does with a text of each kind: a value is passed over, and what is left after the
parts inside one starts with the character that ends them. -/
def Passes : Part → List Char → Prop
  | .value, text => ∀ fuel rest, text.length ≤ fuel → NoNumber rest →
      skipValue fuel (text ++ rest) = .ok rest
  | .item, text => ∀ fuel c rest, text.length ≤ fuel → c ∈ closers →
      ∃ after, skipValue fuel (text ++ c :: rest) = .ok after ∧ skipBlanks after = c :: rest
  | .items, text => ∀ fuel rest, text.length < fuel →
      skipItems fuel (text ++ ']' :: rest) = .ok rest
  | .member, text => ∀ fuel c rest, text.length ≤ fuel → c ∈ closers →
      ∃ key colon item after, skipBlanks (text ++ c :: rest) = '"' :: key ∧
        skipString key = .ok colon ∧ skipColon colon = .ok item ∧ skipValue fuel item = .ok after ∧
        skipBlanks after = c :: rest
  | .members, text => ∀ fuel rest, text.length < fuel →
      skipMembers fuel (text ++ '\x7d' :: rest) = .ok rest

/-- Fuel for a text is more than the fuel for what comes behind its first character. -/
theorem fuel_of_cons {c : Char} {fuel : Nat} (h : (c :: text).length ≤ fuel) :
    ∃ less, fuel = less + 1 ∧ text.length ≤ less := by
  rw [List.length_cons] at h
  exact ⟨fuel - 1, by omega, by omega⟩

/-! What is passed over, rule by rule of the grammar. -/

theorem passes_word (h : text ∈ ["null".toList, "true".toList, "false".toList]) :
    Passes .value text := by
  intro fuel rest hfuel hrest
  simp only [List.mem_cons, List.not_mem_nil, or_false] at h
  rcases h with rfl | rfl | rfl <;> obtain ⟨fuel, rfl, -⟩ := fuel_of_cons hfuel <;> rfl

theorem passes_number (h : Numeric text) : Passes .value text := by
  intro fuel rest hfuel hrest
  obtain ⟨numeral, hread⟩ := h.read hrest
  obtain ⟨c, tail, rfl, hc⟩ := h.first
  obtain ⟨fuel, rfl, -⟩ := fuel_of_cons hfuel
  rw [List.cons_append] at hread ⊢
  rw [skipValue_number hc, hread]
  rfl

theorem passes_string (h : Quotable text) : Passes .value ('"' :: (text ++ ['"'])) := by
  intro fuel rest hfuel hrest
  obtain ⟨fuel, rfl, -⟩ := fuel_of_cons hfuel
  have hskip := h.read rest
  simpa [skipValue, skipBlanks] using hskip

theorem passes_emptyArray (h : Blank gap) : Passes .value ('[' :: (gap ++ [']'])) := by
  intro fuel rest hfuel hrest
  obtain ⟨fuel, rfl, -⟩ := fuel_of_cons hfuel
  simp [skipValue, skipBlanks, skipBlanks_append h]

theorem passes_emptyObject (h : Blank gap) : Passes .value ('\x7b' :: (gap ++ ['\x7d'])) := by
  intro fuel rest hfuel hrest
  obtain ⟨fuel, rfl, -⟩ := fuel_of_cons hfuel
  simp [skipValue, skipBlanks, skipBlanks_append h]

theorem passes_array (h : Passes .items text) : Passes .value ('[' :: (text ++ [']'])) := by
  intro fuel rest hfuel hrest
  obtain ⟨fuel, rfl, hinner⟩ := fuel_of_cons hfuel
  rw [List.length_append] at hinner
  have hitems := h fuel rest hinner
  rw [List.cons_append, List.append_assoc]
  exact skipValue_items hitems

theorem passes_object (h : Passes .members text) : Passes .value ('\x7b' :: (text ++ ['\x7d'])) := by
  intro fuel rest hfuel hrest
  obtain ⟨fuel, rfl, hinner⟩ := fuel_of_cons hfuel
  rw [List.length_append] at hinner
  have hmembers := h fuel rest hinner
  rw [List.cons_append, List.append_assoc]
  exact skipValue_members hmembers

theorem passes_item {before after : List Char} (hbefore : Blank before) (h : Passes .value text)
    (hafter : Blank after) : Passes .item (before ++ (text ++ after)) := by
  intro fuel c rest hfuel hc
  simp only [List.length_append] at hfuel
  refine ⟨after ++ c :: rest, ?_, skipBlanks_gap hafter (closers_not_blank hc) rest⟩
  rw [List.append_assoc, List.append_assoc, skipValue_gap hbefore]
  exact h fuel _ (by omega) (noNumber_gap hafter hc rest)

theorem passes_oneItem (h : Passes .item text) : Passes .items text := by
  intro fuel rest hfuel
  obtain ⟨fuel, rfl⟩ := Nat.exists_eq_add_one.mpr (Nat.zero_lt_of_lt hfuel)
  obtain ⟨after, hskip, hafter⟩ := h fuel ']' rest (by omega) (by decide)
  simp only [skipItems, hskip, bind, Except.bind, hafter]

theorem passes_moreItems {others : List Char} (h : Passes .item text) (hothers : Passes .items others) :
    Passes .items (text ++ ',' :: others) := by
  intro fuel rest hfuel
  obtain ⟨fuel, rfl⟩ := Nat.exists_eq_add_one.mpr (Nat.zero_lt_of_lt hfuel)
  simp only [List.length_append, List.length_cons] at hfuel
  obtain ⟨after, hskip, hafter⟩ := h fuel ',' (others ++ ']' :: rest) (by omega) (by decide)
  rw [List.append_assoc, List.cons_append, skipItems, hskip]
  simp only [bind, Except.bind]
  rw [hafter]
  exact hothers fuel rest (by omega)

theorem passes_member {before key : List Char} (hbefore : Blank before) (hkey : Quotable key)
    (hgap : Blank gap) (h : Passes .item text) :
    Passes .member (before ++ '"' :: (key ++ '"' :: (gap ++ ':' :: text))) := by
  intro fuel c rest hfuel hc
  simp only [List.length_append, List.length_cons] at hfuel
  obtain ⟨after, hskip, hafter⟩ := h fuel c rest (by omega) hc
  refine ⟨key ++ '"' :: (gap ++ ':' :: (text ++ c :: rest)), gap ++ ':' :: (text ++ c :: rest),
    text ++ c :: rest, after, ?_, hkey.read _, ?_, hskip, hafter⟩
  · simp [skipBlanks_append hbefore, skipBlanks]
  · simp [skipColon, skipBlanks_append hgap, skipBlanks]

theorem passes_oneMember (h : Passes .member text) : Passes .members text := by
  intro fuel rest hfuel
  obtain ⟨fuel, rfl⟩ := Nat.exists_eq_add_one.mpr (Nat.zero_lt_of_lt hfuel)
  obtain ⟨key, colon, item, after, hquote, hkey, hcolon, hskip, hafter⟩ :=
    h fuel '\x7d' rest (by omega) (by decide)
  simp only [skipMembers, hquote, hkey, hcolon, hskip, bind, Except.bind, hafter]

theorem passes_moreMembers {others : List Char} (h : Passes .member text)
    (hothers : Passes .members others) : Passes .members (text ++ ',' :: others) := by
  intro fuel rest hfuel
  obtain ⟨fuel, rfl⟩ := Nat.exists_eq_add_one.mpr (Nat.zero_lt_of_lt hfuel)
  simp only [List.length_append, List.length_cons] at hfuel
  obtain ⟨key, colon, item, after, hquote, hkey, hcolon, hskip, hafter⟩ :=
    h fuel ',' (others ++ '\x7d' :: rest) (by omega) (by decide)
  rw [List.append_assoc, List.cons_append, skipMembers]
  simp only [hquote, hkey, hcolon, hskip, bind, Except.bind, hafter]
  exact hothers fuel rest (by omega)

/-- What the grammar derives is passed over. -/
theorem Derives.passes {part : Part} (h : Derives part text) : Passes part text := by
  induction h with
  | word hword => exact passes_word hword
  | number hnumber => exact passes_number hnumber
  | string hstring => exact passes_string hstring
  | emptyArray hgap => exact passes_emptyArray hgap
  | array _ ih => exact passes_array ih
  | emptyObject hgap => exact passes_emptyObject hgap
  | object _ ih => exact passes_object ih
  | item hbefore _ hafter ih => exact passes_item hbefore ih hafter
  | oneItem _ ih => exact passes_oneItem ih
  | moreItems _ _ ih ihothers => exact passes_moreItems ih ihothers
  | member hbefore hkey hgap _ ih => exact passes_member hbefore hkey hgap ih
  | oneMember _ ih => exact passes_oneMember ih
  | moreMembers _ _ ih ihothers => exact passes_moreMembers ih ihothers

/-- A value is passed over, with the blanks in front of it. -/
theorem Derives.skip (h : Derives .value text) (hgap : Blank gap) (hrest : NoNumber rest) :
    skip (gap ++ (text ++ rest)) = .ok rest := by
  rw [Json.skip, skipValue_gap hgap]
  exact h.passes _ rest (by simp; omega) hrest

end BufferBridge.Json

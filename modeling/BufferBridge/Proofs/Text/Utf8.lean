import BufferBridge.Text.Utf8

/-!
# Bytes that are a text are those of one text

Each character has one form of one to four bytes. Decoding takes one form after another and nothing else,
so it accepts the bytes of texts and gives the text back.
-/
namespace BufferBridge.Utf8

/-- The bytes of the character with number `n`: six bits in each byte but the first, which holds what is
left and tells how many bytes there are. -/
inductive Form (n : Nat) : Bytes → Prop
  | one {first : UInt8} (hhigh : n < 128) (hfirst : first.toNat = n) : Form n [first]
  | two {first second : UInt8} (hlow : 128 ≤ n) (hhigh : n < 2048)
    (hfirst : first.toNat = n / 64 + 192) (hsecond : second.toNat = n % 64 + 128) :
    Form n [first, second]
  | three {first second third : UInt8} (hlow : 2048 ≤ n) (hhigh : n < 65536) (hvalid : n.isValidChar)
    (hfirst : first.toNat = n / 4096 + 224) (hsecond : second.toNat = n / 64 % 64 + 128)
    (hthird : third.toNat = n % 64 + 128) : Form n [first, second, third]
  | four {first second third fourth : UInt8} (hlow : 65536 ≤ n) (hhigh : n < 1114112)
    (hfirst : first.toNat = n / 262144 + 240) (hsecond : second.toNat = n / 4096 % 64 + 128)
    (hthird : third.toNat = n / 64 % 64 + 128) (hfourth : fourth.toNat = n % 64 + 128) :
    Form n [first, second, third, fourth]

variable {first second third fourth byte : UInt8} {n index : Nat}

/-! ## What the checks on bytes say -/

theorem eq_iff_toNat_eq {other : UInt8} : byte = other ↔ byte.toNat = other.toNat :=
  UInt8.toNat_inj.symm

theorem lt_ascii_iff : byte < 0x80 ↔ byte.toNat < 128 :=
  UInt8.lt_iff_toNat_lt

theorem within_iff {low high : UInt8} :
    within low high byte = true ↔ low.toNat ≤ byte.toNat ∧ byte.toNat ≤ high.toNat := by
  rw [within, Bool.and_eq_true, decide_eq_true_eq, decide_eq_true_eq, UInt8.le_iff_toNat_le,
    UInt8.le_iff_toNat_le]

theorem startsTwo_iff : within 0xC2 0xDF first = true ↔ 194 ≤ first.toNat ∧ first.toNat ≤ 223 :=
  within_iff

theorem startsThree_iff : within 0xE0 0xEF first = true ↔ 224 ≤ first.toNat ∧ first.toNat ≤ 239 :=
  within_iff

theorem startsFour_iff : within 0xF0 0xF4 first = true ↔ 240 ≤ first.toNat ∧ first.toNat ≤ 244 :=
  within_iff

theorem isContinuation_iff : isContinuation byte = true ↔ 128 ≤ byte.toNat ∧ byte.toNat ≤ 191 :=
  within_iff

/-- The checks on a second byte: one byte at each end of the range of first bytes lets fewer follow. -/
theorem narrowed_iff {least most low high : UInt8} (hlow : 128 ≤ low.toNat) (hhigh : high.toNat ≤ 191)
    (hne : least.toNat ≠ most.toNat) :
    (if first = least then within low 0xBF second
      else if first = most then within 0x80 high second
      else isContinuation second) = true ↔
      128 ≤ second.toNat ∧ second.toNat ≤ 191 ∧ (first.toNat = least.toNat → low.toNat ≤ second.toNat) ∧
        (first.toNat = most.toNat → second.toNat ≤ high.toNat) := by
  have hbf : (0xBF : UInt8).toNat = 191 := rfl
  have h80 : (0x80 : UInt8).toNat = 128 := rfl
  simp only [eq_iff_toNat_eq]
  split
  · rw [within_iff]
    omega
  · split
    · rw [within_iff]
      omega
    · rw [isContinuation_iff]
      omega

theorem opensThree_iff : opensThree first second = true ↔
    128 ≤ second.toNat ∧ second.toNat ≤ 191 ∧ (first.toNat = 224 → 160 ≤ second.toNat) ∧
      (first.toNat = 237 → second.toNat ≤ 159) :=
  narrowed_iff (by decide) (by decide) (by decide)

theorem opensFour_iff : opensFour first second = true ↔
    128 ≤ second.toNat ∧ second.toNat ≤ 191 ∧ (first.toNat = 240 → 144 ≤ second.toNat) ∧
      (first.toNat = 244 → second.toNat ≤ 143) :=
  narrowed_iff (by decide) (by decide) (by decide)

/-! ## Forms -/

theorem Form.isValidChar {form : Bytes} (h : Form n form) : n.isValidChar := by
  cases h with
  | one hhigh => exact .inl (by omega)
  | two hlow hhigh => exact .inl (by omega)
  | three hlow hhigh hvalid => exact hvalid
  | four hlow hhigh => exact .inr (by omega)

/-- A character has one form only. -/
theorem Form.unique {form form' : Bytes} (h : Form n form) (h' : Form n form') : form = form' := by
  cases h <;> cases h' <;>
    simp only [List.cons.injEq, eq_iff_toNat_eq, reduceCtorEq, and_true, and_false] <;> omega

theorem toNat_ofNat (h : n.isValidChar) : (Char.ofNat n).val.toNat = n := by
  rw [Char.ofNat, dif_pos h]
  rfl

theorem form_utf8EncodeChar (char : Char) : Form char.val.toNat (String.utf8EncodeChar char) := by
  have hvalid : char.val.toNat.isValidChar := char.valid
  have hbyte : ∀ {m k : Nat}, m = k → k < 256 → (UInt8.ofNat m).toNat = k := by
    rintro m _ rfl h
    exact UInt8.toNat_ofNat_of_lt' h
  rw [String.utf8EncodeChar]
  generalize char.val.toNat = n at hvalid
  have hmax : n < 1114112 := by
    rcases hvalid with h | h <;> omega
  split
  · exact .one (by omega) (hbyte rfl (by omega))
  · split
    · exact .two (by omega) (by omega) (hbyte (by omega) (by omega)) (hbyte rfl (by omega))
    · split
      · exact .three (by omega) (by omega) hvalid (hbyte (by omega) (by omega))
          (hbyte rfl (by omega)) (hbyte rfl (by omega))
      · exact .four (by omega) (by omega) (hbyte (by omega) (by omega)) (hbyte rfl (by omega))
          (hbyte rfl (by omega)) (hbyte rfl (by omega))

theorem Form.eq_utf8EncodeChar {form : Bytes} (h : Form n form) :
    form = String.utf8EncodeChar (Char.ofNat n) := by
  have hform := form_utf8EncodeChar (Char.ofNat n)
  rw [toNat_ofNat h.isValidChar] at hform
  exact h.unique hform

/-! ## Decoding -/

variable {before chars : List Char} {rest bytes : Bytes}

/-- Decoding takes the form of a character for that character. -/
theorem decodeFrom_form {form : Bytes} (h : Form n form) :
    decodeFrom index before (form ++ rest) =
      decodeFrom (index + form.length) (Char.ofNat n :: before) rest := by
  cases h with
  | one hhigh hfirst =>
    rw [List.singleton_append, decodeFrom.eq_def]
    simp only [lt_ascii_iff, hfirst, hhigh, if_true]
    rfl
  | @two first second hlow hhigh hfirst hsecond =>
    have hchar : first.toNat % 32 * 64 + payload second = n := by
      rw [payload]
      omega
    rw [List.cons_append, List.singleton_append, decodeFrom.eq_def]
    simp only [lt_ascii_iff, startsTwo_iff, isContinuation_iff]
    rw [if_neg (by omega), if_pos (by omega), if_pos (by omega), hchar]
    rfl
  | @three first second third hlow hhigh hvalid hfirst hsecond hthird =>
    have hopens : opensThree first second = true := by
      rw [opensThree_iff]
      rcases hvalid with h | h <;> omega
    have hchar : first.toNat % 16 * 4096 + payload second * 64 + payload third = n := by
      rw [payload, payload]
      omega
    rw [List.cons_append, List.cons_append, List.singleton_append, decodeFrom.eq_def]
    simp only [lt_ascii_iff, startsTwo_iff, startsThree_iff, isContinuation_iff]
    rw [if_neg (by omega), if_neg (by omega), if_pos (by omega), if_pos hopens, if_pos (by omega), hchar]
    rfl
  | @four first second third fourth hlow hhigh hfirst hsecond hthird hfourth =>
    have hopens : opensFour first second = true := by
      rw [opensFour_iff]
      omega
    have hchar : first.toNat % 8 * 262144 + payload second * 4096 + payload third * 64 +
        payload fourth = n := by
      rw [payload, payload, payload]
      omega
    rw [List.cons_append, List.cons_append, List.cons_append, List.singleton_append,
      decodeFrom.eq_def]
    simp only [lt_ascii_iff, startsTwo_iff, startsThree_iff, startsFour_iff, isContinuation_iff]
    rw [if_neg (by omega), if_neg (by omega), if_neg (by omega), if_pos (by omega), if_pos hopens,
      if_pos (by omega), if_pos (by omega), hchar]
    rfl

theorem decodeFrom_flatMap (chars : List Char) :
    decodeFrom index before (chars.flatMap String.utf8EncodeChar) = .ok (before.reverse ++ chars) := by
  induction chars generalizing index before with
  | nil =>
    rw [List.flatMap_nil, decodeFrom.eq_def, List.append_nil]
  | cons char chars ih =>
    have hchar : Char.ofNat char.val.toNat = char := Char.ofNat_toNat char
    rw [List.flatMap_cons, decodeFrom_form (form_utf8EncodeChar char), hchar, ih, List.reverse_cons,
      List.append_assoc]
    rfl

/-- What follows a form is a text, and so is the whole. -/
theorem Form.text_append {form : Bytes} (h : Form n form)
    (hrest : ∃ tail, chars = (Char.ofNat n :: before).reverse ++ tail ∧
      rest = tail.flatMap String.utf8EncodeChar) :
    ∃ tail, chars = before.reverse ++ tail ∧ form ++ rest = tail.flatMap String.utf8EncodeChar := by
  obtain ⟨tail, rfl, rfl⟩ := hrest
  refine ⟨Char.ofNat n :: tail, ?_, ?_⟩
  · rw [List.reverse_cons, List.append_assoc]
    rfl
  · rw [List.flatMap_cons, ← h.eq_utf8EncodeChar]

/-- Decoding takes nothing but forms. -/
theorem text_of_decodeFrom (h : decodeFrom index before bytes = .ok chars) :
    ∃ tail, chars = before.reverse ++ tail ∧ bytes = tail.flatMap String.utf8EncodeChar := by
  fun_induction decodeFrom index before bytes with
  | case1 index before =>
    cases h
    exact ⟨[], (List.append_nil _).symm, rfl⟩
  | case2 index before first rest hascii ih =>
    rw [lt_ascii_iff] at hascii
    exact (Form.one hascii rfl).text_append (ih h)
  | case4 index before first hascii htwo second rest hnext char ih =>
    rw [startsTwo_iff] at htwo
    rw [isContinuation_iff] at hnext
    have hform : Form (first.toNat % 32 * 64 + payload second) [first, second] := by
      rw [payload]
      exact .two (by omega) (by omega) (by omega) (by omega)
    exact hform.text_append (ih h)
  | case8 index before first hascii htwo hthree second hopens third rest hnext char ih =>
    rw [startsThree_iff] at hthree
    rw [opensThree_iff] at hopens
    rw [isContinuation_iff] at hnext
    have hform : Form (first.toNat % 16 * 4096 + payload second * 64 + payload third)
        [first, second, third] := by
      rw [payload, payload]
      -- a first byte of the surrogates is followed by a second byte below theirs
      have hvalid : (first.toNat % 16 * 4096 + second.toNat % 64 * 64 +
          third.toNat % 64).isValidChar := by
        rw [Nat.isValidChar]
        omega
      exact .three (by omega) (by omega) hvalid (by omega) (by omega) (by omega)
    exact hform.text_append (ih h)
  | case14 index before first hascii htwo hthree hfour second hopens third hnext fourth rest hlast char
      ih =>
    rw [startsFour_iff] at hfour
    rw [opensFour_iff] at hopens
    rw [isContinuation_iff] at hnext hlast
    have hform : Form (first.toNat % 8 * 262144 + payload second * 4096 + payload third * 64 +
        payload fourth) [first, second, third, fourth] := by
      rw [payload, payload, payload]
      exact .four (by omega) (by omega) (by omega) (by omega) (by omega) (by omega)
    exact hform.text_append (ih h)
  | _ => cases h

/-- **Decoding accepts the bytes of texts and nothing else.** -/
theorem decode_eq_ok_iff {text : String} : decode bytes = .ok text ↔ bytes = encode text := by
  constructor
  · intro h
    cases hchars : decodeFrom 0 [] bytes with
    | error fault =>
      rw [decode, hchars] at h
      cases h
    | ok chars =>
      rw [decode, hchars] at h
      cases h
      obtain ⟨tail, rfl, hbytes⟩ := text_of_decodeFrom hchars
      rw [encode, String.toList_ofList]
      exact hbytes
  · rintro rfl
    rw [decode, encode, decodeFrom_flatMap]
    exact congrArg _ String.ofList_toList

end BufferBridge.Utf8

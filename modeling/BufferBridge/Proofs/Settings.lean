import BufferBridge.Config.Reader
import BufferBridge.Proofs.Json.Scanning

/-!
# Settings from a text

An object sets what it names, in any order, and leaves the rest at the defaults; members of other names
say nothing. A configuration is read back from its own text. An object that names a setting twice is
refused, whatever the values are.
-/
namespace BufferBridge.Config

open Json

/-! ## Objects that set a configuration -/

/-- A configuration for the settings that are named, and the default for the others. -/
def overriding (config : Config) (names : List String) : Config where
  codec := if "codec" ∈ names then config.codec else ({} : Config).codec
  level := if "zstd_level" ∈ names then config.level else ({} : Config).level
  remainder := if "shuffle_remainder" ∈ names then config.remainder else ({} : Config).remainder
  overlap := if "allow_overlapping_copy" ∈ names then config.overlap else ({} : Config).overlap

/-- A member that gives a setting the value it has in a configuration, or is of another name and has
any value. -/
inductive Sets (config : Config) : Member → Prop
  | codec {text : List Char} : InQuotes config.codec.key text → Sets config ⟨"codec", text⟩
  | level : Sets config ⟨"zstd_level", (toString config.level.toInt).toList⟩
  | remainder {text : List Char} : InQuotes config.remainder.key text →
      Sets config ⟨"shuffle_remainder", text⟩
  | overlap : Sets config ⟨"allow_overlapping_copy", (boolWord config.overlap).toList⟩
  | other {member : Member} : member.name ∉ fieldNames → Derives .value member.value →
      Sets config member

/-! ## Single values -/

variable {α : Type} {choices : List (String × α)} {value : α} {name : String}
  {text rest gap : List Char}

theorem readChoice_gap (hgap : Blank gap) (rest : List Char) :
    readChoice choices (gap ++ rest) = readChoice choices rest := by
  rw [readChoice, readChoice, skipBlanks_append hgap]

theorem readInt32_gap (hgap : Blank gap) (rest : List Char) :
    readInt32 (gap ++ rest) = readInt32 rest := by
  rw [readInt32, readInt32, skipBlanks_append hgap]

theorem readBool_gap (hgap : Blank gap) (rest : List Char) :
    readBool (gap ++ rest) = readBool rest := by
  rw [readBool, readBool, skipBlanks_append hgap]

theorem readChoice_inQuotes (h : InQuotes name text) (hlookup : choices.lookup name = some value)
    (rest : List Char) : readChoice choices (text ++ rest) = .ok (value, rest) := by
  obtain ⟨body, hbody, hread⟩ := h.read rest
  rw [hbody, readChoice, skipBlanks_cons (by decide)]
  simp only [hread, lookup, hlookup, bind, Except.bind, pure, Except.pure]

theorem readBool_boolWord (flag : Bool) (rest : List Char) :
    readBool ((boolWord flag).toList ++ rest) = .ok (flag, rest) := by
  cases flag <;> rfl

/-! Whole numbers are read back from their digits. -/

theorem toDigits_whole (n : Nat) : Whole (Nat.toDigits 10 n) := by
  have hdigits : ∀ c ∈ Nat.toDigits 10 n, c.isDigit := fun c hc =>
    Nat.isDigit_of_mem_toDigits (by decide) (by decide) hc
  have hfirst : n ≠ 0 → ∃ first others, Nat.toDigits 10 n = first :: others ∧ first ≠ '0' := by
    -- the digits in front of the last one are those of a tenth
    induction n using Nat.strongRecOn with
    | ind n ih =>
      intro hn
      rw [Nat.toDigits_eq_if (by decide)]
      by_cases hsmall : n < 10
      · rw [if_pos hsmall]
        exact ⟨_, [], rfl, by simpa using hn⟩
      · rw [if_neg hsmall]
        obtain ⟨first, others, htenth, hzero⟩ := ih (n / 10) (by omega)
          (fun c hc => Nat.isDigit_of_mem_toDigits (by decide) (by decide) hc) (by omega)
        exact ⟨first, _, by rw [htenth]; rfl, hzero⟩
  by_cases hn : n = 0
  · rw [hn]
    exact .zero
  · obtain ⟨first, others, hcons, hzero⟩ := hfirst hn
    rw [hcons] at hdigits ⊢
    exact .other (hdigits first List.mem_cons_self) hzero fun c hc =>
      hdigits c (List.mem_cons_of_mem _ hc)

theorem natOfDigits_toDigits (n : Nat) : natOfDigits (Nat.toDigits 10 n) = n := by
  have hfold := @Nat.ofDigitChars_ten_toDigits n
  rw [Nat.ofDigitChars_eq_foldl] at hfold
  simp only [natOfDigits, digitValue, Nat.mul_comm _ 10]
  exact hfold

theorem readInt32_of_number {c : Char} {number : Int} {level : Int32} (hc : c = '-' ∨ c.isDigit)
    (hread : readNumber (c :: text) = .ok (.integer number, rest))
    (hlevel : hostInt? number = some level) : readInt32 (c :: text) = .ok (level, rest) := by
  rw [readInt32, skipBlanks_number hc]
  simp only [if_pos hc, hread, hlevel, bind, Except.bind, pure, Except.pure]

theorem readInt32_level (level : Int32) (hrest : NoNumber rest) :
    readInt32 ((toString level.toInt).toList ++ rest) = .ok (level, rest) := by
  have hlow := level.le_toInt
  have hhigh := level.toInt_lt
  have hlevel : hostInt? level.toInt = some level := by
    have hrange : -(maxHostInt : Int) - 1 ≤ level.toInt ∧ level.toInt ≤ maxHostInt := by
      simp only [maxHostInt]
      omega
    rw [hostInt?, if_pos hrange, Int32.ofInt_toInt]
  generalize level.toInt = value at *
  have hwhole := toDigits_whole value.natAbs
  have hvalue := natOfDigits_toDigits value.natAbs
  obtain ⟨hplain, hminus⟩ := readNumeral_of_parts (wholeDigits_append hwhole hrest.noFraction.noDigit)
    (hwhole.no_sign rest) (fractionDigits_of_noFraction hrest.noFraction)
    (exponentPart_of_noNumber hrest)
  obtain ⟨hne, hdigits⟩ := hwhole.digits
  obtain ⟨first, others, hcons⟩ := List.exists_cons_of_ne_nil hne
  rw [hcons] at hvalue hplain hminus hdigits
  rw [Int.toString_eq_repr, Int.repr_eq_if]
  by_cases hsign : 0 ≤ value
  · have hnumber : (⟨false, first :: others, [], none⟩ : Numeral).toNumber? =
        some (.integer value) := by
      have hfits : value.natAbs ≤ maxSize := by simp only [maxSize]; omega
      simp [Numeral.toNumber?, hvalue, hfits, hsign]
    have habs : value.toNat = value.natAbs := by omega
    rw [if_pos hsign, Nat.toList_repr, habs, hcons]
    refine readInt32_of_number (.inr (hdigits first List.mem_cons_self)) ?_ hlevel
    change readNumber (first :: others ++ rest) = _
    rw [readNumber, hplain]
    simp only [hnumber, bind, Except.bind, pure, Except.pure]
  · have hnumber : (⟨true, first :: others, [], none⟩ : Numeral).toNumber? =
        some (.integer value) := by
      have hfits : 0 < value.natAbs ∧ value.natAbs ≤ 0x8000000000000000 := by omega
      have hneg : -(value.natAbs : Int) = value := by omega
      simp only [Numeral.toNumber?, hvalue, hfits, hneg]
      simp
    have habs : (-value).toNat = value.natAbs := by omega
    rw [if_neg hsign, String.toList_append, Nat.toList_repr, habs, hcons]
    refine readInt32_of_number (.inl rfl) ?_ hlevel
    change readNumber ('-' :: (first :: others ++ rest)) = _
    rw [readNumber, hminus]
    simp only [hnumber, bind, Except.bind, pure, Except.pure]

/-! ## Members of a configuration -/

/-- The settings of a configuration that are named. -/
def partially (config : Config) (names : List String) : Partial where
  codec := if "codec" ∈ names then some config.codec else none
  level := if "zstd_level" ∈ names then some config.level else none
  remainder := if "shuffle_remainder" ∈ names then some config.remainder else none
  overlap := if "allow_overlapping_copy" ∈ names then some config.overlap else none

variable {config : Config} {names others : List String} {colon after : List Char}

theorem complete_partially (config : Config) (names : List String) :
    (config.partially names).complete = config.overriding names := by
  simp only [Partial.complete, partially, overriding, mk.injEq]
  refine ⟨?_, ?_, ?_, ?_⟩ <;> split <;> rfl

theorem partially_congr (h : ∀ name ∈ fieldNames, name ∈ names ↔ name ∈ others) :
    config.partially names = config.partially others := by
  simp only [fieldNames, List.mem_cons, List.not_mem_nil, or_false, forall_eq_or_imp, forall_eq] at h
  simp only [partially, h]

/-- A setting that is found for the first time is read from behind the colon. -/
theorem once_of_none {read : List Char → Except Fault (α × List Char)}
    (hcolon : skipColon colon = .ok text) (hread : read text = .ok (value, rest)) :
    once name none colon read = .ok (some value, rest) := by
  simp only [once, Option.isSome_none, Bool.false_eq_true, if_false, hcolon, hread, bind, Except.bind,
    pure, Except.pure]

/-- One member of an object, with the settings of the members before it. -/
theorem readMember_sets {member : Member} (h : config.Sets member)
    (hnew : member.name ∈ fieldNames → member.name ∉ names) (hgap : Blank gap)
    (hafter : NoNumber after) (hcolon : skipColon colon = .ok (gap ++ (member.value ++ after))) :
    readMember member.name (config.partially names) colon =
      .ok (config.partially (member.name :: names), after) := by
  cases h with
  | codec htext =>
    have hlookup : codecChoices.lookup config.codec.key = some config.codec := by
      cases config.codec <;> rfl
    have hread := readChoice_inQuotes htext hlookup after
    rw [← readChoice_gap hgap] at hread
    have hnone : (config.partially names).codec = none := if_neg (hnew (by simp [fieldNames]))
    rw [readMember, if_pos rfl, hnone, once_of_none hcolon hread]
    simp [partially, bind, Except.bind, pure, Except.pure]
  | level =>
    have hread := readInt32_level config.level hafter
    rw [← readInt32_gap hgap] at hread
    have hnone : (config.partially names).level = none := if_neg (hnew (by simp [fieldNames]))
    rw [readMember, if_neg (by simp), if_pos rfl, hnone, once_of_none hcolon hread]
    simp [partially, bind, Except.bind, pure, Except.pure]
  | remainder htext =>
    have hlookup : remainderChoices.lookup config.remainder.key = some config.remainder := by
      cases config.remainder <;> rfl
    have hread := readChoice_inQuotes htext hlookup after
    rw [← readChoice_gap hgap] at hread
    have hnone : (config.partially names).remainder = none := if_neg (hnew (by simp [fieldNames]))
    rw [readMember, if_neg (by simp), if_neg (by simp), if_pos rfl, hnone, once_of_none hcolon hread]
    simp [partially, bind, Except.bind, pure, Except.pure]
  | overlap =>
    have hread := readBool_boolWord config.overlap after
    rw [← readBool_gap hgap] at hread
    have hnone : (config.partially names).overlap = none := if_neg (hnew (by simp [fieldNames]))
    rw [readMember, if_neg (by simp), if_neg (by simp), if_neg (by simp), if_pos rfl, hnone,
      once_of_none hcolon hread]
    simp [partially, bind, Except.bind, pure, Except.pure]
  | other hname hvalue =>
    have hskip := hvalue.skip hgap hafter
    have hsame : config.partially (member.name :: names) = config.partially names :=
      partially_congr fun name hmem => by
        have hne : name ≠ member.name := fun h => hname (h ▸ hmem)
        simp [hne]
    simp only [fieldNames, List.mem_cons, List.not_mem_nil, or_false, not_or] at hname
    obtain ⟨hcodec, hlevel, hremainder, hoverlap⟩ := hname
    rw [readMember, if_neg hcodec, if_neg hlevel, if_neg hremainder, if_neg hoverlap, hcolon, hsame]
    simp only [hskip, bind, Except.bind, pure, Except.pure]

/-- How a member is read up to its value: a key in quotes and a colon. Behind the value come blanks. -/
theorem writes_read {member : Member} (h : member.Writes text) (tail : List Char) :
    ∃ body colon gap final, skipBlanks (text ++ tail) = '"' :: body ∧
      readString body = .ok (member.name, colon) ∧ Blank gap ∧ Blank final ∧
      skipColon colon = .ok (gap ++ (member.value ++ (final ++ tail))) := by
  obtain @⟨before, key, after, gap, final, hbefore, hkey, hafter, hgap, hfinal⟩ := h
  obtain ⟨body, hbody, hname⟩ := hkey.read (after ++ ':' :: (gap ++ (member.value ++ (final ++ tail))))
  refine ⟨body, _, gap, final, ?_, hname, hgap, hfinal, ?_⟩
  · rw [List.append_assoc, skipBlanks_append hbefore]
    simp only [List.append_assoc, List.cons_append]
    rw [hbody, skipBlanks_cons (by decide)]
  · rw [skipColon, skipBlanks_gap hafter (by decide)]
    rfl

/-- The first of some members is new where no setting is named twice. -/
theorem not_mem_of_count_le {members : List Member} {member : Member}
    (h : ∀ name ∈ fieldNames, ((member :: members).map Member.name ++ names).count name ≤ 1)
    (hmem : member.name ∈ fieldNames) : member.name ∉ names := by
  intro hseen
  have hcount := h member.name hmem
  have hpos := List.count_pos_iff.mpr hseen
  simp only [List.map_cons, List.cons_append, List.count_cons_self, List.count_append] at hcount
  omega

/-- The members of an object that set a configuration, from any of them on. -/
theorem readMembers_sets {members : List Member} (h : WritesMembers members text)
    (hsets : ∀ member ∈ members, config.Sets member)
    (honce : ∀ name ∈ fieldNames, (members.map Member.name ++ names).count name ≤ 1)
    {fuel : Nat} (hfuel : members.length ≤ fuel) (rest : List Char) :
    readMembers (config.partially names) fuel (text ++ '\x7d' :: rest) =
      .ok (config.partially (members.map Member.name ++ names), rest) := by
  induction h generalizing names fuel with
  | @one member text hwrites =>
    obtain ⟨fuel, rfl⟩ := Nat.exists_eq_add_one.mpr (Nat.lt_of_lt_of_le (Nat.succ_pos _) hfuel)
    obtain ⟨body, colon, gap, final, hquote, hname, hgap, hfinal, hcolon⟩ :=
      writes_read hwrites ('\x7d' :: rest)
    have hmember := readMember_sets (hsets member List.mem_cons_self) (not_mem_of_count_le honce) hgap
      (noNumber_gap hfinal (by decide) rest) hcolon
    rw [readMembers, hquote]
    simp only [hname, hmember, bind, Except.bind]
    rw [skipBlanks_gap hfinal (by decide)]
    rfl
  | @more member members text others hwrites _ ih =>
    obtain ⟨fuel, rfl⟩ := Nat.exists_eq_add_one.mpr (Nat.lt_of_lt_of_le (Nat.succ_pos _) hfuel)
    obtain ⟨body, colon, gap, final, hquote, hname, hgap, hfinal, hcolon⟩ :=
      writes_read hwrites (',' :: (others ++ '\x7d' :: rest))
    have hmember := readMember_sets (hsets member List.mem_cons_self) (not_mem_of_count_le honce) hgap
      (noNumber_gap hfinal (by decide) _) hcolon
    have hmoved : ((members.map Member.name) ++ member.name :: names).Perm
        ((member :: members).map Member.name ++ names) := List.perm_middle
    have hothers : readMembers (config.partially (member.name :: names)) fuel
        (others ++ '\x7d' :: rest) =
          .ok (config.partially (members.map Member.name ++ member.name :: names), rest) := ih
      (fun other hmem => hsets other (List.mem_cons_of_mem _ hmem))
      (fun name hmem => (hmoved.count_eq name).trans_le (honce name hmem))
      (by simp only [List.length_cons] at hfuel; omega)
    rw [List.append_assoc, List.cons_append, readMembers, hquote]
    simp only [hname, hmember, bind, Except.bind]
    rw [skipBlanks_gap hfinal (by decide)]
    exact hothers.trans (by rw [partially_congr fun name _ => hmoved.mem_iff])

/-! ## Settings that are named twice -/

/-- Whether a setting was found. -/
def Partial.has (found : Partial) (name : String) : Bool :=
  (name = "codec" ∧ found.codec.isSome) ∨ (name = "zstd_level" ∧ found.level.isSome) ∨
    (name = "shuffle_remainder" ∧ found.remainder.isSome) ∨
    (name = "allow_overlapping_copy" ∧ found.overlap.isSome)

/-- A reader that leaves what is left when its value is passed over. -/
def LeavesRest (read : List Char → Except Fault (α × List Char)) : Prop :=
  ∀ {text rest : List Char} {value : α}, read text = .ok (value, rest) →
    ∀ fuel, skipValue (fuel + 3) text = .ok rest

theorem readNumeral_of_readNumber {number : Number} (h : readNumber text = .ok (number, rest)) :
    ∃ numeral, readNumeral text = .ok (numeral, rest) := by
  obtain ⟨⟨numeral, final⟩, hnumeral, h⟩ := bind_eq_ok_iff.mp h
  simp only at h
  split at h
  · cases h
    exact ⟨numeral, hnumeral⟩
  · cases h

theorem leavesRest_readInt32 : LeavesRest readInt32 := by
  intro text rest value h fuel
  rw [← skipValue_skipBlanks]
  rw [readInt32] at h
  split at h
  · rename_i c tail hblanks
    split at h
    · rename_i hc
      obtain ⟨⟨number, final⟩, hnumber, h⟩ := bind_eq_ok_iff.mp h
      obtain ⟨numeral, hnumeral⟩ := readNumeral_of_readNumber hnumber
      have hfinal : final = rest := by
        simp only at h
        split at h
        · split at h
          · cases h; rfl
          · cases h
        · cases h
      rw [hblanks, skipValue_number hc, hnumeral, hfinal]
      rfl
    · cases h
  · cases h

theorem leavesRest_readBool : LeavesRest readBool := by
  intro text rest value h fuel
  rw [skipValue]
  rw [readBool] at h
  split at h
  · rename_i tail hblanks
    rw [hblanks]
    obtain ⟨_, hexpect, hrest⟩ := map_eq_ok_iff.mp h
    cases hrest
    exact hexpect
  · rename_i tail hblanks
    rw [hblanks]
    obtain ⟨_, hexpect, hrest⟩ := map_eq_ok_iff.mp h
    cases hrest
    exact hexpect
  · cases h

theorem leavesRest_readChoice (choices : List (String × α)) : LeavesRest (readChoice choices) := by
  intro text rest value h fuel
  rw [← skipValue_skipBlanks]
  rw [readChoice] at h
  split at h
  · rename_i tail hblanks
    obtain ⟨⟨name, other⟩, hread, h⟩ := bind_eq_ok_iff.mp h
    obtain ⟨found, -, h⟩ := bind_eq_ok_iff.mp h
    cases h
    rw [hblanks, skipValue, skipBlanks_cons (by decide)]
    exact skipString_of_readChars hread
  · rename_i tail hblanks
    rw [hblanks]
    split at h
    · rename_i key hquote
      obtain ⟨⟨name, colon⟩, hread, h⟩ := bind_eq_ok_iff.mp h
      obtain ⟨found, -, h⟩ := bind_eq_ok_iff.mp h
      obtain ⟨word, hcolon, h⟩ := bind_eq_ok_iff.mp h
      -- a name as the one key of an object, with null as its value
      split at h
      · rename_i null hnull
        obtain ⟨final, hexpect, h⟩ := bind_eq_ok_iff.mp h
        split at h
        · rename_i after hafter
          cases h
          have hvalue : skipValue (fuel + 1) word = .ok final := by
            rw [skipValue, hnull]
            exact hexpect
          refine skipValue_members ?_
          rw [skipMembers, hquote]
          simp only [skipString_of_readChars hread, hcolon, hvalue, bind, Except.bind, hafter]
        · cases h
      · cases h
    · cases h
  · cases h

section

variable {final : List Char} (hvalue : Derives .value text) (hgap : Blank gap) (hafter : NoNumber after)
include hvalue hgap hafter

/-- What is left when a value is passed over is what comes after it. -/
theorem eq_of_skipValue {fuel : Nat} (hfuel : text.length ≤ fuel)
    (h : skipValue fuel (gap ++ (text ++ after)) = .ok final) : final = after := by
  rw [skipValue_gap hgap, hvalue.passes fuel after hfuel hafter] at h
  cases h
  rfl

/-- A setting that is read, in any way, was not found before, and its whole value is taken. -/
theorem once_ok {before found : Option α} {read : List Char → Except Fault (α × List Char)}
    (hcolon : skipColon colon = .ok (gap ++ (text ++ after))) (hread : LeavesRest read)
    (h : once name before colon read = .ok (found, final)) :
    before.isSome = false ∧ found.isSome ∧ final = after := by
  rw [once] at h
  split at h
  · cases h
  · rename_i hbefore
    obtain ⟨other, hskip, h⟩ := bind_eq_ok_iff.mp h
    obtain ⟨⟨value, rest⟩, hfound, hreturn⟩ := bind_eq_ok_iff.mp h
    rw [hcolon] at hskip
    cases hskip
    cases hreturn
    exact ⟨by simpa using hbefore, rfl,
      eq_of_skipValue hvalue hgap hafter (Nat.le_add_right _ 3) (hread hfound _)⟩

end

/-- One member of any object that is read: its setting is new, and is found now. -/
theorem readMember_ok {found final : Partial} {value : List Char} (hvalue : Derives .value value)
    (hgap : Blank gap) (hafter : NoNumber after)
    (hcolon : skipColon colon = .ok (gap ++ (value ++ after)))
    (h : readMember name found colon = .ok (final, rest)) :
    rest = after ∧ ∀ other ∈ fieldNames,
      [name].count other + (found.has other).toNat ≤ (final.has other).toNat := by
  rw [readMember] at h
  split at h
  · rename_i hname
    obtain ⟨⟨codec, other⟩, honce, hreturn⟩ := bind_eq_ok_iff.mp h
    cases hreturn
    obtain ⟨hbefore, hfound, hrest⟩ := once_ok hvalue hgap hafter hcolon (leavesRest_readChoice _) honce
    exact ⟨hrest, by simp [fieldNames, Partial.has, hname, hbefore, hfound]⟩
  split at h
  · rename_i hname
    obtain ⟨⟨level, other⟩, honce, hreturn⟩ := bind_eq_ok_iff.mp h
    cases hreturn
    obtain ⟨hbefore, hfound, hrest⟩ := once_ok hvalue hgap hafter hcolon leavesRest_readInt32 honce
    exact ⟨hrest, by simp [fieldNames, Partial.has, hname, hbefore, hfound]⟩
  split at h
  · rename_i hname
    obtain ⟨⟨remainder, other⟩, honce, hreturn⟩ := bind_eq_ok_iff.mp h
    cases hreturn
    obtain ⟨hbefore, hfound, hrest⟩ := once_ok hvalue hgap hafter hcolon (leavesRest_readChoice _) honce
    exact ⟨hrest, by simp [fieldNames, Partial.has, hname, hbefore, hfound]⟩
  split at h
  · rename_i hname
    obtain ⟨⟨overlap, other⟩, honce, hreturn⟩ := bind_eq_ok_iff.mp h
    cases hreturn
    obtain ⟨hbefore, hfound, hrest⟩ := once_ok hvalue hgap hafter hcolon leavesRest_readBool honce
    exact ⟨hrest, by simp [fieldNames, Partial.has, hname, hbefore, hfound]⟩
  · rename_i hcodec hlevel hremainder hoverlap
    obtain ⟨text, hskip, h⟩ := bind_eq_ok_iff.mp h
    obtain ⟨other, hpassed, hreturn⟩ := bind_eq_ok_iff.mp h
    rw [hcolon] at hskip
    cases hskip
    cases hreturn
    refine ⟨eq_of_skipValue hvalue hgap hafter (by simp; omega) hpassed, ?_⟩
    simp [fieldNames, List.count_singleton, hcodec, hlevel, hremainder, hoverlap]

/-- Members of any object that are read: no setting is named twice. -/
theorem readMembers_ok {members : List Member} (h : WritesMembers members text)
    (hvalues : ∀ member ∈ members, Derives .value member.value) {found final : Partial} {fuel : Nat}
    {tail : List Char} (hread : readMembers found fuel (text ++ '\x7d' :: tail) = .ok (final, rest)) :
    ∀ name ∈ fieldNames, (members.map Member.name).count name + (found.has name).toNat ≤ 1 := by
  induction h generalizing found fuel with
  | @one member text hwrites =>
    cases fuel with
    | zero => cases hread
    | succ fuel =>
      obtain ⟨body, colon, gap, blanks, hquote, hname, hgap, hblanks, hcolon⟩ :=
        writes_read hwrites ('\x7d' :: tail)
      rw [readMembers, hquote] at hread
      simp only [hname, bind, Except.bind] at hread
      cases hmember : readMember member.name found colon with
      | error fault => rw [hmember] at hread; cases hread
      | ok pair =>
        obtain ⟨next, after⟩ := pair
        have hnew := (readMember_ok (hvalues member List.mem_cons_self) hgap
          (noNumber_gap hblanks (by decide) tail) hcolon hmember).2
        intro name hmem
        exact (hnew name hmem).trans (Bool.toNat_le _)
  | @more member members text others hwrites _ ih =>
    cases fuel with
    | zero => cases hread
    | succ fuel =>
      obtain ⟨body, colon, gap, blanks, hquote, hname, hgap, hblanks, hcolon⟩ :=
        writes_read hwrites (',' :: (others ++ '\x7d' :: tail))
      rw [List.append_assoc, List.cons_append, readMembers, hquote] at hread
      simp only [hname, bind, Except.bind] at hread
      cases hmember : readMember member.name found colon with
      | error fault => rw [hmember] at hread; cases hread
      | ok pair =>
        obtain ⟨next, after⟩ := pair
        obtain ⟨hafter, hnew⟩ := readMember_ok (hvalues member List.mem_cons_self) hgap
          (noNumber_gap hblanks (by decide) _) hcolon hmember
        rw [hmember, hafter] at hread
        simp only [@skipBlanks_gap _ ',' hblanks (by decide)] at hread
        intro name hmem
        have hothers := ih (fun other hother => hvalues other (List.mem_cons_of_mem _ hother)) hread
          name hmem
        have hfirst := hnew name hmem
        rw [List.map_cons, ← List.singleton_append, List.count_append]
        omega

/-! ## Whole texts -/

theorem count_skipBlanks (text : List Char) : (skipBlanks text).count '"' = text.count '"' := by
  fun_induction skipBlanks text with
  | case5 => rfl
  | _ => simp_all

theorem writes_count {member : Member} (h : member.Writes text) : 1 ≤ text.count '"' := by
  obtain ⟨-, ⟨-⟩, -, -, -⟩ := h
  simp only [List.count_append, List.count_cons_self]
  omega

/-- Each member has a quote at least. -/
theorem length_le_count {members : List Member} (h : WritesMembers members text) :
    members.length ≤ text.count '"' := by
  induction h with
  | one hwrites => exact writes_count hwrites
  | more hwrites _ ih =>
    have hfirst := writes_count hwrites
    simp only [List.length_cons, List.count_append, List.count_cons]
    omega

theorem readMembers_skipBlanks (found : Partial) (fuel : Nat) (text : List Char) :
    readMembers found fuel (skipBlanks text) = readMembers found fuel text := by
  cases fuel with
  | zero => rw [readMembers, readMembers]
  | succ fuel => rw [readMembers, readMembers, skipBlanks_skipBlanks]

/-- The members of an object are read with fuel for all of them. -/
theorem readPartial_members {members : List Member} (hgap : Blank gap)
    (h : WritesMembers members text) (tail : List Char) :
    ∃ fuel, members.length ≤ fuel ∧
      readPartial (gap ++ '\x7b' :: (text ++ tail)) = readMembers {} fuel (text ++ tail) := by
  have hquote : ∃ body, skipBlanks (text ++ tail) = '"' :: body := by
    cases h with
    | one hwrites =>
      obtain ⟨body, _, _, _, hquote, -⟩ := writes_read hwrites tail
      exact ⟨body, hquote⟩
    | @more member members first others hwrites =>
      obtain ⟨body, _, _, _, hquote, -⟩ := writes_read hwrites (',' :: (others ++ tail))
      exact ⟨body, by simpa using hquote⟩
  obtain ⟨body, hquote⟩ := hquote
  refine ⟨(skipBlanks (text ++ tail)).length, ?_, ?_⟩
  · have hcount := length_le_count h
    have hlength := List.count_le_length (a := '"') (l := skipBlanks (text ++ tail))
    rw [count_skipBlanks, List.count_append] at hlength
    omega
  · rw [readPartial, skipBlanks_gap hgap (by decide)]
    have hread := readMembers_skipBlanks {} (skipBlanks (text ++ tail)).length (text ++ tail)
    simp only
    rw [hquote] at hread ⊢
    exact hread

theorem whole_of_ok {read : List Char → Except Fault (α × List Char)} {text : String}
    (h : read text.toList = .ok (value, gap)) (hgap : Blank gap) : whole read text = .ok value := by
  have hend : skipBlanks gap = [] := by
    have happend := skipBlanks_append hgap []
    rwa [List.append_nil] at happend
  simp only [whole, h, bind, Except.bind, hend]
  rfl

/-- What an object with the members of a configuration sets. -/
theorem readPartial_of_writes {members : List Member} (h : WritesObject members text)
    (hsets : ∀ member ∈ members, config.Sets member)
    (honce : ∀ name ∈ fieldNames, (members.map Member.name).count name ≤ 1) :
    ∃ rest, Blank rest ∧
      readPartial text = .ok (config.partially (members.map Member.name), rest) := by
  cases h with
  | @empty before gap after hbefore hgap hafter =>
    refine ⟨after, hafter, ?_⟩
    rw [readPartial, skipBlanks_gap hbefore (by decide)]
    simp only [@skipBlanks_gap _ '\x7d' hgap (by decide)]
    rfl
  | @members _ before text after hbefore hmembers hafter =>
    obtain ⟨fuel, hfuel, hread⟩ := readPartial_members hbefore hmembers ('\x7d' :: after)
    refine ⟨after, hafter, ?_⟩
    have hsettings : readMembers (config.partially []) fuel (text ++ '\x7d' :: after) =
        .ok (config.partially (members.map Member.name ++ []), after) :=
      readMembers_sets hmembers hsets (by simpa only [List.append_nil] using honce) hfuel after
    rw [List.append_nil] at hsettings
    exact hread.trans hsettings

/-- The configuration of an object with the members that set it. -/
theorem ofJson_of_writes {members : List Member} {text : String}
    (h : WritesObject members text.toList) (hsets : ∀ member ∈ members, config.Sets member)
    (honce : ∀ name ∈ fieldNames, (members.map Member.name).count name ≤ 1) :
    ofJson text = .ok (config.overriding (members.map Member.name)) := by
  obtain ⟨rest, hrest, hread⟩ := readPartial_of_writes h hsets honce
  rw [ofJson, parse, whole_of_ok hread hrest, ← complete_partially]
  rfl

theorem invalid_of_repeated {members : List Member} {text : String}
    (h : WritesObject members text.toList) (hvalues : ∀ member ∈ members, Derives .value member.value)
    (hname : name ∈ fieldNames) (htwice : 2 ≤ (members.map Member.name).count name) :
    ∃ cause, ofJson text = .error (.invalid cause) := by
  cases hparse : parse text with
  | error fault => exact ⟨_, by rw [ofJson, hparse]; rfl⟩
  | ok config =>
    obtain ⟨found, hwhole, -⟩ := map_eq_ok_iff.mp hparse
    obtain ⟨⟨found, rest⟩, hpartial, -⟩ := bind_eq_ok_iff.mp hwhole
    generalize text.toList = chars at h hpartial
    cases h with
    | empty => exact absurd htwice (by simp)
    | @members _ before text after hbefore hmembers hafter =>
      obtain ⟨fuel, -, hread⟩ := readPartial_members hbefore hmembers ('\x7d' :: after)
      have hcount := readMembers_ok hmembers hvalues (hread.symm.trans hpartial) name hname
      omega

/-! ## The text of a configuration -/

/-- The members of the text of a configuration. -/
def members (config : Config) : List Member :=
  [⟨"codec", '"' :: (config.codec.key.toList ++ ['"'])⟩,
    ⟨"zstd_level", (toString config.level.toInt).toList⟩,
    ⟨"shuffle_remainder", '"' :: (config.remainder.key.toList ++ ['"'])⟩,
    ⟨"allow_overlapping_copy", (boolWord config.overlap).toList⟩]

/-- The check of each character in turn: nothing decides a statement about all characters there are. -/
theorem plain_of_all {name : List Char} (h : name.all (fun c => decide (Plain c)) = true) :
    ∀ c ∈ name, Plain c := by
  simpa using h

theorem sets_members (config : Config) : ∀ member ∈ config.members, config.Sets member := by
  have hcodec : ∀ c ∈ config.codec.key.toList, Plain c := by
    cases config.codec <;> exact plain_of_all rfl
  have hremainder : ∀ c ∈ config.remainder.key.toList, Plain c := by
    cases config.remainder <;> exact plain_of_all rfl
  intro member hmem
  simp only [members, List.mem_cons, List.not_mem_nil, or_false] at hmem
  rcases hmem with rfl | rfl | rfl | rfl
  · exact .codec ⟨spells_plain hcodec⟩
  · exact .level
  · exact .remainder ⟨spells_plain hremainder⟩
  · exact .overlap

/-- A member without blanks, of a name that is written as it is. -/
theorem writes_plain (h : ∀ c ∈ name.toList, Plain c) (value : List Char) :
    (⟨name, value⟩ : Member).Writes ('"' :: (name.toList ++ '"' :: ':' :: value)) := by
  have hblank : Blank [] := fun c hc => absurd hc List.not_mem_nil
  have hkey : InQuotes name ('"' :: (name.toList ++ ['"'])) := ⟨spells_plain h⟩
  have hwrites := @Member.Writes.parts ⟨name, value⟩ [] _ [] [] [] hblank hkey hblank hblank hblank
  simpa using hwrites

theorem writesObject_toJson (config : Config) : WritesObject config.members config.toJson.toList := by
  have hblank : Blank [] := fun c hc => absurd hc List.not_mem_nil
  have hmembers : WritesMembers config.members _ :=
    .more (@writes_plain "codec" (plain_of_all rfl) _)
      (.more (@writes_plain "zstd_level" (plain_of_all rfl) _)
        (.more (@writes_plain "shuffle_remainder" (plain_of_all rfl) _)
          (.one (@writes_plain "allow_overlapping_copy" (plain_of_all rfl) _))))
  have hobject := WritesObject.members hblank hmembers hblank
  have hcodec : "\x7b\"codec\":\"".toList =
      '\x7b' :: '"' :: ("codec".toList ++ ['"', ':', '"']) := by
    rfl
  have hlevel : "\",\"zstd_level\":".toList =
      '"' :: ',' :: '"' :: ("zstd_level".toList ++ ['"', ':']) := by
    rfl
  have hremainder : ",\"shuffle_remainder\":\"".toList =
      ',' :: '"' :: ("shuffle_remainder".toList ++ ['"', ':', '"']) := by
    rfl
  have hoverlap : "\",\"allow_overlapping_copy\":".toList =
      '"' :: ',' :: '"' :: ("allow_overlapping_copy".toList ++ ['"', ':']) := by
    rfl
  have hclose : "\x7d".toList = ['\x7d'] := by rfl
  delta toJson
  simp only [String.toList_append, hcodec, hlevel, hremainder, hoverlap, hclose]
  simpa only [List.append_assoc, List.cons_append, List.nil_append] using hobject

theorem overriding_members (config : Config) :
    config.overriding (config.members.map Member.name) = config := by
  simp [overriding, members]

/-- **A text overrides the defaults.** An object that gives some settings, in any order, the values they
have in a configuration is read as that configuration for these settings and the default for the others.
Its other members, of any names and any well-formed values, change nothing, nor do blanks and escapes.
A configuration is read back from its own text. An object in which one of the settings is named twice is
an invalid input, whatever values its members have. -/
theorem text_overrides_defaults (config : Config) :
    (∀ members text, WritesObject members text.toList → (∀ member ∈ members, config.Sets member) →
      (∀ name ∈ fieldNames, (members.map Member.name).count name ≤ 1) →
        ofJson text = .ok (config.overriding (members.map Member.name))) ∧
    ofJson config.toJson = .ok config ∧
    ∀ members text, WritesObject members text.toList →
      (∀ member ∈ members, Derives .value member.value) →
      (∃ name ∈ fieldNames, 2 ≤ (members.map Member.name).count name) →
        ∃ cause, ofJson text = .error (.invalid cause) := by
  refine ⟨fun members text => ofJson_of_writes, ?_, ?_⟩
  · have honce : ∀ name ∈ fieldNames, (config.members.map Member.name).count name ≤ 1 := by
      change ∀ name ∈ fieldNames, fieldNames.count name ≤ 1
      decide
    have hown := ofJson_of_writes config.writesObject_toJson config.sets_members honce
    rwa [overriding_members] at hown
  · intro members text hwrites hvalues htwice
    obtain ⟨name, hname, htwice⟩ := htwice
    exact invalid_of_repeated hwrites hvalues hname htwice

/-- The lowest level and a member of another name, and one setting twice with values of no use. -/
theorem text_overrides_defaults_written :
    ofJson "\x7b\"note\":[null],\"zstd_level\":-2147483648\x7d" = .ok { level := Int32.minValue } ∧
      ∃ cause, ofJson "\x7b\"codec\":true,\"codec\":null\x7d" = .error (.invalid cause) := by
  have hblank : Blank [] := fun c hc => absurd hc List.not_mem_nil
  have hnull : Derives .value "null".toList := .word (by decide)
  have hnote : Derives .value "[null]".toList := .array (.oneItem (.item hblank hnull hblank))
  obtain ⟨hoverrides, -, htwice⟩ := text_overrides_defaults { level := Int32.minValue }
  constructor
  · refine hoverrides [⟨"note", "[null]".toList⟩, ⟨"zstd_level", "-2147483648".toList⟩] _ ?_ ?_ ?_
    · exact .members hblank
        (.more (writes_plain (plain_of_all rfl) _) (.one (writes_plain (plain_of_all rfl) _))) hblank
    · intro member hmem
      simp only [List.mem_cons, List.not_mem_nil, or_false] at hmem
      rcases hmem with rfl | rfl
      · exact .other (by decide) hnote
      · exact .level
    · decide
  · refine htwice [⟨"codec", "true".toList⟩, ⟨"codec", "null".toList⟩] _ ?_ ?_ ?_
    · exact .members hblank
        (.more (writes_plain (plain_of_all rfl) _) (.one (writes_plain (plain_of_all rfl) _))) hblank
    · intro member hmem
      simp only [List.mem_cons, List.not_mem_nil, or_false] at hmem
      rcases hmem with rfl | rfl
      · exact .word (by decide)
      · exact hnull
    · exact ⟨"codec", by decide, by decide⟩

end BufferBridge.Config

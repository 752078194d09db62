import BufferBridge.Elements
import BufferBridge.Proofs.BitShuffle.Inverse
import BufferBridge.Proofs.Text.Utf8
import BufferBridge.Proofs.Windows

/-!
# Values and texts are their bytes

An operation on values of a width, or on a text, is the one on their bytes: it gives the same bytes, and
what it gives back are the values of those bytes. Values of no bytes are not shuffled, and nothing is
decompressed to them.
-/
namespace BufferBridge

namespace Elements

variable {width count : Nat} {values other : Elements width}

/-! ## Values and their number -/

theorem count_eq (hwidth : 0 < width) (values : Elements width) :
    values.count = values.bytes.length / width := by
  rw [values.length_bytes, Nat.mul_div_cancel _ hwidth]

/-- Values are no more than their bytes. -/
theorem ext_bytes (hwidth : 0 < width) (h : values.bytes = other.bytes) : values = other := by
  have hcount : values.count = other.count := by rw [count_eq hwidth, count_eq hwidth, h]
  cases values
  cases other
  cases h
  cases hcount
  rfl

theorem countOf_eq_ok_iff {length : Nat} :
    countOf width length = .ok count ↔ 0 < width ∧ length = count * width := by
  rw [countOf]
  split
  · rename_i hpart
    simp only [reduceCtorEq, false_iff, not_and]
    rintro hwidth rfl
    rw [Nat.mul_mod_left] at hpart
    omega
  · rename_i hwhole
    rw [not_or, Decidable.not_not] at hwhole
    obtain ⟨hwidth, hwhole⟩ := hwhole
    simp only [Except.ok.injEq, Nat.pos_of_ne_zero hwidth, true_and]
    constructor
    · rintro rfl
      exact (Nat.div_mul_cancel (Nat.dvd_of_mod_eq_zero hwhole)).symm
    · rintro rfl
      exact Nat.mul_div_cancel _ (Nat.pos_of_ne_zero hwidth)

theorem ofBytes_bytes (hwidth : 0 < width) (values : Elements width) :
    ofBytes width values.count values.bytes = values :=
  ext_bytes hwidth (Bytes.fit_of_length values.length_bytes)

/-! ## Shuffling -/

/-- The bytes that values are shuffled to. -/
def shuffled (values : Elements width) : Bytes :=
  BitShuffle.transform .shuffle width values.count values.bytes

theorem length_shuffled (values : Elements width) : values.shuffled.length = values.bytes.length := by
  rw [values.length_bytes]
  exact BitShuffle.length_transform .shuffle (Nat.le_of_eq values.length_bytes.symm)

/-- An output of the right length is overwritten as a whole, whatever it held. -/
theorem apply_whole {direction : BitShuffle.Direction} {input output : Bytes} (hwidth : 0 < width)
    (hmax : input.length ≤ maxSize) (hinput : input.length = count * width)
    (houtput : output.length = input.length) :
    BitShuffle.apply direction input output count width =
      .ok (input.length, BitShuffle.transform direction width count input) := by
  rw [hinput] at hmax houtput
  rw [BitShuffle.apply_eq_ok direction hwidth hmax (Nat.le_of_eq hinput.symm)
    (Nat.le_of_eq houtput.symm), List.drop_of_length_le (Nat.le_of_eq houtput), List.append_nil, hinput]

theorem regroup_whole {direction : BitShuffle.Direction} {input : Bytes} (hwidth : 0 < width)
    (hmax : input.length ≤ maxSize) (hinput : input.length = count * width) :
    regroup direction input count width = .ok (BitShuffle.transform direction width count input) := by
  rw [regroup, apply_whole hwidth hmax hinput (List.length_replicate ..)]

theorem regroupBytes_eq {type : ElementType} (htype : type.width = width)
    (hmax : values.bytes.length ≤ maxSize) :
    regroupBytes .shuffle values.bytes type = .ok values.shuffled := by
  subst htype
  have hwhole : ¬ values.bytes.length % type.width ≠ 0 := by
    rw [values.length_bytes, Nat.mul_mod_left, Decidable.not_not]
  rw [regroupBytes, if_neg hwhole, ← count_eq type.width_pos]
  exact regroup_whole type.width_pos hmax values.length_bytes

theorem unshuffle_shuffled (hwidth : 0 < width) (hmax : values.bytes.length ≤ maxSize) :
    unshuffle width values.shuffled = .ok values := by
  have hlength : values.shuffled.length = values.count * width := by
    rw [length_shuffled, values.length_bytes]
  have hback : BitShuffle.transform .unshuffle width values.count values.shuffled = values.bytes :=
    BitShuffle.transform_back .shuffle values.length_bytes
  have hregroup : regroup .unshuffle values.shuffled values.count width = .ok values.bytes := by
    rw [← hback]
    exact regroup_whole hwidth (by rwa [length_shuffled]) hlength
  rw [unshuffle, bind_eq_ok_iff]
  refine ⟨values.count, countOf_eq_ok_iff.mpr ⟨hwidth, hlength⟩, ?_⟩
  rw [hregroup]
  exact congrArg Except.ok (ofBytes_bytes hwidth values)

/-! ## Decompressing -/

/-- A block decompresses to values just where it decompresses to their bytes. -/
theorem uncompress_eq_ok_iff {block : Bytes} {reader : Snappy.Reader} (hwidth : 0 < width) :
    uncompress width block reader = .ok values ↔ Owned.uncompress block reader = .ok values.bytes := by
  rw [uncompress, Owned.uncompress, Owned.uncompressWith, bind_eq_ok_iff, bind_eq_ok_iff]
  apply exists_congr
  intro length
  apply and_congr_right
  intro hlength
  rw [bind_eq_ok_iff]
  constructor
  · rintro ⟨count, hcount, h⟩
    obtain ⟨-, rfl⟩ := countOf_eq_ok_iff.mp hcount
    obtain ⟨_, hresult, hvalues⟩ := bind_eq_ok_iff.mp h
    cases hvalues
    exact bind_eq_ok_iff.mpr ⟨_, hresult, rfl⟩
  · intro h
    obtain ⟨_, hresult, hbytes⟩ := bind_eq_ok_iff.mp h
    injection hbytes with hbytes
    have hwhole : length = values.count * width := by
      rw [← values.length_bytes, ← hbytes, Bytes.length_fit]
    subst hwhole
    refine ⟨values.count, countOf_eq_ok_iff.mpr ⟨hwidth, rfl⟩, bind_eq_ok_iff.mpr ⟨_, hresult, ?_⟩⟩
    exact congrArg Except.ok (ext_bytes hwidth hbytes)

/-- Values of no bytes cannot be counted. -/
theorem exists_uncompress_zero (block : Bytes) (reader : Snappy.Reader) :
    ∃ failure, uncompress 0 block reader = .error failure := by
  cases hlength : Owned.declaredLength (.snappy reader) block with
  | error failure =>
    refine ⟨failure, ?_⟩
    rw [uncompress, hlength]
    rfl
  | ok length =>
    refine ⟨.invalid (.notWholeElements length 0), ?_⟩
    rw [uncompress, hlength]
    rfl

end Elements

theorem Owned.uncompressText_eq_ok_iff {block : Bytes} {reader : Snappy.Reader} {text : String} :
    uncompressText block reader = .ok text ↔ uncompress block reader = .ok (Utf8.encode text) := by
  rw [uncompressText, bind_eq_ok_iff]
  simp only [mapError_eq_ok_iff, Utf8.decode_eq_ok_iff, exists_eq_right]

/-! ## All of it -/

/-- What is done with values is done with their bytes. -/
structure Elements.AgreesWithBytes {width : Nat} (values : Elements width) : Prop where
  /-- Shuffling the values, shuffling their bytes, and shuffling these as bytes of a named type of that
  width give the same, and unshuffling this gives the values back. -/
  shuffle : ∃ out,
    (∀ output, output.length = values.bytes.length →
      BitShuffle.apply .shuffle values.bytes output values.count width =
        .ok (values.bytes.length, out)) ∧
    values.shuffle = .ok out ∧
    (∀ type : ElementType, type.width = width → regroupBytes .shuffle values.bytes type = .ok out) ∧
    unshuffle width out = .ok values
  compress : values.compress = Owned.compress values.bytes
  uncompress : ∀ block reader,
    uncompress width block reader = .ok values ↔ Owned.uncompress block reader = .ok values.bytes

/-- **Values and texts are handled as their bytes.** This is so for all values that have a width, as long
as a machine word counts their bytes, and for all texts. Values without a width are refused. -/
theorem Elements.agreesWithBytes :
    (∀ (width : Nat) (values : Elements width), 0 < width → values.bytes.length ≤ maxSize →
      values.AgreesWithBytes) ∧
    (∀ block reader text, Owned.uncompressText block reader = .ok text ↔
      Owned.uncompress block reader = .ok (Utf8.encode text)) ∧
    (∀ (values : Elements 0) (bytes : Bytes),
      (∃ failure, values.shuffle = .error failure) ∧
      (∃ failure, unshuffle 0 bytes = .error failure) ∧
      ∀ reader, ∃ failure, uncompress 0 bytes reader = .error failure) := by
  refine ⟨fun width values hwidth hmax => ⟨⟨values.shuffled, fun output houtput => ?_, ?_, ?_, ?_⟩,
    rfl, fun block reader => uncompress_eq_ok_iff hwidth⟩,
    fun block reader text => Owned.uncompressText_eq_ok_iff,
    fun values bytes => ⟨⟨_, rfl⟩, ⟨_, rfl⟩, exists_uncompress_zero bytes⟩⟩
  · exact apply_whole hwidth hmax values.length_bytes houtput
  · exact regroup_whole hwidth hmax values.length_bytes
  · exact fun type htype => regroupBytes_eq htype hmax
  · exact unshuffle_shuffled hwidth hmax

/-- Nine values of three bytes. -/
theorem Elements.agreesWithBytes_odd :
    (⟨9, (List.range 27).map UInt8.ofNat, by decide⟩ : Elements 3).AgreesWithBytes :=
  Elements.agreesWithBytes.1 3 _ (by decide) (by decide)

end BufferBridge

import BufferBridge.Proofs.BitShuffle.Inverse
import BufferBridge.Proofs.Decompression

/-!
# Shuffling through the host's buffers

A call that shuffles whole elements leaves the regrouped bytes of its input window in its output window
and changes nothing else. Sent on from there the other way, the bytes arrive in a third buffer as they
were in the first.
-/
namespace BufferBridge

open BitShuffle (transform)

/-! ## One call -/

namespace Dispatch

variable {direction : BitShuffle.Direction} {input output : Buffer} {request : ShuffleRequest}
variable {policy : RemainderPolicy} {host : Host} {count total : Nat}

theorem shuffle_of_takes (hlends : host.Lends input output)
    (hinput : host.memory.Shows input.region) (houtput : host.memory.Shows output.region)
    (hcount : request.elementSize.count request.length policy = .ok count)
    (htotal : count * request.elementSize.bytes = total)
    (hwithin : request.inputOffset + total ≤ input.region.length)
    (htakes : output.Takes ⟨request.outputOffset, total⟩ (input.region.part request.inputOffset total)) :
    (shuffle direction input output request policy host).1 = .ok total ∧
      (shuffle direction input output request policy host).2.memory =
        host.memory.write (output.region.part request.outputOffset total)
          (transform direction request.elementSize.bytes count
            (host.memory.read (input.region.part request.inputOffset total))) := by
  subst htotal
  obtain ⟨src, dst, middle, hresolve, hsrc, hdst⟩ := hlends.guards
  have hsplit := (@splitWindows_eq_ok_iff_takes input output src dst
    ⟨request.inputOffset, count * request.elementSize.bytes⟩ _ _ _ _ _
    hsrc hdst hinput.length_le houtput.length_le).mpr ⟨⟨hwithin, htakes⟩, rfl, rfl⟩
  have hbytes := hinput.length_read hwithin
  have hbefore := houtput.length_read htakes.within
  have hsize := hinput.length_le
  -- the output window is just as long as what is regrouped, so that all of it is written
  have happly := BitShuffle.apply_eq_ok direction request.elementSize.bytes_pos
    (Nat.le_trans (Nat.le_of_add_left_le hwithin) hsize) (Nat.le_of_eq hbytes.symm)
    (Nat.le_of_eq hbefore.symm)
  rw [List.drop_of_length_le (Nat.le_of_eq hbefore), List.append_nil] at happly
  rw [shuffle, hcount]
  refine withPair_of_resolvePair (fun result after => result = .ok _ ∧
    after = host.memory.write _ (transform direction request.elementSize.bytes count _)) hresolve ?_
  intro _ _
  refine .bind_ok hsplit (.bind_read (.bind_read (.bind_note ?_)))
  rw [happly]
  refine .bind_write ?_
  split
  · exact .bind_note (.pure ⟨rfl, rfl⟩)
  · exact .pure ⟨rfl, rfl⟩

end Dispatch

theorem Op.bind_of_ok {α β : Type} {op : Op α} {next : α → Op β} {value : α} {host after : Host}
    (h : op host = (.ok value, after)) : (op >>= next) host = next value after := by
  simp only [Bind.bind, h]

namespace Call

variable {bridge : Bridge} {direction : BitShuffle.Direction} {width : Int32} {args : Transfer}
variable {size : ElementSize} {window : Window} {offset count total : Nat} {host : Host}

/-- The call is the operation on buffers, with its integers read. -/
theorem shuffle_op (hwidth : width.toInt = size.bytes) (hasks : args.Asks window offset) :
    (Call.shuffle direction width args).op bridge = Reply.number <$>
      (Dispatch.shuffle direction args.input args.output
          ⟨window.offset, size, window.length, offset⟩ bridge.config.remainder >>=
        fun processed => (liftM (toHostInt processed) : Op Int32)) := by
  rw [op, Bridge.shuffleOp, nonNegative_eq_ok_iff.mpr hasks.inputOffset,
    ElementSize.ofHost_of_toInt hwidth, nonNegative_eq_ok_iff.mpr hasks.length,
    nonNegative_eq_ok_iff.mpr hasks.outputOffset]
  rfl

theorem shuffle_returns (hwidth : width.toInt = size.bytes) (hasks : args.Asks window offset)
    (hcount : size.count window.length bridge.config.remainder = .ok count)
    (htotal : count * size.bytes = total) (hlends : host.Lends args.input args.output)
    (hinput : host.memory.Backs args.input.region) (houtput : host.memory.Backs args.output.region)
    (hwithin : window.offset + total ≤ args.input.region.length)
    (htakes : args.output.Takes ⟨offset, total⟩ (args.input.region.part window.offset total)) :
    ∃ (value : Int32) (after : Host), value.toInt = total ∧
      (Call.shuffle direction width args).Returns bridge host (.number value) after ∧
      after.memory = host.memory.write (args.output.region.part offset total)
        (transform direction size.bytes count
          (host.memory.read (args.input.region.part window.offset total))) := by
  obtain ⟨hresult, hmemory⟩ := @Dispatch.shuffle_of_takes direction args.input args.output
    ⟨window.offset, size, window.length, offset⟩ bridge.config.remainder host count total
    hlends hinput.shows houtput.shows hcount htotal hwithin htakes
  -- no more is shuffled than was asked for, so a host integer holds the number
  have hle : total ≤ window.length := by
    rw [← htotal, ElementSize.eq_div_of_count_eq_ok hcount]
    exact Nat.div_mul_le_self ..
  have hasked : args.length.toInt < 2 ^ 31 := args.length.toInt_lt
  have hlength := hasks.length
  have hvalue : toHostInt total = .ok (Int32.ofNat total) := by
    rw [toHostInt, if_pos]
    simp only [maxHostInt]
    omega
  refine ⟨_, _, toHostInt_eq_ok_iff.mp hvalue, returns_of_op ?_, hmemory⟩
  rw [shuffle_op hwidth hasks]
  apply Op.bind_of_ok
  rw [Op.bind_of_ok (Prod.ext hresult rfl), hvalue]
  rfl

theorem shuffle_raises (hwidth : width.toInt = size.bytes) (hasks : args.Asks window offset)
    (hpolicy : bridge.config.remainder = .reject)
    (hpartial : window.length / size.bytes * size.bytes ≠ window.length) :
    ∃ after, (Call.shuffle direction width args).Raises bridge host .parsing after ∧
      after.memory = host.memory := by
  have hcount := ElementSize.count_of_partial hpolicy hpartial
  have hop : (Call.shuffle direction width args).op bridge host =
      (.error (.invalid (.partialElement window.length size.bytes)), host) := by
    rw [shuffle_op hwidth hasks, Dispatch.shuffle, hcount]
    rfl
  exact raises_of_op hop

end Call

/-! ## There and back -/

/-- Three buffers with an offset into each. Bytes are to go from the first into the second and from there
into the third, as elements of some width. -/
structure Relay where
  first : Buffer
  firstOffset : Int32
  second : Buffer
  secondOffset : Int32
  third : Buffer
  thirdOffset : Int32
  width : Int32
  length : Int32

namespace Relay

variable (relay : Relay)

def there : Transfer where
  input := relay.first
  inputOffset := relay.firstOffset
  length := relay.length
  output := relay.second
  outputOffset := relay.secondOffset

def back : Transfer where
  input := relay.second
  inputOffset := relay.secondOffset
  length := relay.length
  output := relay.third
  outputOffset := relay.thirdOffset

/-- The number of bytes that are in whole elements. -/
def whole : Nat :=
  relay.length.toInt.toNat / relay.width.toInt.toNat * relay.width.toInt.toNat

def firstPart : Region := relay.first.region.part relay.firstOffset.toInt.toNat relay.whole

def secondPart : Region := relay.second.region.part relay.secondOffset.toInt.toNat relay.whole

def thirdPart : Region := relay.third.region.part relay.thirdOffset.toInt.toNat relay.whole

/-- No integer is below what it may be. -/
structure Sound : Prop where
  width : 1 ≤ relay.width.toInt
  length : 0 ≤ relay.length.toInt
  firstOffset : 0 ≤ relay.firstOffset.toInt
  secondOffset : 0 ≤ relay.secondOffset.toInt
  thirdOffset : 0 ≤ relay.thirdOffset.toInt

/-- The memory has the bytes of the three buffers, the windows lie inside them, the second and the third
can be written, and each of the two has no address in common with the one before. -/
structure Fits (memory : Memory) : Prop where
  first_backed : memory.Backs relay.first.region
  second_backed : memory.Backs relay.second.region
  third_backed : memory.Backs relay.third.region
  first_within : relay.firstOffset.toInt.toNat + relay.whole ≤ relay.first.region.length
  second_takes : relay.second.Takes ⟨relay.secondOffset.toInt.toNat, relay.whole⟩ relay.firstPart
  third_takes : relay.third.Takes ⟨relay.thirdOffset.toInt.toNat, relay.whole⟩ relay.secondPart

variable {relay}

theorem Sound.asks_there (h : relay.Sound) :
    relay.there.Asks ⟨relay.firstOffset.toInt.toNat, relay.length.toInt.toNat⟩
      relay.secondOffset.toInt.toNat :=
  ⟨(Int.toNat_of_nonneg h.firstOffset).symm, (Int.toNat_of_nonneg h.length).symm,
    (Int.toNat_of_nonneg h.secondOffset).symm⟩

theorem Sound.asks_back (h : relay.Sound) :
    relay.back.Asks ⟨relay.secondOffset.toInt.toNat, relay.length.toInt.toNat⟩
      relay.thirdOffset.toInt.toNat :=
  ⟨(Int.toNat_of_nonneg h.secondOffset).symm, (Int.toNat_of_nonneg h.length).symm,
    (Int.toNat_of_nonneg h.thirdOffset).symm⟩

/-- What arrives in the third window, by way of the second, is what the first one holds. -/
theorem Fits.read_thirdPart {memory : Memory} {width count : Nat} (direction : BitShuffle.Direction)
    (h : relay.Fits memory) (hwhole : relay.whole = count * width) {middle after : Memory}
    (hmiddle : middle = memory.write relay.secondPart
      (transform direction width count (memory.read relay.firstPart)))
    (hafter : after = middle.write relay.thirdPart
      (transform direction.reverse width count (middle.read relay.secondPart))) :
    after.read relay.thirdPart = memory.read relay.firstPart := by
  have hfirst : (memory.read relay.firstPart).length = count * width :=
    (h.first_backed.length_read h.first_within).trans hwhole
  have hlength := BitShuffle.length_transform direction (Nat.le_of_eq hfirst.symm)
  have hsecond : middle.read relay.secondPart =
      transform direction width count (memory.read relay.firstPart) := by
    rw [hmiddle]
    exact h.second_backed.read_write_part h.second_takes.within (hlength.trans hwhole.symm)
  have hthird : middle.Backs relay.third.region := by
    rw [hmiddle]
    exact h.third_backed.write _
  rw [hsecond, BitShuffle.transform_back direction hfirst] at hafter
  rw [hafter]
  exact hthird.read_write_part h.third_takes.within (hfirst.trans hwhole.symm)

/-- **Bytes that are shuffled into a second buffer and back into a third arrive as they were.** Where the
policy refuses a partial element and there is one, either call raises that its arguments are wrong and
changes nothing. Otherwise each of them returns the number of bytes in whole elements, the third window
holds what the first one held, and no byte outside the second and the third window has changed. -/
theorem shuffle_there_and_back (h : relay.Sound) (bridge : Bridge)
    (direction : BitShuffle.Direction) :
    (bridge.config.remainder = .reject → relay.whole ≠ relay.length.toInt →
      ∀ way args host, args = relay.there ∨ args = relay.back →
        ∃ after, (Call.shuffle way relay.width args).Raises bridge host .parsing after ∧
          after.memory = host.memory) ∧
    (bridge.config.remainder = .truncate ∨ relay.whole = relay.length.toInt →
      ∀ host, relay.Fits host.memory → host.Lends relay.first relay.second →
        ∃ (number : Int32) (middle : Host), number.toInt = relay.whole ∧
          (Call.shuffle direction relay.width relay.there).Returns bridge host (.number number) middle ∧
          (middle.Lends relay.second relay.third → ∃ after,
            (Call.shuffle direction.reverse relay.width relay.back).Returns bridge middle
              (.number number) after ∧
            after.memory.read relay.thirdPart = host.memory.read relay.firstPart ∧
            Memory.SameBut (fun block position => relay.secondPart.Covers block position ∨
              relay.thirdPart.Covers block position) host.memory after.memory)) := by
  obtain ⟨size, hwidth⟩ : ∃ size : ElementSize, relay.width.toInt = size.bytes :=
    ⟨⟨relay.width.toInt.toNat, by have := h.width; omega⟩, by have := h.width; simp only; omega⟩
  have hwhole : relay.whole = relay.length.toInt.toNat / size.bytes * size.bytes := by
    rw [whole, hwidth, Int.toNat_natCast]
  have hlength : (relay.length.toInt.toNat : Int) = relay.length.toInt := Int.toNat_of_nonneg h.length
  refine ⟨?_, ?_⟩
  · intro hpolicy hpartial way args host hargs
    have hpartial' : relay.length.toInt.toNat / size.bytes * size.bytes ≠ relay.length.toInt.toNat := by
      omega
    rcases hargs with rfl | rfl
    · exact Call.shuffle_raises hwidth h.asks_there hpolicy hpartial'
    · exact Call.shuffle_raises hwidth h.asks_back hpolicy hpartial'
  · intro hserved host hfits hlends
    have hcount : size.count relay.length.toInt.toNat bridge.config.remainder =
        .ok (relay.length.toInt.toNat / size.bytes) :=
      ElementSize.count_of_whole (hserved.imp_right fun _ => by omega)
    obtain ⟨number, middle, hnumber, hthere, hmiddle⟩ := @Call.shuffle_returns bridge direction
      relay.width relay.there size _ _ _ relay.whole host hwidth h.asks_there hcount hwhole.symm hlends
      hfits.first_backed hfits.second_backed hfits.first_within hfits.second_takes
    refine ⟨number, middle, hnumber, hthere, ?_⟩
    intro hlends'
    obtain ⟨number', after, hnumber', hback, hafter⟩ := @Call.shuffle_returns bridge direction.reverse
      relay.width relay.back size _ _ _ relay.whole middle hwidth h.asks_back hcount hwhole.symm hlends'
      (hmiddle ▸ hfits.second_backed.write _) (hmiddle ▸ hfits.third_backed.write _)
      hfits.second_takes.within hfits.third_takes
    obtain rfl : number' = number := Int32.toInt_inj.mp (hnumber'.trans hnumber.symm)
    refine ⟨after, hback, ?_, ?_⟩
    · exact hfits.read_thirdPart direction hwhole hmiddle hafter
    · rw [hafter, hmiddle]
      exact (Memory.SameBut.write _ fun _ _ => .inl).trans (Memory.SameBut.write _ fun _ _ => .inr)

/-- Twenty-six bytes of three-byte elements go from the heap to a direct buffer behind it in the same
block and on to the heap, each time at an odd place. -/
def truncated : Relay where
  first := { id := 0, storage := .heap, region := ⟨0, 0, 30⟩ }
  firstOffset := 1
  second := { id := 1, storage := .direct, region := ⟨0, 30, 30⟩ }
  secondOffset := 3
  third := { id := 2, storage := .heap, region := ⟨1, 0, 40⟩ }
  thirdOffset := 5
  width := 3
  length := 26

def truncatedHost : Host where
  memory := ⟨[(List.range 60).map UInt8.ofNat, List.replicate 40 0xFF]⟩

theorem shuffle_there_and_back_truncated :
    truncated.Sound ∧ truncated.Fits truncatedHost.memory ∧
      ∃ (number : Int32) (middle after : Host), number.toInt = 24 ∧
        (Call.shuffle .shuffle 3 truncated.there).Returns { config.remainder := .truncate } truncatedHost
          (.number number) middle ∧
        (Call.shuffle .unshuffle 3 truncated.back).Returns { config.remainder := .truncate } middle
          (.number number) after ∧
        after.memory.read ⟨1, 5, 24⟩ = (List.range 24).map fun i => UInt8.ofNat (i + 1) := by
  have hsound : truncated.Sound := ⟨by decide, by decide, by decide, by decide, by decide⟩
  have hfits : truncated.Fits truncatedHost.memory :=
    ⟨⟨by decide, by decide⟩, ⟨by decide, by decide⟩, ⟨by decide, by decide⟩, by decide,
      ⟨by decide, rfl, Region.overlaps_eq_false_iff.mp rfl⟩,
      ⟨by decide, rfl, Region.overlaps_eq_false_iff.mp rfl⟩⟩
  obtain ⟨number, middle, hnumber, hthere, hgoes⟩ :=
    (shuffle_there_and_back hsound { config.remainder := .truncate } .shuffle).2 (.inl rfl) truncatedHost
      hfits ⟨_, _, _, rfl⟩
  have hmiddle : middle = _ := (congrArg Prod.snd hthere.1).symm
  obtain ⟨after, hback, hread, -⟩ := hgoes (hmiddle ▸ ⟨_, _, _, rfl⟩)
  exact ⟨hsound, hfits, number, middle, after, hnumber, hthere, hback, hread⟩

end Relay

end BufferBridge

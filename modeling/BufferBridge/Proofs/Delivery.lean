import BufferBridge.Proofs.Effects
import BufferBridge.Proofs.Placement

/-!
# What is left of an operation after its checks

Each operation from one buffer to another first checks all that there is to check, and then writes once.
So all that can be said of its result and of the memory after it can be said of two cases: a failure that
leaves the memory as it was, and the one write that follows the checks.
-/
namespace BufferBridge

open Op (Ensures)

namespace Dispatch

variable {codec : BlockCodec} {input output : Buffer} {window : Window} {offset : Nat}
variable {memory : Memory} {post : Except Failure Nat → Memory → Prop}

/-- A codec delivers, and the result is noted and handed on. -/
theorem deliver_note_ensures {α : Type} {region : Region} {outcome : Outcome α} {record : α → Event}
    {f : α → Nat} (h : post (f <$> outcome.result) (memory.write region outcome.written)) :
    (deliver region outcome >>= fun value => Op.note (record value) >>= fun _ =>
      Pure.pure (f value)).Ensures memory post := by
  refine (deliver_ensures region outcome memory).bind ?_ ?_
  · rintro failure _ ⟨hresult, rfl⟩
    rw [← hresult] at h
    exact h
  · rintro value _ ⟨hresult, rfl⟩
    rw [← hresult] at h
    exact .bind_note (.pure h)

/-- What is compressed are the bytes of the source window, into all the room behind the offset. -/
theorem compress_ensures (herror : ∀ failure, post (.error failure) memory)
    (hcodec : ∀ room, codec.bound window.length = .ok room → offset ≤ output.region.length →
      Carvable input output window ⟨offset, output.region.length - offset⟩ →
      post (codec.compress (memory.read (input.region.part window.offset window.length))
          (output.region.length - offset)).result
        (memory.write (output.region.part offset (output.region.length - offset))
          (codec.compress (memory.read (input.region.part window.offset window.length))
            (output.region.length - offset)).written)) :
    (compress codec input window output offset).Ensures memory post := by
  have hbound : (maxCompressedLength codec window.length).Ensures memory fun result after =>
      result = codec.bound window.length ∧ after = memory := .bind_note (.ofExcept ⟨rfl, rfl⟩)
  refine hbound.bind ?_ ?_
  · rintro failure _ ⟨-, rfl⟩
    exact herror failure
  · rintro room _ ⟨hroom, rfl⟩
    refine withPair_ensures herror fun src dst hsrc hdst => ?_
    rw [hdst.capacity_eq]
    split
    · exact .fail (herror _)
    · rename_i hoffset
      refine .bind_ofExcept (fun failure _ => herror failure) ?_
      rintro ⟨source, destination⟩ hsplit
      obtain ⟨hcarvable, rfl, rfl⟩ := (splitWindows_eq_ok_iff_carvable hsrc hdst).mp hsplit
      refine .bind_read (.bind_note (deliver_note_ensures ?_))
      rw [id_map']
      exact hcodec room hroom.symm (Nat.not_lt.mp hoffset) hcarvable

/-- What is decompressed are the bytes of the source window, into just the room that they declare. -/
theorem uncompress_ensures (herror : ∀ failure, post (.error failure) memory)
    (hcodec : ∀ length, codec.uncompressedLength
        (memory.read (input.region.part window.offset window.length)) = .ok length →
      Carvable input output window ⟨offset, length⟩ →
      post ((fun _ => length) <$> (codec.uncompress
          (memory.read (input.region.part window.offset window.length)) length).result)
        (memory.write (output.region.part offset length) (codec.uncompress
          (memory.read (input.region.part window.offset window.length)) length).written)) :
    (uncompress codec input window output offset).Ensures memory post := by
  refine withPair_ensures herror fun src dst hsrc hdst => ?_
  refine .bind_ofExcept (fun failure _ => herror failure) fun source hspan => .bind_read (.bind_note ?_)
  refine .bind_ofExcept (fun failure _ => herror failure) fun length hlength => ?_
  extract_lets target fits decode
  -- whether or not the target fits, this is how it goes on
  have hdecode : ∀ checked, (decode checked).Ensures memory post := by
    intro checked
    simp only [decode]
    split
    · exact .fail (herror _)
    · refine .bind_ofExcept (fun failure _ => herror failure) ?_
      rintro ⟨found, destination⟩ hsplit
      obtain ⟨hfound, -⟩ := splitWindows_eq_ok_iff.mp hsplit
      obtain rfl : source = found := Except.ok.inj (hspan.symm.trans hfound)
      obtain ⟨hcarvable, rfl, rfl⟩ := (splitWindows_eq_ok_iff_carvable hsrc hdst).mp hsplit
      exact .bind_note (deliver_note_ensures (hcodec length (mapError_eq_ok_iff.mp hlength) hcarvable))
  split
  · exact .bind_note (hdecode ())
  · exact hdecode ()

/-- What is copied are the bytes of the source window, as they were before the copy. -/
theorem copy_ensures {source destination : Buffer} {allowOverlap : Bool}
    {post : Except Failure Unit → Memory → Prop} (herror : ∀ failure, post (.error failure) memory)
    (hcopy : Copyable source destination window offset allowOverlap →
      post (.ok ()) (memory.write (destination.region.part offset window.length)
        (memory.read (source.region.part window.offset window.length)))) :
    (copy source window destination offset allowOverlap).Ensures memory post := by
  refine withPair_ensures herror fun src dst hsrc hdst => ?_
  refine .bind_ofExcept (fun failure _ => herror failure) fun _ hwritable => ?_
  refine .bind_ofExcept (fun failure _ => herror failure) fun input hinput => ?_
  refine .bind_ofExcept (fun failure _ => herror failure) fun output houtput => ?_
  replace hwritable := hdst.writable.symm.trans (Guard.checkWritable_eq_ok_iff.mp hwritable)
  obtain ⟨⟨-, hsource⟩, rfl⟩ := Guard.span_eq_ok_iff.mp hinput
  obtain ⟨⟨-, htarget⟩, rfl⟩ := Guard.span_eq_ok_iff.mp houtput
  rw [hsrc.capacity_eq] at hsource
  rw [hdst.capacity_eq] at htarget
  rw [hsrc.region, hdst.region]
  split
  · exact .fail (herror _)
  · rename_i hoverlaps
    refine .bind_read (.write (hcopy ⟨hwritable, hsource, htarget, ?_⟩))
    cases hallow : allowOverlap with
    | true => exact .inl rfl
    | false =>
      rw [hallow, Bool.not_false, Bool.true_and] at hoverlaps
      exact .inr (Region.overlaps_eq_false_iff.mp (eq_false_of_ne_true hoverlaps))

/-- What is regrouped are the whole elements of the source window. -/
theorem shuffle_ensures {direction : BitShuffle.Direction} {request : ShuffleRequest}
    {policy : RemainderPolicy} (herror : ∀ failure, post (.error failure) memory)
    (hregroup : ∀ count total processed regrouped,
      request.elementSize.count request.length policy = .ok count →
      count * request.elementSize.bytes = total →
      Carvable input output ⟨request.inputOffset, total⟩ ⟨request.outputOffset, total⟩ →
      BitShuffle.apply direction (memory.read (input.region.part request.inputOffset total))
        (memory.read (output.region.part request.outputOffset total)) count
        request.elementSize.bytes = .ok (processed, regrouped) →
      post (.ok processed) (memory.write (output.region.part request.outputOffset total) regrouped)) :
    (shuffle direction input output request policy).Ensures memory post := by
  refine .bind_ofExcept (fun failure _ => herror failure) fun count hcount => ?_
  refine withPair_ensures herror fun src dst hsrc hdst => ?_
  refine .bind_ofExcept (fun failure _ => herror failure) ?_
  rintro ⟨source, destination⟩ hsplit
  obtain ⟨hcarvable, rfl, rfl⟩ := (splitWindows_eq_ok_iff_carvable hsrc hdst).mp hsplit
  refine .bind_read (.bind_read (.bind_note ?_))
  split
  · exact .fail (herror _)
  · rename_i processed regrouped happly
    have hpost := hregroup count _ processed regrouped hcount rfl hcarvable happly
    refine .bind_write ?_
    split
    · exact .bind_note (.pure hpost)
    · exact .pure hpost

end Dispatch

end BufferBridge

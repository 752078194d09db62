import BufferBridge.Proofs.Bytes
import BufferBridge.Proofs.Windows
import BufferBridge.Zstandard.Frame

/-!
# Decoding under another limit

The room for the output decides whether a block can be carried out, but not what it adds. What succeeds
within one limit gives the same within every other that the result keeps to. The one thing to look at is
where the decoder keeps the literals, since a block then has to end before them.
-/
namespace BufferBridge.Zstandard

/-- A computation that gives up under a condition goes on where that does not hold. -/
theorem refusal_eq_ok_iff {ε α : Type} {condition : Prop} [Decidable condition] {fault : ε}
    {next : PUnit → Except ε α} {value : α} :
    (if condition then Except.error fault >>= next else next ⟨⟩) = .ok value ↔
      ¬condition ∧ next ⟨⟩ = .ok value := by
  by_cases h : condition
  · rw [if_pos h]
    constructor
    · intro hfault
      cases hfault
    · intro hnot
      exact absurd h hnot.1
  · rw [if_neg h]
    exact ⟨fun hnext => ⟨h, hnext⟩, fun hnext => hnext.2⟩

/-- Two ways to get a first value, of which a condition chooses one. -/
theorem either_eq_ok_iff {ε α β : Type} {condition : Prop} [Decidable condition]
    {first second : Except ε α} {next : α → Except ε β} {value : β} :
    (if condition then first >>= next else second >>= next) = .ok value ↔
      ∃ found, (if condition then first else second) = .ok found ∧ next found = .ok value := by
  by_cases h : condition
  · simp only [if_pos h, bind_eq_ok_iff]
  · simp only [if_neg h, bind_eq_ok_iff]

/-! ## Literals -/

namespace HuffmanTable

variable {table : HuffmanTable} {bytes output decoded : Array UInt8} {count : Nat}

theorem size_decodeSymbols (table : HuffmanTable) (count : Nat) (stream : BitStream)
    (output : Array UInt8) :
    (table.decodeSymbols count stream output).1.size = output.size + count := by
  induction count generalizing stream output with
  | zero => rfl
  | succ count ih =>
    rw [decodeSymbols]
    simp only [ih, Array.size_push]
    omega

theorem size_decodeStream (h : table.decodeStream bytes count output = .ok decoded) :
    decoded.size = output.size + count := by
  rw [decodeStream] at h
  split at h
  · cases h
  · rename_i stream _
    have hsize := size_decodeSymbols table count stream output
    simp only at h
    split at h
    · cases h
      exact hsize
    · cases h

theorem size_decodeFourStreams (h : table.decodeFourStreams bytes count = .ok decoded) :
    decoded.size = count := by
  rw [decodeFourStreams] at h
  obtain ⟨-, h⟩ := refusal_eq_ok_iff.mp h
  obtain ⟨hcount, h⟩ := refusal_eq_ok_iff.mp h
  obtain ⟨first, hfirst, h⟩ := bind_eq_ok_iff.mp h
  obtain ⟨second, hsecond, h⟩ := bind_eq_ok_iff.mp h
  obtain ⟨third, hthird, hfourth⟩ := bind_eq_ok_iff.mp h
  rw [size_decodeStream hfourth, size_decodeStream hthird, size_decodeStream hsecond,
    size_decodeStream hfirst, Array.size_empty]
  omega

end HuffmanTable

namespace Literals

variable {limits : Limits} {table : Option HuffmanTable} {content : Array UInt8} {literals : Literals}
  {count room produced : Nat}

theorem checkCount_eq_ok_iff :
    checkCount limits count = .ok () ↔ count ≤ limits.blockMax ∧ count ≤ limits.room := by
  rw [checkCount]
  by_cases hmax : limits.blockMax < count
  · rw [if_pos hmax]
    constructor
    · intro h
      cases h
    · omega
  · rw [if_neg hmax]
    by_cases hroom : limits.room < count
    · rw [if_pos hroom]
      constructor
      · intro h
        cases h
      · omega
    · rw [if_neg hroom]
      exact ⟨fun _ => by omega, fun _ => rfl⟩

/-- Within more room the literals may be kept apart, which leaves a block its largest size. -/
theorem le_roomBeside (hroom : produced ≤ room) (h : produced ≤ limits.roomBeside count)
    (hmore : room ≤ limits.room ∨ limits.room ≤ limits.blockMax) :
    produced ≤ Limits.roomBeside ⟨limits.blockMax, room⟩ count := by
  simp only [Limits.roomBeside] at h ⊢
  split
  · split at h <;> omega
  · exact hroom

/-- The literals of a block within another room that they fit into: they are the same, and leave room
for what the block has room for. -/
def Fits (limits : Limits) (room : Nat) (literals : Literals)
    (other : Except Fault Literals) : Prop :=
  ∃ beside, other = .ok { literals with room := beside } ∧
    ∀ produced ≤ room, produced ≤ literals.room →
      (room ≤ limits.room ∨ limits.room ≤ limits.blockMax) → produced ≤ beside

theorem readStored_fits (h : readStored limits table content = .ok literals)
    (hfits : literals.bytes.size ≤ room) :
    Fits limits room literals (readStored ⟨limits.blockMax, room⟩ table content) := by
  rw [readStored] at h ⊢
  generalize plainHeader content = fields at h ⊢
  obtain ⟨count, header⟩ := fields
  obtain ⟨hheader, h⟩ := refusal_eq_ok_iff.mp h
  obtain ⟨_, hcount, h⟩ := bind_eq_ok_iff.mp h
  obtain ⟨hcontent, h⟩ := refusal_eq_ok_iff.mp h
  obtain ⟨hmax, -⟩ := checkCount_eq_ok_iff.mp hcount
  cases h
  simp only [Array.size_extract] at hfits
  have hother : checkCount ⟨limits.blockMax, room⟩ count = .ok () :=
    checkCount_eq_ok_iff.mpr ⟨hmax, by simp only; omega⟩
  refine ⟨_, refusal_eq_ok_iff.mpr ⟨hheader, bind_eq_ok_iff.mpr ⟨⟨⟩, hother,
    refusal_eq_ok_iff.mpr ⟨hcontent, rfl⟩⟩⟩, ?_⟩
  intro produced hroom hproduced hmore
  by_cases hplace : header + count + 32 ≤ content.size
  · simpa only [if_pos hplace] using hroom
  · simp only [if_neg hplace] at hproduced ⊢
    exact le_roomBeside hroom hproduced hmore

theorem readRepeated_fits (h : readRepeated limits table content = .ok literals)
    (hfits : literals.bytes.size ≤ room) :
    Fits limits room literals (readRepeated ⟨limits.blockMax, room⟩ table content) := by
  rw [readRepeated] at h ⊢
  generalize plainHeader content = fields at h ⊢
  obtain ⟨count, header⟩ := fields
  obtain ⟨hheader, h⟩ := refusal_eq_ok_iff.mp h
  obtain ⟨_, hcount, h⟩ := bind_eq_ok_iff.mp h
  obtain ⟨hmax, -⟩ := checkCount_eq_ok_iff.mp hcount
  cases h
  rw [Array.size_replicate] at hfits
  have hother : checkCount ⟨limits.blockMax, room⟩ count = .ok () :=
    checkCount_eq_ok_iff.mpr ⟨hmax, hfits⟩
  exact ⟨_, refusal_eq_ok_iff.mpr ⟨hheader, bind_eq_ok_iff.mpr ⟨⟨⟩, hother, rfl⟩⟩,
    fun produced hroom hproduced hmore => le_roomBeside hroom hproduced hmore⟩

theorem readCoded_fits (h : readCoded limits table content = .ok literals)
    (hfits : literals.bytes.size ≤ room) :
    Fits limits room literals (readCoded ⟨limits.blockMax, room⟩ table content) := by
  rw [readCoded] at h ⊢
  generalize codedHeader content = header at h ⊢
  obtain ⟨hheader, h⟩ := refusal_eq_ok_iff.mp h
  obtain ⟨hcount, h⟩ := refusal_eq_ok_iff.mp h
  obtain ⟨hsingle, h⟩ := refusal_eq_ok_iff.mp h
  obtain ⟨hcoded, h⟩ := refusal_eq_ok_iff.mp h
  obtain ⟨_, hroom, h⟩ := bind_eq_ok_iff.mp h
  obtain ⟨hmax, -⟩ := checkCount_eq_ok_iff.mp hroom
  rcases table with _ | given
  all_goals
    obtain ⟨⟨coding, described⟩, htable, h⟩ := bind_eq_ok_iff.mp h
    obtain ⟨hdescribed, h⟩ := refusal_eq_ok_iff.mp h
    obtain ⟨bytes, hbytes, h⟩ := either_eq_ok_iff.mp h
    cases h
    have hsize : bytes.size = header.count := by
      split at hbytes
      · exact (HuffmanTable.size_decodeStream hbytes).trans (by simp)
      · exact HuffmanTable.size_decodeFourStreams hbytes
    have hother : checkCount ⟨limits.blockMax, room⟩ header.count = .ok () :=
      checkCount_eq_ok_iff.mpr ⟨hmax, hsize ▸ hfits⟩
    refine ⟨_, ?_, fun produced hroom hproduced hmore => le_roomBeside hroom hproduced hmore⟩
    refine refusal_eq_ok_iff.mpr ⟨hheader, refusal_eq_ok_iff.mpr ⟨hcount, refusal_eq_ok_iff.mpr
      ⟨hsingle, refusal_eq_ok_iff.mpr ⟨hcoded, bind_eq_ok_iff.mpr ⟨⟨⟩, hother, ?_⟩⟩⟩⟩⟩
    exact bind_eq_ok_iff.mpr ⟨_, htable, refusal_eq_ok_iff.mpr ⟨hdescribed,
      either_eq_ok_iff.mpr ⟨bytes, hbytes, rfl⟩⟩⟩

/-- Within another room that the literals fit into they are read all the same. -/
theorem read_fits (h : read limits table content = .ok literals)
    (hfits : literals.bytes.size ≤ room) :
    Fits limits room literals (read ⟨limits.blockMax, room⟩ table content) := by
  unfold read at h ⊢
  obtain ⟨hsize, -⟩ := refusal_eq_ok_iff.mp h
  simp only [if_neg hsize] at h ⊢
  generalize bitsFrom content 2 0 = kind at h ⊢
  match kind with
  | 0 => exact readStored_fits h hfits
  | 1 => exact readRepeated_fits h hfits
  | 2 => exact readCoded_fits h hfits
  | _ + 3 =>
    cases table with
    | none => cases h
    | some given => exact readCoded_fits h hfits

end Literals

/-! ## Sequences -/

theorem NumberCode.start_le_least (number : NumberCode) (code : Nat) :
    number.start ≤ number.least code := by
  have hfold : ∀ (widths : List Nat) (least : Nat),
      least ≤ widths.foldl (fun least width => least + Nat.pow 2 width) least := by
    intro widths
    induction widths with
    | nil => exact Nat.le_refl
    | cons width widths ih => exact fun least => Nat.le_trans (Nat.le_add_right _ _) (ih _)
  exact hfold _ _

namespace Sequences

variable {tables : Option SequenceTables} {data : Array UInt8} {sequences : Sequences} {room : Nat}

/-- A sequence repeats three bytes at least. -/
theorem length_readItem (coding : SequenceTables) (states : States) (stream : BitStream) :
    3 ≤ (readItem coding states stream).1.length :=
  Nat.le_trans (NumberCode.start_le_least .matchLength _) (Nat.le_add_right _ _)

theorem readItems_long (coding : SequenceTables) (count : Nat) (states : States) (stream : BitStream)
    {items : Array Sequence} (h : ∀ item ∈ items, 3 ≤ item.length) :
    ∀ item ∈ (readItems coding count states stream items).1, 3 ≤ item.length := by
  induction count generalizing states stream items with
  | zero => exact h
  | succ count ih =>
    have hpush : ∀ item ∈ items.push (readItem coding states stream).1, 3 ≤ item.length := by
      intro item hmem
      rcases Array.mem_push.mp hmem with hmem | rfl
      · exact h item hmem
      · exact length_readItem coding states stream
    rw [readItems]
    by_cases hcount : count = 0
    · simpa only [if_pos hcount] using hpush
    · simpa only [if_neg hcount] using ih _ _ hpush

theorem size_readItems (coding : SequenceTables) (count : Nat) (states : States) (stream : BitStream)
    (items : Array Sequence) :
    (readItems coding count states stream items).1.size = items.size + count := by
  induction count generalizing states stream items with
  | zero => rfl
  | succ count ih =>
    rw [readItems]
    by_cases hcount : count = 0
    · simp only [if_pos hcount, Array.size_push]
      omega
    · simp only [if_neg hcount, ih, Array.size_push]
      omega

/-- Only a block without room is not asked for sequences. Where there are some, each adds output. -/
theorem read_room (h : read room tables data = .ok sequences) :
    (∀ item ∈ sequences.items, 3 ≤ item.length) ∧
      ∀ other, (sequences.items ≠ [] → other ≠ 0) → read other tables data = .ok sequences := by
  unfold read at h ⊢
  obtain ⟨⟨count, length⟩, hcount, h⟩ := bind_eq_ok_iff.mp h
  by_cases hzero : count = 0
  · simp only [if_pos hzero] at h
    obtain ⟨hrest, hdone⟩ := refusal_eq_ok_iff.mp h
    cases hdone
    refine ⟨fun item hmem => absurd hmem List.not_mem_nil, fun other _ => ?_⟩
    refine bind_eq_ok_iff.mpr ⟨_, hcount, ?_⟩
    simp only [if_pos hzero]
    exact h
  · simp only [if_neg hzero] at h
    obtain ⟨⟨coding, coded⟩, htables, h⟩ := bind_eq_ok_iff.mp h
    obtain ⟨-, h⟩ := refusal_eq_ok_iff.mp h
    have hitems : (∀ item ∈ sequences.items, 3 ≤ item.length) ∧ sequences.items ≠ [] := by
      simp only at h
      split at h
      · cases h
      · cases h
        refine ⟨fun item hmem => ?_, fun hnil => ?_⟩
        · exact readItems_long coding count _ _ (by simp) item (Array.mem_toList_iff.mp hmem)
        · have hsize := congrArg List.length hnil
          rw [Array.length_toList, size_readItems, Array.size_empty, Nat.zero_add] at hsize
          exact hzero hsize
    refine ⟨hitems.1, fun other hother => bind_eq_ok_iff.mpr ⟨_, hcount, ?_⟩⟩
    simp only [if_neg hzero]
    exact bind_eq_ok_iff.mpr ⟨_, htables, refusal_eq_ok_iff.mpr ⟨hother hitems.2, h⟩⟩

end Sequences

namespace Progress

/-- How many bytes sequences repeat in all. -/
def repeated : List Sequence → Nat
  | [] => 0
  | sequence :: items => sequence.length + repeated items

variable {capacity other : Nat} {items : List Sequence} {literals rest : Bytes}
  {progress final : Progress}

/-- Sequences that are carried out add the literals that they take and the bytes that they repeat. -/
theorem size_run (h : run capacity items literals progress = .ok (rest, final)) :
    rest.length ≤ literals.length ∧
      progress.output.size + literals.length + repeated items =
        final.output.size + rest.length := by
  induction items generalizing literals progress with
  | nil =>
    cases h
    exact ⟨Nat.le_refl _, rfl⟩
  | cons sequence items ih =>
    rw [run] at h
    split at h
    · cases h
    split at h
    · cases h
    rename_i front after hsplit
    simp only at h
    split at h
    · cases h
    obtain ⟨hfront, rfl⟩ := Bytes.split?_eq_some hsplit
    obtain ⟨hless, hsum⟩ := ih h
    simp only [Bytes.size_copyBack, Bytes.size_append] at hsum
    simp only [List.length_append, repeated]
    omega

theorem run_within (h : run capacity items literals progress = .ok (rest, final))
    (hfits : final.output.size ≤ other) : run other items literals progress = .ok (rest, final) := by
  induction items generalizing literals progress with
  | nil => exact h
  | cons sequence items ih =>
    rw [run] at h ⊢
    split at h
    · cases h
    split at h
    · cases h
    rename_i front after hsplit
    simp only at h ⊢
    split at h
    · cases h
    rename_i hoffset
    -- the output never gets shorter, so it keeps to the limit here where it does at the end
    obtain ⟨hless, hgrows⟩ := size_run h
    simp only [Bytes.size_copyBack, Bytes.size_append, (Bytes.split?_eq_some hsplit).1] at hgrows
    rw [if_neg (by omega), if_neg hoffset]
    exact ih h

end Progress

/-! ## Blocks -/

namespace FrameState

variable {state next : FrameState} {blockMax capacity room : Nat}

@[simp] theorem size_output_append (state : FrameState) (bytes : Bytes) :
    (state.append bytes).output.size = state.output.size + bytes.length :=
  Bytes.size_append _ _

theorem addCompressed_within {content : Array UInt8}
    (h : addCompressed blockMax capacity content state = .ok next)
    (hfits : next.output.size ≤ room)
    (hmore : room ≤ capacity ∨ capacity ≤ state.output.size + blockMax) :
    state.output.size ≤ next.output.size ∧ addCompressed blockMax room content state = .ok next := by
  unfold addCompressed at h ⊢
  obtain ⟨hcontent, h⟩ := refusal_eq_ok_iff.mp h
  obtain ⟨literals, hliterals, h⟩ := bind_eq_ok_iff.mp h
  obtain ⟨sequences, hsequences, h⟩ := bind_eq_ok_iff.mp h
  obtain ⟨⟨rest, progress⟩, hrun, h⟩ := bind_eq_ok_iff.mp h
  obtain ⟨hfinished, h⟩ := refusal_eq_ok_iff.mp h
  obtain ⟨hcapacity, h⟩ := refusal_eq_ok_iff.mp h
  cases h
  simp only [size_output_append] at hfits ⊢
  change progress.output.size + rest.length ≤ room at hfits
  obtain ⟨-, hsize⟩ := Progress.size_run hrun
  change state.output.size + literals.bytes.toList.length + _ = _ at hsize
  rw [Array.length_toList] at hsize
  have hgrows : state.output.size ≤ progress.output.size + rest.length := by omega
  refine ⟨hgrows, ?_⟩
  obtain ⟨beside, hother, hbeside⟩ := Literals.read_fits hliterals
    (show literals.bytes.size ≤ room - state.output.size by omega)
  have hroom := hbeside (progress.output.size + rest.length - state.output.size) (by omega) (by omega)
    (by simp only; omega)
  obtain ⟨hlong, hasked⟩ := Sequences.read_room hsequences
  have hsome : sequences.items ≠ [] → room - state.output.size ≠ 0 := by
    intro hne
    obtain ⟨item, items, hitems⟩ := List.exists_cons_of_ne_nil hne
    have hitem := hlong item (hitems ▸ List.mem_cons_self)
    rw [hitems, Progress.repeated] at hsize
    omega
  refine refusal_eq_ok_iff.mpr ⟨hcontent, bind_eq_ok_iff.mpr ⟨_, hother, bind_eq_ok_iff.mpr
    ⟨sequences, hasked _ hsome, bind_eq_ok_iff.mpr ⟨(rest, progress), ?_, ?_⟩⟩⟩⟩
  · exact Progress.run_within hrun (by simp only; omega)
  · refine refusal_eq_ok_iff.mpr ⟨hfinished, refusal_eq_ok_iff.mpr ⟨?_, rfl⟩⟩
    simp only
    omega

/-- A block that is carried out within one limit is carried out within every limit that its result
keeps to, if that is not a higher one or the first is no higher than the longest block needs. -/
theorem addBlock_within {header : BlockHeader} {content : Bytes}
    (hlength : content.length = header.contentLength)
    (h : state.addBlock blockMax capacity header content = .ok next) (hfits : next.output.size ≤ room)
    (hmore : room ≤ capacity ∨ capacity ≤ state.output.size + blockMax) :
    state.output.size ≤ next.output.size ∧
      state.addBlock blockMax room header content = .ok next := by
  rw [addBlock] at h ⊢
  cases hkind : header.kind with
  | stored =>
    rw [BlockHeader.contentLength, hkind] at hlength
    simp only [hkind] at h ⊢
    split at h
    · cases h
    · cases h
      simp only [size_output_append, hlength] at hfits ⊢
      exact ⟨by omega, if_neg (by omega)⟩
  | repeated =>
    simp only [hkind] at h ⊢
    split at h
    · cases h
    · cases h
      simp only [size_output_append, List.length_replicate] at hfits ⊢
      exact ⟨by omega, if_neg (by omega)⟩
  | compressed =>
    simp only [hkind] at h ⊢
    exact addCompressed_within h hfits hmore
  | reserved =>
    simp only [hkind] at h
    cases h

end FrameState

/-- A block that is found is of a known kind, and its content as long as its header says. -/
theorem BlockHeader.readBlock_spec {input content rest : Bytes} {header : BlockHeader}
    (h : readBlock input = .ok (header, content, rest)) :
    header.kind ≠ .reserved ∧ content.length = header.contentLength := by
  rw [readBlock] at h
  split at h
  · cases h
  split at h
  · cases h
  rename_i hkind
  split at h
  · cases h
  · rename_i hsplit
    cases h
    exact ⟨hkind, (Bytes.split?_eq_some hsplit).1⟩

section

variable {blockMax capacity room : Nat} {state next final : FrameState} {header : BlockHeader}
  {input content rest : Bytes}

theorem decodeBlocks_of_block (hblock : BlockHeader.readBlock input = .ok (header, content, rest))
    (hadd : state.addBlock blockMax room header content = .ok next) :
    decodeBlocks blockMax room state input =
      if header.last then .ok (next, rest) else decodeBlocks blockMax room next rest := by
  rw [decodeBlocks]
  split
  · rename_i hfault
    rw [hblock] at hfault
    cases hfault
  · rename_i hfound
    rw [hblock] at hfound
    cases hfound
    simp only [hadd]

theorem decodeBlocks_of_fault {fault : Fault}
    (hblock : BlockHeader.readBlock input = .ok (header, content, rest))
    (hadd : state.addBlock blockMax room header content = .error fault) :
    decodeBlocks blockMax room state input = .error fault := by
  rw [decodeBlocks]
  split
  · rename_i hfault
    rw [hblock] at hfault
    cases hfault
  · rename_i hfound
    rw [hblock] at hfound
    cases hfound
    simp only [hadd]

/-- The blocks of a frame within less room that their output keeps to. -/
theorem decodeBlocks_within (h : decodeBlocks blockMax capacity state input = .ok (final, rest))
    (hless : room ≤ capacity) (hfits : final.output.size ≤ room) :
    state.output.size ≤ final.output.size ∧
      decodeBlocks blockMax room state input = .ok (final, rest) := by
  fun_induction decodeBlocks blockMax capacity state input with
  | case1 => cases h
  | case2 => cases h
  | case3 state input header content after hblock next hadd hlast =>
    cases h
    obtain ⟨hgrows, hwithin⟩ := FrameState.addBlock_within (BlockHeader.readBlock_spec hblock).2 hadd
      hfits (.inl hless)
    exact ⟨hgrows, by rw [decodeBlocks_of_block hblock hwithin, if_pos hlast]⟩
  | case4 state input header content after hblock next hadd hlast ih =>
    obtain ⟨hrest, hdecode⟩ := ih h
    obtain ⟨hgrows, hwithin⟩ := FrameState.addBlock_within (BlockHeader.readBlock_spec hblock).2 hadd
      (Nat.le_trans hrest hfits) (.inl hless)
    refine ⟨Nat.le_trans hgrows hrest, ?_⟩
    rw [decodeBlocks_of_block hblock hwithin, if_neg hlast, hdecode]

end

end BufferBridge.Zstandard

import BufferBridge.Guard

/-! Runs of steps on guards that outlive a single call: guards stand in numbered slots, are taken one
by one or in pairs, used through windows, and dropped in any order. -/
namespace BufferBridge

/-- The guards of a run. A slot is empty once its guard is dropped, or if it never got one. -/
structure GuardTable where
  slots : List (Option Guard) := []
  deriving Repr, DecidableEq

/-- A step on a table of guards. -/
inductive GuardStep
  /-- Takes a guard into a new slot. -/
  | resolve (buffer : Buffer) (role : Role)
  /-- Takes two guards into two new slots, or none. -/
  | resolvePair (source destination : Buffer)
  /-- Drops the guard in a slot, if there is one. -/
  | drop (slot : Nat)
  /-- Reads a window. -/
  | read (slot : Nat) (window : Window)
  /-- Fills a window with one byte. -/
  | fill (slot : Nat) (window : Window) (byte : UInt8)
  /-- Writes, for as many bytes as both windows have, a function of each source byte. -/
  | split (source : Nat) (sourceWindow : Window) (destination : Nat) (destinationWindow : Window)
      (change : UInt8 → UInt8)
  /-- Copies a window. -/
  | copy (source : Nat) (window : Window) (destination : Nat) (offset : Nat) (allowOverlap : Bool)

/-- What a step answers. -/
inductive GuardReply
  /-- The guards taken. -/
  | guards (guards : List Guard)
  /-- The bytes read. -/
  | bytes (bytes : Bytes)
  /-- The number of bytes filled. -/
  | filled (length : Nat)
  /-- The lengths of the two windows. -/
  | lengths (source destination : Nat)
  /-- Nothing but that it went well. -/
  | done
  /-- There is no guard in a slot that the step uses. -/
  | emptySlot

namespace GuardTable

def get? (table : GuardTable) (slot : Nat) : Option Guard := (table.slots[slot]?).join

/-- The table with more slots at the end. -/
def add (table : GuardTable) (guards : List (Option Guard)) : GuardTable :=
  ⟨table.slots ++ guards⟩

/-- What a step that uses guards does with them. -/
def useOp (table : GuardTable) : GuardStep → Op GuardReply
  | .read slot window =>
    match table.get? slot with
    | some guard => do
      return .bytes (← Op.read (← guard.span window))
    | none => return .emptySlot
  | .fill slot window byte =>
    match table.get? slot with
    | some guard => do
      let region ← guard.writableSpan window
      Op.write region (List.replicate window.length byte)
      return .filled window.length
    | none => return .emptySlot
  | .split source sourceWindow destination destinationWindow change =>
    match table.get? source, table.get? destination with
    | some src, some dst => do
      let (input, output) ← splitWindows src sourceWindow dst destinationWindow
      Op.write output ((← Op.read input).map change)
      return .lengths input.length output.length
    | _, _ => return .emptySlot
  | .copy source window destination offset allowOverlap =>
    match table.get? source, table.get? destination with
    | some src, some dst => do
      copyWindow src window dst offset allowOverlap
      return .done
    | _, _ => return .emptySlot
  | _ => return .done

def step (table : GuardTable) (step : GuardStep) (host : Host) :
    Except Failure GuardReply × GuardTable × Host :=
  match step with
  | .resolve buffer role =>
    match BufferBridge.resolve buffer role host with
    | (.ok guard, host) => (.ok (.guards [guard]), table.add [some guard], host)
    | (.error failure, host) => (.error failure, table.add [none], host)
  | .resolvePair source destination =>
    match BufferBridge.resolvePair source destination host with
    | (.ok (src, dst), host) => (.ok (.guards [src, dst]), table.add [some src, some dst], host)
    | (.error failure, host) => (.error failure, table.add [none, none], host)
  | .drop slot =>
    match table.get? slot with
    | some guard => (.ok .done, ⟨table.slots.set slot none⟩, guard.release host)
    | none => (.ok .done, table, host)
  | step =>
    let (result, host) := table.useOp step host
    (result, table, host)

/-- Drops all guards that are left, in the order of their slots. -/
def dropAll (table : GuardTable) (host : Host) : Host :=
  table.slots.foldl (fun host slot => slot.elim host fun guard => guard.release host) host

end GuardTable

end BufferBridge

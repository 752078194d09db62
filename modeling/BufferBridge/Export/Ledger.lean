/-! How often the bytes of each block are on loan. Whoever shows bytes that another object owns, or needs
them to stay where they are, takes an export of their block and gives it back when done. -/
namespace BufferBridge.Export

/-- The exports that are live, each by the block of its bytes. -/
structure Ledger where
  live : List Nat := []
  deriving Repr, DecidableEq

namespace Ledger

/-- The ledger with one more export of a block. -/
def take (block : Nat) (ledger : Ledger) : Ledger := ⟨block :: ledger.live⟩

/-- The ledger with one export of a block less. -/
def give (block : Nat) (ledger : Ledger) : Ledger := ⟨ledger.live.erase block⟩

/-- The number of live exports of a block. -/
def count (block : Nat) (ledger : Ledger) : Nat := ledger.live.count block

end Ledger

end BufferBridge.Export

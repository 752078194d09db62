import BufferBridge.Export.Function
import BufferBridge.Logging
import BufferBridge.Owned

/-! A script at work: the objects it holds, the results it has got, and what each call does to them. An
object that shows bytes of another one exports them for as long as it is there, and a call does so for as
long as it has them pinned. A block may grow only while its bytes are not exported. -/
namespace BufferBridge.Export

/-- A script with its objects. -/
structure Session where
  host : Host := { memory := ⟨[]⟩ }
  /-- The objects by their numbers; one that is gone, or could not be made, is no value. -/
  objects : List Object := []
  /-- The results of the calls so far; a call that failed has none. -/
  results : List Object := []
  process : LogProcess := {}
  /-- The exports that objects and calls have taken and not given back. -/
  exports : Ledger := {}
  libraries : Libraries := {}

/-- How to make an object. -/
inductive Recipe
  /-- An object with bytes of its own that never change. -/
  | frozen (data : Bytes)
  /-- An object with bytes of its own that may grow. -/
  | growable (data : Bytes)
  /-- An object with items of its own. -/
  | items (code : String) (data : Bytes)
  /-- A view of some of the items of another object. -/
  | view (source : Nat) (slice : Span.Slice)
  /-- A view of another object that is not written through. -/
  | readonly (source : Nat)
  /-- A view of another object as items of another format. -/
  | cast (source : Nat) (format : String)
  /-- A direct object over another object. -/
  | direct (source : Nat)
  /-- An object without bytes. -/
  | plain (object : Object)

/-- What a script does. -/
inductive Action
  /-- Calls a function. -/
  | call (function : Function) (arguments : Arguments)
  /-- Asks a direct object for its number of bytes. -/
  | capacity (object : Object)
  /-- Asks whether an object is not written through. -/
  | isReadonly (object : Object)
  /-- Appends a byte to an object that may grow. -/
  | append (object value : Object)
  /-- Gives up an object. -/
  | forget (object : Nat)

/-- The formats of items that an object may own, and the width of each. -/
def ownedWidth? (code : String) : Option Nat :=
  if code = "u" then some 4
  else if ["b", "B", "h", "H", "i", "I", "l", "L", "q", "Q", "f", "d"].contains code then itemWidth? code
  else none

/-- A span fault as a script is told of it. -/
def SpanFault.fault : SpanFault → Fault
  | zeroStep => .badValue "slice step cannot be zero"
  | unknownFormat =>
    .badValue ("memoryview: destination format must be a native single character format " ++
      "prefixed with an optional '@'")
  | _ => .wrongType

namespace Session

/-- The object with a number. -/
def object (session : Session) (number : Nat) : Object := session.objects.getD number .none

/-- The result of the call with a number. -/
def result (session : Session) (number : Nat) : Object := session.results.getD number .none

/-- The session with one more block, and the number of the block. -/
def allocate (data : Bytes) (session : Session) : Nat × Session :=
  let blocks := session.host.memory.blocks
  (blocks.length, { session with host.memory := ⟨blocks ++ [data]⟩ })

/-- A view of what an object shows. What is shown is exported for as long as the view is there, and goes
back if there is no such view. -/
def view (source : Nat) (adjust : Span → Except SpanFault Span) (session : Session) :
    Except Fault Object × Session :=
  match (session.object source).span? session.host.memory with
  | none => (.error .wrongType, session)
  | some span =>
    let exports := session.exports.take span.block
    match adjust span with
    | .error fault => (.error fault.fault, { session with exports := exports.give span.block })
    | .ok shown => (.ok (.view shown), { session with exports })

/-- A direct object over an object that hands out its bytes, as long as they follow each other. -/
def direct (source : Nat) (session : Session) : Except Fault Object × Session :=
  match (session.object source).acquire session.host.memory session.exports with
  | (.error (.notExporter _), exports) => (.error .wrongType, { session with exports })
  | (.error .otherItems, exports) => (.error .exporting, { session with exports })
  | (.ok span, exports) =>
    if span.isContiguous then (.ok (.direct span), { session with exports })
    else
      (.error (.badValue "direct buffers must be C-contiguous"),
        { session with exports := exports.give span.block })

/-- The object that a recipe makes. -/
def build (recipe : Recipe) (session : Session) : Except Fault Object × Session :=
  match recipe with
  | .frozen data =>
    let (block, session) := session.allocate data
    (.ok (.frozen block), session)
  | .growable data =>
    let (block, session) := session.allocate data
    (.ok (.growable block), session)
  | .items code data =>
    match ownedWidth? code with
    | none =>
      (.error (if code.length = 1 then
        .badValue "bad typecode (must be b, B, u, h, H, i, I, l, L, q, Q, f or d)" else .wrongType),
        session)
    | some width =>
      if data.length % width ≠ 0 then
        (.error (.badValue "bytes length not a multiple of item size"), session)
      else
        let (block, session) := session.allocate data
        (.ok (.items block (if code = "u" then "w" else code) width), session)
  | .view source slice => session.view source (Span.slice slice)
  | .readonly source => session.view source fun span => .ok { span with writable := false }
  | .cast source format => session.view source (Span.cast format)
  | .direct source => session.direct source
  | .plain object =>
    -- bytes are shown over another object, never out of nothing
    if object.holds?.isSome then (.error .wrongType, session) else (.ok object, session)

/-- What is kept of a result: no value where there is none. -/
def kept : Except Fault Object → Object
  | .ok object => object
  | .error _ => .none

/-- Makes an object and keeps it, or no value if it cannot be made. -/
def make (recipe : Recipe) (session : Session) : Except Fault Unit × Session :=
  let (object, session) := session.build recipe
  (object.map fun _ => (), { session with objects := session.objects ++ [kept object] })

/-- The reply of a bridge call as an object. -/
def ofReply : Reply → Object
  | .number value => .integer value.toInt
  | .flag value => .flag value
  | .done => .none

/-- The records of a call: those that it emitted and, where it was refused a pin, why. -/
def records (refusal : Option Refusal) (events : List Event) : List LogRecord :=
  events.filterMap fun
    | .log record => some record
    | .refuse .. => refusal.map fun refusal => .exportRefused refusal.message
    | _ => none

/-- The exports after an event of a call. A pin is an export of a block, until it is given back. An object
that refuses a pin may have exported its bytes before that could be known. -/
def follow (memory : Memory) (refused : Option Object) (exports : Ledger) : Event → Ledger
  | .pin block _ => exports.take block
  | .unpin block _ => exports.give block
  | .refuse .. => match refused with
    | some object => (object.pin memory exports).2
    | none => exports
  | _ => exports

/-- The bridge that is made for a call, with the usual settings, and the host when it has been noted. -/
def bridge (session : Session) : Bridge × Host := Bridge.create {} session.host session.libraries

/-- Runs a call of a bridge with the usual settings. -/
def runCall (call : Call) (objects : List Object) (session : Session) :
    Except Fault Object × Session :=
  let memory := session.host.memory
  let (bridge, host) := session.bridge
  let (reply, host) := call.run bridge host
  let events := host.trace.drop session.host.trace.length
  let refused := objects.find? fun object => !object.isReachable memory
  let result := match raised? events with
    | some code => .error (.failed code.message)
    | none => .ok (ofReply reply)
  (result, { session with
    host
    process := session.process.emit (records (refused.bind (·.refusal? memory)) events)
    exports := events.foldl (follow memory refused) session.exports })

/-- A failure as a script is told of it outside of bridge calls. -/
def ofFailure (failure : Failure) : Fault :=
  .failed (failure.code.message ++ ": " ++ failure.message)

/-- New bytes as a result. -/
def ofBytes (result : Except Failure Bytes) (session : Session) : Except Fault Object × Session :=
  match result with
  | .error failure => (.error (ofFailure failure), session)
  | .ok bytes =>
    let (block, session) := session.allocate bytes
    (.ok (.frozen block), session)

/-- Carries out a request. -/
def perform (request : Request) (session : Session) : Except Fault Object × Session :=
  match request with
  | .call call objects => session.runCall call objects
  | .compress data => session.ofBytes (Owned.compress data)
  | .uncompress data => session.ofBytes (Owned.uncompress data session.libraries.reader)
  | .version => (.ok (.text BufferBridge.version), session)
  | .supportsBitShuffle => (.ok (.flag BufferBridge.supportsBitShuffle), session)
  | .enableLogging file =>
    let (outcome, process) := session.process.enable file
    ((outcome.mapError ofFailure).map fun () => .none, { session with process })

/-- The request that a function makes with arguments. -/
def request (session : Session) (function : Function) (arguments : Arguments) :
    Except Fault Request := do
  let arguments ← arguments.bind function.parameters
  Request.ofArguments session.host.memory function arguments

/-- Appends a byte to an object that may grow, unless its bytes are exported. Gives the new length. -/
def append (object value : Object) (session : Session) : Except Fault Object × Session :=
  match object with
  | .growable block =>
    match value.toInt? with
    | none => (.error .wrongType, session)
    | some value =>
      if value < 0 ∨ 256 ≤ value then
        (.error (.badValue "byte must be in range(0, 256)"), session)
      else if 0 < session.exports.count block then (.error .exporting, session)
      else
        let data := session.host.memory.block block ++ [UInt8.ofNat value.toNat]
        (.ok (.integer data.length),
          { session with host.memory := ⟨session.host.memory.blocks.set block data⟩ })
  | _ => (.error .noAttribute, session)

/-- Carries out an action. -/
def act (action : Action) (session : Session) : Except Fault Object × Session :=
  match action with
  | .call function arguments =>
    match session.request function arguments with
    | .error fault => (.error fault, session)
    | .ok request => session.perform request
  | .capacity (.direct span) => (.ok (.integer span.length), session)
  | .capacity _ => (.error .noAttribute, session)
  | .isReadonly (.direct span) => (.ok (.flag !span.writable), session)
  | .isReadonly (.view span) => (.ok (.flag !span.writable), session)
  | .isReadonly _ => (.error .noAttribute, session)
  | .append object value => session.append object value
  | .forget number =>
    (.ok .none, { session with
      objects := session.objects.set number .none
      exports := (session.object number).release session.exports })

/-- Carries out an action and keeps its result. -/
def step (action : Action) (session : Session) : Except Fault Object × Session :=
  let (result, session) := session.act action
  (result, { session with results := session.results ++ [kept result] })

end Session

end BufferBridge.Export

import BufferBridge.Logging
import BufferBridge.Proofs.Windows

/-!
# Runs of a process with a log

The first request to write the log decides: its outcome is that of every later request, and its file is
the only one that is opened. What the sink receives are the lines of the records emitted after it, and
nothing at all where the process had another logger before.
-/
namespace BufferBridge

/-! ## Files -/

namespace FileTree

variable {tree after : FileTree} {path other start : EntryPath} {text : String}

/-- An entry once a text is put at the end of the file at `path`. -/
def extended (path : EntryPath) (text : String) (place : EntryPath) : FileEntry → FileEntry
  | .folder => .folder
  | .file before => .file (if place = path then before ++ text else before)

theorem append_eq (tree : FileTree) (path : EntryPath) (text : String) :
    tree.append path text =
      ⟨tree.entries.map fun (place, entry) => (place, extended path text place entry)⟩ := by
  simp only [append, mk.injEq, List.map_inj_left]
  rintro ⟨place, entry⟩ -
  cases entry with
  | folder => rfl
  | file before => by_cases h : place = path <;> simp [extended, h]

theorem append_empty (tree : FileTree) (path : EntryPath) : tree.append path "" = tree := by
  have hsame : ∀ pair ∈ tree.entries, (pair.1, extended path "" pair.1 pair.2) = pair := by
    rintro ⟨place, entry⟩ -
    cases entry <;> simp [extended]
  rw [append_eq, List.map_congr_left hsame, List.map_id']

theorem append_append (tree : FileTree) (path : EntryPath) (first second : String) :
    (tree.append path first).append path second = tree.append path (first ++ second) := by
  simp only [append_eq, List.map_map, mk.injEq, List.map_inj_left]
  rintro ⟨place, entry⟩ -
  cases entry with
  | folder => rfl
  | file before => by_cases h : place = path <;> simp [extended, h, String.append_assoc]

theorem find?_append (tree : FileTree) (path other : EntryPath) (text : String) :
    (tree.append path text).find? other =
      (tree.find? other).map (extended path text other) := by
  rw [append_eq, find?, find?]
  by_cases hroot : other.isEmpty
  · rw [if_pos hroot, if_pos hroot]
    rfl
  · rw [if_neg hroot, if_neg hroot]
    induction tree.entries with
    | nil => rfl
    | cons pair rest ih =>
      obtain ⟨place, entry⟩ := pair
      rw [List.map_cons, List.lookup_cons, List.lookup_cons]
      by_cases hplace : other = place
      · subst hplace
        rw [beq_self_eq_true]
        rfl
      · rw [beq_eq_false_iff_ne.mpr hplace]
        exact ih

theorem find?_append_of_ne (h : other ≠ path) (tree : FileTree) (text : String) :
    (tree.append path text).find? other = tree.find? other := by
  rw [find?_append]
  cases tree.find? other with
  | none => rfl
  | some entry => cases entry <;> simp [extended, h]

theorem text?_append (tree : FileTree) (path : EntryPath) (text : String) :
    (tree.append path text).text? path = (tree.text? path).map (· ++ text) := by
  rw [text?, text?, find?_append]
  cases tree.find? path with
  | none => rfl
  | some entry => cases entry <;> simp [extended]

/-- What opening a file leaves: the file with the text it had, or none, and all else as it was. -/
structure Opens (tree : FileTree) (path : EntryPath) (after : FileTree) : Prop where
  text : after.text? path = some ((tree.text? path).getD "")
  others : ∀ other, other ≠ path → after.find? other = tree.find? other

theorem openIn_opens {folder : EntryPath} {name : String}
    (h : tree.openIn folder name = .ok (path, after)) : Opens tree path after := by
  rw [openIn] at h
  split at h
  · cases h
  · cases hentry : tree.find? (name :: folder) with
    | none =>
      rw [hentry] at h
      cases h
      constructor
      · rw [text?, text?, hentry]
        simp [find?]
      · intro other hother
        have hne : (other == name :: folder) = false := beq_eq_false_iff_ne.mpr hother
        rw [find?, find?, List.lookup_cons, hne]
    | some entry =>
      rw [hentry] at h
      cases entry with
      | folder => cases h
      | file text =>
        cases h
        exact ⟨by simp [text?, hentry], fun _ _ => rfl⟩

/-- A file is opened in the folder that the way to it leads to. -/
theorem openFile_opens {way : String} (h : tree.openFile start way = .ok (path, after)) :
    Opens tree path after := by
  simp only [openFile, bind, Except.bind] at h
  split at h
  · cases h
  split at h
  · cases h
  split at h
  · cases h
  split at h
  · cases h
  split at h
  · cases h
  split at h
  · cases h
  · exact openIn_opens h

end FileTree

namespace LogProcess

/-! ## Records -/

theorem lines_append (first second : List LogRecord) :
    lines (first ++ second) = lines first ++ lines second := by
  rw [lines, List.filter_append, List.map_append, String.join_append]
  rfl

@[simp] theorem lines_cons (record : LogRecord) (rest : List LogRecord) :
    lines (record :: rest) = if record.level = .trace then lines rest
      else record.line ++ "\n" ++ lines rest := by
  rw [lines, lines]
  by_cases h : record.level = .trace <;> simp [h, String.join_cons]

theorem count_line {record : LogRecord} (h : '\n' ∉ record.message.toList) :
    record.line.toList.count '\n' = 0 := by
  rw [LogRecord.line]
  simp only [String.toList_append, List.count_append, List.count_eq_zero_of_not_mem h]
  cases record.level <;> rfl

/-- Records are written as one line each, if no wording has a line break. -/
theorem count_lines {records : List LogRecord}
    (h : ∀ record ∈ records, '\n' ∉ record.message.toList) :
    (lines records).toList.count '\n' = (records.filter (·.level ≠ .trace)).length := by
  induction records with
  | nil => rfl
  | cons record rest ih =>
    have hrest := ih fun other hmem => h other (List.mem_cons_of_mem _ hmem)
    have hline := count_line (h record List.mem_cons_self)
    rw [lines_cons]
    by_cases hlevel : record.level = .trace
    · simp [hlevel, hrest]
    · have hend : "\n".toList.count '\n' = 1 := by decide
      rw [if_neg hlevel, List.filter_cons_of_pos (by simpa using hlevel), List.length_cons]
      simp only [String.toList_append, List.count_append, hline, hend, hrest]
      omega

/-! ## Steps -/

variable {process start : LogProcess} {logger : Logger} {outcome : Except Failure Unit}

theorem emit_nil (process : LogProcess) : process.emit [] = process := by
  have hempty : lines [] = "" := rfl
  rw [emit]
  split
  · rw [hempty, String.append_empty]
  · rw [hempty, FileTree.append_empty]
  · rfl
  · rfl

/-- A logger from elsewhere keeps what it is given to itself. -/
theorem emit_of_foreign (h : process.logger = some .foreign) (records : List LogRecord) :
    process.emit records = process := by
  rw [emit, h]

theorem emit_of_no_logger (h : process.logger = none) (records : List LogRecord) :
    process.emit records = process := by
  rw [emit, h]

/-- Records emitted one after another are as if emitted at once. -/
theorem emit_emit (process : LogProcess) (first second : List LogRecord) :
    (process.emit first).emit second = process.emit (first ++ second) := by
  cases hlogger : process.logger with
  | none => simp [emit, hlogger]
  | some logger =>
    cases logger with
    | foreign => simp [emit, hlogger]
    | lines sink => cases sink <;> simp [emit, hlogger, lines_append, String.append_assoc,
        FileTree.append_append]

@[simp] theorem logger_emit (process : LogProcess) (records : List LogRecord) :
    (process.emit records).logger = process.logger := by
  rw [emit]
  split <;> rfl

@[simp] theorem outcome_emit (process : LogProcess) (records : List LogRecord) :
    (process.emit records).outcome = process.outcome := by
  rw [emit]
  split <;> rfl

@[simp] theorem opened_emit (process : LogProcess) (records : List LogRecord) :
    (process.emit records).opened = process.opened := by
  rw [emit]
  split <;> rfl

/-- Later requests are told the outcome of the first and change nothing. -/
theorem step_enable (h : process.outcome = some outcome) (name : Option String) :
    process.step (.enable name) = (some outcome, process) := by
  simp [step, enable, h]

/-- A logger that is there stays. -/
theorem install_of_logger (h : process.logger = some logger) (other : Logger) :
    process.install other = process := by
  rw [install, h, Option.some_or, ← h]

theorem install_of_no_logger (h : process.logger = none) (other : Logger) :
    process.install other = { process with logger := some other } := by
  rw [install, h, Option.none_or]

/-! ## Runs -/

/-- Whether a step asks for the log to be written. -/
def Step.isRequest : Step → Bool
  | enable _ => true
  | _ => false

/-- Whether a step installs a logger from elsewhere. -/
def Step.isForeign : Step → Bool
  | installForeign => true
  | _ => false

/-- The records that a step emits. -/
def Step.records : Step → List LogRecord
  | emit records => records
  | _ => []

/-- The records that some steps emit, in order. -/
def emitted (steps : List Step) : List LogRecord := steps.flatMap Step.records

/-- Carries steps out one after another. The outcomes are those of the requests to write the log. -/
def runAll (process : LogProcess) : List Step → List (Except Failure Unit) × LogProcess
  | [] => ([], process)
  | step :: steps =>
    let (outcome, process) := process.step step
    let (outcomes, process) := process.runAll steps
    (outcome.toList ++ outcomes, process)

theorem runAll_cons (process : LogProcess) (step : Step) (steps : List Step) :
    process.runAll (step :: steps) =
      ((process.step step).1.toList ++ ((process.step step).2.runAll steps).1,
        ((process.step step).2.runAll steps).2) :=
  rfl

theorem runAll_append (process : LogProcess) (first second : List Step) :
    process.runAll (first ++ second) =
      ((process.runAll first).1 ++ ((process.runAll first).2.runAll second).1,
        ((process.runAll first).2.runAll second).2) := by
  induction first generalizing process with
  | nil => rfl
  | cons step steps ih => simp [runAll_cons, ih]

/-- A run with a logger in place, in which requests have been told an outcome before or are none. The
logger gets all records, and nothing else changes. -/
theorem runAll_of_logger {steps : List Step} (hlogger : process.logger = some logger)
    (hrequests : ∀ step ∈ steps, step.isRequest → process.outcome = some outcome) :
    process.runAll steps =
      (List.replicate (steps.countP Step.isRequest) outcome, process.emit (emitted steps)) := by
  induction steps generalizing process with
  | nil => rw [runAll, emitted, List.flatMap_nil, emit_nil, List.countP_nil, List.replicate_zero]
  | cons step steps ih =>
    have hrest : ∀ other ∈ steps, other.isRequest → process.outcome = some outcome := fun other hmem =>
      hrequests other (List.mem_cons_of_mem _ hmem)
    rw [runAll_cons]
    cases step with
    | enable name =>
      rw [step_enable (hrequests _ List.mem_cons_self rfl), ih hlogger hrest]
      rw [List.countP_cons_of_pos rfl, List.replicate_succ]
      rfl
    | installForeign =>
      simp only [LogProcess.step, LogProcess.installForeign, install_of_logger hlogger]
      rw [ih hlogger hrest, List.countP_cons_of_neg (by decide)]
      rfl
    | emit records =>
      simp only [LogProcess.step]
      rw [ih (by rwa [logger_emit]) (by simpa only [outcome_emit] using hrest), emit_emit,
        List.countP_cons_of_neg (by exact Bool.false_ne_true)]
      rfl

/-- A run without a logger, unless one is installed from elsewhere. No record gets anywhere. -/
theorem runAll_of_no_logger {steps : List Step} (hlogger : process.logger = none)
    (hrequests : ∀ step ∈ steps, step.isRequest → process.outcome = some outcome) :
    process.runAll steps =
      (List.replicate (steps.countP Step.isRequest) outcome,
        { process with logger := if steps.any Step.isForeign then some .foreign else none }) := by
  induction steps generalizing process with
  | nil => rw [runAll, ← hlogger]; rfl
  | cons step steps ih =>
    have hrest : ∀ other ∈ steps, other.isRequest → process.outcome = some outcome := fun other hmem =>
      hrequests other (List.mem_cons_of_mem _ hmem)
    rw [runAll_cons]
    cases step with
    | enable name =>
      rw [step_enable (hrequests _ List.mem_cons_self rfl), ih hlogger hrest]
      rw [List.countP_cons_of_pos rfl, List.replicate_succ]
      rfl
    | installForeign =>
      have hrun := @runAll_of_logger { process with logger := some .foreign } .foreign outcome steps rfl
        hrest
      simp only [LogProcess.step, LogProcess.installForeign, install_of_no_logger hlogger]
      rw [hrun, List.countP_cons_of_neg (by decide)]
      rfl
    | emit records =>
      simp only [LogProcess.step, emit_of_no_logger hlogger]
      rw [ih hlogger hrest, List.countP_cons_of_neg (by exact Bool.false_ne_true)]
      rfl

/-! ## The first request -/

/-- A process in which the log was not asked for, no logger was installed and no file was opened. -/
structure Fresh (process : LogProcess) : Prop where
  logger : process.logger = none
  outcome : process.outcome = none
  opened : process.opened = []

/-- What a run from `start` comes to by its first request, which names a file or none: the outcome that
requests are told, and the process at the end. The records `told` are those that its sink receives. -/
inductive Settled (start : LogProcess) (told : List LogRecord) :
    Option String → Except Failure Unit → LogProcess → Prop
  /-- Without a name the log goes to standard error, and no file is touched. -/
  | standardError {final : LogProcess} : final.tree = start.tree → final.opened = start.opened →
      final.standardError = start.standardError ++ lines told →
      Settled start told none (.ok ()) final
  /-- A file that cannot be opened is an invalid input, in the words of that fault, and nothing is
  written anywhere. -/
  | refused {name : String} {fault : OpenFault} {final : LogProcess} :
      start.tree.openFile start.folder name = .error fault →
      final.tree = start.tree → final.opened = start.opened →
      final.standardError = start.standardError →
      Settled start told (some name)
        (.error (.invalid (.other (Failure.invalid (.logFile name fault.message)).message))) final
  /-- A file that can be opened is the only one that is, and starts with the text it had, or empty. -/
  | file {name : String} {path : EntryPath} {tree : FileTree} {final : LogProcess} :
      start.tree.openFile start.folder name = .ok (path, tree) →
      final.opened = start.opened ++ [path] → final.standardError = start.standardError →
      final.tree.text? path = some ((start.tree.text? path).getD "" ++ lines told) →
      (∀ other, other ≠ path → final.tree.find? other = start.tree.find? other) →
      Settled start told (some name) (.ok ()) final

variable {steps : List Step}

/-- A process that ends as another does that emits some records, as far as its files go. -/
structure EndsAs (process : LogProcess) (records : List LogRecord) (final : LogProcess) : Prop where
  tree : final.tree = (process.emit records).tree
  opened : final.opened = process.opened
  standardError : final.standardError = (process.emit records).standardError

/-- What a run after the first request adds is what its records add at once. -/
theorem runAll_after_request (h : process.outcome = some outcome) :
    (process.runAll steps).1 = List.replicate (steps.countP Step.isRequest) outcome ∧
      process.EndsAs (emitted steps) (process.runAll steps).2 := by
  cases hlogger : process.logger with
  | none =>
    have hsilent := emit_of_no_logger hlogger (emitted steps)
    rw [runAll_of_no_logger hlogger fun _ _ _ => h]
    exact ⟨rfl, by rw [hsilent], rfl, by rw [hsilent]⟩
  | some logger =>
    rw [runAll_of_logger hlogger fun _ _ _ => h]
    exact ⟨rfl, rfl, opened_emit .., rfl⟩

/-- The outcome of a request as it is kept: the reason of a failure by its words. -/
def kept (outcome : Except Failure Unit) : Except Failure Unit :=
  outcome.mapError fun failure => .invalid (.other failure.message)

theorem setUp_of_error {name : String} {fault : OpenFault}
    (h : process.tree.openFile process.folder name = .error fault) :
    process.setUp (some name) = (.error (.invalid (.logFile name fault.message)), process) := by
  simp only [setUp, h]

theorem setUp_of_ok {name : String} {path : EntryPath} {tree : FileTree}
    (h : process.tree.openFile process.folder name = .ok (path, tree)) :
    process.setUp (some name) =
      (.ok (),
        { process with tree, opened := process.opened ++ [path] }.install (.lines (.file path))) := by
  simp only [setUp, h]

theorem step_enable_first {after : LogProcess} {name : Option String}
    (houtcome : process.outcome = none) (hsetUp : process.setUp name = (outcome, after)) :
    process.step (.enable name) =
      (some (kept outcome), { after with outcome := some (kept outcome) }) := by
  simp only [step, enable, houtcome, hsetUp]
  rfl

/-- A run from its first request on, by what that request sets up. -/
theorem runAll_from_request {after : LogProcess} {name : Option String}
    (houtcome : process.outcome = none) (hsetUp : process.setUp name = (outcome, after)) :
    (process.runAll (.enable name :: steps)).1 =
        List.replicate (steps.countP Step.isRequest + 1) (kept outcome) ∧
      after.EndsAs (emitted steps) (process.runAll (.enable name :: steps)).2 := by
  have hemit : ({ after with outcome := some (kept outcome) } : LogProcess).emit (emitted steps) =
      { after.emit (emitted steps) with outcome := some (kept outcome) } := by
    cases hlogger : after.logger with
    | none => simp only [emit, hlogger]
    | some logger =>
      cases logger with
      | foreign => simp only [emit, hlogger]
      | lines sink => cases sink <;> simp only [emit, hlogger]
  obtain ⟨houtcomes, htree, hopened, herror⟩ := @runAll_after_request
    { after with outcome := some (kept outcome) } (kept outcome) steps rfl
  rw [hemit] at htree herror
  rw [runAll_cons, step_enable_first houtcome hsetUp]
  refine ⟨?_, htree, hopened, herror⟩
  simp only
  rw [houtcomes, List.replicate_succ]
  rfl

section

variable {foreign : Bool} (hlogger : process.logger = if foreign then some .foreign else none)
  {records : List LogRecord} {final : LogProcess}

include hlogger

/-- A logger from elsewhere leaves nothing to the one that is asked for. -/
theorem EndsAs.of_install {sink : LogSink} (h : (process.install (.lines sink)).EndsAs records final) :
    { process with logger := some (.lines sink) }.EndsAs (if foreign then [] else records) final := by
  cases foreign with
  | true =>
    rw [install_of_logger hlogger] at h
    obtain ⟨htree, hopened, herror⟩ := h
    rw [emit_of_foreign hlogger] at htree herror
    constructor
    · rw [if_pos rfl, emit_nil, htree]
    · exact hopened
    · rw [if_pos rfl, emit_nil, herror]
  | false => rwa [install_of_no_logger hlogger] at h

theorem settled_standardError (h : (process.install (.lines .standardError)).EndsAs records final) :
    Settled process (if foreign then [] else records) none (.ok ()) final := by
  have hends := h.of_install hlogger
  exact .standardError hends.tree hends.opened hends.standardError

theorem settled_refused {name : String} {fault : OpenFault}
    (hopen : process.tree.openFile process.folder name = .error fault)
    (h : process.EndsAs records final) :
    Settled process (if foreign then [] else records) (some name)
      (.error (.invalid (.other (Failure.invalid (.logFile name fault.message)).message))) final := by
  have hsilent : process.emit records = process := by
    cases foreign with
    | true => exact emit_of_foreign hlogger _
    | false => exact emit_of_no_logger hlogger _
  obtain ⟨htree, hopened, herror⟩ := h
  rw [hsilent] at htree herror
  exact .refused hopen htree hopened herror

theorem settled_file {name : String} {path : EntryPath} {tree : FileTree}
    (hopen : process.tree.openFile process.folder name = .ok (path, tree))
    (h : ({ process with tree, opened := process.opened ++ [path] }.install
      (.lines (.file path))).EndsAs records final) :
    Settled process (if foreign then [] else records) (some name) (.ok ()) final := by
  obtain ⟨htext, hothers⟩ := FileTree.openFile_opens hopen
  obtain ⟨htree, hopened, herror⟩ := @EndsAs.of_install
    { process with tree, opened := process.opened ++ [path] } _ hlogger _ _ _ h
  refine .file hopen hopened herror ?_ ?_
  · rw [htree]
    exact (FileTree.text?_append ..).trans (by rw [htext]; rfl)
  · intro other hother
    rw [htree]
    exact (FileTree.find?_append_of_ne hother ..).trans (hothers other hother)

/-- The first request in a process that has no logger, or one from elsewhere. -/
theorem settled_from_request (houtcome : process.outcome = none) (name : Option String)
    (steps : List Step) :
    ∃ outcome,
      (process.runAll (.enable name :: steps)).1 =
        List.replicate (steps.countP Step.isRequest + 1) outcome ∧
      Settled process (if foreign then [] else emitted steps) name outcome
        (process.runAll (.enable name :: steps)).2 := by
  cases name with
  | none =>
    obtain ⟨houtcomes, hends⟩ := @runAll_from_request _ _ steps _ none houtcome rfl
    exact ⟨_, houtcomes, settled_standardError hlogger hends⟩
  | some name =>
    cases hopen : process.tree.openFile process.folder name with
    | error fault =>
      obtain ⟨houtcomes, hends⟩ :=
        @runAll_from_request _ _ steps _ _ houtcome (setUp_of_error hopen)
      exact ⟨_, houtcomes, settled_refused hlogger hopen hends⟩
    | ok pair =>
      obtain ⟨path, tree⟩ := pair
      obtain ⟨houtcomes, hends⟩ := @runAll_from_request _ _ steps _ _ houtcome (setUp_of_ok hopen)
      exact ⟨_, houtcomes, settled_file hlogger hopen hends⟩

end

/-- What comes before the first request is a run without an own logger. -/
theorem runAll_of_quiet (hfresh : start.Fresh) (hquiet : ∀ step ∈ steps, step.isRequest = false) :
    steps.countP Step.isRequest = 0 ∧
      start.runAll steps =
        ([], { start with logger := if steps.any Step.isForeign then some .foreign else none }) := by
  have hcount : steps.countP Step.isRequest = 0 :=
    List.countP_eq_zero.mpr fun step hstep => by rw [hquiet step hstep]; exact Bool.false_ne_true
  have hrun := @runAll_of_no_logger start (.ok ()) steps hfresh.logger fun step hstep hrequest =>
    absurd hrequest (by rw [hquiet step hstep]; exact Bool.false_ne_true)
  rw [hcount] at hrun
  exact ⟨hcount, hrun⟩

/-- How a run settles does not depend on the logger that there was at its start. -/
theorem Settled.of_logger {told : List LogRecord} {logger : Option Logger} {name : Option String}
    {final : LogProcess} (h : Settled { start with logger } told name outcome final) :
    Settled start told name outcome final := by
  cases h with
  | standardError htree hopened herror => exact .standardError htree hopened herror
  | refused hopen htree hopened herror => exact .refused hopen htree hopened herror
  | file hopen hopened herror htext hothers => exact .file hopen hopened herror htext hothers

/-- **The first request decides.** From a fresh process, any steps come to one of two ends. Without a
request nothing is opened or written. Else every request is told the outcome of the first one, which
is no failure or an invalid input; and what is opened and written is for the first request alone to
say. The records that its sink receives are those emitted after it, or none where a logger from
elsewhere was installed before it. Each of them that is not of the lowest level is written as its line
and a line break, in order, behind the text that was there. -/
theorem first_request_decides (hfresh : start.Fresh) (steps : List Step) :
    ((∀ step ∈ steps, step.isRequest = false) ∧ (start.runAll steps).1 = [] ∧
      (start.runAll steps).2.tree = start.tree ∧ (start.runAll steps).2.opened = [] ∧
      (start.runAll steps).2.standardError = start.standardError) ∨
    ∃ before name after outcome,
      steps = before ++ .enable name :: after ∧ (∀ step ∈ before, step.isRequest = false) ∧
      (start.runAll steps).1 = List.replicate (steps.countP Step.isRequest) outcome ∧
      Settled start (if before.any Step.isForeign then [] else emitted after) name outcome
        (start.runAll steps).2 ∧
      ((∀ record ∈ emitted after, '\n' ∉ record.message.toList) →
        (lines (emitted after)).toList.count '\n' =
          ((emitted after).filter (·.level ≠ .trace)).length) := by
  cases hfind : steps.find? Step.isRequest with
  | none =>
    have hquiet : ∀ step ∈ steps, step.isRequest = false := fun step hstep => by
      simpa using List.find?_eq_none.mp hfind step hstep
    rw [(runAll_of_quiet hfresh hquiet).2]
    exact .inl ⟨hquiet, rfl, rfl, hfresh.opened, rfl⟩
  | some first =>
    obtain ⟨hasks, before, after, rfl, hbefore⟩ := List.find?_eq_some_iff_append.mp hfind
    have hquiet : ∀ step ∈ before, step.isRequest = false := fun step hstep => by
      simpa using hbefore step hstep
    obtain ⟨hcount, hrun⟩ := runAll_of_quiet hfresh hquiet
    cases first with
    | installForeign => cases hasks
    | emit records => cases hasks
    | enable name =>
      obtain ⟨outcome, houtcomes, hsettled⟩ := @settled_from_request
        { start with logger := if before.any Step.isForeign then some .foreign else none }
        (before.any Step.isForeign) rfl hfresh.outcome name after
      refine .inr ⟨before, name, after, outcome, rfl, hquiet, ?_, ?_, count_lines⟩
      · rw [runAll_append, hrun, houtcomes, List.countP_append, hcount, List.countP_cons_of_pos rfl,
          Nat.zero_add]
        rfl
      · rw [runAll_append, hrun]
        exact hsettled.of_logger

/-- A logger from elsewhere, then the log in a file that is there, a record and a second request. -/
def crowded : List Step :=
  [.installForeign, .enable (some "old.log"), .emit [.exportRefused "closed"], .enable (some "new.log")]

/-- A process with a file of one line. -/
def oneLine : LogProcess where
  tree := ⟨[(["old.log"], .file "first\n")]⟩

theorem first_request_decides_crowded :
    oneLine.Fresh ∧ (oneLine.runAll crowded).1 = [.ok (), .ok ()] ∧
      (oneLine.runAll crowded).2.opened = [["old.log"]] ∧
      (oneLine.runAll crowded).2.tree.text? ["old.log"] = some "first\n" := by
  have hfresh : oneLine.Fresh := ⟨rfl, rfl, rfl⟩
  have hopen : oneLine.tree.openFile oneLine.folder "old.log" = .ok (["old.log"], oneLine.tree) := by
    rfl
  refine ⟨hfresh, ?_⟩
  rcases first_request_decides hfresh crowded with
    ⟨hnone, -⟩ | ⟨before, name, after, outcome, hsteps, hquiet, houtcomes, hsettled, -⟩
  · cases hnone (.enable (some "old.log")) (by simp [crowded])
  · match before, hsteps with
    | [_], hsteps =>
      cases hsteps
      cases hsettled with
      | refused hrefused =>
        rw [hopen] at hrefused
        cases hrefused
      | file hfound hopened _ htext _ =>
        rw [hopen] at hfound
        cases hfound
        exact ⟨houtcomes, hopened, htext⟩
    | _ :: .enable _ :: _, _ => cases hquiet _ (List.mem_cons_of_mem _ List.mem_cons_self)

end LogProcess

end BufferBridge

import ContractReplay.CommandLine.Execution
import ContractReplay.Proofs.Report.Counts
import Mathlib

/-!
# The status of a run

A run ends in one of three ways: its suite cannot be loaded, its report cannot be written where that
was asked for, or it has reported.  The rules below say when it ends in which way, by what a disk
answers.  The status of a run that reported is the one of its report, which is never that of the
other two.
-/

namespace ContractReplay.CommandLine

variable {σ : Type} {home : String} {disk : Disk (StateM σ)} {options : RunOptions} {state : σ}

/-! ## Ways to end -/

/-- How a run ends. -/
inductive RunEnd where
  | unloaded (error : SuiteError)
  | unwritten (report : Report) (error : DiskError)
  | reported (report : Report)

/-- The exit status of a run that ends in some way. -/
def RunEnd.status : RunEnd → Nat
  | .unloaded _ => 255
  | .unwritten _ _ => 255
  | .reported report => report.exitStatus

/-- What comes of loading a suite from a path, and the state that it leaves the disk in. -/
inductive Loads (disk : Disk (StateM σ)) (state : σ) :
    String → Except SuiteError Suite → σ → Prop where
  | unreadable
      {path : String}
      {failure : DiskError}
      {next : σ}
      (read : disk.read path state = (.error failure, next)) :
      Loads disk state path (.error (.unreadable path failure.message)) next
  | parsed
      {path contents : String}
      {next : σ}
      (read : disk.read path state = (.ok contents, next)) :
      Loads disk state path (Suite.parse contents) next

/-- What a run is to do: the settings, after its options, and the state after they were read. -/
def Configures
    (home : String)
    (disk : Disk (StateM σ))
    (options : RunOptions)
    (state : σ)
    (settings : Settings)
    (next : σ) : Prop :=
  ∃ contents,
    disk.read (options.settings.getD settingsFile) state = (contents, next) ∧
      settings = options.override (Settings.ofContents home contents.toOption)

/-- The report on the replay of a suite. -/
def reportOn (settings : Settings) (suite : Suite) : Report :=
  .ofResults (Demo.client.replay settings.filter settings.maxDiagnostics suite ()).1

/-- How a run ends on a disk in a state, where the program was built in some directory. -/
inductive RunEnds
    (home : String)
    (disk : Disk (StateM σ))
    (options : RunOptions)
    (state : σ) : RunEnd → Prop where
  | unloaded
      {settings : Settings}
      {error : SuiteError}
      {configured next : σ}
      (configures : Configures home disk options state settings configured)
      (loads : Loads disk configured settings.suite (.error error) next) :
      RunEnds home disk options state (.unloaded error)
  | unwritten
      {settings : Settings}
      {suite : Suite}
      {configured loaded final : σ}
      {path : String}
      {error : DiskError}
      (configures : Configures home disk options state settings configured)
      (loads : Loads disk configured settings.suite (.ok suite) loaded)
      (requested : options.reportOut = some path)
      (refused :
        disk.write path (reportOn settings suite).toJson.pretty loaded = (.error error, final)) :
      RunEnds home disk options state (.unwritten (reportOn settings suite) error)
  | written
      {settings : Settings}
      {suite : Suite}
      {configured loaded final : σ}
      {path : String}
      (configures : Configures home disk options state settings configured)
      (loads : Loads disk configured settings.suite (.ok suite) loaded)
      (requested : options.reportOut = some path)
      (written :
        disk.write path (reportOn settings suite).toJson.pretty loaded = (.ok (), final)) :
      RunEnds home disk options state (.reported (reportOn settings suite))
  | shown
      {settings : Settings}
      {suite : Suite}
      {configured loaded : σ}
      (configures : Configures home disk options state settings configured)
      (loads : Loads disk configured settings.suite (.ok suite) loaded)
      (notRequested : options.reportOut = none) :
      RunEnds home disk options state (.reported (reportOn settings suite))

/-! ## The rules hold of every run -/

theorem loadSuite_of_loads
    {path : String}
    {result : Except SuiteError Suite}
    {next : σ}
    (loads : Loads disk state path result next) :
    loadSuite disk path state = (result, next) := by
  cases loads with
  | unreadable read => simp only [loadSuite, bind, StateT.bind, read, pure, StateT.pure]
  | parsed read => simp only [loadSuite, bind, StateT.bind, read, pure, StateT.pure]

theorem exists_loads
    (disk : Disk (StateM σ))
    (state : σ)
    (path : String) :
    ∃ result next, Loads disk state path result next := by
  rcases read : disk.read path state with ⟨failure | contents, next⟩
  · exact ⟨_, _, .unreadable read⟩
  · exact ⟨_, _, .parsed read⟩

theorem exists_configures
    (home : String)
    (disk : Disk (StateM σ))
    (options : RunOptions)
    (state : σ) :
    ∃ settings next, Configures home disk options state settings next :=
  ⟨_, _, _, rfl, rfl⟩

/-- Every run ends in one of the ways. -/
theorem exists_runEnds
    (home : String)
    (disk : Disk (StateM σ))
    (options : RunOptions)
    (state : σ) :
    ∃ ending, RunEnds home disk options state ending := by
  rcases exists_configures home disk options state with ⟨settings, configured, configures⟩
  rcases exists_loads disk configured settings.suite with ⟨failure | suite, loaded, loads⟩
  · exact ⟨_, .unloaded configures loads⟩
  · cases requested : options.reportOut with
    | none => exact ⟨_, .shown configures loads requested⟩
    | some path =>
        rcases written :
            disk.write path (reportOn settings suite).toJson.pretty loaded with
          ⟨error | done, final⟩
        · exact ⟨_, .unwritten configures loads requested written⟩
        · exact ⟨_, .written configures loads requested written⟩

/-- A run has the status of the way in which it ends. -/
theorem status_executeRun
    {ending : RunEnd}
    (ends : RunEnds home disk options state ending) :
    (executeRun home disk options state).1.status = ending.status := by
  cases ends with
  | unloaded configures loads =>
      rcases configures with ⟨contents, read, rfl⟩
      have loaded := loadSuite_of_loads loads
      simp only [executeRun, loadSettings, bind, StateT.bind, read, pure, StateT.pure, loaded]
      rfl
  | unwritten configures loads requested refused =>
      rcases configures with ⟨contents, read, rfl⟩
      have loaded := loadSuite_of_loads loads
      unfold reportOn at refused
      simp only [executeRun, loadSettings, bind, StateT.bind, read, pure, StateT.pure, loaded,
        requested, refused]
      rfl
  | written configures loads requested written =>
      rcases configures with ⟨contents, read, rfl⟩
      have loaded := loadSuite_of_loads loads
      unfold reportOn at written
      simp only [executeRun, loadSettings, bind, StateT.bind, read, pure, StateT.pure, loaded,
        requested, written]
      rfl
  | shown configures loads notRequested =>
      rcases configures with ⟨contents, read, rfl⟩
      have loaded := loadSuite_of_loads loads
      simp only [executeRun, loadSettings, bind, StateT.bind, read, pure, StateT.pure, loaded,
        notRequested]
      rfl

/-- The status of a command line that asks for a run is that of the run. -/
theorem status_executeLine_run
    {arguments : List String}
    {quiet : Bool}
    (accepted : parse arguments = .ok ⟨quiet, .run options⟩) :
    (executeLine home disk arguments state).1.status =
      (executeRun home disk options state).1.status := by
  simp only [executeLine, accepted, executeInvocation, execute, bind, StateT.bind, pure,
    StateT.pure, Effect.trace]
  rfl

/-! ## What the status tells -/

/-- The report with which a run ends is one on outcomes, so that no such run has the status of
those that stopped. -/
theorem RunEnds.exitStatus_ne
    {report : Report}
    (ends : RunEnds home disk options state (.reported report)) :
    report.exitStatus ≠ 255 := by
  cases ends with
  | written => exact (Report.accountsFor_ofOutcomes _).notFatal
  | shown => exact (Report.accountsFor_ofOutcomes _).notFatal

/-- What a status tells of how a run ends. -/
structure TellsEnd
    (home : String)
    (disk : Disk (StateM σ))
    (options : RunOptions)
    (state : σ)
    (status : Nat) : Prop where
  stopped :
    status = 255 ↔
      (∃ error, RunEnds home disk options state (.unloaded error)) ∨
        ∃ report error, RunEnds home disk options state (.unwritten report error)
  reported :
    ∀ report, RunEnds home disk options state (.reported report) → status = report.exitStatus
  otherwise :
    status ≠ 255 →
      ∃ report, RunEnds home disk options state (.reported report) ∧ status = report.exitStatus

theorem tellsEnd_executeRun
    (home : String)
    (disk : Disk (StateM σ))
    (options : RunOptions)
    (state : σ) :
    TellsEnd home disk options state (executeRun home disk options state).1.status := by
  refine
    { stopped := ⟨?stops, ?stopped⟩
      reported := fun report ends => status_executeRun ends
      otherwise := ?otherwise }
  case stops =>
    intro fatal
    rcases exists_runEnds home disk options state with ⟨error | ⟨report, error⟩ | report, ends⟩
    · exact .inl ⟨error, ends⟩
    · exact .inr ⟨report, error, ends⟩
    · exact absurd ((status_executeRun ends).symm.trans fatal) ends.exitStatus_ne
  case stopped =>
    rintro (⟨error, ends⟩ | ⟨report, error, ends⟩)
    · exact status_executeRun ends
    · exact status_executeRun ends
  case otherwise =>
    intro notFatal
    rcases exists_runEnds home disk options state with ⟨error | ⟨report, error⟩ | report, ends⟩
    · exact absurd (status_executeRun ends) notFatal
    · exact absurd (status_executeRun ends) notFatal
    · exact ⟨report, ends, status_executeRun ends⟩

/-- A report accounts for the outcomes that were recorded, and the status of a run tells whether it
had to stop and, where it had not, how many cases failed. -/
theorem exit_status_tells_endings_apart :
    (∀ outcomes, (Report.ofOutcomes outcomes).AccountsFor outcomes) ∧
      ∀ {σ : Type}
        (home : String)
        (disk : Disk (StateM σ))
        (arguments : List String)
        (quiet : Bool)
        (options : RunOptions)
        (state : σ),
        parse arguments = .ok ⟨quiet, .run options⟩ →
          TellsEnd home disk options state (executeLine home disk arguments state).1.status := by
  refine ⟨Report.accountsFor_ofOutcomes, ?ofRuns⟩
  case ofRuns =>
    intro σ home disk arguments quiet options state accepted
    rw [status_executeLine_run accepted]
    exact tellsEnd_executeRun home disk options state

/-- A disk with some files, none of which can be written. -/
def readOnlyDisk (files : List (String × String)) : Disk (StateM Unit) where
  read := fun path state => ((files.lookup path).elim (.error .notFound) .ok, state)
  write := fun _ _ state => (.error (.other "Read-only file system (os error 30)"), state)

/-- The text of a suite with a case for a method that the client does not have. -/
def lostText : String :=
  "\x7b\"tests\": [\x7b\"test\": \"lost\", \"method\": \"find\"\x7d]\x7d"

/-- The suite with this case. -/
def lostSuite : Suite where
  cases := [⟨"lost", "find", [], none, none⟩]

theorem parse_lostText :
    Suite.parse lostText = .ok lostSuite := by
  with_unfolding_all rfl

/-- A disk with that text as the suite of a program that was built in `/crate`. -/
def crateDisk : Disk (StateM Unit) :=
  readOnlyDisk [("/crate/fixtures/conformance_tests.json", lostText)]

theorem loads_crateDisk :
    Loads crateDisk () "/crate/fixtures/conformance_tests.json" (.ok lostSuite) () := by
  rw [← parse_lostText]
  exact .parsed rfl

theorem configures_crateDisk
    {options : RunOptions}
    (noFile : options.settings = none) :
    Configures "/crate" crateDisk options () (options.override (.default "/crate")) () := by
  refine ⟨.error .notFound, ?_, rfl⟩
  rw [noFile]
  rfl

/-- Without its suite a run stops; with it, one failed case is counted, and the run stops when its
report cannot be written.  Three hundred failures have the greatest status failures can have. -/
theorem exit_status_tells_endings_apart_limits :
    parse ["run"] = .ok ⟨false, .run ⟨none, none, none, none, .text, none⟩⟩ ∧
      parse ["run", "--report-out", "r"] =
          .ok ⟨false, .run ⟨none, none, none, none, .text, some "r"⟩⟩ ∧
        (executeLine "/crate" (readOnlyDisk []) ["run"] ()).1.status = 255 ∧
        (executeLine "/crate" crateDisk ["run"] ()).1.status = 1 ∧
        (executeLine "/crate" crateDisk ["run", "--report-out", "r"] ()).1.status = 255 ∧
        (Report.ofOutcomes (List.replicate 300 ⟨"case", .failed 1 []⟩)).exitStatus = 254 := by
  have shown : parse ["run"] = .ok ⟨false, .run ⟨none, none, none, none, .text, none⟩⟩ := by
    cbv
  have written :
      parse ["run", "--report-out", "r"] =
        .ok ⟨false, .run ⟨none, none, none, none, .text, some "r"⟩⟩ := by
    cbv
  refine ⟨shown, written, ?missing, ?failed, ?refused, ?limited⟩
  case missing =>
    have told := exit_status_tells_endings_apart.2 "/crate" (readOnlyDisk []) _ _ _ () shown
    exact told.stopped.mpr (.inl ⟨_, .unloaded ⟨.error .notFound, rfl, rfl⟩ (.unreadable rfl)⟩)
  case failed =>
    have told := exit_status_tells_endings_apart.2 "/crate" crateDisk _ _ _ () shown
    rw [told.reported _ (.shown (configures_crateDisk rfl) loads_crateDisk rfl)]
    rfl
  case refused =>
    have told := exit_status_tells_endings_apart.2 "/crate" crateDisk _ _ _ () written
    exact
      told.stopped.mpr
        (.inr ⟨_, _, .unwritten (configures_crateDisk rfl) loads_crateDisk rfl rfl⟩)
  case limited =>
    rw [(exit_status_tells_endings_apart.1 _).status, List.countP_replicate]
    rfl

end ContractReplay.CommandLine

/-
# What a command line does

A command line that asks for a job does what the job does, and shows how it ended: an exit code, the
log, and a report when the job fails. Main statement: all that a run does and shows is told from
the job alone, whichever way the job was asked for, and a log without details is the detailed log
without its lines of details (`run_of_asks`).

A log is told from the text that is shown, line by line. That is possible because no event holds a
line feed, which is shown first: a run reports nothing but numbers and paths below its base.
-/
import ClusterConfig.CommandLine.Run
import ClusterConfig.Proofs.Agreement
import ClusterConfig.Proofs.CommandLine.Grammar
import ClusterConfig.Proofs.Text.KeyLines

namespace ClusterConfig

open Text

/-! ## Events on one line -/

/-- A text that stands on one line. -/
def IsOneLine (text : String) : Prop := '\n' ∉ text.toList

instance : DecidablePred IsOneLine := fun text => inferInstanceAs (Decidable ('\n' ∉ text.toList))

/-- Two texts on one line are one together. -/
theorem IsOneLine.append {first second : String} (hfirst : IsOneLine first)
    (hsecond : IsOneLine second) : IsOneLine (first ++ second) := by
  rw [IsOneLine, String.toList_append, List.mem_append, not_or]
  exact ⟨hfirst, hsecond⟩

/-- A number stands on one line. -/
theorem isOneLine_showNat (n : Nat) : IsOneLine (showNat n) := by
  rw [IsOneLine, showNat, String.toList_ofList]
  intro hmem
  exact absurd (isDigit_of_mem_decimal hmem) (by decide)

/-- A path stands on one line when its base and the name joined to it do. -/
theorem isOneLine_join {base : Path} {name : String} (hbase : IsOneLine base.text)
    (hname : IsOneLine name) : IsOneLine (base.join name).text := by
  have hseparator : IsOneLine base.separator := by
    unfold Path.separator
    split <;> decide
  unfold Path.join
  split
  · exact hname
  · exact (hbase.append hseparator).append hname

/-- The path that an event is about. -/
def Event.path? : Event → Option Path
  | .readingKeys path | .optionalAbsent path | .written path _ _ => some path
  | .resolved .. | .assembled .. => none

/-- An event stands on one line when its path does. -/
theorem Event.isOneLine_line {event : Event} (h : ∀ path ∈ event.path?, IsOneLine path.text) :
    IsOneLine event.line := by
  have hmessage : IsOneLine event.message := by
    cases event with
    | resolved index size layout =>
      have htitle : IsOneLine layout.title := by cases layout <;> decide
      exact ((((IsOneLine.append (by decide) (isOneLine_showNat index)).append (by decide)).append
        (isOneLine_showNat size)).append (by decide)).append htitle
    | readingKeys path => exact IsOneLine.append (by decide) (h path rfl)
    | optionalAbsent path => exact IsOneLine.append (by decide) (h path rfl)
    | assembled peers keygroups =>
      exact ((IsOneLine.append (by decide) (isOneLine_showNat peers)).append (by decide)).append
        (isOneLine_showNat keygroups)
    | written path peers keygroups =>
      exact ((((IsOneLine.append (by decide) (h path rfl)).append (by decide)).append
        (isOneLine_showNat peers)).append (by decide)).append (isOneLine_showNat keygroups)
  unfold Event.line
  split <;> exact IsOneLine.append (by decide) hmessage

/-! ## What is reported on the way -/

namespace Logged

variable {α β : Type} {P : Event → Prop}

/-- All events of a computation have a property. -/
def Reports (P : Event → Prop) (computation : Logged α) : Prop := ∀ event ∈ computation.log, P event

/-- A result is reported by no event. -/
theorem Reports.ofExcept (result : Except Failure α) : (Logged.ofExcept result).Reports P :=
  fun _ hevent => absurd hevent List.not_mem_nil

/-- A value is reported by no event. -/
theorem Reports.pure (a : α) : (Pure.pure a : Logged α).Reports P :=
  fun _ hevent => absurd hevent List.not_mem_nil

/-- What is reported is one event. -/
theorem Reports.note {event : Event} (h : P event) : (Logged.note event).Reports P := by
  intro found hfound
  rwa [List.mem_singleton.mp hfound]

/-- A sequence reports what its steps do. -/
theorem Reports.bind {first : Logged α} {next : α → Logged β} (hfirst : first.Reports P)
    (hnext : ∀ a, first.result = .ok a → (next a).Reports P) : (first >>= next).Reports P := by
  obtain ⟨log, failure | a⟩ := first
  · exact hfirst
  · intro event hevent
    rcases List.mem_append.mp hevent with hevent | hevent
    · exact hfirst event hevent
    · exact hnext a rfl event hevent

end Logged

/-- An event on the way, which stands on one line of the log. -/
structure Event.IsDetail (event : Event) : Prop where
  level_eq : event.level = .debug
  isOneLine : ∀ path ∈ event.path?, IsOneLine path.text

/-- The files of a node and of its cluster stand on one line. -/
structure Site.IsOneLine (site : Site) : Prop where
  base : ClusterConfig.IsOneLine site.base.text
  directory : ClusterConfig.IsOneLine site.directory.text

/-- The place of a node stands on one line when the base of its cluster does. -/
theorem Site.isOneLine_ofIndex {base : Path} (h : ClusterConfig.IsOneLine base.text) (index : Nat) :
    (Site.ofIndex base index).IsOneLine := by
  refine ⟨h, isOneLine_join h ?_⟩
  exact ClusterConfig.IsOneLine.append (by decide) (isOneLine_showNat index)

/-- The files of keys stand on one line. -/
theorem KeyFile.isOneLine_path {site : Site} (h : site.IsOneLine) (file : KeyFile) :
    IsOneLine (file.path site).text := by
  cases file with
  | minerSecret | signerSecret => exact isOneLine_join h.directory (by decide)
  | signers | miners | keypairs => exact isOneLine_join h.base (by decide)

/-- A file of keys is read with one detail. -/
theorem reports_readKeyFile {files : FileReader} {path : Path} (h : IsOneLine path.text) :
    (readKeyFile files path).Reports Event.IsDetail := by
  refine (Logged.Reports.note ⟨rfl, ?_⟩).bind fun _ _ => .ofExcept _
  intro found hfound
  obtain rfl := Option.some.inj hfound
  exact h

/-- A secret is read with one detail. -/
theorem reports_readSecret {files : FileReader} {path : Path} (h : IsOneLine path.text) :
    (readSecret files path).Reports Event.IsDetail :=
  (reports_readKeyFile h).bind fun _ _ => .pure _

/-- Key material is loaded with details. -/
theorem reports_load {files : FileReader} {layout : KeyLayout} {site : Site} (h : site.IsOneLine) :
    (KeyMaterial.load files layout site).Reports Event.IsDetail := by
  cases layout with
  | authority =>
    refine (reports_readSecret (KeyFile.isOneLine_path h _)).bind fun _ _ => ?_
    refine (reports_readSecret (KeyFile.isOneLine_path h _)).bind fun _ _ => ?_
    refine (reports_readKeyFile (KeyFile.isOneLine_path h _)).bind fun _ _ => ?_
    exact (reports_readKeyFile (KeyFile.isOneLine_path h _)).bind fun _ _ => .pure _
  | keypair =>
    refine (reports_readKeyFile (KeyFile.isOneLine_path h _)).bind fun _ _ => ?_
    refine (reports_readSecret (KeyFile.isOneLine_path h _)).bind fun _ _ => ?_
    refine (reports_readKeyFile (KeyFile.isOneLine_path h _)).bind fun _ _ => ?_
    exact (Logged.Reports.ofExcept _).bind fun _ _ => .pure _

/-- The time servers are read with a detail when they are absent. -/
theorem reports_readOptionalFile {files : FileReader} {path : Path} (h : IsOneLine path.text) :
    (readOptionalFile files path).Reports Event.IsDetail := by
  unfold readOptionalFile
  split
  case h_1 => exact .pure _
  case h_2 =>
    refine (Logged.Reports.note ⟨rfl, ?_⟩).bind fun _ _ => .pure _
    intro found hfound
    obtain rfl := Option.some.inj hfound
    exact h
  case h_3 => exact .ofExcept _

/-- A document is assembled with details. -/
theorem reports_assemble {files : FileReader} {layout : KeyLayout} {cluster : Cluster} {site : Site}
    {options : Options} (h : site.IsOneLine) :
    (Document.assemble files layout cluster site options).Reports Event.IsDetail := by
  unfold Document.assemble
  split
  case h_1 => exact .ofExcept _
  case h_2 =>
    refine (reports_load h).bind fun _ _ => ?_
    have htime : IsOneLine site.timeServers.text := isOneLine_join h.base (by decide)
    refine (reports_readOptionalFile htime).bind fun _ _ => ?_
    refine (Logged.Reports.ofExcept _).bind fun _ _ => ?_
    refine (Logged.Reports.ofExcept _).bind fun _ _ => ?_
    exact (Logged.Reports.note ⟨rfl, fun _ hpath => nomatch hpath⟩).bind fun _ _ => .pure _

/-- A job is planned with details. -/
theorem reports_plan {job : Job} {files : FileReader}
    (h : IsOneLine job.arguments.basePath.text) : (job.plan files).Reports Event.IsDetail := by
  unfold Job.plan
  refine (Logged.Reports.ofExcept _).bind fun (cluster, site) hresolve => ?_
  obtain ⟨index, -, -, -, -, -, -, -, rfl⟩ := Arguments.resolve_eq_ok_iff.mp hresolve
  refine (Logged.Reports.note ⟨rfl, fun _ hpath => nomatch hpath⟩).bind fun _ _ => ?_
  exact (reports_assemble (Site.isOneLine_ofIndex h index)).bind fun _ _ => .pure _

/-- What a job has reported when it has ended: the details of its plan, and after them the written
configuration when it succeeds. -/
theorem log_generate {job : Job} {tree : FileTree} :
    (∃ failure, (job.generate tree).1.result = .error failure ∧
      (job.generate tree).1.log = (job.plan tree.readText).log) ∨
    ∃ plan location, (job.plan tree.readText).result = .ok plan ∧
      tree.target plan.path = .ok location ∧
      (job.generate tree).1.log = (job.plan tree.readText).log ++
        [.written plan.path plan.document.peers.length plan.document.keygroups.length] := by
  rw [Job.generate_report]
  rcases job.plan tree.readText with ⟨log, failure | plan⟩
  · exact Or.inl ⟨failure, rfl, rfl⟩
  · rw [Logged.bind_ok]
    cases htarget : tree.target plan.path with
    | error fault => exact Or.inl ⟨_, rfl, List.append_nil _⟩
    | ok location => exact Or.inr ⟨plan, location, rfl, htarget, rfl⟩

namespace CommandLine

/-! ## The log as it is shown -/

/-- An event as it is shown, with the end of its line. -/
def shownLine (event : Event) : List Char := event.line.toList ++ ['\n']

/-- The lines of the log that a run shows. -/
def Result.logLines (result : Result) : List (List Char) := lines (result.log.flatMap shownLine)

/-- A line of the log with a detail. -/
def isDetailLine (line : List Char) : Bool := "DEBUG ".toList.isPrefixOf line

/-- Events that stand on one line each are the lines of the log. -/
theorem lines_flatMap_shownLine {log : List Event} (h : ∀ event ∈ log, IsOneLine event.line) :
    lines (log.flatMap shownLine) = log.map shownLine :=
  lines_flatMap_lineFeed h

/-- The lines with details are those of details. -/
theorem isDetailLine_shownLine (event : Event) :
    isDetailLine (shownLine event) = decide (event.level = .debug) := by
  have hinfo : "INFO ".toList = ['I', 'N', 'F', 'O', ' '] := by decide
  have hdebug : "DEBUG ".toList = ['D', 'E', 'B', 'U', 'G', ' '] := by decide
  unfold isDetailLine shownLine Event.line
  cases event.level with
  | info =>
    rw [String.toList_append, hinfo, hdebug]
    rfl
  | debug =>
    rw [String.toList_append, List.append_assoc,
      List.isPrefixOf_iff_prefix.mpr (List.prefix_append _ _)]
    rfl

/-! ## Reports -/

/-- A text whose lines after the first one are indented. -/
def indented (indent : Nat) (text : String) : List Char :=
  text.toList.flatMap fun c => if c = '\n' then '\n' :: List.replicate indent ' ' else [c]

/-- What is reported of a failure: its message, or its message and the fault underneath,
numbered. -/
def causedBy (failure : Failure) : List Char :=
  match failure.fault? with
  | none => List.replicate 4 ' ' ++ indented 4 failure.message
  | some fault =>
    List.replicate 4 ' ' ++ ['0', ':', ' '] ++ indented 7 failure.message ++
      '\n' :: List.replicate 4 ' ' ++ ['1', ':', ' '] ++ indented 7 fault.message

/-- Parts joined by a separator are the text with the separator put for the character they were
split at. -/
theorem intercalate_splitOn_eq_flatMap (separator s : List Char) (stop : Char) :
    separator.intercalate (s.splitOn stop) =
      s.flatMap fun c => if c = stop then separator else [c] := by
  induction s with
  | nil => rfl
  | cons c s ih =>
    obtain ⟨first, more, hparts⟩ := List.exists_cons_of_ne_nil (List.splitOn_ne_nil stop s)
    rw [List.splitOn_cons_eq_if_modifyHead, List.flatMap_cons, ← ih, hparts]
    by_cases hc : c = stop
    · simp [hc, List.intercalate_cons_cons]
    · simp [hc, List.intercalate_cons_cons_left]

/-- The lines of a cause after the first one are indented. -/
theorem causeChars_eq (mark : List Char) (indent : Nat) (cause : String) :
    causeChars mark (List.replicate indent ' ') cause = mark ++ indented indent cause := by
  rw [causeChars, intercalate_splitOn_eq_flatMap, indented]

/-- The causes of a failure are its message, and the fault underneath if there is one. -/
theorem intercalate_causesChars (failure : Failure) :
    ['\n'].intercalate (causesChars failure.causes) = causedBy failure := by
  unfold causedBy Failure.causes
  cases failure.fault? with
  | none =>
    change List.intercalate _ [causeChars _ (List.replicate 4 ' ') _] = _
    rw [List.intercalate_singleton, causeChars_eq]
  | some fault =>
    have hzero : decimal 0 = ['0'] := by decide
    have hone : decimal 1 = ['1'] := by decide
    change List.intercalate _ [causeChars _ (List.replicate 7 ' ') _,
      causeChars _ (List.replicate 7 ' ') _] = _
    rw [List.intercalate_cons_cons, List.intercalate_singleton, causeChars_eq, causeChars_eq]
    simp [hzero, hone]

/-- The report on a failed job. -/
theorem failureReport_eq (job : Job) (failure : Failure) :
    failureReport job failure =
      "Error: generating config of node " ++ job.arguments.nodeIndex ++ "\n\nCaused by:\n" ++
        String.ofList (causedBy failure) ++ "\n" := by
  rw [← intercalate_causesChars]
  rfl

/-! ## Runs -/

/-- How the line of the log starts that says that the configuration has been written. -/
def writtenMark : List Char := "INFO node config written ".toList

/-- The line of the log that says what has been written. -/
def writtenLine (plan : Plan) : List Char :=
  ("INFO node config written path=" ++ plan.path.text ++
    " peers=" ++ showNat plan.document.peers.length ++
    " keygroups=" ++ showNat plan.document.keygroups.length ++ "\n").toList

/-- What a run does and shows that does a job. -/
structure RunsAs (job : Job) (before : FileTree) (result : Result) (after : FileTree) : Prop where
  exitCode_zero_iff : result.exitCode = 0 ↔ ∃ path, (job.generate before).1.result = .ok path
  exitCode_one_iff :
    result.exitCode = 1 ↔ ∃ failure, (job.generate before).1.result = .error failure
  after_eq : after = (job.generate before).2
  output_eq : result.output = ""
  lastLine_iff : (∃ line, result.logLines.getLast? = some line ∧ writtenMark <+: line) ↔
    result.exitCode = 0
  /-- The last line counts the peers and the keygroups of the document that is written. -/
  lastLine_eq : result.exitCode = 0 → ∃ plan, (job.plan before.readText).result = .ok plan ∧
    after.readText plan.path = .ok plan.document.render ∧
    result.logLines.getLast? = some (writtenLine plan)
  report_of_ok : result.exitCode = 0 → result.report = ""
  report_of_error : ∀ failure, (job.generate before).1.result = .error failure →
    result.report = "Error: generating config of node " ++ job.arguments.nodeIndex ++
      "\n\nCaused by:\n" ++ String.ofList (causedBy failure) ++ "\n"

/-- The line of the event at the end of a job. -/
theorem shownLine_written (plan : Plan) :
    shownLine (.written plan.path plan.document.peers.length plan.document.keygroups.length) =
      writtenLine plan := by
  have hstart : "INFO node config written path=".toList =
      "INFO ".toList ++ "node config written path=".toList := by decide
  have hend : "\n".toList = ['\n'] := by decide
  have hline (path : Path) (peers keygroups : Nat) :
      (Event.written path peers keygroups).line =
        "INFO " ++ ("node config written path=" ++ path.text ++ " peers=" ++ showNat peers ++
          " keygroups=" ++ showNat keygroups) := rfl
  rw [shownLine, hline, writtenLine]
  simp only [String.toList_append, List.append_assoc, hstart, hend]

/-- The line of the log that says what has been written is marked. -/
theorem writtenMark_prefix_writtenLine (plan : Plan) : writtenMark <+: writtenLine plan := by
  have hstart : "INFO node config written path=".toList = writtenMark ++ "path=".toList := by decide
  simp only [writtenLine, String.toList_append, List.append_assoc, hstart]
  exact List.prefix_append _ _

/-- A detail does not say that the configuration has been written. -/
theorem not_writtenMark_of_isDetailLine {line : List Char} (h : isDetailLine line = true) :
    ¬writtenMark <+: line := by
  have hdetail : "DEBUG ".toList = 'D' :: "EBUG ".toList := by decide
  have hmark : writtenMark = 'I' :: "NFO node config written ".toList := by decide
  rintro ⟨rest, rfl⟩
  rw [isDetailLine, hdetail, hmark] at h
  contradiction

section

variable {invocation : Invocation} {tree : FileTree}

/-- No event of a job holds a line feed. -/
theorem isOneLine_of_mem_log (h : IsOneLine invocation.job.arguments.basePath.text) :
    ∀ event ∈ (invocation.job.generate tree).1.log, IsOneLine event.line := by
  have hplan : (invocation.job.plan tree.readText).Reports Event.IsDetail := reports_plan h
  have hdetail : ∀ event ∈ (invocation.job.plan tree.readText).log, IsOneLine event.line :=
    fun event hevent => Event.isOneLine_line (hplan event hevent).isOneLine
  rcases log_generate with ⟨failure, -, hlog⟩ | ⟨plan, location, hplan, -, hlog⟩
  · rwa [hlog]
  · obtain ⟨cluster, site, document, hresolve, -, rfl⟩ := Job.plan_eq_ok_iff.mp hplan
    obtain ⟨index, -, -, -, -, -, -, -, rfl⟩ := Arguments.resolve_eq_ok_iff.mp hresolve
    intro event hevent
    rw [hlog, List.mem_append, List.mem_singleton] at hevent
    rcases hevent with hevent | rfl
    · exact hdetail event hevent
    · apply Event.isOneLine_line
      intro path hpath
      obtain rfl := Option.some.inj hpath
      exact isOneLine_join (Site.isOneLine_ofIndex h index).directory (by decide)

/-- The events that are shown are events of the log. -/
theorem mem_of_mem_shownEvents {log : List Event} {event : Event}
    (h : event ∈ invocation.shownEvents log) : event ∈ log := by
  unfold Invocation.shownEvents at h
  split at h
  · exact h
  · exact (List.mem_filter.mp h).1

/-- The lines of the log of a run are the events that are shown. -/
theorem logLines_toResult (h : IsOneLine invocation.job.arguments.basePath.text) :
    (invocation.toResult (invocation.job.generate tree).1).logLines =
      (invocation.shownEvents (invocation.job.generate tree).1.log).map shownLine := by
  have hlog : (invocation.toResult (invocation.job.generate tree).1).log =
      invocation.shownEvents (invocation.job.generate tree).1.log := by
    unfold Invocation.toResult
    split <;> rfl
  rw [Result.logLines, hlog]
  exact lines_flatMap_shownLine fun event hevent =>
    isOneLine_of_mem_log h event (mem_of_mem_shownEvents hevent)

/-- The events that are shown of a log without details are those of the detailed log that are no
details. -/
theorem map_shownEvents_of_quiet (log : List Event) (h : invocation.verbose = false) :
    (invocation.shownEvents log).map shownLine =
      (log.map shownLine).filter fun line => !isDetailLine line := by
  have hlevel (event : Event) :
      decide (event.level = .info) = !isDetailLine (shownLine event) := by
    rw [isDetailLine_shownLine]
    cases event.level <;> rfl
  rw [Invocation.shownEvents, h, List.filter_map]
  simp only [Function.comp_def, ← hlevel]
  rfl

end

/-- A job that fails is shown with an exit code of one and a report, and without the line that says
what has been written. -/
theorem runsAs_of_error {invocation : Invocation} {tree : FileTree} {failure : Failure}
    (h : IsOneLine invocation.job.arguments.basePath.text)
    (hresult : (invocation.job.generate tree).1.result = .error failure)
    (hlog : (invocation.job.generate tree).1.log = (invocation.job.plan tree.readText).log) :
    RunsAs invocation.job tree (invocation.toResult (invocation.job.generate tree).1)
      (invocation.job.generate tree).2 := by
  have hplan : (invocation.job.plan tree.readText).Reports Event.IsDetail := reports_plan h
  have hexit : (invocation.toResult (invocation.job.generate tree).1).exitCode = 1 := by
    rw [Invocation.toResult, hresult]
  have hreport : (invocation.toResult (invocation.job.generate tree).1).report =
      failureReport invocation.job failure := by
    rw [Invocation.toResult, hresult]
  constructor
  case exitCode_zero_iff => simp [hexit, hresult]
  case exitCode_one_iff => simp [hexit, hresult]
  case after_eq => rfl
  case output_eq => rw [Invocation.toResult, hresult]
  case lastLine_iff =>
    rw [hexit, logLines_toResult h, hlog, List.getLast?_map]
    constructor
    · rintro ⟨line, hline, hmark⟩
      obtain ⟨event, hevent, rfl⟩ := Option.map_eq_some_iff.mp hline
      have hmem := mem_of_mem_shownEvents (List.mem_of_getLast? hevent)
      have hdetail : isDetailLine (shownLine event) = true := by
        rw [isDetailLine_shownLine, (hplan event hmem).level_eq]
        rfl
      exact absurd hmark (not_writtenMark_of_isDetailLine hdetail)
    · intro hzero
      contradiction
  case lastLine_eq => simp [hexit]
  case report_of_ok => simp [hexit]
  case report_of_error =>
    intro other hother
    obtain rfl := Except.error.inj (hresult.symm.trans hother)
    rw [hreport, failureReport_eq]

/-- A job that succeeds is shown with an exit code of zero, and the last line says what has been
written. -/
theorem runsAs_of_ok {invocation : Invocation} {tree : FileTree} {plan : Plan}
    {location : Location} (h : IsOneLine invocation.job.arguments.basePath.text)
    (hplan : (invocation.job.plan tree.readText).result = .ok plan)
    (htarget : tree.target plan.path = .ok location)
    (hlog : (invocation.job.generate tree).1.log = (invocation.job.plan tree.readText).log ++
      [.written plan.path plan.document.peers.length plan.document.keygroups.length]) :
    RunsAs invocation.job tree (invocation.toResult (invocation.job.generate tree).1)
      (invocation.job.generate tree).2 := by
  obtain ⟨hresult, hafter⟩ := Job.generate_of_plan hplan htarget
  have hexit : (invocation.toResult (invocation.job.generate tree).1).exitCode = 0 := by
    rw [Invocation.toResult, hresult]
  have hlast : (invocation.toResult (invocation.job.generate tree).1).logLines.getLast? =
      some (writtenLine plan) := by
    rw [logLines_toResult h, hlog, List.getLast?_map, ← shownLine_written]
    unfold Invocation.shownEvents
    split
    · rw [List.getLast?_append]
      rfl
    · rw [List.filter_append, List.getLast?_append]
      rfl
  constructor
  case exitCode_zero_iff => simp [hexit, hresult]
  case exitCode_one_iff => simp [hexit, hresult]
  case after_eq => rfl
  case output_eq => rw [Invocation.toResult, hresult]
  case lastLine_iff =>
    rw [hexit, hlast]
    exact ⟨fun _ => rfl, fun _ => ⟨_, rfl, writtenMark_prefix_writtenLine plan⟩⟩
  case lastLine_eq => exact fun _ => ⟨plan, hplan, hafter, hlast⟩
  case report_of_ok =>
    intro _
    rw [Invocation.toResult, hresult]
  case report_of_error => simp [hresult]

/-- What is shown of a job, and what it leaves, is told from the job. -/
theorem runsAs_toResult {invocation : Invocation} {tree : FileTree}
    (h : IsOneLine invocation.job.arguments.basePath.text) :
    RunsAs invocation.job tree (invocation.toResult (invocation.job.generate tree).1)
      (invocation.job.generate tree).2 := by
  rcases log_generate with ⟨failure, hresult, hlog⟩ | ⟨plan, location, hplan, htarget, hlog⟩
  · exact runsAs_of_error h hresult hlog
  · exact runsAs_of_ok h hplan htarget hlog

/-- A command line that is read runs its job. -/
theorem run_of_read {words : List String} {invocation : Invocation} {tree : FileTree}
    (h : Invocation.read words = .ok invocation) :
    run words tree = (invocation.toResult (invocation.job.generate tree).1,
      (invocation.job.generate tree).2) := by
  rw [run, h]

/-- A command line with two options of four, both ways of giving a value, and a positional argument
after `--`. -/
def mixedLine : Line where
  parts :=
    [.option .epochLength "+07" true, .positional "c", .positional "0",
      .option .layout "keypair" false, .positional "2", .positional "a:1,b:2", .positional "5"]
  rest := some ["7"]

/-- The same line, asking for a detailed log. -/
def mixedLineInDetail : Line := mixedLine.prepend .verbose

/-- The job that both lines ask for. -/
def mixedJob : Job where
  arguments :=
    { basePath := ⟨"c"⟩
      nodeIndex := "0"
      clusterSize := "2"
      addresses := "a:1,b:2"
      firstTiming := "5"
      secondTiming := "7" }
  layout := .keypair
  options := { epochLength := 7 }

/-- A line that differs from it in nothing but the flag asks for the job, too. -/
theorem asks_mixedJob {line : Line} {verbose : Bool} (hspelled : line.IsSpelled)
    (hpositionals : positionalsOf line.given = ["c", "0", "2", "a:1,b:2", "5", "7"])
    (hvalues : ∀ setting, valuesOf setting line.given = valuesOf setting mixedLine.given)
    (hverbose : line.given.count .verbose = if verbose then 1 else 0) :
    line.Asks ⟨mixedJob, verbose⟩ := by
  have hdigits : IsDigits ['0', '7'] := ⟨by decide, List.all_eq_true.mp (by decide)⟩
  have hnumber : NamesNumber "+07" 7 := ⟨.plus hdigits, by decide⟩
  constructor
  case spelled => exact hspelled
  case positionals => exact hpositionals
  case basePath_ne => exact (by decide : mixedJob.arguments.basePath.text ≠ "")
  case layout =>
    rw [hvalues]
    exact ⟨some .keypair, Or.inr ⟨"keypair", .keypair, rfl, Or.inr ⟨rfl, rfl⟩, rfl⟩, rfl⟩
  case epochLength =>
    rw [hvalues]
    exact ⟨some 7, Or.inr ⟨"+07", 7, rfl, hnumber, rfl⟩, rfl⟩
  case startTime =>
    rw [hvalues]
    exact ⟨none, Or.inl ⟨rfl, rfl⟩, rfl⟩
  case bufferSize =>
    rw [hvalues]
    exact Or.inl ⟨rfl, rfl⟩
  case verbose => exact hverbose

end CommandLine

end ClusterConfig

/-
A whole run on a file system.

The sources are all read and taken in before anything is written, so a run
that fails on one of them leaves every file as it was, and one that succeeds
writes what comes of the contents before the run, even where it writes over
one of its sources: `run_disk`.
-/
import PermScript.Conversion
import PermScript.Proofs.FileSystem
import PermScript.Proofs.History

namespace PermScript

open Config (Dialect Document FileError LoadError)

/-! ## Sources -/

/-- The text of a source. -/
def FileSystem.sourceText (fs : FileSystem) (stdin : Content) : Source → Except FileError String
  | .file path => fs.read path
  | .stdin => stdin.read

namespace Conversion

section Sources

variable (fs : FileSystem) (stdin : Content) (dialect : Dialect)

/-- The document that a text is. -/
def documentOfText (label text : String) : Except LoadError Document :=
  match Yaml.parse text with
  | none => .error (.malformed label)
  | some value => .ok ⟨dialect, label, value⟩

/-- The document that a source holds. -/
def documentOf (source : Source) : Except LoadError Document :=
  match fs.sourceText stdin source with
  | .error e => .error (.unreadable source.label e)
  | .ok text => documentOfText dialect source.label text

/-- Why a source does not load: it cannot be read, it is no document, or the
document cannot be taken into a roster, the same for every roster
(`Document.load_fst`). -/
def loadError? (source : Source) : Option LoadError :=
  match documentOf fs stdin dialect source with
  | .error e => some e
  | .ok doc =>
    match (doc.load ∅).1 with
    | .error e => some e
    | .ok () => none

/-- The failure of the first source that does not load. -/
def firstFailure (sources : List Source) : Option Failure :=
  sources.findSome? fun source => (loadError? fs stdin dialect source).map (.load source)

end Sources

variable {fs : FileSystem} {stdin : Content} {dialect : Dialect}

theorem loadText_eq (label text : String) (r : Roster) :
    Config.loadText dialect label text r =
      match documentOfText dialect label text with
      | .error e => (.error e, r)
      | .ok doc => doc.load r := by
  rw [Config.loadText, documentOfText]
  cases Yaml.parse text <;> rfl

/-- A source is read and taken in, and no file changes. -/
theorem loadSource_disk (source : Source) (r : Roster) :
    (loadSource (FileSystem.disk stdin) dialect source r).run fs =
      (match documentOf fs stdin dialect source with
        | .error e => (.error e, r)
        | .ok doc => doc.load r, fs) := by
  have hread : ((FileSystem.disk stdin).read source).run fs = (fs.sourceText stdin source, fs) := by
    cases source <;> rfl
  rw [loadSource, StateT.run_bind, hread, documentOf]
  cases fs.sourceText stdin source with
  | error e => rfl
  | ok text =>
    change (Config.loadText dialect source.label text r, fs) = _
    rw [loadText_eq]

/-- A source answers the same whatever the roster it is taken into. -/
theorem loadSource_answer (source : Source) (r : Roster) :
    ∃ r', (loadSource (FileSystem.disk stdin) dialect source r).run fs =
      ((match loadError? fs stdin dialect source with
        | some e => .error e
        | none => .ok (), r'), fs) := by
  rw [loadSource_disk, loadError?]
  cases documentOf fs stdin dialect source with
  | error e => exact ⟨r, rfl⟩
  | ok doc =>
    refine ⟨(doc.load r).2, congrArg (·, fs) (Prod.ext ?_ rfl)⟩
    have hsame : (doc.load r).1 = (doc.load ∅).1 := by rw [doc.load_fst, doc.load_fst]
    simp only [hsame]
    cases (doc.load ∅).1 <;> rfl

/-- A source that loads has a document, which every roster takes in. -/
theorem loadSource_of_none {source : Source} (h : loadError? fs stdin dialect source = none)
    (r : Roster) : ∃ doc r', documentOf fs stdin dialect source = .ok doc ∧
      doc.load r = (.ok (), r') ∧
      (loadSource (FileSystem.disk stdin) dialect source r).run fs = ((.ok (), r'), fs) := by
  obtain ⟨r', hrun⟩ := @loadSource_answer fs stdin dialect source r
  rw [h] at hrun
  cases hdoc : documentOf fs stdin dialect source with
  | error e =>
    rw [loadError?, hdoc] at h
    cases h
  | ok doc =>
    have htaken := (loadSource_disk source r).symm.trans hrun
    rw [hdoc] at htaken
    exact ⟨doc, r', rfl, (Prod.mk.inj htaken).1, hrun⟩

/-! ## All sources in order -/

theorem loadSources_cons_of_error {source : Source} {e : LoadError} {r r' : Roster}
    (h : (loadSource (FileSystem.disk stdin) dialect source r).run fs = ((.error e, r'), fs))
    (sources : List Source) (log : Log) :
    ∃ log', (loadSources (FileSystem.disk stdin) dialect (source :: sources) r log).run fs =
      ((.error (.load source e), log'), fs) := by
  refine ⟨log.say .debug ("reading " ++ source.label ++ " as " ++ dialect.name), ?_⟩
  rw [loadSources, StateT.run_bind, h]
  rfl

theorem loadSources_cons_of_ok {source : Source} {r r' : Roster}
    (h : (loadSource (FileSystem.disk stdin) dialect source r).run fs = ((.ok (), r'), fs))
    (sources : List Source) (log : Log) :
    ∃ log' : Log, log'.warningCount = log.warningCount ∧
      (loadSources (FileSystem.disk stdin) dialect (source :: sources) r log).run fs =
        (loadSources (FileSystem.disk stdin) dialect sources r' log').run fs := by
  refine ⟨log.say .debug ("reading " ++ source.label ++ " as " ++ dialect.name), rfl, ?_⟩
  rw [loadSources, StateT.run_bind, h]
  rfl

/-- Sources are loaded up to the first that fails, and no file changes. -/
theorem loadSources_of_failure {sources : List Source} {failure : Failure}
    (h : firstFailure fs stdin dialect sources = some failure) (r : Roster) (log : Log) :
    ∃ log', (loadSources (FileSystem.disk stdin) dialect sources r log).run fs =
      ((.error failure, log'), fs) := by
  induction sources generalizing r log with
  | nil => cases h
  | cons source sources ih =>
    rw [firstFailure, List.findSome?_cons] at h
    cases herror : loadError? fs stdin dialect source with
    | some e =>
      rw [herror] at h
      cases h
      obtain ⟨r', hload⟩ := loadSource_answer source r
      rw [herror] at hload
      exact loadSources_cons_of_error hload sources log
    | none =>
      rw [herror] at h
      obtain ⟨doc, r', -, -, hload⟩ := loadSource_of_none herror r
      obtain ⟨log₁, -, hstep⟩ := loadSources_cons_of_ok hload sources log
      obtain ⟨log', hrest⟩ := ih h r' log₁
      exact ⟨log', hstep.trans hrest⟩

/-- Sources that all load lead to the roster of their documents, without a
conversion warning in the log. -/
theorem loadSources_of_none {sources : List Source}
    (h : firstFailure fs stdin dialect sources = none) (r : Roster) (log : Log) :
    ∃ docs r' log', sources.mapM (documentOf fs stdin dialect) = .ok docs ∧
      loadAll docs r = (.ok (), r') ∧ log'.warningCount = log.warningCount ∧
      (loadSources (FileSystem.disk stdin) dialect sources r log).run fs =
        ((.ok r', log'), fs) := by
  induction sources generalizing r log with
  | nil => exact ⟨[], r, log, rfl, rfl, rfl, rfl⟩
  | cons source sources ih =>
    rw [firstFailure, List.findSome?_cons] at h
    cases herror : loadError? fs stdin dialect source with
    | some e =>
      rw [herror] at h
      cases h
    | none =>
      rw [herror] at h
      obtain ⟨doc, r₁, hdoc, htaken, hload⟩ := loadSource_of_none herror r
      obtain ⟨log₁, hcount₁, hstep⟩ := loadSources_cons_of_ok hload sources log
      obtain ⟨docs, r', log', hdocs, hall, hcount, hrest⟩ := ih h r₁ log₁
      refine ⟨doc :: docs, r', log', mapM_cons_eq_ok.2 ⟨doc, docs, hdoc, hdocs, rfl⟩, ?_,
        hcount.trans hcount₁, hstep.trans hrest⟩
      rw [loadAll, htaken]
      exact hall

/-! ## The log -/

theorem warningCount_foldl_warning (warnings : List Warning) (log : Log) :
    (warnings.foldl Log.warning log).warningCount = log.warningCount + warnings.length := by
  induction warnings generalizing log with
  | nil => rfl
  | cons w warnings ih =>
    rw [List.foldl_cons, ih, List.length_cons]
    exact Nat.add_right_comm log.warningCount 1 warnings.length

/-- Each warning of the report is counted, and nothing else is. -/
theorem warningCount_closeLog (report : Report) (path : String) (log : Log) :
    (closeLog report path log).warningCount = log.warningCount + report.warnings.length := by
  have hcount := warningCount_foldl_warning report.warnings log
  rw [closeLog]
  split
  · exact hcount
  · exact hcount

/-! ## The run -/

theorem write_disk {fs' : FileSystem} {path text : String} (h : fs.write path text = .ok fs') :
    ((FileSystem.disk stdin).write path text).run fs = (.ok (), fs') := by
  simp only [FileSystem.disk, StateT.run_bind, StateT.run_get, pure_bind, h]
  rfl

/-- If a source does not load, the run fails with the first that does not,
and no file changes. If all load and the output is an ordinary file, the run
succeeds: the output reads as the script of the roster that the documents
lead to, as they were before the run; no other file changes; and the log has
counted the warnings of the report. -/
theorem run_disk (fs : FileSystem) (stdin : Content) (options : Options) (log : Log) :
    (∀ failure,
        firstFailure fs stdin options.dialect (Source.ofPaths options.inputs) = some failure →
        ∃ log', (run (FileSystem.disk stdin) options log).run fs = ((.error failure, log'), fs)) ∧
      (firstFailure fs stdin options.dialect (Source.ofPaths options.inputs) = none →
        ∀ place, fs.Writable options.output place →
          ∃ docs r log' fs',
            (Source.ofPaths options.inputs).mapM (documentOf fs stdin options.dialect) = .ok docs ∧
            loadAll docs ∅ = (.ok (), r) ∧
            (run (FileSystem.disk stdin) options log).run fs = ((.ok (), log'), fs') ∧
            fs'.read options.output = .ok r.report.script.text ∧
            (∀ p, p ≠ place → FileSystem.entry? fs' p = FileSystem.entry? fs p) ∧
            log'.warningCount = log.warningCount + r.report.warnings.length) := by
  refine ⟨fun failure h => ?_, fun h place hplace => ?_⟩
  · obtain ⟨log', hload⟩ := loadSources_of_failure h .empty (log.stage "Loading configuration")
    refine ⟨log', ?_⟩
    rw [run, StateT.run_bind, hload]
    rfl
  · obtain ⟨docs, r, log₁, hdocs, hall, hcount, hload⟩ :=
      loadSources_of_none h .empty (log.stage "Loading configuration")
    have hwrite := FileSystem.write_of_writable hplace r.report.script.text
    refine ⟨docs, r, closeLog r.report options.output ((log₁.say .info
      (loadedText r (Source.ofPaths options.inputs).length)).stage "Writing commands"),
      fs.set place (.file (.text r.report.script.text)), hdocs, hall, ?_,
      FileSystem.read_set hplace _, fun p hp => FileSystem.entry?_set_of_ne fs _ hp, ?_⟩
    · have hdisk : ((FileSystem.disk stdin).write options.output r.report.script.text).run fs =
          (.ok (), fs.set place (.file (.text r.report.script.text))) := write_disk hwrite
      rw [run, StateT.run_bind, hload]
      change StateT.run (_ >>= _) fs = _
      rw [StateT.run_bind, hdisk]
      rfl
    · rw [warningCount_closeLog]
      exact congrArg (· + _) hcount

/-- A working directory with one configuration. -/
def archive : FileSystem := FileSystem.fresh.set ["a.yml"] (.file (.text "groups:\n  A:\n"))

/-- Reads the configuration twice and writes over it. -/
def overwriting : Options := ⟨"a.yml", ["a.yml", "./a.yml"], .pex, false⟩

/-- Asks for a file that is not there as well. -/
def incomplete : Options := ⟨"a.yml", ["a.yml", "b.yml"], .pex, false⟩

theorem archive_writable : archive.Writable "a.yml" ["a.yml"] where
  names_file := by decide
  locate_eq := by rfl
  ordinary entry h := ⟨_, (Option.some.inj h).symm⟩

theorem firstFailure_overwriting :
    firstFailure archive .binary .pex (Source.ofPaths overwriting.inputs) = none :=
  Option.isNone_iff_eq_none.1 (by decide +kernel)

theorem firstFailure_incomplete :
    firstFailure archive .binary .pex (Source.ofPaths incomplete.inputs) =
      some (.load (.file "b.yml") (.unreadable "b.yml" .notFound)) := by
  have hfirst : loadError? archive .binary .pex (.file "a.yml") = none :=
    Option.isNone_iff_eq_none.1 (by decide +kernel)
  have hsources : Source.ofPaths incomplete.inputs = [.file "a.yml", .file "b.yml"] := rfl
  rw [hsources, firstFailure, List.findSome?_cons, hfirst]
  rfl

/-- A configuration that is both read and written over is replaced by its
script, and if another one is missing it stays. -/
theorem run_archive :
    (∃ docs r log' fs',
        (Source.ofPaths overwriting.inputs).mapM (documentOf archive .binary .pex) = .ok docs ∧
        loadAll docs ∅ = (.ok (), r) ∧
        (run (FileSystem.disk .binary) overwriting {}).run archive = ((.ok (), log'), fs') ∧
        fs'.read "a.yml" = .ok r.report.script.text ∧
        (∀ p, p ≠ ["a.yml"] → FileSystem.entry? fs' p = FileSystem.entry? archive p) ∧
        log'.warningCount = 0 + r.report.warnings.length) ∧
      ∃ log', (run (FileSystem.disk .binary) incomplete {}).run archive =
        ((.error (.load (.file "b.yml") (.unreadable "b.yml" .notFound)), log'), archive) :=
  ⟨(run_disk archive .binary overwriting {}).2 firstFailure_overwriting ["a.yml"] archive_writable,
    (run_disk archive .binary incomplete {}).1 _ firstFailure_incomplete⟩

end Conversion

end PermScript

import SexprAsm.Proofs.FileAgreement
import SexprAsm.Proofs.LineEnds
import SexprAsm.Proofs.SourceArgument
import SexprAsm.Proofs.Utf8RoundTrip

/-!
# Sources from files and from the command line

A file is read with its line ends unified, and a source on the command line is taken as it is. Two
runs that are given one text in these two ways end alike, say the same and write the same files.
Only their log files differ, because the log names the source.
-/

namespace SexprAsm.CommandLine

namespace Settings

/-! ## The log file -/

def logPath (t : FileTree) (text : String) : String :=
  ((Path.ofText text).absolute (Path.ofText (Path.text ⟨"/", t.working⟩))).text

/-- Where the log goes, if there is a log file that can be written. -/
def logPlace? (s : Settings) (t : FileTree) : Option Location :=
  match given s.logFile with
  | none => none
  | some text => (t.fileToWrite (logPath t text)).toOption

def appendTo (s : Settings) (t : FileTree) (octets : List UInt8) : FileTree :=
  match s.logPlace? t with
  | none => t
  | some l => t.store l (t.octetsAt l ++ octets)

def logOctets (now : String) (records : List Record) : List UInt8 :=
  Text.Utf8.encode (String.join (records.map (·.fileLine now))).toList

section Log

variable {now : String} {s : Settings} {t u : FileTree} {l : Location}

theorem logPlace?_eq_some_iff :
    s.logPlace? t = some l ↔
      ∃ text, given s.logFile = some text ∧ t.fileToWrite (logPath t text) = .ok l := by
  unfold logPlace?
  cases given s.logFile with
  | none => simp
  | some text =>
      dsimp only
      cases hplace : t.fileToWrite (logPath t text) <;> simp [Except.toOption, hplace]

theorem find?_logPlace? (h : s.logPlace? t = some l) : t.find? l ≠ some .directory := by
  obtain ⟨text, -, hplace⟩ := logPlace?_eq_some_iff.1 h
  exact FileTree.find?_fileToWrite hplace

theorem run_appendLog {text : String} (htext : given s.logFile = some text) (octets : List UInt8) :
    ((appendLog (FileTree.host now) (Path.ofText text) octets).run t).2 = s.appendTo t octets := by
  have hworking : (FileTree.host now).workingDirectory.run t = (Path.text ⟨"/", t.working⟩, t) :=
    rfl
  unfold appendLog
  rw [run_bind, hworking]
  change (((FileTree.host now).appendFile (logPath t text) octets).run t).2 = _
  rw [FileTree.run_appendFile, appendTo, logPlace?, htext]
  dsimp only
  cases t.fileToWrite (logPath t text) <;> rfl

theorem run_discard {α : Type} (action : StateM FileTree α) (t : FileTree) :
    (discard action).run t = ((), (action.run t).2) :=
  rfl

theorem run_log (records : List Record) :
    (s.log (FileTree.host now) records).run t =
      (s.console records, s.appendTo t (logOctets now records)) := by
  cases htext : given s.logFile with
  | none =>
      have hplace : s.logPlace? t = none := by simp [logPlace?, htext]
      rw [log_of_no_file htext, appendTo, hplace]
  | some text =>
      have hnow : (FileTree.host now).now.run t = (now, t) := rfl
      unfold log
      rw [htext]
      dsimp only
      rw [run_bind, run_bind, hnow]
      dsimp only
      rw [run_discard, run_appendLog htext]
      rfl

theorem sameDirectories_appendTo (octets : List UInt8) :
    t.SameDirectories (s.appendTo t octets) := by
  unfold appendTo
  cases hplace : s.logPlace? t with
  | none => exact ⟨rfl, fun _ => Iff.rfl⟩
  | some l => exact FileTree.sameDirectories_store (find?_logPlace? hplace) _

section Agreeing

variable {places : Location → Prop} (h : t.AgreeOff places u)

include h

theorem logPlace?_eq : s.logPlace? t = s.logPlace? u := by
  unfold logPlace? logPath
  rw [h.working]
  simp only [h.fileToWrite_eq]

theorem appendTo_agree (hlog : ∀ l, s.logPlace? t = some l → places l)
    (octets octets' : List UInt8) :
    (s.appendTo t octets).AgreeOff places (s.appendTo u octets') := by
  unfold appendTo
  rw [← logPlace?_eq h]
  cases hplace : s.logPlace? t with
  | none => exact h
  | some l => exact h.store (find?_logPlace? hplace) (.inl (hlog l hplace))

theorem appendTo_agree_same (octets : List UInt8) :
    (s.appendTo t octets).AgreeOff places (s.appendTo u octets) := by
  unfold appendTo
  rw [← logPlace?_eq h]
  cases hplace : s.logPlace? t with
  | none => exact h
  | some l => exact h.append_same (find?_logPlace? hplace) octets

end Agreeing

end Log

/-! ## What the console shows -/

section Console

variable {s : Settings}

theorem console_append (records more : List Record) :
    s.console (records ++ more) = s.console records ++ s.console more := by
  simp [console]

theorem console_minor (hverbose : s.verbose = false) {records : List Record}
    (h : ∀ r ∈ records, r.level = .debug ∨ r.level = .info) : s.console records = "" := by
  have hnone : records.filter (·.reaches s.consoleLevel) = [] := by
    rw [List.filter_eq_nil_iff]
    intro r hr
    cases hquiet : s.quiet <;> rcases h r hr with hlevel | hlevel <;>
      simp [Record.reaches, consoleLevel, hverbose, hquiet, hlevel, Level.rank]
  rw [console, hnone]
  rfl

theorem level_of_mem_debugRecords {c : Compilation} {r : Record} (h : r ∈ c.debugRecords) :
    r.level = .debug := by
  rcases List.mem_append.1 h with h | h
  · obtain ⟨ts, -, rfl⟩ := Option.map_eq_some_iff.1 (Option.mem_toList.1 h)
    rfl
  · obtain ⟨tree, -, rfl⟩ := Option.map_eq_some_iff.1 (Option.mem_toList.1 h)
    rfl

end Console

/-! ## What becomes of a source -/

/-- The same product, but for the text of a dump. -/
inductive Product.Alike : Product → Product → Prop
  | dump (text text' : String) : Alike (.dump text) (.dump text')
  | failed (code : Nat) : Alike (.failed code) (.failed code)
  | listing (text : String) : Alike (.listing text) (.listing text)

structure MakesAlike (s : Settings) (made made' : List Record × Product) : Prop where
  console : s.console made.1 = s.console made'.1
  product : made.2.Alike made'.2

section Processing

variable {s : Settings} {f g : Fault}

theorem internalFault?_eq (f : Fault) :
    s.internalFault? f =
      if f.headline = none then some emptyOperatorMessage
      else if f.headline = some (.parse, "nesting too deep") ∧ s.maxDepth.isNone then
        some "'>' not supported between instances of 'int' and 'list'"
      else none := by
  cases f with
  | scan f =>
      obtain ⟨cause, pos⟩ := f
      cases cause <;> rfl
  | read f =>
      cases f <;> simp [internalFault?, Fault.headline, Fault.diagnostic?,
        ReadFault.diagnostic?, Diagnostic.phase]
  | listing f => cases f <;> rfl

theorem describe_eq (f : Fault) :
    (f.diagnostic?.map fun d => record .error d.describe) =
      f.headline.map fun (phase, detail) =>
        record .error (phase.name ++ " error: " ++ detail) := by
  rw [Fault.headline, Option.map_map]
  rfl

theorem failure_eq_of_headline (h : f.headline = g.headline) : s.failure f = s.failure g := by
  unfold failure
  rw [internalFault?_eq, internalFault?_eq, describe_eq, describe_eq, h]

theorem makesAlike_failure (h : f.headline = g.headline) :
    s.MakesAlike (s.failure f) (s.failure g) := by
  rw [failure_eq_of_headline h]
  refine ⟨rfl, ?_⟩
  unfold failure
  cases s.internalFault? g <;> exact .failed _

theorem process_of_tokens (htokens : s.tokens = true) (target : Profile) (source : String) :
    s.process target source =
      match tokenize source with
      | .ok ts => ([], .dump (Token.dump ts))
      | .error f => s.failure (.scan f) := by
  unfold process
  exact if_pos htokens

theorem process_of_ast (htokens : s.tokens = false) (hast : s.ast = true) (target : Profile)
    (source : String) :
    s.process target source =
      match Node.ofSource s.depthLimit source with
      | .ok tree => ([], .dump tree.dump)
      | .error f => s.failure f := by
  rw [process, if_neg (by simp [htokens]), if_pos hast, Node.ofSource]
  cases tokenize source with
  | error f => rfl
  | ok ts =>
      dsimp only
      cases Node.ofTokens s.depthLimit ts <;> rfl

theorem process_of_no_dump (htokens : s.tokens = false) (hast : s.ast = false) (target : Profile)
    (source : String) :
    s.process target source =
      match compile (s.compileOptions target) source with
      | .ok text => ((Compilation.run (s.compileOptions target) source).debugRecords, .listing text)
      | .error f =>
        ((Compilation.run (s.compileOptions target) source).debugRecords ++ (s.failure f).1,
          (s.failure f).2) := by
  rw [process, if_neg (by simp [htokens]), if_neg (by simp [hast])]
  rfl

theorem makesAlike_process (hverbose : s.verbose = false) (target : Profile) (source : String) :
    s.MakesAlike (s.process target (Text.unified source)) (s.process target source) := by
  have hdebug : ∀ c : Compilation, s.console c.debugRecords = "" := fun c =>
    console_minor hverbose fun r hr => .inl (level_of_mem_debugRecords hr)
  cases htokens : s.tokens with
  | true =>
      rw [process_of_tokens htokens, process_of_tokens htokens]
      rcases tokenize_unified source with ⟨ts, us, hts, hus, -⟩ | ⟨f, g, hf, hg, hcause⟩
      · rw [hts, hus]
        exact ⟨rfl, .dump _ _⟩
      · rw [hf, hg]
        exact makesAlike_failure (ScanFault.headline_eq hcause)
  | false =>
      cases hast : s.ast with
      | true =>
          rw [process_of_ast htokens hast, process_of_ast htokens hast]
          rcases ofSource_unified s.depthLimit source with
            ⟨tree, tree', htree, htree'⟩ | ⟨f, g, hf, hg, hheadline⟩
          · rw [htree, htree']
            exact ⟨rfl, .dump _ _⟩
          · rw [hf, hg]
            exact makesAlike_failure hheadline
      | false =>
          rw [process_of_no_dump htokens hast, process_of_no_dump htokens hast]
          rcases compile_unified (s.compileOptions target) source with
            ⟨text, htext, htext'⟩ | ⟨f, g, hf, hg, hheadline⟩
          · rw [htext, htext']
            exact ⟨by rw [hdebug, hdebug], .listing text⟩
          · have hfailure := makesAlike_failure (s := s) hheadline
            rw [hf, hg]
            refine ⟨?_, hfailure.product⟩
            rw [console_append, console_append, hdebug, hdebug, hfailure.console]

end Processing

/-! ## Two runs -/

/-- The runs end alike and say the same on the console. Once the log was open they have left the
same files, but for the log, and also there if a listing was written to it. -/
structure SameRun (s : Settings) (opened : FileTree) (result result' : Report × FileTree) :
    Prop where
  ending : result.1.ending = result'.1.ending
  stderr : result.1.stderr = result'.1.stderr
  files : result.2.AgreeOff (fun l => s.logPlace? opened = some l) result'.2
  output : s.tokens = false → s.ast = false → result.1.ending = .exit 0 →
    ∀ path l, given s.output = some path → opened.fileToWrite path = .ok l →
      result.2.find? l = result'.2.find? l

section Runs

variable {now : String} {s : Settings} {opened t u : FileTree}

theorem sameRun_deliver (h : t.AgreeOff (fun l => s.logPlace? opened = some l) u)
    (hdirs : opened.SameDirectories t) (source source' : Source) (listing stderr : String) :
    s.SameRun opened ((s.deliver (FileTree.host now) source listing stderr).run t)
      ((s.deliver (FileTree.host now) source' listing stderr).run u) := by
  unfold deliver
  cases houtput : given s.output with
  | none =>
      dsimp only
      rw [run_bind, run_bind, run_log, run_log]
      refine ⟨rfl, rfl, appendTo_agree_same h _, fun _ _ _ path l hpath => ?_⟩
      rw [houtput] at hpath
      cases hpath
  | some path =>
      dsimp only
      rw [run_bind, run_bind, FileTree.run_writeFile, FileTree.run_writeFile, ← h.fileToWrite_eq]
      cases hplace : t.fileToWrite path with
      | error cause =>
          refine ⟨rfl, rfl, h, fun _ _ hending => ?_⟩
          cases hending
      | ok l =>
          have hl := FileTree.find?_fileToWrite hplace
          have hagree := appendTo_agree_same (s := s)
            (h.store_same hl (Text.Utf8.encode listing.toList))
          dsimp only
          rw [run_bind, run_bind, run_log, run_log]
          refine ⟨rfl, rfl, (hagree _).mono fun k hk => hk.1, ?_⟩
          intro _ _ _ path' l' hpath' hplace'
          obtain rfl := Option.some.inj (houtput.symm.trans hpath')
          obtain rfl : l = l' := Except.ok.inj (hplace.symm.trans (hdirs.fileToWrite hplace'))
          exact (hagree _).find?_eq fun hdiffer => hdiffer.2 rfl

/-- What a run comes to once its source is read, given what the log calls the source. -/
def resultOn (s : Settings) (now name : String) (source : Source) (t : FileTree) :
    Report × FileTree :=
  let input := record .info ("Input:  " ++ name)
  match s.target with
  | none =>
    ({ ending := .breakdown .noTarget, stderr := s.console [input] },
      s.appendTo t (logOctets now [input]))
  | some target =>
    let opening := record .info ("Target: " ++ target.name ++ " - " ++ target.description)
    let made := s.process target source.text
    let stderr := s.console (input :: opening :: made.1)
    let logged := s.appendTo t (logOctets now (input :: opening :: made.1))
    match made.2 with
    | .dump text => ({ ending := .exit 0, stdout := text ++ "\n", stderr }, logged)
    | .failed code => ({ ending := .exit code, stderr }, logged)
    | .listing text => (s.deliver (FileTree.host now) source text stderr).run logged

theorem run_runOn (source : Source) :
    (s.runOn (FileTree.host now) source).run t = s.resultOn now s.sourceName source t := by
  unfold runOn resultOn
  cases s.target with
  | none =>
      dsimp only
      rw [run_bind, run_log]
      rfl
  | some target =>
      dsimp only
      rw [run_bind, run_log]
      cases (s.process target source.text).2 <;> rfl

theorem console_info (hverbose : s.verbose = false) (message : String) (records : List Record) :
    s.console (record .info message :: records) = s.console records := by
  have hnone : s.console [record .info message] = "" :=
    console_minor hverbose (by simp [record])
  rw [← List.singleton_append, console_append, hnone, String.empty_append]

theorem sameRun_resultOn (hverbose : s.verbose = false) (name name' : String)
    {source source' : Source} (hsource : source.text = Text.unified source'.text) :
    s.SameRun t (s.resultOn now name source t) (s.resultOn now name' source' t) := by
  have hlogged : ∀ octets octets',
      (s.appendTo t octets).AgreeOff (fun l => s.logPlace? t = some l) (s.appendTo t octets') :=
    appendTo_agree (.refl _ t) fun _ hl => hl
  unfold resultOn
  cases htarget : s.target with
  | none =>
      simp only [console_info hverbose]
      exact ⟨rfl, rfl, hlogged _ _, fun _ _ hending => by cases hending⟩
  | some target =>
      have hmakes := s.makes_process target (Text.unified source'.text)
      have hmade := makesAlike_process hverbose target source'.text
      simp only [console_info hverbose, hsource]
      generalize s.process target (Text.unified source'.text) = made at hmakes hmade ⊢
      generalize s.process target source'.text = made' at hmade ⊢
      obtain ⟨records, product⟩ := made
      obtain ⟨records', product'⟩ := made'
      obtain ⟨hconsole, hproduct⟩ := hmade
      simp only [hconsole]
      cases hproduct with
      | listing text => exact sameRun_deliver (hlogged _ _) (sameDirectories_appendTo _) ..
      | failed code =>
          refine ⟨rfl, rfl, hlogged _ _, fun _ _ hending => ?_⟩
          cases hmakes with
          | failed _ hcode => exact absurd (Ending.exit.inj hending) hcode
      | dump text text' =>
          refine ⟨rfl, rfl, hlogged _ _, fun htokens hast => ?_⟩
          cases hmakes with
          | dump _ hasked => simp [htokens, hast] at hasked

theorem run_runOpened {source : Source}
    (h : (s.readSource (FileTree.host now)).run t = (.ok source, t)) :
    (s.runOpened (FileTree.host now)).run t = s.resultOn now s.sourceName source t := by
  unfold runOpened
  rw [run_bind, h]
  exact run_runOn source

theorem sameRun_run (now : String) {fromFile fromText : List String} {path : String}
    {source : Source} (hfile : ofArguments fromFile = .ok (s.withSource (some path) none))
    (htext : ofArguments fromText = .ok (s.withSource none (some source)))
    (hread : t.readFile path = .ok (Text.Utf8.encode source.text.toList))
    (hverbose : s.verbose = false) :
    s.SameRun ((s.openLog (FileTree.host now)).run t).2 ((run (FileTree.host now) fromFile).run t)
      ((run (FileTree.host now) fromText).run t) := by
  have hopen : ∀ input expr,
      (s.withSource input expr).openLog (FileTree.host now) = s.openLog (FileTree.host now) :=
    fun _ _ => rfl
  have hinput : given (some path) = some path := by
    simpa [given] using FileTree.ne_empty_of_readFile hread
  have hread' := (s.onlyAdds_openLog now t).readFile hread
  unfold run
  rw [hfile, htext]
  dsimp only
  rw [hopen, hopen, run_bind, run_bind]
  generalize (s.openLog (FileTree.host now)).run t = opening at hread' ⊢
  obtain ⟨outcome, opened⟩ := opening
  cases outcome with
  | error fault =>
      exact ⟨rfl, rfl, .refl _ opened, fun _ _ hending => by cases hending⟩
  | ok _ =>
      dsimp only
      have hdecode := Text.Utf8.decode_encode source.text.toList
      rw [run_runOpened (readSource_of_reads (.file rfl hinput hread' hdecode)),
        run_runOpened (readSource_of_reads (.expr rfl))]
      exact sameRun_resultOn hverbose _ _ rfl

end Runs

end Settings

section Channels

open Settings (ofArguments given)

theorem run_of_interruption {now : String} {arguments : List String} {i : Interruption}
    {t : FileTree} (h : ofArguments arguments = .error i) :
    (run (FileTree.host now) arguments).run t = (i.report, t) := by
  unfold run
  rw [h]
  rfl

/-- The line ends of a source do not matter. With its line ends unified a source has the same
listing, or fails in the same phase with the same description. So it makes no difference whether a
text is read from a file or given on the command line between the same other arguments: both runs
end alike, show the same diagnostics, and leave the same files. They differ at most in the log,
which names the source, and not even there if the listing was written over it. -/
theorem line_ends_do_not_matter :
    (∀ (options : CompileOptions) (source : String),
      (∃ listing, compile options source = .ok listing ∧
        compile options (Text.unified source) = .ok listing) ∨
      ∃ f g d e, compile options source = .error f ∧
        compile options (Text.unified source) = .error g ∧ f.diagnostic? = some d ∧
        g.diagnostic? = some e ∧ d.phase = e.phase ∧ d.describe = e.describe) ∧
    ∀ (now : String) (t : FileTree) (before after : List String) (path text : String),
      Settings.EndComplete before → Settings.NoSource (before ++ after) →
      (∀ s, ofArguments (before ++ after) = .ok s → s.verbose = false) →
      Word.classify path = .ok (.plain path) → Word.classify text = .ok (.plain text) →
      t.readFile path = .ok (Text.Utf8.encode text.toList) →
      let fromFile := (run (FileTree.host now) (before ++ path :: after)).run t
      let fromText := (run (FileTree.host now) (before ++ "-e" :: text :: after)).run t
      fromFile.1.ending = fromText.1.ending ∧ fromFile.1.stderr = fromText.1.stderr ∧
        ∀ l, fromFile.2.find? l ≠ fromText.2.find? l →
          ∃ s, ofArguments (before ++ after) = .ok s ∧
            let opened := ((s.openLog (FileTree.host now)).run t).2
            s.logPlace? opened = some l ∧
              ¬(s.tokens = false ∧ s.ast = false ∧ fromFile.1.ending = .exit 0 ∧
                ∃ output, given s.output = some output ∧ opened.fileToWrite output = .ok l) := by
  constructor
  · intro options source
    rcases compile_unified options source with ⟨listing, h, h'⟩ | ⟨g, f, hg, hf, hheadline⟩
    · exact .inl ⟨listing, h', h⟩
    · obtain ⟨d, e, hd, he, hphase, hdescribe⟩ := describe_eq_of_headline hf hheadline.symm
      exact .inr ⟨f, g, d, e, hf, hg, hd, he, hphase, hdescribe⟩
  · intro now t before after path text hbefore hoptions hverbose hpath htext hread
    have hfromFile := Settings.ofArguments_input hbefore hoptions hpath
    have hfromText := Settings.ofArguments_expr hbefore hoptions htext
    cases hsettings : ofArguments (before ++ after) with
    | error i =>
        rw [hsettings] at hfromFile hfromText
        rw [run_of_interruption hfromFile, run_of_interruption hfromText]
        exact ⟨rfl, rfl, fun l hl => absurd rfl hl⟩
    | ok s =>
        rw [hsettings] at hfromFile hfromText
        have hsame := Settings.sameRun_run now hfromFile hfromText hread (hverbose s hsettings)
        refine ⟨hsame.ending, hsame.stderr, fun l hl => ⟨s, rfl, ?_, ?_⟩⟩
        · by_contra hplace
          exact hl (hsame.files.find?_eq hplace)
        · rintro ⟨htokens, hast, hending, output, houtput, hplace⟩
          exact hl (hsame.output htokens hast hending output l houtput hplace)

/-- A call whose lines end in two ways, one of them inside a string. -/
def mixedSource : String :=
  "(add\r\n1 \"\r\")"

def mixedTree : FileTree :=
  { entries := [(["in"], .file (Text.Utf8.encode mixedSource.toList))] }

def outputAndLog : List String :=
  ["-o", "out", "--log-file", "log"]

theorem line_ends_do_not_matter_mixed :
    Text.unified mixedSource ≠ mixedSource ∧
      mixedTree.readFile "in" = .ok (Text.Utf8.encode mixedSource.toList) ∧
      (∃ listing, compile {} mixedSource = .ok listing ∧
        compile {} (Text.unified mixedSource) = .ok listing) ∧
      ∃ report report' after after',
        (run (FileTree.host "") ("in" :: outputAndLog)).run mixedTree = (report, after) ∧
        (run (FileTree.host "") ("-e" :: mixedSource :: outputAndLog)).run mixedTree =
          (report', after') ∧
        report.ending = .exit 0 ∧ report'.ending = .exit 0 ∧ report.stderr = report'.stderr ∧
        after.find? ["out"] = after'.find? ["out"] := by
  have hsettings : ofArguments outputAndLog =
      .ok { output := some "out", logFile := some "log" } := by decide +kernel
  have hread : mixedTree.readFile "in" = .ok (Text.Utf8.encode mixedSource.toList) := by
    decide +kernel
  have hending :
      ((run (FileTree.host "") ("in" :: outputAndLog)).run mixedTree).1.ending = .exit 0 := by
    decide +kernel
  have hok : (compile {} mixedSource).isOk = true := by decide +kernel
  have hverbose : ∀ s, ofArguments outputAndLog = .ok s → s.verbose = false := by
    intro s hs
    obtain rfl := Except.ok.inj (hsettings.symm.trans hs)
    rfl
  have hnone : Settings.EndComplete [] := by
    intro words hwords
    obtain rfl := Except.ok.inj hwords
    simp [Word.EndComplete]
  obtain ⟨hcompile, hruns⟩ := line_ends_do_not_matter
  have hlisting := (hcompile {} mixedSource).resolve_right (by
    rintro ⟨f, -, -, -, hf, -⟩
    rw [hf] at hok
    cases hok)
  obtain ⟨hsame, hstderr, hfiles⟩ :=
    hruns "" mixedTree [] outputAndLog "in" mixedSource hnone
      (Settings.noSource_of_ofArguments (by decide) hsettings ⟨rfl, rfl⟩) hverbose
      (by decide +kernel) (by decide +kernel) hread
  refine ⟨by decide +kernel, hread, hlisting, _, _, _, _, rfl, rfl, hending, ?_, hstderr, ?_⟩
  · exact hsame.symm.trans hending
  · by_contra hne
    obtain ⟨s, hs, hplace, -⟩ := hfiles ["out"] hne
    obtain rfl := Except.ok.inj (hsettings.symm.trans hs)
    revert hplace
    decide +kernel

def oddSources : FileTree :=
  { entries := [(["dashed"], .file (Text.Utf8.encode "-x".toList)),
      (["stray"], .file (Text.Utf8.encode "@".toList))] }

/-- A text that looks like a switch is no source on the command line. And where the log is also the
output file, it names the source if nothing else is written there. -/
theorem channels_told_apart :
    oddSources.readFile "dashed" = .ok (Text.Utf8.encode "-x".toList) ∧
      ((run (FileTree.host "") ["dashed"]).run oddSources).1.ending = .exit 1 ∧
      ((run (FileTree.host "") ["-e", "-x"]).run oddSources).1.ending = .exit 2 ∧
      oddSources.readFile "stray" = .ok (Text.Utf8.encode "@".toList) ∧
      ((run (FileTree.host "") ["stray", "-o", "log", "--log-file", "log"]).run
          oddSources).2.find? ["log"] ≠
        ((run (FileTree.host "") ["-e", "@", "-o", "log", "--log-file", "log"]).run
          oddSources).2.find? ["log"] := by
  refine ⟨?_, ?_, ?_, ?_, ?_⟩ <;> decide +kernel

end Channels

end SexprAsm.CommandLine

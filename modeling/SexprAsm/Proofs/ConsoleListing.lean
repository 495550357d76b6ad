import SexprAsm.Proofs.Concatenation
import SexprAsm.Proofs.SourceChannel
import SexprAsm.Proofs.Styles

/-!
# Listings on the console

Without an output file a listing is printed after a comment that shows its source. The source is
shown as it is, so the comment ends with its first line. The other lines of the source stand between
the comment and the listing, and what is printed is a listing only if they could stand in one.
-/

namespace SexprAsm

namespace Text

/-- A line that may stand in a listing: a comment, or one of its lines. -/
def MayStandIn (listing line : String) : Prop :=
  isComment line = true ∨ line ∈ lines listing

instance (listing line : String) : Decidable (MayStandIn listing line) :=
  inferInstanceAs (Decidable (_ ∨ _))

end Text

/-! ## Printing a listing -/

namespace CommandLine

namespace Settings

section Printing

variable {now : String} {s : Settings} {t opened : FileTree} {source : Source} {listing : String}

theorem run_deliver_printed (houtput : given s.output = none) (stderr : String) :
    ∃ more after, (s.deliver (FileTree.host now) source listing stderr).run t =
      ({ ending := .exit 0, stdout := ";; Input code: " ++ source.shown ++ "\n" ++ listing,
         stderr := stderr ++ more }, after) := by
  unfold deliver
  rw [houtput]
  exact ⟨_, _, rfl⟩

theorem run_printed {arguments : List String} (hsettings : ofArguments arguments = .ok s)
    (houtput : given s.output = none)
    (hopen : (s.openLog (FileTree.host now)).run t = (.ok (), opened))
    (h : s.Lists (FileTree.host now) opened source listing) :
    let report := ((run (FileTree.host now) arguments).run t).1
    report.ending = .exit 0 ∧
      report.stdout = ";; Input code: " ++ source.shown ++ "\n" ++ listing := by
  intro report
  obtain ⟨target, htarget, hcompile⟩ := h.compiled
  have hread : (s.readSource (FileTree.host now)).run opened = (.ok source, opened) :=
    Prod.ext h.read (readSource_keeps (FileTree.readsOnly_host now) opened)
  have hrun : (run (FileTree.host now) arguments).run t =
      s.resultOn now s.sourceName source opened := by
    unfold run
    rw [hsettings]
    dsimp only
    rw [run_bind, hopen]
    exact run_runOpened hread
  have hproduct := process_of_compile h.tokens h.ast hcompile
  change ((run (FileTree.host now) arguments).run t).1.ending = _ ∧
    ((run (FileTree.host now) arguments).run t).1.stdout = _
  rw [hrun, resultOn, htarget]
  dsimp only
  rw [hproduct]
  obtain ⟨more, after, hdeliver⟩ := run_deliver_printed houtput _
  dsimp only
  rw [hdeliver]
  exact ⟨rfl, rfl⟩

theorem newline_not_mem_shown {arguments : List String} (hsettings : ofArguments arguments = .ok s)
    (h : s.Lists (FileTree.host now) opened source listing) (hsource : '\n' ∉ source.text.toList) :
    '\n' ∉ source.shown.toList := by
  have hreads := readSource_eq_ok_iff.1 h.read
  rcases shown_of_reads (showsExpr_of_ofArguments hsettings) hreads with hmissing | hshown
  · have hread : ((s.readSource (FileTree.host now)).run opened).1 = .ok .missing :=
      readSource_eq_ok_iff.2 (.expr hmissing)
    obtain rfl : source = .missing := Except.ok.inj (h.read.symm.trans hread)
    decide
  · rwa [hshown]

end Printing

end Settings

open Settings (ofArguments given)

/-- A listing that has no output file is printed after its source. The first line printed is a
comment with the first line of the source, then come the other lines of the source as they are, and
then the lines of the listing. So all that is printed is comments and lines of the listing exactly
if the other lines of the source are such lines by themselves, as it is for a source of one line. -/
theorem printed_listing_follows_source (now : String) (arguments : List String)
    (t opened : FileTree) (s : Settings) (source : Source) (listing : String)
    (hsettings : ofArguments arguments = .ok s) (houtput : given s.output = none)
    (hopen : (s.openLog (FileTree.host now)).run t = (.ok (), opened))
    (hlists : s.Lists (FileTree.host now) opened source listing) :
    let report := ((run (FileTree.host now) arguments).run t).1
    report.ending = .exit 0 ∧
    ∃ first more, Text.splitLines source.shown = first :: more ∧
      Text.lines report.stdout = (";; Input code: " ++ first) :: (more ++ Text.lines listing) ∧
      ((∀ line ∈ Text.lines report.stdout, Text.MayStandIn listing line) ↔
        ∀ line ∈ more, Text.MayStandIn listing line) ∧
      ('\n' ∉ source.text.toList →
        ∀ line ∈ Text.lines report.stdout, Text.MayStandIn listing line) := by
  intro report
  obtain ⟨hending, hstdout⟩ := Settings.run_printed hsettings houtput hopen hlists
  obtain ⟨first, more, hshown⟩ := List.exists_cons_of_ne_nil (Text.splitLines_ne_nil source.shown)
  have hlines : Text.lines report.stdout =
      (";; Input code: " ++ first) :: (more ++ Text.lines listing) := by
    rw [hstdout, Text.lines_append_newline, Text.splitLines_label (by decide) hshown]
    rfl
  have hvalid : (∀ line ∈ Text.lines report.stdout, Text.MayStandIn listing line) ↔
      ∀ line ∈ more, Text.MayStandIn listing line := by
    have hfirst : Text.MayStandIn listing (";; Input code: " ++ first) :=
      .inl (by simp [Text.isComment, List.isPrefixOf])
    have hlisting : ∀ line ∈ Text.lines listing, Text.MayStandIn listing line :=
      fun _ hline => .inr hline
    rw [hlines, List.forall_mem_cons, List.forall_mem_append]
    exact ⟨fun h => h.2.1, fun h => ⟨hfirst, h, hlisting⟩⟩
  refine ⟨hending, first, more, hshown, hlines, hvalid, fun hsource => hvalid.2 ?_⟩
  have hone := List.splitOn_eq_singleton (Settings.newline_not_mem_shown hsettings hlists hsource)
  obtain ⟨-, rfl⟩ : source.shown = first ∧ [] = more := by
    simpa [Text.splitLines, hone] using hshown
  simp

def endedLineTree : FileTree :=
  { entries := [(["in"], .file (Text.Utf8.encode "(f 1)\n".toList))] }

theorem printed_listing_follows_source_endedLine :
    let s : Settings := { input := some "in", keepBlankLines := true, logFile := some "log" }
    let opened : FileTree := { entries := endedLineTree.entries ++ [(["log"], .file [])] }
    let listing := Text.endLines [";; Begin program code", "\t\tSTART", "", "", "\t\tPUSH #1",
      "\t\tF", ";; exit program", "\t\tHALT"]
    let report := ((run (FileTree.host "") ["in", "--keep-blank-lines", "--log-file", "log"]).run
      endedLineTree).1
    ofArguments ["in", "--keep-blank-lines", "--log-file", "log"] = .ok s ∧
      given s.output = none ∧
      (s.openLog (FileTree.host "")).run endedLineTree = (.ok (), opened) ∧
      s.Lists (FileTree.host "") opened { text := "(f 1)\n" } listing ∧
      Text.lines report.stdout = ";; Input code: (f 1)" :: "" :: Text.lines listing ∧
      ∀ line ∈ Text.lines report.stdout, Text.MayStandIn listing line := by
  intro s opened listing report
  have hsettings : ofArguments ["in", "--keep-blank-lines", "--log-file", "log"] = .ok s := by
    decide +kernel
  have hopen : (s.openLog (FileTree.host "")).run endedLineTree = (.ok (), opened) :=
    Prod.ext (by decide +kernel) (by decide +kernel)
  have hlists : s.Lists (FileTree.host "") opened { text := "(f 1)\n" } listing :=
    ⟨rfl, rfl, by decide +kernel, .zee, rfl, by decide +kernel⟩
  obtain ⟨-, first, more, hshown, hlines, hvalid, -⟩ :=
    printed_listing_follows_source "" _ endedLineTree opened s _ listing hsettings rfl hopen hlists
  have hsplit : Text.splitLines "(f 1)\n" = ["(f 1)", ""] := by decide +kernel
  obtain ⟨rfl, rfl⟩ : "(f 1)" = first ∧ [""] = more := by simpa [hsplit] using hshown
  exact ⟨hsettings, rfl, hopen, hlists, hlines, hvalid.2 (by decide +kernel)⟩

/-- Not all that is printed can stand in a listing: a source may go on below its comment, and the
line end of a file leaves a blank line although none are kept. -/
theorem source_leaves_its_comment :
    let fromText :=
      ((run (FileTree.host "") ["-e", "(add 1\n2)", "--target", "bare"]).run {}).1
    let fromFile := ((run (FileTree.host "") ["in", "--target", "bare"]).run endedLineTree).1
    let options := CompileOptions.ofTarget "bare" false defaultMaxDepth
    compile options "(add 1\n2)" = .ok "START\nPUSH #1\nPUSH #2\nADD\nHALT\n" ∧
      fromText.ending = .exit 0 ∧ "2)" ∈ Text.lines fromText.stdout ∧
      ¬Text.MayStandIn "START\nPUSH #1\nPUSH #2\nADD\nHALT\n" "2)" ∧
      compile options "(f 1)\n" = .ok "START\nPUSH #1\nF\nHALT\n" ∧
      fromFile.ending = .exit 0 ∧ "" ∈ Text.lines fromFile.stdout ∧
      ¬Text.MayStandIn "START\nPUSH #1\nF\nHALT\n" "" := by
  refine ⟨?_, ?_, ?_, ?_, ?_, ?_, ?_, ?_⟩ <;> decide +kernel

end CommandLine

end SexprAsm

import SexprAsm.CommandLine.FileTree
import SexprAsm.Proofs.ArgumentKeep
import SexprAsm.Proofs.ExitCode

/-!
# Files that a run leaves alone

A run that keeps no log writes at most one file, once, and only when it has a listing to put into
it. So a run that ends in any other way leaves all files as they were and the console empty.
-/

namespace SexprAsm.CommandLine

namespace FileTree

theorem lookup_map_replace (entries : List (Location × Entry)) (l k : Location) (entry : Entry) :
    (entries.map fun (k, e) => if k = l then (k, entry) else (k, e)).lookup k =
      if k = l then (entries.lookup k).map fun _ => entry else entries.lookup k := by
  induction entries with
  | nil => simp
  | cons first entries ih =>
      obtain ⟨place, e⟩ := first
      rw [List.map_cons]
      by_cases hk : k = place
      · subst hk
        by_cases hl : k = l <;> simp [hl]
      · have hbeq : (k == place) = false := beq_eq_false_iff_ne.2 hk
        by_cases hl : place = l
        · subst hl
          simpa [List.lookup_cons, hbeq] using ih
        · simpa [List.lookup_cons, hbeq, hl] using ih

theorem lookup_insert (t : FileTree) (l k : Location) (entry : Entry) :
    (t.insert l entry).entries.lookup k = if k = l then some entry else t.entries.lookup k := by
  unfold insert
  dsimp only
  by_cases hthere : t.entries.any (·.1 = l) = true
  · rw [if_pos hthere, lookup_map_replace]
    by_cases hk : k = l
    · subst hk
      have hsome : (t.entries.lookup k).isSome := by
        obtain ⟨e, he, hplace⟩ := List.any_eq_true.1 hthere
        apply List.lookup_isSome_iff.2
        exact ⟨e, he, by simpa using (of_decide_eq_true hplace).symm⟩
      obtain ⟨old, hold⟩ := Option.isSome_iff_exists.1 hsome
      simp [hold]
    · simp [hk]
  · rw [if_neg hthere, List.lookup_append]
    by_cases hk : k = l
    · subst hk
      have hnone : t.entries.lookup k = none := by
        apply List.lookup_eq_none_iff.2
        intro e he
        have hne : k ≠ e.1 := fun h => hthere (List.any_eq_true.2 ⟨e, he, decide_eq_true h.symm⟩)
        simpa using hne
      simp [hnone]
    · simp [hk, List.lookup_cons, beq_eq_false_iff_ne.2 hk]

theorem find?_insert {t : FileTree} {l : Location} (hl : ¬l.isPrefixOf t.working) (k : Location)
    (entry : Entry) :
    (t.insert l entry).find? k = if k = l then some entry else t.find? k := by
  have hworking : (t.insert l entry).working = t.working := rfl
  unfold find?
  rw [hworking, lookup_insert]
  by_cases hk : k = l
  · subst hk
    simp [hl]
  · simp [hk]

/-- Storing changes the file at its location, which may only be a sink, and nothing else. -/
theorem find?_store {t : FileTree} {l : Location} (hl : t.find? l ≠ some .directory)
    (octets : List UInt8) (k : Location) :
    (t.store l octets).find? k =
      if k = l ∧ t.find? l ≠ some .sink then some (.file octets) else t.find? k := by
  unfold store
  by_cases hsink : t.find? l = some .sink
  · simp [hsink]
  · have hworking : ¬l.isPrefixOf t.working := by
      intro h
      simp [find?, h] at hl
    rw [if_neg hsink, find?_insert hworking]
    simp [hsink]

theorem find?_fileToWrite {t : FileTree} {path : String} {l : Location}
    (h : t.fileToWrite path = .ok l) : t.find? l ≠ some .directory := by
  unfold fileToWrite at h
  split at h
  · cases h
  · obtain ⟨parent, -, h⟩ := bind_eq_ok_iff.1 h
    split at h
    · cases h
    · obtain ⟨l', -, h⟩ := bind_eq_ok_iff.1 h
      split at h
      · cases h
      · rename_i hfile
        obtain rfl := Except.ok.inj h
        exact hfile

theorem run_readFile (now : String) (t : FileTree) (path : String) :
    ((host now).readFile path).run t =
      match t.readFile path with
      | .ok octets => (.ok octets, t)
      | .error cause => (.error ⟨cause, path⟩, t) := by
  change ((t.readFile path).mapError (HostFault.mk · path), t) = _
  cases t.readFile path <;> rfl

theorem run_writeFile (now : String) (t : FileTree) (path : String) (octets : List UInt8) :
    ((host now).writeFile path octets).run t =
      match t.fileToWrite path with
      | .ok l => (.ok (), t.store l octets)
      | .error cause => (.error ⟨cause, path⟩, t) := by
  change attempt path (·.writeFile path octets) t = _
  unfold attempt writeFile
  dsimp only
  cases t.fileToWrite path <;> rfl

end FileTree

def Host.ReadsOnly {σ : Type} (host : Host (StateM σ)) : Prop :=
  ∀ path disk, ((host.readFile path).run disk).2 = disk

theorem FileTree.readsOnly_host (now : String) : (host now).ReadsOnly :=
  fun _ _ => rfl

namespace Settings

theorem process_of_compile {s : Settings} {target : Profile} {source listing : String}
    (htokens : s.tokens = false) (hast : s.ast = false)
    (h : compile (s.compileOptions target) source = .ok listing) :
    (s.process target source).2 = .listing listing := by
  have houtcome : (Compilation.run (s.compileOptions target) source).outcome = .ok listing := h
  simp [process, htokens, hast, houtcome]

def console (s : Settings) (records : List Record) : String :=
  String.join ((records.filter (·.reaches s.consoleLevel)).map (·.consoleLine))

section Runs

variable {σ : Type} {host : Host (StateM σ)} {s : Settings}

theorem openLog_of_no_file (hlog : given s.logFile = none) (disk : σ) :
    (s.openLog host).run disk = (.ok (), disk) := by
  unfold openLog
  rw [hlog]
  rfl

theorem log_of_no_file (hlog : given s.logFile = none) (records : List Record) (disk : σ) :
    (s.log host records).run disk = (s.console records, disk) := by
  unfold log
  rw [hlog]
  rfl

/-- The settings ask for a listing and neither dump, and the source is read and compiles. -/
structure Lists (s : Settings) (host : Host (StateM σ)) (disk : σ) (source : Source)
    (listing : String) : Prop where
  tokens : s.tokens = false
  ast : s.ast = false
  read : ((s.readSource host).run disk).1 = .ok source
  compiled : ∃ target, s.target = some target ∧
    compile (s.compileOptions target) source.text = .ok listing

theorem readSource_keeps (hhost : host.ReadsOnly) (disk : σ) :
    ((s.readSource host).run disk).2 = disk := by
  unfold readSource
  split
  · rfl
  · rfl
  · rename_i path _ _
    have hread := hhost path disk
    rw [run_bind]
    generalize (host.readFile path).run disk = found at hread
    obtain ⟨found, disk'⟩ := found
    obtain rfl : disk' = disk := hread
    cases found with
    | error f => rfl
    | ok octets =>
        dsimp only
        cases Text.Utf8.decode octets <;> rfl

theorem runOpened_of_lists (hhost : host.ReadsOnly) (hlog : given s.logFile = none) {disk : σ}
    {source : Source} {listing : String} (h : s.Lists host disk source listing) :
    ∃ stderr, (s.runOpened host).run disk = (s.deliver host source listing stderr).run disk := by
  obtain ⟨target, htarget, hcompile⟩ := h.compiled
  have hread : (s.readSource host).run disk = (.ok source, disk) :=
    Prod.ext h.read (readSource_keeps hhost disk)
  have hproduct := process_of_compile h.tokens h.ast hcompile
  unfold runOpened
  rw [run_bind, hread]
  dsimp only
  unfold runOn
  rw [htarget]
  dsimp only
  generalize s.process target source.text = made at hproduct
  obtain ⟨records, product⟩ := made
  obtain rfl : product = .listing listing := hproduct
  rw [run_bind, log_of_no_file hlog]
  exact ⟨_, rfl⟩

/-- The disk stays as it is, and nothing is printed unless a dump was asked for. -/
structure WritesNothing (s : Settings) (disk : σ) (result : Report × σ) : Prop where
  disk : result.2 = disk
  dump : result.1.ending = .exit 0 → s.tokens = true ∨ s.ast = true
  stdout : result.1.ending ≠ .exit 0 → result.1.stdout = ""

theorem writesNothing_of_ending {disk : σ} {ending : Ending} (hending : ending ≠ .exit 0)
    (stderr : String) : s.WritesNothing disk ({ ending, stderr }, disk) where
  disk := rfl
  dump h := absurd h hending
  stdout _ := rfl

theorem runOn_of_no_listing (hlog : given s.logFile = none) {source : Source}
    (h : ∀ target listing, s.target = some target →
      ¬s.Makes target source.text (.listing listing)) (disk : σ) :
    s.WritesNothing disk ((s.runOn host source).run disk) := by
  unfold runOn
  cases htarget : s.target with
  | none =>
      dsimp only
      rw [run_bind, log_of_no_file hlog]
      exact writesNothing_of_ending (by simp) _
  | some target =>
      have hmakes := s.makes_process target source.text
      dsimp only
      generalize s.process target source.text = made at hmakes
      obtain ⟨records, product⟩ := made
      rw [run_bind, log_of_no_file hlog]
      cases hmakes with
      | dump text hdump => exact ⟨rfl, fun _ => hdump, fun hending => absurd rfl hending⟩
      | failed code hcode => exact writesNothing_of_ending (by simpa using hcode) _
      | listing text htokens hast hcompile =>
          exact absurd (.listing text htokens hast hcompile) (h target text htarget)

theorem runOpened_of_no_listing (hhost : host.ReadsOnly) (hlog : given s.logFile = none) {disk : σ}
    (h : ∀ source listing, ¬s.Lists host disk source listing) :
    s.WritesNothing disk ((s.runOpened host).run disk) := by
  have hkeeps := readSource_keeps (s := s) hhost disk
  unfold runOpened
  rw [run_bind, hkeeps]
  cases hread : ((s.readSource host).run disk).1 with
  | ok source =>
      apply runOn_of_no_listing hlog
      intro target listing htarget hmakes
      cases hmakes with
      | listing _ htokens hast hcompile =>
          exact h source listing ⟨htokens, hast, hread, target, htarget, hcompile⟩
  | error b =>
      cases b with
      | host f =>
          dsimp only
          split
          · exact writesNothing_of_ending (by simp) ""
          · rw [run_bind, log_of_no_file hlog]
            exact writesNothing_of_ending (by simp) _
      | encoding f => exact writesNothing_of_ending (by simp) ""
      | noTarget => exact writesNothing_of_ending (by simp) ""

theorem run_eq_runOpened {arguments : List String} (hsettings : ofArguments arguments = .ok s)
    (hlog : given s.logFile = none) (disk : σ) :
    (run host arguments).run disk = (s.runOpened host).run disk := by
  unfold run
  rw [hsettings]
  dsimp only
  rw [run_bind, openLog_of_no_file hlog]

end Runs

section Delivery

variable {now : String} {s : Settings} {t : FileTree}

/-- Where a listing goes: to the console after its source, or else into the output file alone. If
that cannot be opened, the run breaks off. -/
inductive Delivers (s : Settings) (t : FileTree) (source : Source) (listing : String) :
    Report → FileTree → Prop
  | printed (stderr : String) (h : given s.output = none) :
      Delivers s t source listing
        { ending := .exit 0, stderr,
          stdout := ";; Input code: " ++ source.shown ++ "\n" ++ listing }
        t
  | written (stderr path : String) (l : Location) (h : given s.output = some path)
      (hplace : t.fileToWrite path = .ok l) :
      Delivers s t source listing { ending := .exit 0, stderr }
        (t.store l (Text.Utf8.encode listing.toList))
  | refused (stderr path : String) (cause : HostCause) (h : given s.output = some path)
      (hplace : t.fileToWrite path = .error cause) :
      Delivers s t source listing { ending := .breakdown (.host ⟨cause, path⟩), stderr } t

theorem delivers_deliver (hlog : given s.logFile = none) (source : Source)
    (listing stderr : String) :
    s.Delivers t source listing ((s.deliver (FileTree.host now) source listing stderr).run t).1
      ((s.deliver (FileTree.host now) source listing stderr).run t).2 := by
  unfold deliver
  cases houtput : given s.output with
  | none =>
      dsimp only
      rw [run_bind, log_of_no_file hlog]
      exact .printed _ houtput
  | some path =>
      dsimp only
      rw [run_bind, FileTree.run_writeFile]
      cases hplace : t.fileToWrite path with
      | error cause => exact .refused stderr path cause houtput hplace
      | ok l =>
          dsimp only
          rw [run_bind, log_of_no_file hlog]
          exact .written _ path l houtput hplace

theorem run_of_lists {arguments : List String} {source : Source} {listing : String}
    (hsettings : ofArguments arguments = .ok s) (hlog : given s.logFile = none)
    (h : s.Lists (FileTree.host now) t source listing) :
    s.Delivers t source listing ((run (FileTree.host now) arguments).run t).1
      ((run (FileTree.host now) arguments).run t).2 := by
  obtain ⟨stderr, hrun⟩ := runOpened_of_lists (FileTree.readsOnly_host now) hlog h
  rw [run_eq_runOpened hsettings hlog, hrun]
  exact delivers_deliver hlog source listing stderr

namespace Delivers

variable {source : Source} {listing : String} {report : Report} {after : FileTree}

theorem find?_ne (h : s.Delivers t source listing report after) {l : Location}
    (hl : after.find? l ≠ t.find? l) :
    (∃ path, given s.output = some path ∧ t.fileToWrite path = .ok l) ∧
      after.find? l = some (.file (Text.Utf8.encode listing.toList)) ∧
      report.ending = .exit 0 ∧ report.stdout = "" := by
  cases h with
  | printed => exact absurd rfl hl
  | refused => exact absurd rfl hl
  | written stderr path place houtput hplace =>
      rw [FileTree.find?_store (FileTree.find?_fileToWrite hplace)] at hl ⊢
      split at hl
      · rename_i hhere
        obtain rfl := hhere.1
        exact ⟨⟨path, houtput, hplace⟩, if_pos hhere, rfl, rfl⟩
      · exact absurd rfl hl

theorem eq_of_ending_ne (h : s.Delivers t source listing report after)
    (hending : report.ending ≠ .exit 0) : after = t ∧ report.stdout = "" := by
  cases h with
  | printed => exact absurd rfl hending
  | written => exact absurd rfl hending
  | refused => exact ⟨rfl, rfl⟩

theorem stdout_eq (h : s.Delivers t source listing report after) (houtput : given s.output = none) :
    report.stdout = ";; Input code: " ++ source.shown ++ "\n" ++ listing := by
  cases h with
  | printed => rfl
  | written _ _ _ hpath => simp [houtput] at hpath
  | refused _ _ _ hpath => simp [houtput] at hpath

theorem find?_eq (h : s.Delivers t source listing report after) {path : String} {l : Location}
    (houtput : given s.output = some path) (hplace : t.fileToWrite path = .ok l)
    (hsink : t.find? l ≠ some .sink) :
    after.find? l = some (.file (Text.Utf8.encode listing.toList)) := by
  cases h with
  | printed _ hpath => simp [houtput] at hpath
  | refused _ _ _ hpath hcause =>
      obtain rfl := Option.some.inj (houtput.symm.trans hpath)
      simp [hplace] at hcause
  | written _ _ _ hpath hplace' =>
      obtain rfl := Option.some.inj (houtput.symm.trans hpath)
      obtain rfl := Except.ok.inj (hplace.symm.trans hplace')
      rw [FileTree.find?_store (FileTree.find?_fileToWrite hplace)]
      simp [hsink]

end Delivers

end Delivery

theorem Lists.change_output {σ : Type} {host : Host (StateM σ)} {disk : σ} {s : Settings}
    {source : Source} {listing : String} (h : s.Lists host disk source listing)
    (output : Option String) : { s with output }.Lists host disk source listing :=
  ⟨h.tokens, h.ast, h.read, h.compiled⟩

/-- Which text the source is: the one among the arguments, else what the input file holds, decoded
and with its line ends unified, else the demonstration. -/
inductive Reads (s : Settings) (t : FileTree) : Source → Prop
  | expr {source : Source} (hexpr : s.expr = some source) : Reads s t source
  | file {path : String} {octets : List UInt8} {cs : List Char} (hexpr : s.expr = none)
      (hinput : given s.input = some path) (hread : t.readFile path = .ok octets)
      (hdecode : Text.Utf8.decode octets = .ok cs) :
      Reads s t { text := String.ofList (Text.unifyNewlines cs) }
  | demo (hexpr : s.expr = none) (hinput : given s.input = none) :
      Reads s t { text := demoSource }

section Source

variable {now : String} {s : Settings} {t : FileTree} {source : Source}

theorem readSource_of_reads (h : s.Reads t source) :
    (s.readSource (FileTree.host now)).run t = (.ok source, t) := by
  unfold readSource
  cases h with
  | expr hexpr =>
      rw [hexpr]
      rfl
  | demo hexpr hinput =>
      rw [hexpr, hinput]
      rfl
  | file hexpr hinput hread hdecode =>
      rw [hexpr, hinput]
      dsimp only
      rw [run_bind, FileTree.run_readFile, hread]
      dsimp only
      rw [hdecode]
      rfl

theorem readSource_eq_ok_iff :
    ((s.readSource (FileTree.host now)).run t).1 = .ok source ↔ s.Reads t source := by
  refine ⟨fun h => ?_, fun h => by rw [readSource_of_reads h]⟩
  unfold readSource at h
  cases hexpr : s.expr with
  | some expr =>
      rw [hexpr] at h
      obtain rfl := Except.ok.inj h
      exact .expr hexpr
  | none =>
      rw [hexpr] at h
      cases hinput : given s.input with
      | none =>
          rw [hinput] at h
          obtain rfl := Except.ok.inj h
          exact .demo hexpr hinput
      | some path =>
          rw [hinput] at h
          dsimp only at h
          rw [run_bind, FileTree.run_readFile] at h
          cases hread : t.readFile path with
          | error cause =>
              rw [hread] at h
              cases h
          | ok octets =>
              rw [hread] at h
              dsimp only at h
              cases hdecode : Text.Utf8.decode octets with
              | error f =>
                  rw [hdecode] at h
                  cases h
              | ok cs =>
                  rw [hdecode] at h
                  obtain rfl := Except.ok.inj h
                  exact .file hexpr hinput hread hdecode

theorem shown_of_reads (hs : s.ShowsExpr) (h : s.Reads t source) :
    s.expr = some .missing ∨ source.shown = source.text := by
  cases h with
  | expr hexpr => simpa [hexpr] using hs source hexpr
  | file => exact .inr rfl
  | demo => exact .inr rfl

end Source

end Settings

theorem Interruption.stdout_report {i : Interruption} (h : i.report.ending ≠ .exit 0) :
    i.report.stdout = "" := by
  cases i with
  | help => exact absurd rfl h
  | version => exact absurd rfl h
  | fault f => rfl

section Outcome

open Settings (ofArguments given)

variable {now : String} {arguments : List String} {t after : FileTree} {report : Report}

theorem given_logFile_eq_none {s : Settings} (hlog : Switch.logFile.isAmong arguments = false)
    (hsettings : ofArguments arguments = .ok s) : given s.logFile = none := by
  rw [Settings.logFile_eq_none hlog hsettings]
  rfl

theorem run_delivers {s : Settings} {source : Source} {listing : String}
    (hlog : Switch.logFile.isAmong arguments = false)
    (hrun : (run (FileTree.host now) arguments).run t = (report, after))
    (hsettings : ofArguments arguments = .ok s)
    (h : s.Lists (FileTree.host now) t source listing) :
    s.Delivers t source listing report after := by
  have hdelivers := Settings.run_of_lists hsettings (given_logFile_eq_none hlog hsettings) h
  rwa [hrun] at hdelivers

/-- How a run without a log file goes: it stops at the arguments, it has no listing and writes
nothing, or it has one and delivers it. -/
theorem run_cases (hlog : Switch.logFile.isAmong arguments = false)
    (hrun : (run (FileTree.host now) arguments).run t = (report, after)) :
    (∃ i, ofArguments arguments = .error i ∧ (report, after) = (i.report, t)) ∨
      ∃ s, ofArguments arguments = .ok s ∧
        (s.WritesNothing t (report, after) ∨
          ∃ source listing, s.Lists (FileTree.host now) t source listing ∧
            s.Delivers t source listing report after) := by
  cases hsettings : ofArguments arguments with
  | error i =>
      left
      refine ⟨i, rfl, ?_⟩
      rw [← hrun]
      unfold run
      rw [hsettings]
      rfl
  | ok s =>
      right
      refine ⟨s, rfl, ?_⟩
      by_cases hlists : ∃ source listing, s.Lists (FileTree.host now) t source listing
      · obtain ⟨source, listing, h⟩ := hlists
        exact .inr ⟨source, listing, h, run_delivers hlog hrun hsettings h⟩
      · have hfile := given_logFile_eq_none hlog hsettings
        left
        rw [← hrun, Settings.run_eq_runOpened hsettings hfile]
        apply Settings.runOpened_of_no_listing (FileTree.readsOnly_host now) hfile
        exact fun source listing h => hlists ⟨source, listing, h⟩

theorem run_find?_ne (hlog : Switch.logFile.isAmong arguments = false)
    (hrun : (run (FileTree.host now) arguments).run t = (report, after)) {l : Location}
    (hl : after.find? l ≠ t.find? l) :
    ∃ s path source listing, ofArguments arguments = .ok s ∧ given s.output = some path ∧
      t.fileToWrite path = .ok l ∧ s.Lists (FileTree.host now) t source listing ∧
      after.find? l = some (.file (Text.Utf8.encode listing.toList)) ∧
      report.ending = .exit 0 ∧ report.stdout = "" := by
  rcases run_cases hlog hrun with ⟨i, -, hreport⟩ | ⟨s, hsettings, hnothing | hsome⟩
  · obtain ⟨-, rfl⟩ := Prod.mk.inj hreport
    exact absurd rfl hl
  · obtain rfl : after = t := hnothing.disk
    exact absurd rfl hl
  · obtain ⟨source, listing, hlists, hdelivers⟩ := hsome
    obtain ⟨⟨path, houtput, hplace⟩, hrest⟩ := hdelivers.find?_ne hl
    exact ⟨s, path, source, listing, hsettings, houtput, hplace, hlists, hrest⟩

theorem run_of_ending_ne (hlog : Switch.logFile.isAmong arguments = false)
    (hrun : (run (FileTree.host now) arguments).run t = (report, after))
    (hending : report.ending ≠ .exit 0) : after = t ∧ report.stdout = "" := by
  rcases run_cases hlog hrun with ⟨i, -, hreport⟩ | ⟨s, -, hnothing | hsome⟩
  · obtain ⟨rfl, rfl⟩ := Prod.mk.inj hreport
    exact ⟨rfl, Interruption.stdout_report hending⟩
  · exact ⟨hnothing.disk, hnothing.stdout hending⟩
  · obtain ⟨source, listing, -, hdelivers⟩ := hsome
    exact hdelivers.eq_of_ending_ne hending

theorem run_lists {s : Settings} (hlog : Switch.logFile.isAmong arguments = false)
    (hrun : (run (FileTree.host now) arguments).run t = (report, after))
    (hsettings : ofArguments arguments = .ok s) (htokens : s.tokens = false)
    (hast : s.ast = false) (hending : report.ending = .exit 0) :
    ∃ source listing, s.Lists (FileTree.host now) t source listing ∧
      s.Delivers t source listing report after := by
  rcases run_cases hlog hrun with ⟨i, hno, -⟩ | ⟨s', hs', hnothing | hsome⟩
  · simp [hsettings] at hno
  · obtain rfl := Except.ok.inj (hsettings.symm.trans hs')
    have hdump := hnothing.dump hending
    simp [htokens, hast] at hdump
  · obtain rfl := Except.ok.inj (hsettings.symm.trans hs')
    exact hsome

theorem run_with_output {s : Settings} {arguments' : List String} {source : Source}
    {listing path : String} {l : Location} (hlog : Switch.logFile.isAmong arguments = false)
    (hsettings : ofArguments arguments = .ok s)
    (h : s.Lists (FileTree.host now) t source listing)
    (hsettings' : ofArguments arguments' = .ok { s with output := some path }) (hpath : path ≠ "")
    (hplace : t.fileToWrite path = .ok l) (hsink : t.find? l ≠ some .sink) :
    ((run (FileTree.host now) arguments').run t).2.find? l =
      some (.file (Text.Utf8.encode listing.toList)) := by
  have hfile := given_logFile_eq_none hlog hsettings
  have houtput : given (some path) = some path := by simp [given, hpath]
  have hdelivers := Settings.run_of_lists hsettings' hfile (h.change_output (some path))
  exact hdelivers.find?_eq houtput hplace hsink

/-- A run without a log file leaves files alone unless it succeeds. What it changes is the output
file and nothing else, and that only with a listing in hand: the file then holds the listing and
nothing else, the run ends well and the console stays empty. However else a run ends, nothing has
changed and the console is empty. A listing that has no output file is printed after its source,
and it is the one that an output file would have got. The source is the text among the arguments,
else what the input file holds, with its line ends unified, else the demonstration. -/
theorem run_leaves_files_alone (now : String) (arguments : List String) (t after : FileTree)
    (report : Report) (hlog : Switch.logFile.isAmong arguments = false)
    (hrun : (run (FileTree.host now) arguments).run t = (report, after)) :
    (∀ l, after.find? l ≠ t.find? l →
      ∃ s path source listing, ofArguments arguments = .ok s ∧ given s.output = some path ∧
        t.fileToWrite path = .ok l ∧ s.Lists (FileTree.host now) t source listing ∧
        after.find? l = some (.file (Text.Utf8.encode listing.toList)) ∧
        report.ending = .exit 0 ∧ report.stdout = "") ∧
    (report.ending ≠ .exit 0 → after = t ∧ report.stdout = "") ∧
    (∀ s source listing, ofArguments arguments = .ok s →
      s.Lists (FileTree.host now) t source listing →
      s.Delivers t source listing report after ∧
        ∀ path l, given s.output = some path → t.fileToWrite path = .ok l →
          t.find? l ≠ some .sink →
          after.find? l = some (.file (Text.Utf8.encode listing.toList))) ∧
    (∀ s, ofArguments arguments = .ok s → s.tokens = false → s.ast = false →
      given s.output = none → report.ending = .exit 0 →
      ∃ source listing, s.Lists (FileTree.host now) t source listing ∧
        report.stdout = ";; Input code: " ++ source.shown ++ "\n" ++ listing ∧
        (s.expr = some .missing ∨ source.shown = source.text) ∧
        ∀ arguments' path l, ofArguments arguments' = .ok { s with output := some path } →
          path ≠ "" → t.fileToWrite path = .ok l → t.find? l ≠ some .sink →
          ((run (FileTree.host now) arguments').run t).2.find? l =
            some (.file (Text.Utf8.encode listing.toList))) ∧
    ∀ (s : Settings) (source : Source),
      ((s.readSource (FileTree.host now)).run t).1 = .ok source ↔ s.Reads t source := by
  refine ⟨fun l hl => run_find?_ne hlog hrun hl, run_of_ending_ne hlog hrun, ?_, ?_,
    fun _ _ => Settings.readSource_eq_ok_iff⟩
  · intro s source listing hsettings hlists
    have hdelivers := run_delivers hlog hrun hsettings hlists
    exact ⟨hdelivers, fun path l houtput hplace hsink => hdelivers.find?_eq houtput hplace hsink⟩
  · intro s hsettings htokens hast houtput hending
    obtain ⟨source, listing, hlists, hdelivers⟩ :=
      run_lists hlog hrun hsettings htokens hast hending
    have hshows : s.ShowsExpr := Settings.showsExpr_of_ofArguments hsettings
    refine ⟨source, listing, hlists, hdelivers.stdout_eq houtput, ?_, ?_⟩
    · exact Settings.shown_of_reads hshows (Settings.readSource_eq_ok_iff.1 hlists.read)
    · intro arguments' path l hsettings' hpath hplace hsink
      exact run_with_output hlog hsettings hlists hsettings' hpath hplace hsink

def programTree : FileTree :=
  { entries := [(["in"], .file (Text.Utf8.encode "(add 1)".toList)), (["log"], .file [])] }

/-- A program may be replaced by its listing: it is read before the file is opened. -/
theorem run_leaves_files_alone_overwritten :
    let listing :=
      ";; Begin program code\n\t\tSTART\n\t\tPUSH #1\n\t\tADD\n;; exit program\n\t\tHALT\n"
    Switch.logFile.isAmong ["in", "-o", "in"] = false ∧ ∃ report after,
      (run (FileTree.host "") ["in", "-o", "in"]).run programTree = (report, after) ∧
        after.find? ["in"] = some (.file (Text.Utf8.encode listing.toList)) ∧
        after.find? ["in"] ≠ programTree.find? ["in"] ∧ report.stdout = "" ∧
        ∀ l, after.find? l ≠ programTree.find? l → programTree.fileToWrite "in" = .ok l := by
  intro listing
  let s : Settings := { input := some "in", output := some "in" }
  have hlog : Switch.logFile.isAmong ["in", "-o", "in"] = false := by decide +kernel
  have hsettings : ofArguments ["in", "-o", "in"] = .ok s := by decide +kernel
  -- from here on the result of the run is not computed
  generalize hrun : (run (FileTree.host "") ["in", "-o", "in"]).run programTree = result
  obtain ⟨report, after⟩ := result
  obtain ⟨hframe, -, hlisted, -, hsource⟩ :=
    run_leaves_files_alone "" _ programTree after report hlog hrun
  have hread : programTree.readFile "in" = .ok (Text.Utf8.encode "(add 1)".toList) := by
    decide +kernel
  have hdecode : Text.Utf8.decode (Text.Utf8.encode "(add 1)".toList) = .ok "(add 1)".toList := by
    decide +kernel
  have htext : String.ofList (Text.unifyNewlines "(add 1)".toList) = "(add 1)" := by
    decide +kernel
  have hreads : s.Reads programTree { text := "(add 1)" } :=
    htext ▸ .file rfl rfl hread hdecode
  have hlists : s.Lists (FileTree.host "") programTree { text := "(add 1)" } listing :=
    ⟨rfl, rfl, (hsource s _).2 hreads, .zee, rfl, by decide +kernel⟩
  have hplace : programTree.fileToWrite "in" = .ok ["in"] := by decide +kernel
  have hfile := (hlisted s _ _ hsettings hlists).2 "in" ["in"] rfl hplace (by decide +kernel)
  have hchanged : after.find? ["in"] ≠ programTree.find? ["in"] := by
    rw [hfile]
    decide +kernel
  obtain ⟨_, _, _, _, -, -, -, -, -, -, hstdout⟩ := hframe ["in"] hchanged
  refine ⟨hlog, report, after, rfl, hfile, hchanged, hstdout, ?_⟩
  intro l hl
  obtain ⟨s', path, _, _, hs, hpath, hplace, -⟩ := hframe l hl
  obtain rfl := Except.ok.inj (hsettings.symm.trans hs)
  obtain ⟨rfl, -⟩ : "in" = path ∧ path ≠ "" := by simpa [s, given] using hpath
  exact hplace

end Outcome

end SexprAsm.CommandLine

import SexprAsm.Proofs.FileFrame

/-!
# Trees that agree

Two relations between file trees. A tree extends another if everything that is in the other is also
in it: directories can be made and files opened without anything being lost. Two trees agree off
some places if they differ at most in the contents of files there. Paths lead to the same places in
both, so whatever one can write the other can.
-/

namespace SexprAsm.CommandLine

namespace FileTree

/-! ## Paths and directories -/

section Directories

variable {t u : FileTree}

theorem follow_of_directories
    (h : ∀ l, t.find? l = some .directory → u.find? l = some .directory) {l k : Location}
    {names : List String} (hfollow : t.follow l names = .ok k) : u.follow l names = .ok k := by
  induction names generalizing l with
  | nil => exact hfollow
  | cons name names ih =>
      rw [follow] at hfollow ⊢
      split at hfollow
      · cases hfollow
      · next hdirectory =>
          rw [h l hdirectory]
          dsimp only
          cases hstep : Location.step l name with
          | error cause => simp [hstep] at hfollow
          | ok next =>
              rw [hstep] at hfollow
              exact ih hfollow
      · cases hfollow

structure SameDirectories (t u : FileTree) : Prop where
  working : t.working = u.working
  directory_iff : ∀ l, t.find? l = some .directory ↔ u.find? l = some .directory

theorem ne_empty_of_readFile {path : String} {octets : List UInt8}
    (h : t.readFile path = .ok octets) : path ≠ "" := by
  rintro rfl
  have hobstacle : pathObstacle? "" = some .notFound := by decide
  rw [readFile, resolve, hobstacle] at h
  cases h

theorem start_of_working (h : t.working = u.working) (path : String) :
    t.start path = u.start path := by
  unfold start
  rw [h]

theorem SameDirectories.fileToWrite (h : t.SameDirectories u) {path : String} {l : Location}
    (hplace : t.fileToWrite path = .ok l) : u.fileToWrite path = .ok l := by
  unfold FileTree.fileToWrite at hplace ⊢
  cases hobstacle : pathObstacle? path with
  | some cause => simp [hobstacle] at hplace
  | none =>
      rw [hobstacle] at hplace
      dsimp only at hplace ⊢
      obtain ⟨parent, hparent, hplace⟩ := bind_eq_ok_iff.1 hplace
      refine bind_eq_ok_iff.2 ⟨parent, ?_, ?_⟩
      · rw [← start_of_working h.working]
        exact follow_of_directories (fun l => (h.directory_iff l).1) hparent
      · split at hplace
        · cases hplace
        next hbare =>
        obtain ⟨place, hstep, hplace⟩ := bind_eq_ok_iff.1 hplace
        rw [if_neg hbare]
        refine bind_eq_ok_iff.2 ⟨place, hstep, ?_⟩
        rwa [← if_congr (h.directory_iff place) rfl rfl]

theorem working_store (t : FileTree) (l : Location) (octets : List UInt8) :
    (t.store l octets).working = t.working := by
  unfold store
  split <;> rfl

theorem sameDirectories_store {l : Location} (hl : t.find? l ≠ some .directory)
    (octets : List UInt8) : t.SameDirectories (t.store l octets) where
  working := (working_store t l octets).symm
  directory_iff k := by
    rw [find?_store hl]
    split
    · next hhere =>
        obtain rfl := hhere.1
        simp [hl]
    · rfl

end Directories

/-! ## Trees that grow -/

/-- Whatever is in the first tree is in the second one too. -/
structure Extends (t u : FileTree) : Prop where
  working : t.working = u.working
  find? : ∀ l entry, t.find? l = some entry → u.find? l = some entry

section Growing

variable {t u : FileTree}

theorem Extends.refl (t : FileTree) : t.Extends t :=
  ⟨rfl, fun _ _ h => h⟩

theorem Extends.trans {v : FileTree} (h : t.Extends u) (h' : u.Extends v) : t.Extends v :=
  ⟨h.working.trans h'.working, fun l entry hl => h'.find? l entry (h.find? l entry hl)⟩

theorem Extends.resolve (h : t.Extends u) {path : String} {l : Location}
    (hresolve : t.resolve path = .ok l) : u.resolve path = .ok l := by
  unfold FileTree.resolve at hresolve ⊢
  split at hresolve
  · cases hresolve
  · rw [← start_of_working h.working]
    exact follow_of_directories (fun k => h.find? k .directory) hresolve

theorem Extends.readFile (h : t.Extends u) {path : String} {octets : List UInt8}
    (hread : t.readFile path = .ok octets) : u.readFile path = .ok octets := by
  unfold FileTree.readFile at hread ⊢
  cases hresolve : t.resolve path with
  | error cause => simp [hresolve] at hread
  | ok l =>
      rw [h.resolve hresolve]
      rw [hresolve] at hread
      dsimp only at hread ⊢
      cases hentry : t.find? l with
      | none => simp [hentry] at hread
      | some entry =>
          rw [h.find? l entry hentry]
          rwa [hentry] at hread

theorem extends_insert {l : Location} (hl : t.find? l = none) (entry : Entry) :
    t.Extends (t.insert l entry) where
  working := rfl
  find? k old hk := by
    have hworking : ¬l.isPrefixOf t.working := by
      intro hin
      simp [FileTree.find?, hin] at hl
    have hne : k ≠ l := by
      rintro rfl
      simp [hl] at hk
    rw [find?_insert hworking, if_neg hne, hk]

theorem extends_store_octetsAt {l : Location} (hl : t.find? l ≠ some .directory) :
    t.Extends (t.store l (t.octetsAt l ++ [])) where
  working := (working_store t l _).symm
  find? k entry hk := by
    rw [find?_store hl]
    split
    · next hhere =>
        obtain ⟨rfl, hsink⟩ := hhere
        cases entry with
        | directory => exact absurd hk hl
        | sink => exact absurd hk hsink
        | file octets => simp [octetsAt, hk]
    · exact hk

end Growing

/-- Whatever tree the action is run on, it only adds to it. -/
def OnlyAdds {α : Type} (action : StateM FileTree α) : Prop :=
  ∀ t : FileTree, t.Extends (action.run t).2

section OnlyAdding

variable {α β : Type} {now : String}

theorem onlyAdds_pure (a : α) : OnlyAdds (pure a) :=
  fun t => Extends.refl t

theorem OnlyAdds.bind {first : StateM FileTree α} {next : α → StateM FileTree β}
    (hfirst : OnlyAdds first) (hnext : ∀ a, OnlyAdds (next a)) : OnlyAdds (first >>= next) :=
  fun t => (hfirst t).trans (hnext _ _)

theorem onlyAdds_attempt {path : String} {change : FileTree → Except HostCause FileTree}
    (h : ∀ t t', change t = .ok t' → t.Extends t') : OnlyAdds (attempt path change) := by
  intro t
  change t.Extends (attempt path change t).2
  unfold attempt
  cases hchange : change t with
  | error cause => exact Extends.refl t
  | ok t' => exact h t t' hchange

theorem extends_makeDirectory {t t' : FileTree} {path : String}
    (h : t.makeDirectory path = .ok t') : t.Extends t' := by
  unfold makeDirectory at h
  split at h
  · cases h
  · split at h
    · cases h
    · next hl =>
        obtain rfl := Except.ok.inj h
        exact extends_insert hl .directory

theorem onlyAdds_makeDirectory (path : String) : OnlyAdds ((host now).makeDirectory path) :=
  onlyAdds_attempt fun _ _ => extends_makeDirectory

theorem onlyAdds_isDirectory (path : String) : OnlyAdds ((host now).isDirectory path) :=
  fun t => Extends.refl t

theorem onlyAdds_ensureDirectory (path : String)
    {onMissing : HostFault → StateM FileTree (Except HostFault Unit)}
    (hmissing : ∀ fault, OnlyAdds (onMissing fault)) :
    OnlyAdds ((host now).ensureDirectory path onMissing) := by
  apply (onlyAdds_makeDirectory path).bind
  rintro (fault | _)
  · dsimp only
    split
    · exact hmissing fault
    · apply (onlyAdds_isDirectory path).bind
      rintro (_ | _)
      · exact onlyAdds_pure _
      · exact onlyAdds_pure _
  · exact onlyAdds_pure _

theorem onlyAdds_makeDirectories (root : String) (segments : List String) :
    OnlyAdds ((host now).makeDirectories root segments) := by
  induction segments with
  | nil => exact onlyAdds_ensureDirectory _ fun fault => onlyAdds_pure _
  | cons segment outer ih =>
      apply onlyAdds_ensureDirectory
      intro _
      apply ih.bind
      rintro (fault | _)
      · exact onlyAdds_pure _
      · exact onlyAdds_ensureDirectory _ fun fault => onlyAdds_pure _

theorem extends_appendFile_nil {t t' : FileTree} {path : String}
    (h : t.appendFile path [] = .ok t') : t.Extends t' := by
  obtain ⟨l, hplace, rfl⟩ := map_eq_ok_iff.1 h
  exact extends_store_octetsAt (find?_fileToWrite hplace)

theorem onlyAdds_appendFile_nil (path : String) : OnlyAdds ((host now).appendFile path []) :=
  onlyAdds_attempt fun _ _ => extends_appendFile_nil

theorem onlyAdds_workingDirectory : OnlyAdds (host now).workingDirectory :=
  fun t => Extends.refl t

end OnlyAdding

theorem run_appendFile (now : String) (t : FileTree) (path : String) (octets : List UInt8) :
    ((host now).appendFile path octets).run t =
      match t.fileToWrite path with
      | .ok l => (.ok (), t.store l (t.octetsAt l ++ octets))
      | .error cause => (.error ⟨cause, path⟩, t) := by
  change attempt path (·.appendFile path octets) t = _
  unfold attempt appendFile
  dsimp only
  cases t.fileToWrite path <;> rfl

/-! ## Trees that agree off some places -/

/-- The trees have the same entries, but for the contents of files at some places. -/
structure AgreeOff (places : Location → Prop) (t u : FileTree) : Prop where
  working : t.working = u.working
  find? : ∀ l, t.find? l = u.find? l ∨
    places l ∧ ∃ a b, t.find? l = some (.file a) ∧ u.find? l = some (.file b)

namespace AgreeOff

variable {places : Location → Prop} {t u : FileTree}

theorem refl (places : Location → Prop) (t : FileTree) : t.AgreeOff places t :=
  ⟨rfl, fun _ => .inl rfl⟩

theorem mono {places' : Location → Prop} (h : t.AgreeOff places u)
    (hplaces : ∀ l, places l → places' l) : t.AgreeOff places' u :=
  ⟨h.working, fun l => (h.find? l).imp_right fun hl => ⟨hplaces l hl.1, hl.2⟩⟩

theorem find?_eq (h : t.AgreeOff places u) {l : Location} (hl : ¬places l) :
    t.find? l = u.find? l :=
  (h.find? l).resolve_right fun hdiffer => hl hdiffer.1

/-- No entry can be told from the one in the other tree but for a file. -/
theorem find?_iff (h : t.AgreeOff places u) {l : Location} {entry : Option Entry}
    (hentry : ∀ octets, entry ≠ some (.file octets)) : t.find? l = entry ↔ u.find? l = entry := by
  rcases h.find? l with hsame | ⟨-, a, b, ha, hb⟩
  · rw [hsame]
  · rw [ha, hb]
    exact iff_of_false (hentry a).symm (hentry b).symm

theorem sameDirectories (h : t.AgreeOff places u) : t.SameDirectories u :=
  ⟨h.working, fun _ => h.find?_iff (by simp)⟩

theorem not_directory (h : t.AgreeOff places u) {l : Location}
    (hl : t.find? l ≠ some .directory) : u.find? l ≠ some .directory :=
  mt (h.sameDirectories.directory_iff l).2 hl

theorem follow_eq (h : t.AgreeOff places u) (l : Location) (names : List String) :
    t.follow l names = u.follow l names := by
  induction names generalizing l with
  | nil => rfl
  | cons name names ih =>
      rw [follow, follow]
      rcases h.find? l with hsame | ⟨-, a, b, ha, hb⟩
      · simp only [hsame, ih]
      · rw [ha, hb]

theorem fileToWrite_eq (h : t.AgreeOff places u) (path : String) :
    t.fileToWrite path = u.fileToWrite path := by
  unfold fileToWrite
  simp only [h.follow_eq, start_of_working h.working, h.sameDirectories.directory_iff]

theorem store (h : t.AgreeOff places u) {l : Location} (hl : t.find? l ≠ some .directory)
    {a b : List UInt8} (hplace : places l ∨ a = b) :
    (t.store l a).AgreeOff places (u.store l b) := by
  have hl' : u.find? l ≠ some .directory := h.not_directory hl
  have hsink : t.find? l = some .sink ↔ u.find? l = some .sink := h.find?_iff (by simp)
  refine ⟨?_, fun k => ?_⟩
  · rw [working_store, working_store, h.working]
  · rw [find?_store hl, find?_store hl']
    simp only [Ne, hsink]
    by_cases hhere : k = l ∧ ¬u.find? l = some .sink
    · rw [if_pos hhere, if_pos hhere]
      rcases hplace with hplace | rfl
      · exact .inr ⟨hhere.1 ▸ hplace, a, b, rfl, rfl⟩
      · exact .inl rfl
    · rw [if_neg hhere, if_neg hhere]
      exact h.find? k

theorem except (h : t.AgreeOff places u) {l : Location} (hl : t.find? l = u.find? l) :
    t.AgreeOff (fun k => places k ∧ k ≠ l) u := by
  refine ⟨h.working, fun k => ?_⟩
  by_cases hk : k = l
  · exact .inl (hk ▸ hl)
  · exact (h.find? k).imp_right fun hdiffer => ⟨⟨hdiffer.1, hk⟩, hdiffer.2⟩

theorem store_same (h : t.AgreeOff places u) {l : Location} (hl : t.find? l ≠ some .directory)
    (octets : List UInt8) :
    (t.store l octets).AgreeOff (fun k => places k ∧ k ≠ l) (u.store l octets) := by
  apply (h.store hl (.inr rfl)).except
  have hl' : u.find? l ≠ some .directory := h.not_directory hl
  have hsink : t.find? l = some .sink ↔ u.find? l = some .sink := h.find?_iff (by simp)
  rw [find?_store hl, find?_store hl']
  by_cases hstays : t.find? l = some .sink
  · simp [hstays, hsink.1 hstays]
  · simp [hstays, mt hsink.2 hstays]

theorem octetsAt_eq (h : t.AgreeOff places u) {l : Location} (hl : ¬places l) :
    t.octetsAt l = u.octetsAt l := by
  rw [octetsAt, octetsAt, h.find?_eq hl]

theorem append_same (h : t.AgreeOff places u) {l : Location} (hl : t.find? l ≠ some .directory)
    (octets : List UInt8) :
    (t.store l (t.octetsAt l ++ octets)).AgreeOff places
      (u.store l (u.octetsAt l ++ octets)) := by
  by_cases hplace : places l
  · exact h.store hl (.inl hplace)
  · exact h.store hl (.inr (by rw [h.octetsAt_eq hplace]))

end AgreeOff

end FileTree

theorem Settings.onlyAdds_openLog (s : Settings) (now : String) :
    FileTree.OnlyAdds (s.openLog (FileTree.host now)) := by
  unfold openLog
  cases given s.logFile with
  | none => exact FileTree.onlyAdds_pure _
  | some text =>
      apply (FileTree.onlyAdds_makeDirectories _ _).bind
      rintro (fault | _)
      · exact FileTree.onlyAdds_pure _
      · apply FileTree.onlyAdds_workingDirectory.bind
        intro working
        exact FileTree.onlyAdds_appendFile_nil _

end SexprAsm.CommandLine

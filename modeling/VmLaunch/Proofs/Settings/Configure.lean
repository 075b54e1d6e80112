import VmLaunch.CommandLine.Run
import VmLaunch.Proofs.Settings.Stored

/-!
# Settings are changed by what is given

`configure` reads the settings, takes the project and the zone that are given and writes the
settings where it read them. The file is written only once everything that is given was taken, and
the log, which is opened first, lies beside it. What the file then says is what later runs fall
back on; nothing that the rest of the host holds comes before it.
-/

namespace VmLaunch

namespace Settings

variable {settings : Settings}

/-- A file that is put somewhere does not move the settings. -/
theorem path?_put (host : Host) (place : Place) (text : String) :
    path? (host.put place text) = path? host :=
  rfl

/-- Settings are stored in the file of a path. Whoever reads that file has them, now or later, and
where they name a project or a zone a run without flags has it on whatever host. -/
structure StoredAt (settings : Settings) (path : String) (host : Host) : Prop where
  stored : loadFrom host path = .ok settings
  lasting : ∀ later : Host, later.read? path = host.read? path →
    loadFrom later path = .ok settings ∧ (path? later = some path → load later = settings)
  project : ∀ later, ∀ project ∈ settings.project, settings.effectiveProject later none = project
  zone : ∀ later, ∀ zone ∈ settings.zone, settings.effectiveZone later none = zone

/-- Settings that are loaded from a file are stored there for good. -/
theorem storedAt_of_loadFrom {host : Host} {path : String}
    (stored : loadFrom host path = .ok settings) : settings.StoredAt path host where
  stored := stored
  lasting later same := by
    have again : loadFrom later path = .ok settings := (loadFrom_congr same).trans stored
    exact ⟨again, fun known => load_of_loadFrom known again⟩
  project later project kept := by simp [effectiveProject, Option.mem_def.mp kept]
  zone later zone kept := by simp [effectiveZone, Option.mem_def.mp kept]

end Settings

namespace CommandLine

variable {host opened : Host} {place : Place} {path : String} {settings : Settings}
  {level : LogLevel}

/-- Opening the log changes nothing or puts a file beside the settings. -/
theorem openLog_cases (known : Settings.path? host = some path)
    (found : host.filePlace path = .ok place) (done : openLog host level = .ok opened) :
    opened = host ∨ ∃ beside text, beside ≠ place ∧ host.isDirectory beside.dropLast = true ∧
      opened = host.put beside text := by
  obtain ⟨directory, kept, rfl⟩ := Option.map_eq_some_iff.mp known
  have logged : logPath host = Host.within directory "gce-provisioner.log" := by
    simp [logPath, kept]
  have settingsName : Host.IsFileName "config.json" := by decide
  have logName : Host.IsFileName "gce-provisioner.log" := by decide
  obtain ⟨beside, leads, apart⟩ :=
    Host.leads_within_of_leads_within settingsName logName (Host.leads_of_filePlace found)
  rw [openLog, logged] at done
  by_cases off : level = .off
  · rw [if_pos off] at done
    exact .inl (Except.ok.inj done).symm
  · rw [if_neg off, Host.append_run leads] at done
    cases there : host.filePlace (Host.within directory "gce-provisioner.log") with
    | error cause => simp [there] at done
    | ok logPlace =>
      have same : logPlace = beside :=
        Except.ok.inj ((Host.leads_of_filePlace there).symm.trans leads)
      simp only [there, Except.ok.injEq] at done
      subst same
      exact .inr ⟨logPlace, _, apart (by decide), leads.isDirectory_dropLast, done.symm⟩

/-- The settings are where they were when the log is open, and they are what they were. -/
theorem openLog_keeps (known : Settings.path? host = some path)
    (found : host.filePlace path = .ok place) (done : openLog host level = .ok opened) :
    Settings.path? opened = some path ∧ opened.filePlace path = .ok place ∧
      opened.read? path = host.read? path := by
  rcases openLog_cases known found done with rfl | ⟨beside, text, apart, lies, rfl⟩
  · exact ⟨known, found, rfl⟩
  · have differ : host.filePlace path ≠ .ok beside := by
      rw [found]
      exact fun same => apart (Except.ok.inj same).symm
    exact ⟨(Settings.path?_put host beside text).trans known,
      (Host.filePlace_put lies text).mpr found, Host.read?_put_of_ne lies differ text⟩

/-- What `configure` comes to when the settings could be changed: they are printed and stored, and
every other file is as it was. -/
structure Configured (before : Host) (path : String) (saved : Settings) (report : Report) :
    Prop where
  result : report.result = .ok (printed saved.encode)
  text : report.host.read? path = some saved.text
  kept : saved.StoredAt path report.host
  environment : report.host.environment = before.environment
  located : report.host.locate = before.locate
  others : ∀ other, before.filePlace other ≠ before.filePlace path →
    report.host.read? other = before.read? other

/-- What `configure` comes to when the project has not the form of one: it fails before the
settings have changed, in the run or on the host. -/
structure Refused (before : Host) (settings : Settings) (project : String) (zone : Option String)
    (report : Report) : Prop where
  result : report.result = .error (.settings (.badProject project))
  unchanged : (Settings.adopt (some project) zone).run settings =
    .error (.badProject project) settings
  host : report.host = before

/-- With a valid project, or none, `configure` stores what is given. -/
theorem configured_of_valid {s : Surroundings} {project zone : Option String}
    (given : project.isSome ∨ zone.isSome) (known : Settings.path? s.host = some path)
    (found : s.host.filePlace path = .ok place)
    (valid : ∀ named ∈ project, isProjectId named = true) :
    Configured s.host path (settings.replaced project zone) (configure s settings project zone) := by
  have asked : (project.isNone && zone.isNone) = false := by
    cases project <;> cases zone <;> simp_all
  have report : configure s settings project zone =
      ⟨.ok (printed (settings.replaced project zone).encode),
        s.host.put place (settings.replaced project zone).text, []⟩ := by
    simp [configure, asked, Settings.update, Settings.adopt_run_of_valid valid,
      Settings.save_run known found]
  rw [report]
  have read := Host.read?_put found (settings.replaced project zone).text
  exact {
    result := rfl
    text := read
    kept := Settings.storedAt_of_loadFrom (Settings.loadFrom_of_read? read)
    environment := rfl
    located := rfl
    others := fun other apart => by
      have differ : s.host.filePlace other ≠ .ok place := found ▸ apart
      exact Host.read?_put_of_ne (Host.leads_of_filePlace found).isDirectory_dropLast differ _ }

/-- With an invalid project `configure` fails and changes nothing. -/
theorem refused_of_invalid {project : String} (invalid : isProjectId project = false)
    (s : Surroundings) (settings : Settings) (zone : Option String) :
    Refused s.host settings project zone (configure s settings (some project) zone) := by
  have unchanged := Settings.adopt_run_of_invalid invalid zone settings
  have report : configure s settings (some project) zone =
      ⟨.error (.settings (.badProject project)), s.host, []⟩ := by
    simp [configure, Settings.update, unchanged]
  rw [report]
  exact ⟨rfl, unchanged, rfl⟩

/-- With a project or a zone given, `configure` changes these settings and no others: a valid
project, or none, leaves a file from which the same settings are loaded but for what was given, and
an invalid one leaves the settings and their file as they were, whatever zone is given with it. The
log is opened first; without one the run does nothing at all. -/
theorem configure_changes_what_is_given (s : Surroundings) (invocation : Invocation)
    (asked : invocation.command = .configure)
    (given : invocation.project.isSome ∨ invocation.zone.isSome)
    (known : Settings.path? s.host = some path)
    (stored : Settings.loadFrom s.host path = .ok settings) :
    (∀ log, openLog s.host invocation.logLevel = .error log →
      (run s invocation).result = .error (.log log) ∧ (run s invocation).host = s.host) ∧
    ∀ opened, openLog s.host invocation.logLevel = .ok opened →
      opened.read? path = s.host.read? path ∧
      ((∀ project ∈ invocation.project, isProjectId project = true) →
        Configured opened path (settings.replaced invocation.project invocation.zone)
          (run s invocation)) ∧
      ∀ project ∈ invocation.project, isProjectId project = false →
        Refused opened settings project invocation.zone (run s invocation) := by
  obtain ⟨place, found⟩ := Settings.exists_place_of_loadFrom stored
  refine ⟨fun log failed => ?_, fun opened done => ?_⟩
  · simp [run, failed]
  · obtain ⟨knownStill, there, same⟩ := openLog_keeps known found done
    have loaded : Settings.load opened = settings :=
      Settings.load_of_loadFrom knownStill ((Settings.loadFrom_congr same).trans stored)
    let surroundings : Surroundings := { s with host := opened }
    have report : run s invocation =
        configure surroundings settings invocation.project invocation.zone := by
      simp [run, done, runOpened, asked, loaded, surroundings]
    rw [report]
    refine ⟨same, fun valid => ?_, fun project named invalid => ?_⟩
    · exact configured_of_valid (s := surroundings) given knownStill there valid
    · rw [Option.mem_def.mp named]
      exact refused_of_invalid invalid surroundings settings invocation.zone

/-- A host on which the settings name a zone and the longest interval. A variable names a project. -/
def keptHost : Host where
  environment := [("XDG_CONFIG_HOME", "/kept"), ("GOOGLE_CLOUD_PROJECT", "other-project-1")]
  directory := []
  files := [(["kept", "gce-provisioner", "config.json"],
    "\x7b\"zone\": \"europe-west1-b\", \"poll_interval_secs\": 18446744073709551615\x7d")]

/-- What surrounds a run on that host. -/
def keptSurroundings : Surroundings where
  host := keptHost
  credentials := none
  transport _ _ := none
  requestId _ := ""
  pause := Pause.manual
  patience := 0

/-- A project is stored beside the zone and the interval that were there; another text is refused
as a project, and the zone that is given with it is not stored either. -/
theorem configure_changes_what_is_given_kept :
    Settings.loadFrom
        (run keptSurroundings ⟨some "my-project-123", none, .off, .configure⟩).host
        "/kept/gce-provisioner/config.json" =
      .ok { project := some "my-project-123", zone := some "europe-west1-b",
            pollInterval := 18446744073709551615 } ∧
    (run keptSurroundings ⟨some "My-Project", some "us-east1-b", .off, .configure⟩).host =
      keptHost := by
  have known : Settings.path? keptHost = some "/kept/gce-provisioner/config.json" := by
    decide +kernel
  have read : (keptHost.read? "/kept/gce-provisioner/config.json").bind Settings.ofText? =
      some { zone := some "europe-west1-b", pollInterval := 18446744073709551615 } := by
    decide +kernel
  have stored : Settings.loadFrom keptHost "/kept/gce-provisioner/config.json" =
      .ok { zone := some "europe-west1-b", pollInterval := 18446744073709551615 } := by
    obtain ⟨text, there, told⟩ := Option.bind_eq_some_iff.mp read
    simp only [Settings.loadFrom, there, told]
  constructor
  · have changed := (configure_changes_what_is_given keptSurroundings
      ⟨some "my-project-123", none, .off, .configure⟩ rfl (.inl rfl) known stored).2 keptHost
      (if_pos rfl)
    have valid : ∀ project ∈ some "my-project-123", isProjectId project = true := by
      decide +kernel
    exact (changed.2.1 valid).kept.stored
  · have changed := (configure_changes_what_is_given keptSurroundings
      ⟨some "My-Project", some "us-east1-b", .off, .configure⟩ rfl (.inl rfl) known stored).2
      keptHost (if_pos rfl)
    exact (changed.2.2 "My-Project" rfl (by decide +kernel)).host

end CommandLine

end VmLaunch

import VmLaunch.Proofs.Host.Files
import VmLaunch.Proofs.Json.Members
import VmLaunch.Proofs.Source.Form
import VmLaunch.Settings.Basic

/-!
# Settings are read back

The text that settings are stored as says all of them, so a file with that text gives the same
settings again: whatever characters their texts have, and up to the largest number of seconds. What
is taken from flags replaces a project or a zone before anything is stored.
-/

namespace VmLaunch

open Source

namespace Settings

/-- A number of seconds is plain. -/
@[simp]
theorem plain_encodeSecs {depth : Nat} (n : UInt64) : Json.Plain depth (encodeSecs n) :=
  Json.plain_nat64 n

/-- A number of seconds is read back. -/
@[simp]
theorem nat64_encodeSecs {ν : Type} [Source ν] (form : Form ν) (n : UInt64) :
    nat64 (form.tree (encodeSecs n)) = some n :=
  form.nat64_tree n

/-- Settings are one level deep. -/
theorem plain_encode (settings : Settings) : Json.Plain 1 settings.encode := by
  have text (value : Option String) : Json.Plain 0 (Json.optional Json.str value) :=
    Json.plain_optional Json.plain_str value
  simp [encode, text]

/-- Settings are read back in any form. -/
theorem decode_tree {ν : Type} [Source ν] (form : Form ν) (settings : Settings) :
    decode (form.tree settings.encode) = some settings := by
  apply Form.bind_slots? (by simp)
  intro slots holds
  unfold fieldNames at holds
  simp [holds.fieldOr]

/-- Settings are read back from the text that they are stored as. -/
@[simp]
theorem ofText?_text (settings : Settings) : ofText? settings.text = some settings := by
  rw [ofText?, text, Written.parse?_pretty settings.plain_encode (by decide), Option.bind_some]
  exact decode_tree .written settings

section Files

variable {host : Host} {path : String} {settings : Settings}

/-- Settings are loaded from a file with their text. -/
theorem loadFrom_of_read? (read : host.read? path = some settings.text) :
    loadFrom host path = .ok settings := by
  simp [loadFrom, read]

/-- What is loaded from a file is up to its text alone. -/
theorem loadFrom_congr {other : Host} (same : other.read? path = host.read? path) :
    loadFrom other path = loadFrom host path := by
  rw [loadFrom, loadFrom, same]

/-- The settings of the user are those of the file where they are stored. -/
theorem load_of_loadFrom (known : path? host = some path)
    (stored : loadFrom host path = .ok settings) : load host = settings := by
  simp [load, known, stored]

/-- To store settings is to write their text; an error is that of the file. -/
theorem saveTo_run :
    (settings.saveTo path).run host =
      match (Host.write path settings.text).run host with
      | .ok _ after => .ok () after
      | .error cause after => .error (.file cause) after := by
  simp only [saveTo, EStateM.run, EStateM.adaptExcept]
  cases Host.write path settings.text host <;> rfl

/-- Settings are loaded from a file that is there. -/
theorem exists_place_of_loadFrom (stored : loadFrom host path = .ok settings) :
    ∃ place, host.filePlace path = .ok place := by
  cases read : host.read? path with
  | none => simp [loadFrom, read] at stored
  | some text =>
    obtain ⟨place, found, -⟩ := Host.read?_eq_some_iff.mp read
    exact ⟨place, found⟩

/-- Settings are stored where they were, when a file may be there. -/
theorem save_run {place : Place} (known : path? host = some path)
    (found : host.filePlace path = .ok place) (settings : Settings) :
    settings.save.run host = .ok path (host.put place settings.text) := by
  have stored : (settings.saveTo path).run host = .ok () (host.put place settings.text) := by
    rw [saveTo_run, Host.write_run found]
  simp only [save, EStateM.run_bind, EStateM.run_get, known, stored]
  rfl

end Files

section Adopting

/-- The settings with what is given in place of their own project and zone. -/
def replaced (settings : Settings) (project zone : Option String) : Settings :=
  { settings with project := project.or settings.project, zone := zone.or settings.zone }

/-- What is given replaces a project and a zone, when the project is valid. -/
theorem adopt_run_of_valid {project : Option String}
    (valid : ∀ given ∈ project, isProjectId given = true) (zone : Option String)
    (settings : Settings) :
    (adopt project zone).run settings = .ok () (settings.replaced project zone) := by
  cases project with
  | none => cases zone <;> rfl
  | some given =>
    have valid := valid given rfl
    cases zone <;> simp [adopt, adoptProject, adoptZone, replaced, valid]

/-- An invalid project is refused before anything has changed. -/
theorem adopt_run_of_invalid {project : String} (invalid : isProjectId project = false)
    (zone : Option String) (settings : Settings) :
    (adopt (some project) zone).run settings = .error (.badProject project) settings := by
  simp [adopt, adoptProject, invalid]

end Adopting

end Settings

end VmLaunch

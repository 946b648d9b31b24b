import Mathlib
import AssetLink.DefaultConfig.File
import AssetLink.Proofs.DefaultConfig.Faults
import AssetLink.Proofs.Files.Resolving

/-!
What loading a config depends on. It is the text of the file and where the file
stands; by which path it was reached makes no difference, and on whose behalf it
was read shows in those errors that come before the text is there.
-/

namespace AssetLink

namespace World

variable {w : World} {path text : String} {position : List String}

/-- A path that leads to a file of this text, which stands at `position`. -/
structure LeadsToText (w : World) (path : String) (position : List String) (text : String) :
    Prop where
  resolves : w.Resolves path position
  holds : ∃ file, w.root.find? position = some (.file file) ∧ file.text = .ok text

theorem LeadsToText.node? (leads : w.LeadsToText path position text) :
    ∃ file, w.node? path = some (.file file) ∧ file.text = .ok text := by
  obtain ⟨file, there, content⟩ := leads.holds
  refine ⟨file, ?_, content⟩
  rw [World.node?, position?_eq_some_iff.2 leads.resolves, Option.bind_some, there]

theorem LeadsToText.isPresent (leads : w.LeadsToText path position text) :
    w.isPresent path = true := by
  obtain ⟨file, there, -⟩ := leads.node?
  rw [World.isPresent, there, Option.isSome_some]

theorem LeadsToText.isDirectory (leads : w.LeadsToText path position text) :
    w.isDirectory path = false := by
  obtain ⟨file, there, -⟩ := leads.node?
  rw [World.isDirectory, there, Option.any_some]
  rfl

theorem LeadsToText.readText (leads : w.LeadsToText path position text) :
    w.readText path = .ok text := by
  obtain ⟨file, there, content⟩ := leads.node?
  rw [World.readText, there]
  exact content

theorem LeadsToText.directoryOf? (leads : w.LeadsToText path position text) :
    w.directoryOf? path = some (Path.ofNames position.dropLast) := by
  rw [World.directoryOf?, position?_eq_some_iff.2 leads.resolves, Option.map_some]

theorem isPresent_of_isDirectory (directory : w.isDirectory path = true) :
    w.isPresent path = true := by
  obtain ⟨node, there, -⟩ := (Option.any_eq_true _ _).1 directory
  rw [isPresent, there, Option.isSome_some]

theorem leadsToText_of_readText (content : w.readText path = .ok text) :
    ∃ position, w.LeadsToText path position text := by
  rw [readText] at content
  split at content
  case h_1 file there =>
    obtain ⟨position, resolves, there⟩ := Option.bind_eq_some_iff.1 there
    exact ⟨position, position?_eq_some_iff.1 resolves, file, there, content⟩
  case h_2 => cases content
  case h_3 => cases content

end World

namespace DefaultConfig

variable {w : World} {path text configDir : String} {position : List String}
  {config : DefaultConfig} {c : Capability} {e : AssetError} {complaint : String → String}

theorem kind_of_parse_eq_error (fault : parse complaint text configDir = .error e) :
    e.kind = .configuration := by
  rcases parse_eq_error_iff.1 fault with ⟨-, rfl⟩ | ⟨document, -, refused⟩
  · rfl
  · exact refused.kind_eq

theorem configDir_of_parse_eq_ok (accepted : parse complaint text configDir = .ok config) :
    config.configDir = configDir := by
  obtain ⟨document, -, describes⟩ := parse_eq_ok_iff.1 accepted
  exact describes.configDir

theorem read_of_absent (absent : w.isPresent path = false) :
    read c w path = .error (DefaultConfig.absent c path) := by
  rw [read, absent]
  rfl

theorem read_of_isDirectory (directory : w.isDirectory path = true) :
    read c w path = .error (isDirectory c path) := by
  rw [read, World.isPresent_of_isDirectory directory, directory]
  rfl

theorem read_of_readText_eq_error {fault : String} (present : w.isPresent path = true)
    (noDirectory : w.isDirectory path = false) (unread : w.readText path = .error fault) :
    read c w path = .error (unreadable c path fault) := by
  rw [read, present, noDirectory, unread]
  rfl

theorem read_of_leadsToText (leads : w.LeadsToText path position text) :
    read c w path = parse w.tomlComplaint text (Path.ofNames position.dropLast) := by
  rw [read, leads.isPresent, leads.isDirectory, leads.readText, leads.directoryOf?]
  rfl

/-- How reading a file ends, as a function of the one on whose behalf it is
read. -/
inductive Outcome (w : World) (path : String) :
    (Capability → Except AssetError DefaultConfig) → Prop
  | accepted {position : List String} {text : String} {config : DefaultConfig}
      (leads : w.LeadsToText path position text)
      (parsed : parse w.tomlComplaint text (Path.ofNames position.dropLast) = .ok config) :
      Outcome w path fun _ => .ok config
  /-- An error of parsing, or a setting that is not supported. -/
  | faulty {position : List String} {text : String} {e : AssetError}
      (leads : w.LeadsToText path position text)
      (fault : parse w.tomlComplaint text (Path.ofNames position.dropLast) = .error e) :
      Outcome w path fun _ => .error e
  | absent (absent : w.isPresent path = false) :
      Outcome w path fun c => .error (.inputValidation
        s!"Could not load default {c.name} config from '{path}', file does not exist.")
  | directory (directory : w.isDirectory path = true) :
      Outcome w path fun c => .error (.inputValidation
        (s!"Could not load default {c.name} config from '{path}', "
          ++ "must be a TOML file not a directory."))
  | unreadable {fault : String} (present : w.isPresent path = true)
      (noDirectory : w.isDirectory path = false) (unread : w.readText path = .error fault) :
      Outcome w path fun c => .error (.configuration
        s!"Could not read default {c.name} config from '{path}': {fault}")

theorem outcome (w : World) (path : String) : Outcome w path fun c => read c w path := by
  cases present : w.isPresent path
  case false =>
    rw [funext fun c => read_of_absent (c := c) present]
    exact .absent present
  cases directory : w.isDirectory path
  case true =>
    rw [funext fun c => read_of_isDirectory (c := c) directory]
    exact .directory directory
  cases content : w.readText path with
  | error fault =>
    rw [funext fun c => read_of_readText_eq_error (c := c) present directory content]
    exact .unreadable present directory content
  | ok text =>
    obtain ⟨position, leads⟩ := World.leadsToText_of_readText content
    rw [funext fun c => read_of_leadsToText (c := c) leads]
    cases parsed : parse w.tomlComplaint text (Path.ofNames position.dropLast) with
    | ok config => exact .accepted leads parsed
    | error e => exact .faulty leads parsed

theorem Outcome.eq_ok_iff {outcome : Capability → Except AssetError DefaultConfig}
    (h : Outcome w path outcome) (c other : Capability) :
    outcome c = .ok config ↔ outcome other = .ok config := by
  cases h <;> simp

theorem read_eq_ok_iff {c other : Capability} :
    read c w path = .ok config ↔ read other w path = .ok config :=
  (outcome w path).eq_ok_iff c other

theorem run_load (c : Capability) (w : World) (path : String) :
    (load c w path).run = ⟨read c w path, [.loadingConfig c path]⟩ := rfl

/-- Loading a config gives what the text of the file says, read in the directory in
which the file stands. Who loads it shows in messages only, and only where there
is no text; by which path, not at all. -/
theorem loading_depends_on_file_only (w : World) (path : String) :
    (∀ c, (load c w path).run = ⟨read c w path, [.loadingConfig c path]⟩) ∧
    (Outcome w path fun c => read c w path) ∧
    (∀ position text, w.LeadsToText path position text →
      (∀ c, read c w path = parse w.tomlComplaint text (Path.ofNames position.dropLast)) ∧
      (∀ c config, read c w path = .ok config →
        config.configDir = Path.ofNames position.dropLast) ∧
      (∀ other, w.Resolves other position → ∀ c asker, read asker w other = read c w path) ∧
      ((∀ name ∈ w.workingDirectory, Path.IsName name) →
        Walk.Plain w.root position ∧
        ((Path.ofNames position).utf8ByteSize ≤ Walk.maxBytes →
          w.Resolves (Path.ofNames position) position))) ∧
    (w.isPresent path = false ∨ w.isDirectory path = true →
      ∀ c, ∃ e, read c w path = .error e ∧ e.kind = .inputValidation ∧
        ∀ complaint text configDir, parse complaint text configDir ≠ .error e) := by
  refine ⟨fun c => run_load c w path, outcome w path, fun position text leads => ?_,
    fun noFile c => ?_⟩
  · have reads c : read c w path = parse w.tomlComplaint text (Path.ofNames position.dropLast) :=
      read_of_leadsToText leads
    obtain ⟨file, there, content⟩ := leads.holds
    refine ⟨reads, fun c config accepted => ?_, fun other resolves c asker => ?_, fun isName => ?_⟩
    · exact configDir_of_parse_eq_ok ((reads c).symm.trans accepted)
    · have leadsToo : w.LeadsToText other position text := ⟨resolves, file, there, content⟩
      rw [reads c, read_of_leadsToText leadsToo]
    · have plain := Walk.plain_of_find? there nofun (leads.resolves.isName isName)
      exact ⟨plain, World.resolves_ofNames plain (leads.resolves.ne_nil_of_isFile there)⟩
  · rcases noFile with absent | directory
    · exact ⟨_, read_of_absent absent, rfl, fun _ _ _ => mt kind_of_parse_eq_error nofun⟩
    · exact ⟨_, read_of_isDirectory directory, rfl, fun _ _ _ => mt kind_of_parse_eq_error nofun⟩

def linkedText : String :=
  "[manager.settings]\na='$\x7bconfig_dir\x7d'\n"

def linkedConfig : DefaultConfig where
  identifier := ""
  pluginPaths := none
  settings := .ofList [("a", .str "/d")]
  uiDelegateSettings := {}
  configDir := "/d"

/-- A config file with a link to it, which leads through further links. -/
def linkedHost : World where
  root := .directory [
    ("d", .directory [("c", .file (.ofText linkedText))] [] none),
    ("l", .link "m/../m/c"), ("m", .link "d")] [] none
  workingDirectory := ["d"]

theorem parse_linkedText : parse complaint linkedText "/d" = .ok linkedConfig := by cbv

theorem loading_depends_on_file_only_linkedHost :
    linkedHost.LeadsToText "/l" ["d", "c"] linkedText ∧
    linkedHost.Resolves "../d/./c" ["d", "c"] ∧ Walk.Plain linkedHost.root ["d", "c"] ∧
    (∀ c, read c linkedHost "/l" = .ok linkedConfig) ∧
    (∀ c, read c linkedHost "../d/./c" = .ok linkedConfig) ∧
    ∀ path ∈ ["/m", "n"], ∀ c, ∃ e, read c linkedHost path = .error e ∧
      e.kind = .inputValidation := by
  have leads : linkedHost.LeadsToText "/l" ["d", "c"] linkedText :=
    ⟨World.position?_eq_some_iff.1 (by decide +kernel), _, rfl, rfl⟩
  have resolves : linkedHost.Resolves "../d/./c" ["d", "c"] :=
    World.position?_eq_some_iff.1 (by decide +kernel)
  obtain ⟨-, -, files, -⟩ := loading_depends_on_file_only linkedHost "/l"
  obtain ⟨reads, -, others, canonical⟩ := files _ _ leads
  have accepted c : read c linkedHost "/l" = .ok linkedConfig := (reads c).trans parse_linkedText
  obtain ⟨plain, -⟩ := canonical (List.forall_mem_singleton.2 ⟨by decide, by decide⟩)
  refine ⟨leads, resolves, plain, accepted,
    fun c => (others _ resolves c c).trans (accepted c), ?_⟩
  have missing : linkedHost.isPresent "n" = false := by decide +kernel
  have directory : linkedHost.isDirectory "/m" = true := by decide +kernel
  rw [List.forall_mem_cons, List.forall_mem_singleton]
  obtain ⟨-, -, -, refused⟩ := loading_depends_on_file_only linkedHost "/m"
  obtain ⟨-, -, -, refusedToo⟩ := loading_depends_on_file_only linkedHost "n"
  refine ⟨fun c => ?_, fun c => ?_⟩
  · obtain ⟨e, fails, kind, -⟩ := refused (.inr directory) c
    exact ⟨e, fails, kind⟩
  · obtain ⟨e, fails, kind, -⟩ := refusedToo (.inl missing) c
    exact ⟨e, fails, kind⟩

end DefaultConfig

end AssetLink

import ProxyLauncher.Python.Bytes
import ProxyLauncher.Python.JsonRead
import ProxyLauncher.Transition.Machine

/-!
# The migration of state files

State files of earlier versions are copied into the data directory once.  Different recovery
backups are not copied; a marker tells later calls of the conflict.  The verdict of a process is
kept in a flag.
-/

namespace ProxyLauncher.Filesystem

open Python Transition

/-- What is at a path. An `unreadable` file is there, but cannot be opened. -/
inductive Entry where
  | absent
  | directory
  | unreadable
  | file (data : Bytes)
  deriving DecidableEq

/-- The files in the legacy directories, those in the data directory, and the marker. -/
structure StateFiles where
  legacy : String → String → Entry
  current : String → Entry
  marker : Entry

/-- What the migration finds around its files. -/
structure Host where
  /-- The directories of `_legacy_state_dirs`. -/
  folders : List String
  /-- `os.path.join` -/
  join : String → String → String
  /-- Whether a candidate is the file in the data directory itself. -/
  samePath : String → String → Bool
  /-- Whether the data directory is there or can be made. -/
  makesTarget : Bool
  /-- Whether a file of that name can be written to the data directory. -/
  writes : String → Bool
  /-- Whether the marker can be written. -/
  writesMarker : Bool
  /-- Whether a floating point number is zero. -/
  isZero : String → Bool
  /-- How many nested calls of the JSON decoder are left. -/
  nesting : Nat

def stateFiles : List String :=
  ["proxy_settings.json", "no_proxy.txt", "app_exclusions.json", "proxy_core.pid",
    "proxy_core.log", "proxy_internet_backup.json", "proxy_env_backup.json"]

def jsonFiles : List String :=
  ["proxy_settings.json", "proxy_internet_backup.json", "proxy_env_backup.json",
    "app_exclusions.json", "proxy_core.pid"]

def recoveryBackups : List String :=
  ["proxy_internet_backup.json", "proxy_env_backup.json"]

variable (host : Host)

/-- `bool(value)`. -/
def truthy : Json → Bool
  | .null => false
  | .bool value => value
  | .int value => decide (value ≠ 0)
  | .float text => !host.isZero text
  | .string value => decide (value ≠ "")
  | .array values => !values.isEmpty
  | .object entries => !entries.isEmpty

/-- The check of the document of a JSON state file. -/
def validDocument (name : String) : Json → Bool
  | .object entries =>
      if name ≠ "proxy_core.pid" then true
      else
        match entries.find? fun entry => entry.1 = "pid" with
        | some (_, value) => truthy host value
        | none => false
  | _ => false

def validStateFile (name : String) : Entry → Bool
  | .absent => false
  | .directory => false
  | .unreadable => decide (name ∉ jsonFiles)
  | .file data =>
      if name ∈ jsonFiles then
        match (decodeUtf8 data).bind (loadsWithin host.nesting) with
        | some value => validDocument host name value
        | none => false
      else true

/-- The text of the marker. -/
def conflictRecord (name : String) (sources : List String) : Bytes :=
  let texts := sources.map fun source => quote false source
  encodeUtf8 (.ofList ("\x7b\"file\": ".toList ++ quote false name ++ ", \"sources\": [".toList ++
    List.intercalate ", ".toList texts ++ "]\x7d".toList))

/-- The directories from which a state file could come. -/
def sources (files : StateFiles) (name : String) : List String :=
  host.folders.filter fun folder =>
    !host.samePath folder name && validStateFile host name (files.legacy folder name)

/-- `len(blobs) > 1` -/
def Differ (files : StateFiles) (name : String) : Prop :=
  1 < ((sources host files name).map fun folder => files.legacy folder name).dedup.length

instance (files : StateFiles) (name : String) : Decidable (Differ host files name) :=
  inferInstanceAs (Decidable (_ < _))

def StateFiles.copied (files : StateFiles) (name folder : String) : StateFiles :=
  { files with current := Function.update files.current name (files.legacy folder name) }

/-- `_copy_state_atomically`; no result is an exception. -/
def copyStateAtomically (files : StateFiles) (folder name : String) : Option StateFiles :=
  if host.writes name = true ∧ files.legacy folder name ≠ .unreadable then
    some (files.copied name folder)
  else none

/-- How a first call ends. -/
inductive Migration where
  | ready
  | conflict
  | failed
  deriving DecidableEq

/-- The loop over the state files. -/
def importStates : List String → StateFiles → Migration × StateFiles
  | [], files => (.ready, files)
  | name :: names, files =>
      match sources host files name with
      | [] => importStates names files
      | source :: others =>
          if files.current name ≠ .absent then importStates names files
          else if name ∈ recoveryBackups ∧ Differ host files name then
            if host.writesMarker then
              (.conflict, { files with
                marker := .file (conflictRecord name
                  ((source :: others).map fun folder => host.join folder name)) })
            else (.failed, files)
          else
            match copyStateAtomically host files source name with
            | some files => importStates names files
            | none => (.failed, files)

/-- The files, and the flag of the running process. -/
structure Session where
  files : StateFiles
  stateReady : Bool

/-- What a call returns, and whether it has reported a conflict. -/
structure Verdict where
  returned : Bool
  reported : Bool
  deriving DecidableEq

/-- `os.path.exists` of the marker. -/
def StateFiles.blocked (files : StateFiles) : Bool :=
  decide (files.marker ≠ .absent)

def ensureStateReady (session : Session) : Verdict × Session :=
  if session.stateReady then (⟨!session.files.blocked, false⟩, session)
  else if host.makesTarget then
    match importStates host stateFiles session.files with
    | (.ready, files) => (⟨true, false⟩, ⟨files, true⟩)
    | (.conflict, files) => (⟨false, true⟩, ⟨files, true⟩)
    | (.failed, files) => (⟨false, false⟩, ⟨files, false⟩)
  else (⟨false, false⟩, session)

inductive Action where
  | call
  | restart

/-- Calls and new processes, from the given files. -/
def machine (files : StateFiles) : Machine Session Action Verdict where
  initial session := session = ⟨files, false⟩
  next session
    | .call => some (ensureStateReady host session).2
    | .restart => some { session with stateReady := false }
  event session
    | .call => some (ensureStateReady host session).1
    | .restart => none

end ProxyLauncher.Filesystem

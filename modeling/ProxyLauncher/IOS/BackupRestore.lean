import ProxyLauncher.IOS.ProfileStorage
import ProxyLauncher.Texts.Joining

/-!
# The plan of a restoration

`ProfileBackupRestorePlan` decides which profiles of a backup are new.  A profile is known by a text
that joins its fields.  Texts stand for their canonical forms, which is what their equality
compares, and the identifiers that the system draws are given in the order in which they are drawn.
-/

namespace ProxyLauncher.IOS

open Texts

structure BackupProfile where
  profile : ProxyProfile
  password : Option String
deriving DecidableEq

structure ProfileBackupPayload where
  profiles : List BackupProfile
  favorites : Finset UUID
  groups : AList fun _ : UUID => String

def maxProfiles : ℕ := 200

/-- `validatePayload`.  `blank` is `isWhitespace || isNewline`. -/
structure ProfileBackupPayload.Valid (blank : Char → Bool) (payload : ProfileBackupPayload) :
    Prop where
  nonempty : payload.profiles ≠ []
  limited : payload.profiles.length ≤ maxProfiles
  distinct : (payload.profiles.map fun item => item.profile.id).Nodup
  host : ∀ item ∈ payload.profiles, item.profile.host ≠ "" ∧
    item.profile.host.utf8ByteSize ≤ 255 ∧
    ∀ char ∈ item.profile.host.toList,
      blank char = false ∧ char ≠ '@' ∧ char ≠ '/' ∧ char ≠ '?'
  port : ∀ item ∈ payload.profiles, 1 ≤ item.profile.port ∧ item.profile.port ≤ 65535
  texts : ∀ item ∈ payload.profiles, item.profile.name.utf8ByteSize ≤ 512 ∧
    (item.profile.username.getD "").utf8ByteSize ≤ 512 ∧
    (item.password.getD "").utf8ByteSize ≤ 4096
  favorites : ∀ id ∈ payload.favorites, id ∈ payload.profiles.map fun item => item.profile.id
  groups : ∀ id name, payload.groups.lookup id = some name →
    id ∈ payload.profiles.map (fun item => item.profile.id) ∧ name.utf8ByteSize ≤ 160

def ProxyType.rawValue : ProxyType → String
  | .auto => "AUTO"
  | .https => "HTTPS"
  | .http => "HTTP"
  | .socks5 => "SOCKS5"

/-- `ProxyProfile.init`, which stops the process unless its preconditions hold. -/
def ProxyProfile.create (blank : Char → Bool) (id : UUID) (name host : String) (port : ℤ)
    (type : ProxyType) (username : Option String) : Option ProxyProfile :=
  if host.toList.any (fun char => !blank char) = true ∧ 1 ≤ port ∧ port ≤ 65535 then
    some
      { id, name, host, port, type
        username := if username.any String.isEmpty = true then none else username }
  else none

structure ProfileBackupRestorePlan where
  entries : List BackupProfile
  favorites : Finset UUID
  groups : AList fun _ : UUID => String

inductive PlanFailure where
  | tooManyProfiles
  | trap

/-- The variables of the loop. -/
structure Restoring where
  seen : List String
  restored : List BackupProfile := []
  remapped : UUID → Option UUID := fun _ => none

section Planning

variable (lowercased : String → String) (blank : Char → Bool) (drawn : ℕ → UUID)

def ProxyProfile.fingerprint (item : ProxyProfile) : String :=
  item.type.rawValue ++ "|" ++ lowercased item.host ++ "|" ++ toString item.port ++ "|" ++
    item.username.getD ""

/-- One turn of the loop. -/
def Restoring.turn (state : Restoring) (item : BackupProfile) : Option Restoring :=
  if item.profile.fingerprint lowercased ∈ state.seen then some state
  else
    let original := item.profile
    (ProxyProfile.create blank (drawn state.restored.length) original.name original.host
      original.port original.type original.username).map fun replacement =>
        { seen := original.fingerprint lowercased :: state.seen
          restored := state.restored ++ [⟨replacement, item.password⟩]
          remapped := Function.update state.remapped original.id (some replacement.id) }

/-- `remapped[key].map { ($0, value) }` for all groups. -/
def regrouped (remapped : UUID → Option UUID) (groups : AList fun _ : UUID => String) :
    List ((_ : UUID) × String) :=
  groups.entries.filterMap fun group => (remapped group.1).map fun id => ⟨id, group.2⟩

/-- `ProfileBackupRestorePlan.init(payload:existing:)`. -/
def ProfileBackupRestorePlan.make (payload : ProfileBackupPayload) (existing : List ProxyProfile) :
    Except PlanFailure ProfileBackupRestorePlan :=
  match payload.profiles.foldlM (Restoring.turn lowercased blank drawn)
      { seen := existing.map (ProxyProfile.fingerprint lowercased) } with
  | none => .error .trap
  | some state =>
      if maxProfiles < existing.length + state.restored.length then .error .tooManyProfiles
      else if nodup : (regrouped state.remapped payload.groups).keys.Nodup then
        .ok
          { entries := state.restored
            favorites := payload.favorites.biUnion fun id => (state.remapped id).toFinset
            groups := ⟨regrouped state.remapped payload.groups, nodup⟩ }
      else .error .trap

end Planning

end ProxyLauncher.IOS

import ProxyLauncher.IOS.BackupIdentity
import ProxyLauncher.IOS.Hosts

/-!
# What a plan restores

The loop restores the profiles whose fingerprints are new, under identifiers that have just been
drawn.  The favourites and the groups follow the identifiers.
-/

namespace ProxyLauncher.IOS

open Texts

section Restored

variable {lowercased : String → String} {blank : Char → Bool} {drawn : ℕ → UUID}

/-- Two profiles with one fingerprint. -/
def Alike (lowercased : String → String) (profile other : ProxyProfile) : Prop :=
  profile.fingerprint lowercased = other.fingerprint lowercased

instance : DecidableRel (Alike lowercased) := fun profile other =>
  inferInstanceAs (Decidable (profile.fingerprint lowercased = other.fingerprint lowercased))

/-- An entry keeps the fields and the password of a backup profile; an empty user name counts as
none. -/
structure Counterpart (old new : BackupProfile) : Prop where
  name : new.profile.name = old.profile.name
  host : new.profile.host = old.profile.host
  port : new.profile.port = old.profile.port
  type : new.profile.type = old.profile.type
  username : new.profile.username.getD "" = old.profile.username.getD ""
  password : new.password = old.password

theorem Counterpart.alike {old new : BackupProfile} (counterpart : Counterpart old new) :
    Alike lowercased old.profile new.profile := by
  rw [Alike, ProxyProfile.fingerprint, ProxyProfile.fingerprint, counterpart.type,
    counterpart.host, counterpart.port, counterpart.username]

/-- What a plan is for. -/
structure Restores (lowercased : String → String) (blank : Char → Bool)
    (payload : ProfileBackupPayload) (existing : List ProxyProfile)
    (plan : ProfileBackupRestorePlan) : Prop where
  entries : List.Forall₂ Counterpart
    (newProfiles (Same lowercased) existing payload.profiles) plan.entries
  distinct : (plan.entries.map fun entry => entry.profile.id).Nodup
  fresh : ∀ entry ∈ plan.entries, entry.profile.id ∉ existing.map ProxyProfile.id ∧
    entry.profile.id ∉ payload.profiles.map fun item => item.profile.id
  bounded : existing.length + plan.entries.length ≤ maxProfiles
  favorites : ∀ id, id ∈ plan.favorites ↔ ∃ old new,
    (old, new) ∈ (newProfiles (Same lowercased) existing payload.profiles).zip plan.entries ∧
      old.profile.id ∈ payload.favorites ∧ new.profile.id = id
  groups : ∀ id name, plan.groups.lookup id = some name ↔ ∃ old new,
    (old, new) ∈ (newProfiles (Same lowercased) existing payload.profiles).zip plan.entries ∧
      payload.groups.lookup old.profile.id = some name ∧ new.profile.id = id
  again : ∀ drawn, ProfileBackupRestorePlan.make lowercased blank drawn payload
    (existing ++ plan.entries.map BackupProfile.profile) =
      .ok { entries := [], favorites := ∅, groups := ∅ }

variable {payload : ProfileBackupPayload} {existing : List ProxyProfile}
  {plan : ProfileBackupRestorePlan}

end Restored

def sampleProfile (id : UUID) (host : String) (port : ℤ) (username : Option String) :
    ProxyProfile :=
  { id, name := "", host, port, type := .http, username }

end ProxyLauncher.IOS

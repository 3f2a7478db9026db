import ProxyLauncher.IOS.BackupRestore

/-!
# Which profiles of a backup are new

Two profiles are the same if their types, hosts up to case, ports and user names are.  Same
profiles have the same fingerprint.  The converse fails where the fields themselves contain the
separator, so that one host goes on behind the whole of another host with its port.
-/

namespace ProxyLauncher.IOS

open Texts

section Fingerprints

variable (lowercased : String → String)

/-- The same account on the same server. -/
structure Same (profile other : ProxyProfile) : Prop where
  type : profile.type = other.type
  host : lowercased profile.host = lowercased other.host
  port : profile.port = other.port
  username : profile.username.getD "" = other.username.getD ""

instance (profile other : ProxyProfile) : Decidable (Same lowercased profile other) :=
  decidable_of_iff (profile.type = other.type ∧ lowercased profile.host = lowercased other.host ∧
      profile.port = other.port ∧ profile.username.getD "" = other.username.getD "")
    ⟨fun ⟨type, host, port, username⟩ => ⟨type, host, port, username⟩,
      fun same => ⟨same.type, same.host, same.port, same.username⟩⟩

/-- The second host begins with the first host and the first port, and the first user name goes on
with what is left of the second profile. -/
def Continues (profile other : ProxyProfile) : Prop :=
  (lowercased other.host = lowercased profile.host ++ "|" ++ toString profile.port ∧
    profile.username.getD "" = toString other.port ++ "|" ++ other.username.getD "") ∨
  ∃ middle : String,
    lowercased other.host =
      lowercased profile.host ++ "|" ++ toString profile.port ++ "|" ++ middle ∧
    profile.username.getD "" =
      middle ++ "|" ++ toString other.port ++ "|" ++ other.username.getD ""

variable {lowercased}

end Fingerprints

section NewProfiles

/-- The profiles of a backup that are like no known profile and like no earlier one. -/
def newProfiles (like : ProxyProfile → ProxyProfile → Prop) [DecidableRel like] :
    List ProxyProfile → List BackupProfile → List BackupProfile
  | _, [] => []
  | known, item :: rest =>
      if ∃ other ∈ known, like item.profile other then
        newProfiles like (item.profile :: known) rest
      else item :: newProfiles like (item.profile :: known) rest

variable {like like' : ProxyProfile → ProxyProfile → Prop} [DecidableRel like]
  [DecidableRel like'] {known : List ProxyProfile} {profiles : List BackupProfile}

end NewProfiles

end ProxyLauncher.IOS

import ProxyLauncher.Interruption.Contract

/-!
# The profile store of the Android application

Profiles and their encrypted passwords are entries of one preferences file.  Every `commit` writes
its edits as a whole; a process can die between two commits.
-/

namespace ProxyLauncher.Android

open ProxyLauncher.Interruption

inductive PreferenceValue where
  | string (text : String)
  | stringSet (texts : List String)
  | int (number : ℤ)
  | boolean (flag : Bool)
  deriving DecidableEq, Repr

abbrev Preferences := String → Option PreferenceValue

inductive PreferenceEdit where
  | put (key : String) (value : PreferenceValue)
  | remove (key : String)
  deriving DecidableEq, Repr

namespace PreferenceEdit

/-- `putString`, which removes the key for `null`. -/
def putString (key : String) : Option String → PreferenceEdit
  | some text => .put key (.string text)
  | none => .remove key

def key : PreferenceEdit → String
  | put key _ => key
  | remove key => key

/-- What is under the key after the edit. -/
def value : PreferenceEdit → Option PreferenceValue
  | put _ value => some value
  | remove _ => none

def apply (prefs : Preferences) (edit : PreferenceEdit) : Preferences :=
  Function.update prefs edit.key edit.value

@[simp] theorem key_put {key : String} {value : PreferenceValue} : (put key value).key = key := rfl

@[simp] theorem key_remove {key : String} : (remove key).key = key := rfl

@[simp] theorem value_put {key : String} {value : PreferenceValue} :
    (put key value).value = some value := rfl

@[simp] theorem value_remove {key : String} : (remove key).value = none := rfl

@[simp] theorem key_putString {key : String} {text : Option String} :
    (putString key text).key = key := by
  cases text <;> rfl

@[simp] theorem value_putString {key : String} {text : Option String} :
    (putString key text).value = text.map .string := by
  cases text <;> rfl

end PreferenceEdit

/-- One `commit`. -/
def commit (edits : List PreferenceEdit) (prefs : Preferences) : Preferences :=
  edits.foldl PreferenceEdit.apply prefs

namespace Preferences

/-- What a getter throws for a value of another type. -/
def classCast : String := "java.lang.ClassCastException"

variable (prefs : Preferences)

def getString (key : String) (fallback : Option String) : Except String (Option String) :=
  match prefs key with
  | none => .ok fallback
  | some (.string text) => .ok (some text)
  | some _ => .error classCast

def getStringSet (key : String) : Except String (List String) :=
  match prefs key with
  | none => .ok []
  | some (.stringSet texts) => .ok texts
  | some _ => .error classCast

def getInt (key : String) (fallback : ℤ) : Except String ℤ :=
  match prefs key with
  | none => .ok fallback
  | some (.int number) => .ok number
  | some _ => .error classCast

end Preferences

inductive ProxyType where
  | auto
  | https
  | http
  | socks5
  deriving DecidableEq, Repr

namespace ProxyType

def name : ProxyType → String
  | auto => "AUTO"
  | https => "HTTPS"
  | http => "HTTP"
  | socks5 => "SOCKS5"

def valueOf (name : String) : Option ProxyType :=
  [auto, https, http, socks5].find? fun type => type.name = name

@[simp] theorem valueOf_name (type : ProxyType) : valueOf type.name = some type := by
  cases type <;> decide

end ProxyType

/-- `Char.isWhitespace`. -/
def isWhitespace (char : Char) : Bool :=
  let code := char.toNat
  decide (9 ≤ code ∧ code ≤ 13 ∨ 28 ≤ code ∧ code ≤ 32 ∨ code = 160 ∨ code = 5760 ∨
    8192 ≤ code ∧ code ≤ 8202 ∨ code = 8232 ∨ code = 8233 ∨ code = 8239 ∨ code = 8287 ∨
    code = 12288)

def isBlank (text : String) : Bool :=
  text.toList.all isWhitespace

structure ProxyProfile where
  id : String
  name : String
  host : String
  port : ℤ
  type : ProxyType
  username : Option String := none
  passwordRef : Option String := none
  host_notBlank : isBlank host = false
  port_range : 1 ≤ port ∧ port ≤ 65535
  deriving DecidableEq

structure ResolvedProxyProfile where
  profile : ProxyProfile
  password : Option String
  deriving DecidableEq

/-- `encrypt` and `decrypt` under the key of the application; no result is an exception. -/
structure Keystore where
  encrypt : String → Option String
  decrypt : String → Option String

/-- What has been encrypted is decrypted to what it was. -/
def Keystore.Faithful (keystore : Keystore) : Prop :=
  ∀ password encoded, keystore.encrypt password = some encoded →
    keystore.decrypt encoded = some password

def keyProfileIds : String := "profile_ids"
def keyActiveId : String := "active_profile_id"
def keyAutoSelection : String := "auto_profile_selection"

def profileKey (id field : String) : String := "profile." ++ id ++ "." ++ field
def secretKey (id : String) : String := "secret." ++ id

/-- A program on the preferences. -/
abbrev StoreProgram := Program Preferences Unit (List PreferenceEdit) String

/-- Look something up, or throw what the getters throw. -/
def lookup {α : Type} (view : Preferences → Except String α) : StoreProgram α := do
  let outcome ← Program.ask () view ""
  Program.ofExcept outcome

def profileIds (prefs : Preferences) : Except String (List String) :=
  prefs.getStringSet keyProfileIds

/-- The index for a store that has none. -/
def legacyIds (prefs : Preferences) : Except String (List String) :=
  match prefs.getString keyActiveId none with
  | .error thrown => .error thrown
  | .ok none => .ok []
  | .ok (some activeId) =>
      (prefs.getString (profileKey activeId "host") none).map fun host =>
        if host.isSome then [activeId] else []

def ensureLegacyProfileIndexed : StoreProgram Unit := do
  let indexed ← lookup fun prefs => .ok (prefs keyProfileIds).isSome
  if indexed then pure ()
  else
    let ids ← lookup legacyIds
    Program.perform [.put keyProfileIds (.stringSet ids)]
      "Failed to initialize proxy profile index"

/-- `ProxyType.valueOf`, with the default where it or the getter throws. -/
def storedType (prefs : Preferences) (id : String) : ProxyType :=
  match prefs.getString (profileKey id "type") (some ProxyType.auto.name) with
  | .ok (some name) => (ProxyType.valueOf name).getD .auto
  | _ => .auto

def loadProfileMetadata (prefs : Preferences) (id : String) :
    Except String (Option ProxyProfile) :=
  match prefs.getString (profileKey id "host") none with
  | .error thrown => .error thrown
  | .ok none => .ok none
  | .ok (some host) =>
      match prefs.getInt (profileKey id "port") (-1) with
      | .error thrown => .error thrown
      | .ok port =>
          if port_range : 1 ≤ port ∧ port ≤ 65535 then do
            let unnamed := host ++ ":" ++ toString port
            let name ← prefs.getString (profileKey id "name") (some unnamed)
            let username ← prefs.getString (profileKey id "username") none
            let passwordRef ← prefs.getString (profileKey id "password_ref") none
            if host_notBlank : isBlank host = false then
              .ok (some { id, name := name.getD unnamed, host, port, type := storedType prefs id,
                          username, passwordRef, host_notBlank, port_range })
            else .error "Proxy host must not be blank"
          else .ok none

/-- The password of a profile. -/
def storedPassword (keystore : Keystore) (prefs : Preferences) (id : String)
    (profile : ProxyProfile) : Except String (Option String) :=
  if profile.passwordRef = none then .ok none
  else
    match prefs.getString (secretKey id) none with
    | .error thrown => .error thrown
    | .ok none => .error "Encrypted password is missing"
    | .ok (some encrypted) =>
        match keystore.decrypt encrypted with
        | none => .error "Invalid encrypted credential"
        | some password => .ok (some password)

/-- `loadProfile` on an indexed store. -/
def resolveProfile (keystore : Keystore) (prefs : Preferences) (id : String) :
    Except String (Option ResolvedProxyProfile) :=
  match loadProfileMetadata prefs id with
  | .error thrown => .error thrown
  | .ok none => .ok none
  | .ok (some profile) =>
      (storedPassword keystore prefs id profile).map fun password => some ⟨profile, password⟩

def loadProfile (keystore : Keystore) (id : String) :
    StoreProgram (Option ResolvedProxyProfile) := do
  ensureLegacyProfileIndexed
  lookup fun prefs => resolveProfile keystore prefs id

/-- The reference that is stored with a profile that has a password. -/
def credentialRef (id : String) : String := "android-keystore:" ++ id

/-- The edits of the second commit. -/
def profileEdits (profile : ProxyProfile) (passwordRef : Option String) (ids : List String)
    (makeActive : Bool) : List PreferenceEdit :=
  [.put keyProfileIds (.stringSet (if profile.id ∈ ids then ids else ids ++ [profile.id])),
    .put (profileKey profile.id "name") (.string profile.name),
    .put (profileKey profile.id "host") (.string profile.host),
    .put (profileKey profile.id "port") (.int profile.port),
    .put (profileKey profile.id "type") (.string profile.type.name),
    .putString (profileKey profile.id "username") profile.username,
    .putString (profileKey profile.id "password_ref") passwordRef] ++
  if makeActive then
    [.put keyActiveId (.string profile.id), .put keyAutoSelection (.boolean false)]
  else []

/-- The first commit: the password, and the reference to it. -/
def saveSecret (keystore : Keystore) (id : String) : Option String → StoreProgram (Option String)
  | some password =>
      match keystore.encrypt password with
      | none => Program.raise "Failed to encrypt credential"
      | some encoded => do
          Program.perform [.put (secretKey id) (.string encoded)]
            "Failed to persist encrypted credential"
          pure (some (credentialRef id))
  | none => do
      Program.perform [.remove (secretKey id)] "Failed to clear encrypted credential"
      pure none

def saveProfile (keystore : Keystore) (profile : ProxyProfile) (password : Option String)
    (makeActive : Bool) : StoreProgram Unit := do
  ensureLegacyProfileIndexed
  let passwordRef ← saveSecret keystore profile.id password
  let ids ← lookup profileIds
  Program.perform (profileEdits profile passwordRef ids makeActive)
    "Failed to persist proxy profile"

end ProxyLauncher.Android

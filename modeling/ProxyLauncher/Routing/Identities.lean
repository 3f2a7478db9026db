import ProxyLauncher.Python.Json
import ProxyLauncher.Python.Lowering

/-!
# The identities of applications

An application is known by its executable, its bundle or its package.  An identity that exists is
normalised: making it anew from its own fields changes nothing.
-/

namespace ProxyLauncher.Routing

open Python

inductive Raised where
  | valueError (message : String)
  | unicodeError
  | keyError (key : String)
  | typeError
  | applicationExclusionError (message : String)
deriving DecidableEq

/-- `str.lower`. -/
structure Casing where
  lower : String → String
  lowering : Lowering lower

/-- `value.strip().lower()`. -/
def Casing.normal (casing : Casing) (value : String) : String :=
  casing.lower (strip value)

def platforms : List String := ["windows", "macos", "linux"]

structure ApplicationIdentity (casing : Casing) where
  platform : String
  executablePath : String
  bundleId : String
  packageId : String
  displayName : String
  platform_known : platform ∈ platforms
  platform_normal : casing.normal platform = platform
  executable_stripped : strip executablePath = executablePath
  bundle_normal : casing.normal bundleId = bundleId
  package_normal : casing.normal packageId = packageId
  display_stripped : strip displayName = displayName
  identified : executablePath ≠ "" ∨ bundleId ≠ "" ∨ packageId ≠ ""

variable {casing : Casing}

theorem Casing.normal_normal (value : String) :
    casing.normal (casing.normal value) = casing.normal value := by
  unfold Casing.normal
  rw [casing.lowering.strip_lower, strip_strip, casing.lowering.lower_lower]

namespace ApplicationIdentity

/-- `ApplicationIdentity(...)`, of texts. -/
def create (casing : Casing) (platform executablePath bundleId packageId displayName : String) :
    Except Raised (ApplicationIdentity casing) :=
  if platform_known : casing.normal platform ∈ platforms then
    if identified : strip executablePath ≠ "" ∨ casing.normal bundleId ≠ "" ∨
        casing.normal packageId ≠ "" then
      .ok {
        platform := casing.normal platform
        executablePath := strip executablePath
        bundleId := casing.normal bundleId
        packageId := casing.normal packageId
        displayName := strip displayName
        platform_known
        platform_normal := Casing.normal_normal platform
        executable_stripped := strip_strip executablePath
        bundle_normal := Casing.normal_normal bundleId
        package_normal := Casing.normal_normal packageId
        display_stripped := strip_strip displayName
        identified }
    else
      .error (.valueError "application identity requires a stable executable/bundle/package id")
  else .error (.valueError "application platform must be windows, macos or linux")

variable (identity : ApplicationIdentity casing)

/-- `value.replace("\\", "/")`. -/
def forwardSlashes (value : String) : String :=
  .ofList (value.toList.map fun char => if char = '\\' then '/' else char)

def stableId : String :=
  if identity.bundleId ≠ "" then identity.platform ++ ":bundle:" ++ identity.bundleId
  else if identity.packageId ≠ "" then identity.platform ++ ":package:" ++ identity.packageId
  else
    let value := forwardSlashes identity.executablePath
    identity.platform ++ ":exe:" ++
      if identity.platform = "windows" then casing.lower value else value

/-- An identity is what its own fields make. -/
theorem create_self : create casing identity.platform identity.executablePath identity.bundleId
    identity.packageId identity.displayName = .ok identity := by
  have known : casing.normal identity.platform ∈ platforms := by
    rw [identity.platform_normal]
    exact identity.platform_known
  have identified : strip identity.executablePath ≠ "" ∨ casing.normal identity.bundleId ≠ "" ∨
      casing.normal identity.packageId ≠ "" := by
    rw [identity.executable_stripped, identity.bundle_normal, identity.package_normal]
    exact identity.identified
  rw [create, dif_pos known, dif_pos identified]
  simp only [identity.platform_normal, identity.executable_stripped, identity.bundle_normal,
    identity.package_normal, identity.display_stripped]

end ApplicationIdentity

/-- The texts of values that are no strings. -/
structure Reading where
  str : Json → String
  floatOrEmpty : String → String
  floatIsOne : String → Bool

/-- `_identity_dict`, and the application in `RoutingRule.to_dict`. -/
def identityDict (identity : ApplicationIdentity casing) : Json :=
  .object [("platform", .string identity.platform),
    ("executable_path", .string identity.executablePath),
    ("bundle_id", .string identity.bundleId), ("package_id", .string identity.packageId),
    ("display_name", .string identity.displayName)]

/-- `str(value or "")`. -/
def Reading.strOrEmpty (reading : Reading) : Json → String
  | .null => ""
  | .bool value => if value then "True" else ""
  | .int value => if value = 0 then "" else toString value
  | .float text => reading.floatOrEmpty text
  | .string value => value
  | .array [] => ""
  | .object [] => ""
  | value => reading.str value

/-- `bool(value)`. -/
def Reading.bool (reading : Reading) : Json → Bool
  | .null => false
  | .bool value => value
  | .int value => value ≠ 0
  | .float text => reading.floatOrEmpty text ≠ ""
  | .string value => value ≠ ""
  | .array values => !values.isEmpty
  | .object entries => !entries.isEmpty

def fieldNames : List String :=
  ["platform", "executable_path", "bundle_id", "package_id", "display_name"]

/-- `ApplicationIdentity(**item)`. -/
def fromItem (casing : Casing) (reading : Reading) :
    Json → Except Raised (ApplicationIdentity casing)
  | .object entries =>
      if (entries.map Prod.fst).all fun key => decide (key ∈ fieldNames) then
        match entries.lookup "platform" with
        | none => .error .typeError
        | some platform =>
            let field (name : String) := (entries.lookup name).elim "" reading.strOrEmpty
            ApplicationIdentity.create casing (reading.strOrEmpty platform)
              (field "executable_path") (field "bundle_id") (field "package_id")
              (field "display_name")
      else .error .typeError
  | _ => .error .typeError

theorem fromItem_identityDict (reading : Reading) (identity : ApplicationIdentity casing) :
    fromItem casing reading (identityDict identity) = .ok identity := by
  have known : (["platform", "executable_path", "bundle_id", "package_id", "display_name"]).all
      (fun key => decide (key ∈ fieldNames)) = true := by decide
  rw [identityDict, fromItem]
  simp only [List.map_cons, List.map_nil]
  rw [if_pos known]
  exact identity.create_self

end ProxyLauncher.Routing

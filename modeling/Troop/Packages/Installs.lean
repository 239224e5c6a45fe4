import Troop.Packages.Marketplace

namespace Troop.Packages

structure Package where
  id : String
  workspaceId : String
  slug : String
  kind : String
  sourceMarketplaceSlug : Option String
deriving DecidableEq

structure Version where
  id : String
  packageId : String
  versionNumber : Nat
  payload : Dict Json
  manifest : Manifest
  trust : Trust
  createdBy : Option String

abbrev Permission := PermissionKey × String

structure Installation where
  workspaceId : String
  packageId : String
  installedVersionId : String
  accepted : Permission → Prop

structure World where
  library : Library := {}
  packages : List Package := []
  versions : List Version := []
  installations : List Installation := []

structure Service where
  signing : Signing
  market : Marketplace

section Reads

variable (w : World)

def World.ownedPackage? (workspaceId packageId : String) : Option Package :=
  w.packages.find? fun package => package.id = packageId ∧ package.workspaceId = workspaceId

def World.version? (packageId versionId : String) : Option Version :=
  w.versions.find? fun version => version.id = versionId ∧ version.packageId = packageId

def World.installation? (workspaceId packageId : String) : Option Installation :=
  w.installations.find? fun row => row.workspaceId = workspaceId ∧ row.packageId = packageId

def World.latestNumber (packageId : String) : Nat :=
  ((w.versions.filter fun version => version.packageId = packageId).map Version.versionNumber).foldl max 0

end Reads

variable (service : Service)

/-- `_create_signed_version` -/
def signedVersion (package : Package) (userId : String) (payload : Dict Json) (id : String) (number : Nat) : Version :=
  { id := id
    packageId := package.id
    versionNumber := number
    payload := payload
    manifest := extractPermissionManifest payload package.kind
    trust := signWorkspacePackage service.signing (contentHash service.signing payload) userId
    createdBy := some userId }

def World.addVersion (w : World) (package : Package) (userId : String) (payload : Dict Json) (number : Nat) : World :=
  { w with
    library := { w.library with drawn := w.library.drawn + 1 }
    versions := w.versions ++
      [signedVersion service package userId payload (service.market.uuid4 w.library.drawn) number] }

def setDefault (payload : Dict Json) (key : String) (value : Json) : Dict Json :=
  if (payload.get? key).isSome then payload else payload.set key value

def snapshotMarketplaceItem (kind slug : String) : Except HttpError (Dict Json) :=
  let market := service.market
  if kind = "skill" then
    match findItem market.skills slug with
    | some item => .ok (Dict.set item "required_tools" (.arr (listAt item "required_tools")))
    | none => .error ⟨404, "marketplace skill not found"⟩
  else if kind = "workflow" then
    match findItem market.workflows slug with
    | some item => .ok (setDefault (setDefault item "nodes" (.arr (listAt item "nodes"))) "edges" (.arr (listAt item "edges")))
    | none => .error ⟨404, "marketplace workflow not found"⟩
  else if kind = "department" then
    match findItem market.departments slug with
    | some item => .ok item
    | none => .error ⟨404, "marketplace department not found"⟩
  else if kind = "agent_template" then
    match findItem market.agentTemplates slug with
    | some item => .ok (Dict.set item "allowed_tools" (.arr (listAt item "allowed_tools")))
    | none => .error ⟨404, "marketplace agent template not found"⟩
  else .error ⟨422, "invalid package kind"⟩

def packageSlug (kind marketplaceSlug : String) : String :=
  String.ofList ((Text.replaceChar '/' '-' (kind ++ "-" ++ marketplaceSlug)).toList.take 120)

def createFromMarketplace (workspaceId userId kind marketplaceSlug : String) (w : World) : Except HttpError String × World :=
  match snapshotMarketplaceItem service kind marketplaceSlug with
  | .error error => (.error error, w)
  | .ok payload =>
    let slug := packageSlug kind marketplaceSlug
    if w.packages.any fun package => package.workspaceId = workspaceId ∧ package.slug = slug then
      (.error ⟨409, "workspace package already exists"⟩, w)
    else
      let package : Package :=
        ⟨service.market.uuid4 w.library.drawn, workspaceId, slug, kind, some marketplaceSlug⟩
      let added : World :=
        { w with library := { w.library with drawn := w.library.drawn + 1 }, packages := w.packages ++ [package] }
      (.ok package.id, added.addVersion service package userId payload 1)

def publishVersion (workspaceId userId packageId : String) (payload : Dict Json) (w : World) : Except HttpError String × World :=
  match w.ownedPackage? workspaceId packageId with
  | none => (.error ⟨404, "workspace package not found"⟩, w)
  | some package => (.ok package.id, w.addVersion service package userId payload (w.latestNumber package.id + 1))

structure InstallRequest where
  workspaceId : String
  userId : String
  packageId : String
  versionId : String
  acceptPermissionChanges : Bool
  applyMarketplaceInstall : Bool
deriving DecidableEq, Repr

/-- `_apply_marketplace_payload`: of the payload it reads a department's company only. -/
def applyMarketplacePayload (userId kind marketplaceSlug : String) (payload : Dict Json) (library : Library) : Result :=
  let market := service.market
  if kind = "skill" then installSkill market userId marketplaceSlug library
  else if kind = "workflow" then installWorkflow market userId marketplaceSlug library
  else if kind = "department" then
    let companyId := (payload.get "company_id").strOrEmpty
    if companyId = "" then (.error ⟨422, "company_id required for department install"⟩, library)
    else installOther market market.departments "department" companyId marketplaceSlug library
  else if kind = "agent_template" then
    installOther market market.agentTemplates "agent template" "" marketplaceSlug library
  else (.error ⟨422, "unsupported package kind"⟩, library)

def verifies (version : Version) (userId : String) : Bool :=
  let digest := if version.trust.contentHash = "" then contentHash service.signing version.payload
    else version.trust.contentHash
  let creator := version.createdBy.getD ""
  verifyWorkspacePackageSignature service.signing digest (if creator = "" then userId else creator) version.trust

/-- `_installed_manifest`, where there is an installation. -/
def previousManifest (w : World) (package : Package) : Option Installation → Except HttpError (Option Manifest)
  | none => .ok none
  | some installation =>
    match w.version? package.id installation.installedVersionId with
    | some version => .ok (some version.manifest)
    | none => .error ⟨404, "package version not found"⟩

def applied (request : InstallRequest) (package : Package) (version : Version) (library : Library) :
    Except HttpError (Option String) × Library :=
  match package.sourceMarketplaceSlug with
  | some slug =>
    if request.applyMarketplaceInstall ∧ slug ≠ "" then
      match applyMarketplacePayload service request.userId package.kind slug version.payload library with
      | (.ok installed, after) => (.ok (some installed), after)
      | (.error error, after) => (.error error, after)
    else (.ok none, library)
  | none => (.ok none, library)

def Manifest.grants (manifest : Manifest) (permission : Permission) : Prop := permission.2 ∈ manifest permission.1

def acceptedAfter (request : InstallRequest) (version : Version) (installation : Option Installation) : Permission → Prop :=
  if request.acceptPermissionChanges then version.manifest.grants
  else match installation with
    | some row => row.accepted
    | none => fun _ => False

def World.recordInstallation (w : World) (request : InstallRequest) (package : Package) (version : Version)
    (library : Library) : World :=
  let installation := w.installation? request.workspaceId package.id
  let row : Installation :=
    ⟨request.workspaceId, package.id, version.id, acceptedAfter request version installation⟩
  { w with
    library := library
    installations := row :: w.installations.filter fun other =>
      ¬ (other.workspaceId = request.workspaceId ∧ other.packageId = package.id) }

structure Installed where
  status : String
  packageId : String
  installedVersionId : String
  permissionDiff : PermissionDiff
  marketplace : Option String

def installOrUpgrade (request : InstallRequest) (w : World) : Except HttpError Installed × World :=
  match w.ownedPackage? request.workspaceId request.packageId with
  | none => (.error ⟨404, "workspace package not found"⟩, w)
  | some package =>
    match w.version? package.id request.versionId with
    | none => (.error ⟨404, "package version not found"⟩, w)
    | some version =>
      if ¬ verifies service version request.userId then (.error ⟨422, "package signature verification failed"⟩, w)
      else
        let installation := w.installation? request.workspaceId package.id
        match previousManifest w package installation with
        | .error error => (.error error, w)
        | .ok previous =>
          let diff := diffPermissionManifests previous version.manifest
          if diff.requiresExplicitAcceptance ∧ ¬ request.acceptPermissionChanges then
            (.error ⟨409, "Upgrade adds permissions — explicit acceptance required"⟩, w)
          else
            match applied service request package version w.library with
            | (.error error, library) => (.error error, { w with library })
            | (.ok marketplace, library) =>
              (.ok ⟨if installation.isSome then "upgraded" else "installed", package.id, version.id, diff, marketplace⟩,
                w.recordInstallation request package version library)

end Troop.Packages

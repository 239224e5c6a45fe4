import Mathlib.Data.List.Sort
import Troop.Retrieval.Matches

namespace Troop.Retrieval

open List
open Text (lower lower_lower strip)

inductive DriveProvider where
  | google
  | microsoft
deriving DecidableEq

/-- `file_body.get("permissions") or []` -/
def permissionItems (fileBody : Dict Json) : List Json :=
  match fileBody.get "permissions" with
  | .arr items => items
  | _ => []

def aclSnapshot (ownerEmail : String) (allowedEmails : List String) (isPublic : Bool) : Json :=
  .obj [("owner_email", .str ownerEmail),
    ("allowed_emails", .arr ((allowedEmails.dedup.insertionSort (· ≤ ·)).map Json.str)),
    ("public", .bool isPublic)]

section Google

/-- `(file_body.get("owners") or [{}])[0]` -/
def firstOwner (fileBody : Dict Json) : Json :=
  match fileBody.get "owners" with
  | .arr (owner :: _) => owner
  | _ => .obj []

def googleOwner (fileBody : Dict Json) (ownerEmail : Option String) : String :=
  (((firstOwner fileBody).get "emailAddress").pyOr (.ofOption ownerEmail)).strOrEmpty

def googleEmail (item : Json) : String := (item.get "emailAddress").strOrEmpty

def forAnyone (item : Json) : Bool := (item.get "type").strOrEmpty = "anyone"

/-- The loop of `normalize_google_drive_acl`, with whether it returns early. -/
def scanGoogle (permissions : List String) : List Json → List String × Bool
  | [] => (permissions, false)
  | item :: rest =>
    let email := Text.lower (Text.strip (googleEmail item))
    if email ≠ "" then scanGoogle (permissions ++ [email]) rest
    else if forAnyone item then (permissions, true)
    else scanGoogle permissions rest

def normalizeGoogleDriveAcl (fileBody : Dict Json) (ownerEmail : Option String) : Json :=
  match scanGoogle [] (permissionItems fileBody) with
  | (permissions, true) => aclSnapshot (Text.lower (ownerEmail.getD "")) permissions true
  | (permissions, false) =>
    let owner := Text.lower (googleOwner fileBody ownerEmail)
    aclSnapshot owner ((owner :: permissions).filter (· ≠ "")) false

end Google

section Microsoft

/-- `user.get("email") or user.get("userPrincipalName")` -/
def graphEmail (user : Json) : Json := (user.get "email").pyOr (user.get "userPrincipalName")

def microsoftOwner (fileBody : Dict Json) (ownerEmail : Option String) : String :=
  ((graphEmail ((fileBody.get "createdBy").get "user")).pyOr (.ofOption ownerEmail)).strOrEmpty

def microsoftEmail (item : Json) : String :=
  (graphEmail (((item.get "grantedToV2").pyOr (item.get "grantedTo")).get "user")).strOrEmpty

def linkScope (item : Json) : Json := (item.get "link").get "scope"

def linkForAnyone (item : Json) : Bool := linkScope item = .str "anonymous"

def linkForOrganization (item : Json) : Bool := linkScope item = .str "organization"

/-- The loop of `normalize_microsoft_drive_acl`, which returns at the first link of either scope. -/
def scanMicrosoft (allowed : List String) : List Json → List String × Bool
  | [] => (allowed, false)
  | item :: rest =>
    let email := Text.lower (microsoftEmail item)
    let allowed := if email ≠ "" then allowed ++ [email] else allowed
    if linkForAnyone item || linkForOrganization item then (allowed, linkForAnyone item)
    else scanMicrosoft allowed rest

def normalizeMicrosoftDriveAcl (fileBody : Dict Json) (ownerEmail : Option String) : Json :=
  let owner := Text.lower (microsoftOwner fileBody ownerEmail)
  let (allowed, isPublic) := scanMicrosoft (if owner ≠ "" then [owner] else []) (permissionItems fileBody)
  aclSnapshot owner allowed isPublic

end Microsoft

namespace DriveProvider

variable (provider : DriveProvider) (fileBody : Dict Json) (ownerEmail : Option String)

def normalize : Json :=
  match provider with
  | google => normalizeGoogleDriveAcl fileBody ownerEmail
  | microsoft => normalizeMicrosoftDriveAcl fileBody ownerEmail

def owner : String :=
  match provider with
  | google => googleOwner fileBody ownerEmail
  | microsoft => microsoftOwner fileBody ownerEmail

def email (item : Json) : String :=
  match provider with
  | google => googleEmail item
  | microsoft => microsoftEmail item

def anonymous (item : Json) : Bool :=
  match provider with
  | google => forAnyone item
  | microsoft => linkForAnyone item

def reads (items : List Json) (actor : String) : Bool :=
  actorCanReadAcl (provider.normalize (fileBody.set "permissions" (.arr items)) ownerEmail) actor

/-- What a snapshot of a body promises: the order of the entries does not matter, the owner and the users named have access, no
    entry takes access away, and everyone has it by an anonymous entry only. -/
structure Lawful : Prop where
  orderFree : ∀ others, others.Perm (permissionItems fileBody) → ∀ actor,
    provider.reads fileBody ownerEmail others actor = actorCanReadAcl (provider.normalize fileBody ownerEmail) actor
  owner : Text.strip (provider.owner fileBody ownerEmail) ≠ "" →
    actorCanReadAcl (provider.normalize fileBody ownerEmail) (provider.owner fileBody ownerEmail) = true
  users : ∀ item ∈ permissionItems fileBody, Text.strip (provider.email item) ≠ "" →
    actorCanReadAcl (provider.normalize fileBody ownerEmail) (provider.email item) = true
  grows : ∀ before entry after, permissionItems fileBody = before ++ entry :: after → ∀ actor,
    provider.reads fileBody ownerEmail (before ++ after) actor = true →
    actorCanReadAcl (provider.normalize fileBody ownerEmail) actor = true
  everyone : (∀ actor, actorCanReadAcl (provider.normalize fileBody ownerEmail) actor = true) ↔
    ∃ item ∈ permissionItems fileBody, provider.anonymous item = true

end DriveProvider

def checked (address : String) : String := Text.lower (Text.strip address)

section Conditions

variable (fileBody : Dict Json) (ownerEmail : Option String)

def openToAnyone (item : Json) : Bool := checked (googleEmail item) = "" && forAnyone item

def GooglePlain : Prop :=
  ((∃ item ∈ permissionItems fileBody, forAnyone item = true) → ∃ item ∈ permissionItems fileBody, openToAnyone item = true) ∧
  ((∃ item ∈ permissionItems fileBody, openToAnyone item = true) ∨ checked (googleOwner fileBody ownerEmail) = "" ∨
    checked (googleOwner fileBody ownerEmail) = Text.lower (googleOwner fileBody ownerEmail) ∨
    ∃ item ∈ permissionItems fileBody, checked (googleEmail item) = checked (googleOwner fileBody ownerEmail))

def Addressed (items : List Json) (address : String) : Prop :=
  address ≠ "" ∧ (address = checked (microsoftOwner fileBody ownerEmail) ∨ ∃ item ∈ items, address = checked (microsoftEmail item))

def Clean (items : List Json) (address : String) : Prop :=
  address = Text.lower (microsoftOwner fileBody ownerEmail) ∨ ∃ item ∈ items, address = Text.lower (microsoftEmail item)

def MicrosoftPlain : Prop :=
  ((∃ item ∈ permissionItems fileBody, linkForAnyone item = true) ∧
    ¬ ∃ item ∈ permissionItems fileBody, linkForOrganization item = true) ∨
  ((¬ ∃ item ∈ permissionItems fileBody, linkForAnyone item = true) ∧
    (∀ address, Addressed fileBody ownerEmail (permissionItems fileBody) address →
      Clean fileBody ownerEmail (permissionItems fileBody) address) ∧
    ∀ link ∈ permissionItems fileBody, linkForOrganization link = true →
      ∀ address, Addressed fileBody ownerEmail (permissionItems fileBody) address → Clean fileBody ownerEmail [link] address)

end Conditions

def DriveProvider.Plain (provider : DriveProvider) (fileBody : Dict Json) (ownerEmail : Option String) : Prop :=
  match provider with
  | google => GooglePlain fileBody ownerEmail
  | microsoft => MicrosoftPlain fileBody ownerEmail

section Snapshots

theorem checked_checked (address : String) : checked (checked address) = checked address := by
  unfold checked
  rw [Text.strip_lower, lower_lower, Text.strip_strip]

theorem checked_lower (address : String) : checked (Text.lower address) = checked address := by
  unfold checked
  rw [Text.strip_lower, lower_lower]

theorem reads_snapshot {owner : String} {allowed : List String} {isPublic : Bool} {actor : String} :
    actorCanReadAcl (aclSnapshot owner allowed isPublic) actor = true ↔
      isPublic = true ∨ checked actor ≠ "" ∧ (checked actor = Text.lower owner ∨ ∃ email ∈ allowed, checked actor = Text.lower email) := by
  have shared : (aclSnapshot owner allowed isPublic).get "public" = .bool isPublic := by
    simp [aclSnapshot, Dict.get_eq, Dict.get?_cons]
  have emails : (aclSnapshot owner allowed isPublic).get "allowed_emails" =
      .arr ((allowed.dedup.insertionSort (· ≤ ·)).map Json.str) := by
    simp [aclSnapshot, Dict.get_eq, Dict.get?_cons]
  have owned : (aclSnapshot owner allowed isPublic).get "owner_email" = .str owner := by
    simp [aclSnapshot, Dict.get_eq, Dict.get?_cons]
  unfold actorCanReadAcl
  rw [shared, emails, owned]
  rw [if_neg (by simp [aclSnapshot, Json.truthy])]
  cases isPublic with
  | true => simp
  | false =>
    by_cases blank : checked actor = ""
    · simp [checked] at blank
      simp [checked, blank]
    · unfold checked at blank ⊢
      have listed : lower (strip actor) ∈ (((allowed.dedup.insertionSort (· ≤ ·)).map Json.str).map
          fun item => lower item.pyStr) ↔ ∃ email ∈ allowed, lower (strip actor) = lower email := by
        rw [map_map, mem_map]
        simp only [mem_insertionSort, mem_dedup, Function.comp_apply, Json.pyStr, eq_comm]
      simp_all

theorem permissionItems_set (fileBody : Dict Json) (items : List Json) :
    permissionItems (fileBody.set "permissions" (.arr items)) = items := by
  unfold permissionItems
  rw [Dict.get_set_self]

end Snapshots

section Google

variable {fileBody : Dict Json} {ownerEmail : Option String} {items : List Json} {actor : String}

theorem scanGoogle_public (permissions : List String) (items : List Json) :
    (scanGoogle permissions items).2 = true ↔ ∃ item ∈ items, openToAnyone item = true := by
  induction items generalizing permissions with
  | nil => simp [scanGoogle]
  | cons item rest ih =>
    unfold scanGoogle
    dsimp only
    have closed : checked (googleEmail item) ≠ "" ∨ forAnyone item = false → openToAnyone item = false := by
      unfold openToAnyone
      rintro (named | other) <;> simp [*]
    split
    · rename_i named
      rw [ih]
      simp [closed (.inl named)]
    · rename_i blank
      split
      · rename_i anyone
        have blank : checked (googleEmail item) = "" := not_not.mp blank
        simp [openToAnyone, blank, anyone]
      · simp_all

theorem scanGoogle_emails {permissions found : List String} {items : List Json}
    (scanned : scanGoogle permissions items = (found, false)) (email : String) :
    email ∈ found ↔ email ∈ permissions ∨ email ≠ "" ∧ ∃ item ∈ items, email = checked (googleEmail item) := by
  induction items generalizing permissions with
  | nil =>
    cases scanned
    simp
  | cons item rest ih =>
    unfold scanGoogle at scanned
    dsimp only at scanned
    split at scanned
    · rename_i named
      rw [ih scanned, mem_append, mem_singleton, exists_mem_cons_iff]
      constructor
      · rintro ((old | rfl) | ⟨some_, later⟩)
        · exact .inl old
        · exact .inr ⟨named, .inl rfl⟩
        · exact .inr ⟨some_, .inr later⟩
      · rintro (old | ⟨some_, same | later⟩)
        · exact .inl (.inl old)
        · exact .inl (.inr same)
        · exact .inr ⟨some_, later⟩
    · rename_i blank
      have blank : checked (googleEmail item) = "" := not_not.mp blank
      split at scanned
      · cases scanned
      rw [ih scanned, exists_mem_cons_iff, blank]
      constructor
      · rintro (old | ⟨some_, later⟩)
        · exact .inl old
        · exact .inr ⟨some_, .inr later⟩
      · rintro (old | ⟨some_, empty | later⟩)
        · exact .inl old
        · exact absurd empty some_
        · exact .inr ⟨some_, later⟩

theorem reads_google : actorCanReadAcl (normalizeGoogleDriveAcl fileBody ownerEmail) actor = true ↔
    (∃ item ∈ permissionItems fileBody, openToAnyone item = true) ∨ checked actor ≠ "" ∧
      (checked actor = Text.lower (googleOwner fileBody ownerEmail) ∨
        ∃ item ∈ permissionItems fileBody, checked actor = checked (googleEmail item)) := by
  have opened := scanGoogle_public [] (permissionItems fileBody)
  unfold normalizeGoogleDriveAcl
  cases scanned : scanGoogle [] (permissionItems fileBody) with
  | mk permissions isPublic =>
    rw [scanned] at opened
    cases isPublic with
    | true => simp [reads_snapshot, opened.mp rfl]
    | false =>
      have closed : ¬ ∃ item ∈ permissionItems fileBody, openToAnyone item = true := fun some_ => nomatch opened.mpr some_
      rw [reads_snapshot, lower_lower]
      have listed : checked actor ≠ "" → ((∃ email ∈ (lower (googleOwner fileBody ownerEmail) :: permissions).filter (· ≠ ""),
          checked actor = lower email) ↔ checked actor = lower (googleOwner fileBody ownerEmail) ∨
            ∃ item ∈ permissionItems fileBody, checked actor = checked (googleEmail item)) := by
        intro some_
        constructor
        · rintro ⟨email, kept, same⟩
          rcases mem_cons.mp (mem_of_mem_filter kept) with rfl | permitted
          · rw [lower_lower] at same
            exact .inl same
          · rcases (scanGoogle_emails scanned email).mp permitted with old | ⟨_, item, isThere, rfl⟩
            · cases old
            · refine .inr ⟨item, isThere, ?_⟩
              rw [same]
              exact lower_lower _
        · rintro (same | ⟨item, isThere, same⟩)
          · simp_all [mem_filter, mem_cons_self, lower_lower]
          refine ⟨checked (googleEmail item), mem_filter.mpr ⟨mem_cons_of_mem _ ?_, ?_⟩, ?_⟩
          · exact (scanGoogle_emails scanned _).mpr (.inr ⟨same ▸ some_, item, isThere, rfl⟩)
          · exact decide_eq_true (same ▸ some_)
          · rw [same]
            exact (lower_lower _).symm
      simp only [closed, Bool.false_eq_true, false_or]
      constructor
      · rintro ⟨some_, same | email⟩
        · exact ⟨some_, .inl same⟩
        · exact ⟨some_, (listed some_).mp email⟩
      · simp_all

theorem googleOwner_set : googleOwner (fileBody.set "permissions" (.arr items)) ownerEmail = googleOwner fileBody ownerEmail := by
  unfold googleOwner firstOwner
  rw [Dict.get_set_of_ne _ _ (by decide)]

theorem reads_google_mono {others : List Json} (within : ∀ item ∈ others, item ∈ permissionItems fileBody)
    (read : DriveProvider.google.reads fileBody ownerEmail others actor = true) :
    actorCanReadAcl (normalizeGoogleDriveAcl fileBody ownerEmail) actor = true := by
  have read := reads_google.mp read
  rw [permissionItems_set, googleOwner_set] at read
  rw [reads_google]
  rcases read with ⟨item, isThere, opened⟩ | ⟨some_, owned | ⟨item, isThere, same⟩⟩
  · exact .inl ⟨item, within item isThere, opened⟩
  · exact .inr ⟨some_, .inl owned⟩
  · exact .inr ⟨some_, .inr ⟨item, within item isThere, same⟩⟩

theorem google_plain_of_lawful (lawful : DriveProvider.google.Lawful fileBody ownerEmail) :
    GooglePlain fileBody ownerEmail := by
  constructor
  · intro anyone
    have nobody := reads_google.mp (lawful.everyone.mpr anyone "")
    exact nobody.resolve_right fun blank => blank.1 rfl
  · by_cases blank : checked (googleOwner fileBody ownerEmail) = ""
    · exact .inr (.inl blank)
    have read := lawful.owner fun empty => blank (Text.lower_eq_empty.mpr empty)
    rcases reads_google.mp read with opened | ⟨_, owned | ⟨item, isThere, same⟩⟩
    · exact .inl opened
    · exact .inr (.inr (.inl owned))
    · exact .inr (.inr (.inr ⟨item, isThere, same.symm⟩))

theorem google_lawful_of_plain (plain : GooglePlain fileBody ownerEmail) :
    DriveProvider.google.Lawful fileBody ownerEmail where
  orderFree others same actor := by
    rw [Bool.eq_iff_iff]
    constructor
    · exact reads_google_mono fun item isThere => same.mem_iff.mp isThere
    · intro read
      apply reads_google.mpr
      rw [permissionItems_set, googleOwner_set]
      simpa only [same.mem_iff] using reads_google.mp read
  owner named := by
    apply reads_google.mpr
    have some_ : checked (googleOwner fileBody ownerEmail) ≠ "" := fun empty => named (Text.lower_eq_empty.mp empty)
    rcases plain.2 with opened | blank | same | ⟨item, isThere, same⟩
    · exact .inl opened
    · exact absurd blank some_
    · exact .inr ⟨some_, .inl same⟩
    · exact .inr ⟨some_, .inr ⟨item, isThere, same.symm⟩⟩
  users item isThere named := by
    apply reads_google.mpr
    exact .inr ⟨fun empty => named (Text.lower_eq_empty.mp empty), .inr ⟨item, isThere, rfl⟩⟩
  grows before entry after split actor := by
    apply reads_google_mono
    intro item isThere
    rw [split]
    rcases mem_append.mp isThere with early | late
    · exact mem_append_left _ early
    · exact mem_append_right _ (mem_cons_of_mem _ late)
  everyone := by
    constructor
    · intro all
      obtain ⟨item, isThere, opened⟩ := (reads_google.mp (all "")).resolve_right fun blank => blank.1 rfl
      exact ⟨item, isThere, (Bool.and_eq_true _ _ ▸ opened).2⟩
    · intro anyone actor
      exact reads_google.mpr (.inl (plain.1 anyone))

end Google

section Microsoft

variable {fileBody : Dict Json} {ownerEmail : Option String} {items : List Json} {actor : String}

def seen : List Json → List Json
  | [] => []
  | item :: rest => if linkForAnyone item || linkForOrganization item then [item] else item :: seen rest

def opened (items : List Json) : Bool :=
  (items.find? fun item => linkForAnyone item || linkForOrganization item).any linkForAnyone

def Admits (fileBody : Dict Json) (ownerEmail : Option String) (items : List Json) (actor : String) : Prop :=
  opened items = true ∨ checked actor ≠ "" ∧ Clean fileBody ownerEmail (seen items) (checked actor)

theorem seen_sublist (items : List Json) : (seen items).Sublist items := by
  induction items with
  | nil => exact Sublist.refl _
  | cons item rest ih =>
    unfold seen
    split
    · exact (nil_sublist rest).cons_cons item
    · exact ih.cons_cons item

theorem scanMicrosoft_public (allowed : List String) (items : List Json) : (scanMicrosoft allowed items).2 = opened items := by
  induction items generalizing allowed with
  | nil => rfl
  | cons item rest ih =>
    unfold scanMicrosoft opened
    rw [find?_cons]
    cases link : linkForAnyone item || linkForOrganization item with
    | true => rfl
    | false => exact ih _

theorem scanMicrosoft_emails (allowed : List String) (items : List Json) (email : String) :
    email ∈ (scanMicrosoft allowed items).1 ↔
      email ∈ allowed ∨ email ≠ "" ∧ ∃ item ∈ seen items, email = Text.lower (microsoftEmail item) := by
  induction items generalizing allowed with
  | nil => simp [scanMicrosoft, seen]
  | cons item rest ih =>
    have added : email ∈ (if lower (microsoftEmail item) ≠ "" then allowed ++ [lower (microsoftEmail item)] else allowed) ↔
        email ∈ allowed ∨ email ≠ "" ∧ email = lower (microsoftEmail item) := by
      split
      · rename_i named
        rw [mem_append, mem_singleton]
        constructor
        · rintro (old | rfl)
          · exact .inl old
          · exact .inr ⟨named, rfl⟩
        · exact Or.imp_right And.right
      · rename_i blank
        constructor
        · exact .inl
        · rintro (old | ⟨some_, rfl⟩)
          · exact old
          · exact absurd some_ blank
    unfold scanMicrosoft seen
    split
    · simp_all
    · rw [ih, added, exists_mem_cons_iff, or_assoc, ← and_or_left]

theorem reads_microsoft : actorCanReadAcl (normalizeMicrosoftDriveAcl fileBody ownerEmail) actor = true ↔
    Admits fileBody ownerEmail (permissionItems fileBody) actor := by
  unfold normalizeMicrosoftDriveAcl Admits
  rw [reads_snapshot, scanMicrosoft_public, lower_lower]
  have listed : checked actor ≠ "" → ((∃ email ∈ (scanMicrosoft (if lower (microsoftOwner fileBody ownerEmail) ≠ "" then
      [lower (microsoftOwner fileBody ownerEmail)] else []) (permissionItems fileBody)).1, checked actor = lower email) →
      Clean fileBody ownerEmail (seen (permissionItems fileBody)) (checked actor)) := by
    rintro some_ ⟨email, found, same⟩
    rcases (scanMicrosoft_emails _ _ email).mp found with started | ⟨_, item, isThere, rfl⟩
    · split at started
      · rw [mem_singleton.mp started, lower_lower] at same
        exact .inl same
      · cases started
    · rw [lower_lower] at same
      exact .inr ⟨item, isThere, same⟩
  constructor
  · rintro (openly | ⟨some_, same | email⟩)
    · exact .inl openly
    · exact .inr ⟨some_, .inl same⟩
    · exact .inr ⟨some_, listed some_ email⟩
  · rintro (openly | ⟨some_, same | ⟨item, isThere, same⟩⟩)
    · exact .inl openly
    · exact .inr ⟨some_, .inl same⟩
    · refine .inr ⟨some_, .inr ⟨lower (microsoftEmail item), ?_, same.trans (lower_lower _).symm⟩⟩
      exact (scanMicrosoft_emails _ _ _).mpr (.inr ⟨same ▸ some_, item, isThere, rfl⟩)

theorem microsoftOwner_set :
    microsoftOwner (fileBody.set "permissions" (.arr items)) ownerEmail = microsoftOwner fileBody ownerEmail := by
  unfold microsoftOwner
  rw [Dict.get_set_of_ne _ _ (by decide)]

theorem Clean.mono {others : List Json} {address : String} (clean : Clean fileBody ownerEmail items address)
    (within : ∀ item ∈ items, item ∈ others) : Clean fileBody ownerEmail others address := by
  rcases clean with owned | ⟨item, isThere, same⟩
  · exact .inl owned
  · exact .inr ⟨item, within item isThere, same⟩

theorem reads_microsoft_set : DriveProvider.microsoft.reads fileBody ownerEmail items actor = true ↔
    Admits fileBody ownerEmail items actor := by
  have read := @reads_microsoft (fileBody.set "permissions" (.arr items)) ownerEmail actor
  rw [permissionItems_set] at read
  refine read.trans ?_
  unfold Admits Clean
  rw [microsoftOwner_set]

theorem not_opened (closed : ∀ item ∈ items, linkForAnyone item = false) : opened items = false := by
  unfold opened
  cases found : items.find? fun item => linkForAnyone item || linkForOrganization item with
  | none => rfl
  | some item => exact closed item (mem_of_find?_eq_some found)

theorem opened_of_anyone (anyone : ∃ item ∈ items, linkForAnyone item = true)
    (only : ∀ item ∈ items, linkForOrganization item = false) : opened items = true := by
  obtain ⟨item, isThere, anonymous⟩ := anyone
  unfold opened
  cases found : items.find? fun item => linkForAnyone item || linkForOrganization item with
  | none => simp_all
  | some first => grind

theorem Clean.addressed (clean : Clean fileBody ownerEmail items (checked actor)) (some_ : checked actor ≠ "") :
    Addressed fileBody ownerEmail items (checked actor) := by
  refine ⟨some_, ?_⟩
  rcases clean with owned | ⟨item, isThere, same⟩
  · left
    rw [← checked_checked, owned, checked_lower]
  · right
    refine ⟨item, isThere, ?_⟩
    rw [← checked_checked, same, checked_lower]

theorem seen_clean {address : String} (clean : Clean fileBody ownerEmail items address)
    (closed : ∀ item ∈ items, linkForAnyone item = false)
    (linked : ∀ link ∈ items, linkForOrganization link = true → Clean fileBody ownerEmail [link] address) :
    Clean fileBody ownerEmail (seen items) address := by
  induction items with
  | nil => exact clean
  | cons item rest ih =>
    unfold seen
    split
    · simp_all
    rcases clean with owned | ⟨other, isThere, same⟩
    · exact .inl owned
    rcases mem_cons.mp isThere with rfl | later
    · exact .inr ⟨other, mem_cons_self, same⟩
    · have further := ih (.inr ⟨other, later, same⟩) (fun one isOne => closed one (mem_cons_of_mem _ isOne))
        fun link isLink => linked link (mem_cons_of_mem _ isLink)
      exact further.mono fun one isOne => mem_cons_of_mem _ isOne

theorem admits_iff (closed : ∀ item ∈ permissionItems fileBody, linkForAnyone item = false)
    (clean : ∀ address, Addressed fileBody ownerEmail (permissionItems fileBody) address →
      Clean fileBody ownerEmail (permissionItems fileBody) address)
    (linked : ∀ link ∈ permissionItems fileBody, linkForOrganization link = true →
      ∀ address, Addressed fileBody ownerEmail (permissionItems fileBody) address → Clean fileBody ownerEmail [link] address)
    (same : items.Perm (permissionItems fileBody)) :
    Admits fileBody ownerEmail items actor ↔ Addressed fileBody ownerEmail (permissionItems fileBody) (checked actor) := by
  have closedHere : ∀ item ∈ items, linkForAnyone item = false := fun item isThere => closed item (same.mem_iff.mp isThere)
  constructor
  · rintro (openly | ⟨some_, found⟩)
    · simp [not_opened closedHere] at openly
    · have within : ∀ item ∈ seen items, item ∈ permissionItems fileBody :=
        fun item isSeen => same.mem_iff.mp ((seen_sublist items).subset isSeen)
      exact (found.mono within).addressed some_
  · intro addressed
    refine .inr ⟨addressed.1, seen_clean ?_ closedHere ?_⟩
    · exact (clean _ addressed).mono fun item isThere => same.mem_iff.mpr isThere
    · exact fun link isThere isLink => linked link (same.mem_iff.mp isThere) isLink _ addressed

theorem addressed_owner (named : Text.strip (microsoftOwner fileBody ownerEmail) ≠ "") :
    Addressed fileBody ownerEmail items (checked (microsoftOwner fileBody ownerEmail)) :=
  ⟨fun empty => named (Text.lower_eq_empty.mp empty), .inl rfl⟩

theorem addressed_user {item : Json} (isThere : item ∈ items) (named : Text.strip (microsoftEmail item) ≠ "") :
    Addressed fileBody ownerEmail items (checked (microsoftEmail item)) :=
  ⟨fun empty => named (Text.lower_eq_empty.mp empty), .inr ⟨item, isThere, rfl⟩⟩

theorem Lawful.admits (lawful : DriveProvider.microsoft.Lawful fileBody ownerEmail) {address : String}
    (addressed : Addressed fileBody ownerEmail (permissionItems fileBody) address)
    (same : items.Perm (permissionItems fileBody)) (closed : opened items = false) :
    Clean fileBody ownerEmail (seen items) address := by
  obtain ⟨actor, rfl, read⟩ : ∃ actor, address = checked actor ∧
      actorCanReadAcl (normalizeMicrosoftDriveAcl fileBody ownerEmail) actor = true := by
    rcases addressed with ⟨some_, rfl | ⟨item, isThere, rfl⟩⟩
    · exact ⟨_, rfl, lawful.owner fun empty => some_ (Text.lower_eq_empty.mpr empty)⟩
    · exact ⟨_, rfl, lawful.users item isThere fun empty => some_ (Text.lower_eq_empty.mpr empty)⟩
  have ordered := lawful.orderFree items same actor
  have admitted := reads_microsoft_set.mp (ordered.trans read)
  rcases admitted with openly | ⟨_, clean⟩
  · simp [closed] at openly
  · exact clean

theorem microsoft_plain_of_lawful (lawful : DriveProvider.microsoft.Lawful fileBody ownerEmail) :
    MicrosoftPlain fileBody ownerEmail := by
  -- the order in which a link for the organization comes first
  have first {link : Json} (isThere : link ∈ permissionItems fileBody) (isLink : linkForOrganization link = true)
      : (link :: (permissionItems fileBody).erase link).Perm (permissionItems fileBody) ∧
        seen (link :: (permissionItems fileBody).erase link) = [link] ∧
        opened (link :: (permissionItems fileBody).erase link) = false := by
    have other : linkForAnyone link = false := by
      unfold linkForAnyone linkForOrganization at *
      simp_all
    refine ⟨(perm_cons_erase isThere).symm, ?_, ?_⟩
    · simp [seen, isLink]
    · simp [opened, isLink, other]
  by_cases anyone : ∃ item ∈ permissionItems fileBody, linkForAnyone item = true
  · left
    refine ⟨anyone, ?_⟩
    rintro ⟨link, isThere, isLink⟩
    obtain ⟨same, _, closed⟩ := first isThere isLink
    have ordered := lawful.orderFree _ same ""
    have admitted := reads_microsoft_set.mp (ordered.trans (lawful.everyone.mpr anyone ""))
    rcases admitted with openly | ⟨blank, _⟩
    · simp [closed] at openly
    · exact blank rfl
  · right
    refine ⟨anyone, ?_, ?_⟩
    · intro address addressed
      have closed : opened (permissionItems fileBody) = false := by
        apply not_opened
        intro item isThere
        exact Bool.eq_false_iff.mpr fun anonymous => anyone ⟨item, isThere, anonymous⟩
      exact (Lawful.admits lawful addressed (Perm.refl _) closed).mono fun item isSeen => (seen_sublist _).subset isSeen
    · grind [Lawful.admits]

theorem microsoft_lawful_of_plain (plain : MicrosoftPlain fileBody ownerEmail) :
    DriveProvider.microsoft.Lawful fileBody ownerEmail := by
  rcases plain with ⟨anyone, only⟩ | ⟨none_, clean, linked⟩
  · have only : ∀ item ∈ permissionItems fileBody, linkForOrganization item = false :=
      fun item isThere => Bool.eq_false_iff.mpr fun isLink => only ⟨item, isThere, isLink⟩
    have all (actor : String) : actorCanReadAcl (normalizeMicrosoftDriveAcl fileBody ownerEmail) actor = true :=
      reads_microsoft.mpr (.inl (opened_of_anyone anyone only))
    refine ⟨?_, fun _ => all _, fun _ _ _ => all _, fun _ _ _ _ actor _ => all actor, fun _ => anyone, fun _ => all⟩
    intro others same actor
    refine Eq.trans (reads_microsoft_set.mpr (.inl (opened_of_anyone ?_ ?_))) (all actor).symm
    · simpa only [same.mem_iff] using anyone
    · exact fun item isThere => only item (same.mem_iff.mp isThere)
  · have closed : ∀ item ∈ permissionItems fileBody, linkForAnyone item = false :=
      fun item isThere => Bool.eq_false_iff.mpr fun anonymous => none_ ⟨item, isThere, anonymous⟩
    have self {actor : String} : actorCanReadAcl (normalizeMicrosoftDriveAcl fileBody ownerEmail) actor = true ↔
        Addressed fileBody ownerEmail (permissionItems fileBody) (checked actor) :=
      reads_microsoft.trans (admits_iff closed clean linked (Perm.refl _))
    refine ⟨?_, fun named => self.mpr (addressed_owner named), fun item isThere named => self.mpr (addressed_user isThere named),
      ?_, ?_, ?_⟩
    · intro others same actor
      rw [Bool.eq_iff_iff]
      exact (reads_microsoft_set.trans (admits_iff closed clean linked same)).trans self.symm
    · intro before entry after split actor read
      have within : ∀ item ∈ before ++ after, item ∈ permissionItems fileBody := by
        intro item isThere
        rw [split]
        rcases mem_append.mp isThere with early | late
        · exact mem_append_left _ early
        · exact mem_append_right _ (mem_cons_of_mem _ late)
      rcases reads_microsoft_set.mp read with openly | ⟨some_, found⟩
      · simp [not_opened fun item isThere => closed item (within item isThere)] at openly
      · have here : ∀ item ∈ seen (before ++ after), item ∈ permissionItems fileBody :=
          fun item isSeen => within item ((seen_sublist (before ++ after)).subset isSeen)
        exact self.mpr ((found.mono here).addressed some_)
    · intro all
      exact absurd rfl (self.mp (all "")).1
    · intro anyone
      exact absurd anyone none_

end Microsoft

def sharedWithin : Dict Json :=
  [("permissions", .arr [.obj [("link", .obj [("scope", .str "organization")])],
    .obj [("grantedToV2", .obj [("user", .obj [("email", .str "reader@troop.example")])])]])]

end Troop.Retrieval

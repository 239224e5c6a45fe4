import Troop.LocalRepo.Sandbox

namespace Troop.LocalRepo

open List

/-- `path.relative_to(root)`, as parts -/
def ResolvedPath.relative (root path : ResolvedPath) : List String := path.parts.drop root.parts.length

/-- `str` of a relative path -/
def relativeText (names : List String) : String := String.ofList (spelled names).tail

/-- A file the settings let be read: it lies strictly below the root and its path from there passes the patterns. Where the denylist
    is the default one, it is no `.env` and not under any `.git`. -/
structure Readable (workspace : Workspace) (root path : ResolvedPath) : Prop where
  within : root.Within path
  strictly : root.relative path ≠ []
  permitted : workspace.permits (relativeText (root.relative path)) = true
  environment : workspace.fileDenylist = defaultFileDenylist → (root.relative path).getLast? ≠ some ".env"
  versions : workspace.fileDenylist = defaultFileDenylist → ".git" ∉ (root.relative path).dropLast

def RunsInside (machine : Machine) (raw : Dict Json) (command : String) (cwd : Option String) (timeoutSeconds : Int) : Prop :=
  ∀ workspace root, opened machine raw = .ok (workspace, root) →
    ∀ launch ∈ (runSafeCommand machine raw command cwd timeoutSeconds).1, root.Within launch.cwd

def ReadsReadable (machine : Machine) (raw : Dict Json) (relativePath : String) (limit : Int) : Prop :=
  ∀ workspace root, opened machine raw = .ok (workspace, root) →
    ∀ file, (readRepoFile machine raw relativePath limit).2 = .ok file →
      ∀ path ∈ (readRepoFile machine raw relativePath limit).1, Readable workspace root path

section Runs

theorem launched_iff {machine : Machine} {raw : Dict Json} {workspace : Workspace} {root : ResolvedPath}
    (settled : opened machine raw = .ok (workspace, root)) (command : String) (cwd : Option String) (timeoutSeconds : Int)
    (launch : Launch) :
    launch ∈ (runSafeCommand machine raw command cwd timeoutSeconds).1 ↔
      commandAllowed command workspace.commandAllowlist = true ∧ workdirOf root cwd = .ok launch.cwd ∧
        Text.startsWith root.text launch.cwd.text = true ∧ launch.args = (shlexSplit command).getD [] ∧
          launch.timeoutSeconds = timeoutSeconds := by
  unfold runSafeCommand
  rw [settled]
  dsimp only
  by_cases allowed : commandAllowed command workspace.commandAllowlist = true
  · rw [if_neg (by rw [allowed]; decide)]
    cases workdir : workdirOf root cwd with
    | error raised => simp
    | ok dir =>
      dsimp only
      by_cases inside : Text.startsWith root.text dir.text = true
      · constructor
        · simp_all
        · rintro ⟨_, same, _, args, seconds⟩
          obtain ⟨launchArgs, launchCwd, launchSeconds⟩ := launch
          simp_all
      · rw [if_pos (Bool.eq_false_iff.mpr inside)]
        constructor
        · exact fun member => absurd member not_mem_nil
        · grind
  · simp_all

theorem runsInside_iff (machine : Machine) (raw : Dict Json) (command : String) (cwd : Option String) (timeoutSeconds : Int) :
    RunsInside machine raw command cwd timeoutSeconds ↔
      ∀ workspace root workdir, opened machine raw = .ok (workspace, root) →
        commandAllowed command workspace.commandAllowlist = true → workdirOf root cwd = .ok workdir →
          ¬ root.ThroughSibling workdir := by
  constructor
  · intro inside workspace root workdir settled allowed found through
    have starts := (startsWith_text_iff root workdir).mpr (.inr through)
    have started := (launched_iff settled command cwd timeoutSeconds ⟨_, workdir, _⟩).mpr ⟨allowed, found, starts, rfl, rfl⟩
    exact through.not_within (inside workspace root settled _ started)
  · intro apart workspace root settled launch started
    obtain ⟨allowed, found, starts, _⟩ := (launched_iff settled command cwd timeoutSeconds launch).mp started
    rcases (startsWith_text_iff root launch.cwd).mp starts with within | through
    · exact within
    · exact absurd through (apart workspace root launch.cwd settled allowed found)

end Runs

section Reads

variable {workspace : Workspace} {names : List String} {root path : ResolvedPath} {machine : Machine} {raw : Dict Json}

theorem relative_append (parts : path.parts = root.parts ++ names) :
    root.relative path = names := by
  rw [ResolvedPath.relative, parts, drop_left]

theorem content_iff {root : ResolvedPath}
    (settled : opened machine raw = .ok (workspace, root)) (relativePath : String) (limit : Int) (path : ResolvedPath) :
    (path ∈ (readRepoFile machine raw relativePath limit).1 ∧ ∃ file, (readRepoFile machine raw relativePath limit).2 = .ok file) ↔
      fileAllowed (relativeSpelling relativePath) workspace = true ∧
        root.resolve (relativeSpelling relativePath) = .ok path ∧ Text.startsWith root.text path.text = true ∧
          machine.isFile path = true ∧ ∃ data, machine.readText path = .ok data := by
  unfold readRepoFile
  rw [settled]
  dsimp only
  by_cases allowed : fileAllowed (relativeSpelling relativePath) workspace = true
  · rw [if_neg (by rw [allowed]; decide)]
    cases resolved : root.resolve (relativeSpelling relativePath) with
    | error raised => simp
    | ok target =>
      dsimp only
      by_cases refused : Text.startsWith root.text target.text = false ∨ machine.isFile target = false
      · rw [if_pos refused]
        constructor
        · exact fun present => absurd present.1 not_mem_nil
        rintro ⟨_, same, starts, stands, _⟩
        cases same
        rcases refused with outside | missing
        · simp [outside] at starts
        · simp [missing] at stands
      · rw [if_neg refused, mem_singleton]
        rw [not_or, Bool.not_eq_false, Bool.not_eq_false] at refused
        constructor
        · rintro ⟨same, file, returned⟩
          subst same
          refine ⟨allowed, rfl, refused.1, refused.2, ?_⟩
          cases data : machine.readText path with
          | error raised =>
            rw [data] at returned
            cases returned
          | ok text => exact ⟨text, rfl⟩
        · rintro ⟨_, same, _, _, data, read⟩
          cases same
          rw [read]
          exact ⟨rfl, _, rfl⟩
  · simp_all

theorem permits_unmatched {rel pattern : String} (permitted : workspace.permits rel = true)
    (denied : pattern ∈ workspace.fileDenylist) : Fnmatch.fnmatch rel pattern = false := by
  rw [Workspace.permits, Bool.and_eq_true, Bool.not_eq_true', any_eq_false] at permitted
  exact Bool.eq_false_iff.mpr (permitted.1 pattern denied)

/-- The default patterns take `.env` in whichever directory. -/
theorem environment_matched (above : List String) :
    Fnmatch.fnmatch (relativeText (above ++ [".env"])) ".env" = true ∨
      Fnmatch.fnmatch (relativeText (above ++ [".env"])) "**/.env" = true := by
  have below : Fnmatch.translate "**/.env" = .star :: .star :: ("/.env".toList.map Fnmatch.Token.literal ++ []) := by decide
  cases above with
  | nil =>
    left
    decide
  | cons first rest =>
    right
    have text : (relativeText (first :: rest ++ [".env"])).toList = (first.toList ++ spelled rest) ++ ("/.env".toList ++ []) := by
      rw [relativeText, String.toList_ofList, spelled_append]
      rfl
    rw [Fnmatch.fnmatch, below, text]
    have end_ := @Fnmatch.accepts_literals "/.env".toList [] [] rfl
    exact @Fnmatch.accepts_star _ [] _ (Fnmatch.accepts_star end_)

theorem versions_matched (first : String) (rest below : List String) (more : below ≠ []) :
    Fnmatch.fnmatch (relativeText (first :: rest ++ ".git" :: below)) "**/.git/**" = true := by
  have pattern : Fnmatch.translate "**/.git/**" =
      .star :: .star :: ("/.git/".toList.map Fnmatch.Token.literal ++ [.star, .star]) := by decide
  cases below with
  | nil => exact absurd rfl more
  | cons next others =>
    have text : (relativeText (first :: rest ++ ".git" :: next :: others)).toList =
        (first.toList ++ spelled rest) ++ ("/.git/".toList ++ (next.toList ++ spelled others)) := by
      rw [relativeText, String.toList_ofList, spelled_append]
      simp [spelled]
    rw [Fnmatch.fnmatch, pattern, text]
    have anything : Fnmatch.accepts [.star, .star] (next.toList ++ spelled others) = true := by
      have nothing : Fnmatch.accepts [.star] ([] ++ []) = true := @Fnmatch.accepts_star _ [] [] rfl
      have all := @Fnmatch.accepts_star _ (next.toList ++ spelled others) _ nothing
      rwa [append_nil, append_nil] at all
    exact @Fnmatch.accepts_star _ [] _ (Fnmatch.accepts_star (Fnmatch.accepts_literals _ anything))

theorem not_environment (default : workspace.fileDenylist = defaultFileDenylist)
    (permitted : workspace.permits (relativeText names) = true) : names.getLast? ≠ some ".env" := by
  intro last
  obtain ⟨above, same⟩ := getLast?_eq_some_iff.mp last
  rw [same] at permitted
  have spared := fun pattern (denied : pattern ∈ defaultFileDenylist) => permits_unmatched permitted (default ▸ denied)
  rcases environment_matched above with top | below
  · rw [spared ".env" (by decide)] at top
    cases top
  · rw [spared "**/.env" (by decide)] at below
    cases below

theorem not_versions (default : workspace.fileDenylist = defaultFileDenylist)
    (permitted : workspace.permits (relativeText names) = true) :
    ".git" ∉ names.dropLast ↔ ¬ ∃ below, below ≠ [] ∧ names = ".git" :: below := by
  constructor
  · grind [dropLast_cons_of_ne_nil, mem_cons_self]
  intro own member
  obtain ⟨above, between, split⟩ := append_of_mem member
  have present : names ≠ [] := by grind
  have whole : names = above ++ ".git" :: (between ++ [names.getLast present]) := by
    calc names = names.dropLast ++ [names.getLast present] := (dropLast_concat_getLast present).symm
      _ = above ++ ".git" :: (between ++ [names.getLast present]) := by rw [split, append_assoc, cons_append]
  have more : between ++ [names.getLast present] ≠ [] := append_ne_nil_of_right_ne_nil _ (cons_ne_nil _ _)
  cases above with
  | nil => exact own ⟨_, more, whole⟩
  | cons first rest =>
    have taken := versions_matched first rest _ more
    rw [← whole, permits_unmatched permitted (by rw [default]; decide)] at taken
    cases taken

/-- What keeps the files of the root's own `.git` apart, which the default patterns do not take. -/
def OutsideOwnGit (workspace : Workspace) (root path : ResolvedPath) : Prop :=
  workspace.fileDenylist = defaultFileDenylist → ¬ ∃ below, below ≠ [] ∧ root.relative path = ".git" :: below

theorem readable_iff (apart : path ≠ root) (within : root.Within path) :
    Readable workspace root path ↔
      workspace.permits (relativeText (root.relative path)) = true ∧ OutsideOwnGit workspace root path := by
  constructor
  · intro readable
    exact ⟨readable.permitted, fun default => (not_versions default readable.permitted).mp (readable.versions default)⟩
  · rintro ⟨permitted, own⟩
    refine ⟨within, ?_, permitted, fun default => not_environment default permitted,
      fun default => (not_versions default permitted).mpr (own default)⟩
    intro nothing
    obtain ⟨names, parts⟩ := within
    rw [relative_append parts.symm] at nothing
    apply apart
    cases root
    simp_all

theorem opened_root {root : ResolvedPath}
    (settled : opened machine raw = .ok (workspace, root)) : machine.isFile root = false := by
  unfold opened at settled
  cases settings : normalizeWorkspace raw with
  | error raised =>
    rw [settings] at settled
    cases settled
  | ok normal =>
    rw [settings] at settled
    cases found : repoRoot machine normal.repoPath with
    | error raised => simp_all [Except.bind, Except.map]
    | ok top =>
      simp only [Except.bind, found, Except.map] at settled
      cases settled
      unfold repoRoot at found
      split at found
      case isTrue => cases found
      case isFalse =>
        cases directory : machine.directory workspace.repoPath with
        | error raised =>
          rw [directory] at found
          cases found
        | ok place =>
          rw [directory] at found
          cases place with
          | none => cases found
          | some repoPath => exact machine.toplevel_directory repoPath root found

/-- The spelling is judged as the path it stands for: where it passes the patterns and a file is read, the path leads through no
    sibling of the root, and below the root its own spelling passes them too. -/
def JudgedAlike (machine : Machine) (raw : Dict Json) (relativePath : String) : Prop :=
  ∀ workspace root path data, opened machine raw = .ok (workspace, root) →
    fileAllowed (relativeSpelling relativePath) workspace = true → root.resolve (relativeSpelling relativePath) = .ok path →
      machine.isFile path = true → machine.readText path = .ok data →
        ¬ root.ThroughSibling path ∧
          (root.Within path → workspace.permits (relativeText (root.relative path)) = true ∧ OutsideOwnGit workspace root path)

theorem readsReadable_iff (machine : Machine) (raw : Dict Json) (relativePath : String) (limit : Int) :
    ReadsReadable machine raw relativePath limit ↔ JudgedAlike machine raw relativePath := by
  constructor
  · intro readable workspace root path data settled allowed resolved stands read
    have shown (starts : Text.startsWith root.text path.text = true) : Readable workspace root path := by
      obtain ⟨among, file, returned⟩ := (content_iff settled relativePath limit path).mpr
        ⟨allowed, resolved, starts, stands, data, read⟩
      exact readable workspace root settled file returned path among
    refine ⟨fun through => ?_, fun within => ?_⟩
    · exact through.not_within (shown ((startsWith_text_iff root path).mpr (.inr through))).within
    · have apart : path ≠ root := by
        intro same
        simp [same, opened_root settled] at stands
      exact (readable_iff apart within).mp (shown ((startsWith_text_iff root path).mpr (.inl within)))
  · intro alike workspace root settled file returned path among
    obtain ⟨allowed, resolved, starts, stands, data, read⟩ :=
      (content_iff settled relativePath limit path).mp ⟨among, file, returned⟩
    obtain ⟨direct, judged⟩ := alike workspace root path data settled allowed resolved stands read
    have within : root.Within path := by
      rcases (startsWith_text_iff root path).mp starts with below | through
      · exact below
      · exact absurd through direct
    have apart : path ≠ root := by
      intro same
      simp [same, opened_root settled] at stands
    exact (readable_iff apart within).mpr (judged within)

end Reads

/-- A repository in `/repo` with a `.env`. -/
def repoMachine : Machine where
  directory _ := .ok (some ⟨["repo"], by decide⟩)
  toplevel _ := .ok ⟨["repo"], by decide⟩
  isFile path := path.parts ∈ [["repo", ".env"], ["repo", ".git", "config"]]
  readText _ := .ok "TOKEN=1"
  subprocess _ := .ok (.completed 0 "" "", 1)
  toplevel_directory path root found := by
    cases found
    decide

def repoWorkspace : Workspace where
  enabled := true
  repoPath := "/repo"
  allowedBranches := defaultAllowedBranches
  dirtyWorktreePolicy := "block"
  fileAllowlist := []
  fileDenylist := defaultFileDenylist
  maxDiffBytes := defaultMaxDiffBytes
  commandAllowlist := defaultCommandAllowlist
  worktreeRoot := ""

theorem opened_repo : opened repoMachine [("repo_path", .str "/repo")] = .ok (repoWorkspace, ⟨["repo"], by decide⟩) := by
  rfl

end Troop.LocalRepo

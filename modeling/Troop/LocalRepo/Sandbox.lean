import Troop.Python.Fnmatch
import Troop.Python.Json
import Troop.LocalRepo.Paths

namespace Troop.LocalRepo

def defaultAllowedBranches : List String := ["main", "master", "develop", "feature/*", "fix/*", "agent/*"]

def defaultCommandAllowlist : List String :=
  ["pnpm", "uv", "pytest", "ruff", "mypy", "git status", "git diff", "rg"]

def defaultFileDenylist : List String :=
  [".env", ".env.*", "**/.env", "**/.env.*", "**/node_modules/**", "**/.git/**"]

def defaultMaxDiffBytes : Int := 200000

/-- What `normalize_workspace` returns. -/
structure Workspace where
  enabled : Bool
  repoPath : String
  allowedBranches : List String
  dirtyWorktreePolicy : String
  fileAllowlist : List String
  fileDenylist : List String
  maxDiffBytes : Int
  commandAllowlist : List String
  worktreeRoot : String
deriving DecidableEq

def cleaned (setting : Json) : Except PyError (List String) :=
  setting.toList.map fun items => (items.map fun item => Text.strip item.pyStr).filter (· ≠ "")

/-- `items or list(defaults)` -/
def orDefault (items defaults : List String) : List String := if items.isEmpty then defaults else items

def normalizeWorkspace (raw : Dict Json) : Except PyError Workspace :=
  let repoPath := Text.strip ((raw.get "repo_path").pyOr (raw.get "path")).strOrEmpty
  (cleaned (raw.get "command_allowlist")).bind fun allowlist =>
  (cleaned (raw.get "allowed_branches")).bind fun allowedBranches =>
  (cleaned (raw.get "file_allowlist")).bind fun fileAllowlist =>
  (cleaned (raw.get "file_denylist")).bind fun fileDenylist =>
    let dirtyPolicy := Text.strip ((raw.get "dirty_worktree_policy").pyOr (.str "block")).pyStr
    (((raw.get "max_diff_bytes").pyOr (.num defaultMaxDiffBytes)).toInt).map fun maxDiffBytes =>
      { enabled := ((raw.get? "enabled").getD (.bool (repoPath ≠ ""))).truthy
        repoPath := repoPath
        allowedBranches := orDefault allowedBranches defaultAllowedBranches
        dirtyWorktreePolicy := if dirtyPolicy ∈ ["block", "warn", "allow"] then dirtyPolicy else "block"
        fileAllowlist := fileAllowlist
        fileDenylist := orDefault fileDenylist defaultFileDenylist
        maxDiffBytes := maxDiffBytes
        commandAllowlist := orDefault allowlist defaultCommandAllowlist
        worktreeRoot := Text.strip (raw.get "worktree_root").strOrEmpty }

/-- A call of `subprocess.run`. -/
structure Launch where
  args : List String
  cwd : ResolvedPath
  timeoutSeconds : Int
deriving DecidableEq

inductive Ended where
  | completed (returncode : Int) (stdout stderr : String)
  | timedOut (stdout stderr : String)

structure Machine where
  /-- `Path(path).expanduser().resolve()`, if a directory stands there -/
  directory : String → Except PyError (Option ResolvedPath)
  /-- `git rev-parse --show-toplevel`, resolved -/
  toplevel : ResolvedPath → Except PyError ResolvedPath
  isFile : ResolvedPath → Bool
  readText : ResolvedPath → Except PyError String
  /-- `subprocess.run`, with the milliseconds that passed -/
  subprocess : Launch → Except PyError (Ended × Int)
  /-- The top of a working tree is a directory. -/
  toplevel_directory : ∀ path root, toplevel path = .ok root → isFile root = false

def repoRoot (machine : Machine) (path : String) : Except PyError ResolvedPath :=
  if path = "" then .error (.valueError "Repository path is required.")
  else
    (machine.directory path).bind fun found =>
      match found with
      | none => .error (.valueError "Repository path does not exist.")
      | some repoPath => machine.toplevel repoPath

def opened (machine : Machine) (raw : Dict Json) : Except PyError (Workspace × ResolvedPath) :=
  (normalizeWorkspace raw).bind fun workspace => (repoRoot machine workspace.repoPath).map fun root => (workspace, root)

/-- `(root / text).resolve()`; the system refuses a zero byte. -/
def ResolvedPath.resolve (root : ResolvedPath) (text : String) : Except PyError ResolvedPath :=
  if Char.ofNat 0 ∈ text.toList then .error (.valueError "embedded null byte") else .ok (root.join text)

section Commands

/-- The states of `shlex`: between words, in a word, in quotes and behind a backslash, there inside which quotes. -/
inductive Lexing where
  | between
  | word
  | quoted (mark : Char)
  | escaped (mark : Option Char)

def quotationMarks : List Char := [Char.ofNat 34, Char.ofNat 39]

def blanks : List Char := [' ', '\t', '\r', '\n']

/-- The rest of `shlex.split`; the token so far is read backwards. -/
def lex : Lexing → List Char → List Char → Option (List String)
  | .between, _, [] => some []
  | .between, _, c :: rest =>
    if c ∈ blanks then lex .between [] rest
    else if c = '\\' then lex (.escaped none) [] rest
    else if c ∈ quotationMarks then lex (.quoted c) [] rest
    else lex .word [c] rest
  | .word, token, [] => some [String.ofList token.reverse]
  | .word, token, c :: rest =>
    if c ∈ blanks then (lex .between [] rest).map (String.ofList token.reverse :: ·)
    else if c = '\\' then lex (.escaped none) token rest
    else if c ∈ quotationMarks then lex (.quoted c) token rest
    else lex .word (c :: token) rest
  | .quoted mark, token, c :: rest =>
    if c = mark then lex .word token rest
    else if c = '\\' ∧ mark = Char.ofNat 34 then lex (.escaped (some mark)) token rest
    else lex (.quoted mark) (c :: token) rest
  | .escaped (some mark), token, c :: rest =>
    -- inside quotes the backslash stays, save before the quotation mark and another backslash
    lex (.quoted mark) (if c ≠ '\\' ∧ c ≠ mark then c :: '\\' :: token else c :: token) rest
  | .escaped none, token, c :: rest => lex .word (c :: token) rest
  | .quoted _, _, [] => none
  | .escaped _, _, [] => none

/-- `shlex.split`, or nothing where it raises a `ValueError` -/
def shlexSplit (command : String) : Option (List String) := lex .between [] command.toList

def commandAllowed (command : String) (allowlist : List String) : Bool :=
  match shlexSplit command with
  | none => false
  | some [] => false
  | some [only] => allowlist.any fun item => only = item
  | some (first :: second :: _) => allowlist.any fun item => first ++ " " ++ second = item ∨ first = item

structure CommandResult where
  command : String
  cwd : String
  exitCode : Int
  stdout : String
  stderr : String
  durationMs : Int
  timedOut : Bool
deriving DecidableEq

/-- `text[-8000:]` -/
def tailOf (text : String) : String := String.ofList (text.toList.drop (text.length - 8000))

def commandResult (command : String) (workdir : ResolvedPath) (durationMs : Int) : Ended → CommandResult
  | .completed returncode stdout stderr =>
    { command := command, cwd := workdir.text, exitCode := returncode, stdout := tailOf stdout, stderr := tailOf stderr
      durationMs := durationMs, timedOut := false }
  | .timedOut stdout stderr =>
    { command := command, cwd := workdir.text, exitCode := 124, stdout := tailOf stdout
      stderr := tailOf (if stderr = "" then "Command timed out." else stderr), durationMs := durationMs, timedOut := true }

/-- `(root / cwd).resolve() if cwd else root` -/
def workdirOf (root : ResolvedPath) (cwd : Option String) : Except PyError ResolvedPath :=
  match cwd.filter (· ≠ "") with
  | none => .ok root
  | some text => root.resolve text

def runSafeCommand (machine : Machine) (raw : Dict Json) (command : String) (cwd : Option String) (timeoutSeconds : Int) :
    List Launch × Except PyError CommandResult :=
  match opened machine raw with
  | .error raised => ([], .error raised)
  | .ok (workspace, root) =>
    if commandAllowed command workspace.commandAllowlist = false then
      ([], .error (.valueError "Command is not in workspace allowlist."))
    else
      match workdirOf root cwd with
      | .error raised => ([], .error raised)
      | .ok workdir =>
        if Text.startsWith root.text workdir.text = false then
          ([], .error (.valueError "Command working directory must stay inside repository."))
        else
          let launch : Launch := ⟨(shlexSplit command).getD [], workdir, timeoutSeconds⟩
          ([launch], (machine.subprocess launch).map fun ended => commandResult command workdir ended.2 ended.1)

end Commands

section Files

/-- `text.strip().lstrip("/")` -/
def relativeSpelling (text : String) : String := String.ofList ((Text.strip text).toList.dropWhile (· = '/'))

def Workspace.permits (workspace : Workspace) (rel : String) : Bool :=
  !(workspace.fileDenylist.any fun pattern => Fnmatch.fnmatch rel pattern) &&
    (workspace.fileAllowlist.isEmpty || workspace.fileAllowlist.any fun pattern => Fnmatch.fnmatch rel pattern)

def fileAllowed (relativePath : String) (workspace : Workspace) : Bool := workspace.permits (relativeSpelling relativePath)

structure RepoFile where
  path : String
  content : String
  truncated : Bool
deriving DecidableEq

/-- `text[:limit]` -/
def headOf (limit : Int) (text : String) : String :=
  String.ofList (text.toList.take (if 0 ≤ limit then limit.toNat else text.length - limit.natAbs))

def readRepoFile (machine : Machine) (raw : Dict Json) (relativePath : String) (limit : Int) :
    List ResolvedPath × Except PyError RepoFile :=
  match opened machine raw with
  | .error raised => ([], .error raised)
  | .ok (workspace, root) =>
    let rel := relativeSpelling relativePath
    if fileAllowed rel workspace = false then ([], .error (.valueError "File path is denied by workspace policy."))
    else
      match root.resolve rel with
      | .error raised => ([], .error raised)
      | .ok path =>
        if Text.startsWith root.text path.text = false ∨ machine.isFile path = false then
          ([], .error (.valueError "File not found inside repository."))
        else
          ([path], (machine.readText path).map fun data =>
            { path := rel, content := headOf limit data, truncated := limit < data.length })

end Files

end Troop.LocalRepo

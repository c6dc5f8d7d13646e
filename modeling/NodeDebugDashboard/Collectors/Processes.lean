import NodeDebugDashboard.Library.Substitution

/-! The command lines of app/collectors/processes.py. -/
namespace NodeDebugDashboard.Collectors

open Library.Text

section

variable [Unicode]

/-- `_REDACTED` -/
def redacted : List Char := "***".toList

/-- `\w` -/
def wordChar (c : Char) : Bool := Unicode.isAlnum c || c = '_'

/-- `\s+` -/
def gapPattern : Pattern := .seq (.one isSpace) Pattern.spaces

/-- `(authorization:\s*(?:(?:bearer|basic|token|digest|negotiate|bot)\s+)?)\S+` -/
def authorizationRule : Rule where
  first := .all [.lit "authorization:", .spaces,
    .alt
      (.seq (.anyOf "bearer" ["basic", "token", "digest", "negotiate", "bot"]) gapPattern) .empty]
  hidden c := !isSpace c
  mask := redacted
  hClosing := by simp

/-- `(\bbearer\s+)\S+` -/
def bearerRule : Rule where
  first := .all [.wordEdge, .lit "bearer", gapPattern]
  hidden c := !isSpace c
  mask := redacted
  hClosing := by simp

/-- `(--?[\w-]*(?:token|password|passwd|secret))(?![\w-])(=|\s+)\S+` -/
def flagRule : Rule where
  first := .all [.lit "-", .alt (.lit "-") .empty, .many fun c => wordChar c || c = '-',
    .anyOf "token" ["password", "passwd", "secret"]]
  notNext c := wordChar c || c = '-'
  second := .alt (.lit "=") gapPattern
  hidden c := !isSpace c
  mask := redacted
  hClosing := by simp

/-- `\b(\w*(?:password|passwd|pwd|token|secret)=)[^\s&;]+` -/
def assignmentRule : Rule where
  first := .all [.wordEdge, .many wordChar, .anyOf "password" ["passwd", "pwd", "token", "secret"],
    .lit "="]
  hidden c := !isSpace c && c ≠ '&' && c ≠ ';'
  mask := redacted
  hClosing := by simp

/-- `[^/\s:@]` -/
def userChar (c : Char) : Bool := c ≠ '/' && !isSpace c && c ≠ ':' && c ≠ '@'

/-- `(://[^/\s:@]+:)[^@\s/]+@` -/
def urlRule : Rule where
  first := .all [.lit "://", .one userChar, .many userChar, .lit ":"]
  hidden c := c ≠ '@' && !isSpace c && c ≠ '/'
  closing := ['@']
  mask := redacted
  hClosing := by simp

/-- `_SECRET_PATTERNS` -/
def secretPatterns : List Rule :=
  [authorizationRule, bearerRule, flagRule, assignmentRule, urlRule]

/-- `_redact_command` -/
def redactCommand (command : List Char) : List Char :=
  secretPatterns.foldl (fun command rule => rule.sub command) command

/-- The command of a process in `_collect_processes_sync`. -/
def command (cmdlineRaw statRaw : List Char) : List Char :=
  if cmdlineRaw ≠ [] then
    redactCommand (strip (cmdlineRaw.map fun c => if c = '\x00' then ' ' else c))
  else
    let parenStart := statRaw.idxOf '('
    let parenEnd := statRaw.length - 1 - statRaw.reverse.idxOf ')'
    let comm := if '(' ∈ statRaw then (statRaw.take parenEnd).drop (parenStart + 1) else []
    '[' :: comm ++ [']']

end

example : @redactCommand Unicode.ascii "kubelet --token abc --token-file /etc/t".toList =
    "kubelet --token *** --token-file /etc/t".toList := by decide +kernel

end NodeDebugDashboard.Collectors

import ThinkPixelAR.Domain.Calendar
import ThinkPixelAR.Adapters.Codex.Frames

/-!
Restoring a Codex rollout (`restore.go`). The checkpoint hands over one file of JSON
lines; the destination inside a fresh `CODEX_HOME` is derived from the timestamp in its
first line. SHA-256 with its hexadecimal text is a parameter.
-/
namespace ThinkPixelAR.Codex

open Calendar Harness

/-- `MaxRestoreBytes`. -/
def maxRestoreBytes : Nat := 16 * 2 ^ 20

structure RestoreState where
  threadID : String
  protocol : String
  sha256 : String
  rollout : Bytes

/-- The lines of the rollout without their line feeds. -/
def RestoreState.lines (s : RestoreState) : List Bytes :=
  (if s.rollout.getLast? = some 10 then s.rollout.dropLast else s.rollout).splitOn 10

/-- The `type` and `payload` of a line; both are present and the type is not empty. -/
def rolloutRow (line : Bytes) : Option (String × Raw) := do
  if 2 ^ 20 < line.length then none
  let row ← object (runes line)
  let kind ← unmarshalString (row.lookup "type")
  if kind = "" then none
  let payload ← row.lookup "payload"
  return (kind, payload)

/-- The checks of the first line, whose timestamp is returned. -/
def sessionMeta (s : RestoreState) (cwd kind : String) (payload : Raw) : Option Stamp := do
  let header ← object payload
  let id ← unmarshalString (header.lookup "id")
  let directory ← unmarshalString (header.lookup "cwd")
  let cliVersion ← unmarshalString (header.lookup "cli_version")
  let timestamp ← unmarshalString (header.lookup "timestamp")
  if kind ≠ "session_meta" ∨ id ≠ s.threadID ∨ directory ≠ cwd ∨ cliVersion ≠ version then none
  let stamp ← parseRFC3339Nano timestamp.toList
  if stamp.date.year < 1970 ∨ 9999 < stamp.date.year then none
  return stamp

/-- The loop over the lines. -/
def scanRollout (s : RestoreState) (cwd : String) : Bool → Stamp → List Bytes → Except Error Stamp
  | _, stamp, [] => .ok stamp
  | first, stamp, line :: rest =>
    match rolloutRow line with
    | none => .error errCheckpoint
    | some (kind, payload) =>
      if first then
        match sessionMeta s cwd kind payload with
        | none => .error errCheckpoint
        | some stamp => scanRollout s cwd false stamp rest
      else if kind = "session_meta" then .error errCheckpoint
      else scanRollout s cwd false stamp rest

/-- `Format("2006/01/02")`. -/
def formatDirectory (t : Moment) : List Char :=
  appendInt 4 t.date.year ++ '/' :: appendInt 2 t.date.month ++ '/' :: appendInt 2 t.date.day

/-- `Format("2006-01-02T15-04-05")`. -/
def formatName (t : Moment) : List Char :=
  appendInt 4 t.date.year ++ '-' :: appendInt 2 t.date.month ++ '-' :: appendInt 2 t.date.day ++
    'T' :: appendInt 2 t.hour.val ++ '-' :: appendInt 2 t.minute.val ++
    '-' :: appendInt 2 t.second.val

/-- `RestorePath`. -/
def restorePath (sha256 : Bytes → String) (s : RestoreState) (cwd : String) :
    Except Error (List Char) :=
  if !validThreadID s.threadID || s.protocol ≠ version || s.rollout.isEmpty ||
      decide (maxRestoreBytes < s.rollout.length) || s.rollout.getLast? ≠ some 10 ||
      !cleanAbsolute cwd then .error errCheckpoint
  else if s.sha256 ≠ sha256 s.rollout then .error errCheckpoint
  else match scanRollout s cwd true .zero s.lines with
    | .error e => .error e
    | .ok stamp => .ok ("sessions/".toList ++ formatDirectory stamp.utc ++ "/rollout-".toList ++
        formatName stamp.utc ++ '-' :: s.threadID.toList ++ ".jsonl".toList)

end ThinkPixelAR.Codex

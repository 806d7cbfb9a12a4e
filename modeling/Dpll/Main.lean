import Dpll.CommandLine.Run
import Dpll.CommandLine.Standard

/-!
The program as it runs under an operating system.
-/

namespace Dpll

/-- A failure of the system in the terms of the library. Some calls give the code negated. -/
def FileError.ofSystem (e : IO.Error) : FileError :=
  let coded (code : UInt32) (details : String) : FileError :=
    match if code < 0x80000000 then code else 0 - code with
    | 20 => .notADirectory
    | 21 => .isADirectory
    | 36 => .nameTooLong
    | code => .system s!"{details} (os error {code})"
  match e with
  | .noFileOrDirectory .. => .notFound
  | .permissionDenied _ code details | .inappropriateType _ code details
  | .invalidArgument _ code details => coded code details
  | e => .system (toString e)

/-- Runs an action on a file and keeps its failure as a value. -/
def attempt {α : Type} (act : IO α) : IO (Except FileError α) := do
  try
    return .ok (← act)
  catch e =>
    return .error (.ofSystem e)

/-- The system as seen by a program that was started at this time. -/
def systemHost (start : Nat) : Host IO where
  read path := attempt (IO.FS.readBinFile path)
  write path bytes := attempt (IO.FS.writeBinFile path bytes)
  startClock timeout := do
    let now ← IO.monoMsNow
    let deadline := timeout.map fun seconds => now + 1000 * seconds
    return fun _ => do
      let now ← IO.monoMsNow
      return { expired := deadline.any (· ≤ now) }
  elapsed := return (← IO.monoMsNow) - start
  print := IO.print
  notify notice := IO.eprintln notice.render

end Dpll

def main (args : List String) : IO UInt32 := do
  let host := Dpll.systemHost (← IO.monoMsNow)
  Dpll.CommandLine.run .standard host (← IO.getEnv "RUST_LOG") args

import Http2.CommandLine

/-!
The program.
-/

open Http2

/-- No transport can be opened from here. -/
def noDialer : Client.Dialer := fun _ _ _ =>
  .error ⟨.unsupported, "operation not supported on this platform"⟩

/-- Runs the command line and prints what it leaves behind. -/
def main (args : List String) : IO UInt32 := do
  let outcome := CommandLine.run noDialer args
  (← IO.getStdout).write (ByteArray.mk outcome.stdout.toArray)
  IO.eprint outcome.stderr
  return UInt32.ofNat outcome.exit

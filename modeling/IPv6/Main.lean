import IPv6.CommandLine.Run
import Std.Time.Format
/-!
The command line as a program.
-/

open IPv6 in
def main (arguments : List String) : IO UInt32 := do
  match CommandLine.run .systemV "ipv6" arguments with
  | .error failure =>
    IO.eprintln failure.line
    return UInt32.ofNat failure.code
  | .ok report =>
    let now ← Std.Time.PlainDateTime.now
    IO.print report.output
    IO.eprint (report.errorText (now.format "uuuu-MM-dd HH:mm:ss,SSS"))
    return UInt32.ofNat report.code

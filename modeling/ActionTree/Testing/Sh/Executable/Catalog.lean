import ActionTree.Testing.Sh.Executable.Batches
import ActionTree.Testing.Sh.Executable.Calculation
import ActionTree.Testing.Sh.Executable.Characters
import ActionTree.Testing.Sh.Executable.Clock
import ActionTree.Testing.Sh.Executable.Columns
import ActionTree.Testing.Sh.Executable.Comparison
import ActionTree.Testing.Sh.Executable.Conditions
import ActionTree.Testing.Sh.Executable.Copies
import ActionTree.Testing.Sh.Executable.Counting
import ActionTree.Testing.Sh.Executable.Differences
import ActionTree.Testing.Sh.Executable.Digests
import ActionTree.Testing.Sh.Executable.Dump
import ActionTree.Testing.Sh.Executable.Editing
import ActionTree.Testing.Sh.Executable.Encoding
import ActionTree.Testing.Sh.Executable.Facts
import ActionTree.Testing.Sh.Executable.Files
import ActionTree.Testing.Sh.Executable.Formats
import ActionTree.Testing.Sh.Executable.Identity
import ActionTree.Testing.Sh.Executable.Listing
import ActionTree.Testing.Sh.Executable.Matches
import ActionTree.Testing.Sh.Executable.Nodes
import ActionTree.Testing.Sh.Executable.Parts
import ActionTree.Testing.Sh.Executable.Paths
import ActionTree.Testing.Sh.Executable.Progression
import ActionTree.Testing.Sh.Executable.Reversal
import ActionTree.Testing.Sh.Executable.Scanning
import ActionTree.Testing.Sh.Executable.Sorting
import ActionTree.Testing.Sh.Executable.Streams
import ActionTree.Testing.Sh.Executable.Wrapping
import ActionTree.Testing.Sh.Walk.Walker

/-!
# The programs by name

* `Executable.find?`, `Executable.delegate?`: the program of a name.
-/

namespace ActionTree.Sh.Executable

/-- The programs by name. -/
def all : List (String × Executable) :=
  [("[", Conditions.bracket), ("arch", Identity.sentence "x86_64"),
    ("base32", Encoding.program .base32), ("base64", Encoding.program .base64),
    ("basename", Paths.basename), ("cat", Streams.cat), ("chmod", Files.chmod),
    ("cksum", Digests.cksum), ("cmp", Comparison.cmp), ("comm", Sorting.comm), ("cp", Copies.cp),
    ("cut", Columns.cut), ("date", Clock.date), ("diff", Differences.diff),
    ("dirname", Paths.dirname), ("echo", Streams.echo), ("egrep", Matches.grepAs (some 'E')),
    ("expr", Calculation.expr), ("factor", Factors.factor), ("false", Streams.silent 1),
    ("fgrep", Matches.grepAs (some 'F')), ("fold", Columns.fold), ("grep", Matches.grep),
    ("groups", Identity.groups), ("head", Parts.head), ("id", Identity.id), ("link", Nodes.link),
    ("ln", Copies.ln), ("logname", Identity.logname), ("ls", Listing.ls),
    ("md5sum", Digests.program .md5), ("mkdir", Files.mkdir), ("mktemp", Nodes.mktemp),
    ("mv", Copies.mv), ("nl", Counting.nl), ("od", Dump.od), ("paste", Columns.paste),
    ("printenv", Identity.printenv), ("printf", Formats.printf), ("pwd", Paths.pwd),
    ("readlink", Paths.readlink), ("realpath", Paths.realpath), ("rev", Reversal.rev),
    ("rm", Files.rm), ("rmdir", Files.rmdir), ("sed", Editing.sed), ("seq", Progression.seq),
    ("sha1sum", Digests.program .sha1), ("sha224sum", Digests.program .sha224),
    ("sha256sum", Digests.program .sha256), ("sha384sum", Digests.program .sha384),
    ("sha512sum", Digests.program .sha512), ("sleep", Streams.sleep), ("sort", Sorting.sort),
    ("stat", Facts.stat), ("tac", Reversal.tac), ("tail", Parts.tail), ("tee", Streams.tee),
    ("test", Conditions.test), ("touch", Files.touch), ("tr", Characters.tr),
    ("true", Streams.silent 0), ("truncate", Nodes.truncate), ("tty", Identity.tty),
    ("uname", Identity.uname), ("uniq", Sorting.uniq), ("unlink", Nodes.unlink),
    ("users", Streams.silent 0), ("wc", Counting.wc), ("which", Identity.which),
    ("who", Streams.silent 0), ("whoami", Identity.sentence "root"), ("yes", Streams.yes)]

/-- The programs that start other ones by name. -/
def delegates : List (String × Delegate) :=
  [("awk", Scanning.awk), ("env", Wrapping.env), ("find", Finding.find), ("mawk", Scanning.awk),
    ("nawk", Scanning.awk), ("nice", Wrapping.nice), ("nohup", Wrapping.nohup),
    ("timeout", Wrapping.timeout), ("xargs", Batches.xargs)]

/-- The program of a name. -/
def find? (name : Bytes) : Option Executable :=
  (all.find? (·.1 = String.ofList name)).map (·.2)

/-- The program of a name that starts other ones. -/
def delegate? (name : Bytes) : Option Delegate :=
  (delegates.find? (·.1 = String.ofList name)).map (·.2)

/-- The names of shells. -/
def shells : List String := ["bash", "dash", "sh"]

/-- Is this the name of a shell? -/
def isShell (name : Bytes) : Bool := shells.contains (String.ofList name)

/-- The names of the programs, the shells included. -/
def names : List String := all.map (·.1) ++ delegates.map (·.1) ++ shells

end ActionTree.Sh.Executable

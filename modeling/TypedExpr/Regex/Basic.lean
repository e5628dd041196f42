import TypedExpr.Regex.Parse
import TypedExpr.Regex.Search

/-! Regular expressions: a pattern read and compiled once, then used to test whether a text matches
somewhere and to split a text at its matches. A pattern that cannot be read gives the diagnostic
text of its first problem. -/

namespace TypedExpr

/-- A compiled regular expression. -/
structure Regex where
  program : Regex.Program
  deriving Inhabited

namespace Regex

def maxProgram : Nat := 2000000

/-- Compiles a pattern, or gives the diagnostic of why it is not a regular expression. -/
def compile (pattern : String) : Except String TypedExpr.Regex :=
  match parsePattern pattern with
  | .error e => .error (e.render pattern)
  | .ok node =>
    if node.codeSize > maxProgram then .error "Compiled regex exceeds size limit of 10485760 bytes."
    else .ok ⟨Program.ofNode node⟩

def isMatch (r : TypedExpr.Regex) (s : String) : Bool := r.program.isMatch s.toList.toArray

def split (r : TypedExpr.Regex) (s : String) : List String := r.program.split s.toList.toArray

end Regex

end TypedExpr

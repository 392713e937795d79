import BuilderAudit.Pattern.Matcher
import BuilderAudit.Pattern.Parser
import BuilderAudit.Pattern.Resolve
import BuilderAudit.Pattern.Size

/-!
# Patterns for the names of files

A name matches a pattern if the pattern matches at the start of the name; the match may end anywhere. The anchor is put
in front of the text of the pattern, which is put in a group so that no bar or flag in it reaches the anchor. A text is
accepted as a pattern if it is one by itself and inside the group.
-/

namespace BuilderAudit

namespace Pattern

def compile (text : List Char) : Except Error Expr := do
  let ast ← parse text
  let (_, e) ← ast.resolve Flags.initial
  if e.isSmall then return e else .error .tooLarge

/-- The text of a pattern behind an anchor. -/
def anchored (text : List Char) : List Char := "^(?:".toList ++ text ++ [')']

end Pattern

/-- A pattern for the names of files. -/
structure FilePattern where
  text : String
  /-- The expression of the anchored text. -/
  expr : Pattern.Expr
  deriving DecidableEq, Repr

namespace FilePattern

def ofText? (text : String) : Except Pattern.Error FilePattern := do
  let _ ← Pattern.compile text.toList
  let expr ← Pattern.compile (Pattern.anchored text.toList)
  return { text, expr }

def accepts (p : FilePattern) (name : List Char) : Bool := p.expr.marked.occursIn name

end FilePattern

end BuilderAudit

import StoreGate.Text.Pattern

/-!
# Identifiers in statements

Names that are put into a statement unquoted begin with an ASCII letter or an underscore and go on
with ASCII letters, digits and underscores. They are recognised in two ways: by a pattern, which
also knows a table name with its database, and by a walk over the characters.
-/

namespace StoreGate

namespace Sql

def isLetter (c : Char) : Bool :=
  (decide ('A' ≤ c) && decide (c ≤ 'Z')) || (decide ('a' ≤ c) && decide (c ≤ 'z')) || c == '_'

def isLetterOrDigit (c : Char) : Bool := isLetter c || (decide ('0' ≤ c) && decide (c ≤ '9'))

/-! ## By pattern -/

def identifierPattern : Pattern := .both (.one isLetter) (.many (.one isLetterOrDigit))

/-- An identifier, or two with a point between them. -/
def tablePattern : Pattern :=
  .both identifierPattern (.maybe (.both (.exactly '.') identifierPattern))

def isName (s : String) : Bool := identifierPattern.matchesText s

def isTableName (s : String) : Bool := tablePattern.matchesText s

/-! ## By characters -/

def isIdentifierChars : List Char → Bool
  | [] => false
  | c :: rest => (c.isAlpha || c == '_') && rest.all fun d => d.isAlphanum || d == '_'

def isIdentifier (s : String) : Bool := isIdentifierChars s.toList

end Sql

end StoreGate

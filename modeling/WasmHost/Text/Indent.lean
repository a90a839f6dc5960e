/-!
Indentation of the continuation lines of a text.
-/
namespace WasmHost.Text

/-- Puts an indent after every line break. -/
def indentChars (indent : List Char) (cs : List Char) : List Char :=
  cs.flatMap fun c => if c = '\n' then '\n' :: indent else [c]

def indentLines (indent s : String) : String := String.ofList (indentChars indent.toList s.toList)

/-- A diagnostic as it stands in a message: its lines after the first are indented, and none is
empty text. -/
def indentDiagnostic (diagnostic : Option String) (indent : String) : String :=
  indentLines indent (diagnostic.getD "")

/-- The indent of diagnostics in messages. -/
def standardIndent : String := "    "

/-- A headline with a diagnostic below it, unless there is none to show. -/
def withDiagnostic (headline : String) (diagnostic : Option String) : String :=
  match diagnostic with
  | none => headline
  | some "" => headline
  | some d => headline ++ "\n" ++ standardIndent ++ indentDiagnostic (some d) standardIndent

theorem indentChars_append (indent a b : List Char) :
    indentChars indent (a ++ b) = indentChars indent a ++ indentChars indent b := by
  simp [indentChars]

end WasmHost.Text

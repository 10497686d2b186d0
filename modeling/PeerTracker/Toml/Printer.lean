import PeerTracker.Toml.Text

/-!
# Writing TOML

Plain values of a table come first, tables and lists of tables after them, each
under its header and after an empty line. Names of fields are bare keys.
-/

namespace PeerTracker.Toml

mutual

/-- A value on one line. -/
def Value.inlineText : Value → List Char
  | .string s => writeString s
  | .integer i => (toString i).toList
  | .fraction text => text.toList
  | .moment text => text.toList
  | .boolean b => (toString b).toList
  | .array items => ['['] ++ itemsText items ++ [']']
  | .table _ _ => []
  | .tables _ => ['[', ']']

def itemsText : List Value → List Char
  | [] => []
  | [v] => v.inlineText
  | v :: rest => v.inlineText ++ [',', ' '] ++ itemsText rest

end

/-- Whether a value has a header of its own; an empty list has none. -/
def Value.hasHeader : Value → Bool
  | .table _ _ => true
  | .tables (_ :: _) => true
  | _ => false

def pairText (e : String × Value) : List Char :=
  e.1.toList ++ [' ', '=', ' '] ++ e.2.inlineText ++ ['\n']

/-- The lines of a table without further tables. -/
def flatText (es : Entries) : List Char := es.flatMap pairText

def sectionText (e : String × Value) : List Char :=
  match e.2 with
  | .table _ es => ['\n', '['] ++ e.1.toList ++ [']', '\n'] ++ flatText es
  | .tables elements => elements.flatMap fun es =>
    ['\n', '[', '['] ++ e.1.toList ++ [']', ']', '\n'] ++ flatText es
  | _ => []

/-- A document whose tables are flat. -/
def documentText (es : Entries) : String :=
  String.ofList ((es.filter fun e => !e.2.hasHeader).flatMap pairText
    ++ (es.filter fun e => e.2.hasHeader).flatMap sectionText)

end PeerTracker.Toml

/-!
# The grammar of quick entries

The rules of the line that people type, as text for them to read.
-/

namespace Cuaderno.QuickEntry

def grammarLines : List String := [
  "",
  "command    ::= WS? '@' type_token '/' name_token \x7b '>' assignment \x7d EOF",
  "",
  "type_token ::= ( TEXT | WS )+",
  "name_token ::= ( TEXT | WS | '/' | '@' | '=' )+",
  "",
  "",
  "assignment ::= prop_name '=' prop_value",
  "",
  "prop_name  ::= ( TEXT | WS | '@' | '/' )+",
  "prop_value ::= ( TEXT | WS | '@' | '/' | '=' )*",
  "",
  "",
  "list_value     ::= '[' item \x7b ',' item \x7d ']' | item \x7b ',' item \x7d",
  "semantic_date  ::= '@'? ( 'hoy' | 'ayer' | 'mañana' | 'esta_semana'",
  "                        | 'semana_pasada' | 'este_mes' | 'mes_pasado' )",
  "boolean        ::= 'sí' | 'si' | 'true' | '1' | 'yes' | 'no' | 'false' | '0'",
  "",
  "",
  "* Names and values are trimmed; there is no escape for '/', '>' or '='.",
  "* Type, name and property tokens must not be empty.",
  "* A '>' segment without '=' is an error unless it is the last segment,",
  "  which is treated as still being typed and ignored.",
  ""]

def grammar : String := "\n".intercalate grammarLines

end Cuaderno.QuickEntry

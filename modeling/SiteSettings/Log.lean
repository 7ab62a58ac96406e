import SiteSettings.Style

/-! Log lines: a coloured source in brackets and a message. -/

namespace SiteSettings

structure LogEntry where
  source : String
  message : String
deriving Repr, BEq, DecidableEq

namespace LogEntry

/-- Known sources have a colour of their own, in any case. -/
def colour (source : String) : Style :=
  match String.ofList (source.toList.map Char.toLower) with
  | "config" => .brightBlue
  | "theme" => .brightGreen
  | "error" => .brightRed
  | _ => .brightYellow

def render (entry : LogEntry) : String :=
  let mark := Style.bold.apply ((colour entry.source).apply ("[" ++ entry.source ++ "]"))
  mark ++ " " ++ entry.message ++ "\n"

def renderAll (entries : List LogEntry) : String := String.join (entries.map render)

end LogEntry

end SiteSettings

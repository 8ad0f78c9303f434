import LinkPreview.Text.Numeral

set_option autoImplicit false

namespace LinkPreview

structure Settings where
  host : String
  port : Int
  logLevel : String
  logFormat : String
  htmlParser : String
  maxHtmlBytes : Int
  deriving DecidableEq, Repr

/-- Five mebibytes. -/
def defaultMaxHtmlBytes : Int := 5 * 1024 * 1024

namespace Settings

def number (environment : String → Option String) (name : String) (other : Int) :
    Except Fault Int :=
  match environment name with
  | none => .ok other
  | some text => Text.readInt text

def load (environment : String → Option String) : Except Fault Settings := do
  let port ← number environment "PORT" 8000
  let maxHtmlBytes ← number environment "MAX_HTML_BYTES" defaultMaxHtmlBytes
  return {
    host := (environment "HOST").getD "0.0.0.0"
    port := port
    logLevel := (environment "LOG_LEVEL").getD "INFO"
    logFormat := (environment "LOG_FORMAT").getD "json"
    htmlParser := (environment "HTML_PARSER").getD "lxml"
    maxHtmlBytes := maxHtmlBytes }

end Settings
end LinkPreview

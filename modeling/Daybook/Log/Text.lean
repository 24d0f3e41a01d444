import Daybook.Json.Text
import Daybook.Log.Format
import Daybook.Log.Line
import Daybook.Time.Text

/-!
Log lines as text.
-/

namespace Daybook.Log.Line

/-- The value of a field; a text stands there without quotes. -/
def valueText : Json → String
  | .string s => s
  | j => j.text .oneLine

/-- The line as it is written at a moment. -/
def text (time : Time) (l : Line) : Format → String
  | .pretty =>
    " ".intercalate ([time.toText, l.level.name, l.target.name ++ ":", l.message] ++
      l.fields.map fun (name, value) => name ++ "=" ++ valueText value)
  | .json =>
    match l.toJson with
    | .object members => (Json.object (("timestamp", time.toJson) :: members)).text .oneLine
    | j => j.text .oneLine

end Daybook.Log.Line

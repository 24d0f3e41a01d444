import Daybook.Text.Divide

/-!
The words of a command line, as programs tell them apart by their hyphens.
-/

namespace Daybook.CommandLine

inductive Word where
  /-- Two hyphens: only plain words follow. -/
  | separator
  /-- A name behind two hyphens, with what stands behind an equals sign. -/
  | long (name : String) (value : Option String)
  /-- Letters behind a single hyphen. -/
  | letters (cs : List Char)
  | plain

def Word.ofText (s : String) : Word :=
  match s.toList with
  | ['-', '-'] => .separator
  | '-' :: '-' :: cs =>
    let (name, value) := Text.divide (· == '=') cs
    .long (String.ofList name) (value.map String.ofList)
  | '-' :: c :: cs => .letters (c :: cs)
  | _ => .plain

end Daybook.CommandLine

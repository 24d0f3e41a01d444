/-!
Upper case for reading codes written in ASCII letters. Besides `a` to `z`, a few characters outside
ASCII have an upper case that is made of ASCII letters; every other character cannot turn into a
part of a code and is left as it is.
-/

namespace Daybook.Text

/-- The characters outside ASCII whose full upper case is written in ASCII letters. -/
def foreignUpper : List (Char × List Char) :=
  [('ß', ['S', 'S']), ('ı', ['I']), ('ſ', ['S']), ('\uFB00', ['F', 'F']), ('\uFB01', ['F', 'I']),
    ('\uFB02', ['F', 'L']), ('\uFB03', ['F', 'F', 'I']), ('\uFB04', ['F', 'F', 'L']),
    ('\uFB05', ['S', 'T']), ('\uFB06', ['S', 'T'])]

/-- The upper case of one character, as far as it is written in ASCII letters. -/
def upperChar (c : Char) : List Char :=
  match foreignUpper.lookup c with
  | some cs => cs
  | none => [c.toUpper]

/-- The upper case of a text, as far as it is written in ASCII letters. -/
def upper (s : String) : String :=
  String.ofList (s.toList.flatMap upperChar)

end Daybook.Text

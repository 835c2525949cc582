/-!
Letter case, for comparing text with words of ASCII letters. Outside ASCII there are two characters
that matter: the Kelvin sign, whose lower case is an ASCII letter, and the dotless i, whose upper
case is one. All others are left alone, since they cannot become part of such a word.
-/

namespace Jp2Render.Text

def lowerLetter (c : Char) : Char := if c = '\u212a' then 'k' else c.toLower

def upperLetter (c : Char) : Char := if c = '\u0131' then 'I' else c.toUpper

def lower (s : String) : String := String.ofList (s.toList.map lowerLetter)

def upper (s : String) : String := String.ofList (s.toList.map upperLetter)

end Jp2Render.Text

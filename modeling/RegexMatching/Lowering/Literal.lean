import RegexMatching.Lowering.Lowered

/-!
# Literal text and fixed character sets

The plain syntax gives a meaning to some punctuation, which is escaped where it
stands for itself.  The character sets behind shorthand escapes and named
classes are written out here once, as class contents.
-/

namespace RegexMatching.Lowering

/-! ## Escaping -/

/-- Punctuation with a meaning in the plain syntax. -/
def isSyntaxChar (char : Char) : Bool :=
  "^$\\.*+?()[]\x7b\x7d|/".toList.contains char

/-- One unit as literal source. -/
def escapeUnit (inClass : Bool) (unit : CodeUnit) : Text :=
  if isSyntaxChar unit.toChar || (inClass && unit.toChar == '-') then
    [CodeUnit.ofChar '\\', unit]
  else
    [unit]

/-- Text as literal source, outside or inside a class. -/
def escapeLiteral (text : Text) (inClass : Bool := false) : Text :=
  text.flatMap (escapeUnit inClass)

/-- Text between quotation marks.  An end mark in the text is written outside
of them. -/
def quoteBody : Text → Text
  | [] => []
  | [unit] => [unit]
  | first :: second :: rest =>
      if first.toChar = '\\' && second.toChar = 'E' then
        Text.ofString "\\E\\\\E\\Q" ++ quoteBody rest
      else
        first :: quoteBody (second :: rest)

/-- A pattern that stands for the text, whatever the text contains. -/
def quote (text : Text) : Text :=
  Text.ofString "\\Q" ++ quoteBody text ++ Text.ofString "\\E"

/-! ## Character sets -/

/-- Word characters by Unicode properties. -/
def unicodeWord : Text :=
  Text.ofString "\\p{Alphabetic}\\p{M}\\p{Nd}\\p{Pc}\\p{Join_Control}"

def asciiSpace : Text :=
  Text.ofString "\\t\\n\\v\\f\\r "

def horizontalSpace : Text :=
  Text.ofString
    "\\t \\u00a0\\u1680\\u180e\\u2000-\\u200a\\u202f\\u205f\\u3000"

def verticalSpace : Text :=
  Text.ofString "\\n\\v\\f\\r\\u0085\\u2028\\u2029"

def lineTerminators : Text :=
  Text.ofString "\\n\\r\\u0085\\u2028\\u2029"

/-- A class with the given contents. -/
def bracketed (contents : Text) : Text :=
  Text.ofString "[" ++ contents ++ Text.ofString "]"

/-- A negated class with the given contents. -/
def negated (contents : Text) : Text :=
  Text.ofString "[^" ++ contents ++ Text.ofString "]"

/-- Any character at all. -/
def anything : Text :=
  Text.ofString "[\\s\\S]"

/-- Any character that does not end a line. -/
def notLineEnd (options : Options) : Text :=
  if options.newlineLf then Text.ofString "[^\\n]" else negated lineTerminators

/-- What a dot stands for. -/
def dot (options : Options) : Text :=
  if options.dotAll then anything else notLineEnd options

/-- The names of POSIX classes and their contents. -/
def posixClasses : List (String × String) :=
  [("alpha", "a-zA-Z"),
    ("digit", "0-9"),
    ("alnum", "a-zA-Z0-9"),
    ("lower", "a-z"),
    ("upper", "A-Z"),
    ("xdigit", "0-9A-Fa-f"),
    ("space", " \\t\\n\\r\\f\\v"),
    ("blank", " \\t"),
    ("punct", "!-\\/:-@\\[-`\x7b-~"),
    ("graph", "!-~"),
    ("print", " -~"),
    ("cntrl", "\\x00-\\x1F\\x7F"),
    ("ascii", "\\x00-\\x7F"),
    ("word", "a-zA-Z0-9_")]

/-- The contents of a POSIX class. -/
def posixClass? (name : Text) : Option Text :=
  (posixClasses.find? fun entry => Text.ofString entry.1 == name).map
    fun entry => Text.ofString entry.2

/-- The names of general categories. -/
def generalCategories : List String :=
  ["C", "Cc", "Cf", "Cn", "Co", "Cs",
    "L", "LC", "Ll", "Lm", "Lo", "Lt", "Lu",
    "M", "Mc", "Me", "Mn",
    "N", "Nd", "Nl", "No",
    "P", "Pc", "Pd", "Pe", "Pf", "Pi", "Po", "Ps",
    "S", "Sc", "Sk", "Sm", "So",
    "Z", "Zl", "Zp", "Zs"]

def isGeneralCategory (name : Text) : Bool :=
  generalCategories.any fun category => Text.ofString category == name

end RegexMatching.Lowering

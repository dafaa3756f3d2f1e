import RegexMatching.Unicode.CategoryTable
import RegexMatching.Unicode.Runs

/-!
# General categories

Every code point has one of thirty general categories.  Wider categories, such
as all letters, are unions of them, and each has a short and a long name.
-/

namespace RegexMatching.Unicode

/-- A general category, by its short name. -/
inductive Category where
  | lu | ll | lt | lm | lo
  | mn | mc | me
  | nd | nl | no
  | pc | pd | ps | pe | pi | pf | po
  | sm | sc | sk | so
  | zs | zl | zp
  | cc | cf | cs | co | cn
deriving DecidableEq, Repr

namespace Category

/-- The categories and their names, the short one first. -/
def names : List (Category × List String) :=
  [(lu, ["Lu", "Uppercase_Letter"]),
    (ll, ["Ll", "Lowercase_Letter"]),
    (lt, ["Lt", "Titlecase_Letter"]),
    (lm, ["Lm", "Modifier_Letter"]),
    (lo, ["Lo", "Other_Letter"]),
    (mn, ["Mn", "Nonspacing_Mark"]),
    (mc, ["Mc", "Spacing_Mark"]),
    (me, ["Me", "Enclosing_Mark"]),
    (nd, ["Nd", "Decimal_Number", "digit"]),
    (nl, ["Nl", "Letter_Number"]),
    (no, ["No", "Other_Number"]),
    (pc, ["Pc", "Connector_Punctuation"]),
    (pd, ["Pd", "Dash_Punctuation"]),
    (ps, ["Ps", "Open_Punctuation"]),
    (pe, ["Pe", "Close_Punctuation"]),
    (pi, ["Pi", "Initial_Punctuation"]),
    (pf, ["Pf", "Final_Punctuation"]),
    (po, ["Po", "Other_Punctuation"]),
    (sm, ["Sm", "Math_Symbol"]),
    (sc, ["Sc", "Currency_Symbol"]),
    (sk, ["Sk", "Modifier_Symbol"]),
    (so, ["So", "Other_Symbol"]),
    (zs, ["Zs", "Space_Separator"]),
    (zl, ["Zl", "Line_Separator"]),
    (zp, ["Zp", "Paragraph_Separator"]),
    (cc, ["Cc", "Control", "cntrl"]),
    (cf, ["Cf", "Format"]),
    (cs, ["Cs", "Surrogate"]),
    (co, ["Co", "Private_Use"]),
    (cn, ["Cn", "Unassigned"])]

/-- The wider categories and their names, the short one first. -/
def unions : List (List Category × List String) :=
  [([lu, ll, lt], ["LC", "Cased_Letter"]),
    ([lu, ll, lt, lm, lo], ["L", "Letter"]),
    ([mn, mc, me], ["M", "Mark", "Combining_Mark"]),
    ([nd, nl, no], ["N", "Number"]),
    ([pc, pd, ps, pe, pi, pf, po], ["P", "Punctuation", "punct"]),
    ([sm, sc, sk, so], ["S", "Symbol"]),
    ([zs, zl, zp], ["Z", "Separator"]),
    ([cc, cf, cs, co, cn], ["C", "Other"])]

/-- The category of a short name. -/
def ofShortName (name : String) : Category :=
  ((names.find? fun entry => entry.2.head? == some name).map Prod.fst).getD cn

/-- The categories a name stands for. -/
def ofName? (name : String) : Option (List Category) :=
  match names.find? fun entry => entry.2.contains name with
  | some entry => some [entry.1]
  | none => (unions.find? fun entry => entry.2.contains name).map Prod.fst

end Category

/-- The table of categories. -/
def categoryRuns : Array (Run Category) :=
  readRuns (fun name => Category.ofShortName (String.ofList name)) categoryLines

/-- The general category of a code point. -/
def category (point : Nat) : Category :=
  (lookup? categoryRuns point).getD .cn

/-- Whether a code point is a combining mark. -/
def isMark (point : Nat) : Bool :=
  [Category.mn, .mc, .me].contains (category point)

end RegexMatching.Unicode

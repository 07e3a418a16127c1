import FormModel.Unicode.Category
import FormModel.Unicode.Punctuation

/-!
The characters that names in programs are made of.
-/

namespace FormModel.Unicode

/-- Characters that may begin a name though they are no letters. -/
def otherIdStart : Table := .read ["1885-1886 2118 212E 309B-309C"]

/-- Characters that may stand in a name by exception. -/
def otherIdContinue : Table := .read ["B7 387 1369-1371 19DA 200C-200D 30FB FF65"]

/-- The property ID_Start. -/
def isIdStart (c : Char) : Bool :=
  (isLetter c || category c == "Nl" || otherIdStart.contains c) &&
    !patternSyntax.contains c && !patternBlank.contains c

/-- The property ID_Continue. -/
def isIdContinue (c : Char) : Bool :=
  isIdStart c ||
    ((inCategories ["Mn", "Mc", "Nd", "Pc"] c || otherIdContinue.contains c) &&
      !patternSyntax.contains c && !patternBlank.contains c)

/-- Letters that are decomposed into something no name begins with. -/
def unstableIdStart : Table := .read [
  "37A E33 EB3 309B-309C FC5E-FC63 FDFA-FDFB FE70 FE72 FE74 FE76 FE78 FE7A FE7C FE7E FF9E-FF9F"]

/-- Characters of names that are decomposed into something no name may hold. -/
def unstableIdContinue : Table := .read [
  "37A 309B-309C FC5E-FC63 FDFA-FDFB FE70 FE72 FE74 FE76 FE78 FE7A FE7C FE7E"]

/-- The property XID_Start: what begins a name in every form of normalization. -/
def isXidStart (c : Char) : Bool := isIdStart c && !unstableIdStart.contains c

/-- The property XID_Continue: what stands in a name in every form of normalization. -/
def isXidContinue (c : Char) : Bool := isIdContinue c && !unstableIdContinue.contains c

/-- Mathematical signs that may begin a name. -/
def mathIdStart : Table := .read [
  "2202 2207 221E 1D6C1 1D6DB 1D6FB 1D715 1D735 1D74F 1D76F 1D789 1D7A9 1D7C3"]

/-- Mathematical signs that may stand in a name. -/
def mathIdContinue : Table := .read [
  "B2-B3 B9 2070 2074-207E 2080-208E 2202 2207 221E 1D6C1 1D6DB 1D6FB 1D715 1D735 1D74F 1D76F",
  "1D789 1D7A9 1D7C3"]

end FormModel.Unicode

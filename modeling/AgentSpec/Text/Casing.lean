import AgentSpec.Text.CaseTable
import AgentSpec.Text.CasedTable
import AgentSpec.Text.Ranges

/-!
Upper and lower case of texts, after the Unicode character database.

One character may become several: the capital of the sharp s is two letters.  Only the Greek capital
sigma looks at its neighbours, since it has a form of its own at the end of a word.
-/
namespace AgentSpec.Text

def isUppercase (c : Char) : Bool :=
  uppercaseRuns.any (·.contains c.toNat)

/-- The mapped characters: a special entry first, then a run, else the character itself. -/
def mapCase (runs : List CaseRun) (specials : List (Nat × List Nat)) (c : Char) : List Char :=
  match specials.find? (·.1 == c.toNat) with
  | some (_, out) => out.map Char.ofNat
  | none =>
    match runs.find? (·.run.contains c.toNat) with
    | some r => [Char.ofNat (c.toNat + r.offset).toNat]
    | none => [c]

/-- The upper case of one character. -/
def upperOf (c : Char) : List Char :=
  mapCase toUpperRuns toUpperSpecials c

/-- The lower case of one character, whatever its neighbours. -/
def lowerOf (c : Char) : List Char :=
  if c.toNat < 0x80 then [c.toLower] else mapCase toLowerRuns toLowerSpecials c

def isCased (c : Char) : Bool :=
  inRanges casedRanges c.toNat

def isCaseIgnorable (c : Char) : Bool :=
  inRanges caseIgnorableRanges c.toNat

/-- The nearest character that is not case-ignorable has a case. -/
def facesCased (cs : List Char) : Bool :=
  (cs.dropWhile isCaseIgnorable).head?.any isCased

/-- Lower case of the characters after `before`, which is given in reverse. -/
def lowerAfter (before : List Char) : List Char → List Char
  | [] => []
  | c :: rest =>
    (if c = 'Σ' then [if facesCased before && !facesCased rest then 'ς' else 'σ'] else lowerOf c)
      ++ lowerAfter (c :: before) rest

/-- The text in lower case. -/
def toLower (s : String) : String :=
  String.ofList (lowerAfter [] s.toList)

/-- Equal up to the case of ASCII letters. -/
def eqIgnoreAsciiCase (a b : String) : Bool :=
  a.toList.map Char.toLower == b.toList.map Char.toLower

end AgentSpec.Text

import AgentSpec.Text.Blank
import AgentSpec.Text.Lines
import AgentSpec.Text.Word

/-!
Files of variables.

Every entry is a name and a value.  Quotes may span lines, a backslash escapes a character outside
single quotes, and a dollar sign brings in another variable.  Reading ends at the first line that
makes no sense; what stands before it counts.
-/
namespace AgentSpec.EnvFile

/-! ## Entries

An entry ends with its line unless a quote is open. -/

/-- Where the scan for the end of an entry stands. -/
inductive Gate
  | closed
  | blank
  | escape
  | strong
  | strongEscape
  | weak
  | weakEscape
deriving DecidableEq, Repr

/-- Past one character; none at the beginning of a comment. -/
def Gate.next : Gate → Char → Option Gate
  | .blank, '#' => none
  | .blank, '\\' | .closed, '\\' => some .escape
  | .blank, '"' | .closed, '"' => some .weak
  | .blank, '\'' | .closed, '\'' => some .strong
  | .blank, _ => some .closed
  | .closed, c => some (if Text.isSpace c && c != '\n' && c != '\r' then .blank else .closed)
  | .escape, _ => some .closed
  | .weak, '\\' => some .weakEscape
  | .weak, '"' => some .closed
  | .weak, _ | .weakEscape, _ => some .weak
  | .strong, '\\' => some .strongEscape
  | .strong, '\'' => some .closed
  | .strong, _ | .strongEscape, _ => some .strong

/-- The line up to a comment, and where the scan stands behind it. -/
def scan : Gate → List Char → List Char × Option Gate
  | gate, [] => ([], some gate)
  | gate, c :: rest =>
    match gate.next c with
    | none => ([], none)
    | some next =>
      let (cs, last) := scan next rest
      (c :: cs, last)

/-- The entries of some lines, where `before` is still open; none for one that never ends. -/
def entries (before : List Char) (gate : Gate) : List (List Char) → List (Option (List Char))
  | [] => if gate = .closed then [] else [none]
  | line :: rest =>
    if ((before ++ line).dropWhile Text.isSpace).head? = some '#' then entries [] .closed rest
    else match scan gate line with
      | (cs, none) => some (before ++ cs) :: entries [] .closed rest
      | (cs, some .closed) => some (before ++ Text.withoutEnd cs) :: entries [] .closed rest
      | (cs, some open_) => entries (before ++ cs) open_ rest

/-! ## Values -/

inductive Mode
  | plain
  /-- The value is over, a comment may follow. -/
  | ended
  | escaped
  | strong
  /-- A variable's name. -/
  | name (cs : List Char)
  /-- A variable's name in braces. -/
  | braced (cs : List Char)
deriving DecidableEq, Repr

/-- The rest of a value, where `weak` tells whether a double quote is open. -/
def value (lookup : String → Option String) (weak : Bool) (mode : Mode) :
    List Char → Option (List Char)
  | [] =>
    match mode with
    | .strong | .braced _ => none
    | .name cs => if weak then none else some (expand cs)
    | _ => if weak then none else some []
  | c :: rest =>
    match mode with
    | .ended =>
      if c = ' ' || c = '\t' then value lookup weak .ended rest
      else if c = '#' then some []
      else none
    | .escaped =>
      if ['\\', '\'', '"', '$', ' '].contains c then (value lookup weak .plain rest).map (c :: ·)
      else if c = 'n' then (value lookup weak .plain rest).map ('\n' :: ·)
      else none
    | .strong =>
      if c = '\'' then value lookup weak .plain rest
      else (value lookup weak .strong rest).map (c :: ·)
    | .name cs =>
      if Text.isLetterOrNumber c then value lookup weak (.name (cs ++ [c])) rest
      else if c = '\x7b' && cs.isEmpty then value lookup weak (.braced []) rest
      else if c = '$' then (value lookup weak (.name []) rest).map (expand cs ++ ·)
      else (value lookup weak .plain rest).map fun more => expand cs ++ c :: more
    | .braced cs =>
      if c = '\x7d' then (value lookup weak .plain rest).map (expand cs ++ ·)
      else value lookup weak (.braced (cs ++ [c])) rest
    | .plain =>
      if c = '$' then value lookup weak (.name []) rest
      else if c = '\\' then value lookup weak .escaped rest
      else if c = '"' then value lookup (!weak) .plain rest
      else if weak then (value lookup weak .plain rest).map (c :: ·)
      else if c = '\'' then value lookup weak .strong rest
      else if c = ' ' || c = '\t' then value lookup weak .ended rest
      else (value lookup weak .plain rest).map (c :: ·)
where
  /-- The value of a variable, nothing if there is none. -/
  expand (cs : List Char) : List Char := ((lookup (String.ofList cs)).getD "").toList

/-! ## Assignments -/

/-- A name at the front, and what follows it. -/
def key (cs : List Char) : Option (String × List Char) :=
  match cs with
  | [] => none
  | c :: _ =>
    if c.isAlpha || c = '_' then
      let isKey (c : Char) : Bool := c.isAlphanum || c = '_' || c = '.'
      some (String.ofList (cs.takeWhile isKey), (cs.dropWhile isKey).dropWhile Text.isSpace)
    else none

/-- What stands behind the equals sign. -/
def afterEquals : List Char → Option (List Char)
  | '=' :: rest => some (rest.dropWhile Text.isSpace)
  | _ => none

/-- The name and the text of the value of an entry; `export` may stand before them. -/
def assignment (cs : List Char) : Option (String × List Char) := do
  let (name, rest) ← key cs
  match afterEquals rest with
  | some text => return (name, text)
  | none =>
    if name = "export" then
      let (name, rest) ← key rest
      return (name, ← afterEquals rest)
    else none

/-- The variables of some entries, behind those that are known. -/
def bindings (inherited : String → Option String) :
    List (String × String) → List (Option (List Char)) → List (String × String)
  | known, [] => known
  | known, none :: _ => known
  | known, some entry :: rest =>
    match Text.trimChars entry with
    | [] | '#' :: _ => bindings inherited known rest
    | cs =>
      let lookup (name : String) : Option String := inherited name <|> known.lookup name
      let parsed : Option (String × String) := do
        let (name, text) ← assignment cs
        match text with
        | [] | '#' :: _ => return (name, "")
        | _ => return (name, String.ofList (← value lookup false .plain text))
      match parsed with
      | none => known
      | some binding => bindings inherited (known ++ [binding]) rest

/-- The variables of a file; of equal names the first one counts. -/
def ofText (inherited : String → Option String) (text : String) : List (String × String) :=
  let cs := match text.toList with
    | '\uFEFF' :: rest => rest
    | cs => cs
  bindings inherited [] (entries [] .closed (Text.splitAfterFeeds cs))

end AgentSpec.EnvFile

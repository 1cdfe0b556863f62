import LeagueStandings.Toml.Scalar

/-!
# Reading TOML documents

A document is read line by line into statements. A reader takes characters from the front of a text
and gives what it has read together with the rest, or nothing when the text is malformed.

Values are nested, and so are the readers for them. They count their steps down from a number that
is larger than the text is long, so they end; and they count the brackets that are open, because
more than 79 are refused.
-/

namespace LeagueStandings.TomlReader

/-! ## Blanks, comments and line ends -/

/-- A character that a comment or a string may hold. -/
def isTextChar (c : Char) : Bool := c == '\t' || (0x20 ≤ c.val && c.val != 0x7F)

/-- The rest after blanks. -/
def skipBlanks (cs : List Char) : List Char := cs.dropWhile fun c ↦ c == ' ' || c == '\t'

/-- The rest after a line break. -/
def lineBreak? : List Char → Option (List Char)
  | '\n' :: rest => some rest
  | '\r' :: '\n' :: rest => some rest
  | _ => none

/-- The rest after a comment, if one starts here. -/
def skipComment (cs : List Char) : List Char :=
  match cs with
  | '#' :: rest => rest.dropWhile isTextChar
  | cs => cs

/-- The rest after blanks, a comment and the end of the line. -/
def lineEnd? (cs : List Char) : Option (List Char) :=
  match skipComment (skipBlanks cs) with
  | [] => some []
  | rest => lineBreak? rest

/-- The rest after blanks, comments and line breaks. -/
def skipTrivia (inComment : Bool) : List Char → Option (List Char)
  | [] => some []
  | '\n' :: rest => skipTrivia false rest
  | '\r' :: '\n' :: rest => skipTrivia false rest
  | c :: rest =>
    if inComment then if isTextChar c then skipTrivia true rest else none
    else if c == ' ' || c == '\t' then skipTrivia false rest
    else if c == '#' then skipTrivia true rest
    else some (c :: rest)

/-! ## Strings -/

/-- The character with the code point that hexadecimal digits spell. -/
def codePoint? (digits : List Char) : Option Char := do
  let n ← TomlWord.based? 16 digits
  if n.toNat.isValidChar then some (Char.ofNat n.toNat) else none

/-- The character that an escape names, given what follows the backslash. -/
def escape? : List Char → Option (Char × List Char)
  | 'u' :: rest => if rest.length < 4 then none else (codePoint? (rest.take 4)).map (·, rest.drop 4)
  | 'U' :: rest => if rest.length < 8 then none else (codePoint? (rest.take 8)).map (·, rest.drop 8)
  | 'b' :: rest => some ('\x08', rest)
  | 't' :: rest => some ('\t', rest)
  | 'n' :: rest => some ('\n', rest)
  | 'f' :: rest => some ('\x0c', rest)
  | 'r' :: rest => some ('\r', rest)
  | '"' :: rest => some ('"', rest)
  | '\\' :: rest => some ('\\', rest)
  | _ => none

/-- What is left of a text after a backslash that ends a line in a long string: the line's blanks,
its end and all blanks after that. -/
def continuation? (cs : List Char) : Option (List Char) :=
  (lineBreak? (skipBlanks cs)).map skipBlankLines
where
  /-- The rest after blanks and line breaks. -/
  skipBlankLines : List Char → List Char
    | ' ' :: rest => skipBlankLines rest
    | '\t' :: rest => skipBlankLines rest
    | '\n' :: rest => skipBlankLines rest
    | '\r' :: '\n' :: rest => skipBlankLines rest
    | cs => cs

/-- Puts a character in front of what has been read. -/
def prepend (c : Char) (reading : Option (List Char × List Char)) :
    Option (List Char × List Char) :=
  reading.map fun (cs, rest) ↦ (c :: cs, rest)

/-- The rest of a string on one line; in double quotes it may hold escapes. -/
def shortString? (quote : Char) : (steps : Nat) → List Char → Option (List Char × List Char)
  | 0, _ | _, [] => none
  | steps + 1, c :: rest =>
    if c = quote then some ([], rest)
    else if c = '\\' ∧ quote = '"' then do
      let (c, rest) ← escape? rest
      prepend c (shortString? quote steps rest)
    else if isTextChar c then prepend c (shortString? quote steps rest)
    else none

/-- The rest of a string that may take several lines. Three quotes end it, and up to two more that
follow them belong to it. -/
def longString? (quote : Char) : (steps : Nat) → List Char → Option (List Char × List Char)
  | 0, _ | _, [] => none
  | steps + 1, c :: rest =>
    if c = quote ∧ rest.take 2 = [quote, quote] then
      let extra := (rest.drop 2).takeWhile (· == quote) |>.take 2
      some (extra, rest.drop (2 + extra.length))
    else if c = '\\' ∧ quote = '"' then
      match continuation? rest with
      | some rest => longString? quote steps rest
      | none => do
        let (c, rest) ← escape? rest
        prepend c (longString? quote steps rest)
    else if isTextChar c then prepend c (longString? quote steps rest)
    else do
      let rest ← lineBreak? (c :: rest)
      prepend '\n' (longString? quote steps rest)

/-- A string of any kind. A line break right after three quotes does not belong to it. -/
def string? (cs : List Char) : Option (String × List Char) :=
  let reading :=
    match cs with
    | quote :: rest =>
      if quote = '"' ∨ quote = '\x27' then
        if rest.take 2 = [quote, quote] then
          let body := rest.drop 2
          longString? quote cs.length ((lineBreak? body).getD body)
        else shortString? quote cs.length rest
      else none
    | [] => none
  reading.map fun (cs, rest) ↦ (String.ofList cs, rest)

/-! ## Keys -/

/-- A character of a key without quotes. -/
def isKeyChar (c : Char) : Bool := c.isAlphanum || c == '-' || c == '_'

/-- A single key: a word, or a string on one line. -/
def simpleKey? (cs : List Char) : Option (String × List Char) :=
  match cs with
  | [] => none
  | c :: rest =>
    if c = '"' ∨ c = '\x27' then
      (shortString? c cs.length rest).map fun (key, rest) ↦ (String.ofList key, rest)
    else
      match cs.takeWhile isKeyChar with
      | [] => none
      | key => some (String.ofList key, cs.dropWhile isKeyChar)

/-- Keys with dots between them; blanks may stand around each. -/
def dottedKeys? : (steps : Nat) → List Char → Option (List String × List Char)
  | 0, _ => none
  | steps + 1, cs => do
    let (key, rest) ← simpleKey? (skipBlanks cs)
    match skipBlanks rest with
    | '.' :: rest =>
      let (keys, rest) ← dottedKeys? steps rest
      some (key :: keys, rest)
    | rest => some ([key], rest)

/-- The most brackets that may be open, and the most keys that may be dotted together. -/
def nestingLimit : Nat := 79

/-- The keys of a header or an assignment. -/
def keys? (cs : List Char) : Option (List String × List Char) :=
  (dottedKeys? cs.length cs).filter (·.1.length ≤ nestingLimit)

/-! ## Values -/

/-- The character ends a word. -/
def endsWord (c : Char) : Bool :=
  c == ' ' || c == '\t' || c == '\n' || c == '\r' || c == ',' || c == ']' || c == '\x7d' || c == '#'

/-- A word, or a date and a time with a blank between them. -/
def word? (cs : List Char) : Option (Toml × List Char) := do
  let word := cs.takeWhile (!endsWord ·)
  let rest := cs.dropWhile (!endsWord ·)
  let value ← TomlWord.value? word
  match rest with
  | ' ' :: later =>
    let time := later.takeWhile (!endsWord ·)
    if TomlWord.isDate word && TomlWord.isTime TomlWord.isOffset time then
      some (.dateTime, later.dropWhile (!endsWord ·))
    else some (value, rest)
  | rest => some (value, rest)

mutual

/-- A value, with at most `depth` more brackets open in it. -/
def value? (steps depth : Nat) (cs : List Char) : Option (Toml × List Char) :=
  match steps, cs with
  | 0, _ | _, [] => none
  | steps + 1, c :: rest =>
    if c = '"' ∨ c = '\x27' then (string? cs).map fun (s, rest) ↦ (.string s, rest)
    else if c = '[' then
      match depth with
      | 0 => none
      | depth + 1 => (items? steps depth rest).map fun (items, rest) ↦ (.array items, rest)
    else if c = '\x7b' then
      match depth with
      | 0 => none
      | depth + 1 => do
        let rest := skipBlanks rest
        let (assignments, rest) ←
          match rest with
          | '\x7d' :: rest => some ([], rest)
          | rest => assignments? steps depth rest
        let table ← Toml.ofAssignments? assignments
        some (table, rest)
    else word? cs

/-- The items of an array up to its closing bracket. -/
def items? (steps depth : Nat) (cs : List Char) : Option (List Toml × List Char) :=
  match steps with
  | 0 => none
  | steps + 1 => do
    match ← skipTrivia false cs with
    | ']' :: rest => some ([], rest)
    | cs =>
      let (item, rest) ← value? steps depth cs
      match ← skipTrivia false rest with
      | ',' :: rest =>
        let (items, rest) ← items? steps depth rest
        some (item :: items, rest)
      | ']' :: rest => some ([item], rest)
      | _ => none

/-- The assignments of a table between braces, up to its closing brace. -/
def assignments? (steps depth : Nat) (cs : List Char) :
    Option (List (List String × Toml) × List Char) :=
  match steps with
  | 0 => none
  | steps + 1 => do
    let (keys, rest) ← keys? cs
    match rest with
    | '=' :: rest =>
      let (value, rest) ← value? steps depth (skipBlanks rest)
      match skipBlanks rest with
      | ',' :: rest =>
        let (assignments, rest) ← assignments? steps depth rest
        some ((keys, value) :: assignments, rest)
      | '\x7d' :: rest => some ([(keys, value)], rest)
      | _ => none
    | _ => none

end

/-! ## Statements -/

/-- A header or an assignment, with the end of its line. -/
def statement? (cs : List Char) : Option (TomlStatement × List Char) := do
  match cs with
  | '[' :: '[' :: rest =>
    let (keys, rest) ← keys? rest
    match rest with
    | ']' :: ']' :: rest => (lineEnd? rest).map (.arrayHeader keys, ·)
    | _ => none
  | '[' :: rest =>
    let (keys, rest) ← keys? rest
    match rest with
    | ']' :: rest => (lineEnd? rest).map (.header keys, ·)
    | _ => none
  | cs =>
    let (keys, rest) ← keys? cs
    match rest with
    | '=' :: rest =>
      let rest := skipBlanks rest
      let (value, rest) ← value? (2 * rest.length + 2) nestingLimit rest
      (lineEnd? rest).map (.assignment keys value, ·)
    | _ => none

/-- The statements of a text. -/
def statements? : (steps : Nat) → List Char → Option (List TomlStatement)
  | 0, _ => none
  | steps + 1, cs => do
    match ← skipTrivia false cs with
    | [] => some []
    | cs =>
      let (statement, rest) ← statement? cs
      let statements ← statements? steps rest
      some (statement :: statements)

/-- The document that a text is; a byte order mark in front of it does not count. -/
def document? (text : String) : Option (List (String × Toml)) :=
  let cs :=
    match text.toList with
    | '\uFEFF' :: rest => rest
    | cs => cs
  (statements? (cs.length + 1) cs).bind Toml.ofStatements?

end LeagueStandings.TomlReader

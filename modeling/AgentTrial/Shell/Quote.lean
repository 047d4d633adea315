/-!
# Quoting for the shell

A text as one word of a POSIX shell command.

- `isPlain` says which characters mean only themselves to the shell.
- `quote` writes a text of plain characters as it is and any other text between single quotes.
-/

namespace AgentTrial.Shell

/-- An ASCII letter or digit. -/
def isAlphanumeric (c : Char) : Bool :=
  ('a' ≤ c && c ≤ 'z') || ('A' ≤ c && c ≤ 'Z') || ('0' ≤ c && c ≤ '9')

/-- A character that no shell gives a meaning of its own. -/
def isPlain (c : Char) : Bool :=
  isAlphanumeric c || ['-', '_', '.', '/', ':', '=', '@', '%', '+', ','].contains c

/-- The inside of a single-quoted word. A quote cannot stand there, so the word is closed, an
escaped quote follows, and the word is opened again. -/
def quoteBody : List Char → List Char
  | [] => []
  | c :: cs => if c = '\'' then '\'' :: '\\' :: '\'' :: '\'' :: quoteBody cs else c :: quoteBody cs

/-- The characters of a quoted word. -/
def quoteChars (cs : List Char) : List Char :=
  if cs ≠ [] ∧ cs.all isPlain then cs else '\'' :: (quoteBody cs ++ ['\''])

/-- A text written so that the shell reads it as one word. -/
def quote (s : String) : String :=
  String.ofList (quoteChars s.toList)

end AgentTrial.Shell

/-!
# Reading shell commands

How a POSIX shell takes the text of a command apart before it does anything: characters into tokens,
by the rules of token recognition and of quoting, and tokens into simple commands with what they
read from and write to.

Nothing is expanded here. The characters of a word that stand for themselves are told apart from
those on which the shell acts, so a word of the former alone is the text that a program gets.

* **Tokens** — `Mode.step` reads one character, `tokens?` a text. What an expansion holds is read
  only for its end, and a `)` that closes a pattern of `case` in it is taken for that end. The reader
  gives up at here documents.
* **Commands** — `commands?` joins tokens to simple commands, `read?` reads a text to its commands.
  Reserved words and assignments, which only the first word of a command can be, are words as any.
-/

namespace AgentTrial.Shell

/-! ## Tokens -/

/-- A character of a word, after the quotes have been removed. -/
inductive Piece where
  /-- It stands for itself. -/
  | inert (c : Char)
  /-- The shell acts on it: an expansion or a pattern begins with it or goes on with it. -/
  | active (c : Char)
  deriving DecidableEq, Repr

/-- A word as the shell reads it. -/
abbrev Word := List Piece

/-- The word that is a text, and on which the shell does not act. -/
def Word.ofText (s : String) : Word := s.toList.map .inert

/-- The characters of a word on which the shell does not act. -/
def Word.chars? : Word → Option (List Char)
  | [] => some []
  | .inert c :: w => (chars? w).map (c :: ·)
  | .active _ :: _ => none

/-- The text of a word on which the shell does not act. -/
def Word.text? (w : Word) : Option String := w.chars?.map String.ofList

theorem Word.text?_ofText (s : String) : (ofText s).text? = some s := by
  have chars (cs : List Char) : chars? (cs.map .inert) = some cs := by
    induction cs with
    | nil => rfl
    | cons c cs ih => simp only [List.map_cons, chars?, ih, Option.map_some]
  rw [text?, ofText, chars, Option.map_some, String.ofList_toList]

theorem Word.ofText_inj {s s' : String} (same : ofText s = ofText s') : s = s' := by
  have read := congrArg text? same
  rw [text?_ofText, text?_ofText] at read
  exact Option.some.inj read

/-- A digit that stands for itself. -/
def Piece.isDigit : Piece → Bool
  | inert c => '0' ≤ c && c ≤ '9'
  | active _ => false

/-- A token of a command. -/
inductive Token where
  | word (w : Word)
  /-- The descriptor of the redirection that follows, in digits. -/
  | descriptor (digits : Word)
  | operator (symbol : List Char)
  deriving DecidableEq, Repr

/-- A character that separates words. -/
def isBlank (c : Char) : Bool := c == ' ' || c == '\t'

/-- A character that operators are made of. -/
def isOperator (c : Char) : Bool := ['|', '&', ';', '<', '>', '(', ')', '\n'].contains c

/-- The operators of more than one character. -/
def longOperators : List (List Char) :=
  [['&', '&'], ['|', '|'], [';', ';'], ['>', '>'], ['<', '<'], ['<', '&'], ['>', '&'], ['<', '>'],
    ['>', '|']]

/-- A character, besides those of parameters and commands, that an expansion or a pattern begins with
where it is not quoted. A `}` or a `]` alone means nothing. -/
def isMagic (c : Char) : Bool := ['*', '?', '[', '~', '\x7b'].contains c

/-- A character that names a parameter of the shell right after a `$`. -/
def isParameter (c : Char) : Bool :=
  ['@', '*', '#', '?', '-', '$', '!'].contains c || ('0' ≤ c && c ≤ '9')

/-- A word that has been read up to `next`. Digits right before a redirection are its descriptor,
unless something in them was quoted. -/
def Token.ofWord (read : Word) (bare : Bool) (next : Char) : Token :=
  if bare && (next == '<' || next == '>') && read.all Piece.isDigit then .descriptor read
  else .word read

/-- What is open inside an expansion. -/
inductive Nest where
  | single
  | double
  | backquote
  | paren
  /-- A parameter in braces, with quotes around or without. -/
  | brace (quoted : Bool)
  deriving DecidableEq, Repr

/-- Whether a character closes what is open. -/
def Nest.isClosedBy : Nest → Char → Bool
  | single, c => c == '\''
  | double, c => c == '"'
  | backquote, c => c == '\x60'
  | paren, c => c == ')'
  | brace _, c => c == '\x7d'

/-- What a character opens inside of what is open, when `dollar` says that a `$` is before it. -/
def Nest.opens? : Nest → (dollar : Bool) → Char → Option Nest
  | single, _, _ => none
  | backquote, _, _ => none
  | _, _, '\x60' => some backquote
  | paren, _, '(' => some paren
  | _, true, '(' => some paren
  | double, true, '\x7b' => some (brace true)
  | brace quoted, true, '\x7b' => some (brace quoted)
  | paren, true, '\x7b' => some (brace false)
  | double, _, _ => none
  | brace true, _, '\'' => none
  | _, _, '\'' => some single
  | _, _, '"' => some double
  | _, _, _ => none

/-- What is open after a character inside an expansion, innermost first, when `before` is the
backslash or the `$` before it, if there is one. -/
def Nest.step (before : Option Char) (c : Char) : List Nest → List Nest
  | [] => []
  | top :: rest =>
    if before = some '\\' then top :: rest
    else if top.isClosedBy c then rest
    else (top.opens? (before = some '$') c).toList ++ top :: rest

/-- Where the reader stands, with what has been read of the current token. -/
inductive Mode where
  /-- Between two tokens. -/
  | between
  | operator (symbol : List Char)
  | comment
  /-- In a word, outside of quotes. It is bare as long as nothing in it was quoted. -/
  | word (read : Word) (bare : Bool)
  /-- After a backslash, at the beginning of a word or in one. -/
  | escape (word : Option (Word × Bool))
  /-- In single quotes. -/
  | single (read : Word)
  /-- In double quotes. -/
  | double (read : Word)
  /-- After a backslash in double quotes. -/
  | doubleEscape (read : Word)
  /-- After a `$`, in double quotes or outside of quotes. -/
  | dollar (read : Word) (quoted : Bool)
  /-- Inside an expansion, which is in double quotes or outside of quotes, with what is open in it and
  the backslash or the `$` right before. -/
  | inside (read : Word) (quoted : Bool) (nests : List Nest) (before : Option Char)
  /-- Where the reader has given up. -/
  | lost
  deriving DecidableEq, Repr

namespace Mode

/-- Reads a character of a word outside of quotes that does not end the word. -/
def unquoted (read : Word) (bare : Bool) (c : Char) : Mode :=
  if c = '\\' then escape (some (read, bare))
  else if c = '\'' then single read
  else if c = '"' then double read
  else if c = '$' then dollar (read ++ [.active c]) false
  else if c = '\x60' then inside (read ++ [.active c]) false [.backquote] none
  else word (read ++ [if isMagic c then .active c else .inert c]) bare

/-- Reads a character in double quotes. -/
def quoted (read : Word) (c : Char) : Mode :=
  if c = '"' then word read false
  else if c = '\\' then doubleEscape read
  else if c = '$' then dollar (read ++ [.active c]) true
  else if c = '\x60' then inside (read ++ [.active c]) true [.backquote] none
  else double (read ++ [.inert c])

/-- Goes on in a word, in double quotes or outside of quotes. -/
def resume (read : Word) (inQuotes : Bool) : Mode :=
  if inQuotes then double read else word read false

/-- Reads a character between two tokens. -/
def begin (c : Char) : Mode :=
  if isBlank c then between
  else if isOperator c then operator [c]
  else if c = '#' then comment
  else if c = '\\' then escape none
  else unquoted [] true c

/-- Reads a character in a word or right after it. -/
def further (read : Word) (bare : Bool) (c : Char) : List Token × Mode :=
  if isBlank c then ([.word read], between)
  else if isOperator c then ([.ofWord read bare c], operator [c])
  else ([], unquoted read bare c)

/-- Reads a character. Gives the tokens that end with it, or right before it. -/
def step : Mode → Char → List Token × Mode
  | between, c => ([], begin c)
  | operator symbol, c =>
    if symbol = ['<', '<'] then ([], lost)
    else if symbol ++ [c] ∈ longOperators then ([], operator (symbol ++ [c]))
    else ([.operator symbol], begin c)
  | comment, c => ([], if c = '\n' then operator [c] else comment)
  | word read bare, c => further read bare c
  | escape none, c => ([], if c = '\n' then between else word [.inert c] false)
  | escape (some (read, bare)), c =>
    ([], if c = '\n' then word read bare else word (read ++ [.inert c]) false)
  | single read, c => ([], if c = '\'' then word read false else single (read ++ [.inert c]))
  | double read, c => ([], quoted read c)
  | doubleEscape read, c =>
    ([], if c = '\n' then double read
      else if ['$', '\x60', '"', '\\'].contains c then double (read ++ [.inert c])
      else double (read ++ [.inert '\\', .inert c]))
  | dollar read inQuotes, c =>
    if c = '(' then ([], inside (read ++ [.active c]) inQuotes [.paren] none)
    else if c = '\x7b' then ([], inside (read ++ [.active c]) inQuotes [.brace inQuotes] none)
    else if isParameter c then ([], resume (read ++ [.active c]) inQuotes)
    else if inQuotes then ([], quoted read c)
    else if c = '\'' then ([], lost)
    else further read false c
  | inside read inQuotes nests before, c =>
    let read := read ++ [.active c]
    match Nest.step before c nests with
    | [] => ([], resume read inQuotes)
    | still =>
      let marks := before ≠ some '\\' ∧ nests.head? ≠ some .single ∧ (c = '\\' ∨ c = '$')
      ([], inside read inQuotes still (if marks then some c else none))
  | lost, _ => ([], lost)

/-- The tokens that end with the text; none where something is left open. -/
def finish? : Mode → Option (List Token)
  | between => some []
  | operator symbol => some [.operator symbol]
  | comment => some []
  | word read _ => some [.word read]
  | dollar read false => some [.word read]
  | _ => none

/-- The tokens of a text that is read from a mode on. -/
def lex (m : Mode) : List Char → Option (List Token)
  | [] => m.finish?
  | c :: cs => ((m.step c).2.lex cs).map ((m.step c).1 ++ ·)

/-- The mode after some characters. -/
def after (m : Mode) (cs : List Char) : Mode := cs.foldl (fun m c => (m.step c).2) m

/-- The tokens that end within some characters. -/
def emits (m : Mode) : List Char → List Token
  | [] => []
  | c :: cs => (m.step c).1 ++ (m.step c).2.emits cs

end Mode

/-- The tokens of a command. -/
def tokens? (text : String) : Option (List Token) := Mode.between.lex text.toList

/-! ## Commands -/

/-- What a command reads from or writes to: what the shell itself has under a number, or a file. -/
inductive Stream where
  | inherited (descriptor : Nat)
  | file (path : Word)
  deriving DecidableEq, Repr

/-- A simple command with its first three streams. -/
structure Command where
  words : List Word := []
  stdin : Stream := .inherited 0
  stdout : Stream := .inherited 1
  stderr : Stream := .inherited 2
  deriving DecidableEq, Repr

/-- How a command is joined to the next one. -/
inductive Junction where
  /-- The next one runs after it. -/
  | sequence
  /-- It is left running, and the next one runs at once. -/
  | background
  /-- The next one runs if it succeeds. -/
  | onSuccess
  /-- The next one runs if it fails. -/
  | onFailure
  | pipe
  /-- There is no next one. -/
  | last
  deriving DecidableEq, Repr

/-- The junction that an operator makes. -/
def Junction.of? : List Char → Option Junction
  | [';'] => some sequence
  | ['\n'] => some sequence
  | ['&'] => some background
  | ['&', '&'] => some onSuccess
  | ['|', '|'] => some onFailure
  | ['|'] => some pipe
  | _ => none

/-- A command with one redirection more: from a file, to a file that is emptied first, or one of the
two outputs to where the other goes. Other redirections are not read. -/
def Command.redirect? (command : Command) (descriptor : Word) (symbol : List Char)
    (target : Word) : Option Command :=
  match symbol, descriptor with
  | ['<'], [] | ['<'], [.inert '0'] => some { command with stdin := .file target }
  | ['>'], [] | ['>'], [.inert '1'] => some { command with stdout := .file target }
  | ['>'], [.inert '2'] => some { command with stderr := .file target }
  | ['>', '&'], [.inert '2'] =>
    if target = [.inert '1'] then some { command with stderr := command.stdout } else none
  | ['>', '&'], [] | ['>', '&'], [.inert '1'] =>
    if target = [.inert '2'] then some { command with stdout := command.stderr } else none
  | _, _ => none

/-- The simple commands of some tokens, each with its junction to the next, when `current` is what
has been read of the first. -/
def commandsFrom? (current : Command) : List Token → Option (List (Command × Junction))
  | [] =>
    if current = {} then some [] else if current.words = [] then none else some [(current, .last)]
  | .word w :: rest => commandsFrom? { current with words := current.words ++ [w] } rest
  | .descriptor digits :: .operator symbol :: .word target :: rest =>
    (current.redirect? digits symbol target).bind fun next => commandsFrom? next rest
  | .descriptor _ :: _ => none
  | .operator symbol :: rest =>
    match Junction.of? symbol with
    | some junction =>
      if current.words = [] then none
      else (commandsFrom? {} rest).map ((current, junction) :: ·)
    | none =>
      match rest with
      | .word target :: rest =>
        (current.redirect? [] symbol target).bind fun next => commandsFrom? next rest
      | _ => none

/-- The simple commands of some tokens. -/
def commands? (tokens : List Token) : Option (List (Command × Junction)) := commandsFrom? {} tokens

/-- The simple commands of a text, each with its junction to the next. -/
def read? (text : String) : Option (List (Command × Junction)) := (tokens? text).bind commands?

end AgentTrial.Shell

import AgentTrial.Proofs.Shell.Quote

/-!
# Arguments

What the shell reads when quoted texts are put into a command.

* **Words** — wherever a word can stand, a quoted text is one word, and so are several with blanks
  between them (`tokens_quote`, `tokens_arguments`).
* **Open commands** — the reading of a command that nothing closes yet is resumed when more tokens
  come (`resumes`), and the words that it has so far do not matter to what is made of these
  (`commandsFrom?_putIn`).
* **Arguments** — so quoted texts that are put in where a command can be given arguments become words
  of it, and nothing else changes (`OpenAt.arguments`).
* **Reading back** — the texts are known from what is read (`quote_read_back`).
-/

namespace AgentTrial.Shell

/-! ## Words -/

section Words

variable {before rest : String} {tokens : List Token} {m : Mode}

theorem Mode.lex_eq (m : Mode) (cs : List Char) :
    m.lex cs = (m.after cs).finish?.map (m.emits cs ++ ·) := by
  have whole := m.lex_append cs []
  rwa [List.append_nil] at whole

theorem Mode.IsFree.finish? (free : m.IsFree) : m.finish? = some m.pending := by
  cases m with
  | between => rfl
  | operator symbol => rfl
  | _ => exact free.elim

/-- Where the reader is between two tokens, it goes on as if there were nothing before. -/
theorem tokens_append (own : tokens? before = some tokens)
    (gap : Mode.between.after before.toList = .between) (rest : String) :
    tokens? (before ++ rest) = (tokens? rest).map (tokens ++ ·) := by
  rw [tokens?, Mode.lex_eq, gap] at own
  obtain rfl : Mode.between.emits before.toList ++ [] = tokens := Option.some.inj own
  rw [tokens?, String.toList_append, Mode.lex_append, gap, List.append_nil]
  rfl

/-- A quoted text is one word wherever a word can stand. -/
theorem tokens_quote (own : tokens? before = some tokens)
    (free : (Mode.between.after before.toList).IsFree) (ends : EndsWord rest.toList) (s : String) :
    tokens? (before ++ quote s ++ rest) =
      (tokens? rest).map (tokens ++ .word (.ofText s) :: ·) := by
  rw [tokens?, Mode.lex_eq, free.finish?] at own
  obtain rfl := Option.some.inj own
  rw [tokens?, String.toList_append, String.toList_append, List.append_assoc, Mode.lex_append,
    (quote_spells s).lex_append free ends, Option.map_map]
  refine congrArg (Option.map · _) (funext fun more => ?_)
  exact (List.append_assoc _ _ _).symm

/-- So are several, with blanks between them. -/
theorem tokens_arguments (own : tokens? before = some tokens)
    (gap : Mode.between.after before.toList = .between) (ends : EndsWord rest.toList)
    (args : List String) :
    tokens? (before ++ " ".intercalate (args.map quote) ++ rest) =
      (tokens? rest).map (tokens ++ (args.map .ofText).map .word ++ ·) := by
  induction args generalizing before tokens with
  | nil =>
      rw [List.map_nil, String.intercalate_nil, String.append_empty, tokens_append own gap]
      simp
  | cons s args ih =>
      have free : (Mode.between.after before.toList).IsFree := by
        rw [gap]
        trivial
      cases args with
      | nil =>
          rw [List.map_singleton, String.intercalate_singleton, tokens_quote own free ends]
          simp
      | cons s' args =>
          -- the blank after the first ends its word
          have blank : EndsWord " ".toList := by decide
          have first : tokens? (before ++ quote s ++ " ") = some (tokens ++ [.word (.ofText s)]) :=
            tokens_quote own free blank s
          have gap' : Mode.between.after (before ++ quote s ++ " ").toList = .between := by
            rw [String.toList_append, String.toList_append, List.append_assoc, Mode.after_append]
            exact (quote_spells s).after_append free blank
          rw [List.map_cons, List.map_cons, String.intercalate_cons_cons, ← List.map_cons,
            ← String.append_assoc, ← String.append_assoc, ih first gap', List.append_assoc]
          rfl

/-- No other arguments make the same text. -/
theorem arguments_injective :
    Function.Injective fun args : List String => " ".intercalate (args.map quote) := by
  have reads (args : List String) : tokens? (" ".intercalate (args.map quote)) =
      some ((args.map .ofText).map .word) := by
    have alone := @tokens_arguments "" "" [] rfl rfl endsWord_nil args
    rw [String.empty_append, String.append_empty] at alone
    rw [alone]
    exact congrArg some (List.append_nil _)
  intro args args' same
  have read := congrArg tokens? same
  simp only [reads, Option.some.injEq] at read
  have words := (List.map_inj_right fun _ _ => Token.word.inj).mp read
  exact (List.map_inj_right fun _ _ => Word.ofText_inj).mp words

end Words

/-! ## Open commands -/

/-- A command with words put in before its `k`-th. -/
def Command.putIn (k : Nat) (words : List Word) (command : Command) : Command :=
  { command with words := command.words.take k ++ words ++ command.words.drop k }

/-- Commands with words put into the `i`-th of them, before its `k`-th word. -/
def putIn (i k : Nat) (words : List Word) (commands : List (Command × Junction)) :
    List (Command × Junction) :=
  commands.modify i (Prod.map (Command.putIn k words) id)

theorem append_putIn {commands others : List (Command × Junction)} {k : Nat} {words : List Word} :
    commands ++ putIn 0 k words others = putIn commands.length k words (commands ++ others) := by
  induction commands with
  | nil => rfl
  | cons first commands ih =>
      rw [List.cons_append, ih]
      rfl

section Open

variable {current last next : Command} {commands : List (Command × Junction)}
  {tokens : List Token} {words : List Word} {k : Nat} {descriptor target : Word}
  {symbol : List Char} {junction : Junction}

theorem Junction.of?_ne_last : of? symbol ≠ some Junction.last := by
  unfold of?
  split <;> simp

theorem commandsFrom?_junction (found : Junction.of? symbol = some junction) :
    commandsFrom? current (.operator symbol :: tokens) =
      if current.words = [] then none
      else (commandsFrom? {} tokens).map ((current, junction) :: ·) := by
  rw [commandsFrom?.eq_def]
  simp only [found]

theorem commandsFrom?_redirection (found : Junction.of? symbol = none) :
    commandsFrom? current (.operator symbol :: .word target :: tokens) =
      (current.redirect? [] symbol target).bind fun next => commandsFrom? next tokens := by
  rw [commandsFrom?.eq_def]
  simp only [found]

/-- Commands of which nothing closes the last have been read up to its middle: it has a word, and when
more tokens come its reading goes on with them. -/
theorem resumes (read : commandsFrom? current tokens = some (commands ++ [(last, .last)])) :
    last.words ≠ [] ∧ ∀ more, commandsFrom? current (tokens ++ more) =
      (commandsFrom? last more).map (commands ++ ·) := by
  fun_induction commandsFrom? current tokens generalizing commands with
  | case1 => simp at read
  | case2 => simp at read
  | case3 current filled named =>
      have parts : commands = [] ∧ current = last := by
        cases commands with
        | nil => simpa using read
        | cons first commands => simp at read
      obtain ⟨rfl, rfl⟩ := parts
      exact ⟨named, fun more => Option.map_id.symm ▸ rfl⟩
  | case4 current w rest ih => exact ih read
  | case5 current digits symbol target rest ih =>
      obtain ⟨next, redirected, read⟩ := Option.bind_eq_some_iff.mp read
      obtain ⟨named, resume⟩ := ih next read
      refine ⟨named, fun more => ?_⟩
      rw [← resume more]
      show (current.redirect? digits symbol target).bind _ = _
      rw [redirected]
      rfl
  | case6 => simp at read
  | case7 => simp at read
  | case8 current symbol rest junction found named ih =>
      obtain ⟨others, read, parts⟩ := Option.map_eq_some_iff.mp read
      cases commands with
      | nil =>
          -- the command has a junction, so it is closed
          obtain ⟨first, -⟩ := List.cons.inj parts
          obtain ⟨-, rfl⟩ := Prod.mk.inj first
          exact absurd found Junction.of?_ne_last
      | cons first commands =>
          obtain ⟨rfl, rfl⟩ := List.cons.inj parts
          obtain ⟨named', resume⟩ := ih read
          refine ⟨named', fun more => ?_⟩
          rw [List.cons_append, commandsFrom?_junction found, if_neg named, resume, Option.map_map]
          rfl
  | case9 current symbol found target rest ih =>
      obtain ⟨next, redirected, read⟩ := Option.bind_eq_some_iff.mp read
      obtain ⟨named, resume⟩ := ih next read
      refine ⟨named, fun more => ?_⟩
      rw [List.cons_append, List.cons_append, commandsFrom?_redirection found, redirected,
        Option.bind_some, resume]
  | case10 => simp at read

/-- A redirection leaves the words alone and does not look at them. -/
theorem Command.redirect?_withWords :
    { current with words := words }.redirect? descriptor symbol target =
      (current.redirect? descriptor symbol target).map ({ · with words := words }) := by
  unfold redirect?
  split
  case h_6 | h_7 | h_8 => split <;> rfl
  all_goals rfl

theorem Command.redirect?_words
    (redirected : current.redirect? descriptor symbol target = some next) :
    next.words = current.words := by
  have same : current.redirect? descriptor symbol target =
      (current.redirect? descriptor symbol target).map ({ · with words := current.words }) :=
    redirect?_withWords
  rw [redirected, Option.map_some] at same
  have kept := Option.some.inj same
  rw [kept]

theorem Command.redirect?_putIn :
    (current.putIn k words).redirect? descriptor symbol target =
      (current.redirect? descriptor symbol target).map (putIn k words) := by
  rw [putIn, redirect?_withWords]
  refine Option.map_congr fun next redirected => ?_
  rw [putIn, redirect?_words redirected]

theorem Command.putIn_words_ne_nil (named : current.words ≠ []) :
    (current.putIn k words).words ≠ [] := by
  intro none
  obtain ⟨front, back⟩ := List.append_eq_nil_iff.mp none
  refine named ?_
  rw [← List.take_append_drop k current.words, back, (List.append_eq_nil_iff.mp front).1]
  rfl

/-- Words that come later stand after the ones that are put in. -/
theorem Command.putIn_append (within : k ≤ current.words.length) (w : Word) :
    { current.putIn k words with words := (current.putIn k words).words ++ [w] } =
      { current with words := current.words ++ [w] }.putIn k words := by
  simp only [putIn, List.take_append_of_le_length within, List.drop_append_of_le_length within,
    List.append_assoc]

theorem commandsFrom?_nil (named : current.words ≠ []) :
    commandsFrom? current [] = some [(current, .last)] := by
  have filled : current ≠ {} := by
    rintro rfl
    exact named rfl
  rw [commandsFrom?, if_neg filled, if_neg named]

/-- Words that are put in before a redirection stand in what is read after it. -/
theorem redirect?_bind_putIn
    (later : ∀ next : Command, next.words = current.words →
      commandsFrom? (next.putIn k words) tokens =
        (commandsFrom? next tokens).map (putIn 0 k words)) :
    ((current.putIn k words).redirect? descriptor symbol target).bind (commandsFrom? · tokens) =
      ((current.redirect? descriptor symbol target).bind (commandsFrom? · tokens)).map
        (putIn 0 k words) := by
  rw [Command.redirect?_putIn]
  cases redirected : current.redirect? descriptor symbol target with
  | none => rfl
  | some next => exact later next (Command.redirect?_words redirected)

/-- More tokens do not depend on the words before them: words that are put into a command stand in what
is read of it, and nothing else changes. -/
theorem commandsFrom?_putIn (named : current.words ≠ []) (within : k ≤ current.words.length) :
    commandsFrom? (current.putIn k words) tokens =
      (commandsFrom? current tokens).map (putIn 0 k words) := by
  fun_induction commandsFrom? current tokens with
  | case1 => exact absurd rfl named
  | case2 current filled nameless => exact absurd nameless named
  | case3 current filled _ =>
      rw [commandsFrom?_nil (Command.putIn_words_ne_nil named)]
      rfl
  | case4 current w rest ih =>
      rw [commandsFrom?, Command.putIn_append within]
      exact ih (by simp) (by simp; omega)
  | case5 current digits symbol target rest ih =>
      rw [commandsFrom?]
      exact redirect?_bind_putIn fun next same => ih next (same ▸ named) (same ▸ within)
  | case6 current digits rest other =>
      rw [commandsFrom?]
      · rfl
      · exact other
  | case7 current symbol rest junction found nameless => exact absurd nameless named
  | case8 current symbol rest junction found _ ih =>
      rw [commandsFrom?_junction found, if_neg (Command.putIn_words_ne_nil named), Option.map_map]
      rfl
  | case9 current symbol found target rest ih =>
      rw [commandsFrom?_redirection found]
      exact redirect?_bind_putIn fun next same => ih next (same ▸ named) (same ▸ within)
  | case10 current symbol rest found other =>
      rw [commandsFrom?.eq_def]
      simp only [found]
      cases rest with
      | nil => rfl
      | cons token rest =>
          cases token with
          | word target => exact (other target rest rfl).elim
          | descriptor | operator => rfl

/-- Words go to the end of the command that is being read. -/
theorem commandsFrom?_words (words : List Word) :
    commandsFrom? current (words.map .word ++ tokens) =
      commandsFrom? { current with words := current.words ++ words } tokens := by
  induction words generalizing current with
  | nil => rw [List.append_nil]; rfl
  | cons w words ih =>
      rw [List.map_cons, List.cons_append, commandsFrom?, ih, List.append_assoc]
      rfl

end Open

/-! ## Arguments -/

/-- A text after which a command can be given arguments: it is read as commands of which nothing closes
the last, and it ends between two tokens, so neither in a word nor in a comment. -/
structure OpenAt (before : String) (commands : List (Command × Junction)) (last : Command) :
    Prop where
  read : read? before = some (commands ++ [(last, .last)])
  gap : Mode.between.after before.toList = .between

theorem OpenAt.arguments {before rest : String} {commands : List (Command × Junction)}
    {last : Command} (place : OpenAt before commands last) (ends : EndsWord rest.toList)
    (args : List String) :
    read? (before ++ " ".intercalate (args.map quote) ++ rest) =
      (read? (before ++ rest)).map
        (putIn commands.length last.words.length (args.map .ofText)) := by
  obtain ⟨tokens, own, read⟩ := Option.bind_eq_some_iff.mp place.read
  obtain ⟨named, resume⟩ := resumes read
  have arguments (words : List Word) (more : List Token) :
      commands? (tokens ++ words.map .word ++ more) =
        (commands? (tokens ++ more)).map (putIn commands.length last.words.length words) := by
    unfold commands?
    have atEnd : { last with words := last.words ++ words } = last.putIn last.words.length words := by
      simp [Command.putIn]
    rw [List.append_assoc, resume, resume, commandsFrom?_words, atEnd,
      commandsFrom?_putIn named (Nat.le_refl _), Option.map_map, Option.map_map]
    exact congrArg (Option.map · _) (funext fun found => append_putIn)
  unfold read?
  rw [tokens_arguments own place.gap ends, tokens_append own place.gap, Option.bind_map,
    Option.bind_map, Option.map_bind]
  exact congrArg (Option.bind _) (funext fun more => arguments _ more)

/-- **Reading back.** For all texts, whatever characters they have:
* a word of inert characters alone is the text that a program gets;
* wherever a word can stand, with something after it that ends a word, a quoted text is read as one
  word, which is the text and on which the shell does not act; what is before and after is read as if
  the text was not there;
* wherever a command can be given arguments, quoted texts with blanks between them are read as one
  word each and in their order, and nothing else of the commands changes, whatever comes after;
* so no other arguments make the same text, and no other text is quoted alike. -/
theorem quote_read_back :
    (∀ s, (Word.ofText s).text? = some s) ∧
    (∀ (before rest : String) (tokens : List Token), tokens? before = some tokens →
      (Mode.between.after before.toList).IsFree → EndsWord rest.toList → ∀ s,
        tokens? (before ++ quote s ++ rest) =
          (tokens? rest).map (tokens ++ .word (.ofText s) :: ·)) ∧
    (∀ (before rest : String) (commands : List (Command × Junction)) (last : Command),
      OpenAt before commands last → EndsWord rest.toList → ∀ args : List String,
        read? (before ++ " ".intercalate (args.map quote) ++ rest) =
          (read? (before ++ rest)).map
            (putIn commands.length last.words.length (args.map .ofText))) ∧
    (Function.Injective fun args : List String => " ".intercalate (args.map quote)) ∧
    Function.Injective quote := by
  refine ⟨Word.text?_ofText, ?_, ?_, arguments_injective, ?_⟩
  · intro before rest tokens own free ends s
    exact tokens_quote own free ends s
  · intro before rest commands last place ends args
    exact place.arguments ends args
  · intro s s' same
    have alone : [s] = [s'] := arguments_injective (by simpa using same)
    exact List.singleton_inj.mp alone

/-- A text that would end its quotes, run a command, begin a comment and end the line, as an argument
among others in the second of three commands, and as a word of its own. -/
theorem quote_read_back_hostile :
    let before := "cd /x; sh -c "
    let rest := " > out; ls"
    let hostile := "it's $(here); #\n"
    let entering : Command := { words := ["cd", "/x"].map .ofText }
    OpenAt before [(entering, .sequence)] { words := ["sh", "-c"].map .ofText } ∧
      EndsWord rest.toList ∧ (Mode.between.after before.toList).IsFree ∧
      read? (before ++ " ".intercalate ([hostile, "b c"].map quote) ++ rest) = some
        [(entering, .sequence),
          ({ words := ["sh", "-c", hostile, "b c"].map .ofText, stdout := .file (.ofText "out") },
            .sequence),
          ({ words := ["ls"].map .ofText }, .last)] ∧
      tokens? (before ++ quote hostile ++ rest) = some
        (["cd", "/x"].map (.word ∘ .ofText) ++ [.operator [';']] ++
          ["sh", "-c", hostile].map (.word ∘ .ofText) ++ [.operator ['>'], .word (.ofText "out"),
            .operator [';'], .word (.ofText "ls")]) := by
  intro before rest hostile entering
  obtain ⟨-, words, arguments, -⟩ := quote_read_back
  have place : OpenAt before [(entering, .sequence)] { words := ["sh", "-c"].map .ofText } :=
    ⟨by decide +kernel, by decide⟩
  have ends : EndsWord rest.toList := by decide
  have free : (Mode.between.after before.toList).IsFree := by decide
  refine ⟨place, ends, free, ?_, ?_⟩
  · rw [arguments before rest _ _ place ends]
    decide +kernel
  · have own : tokens? before = some (["cd", "/x"].map (.word ∘ .ofText) ++ [.operator [';']] ++
        ["sh", "-c"].map (.word ∘ .ofText)) := by
      decide +kernel
    rw [words before rest _ own free ends]
    decide +kernel

end AgentTrial.Shell

import AgentTrial.Proofs.Shell.Reader
import AgentTrial.Shell.Quote

/-!
# Quoted words

What the shell reads where a quoted text stands.

* **Composition** — a text is read piece by piece (`Mode.lex_append`).
* **Words** — a text spells a word if, wherever a word may begin, the reader is in that word after the
  text and nothing else has come of it (`Spells`). A blank, an operator or the end of the text ends
  the word (`EndsWord`, `Spells.lex_append`).
* **Quoting** — a quoted text spells the word that is the text, with no character active
  (`quote_spells`).
-/

namespace AgentTrial.Shell

/-! ## Composition -/

namespace Mode

theorem after_append (m : Mode) (xs ys : List Char) :
    m.after (xs ++ ys) = (m.after xs).after ys := List.foldl_append

theorem emits_append (m : Mode) (xs ys : List Char) :
    m.emits (xs ++ ys) = m.emits xs ++ (m.after xs).emits ys := by
  induction xs generalizing m with
  | nil => rfl
  | cons c cs ih =>
      show (m.step c).1 ++ (m.step c).2.emits (cs ++ ys) = _
      rw [ih, ← List.append_assoc]
      rfl

/-- The tokens of a text are those that end within its first part, and then those of the rest. -/
theorem lex_append (m : Mode) (xs ys : List Char) :
    m.lex (xs ++ ys) = ((m.after xs).lex ys).map (m.emits xs ++ ·) := by
  induction xs generalizing m with
  | nil => exact Option.map_id.symm ▸ rfl
  | cons c cs ih =>
      show ((m.step c).2.lex (cs ++ ys)).map _ = _
      rw [ih, Option.map_map]
      refine congrArg (Option.map · _) (funext fun tokens => ?_)
      exact (List.append_assoc _ _ _).symm

/-- Where a word may begin: between two tokens, or right after an operator. -/
def IsFree : Mode → Prop
  | between => True
  | operator symbol => symbol ≠ ['<', '<']
  | _ => False

instance : (m : Mode) → Decidable m.IsFree
  | between => .isTrue trivial
  | operator symbol => inferInstanceAs (Decidable (symbol ≠ ['<', '<']))
  | comment | word .. | escape _ | single _ | double _ | doubleEscape _ | dollar .. | inside ..
  | lost => .isFalse id

/-- The token that ends where a word begins. -/
def pending : Mode → List Token
  | operator symbol => [.operator symbol]
  | _ => []

end Mode

/-! ## Words -/

/-- Wherever a word may begin, the reader is in the word after the text and nothing else has come
of the text. -/
def Spells (text : List Char) (w : Word) : Prop :=
  ∀ m : Mode, m.IsFree → ∃ bare, m.after text = .word w bare ∧ m.emits text = m.pending

/-- No operator goes on with a character that is none of an operator. -/
theorem not_mem_longOperators {symbol : List Char} {c : Char} (h : isOperator c = false) :
    symbol ++ [c] ∉ longOperators := by
  have all : ∀ op ∈ longOperators, ∀ c ∈ op, isOperator c = true := by
    simp [longOperators, isOperator]
  intro mem
  have := all _ mem c (List.mem_append_right _ List.mem_cons_self)
  rw [h] at this
  cases this

/-- Where a word may begin, a character of no operator is read as between two tokens. -/
theorem Mode.IsFree.step {m : Mode} (free : m.IsFree) {c : Char} (h : isOperator c = false) :
    m.step c = (m.pending, .begin c) := by
  cases m with
  | between => rfl
  | operator symbol =>
      show (if symbol = ['<', '<'] then _ else if symbol ++ [c] ∈ longOperators then _ else _) = _
      rw [if_neg free, if_neg (not_mem_longOperators h)]
      rfl
  | _ => exact free.elim

/-- A text spells a word that it spells from its first character on. -/
theorem spells_cons {c : Char} {cs : List Char} {w : Word} {bare : Bool}
    (h : isOperator c = false) (after : (Mode.begin c).after cs = .word w bare)
    (emits : (Mode.begin c).emits cs = []) : Spells (c :: cs) w := by
  intro m free
  have first := free.step h
  refine ⟨bare, ?_, ?_⟩
  · show (m.step c).2.after cs = _
    rw [first, after]
  · show (m.step c).1 ++ (m.step c).2.emits cs = _
    rw [first, emits, List.append_nil]

/-- What ends a word: a blank, an operator, or the end of the text. Digits right before a redirection
are no word. -/
def EndsWord (rest : List Char) : Prop :=
  ∀ c ∈ rest.head?, isBlank c = true ∨ (isOperator c = true ∧ c ≠ '<' ∧ c ≠ '>')

theorem endsWord_nil : EndsWord [] := by
  simp [EndsWord]

instance : (rest : List Char) → Decidable (EndsWord rest)
  | [] => .isTrue endsWord_nil
  | c :: _ =>
    decidable_of_decidable_of_iff
      (p := isBlank c = true ∨ (isOperator c = true ∧ c ≠ '<' ∧ c ≠ '>')) (by simp [EndsWord])

/-- The character that ends a word is read as between two tokens. -/
theorem EndsWord.step {c : Char} {rest : List Char} (ends : EndsWord (c :: rest)) (w : Word)
    (bare : Bool) : (Mode.word w bare).step c = ([.word w], .begin c) := by
  show Mode.further w bare c = _
  rcases ends c rfl with blank | ⟨operator, notIn, notOut⟩
  · simp [Mode.further, Mode.begin, blank]
  · have loud : isBlank c = false := by
      have all : ∀ d ∈ ['|', '&', ';', '<', '>', '(', ')', '\n'], isBlank d = false := by
        simp [isBlank]
      exact all c (List.contains_iff_mem.mp operator)
    simp [Mode.further, Mode.begin, Token.ofWord, loud, operator, notIn, notOut]

namespace Spells

variable {text rest : List Char} {w : Word} {m : Mode}

/-- What ends a word is read as if there were nothing before it. -/
theorem after_append (h : Spells text w) (free : m.IsFree) {c : Char}
    (ends : EndsWord (c :: rest)) : m.after (text ++ c :: rest) = Mode.between.after (c :: rest) := by
  obtain ⟨bare, after, -⟩ := h m free
  rw [Mode.after_append, after]
  show ((Mode.word w bare).step c).2.after rest = _
  rw [ends.step]
  rfl

/-- A text that spells a word is read as that word where something ends it. -/
theorem lex_append (h : Spells text w) (free : m.IsFree) (ends : EndsWord rest) :
    m.lex (text ++ rest) = (Mode.between.lex rest).map (m.pending ++ .word w :: ·) := by
  obtain ⟨bare, after, emits⟩ := h m free
  rw [Mode.lex_append, after, emits]
  cases rest with
  | nil => rfl
  | cons c rest =>
      show Option.map _ (Option.map _ (((Mode.word w bare).step c).2.lex rest)) =
        Option.map _ (Option.map _ ((Mode.begin c).lex rest))
      rw [ends.step, Option.map_map, Option.map_map]
      rfl

end Spells

/-! ## Quoting -/

/-- What is known of a plain character: it neither ends a word nor begins anything in it. -/
structure IsQuiet (c : Char) : Prop where
  blank : isBlank c = false
  operator : isOperator c = false
  hash : c ≠ '#'
  backslash : c ≠ '\\'
  single : c ≠ '\''
  double : c ≠ '"'
  dollar : c ≠ '$'
  backquote : c ≠ '\x60'
  magic : isMagic c = false

/-- Plain characters are quiet. -/
theorem isQuiet_of_isPlain {c : Char} (h : isPlain c) : IsQuiet c := by
  have loud : ∀ d ∈ ['|', '&', ';', '<', '>', '(', ')', '\n', ' ', '\t', '#', '\\', '\'', '"', '$',
      '\x60', '*', '?', '[', '~', '\x7b'], c ≠ d := by
    intro d mem eq
    have none : ∀ d ∈ ['|', '&', ';', '<', '>', '(', ')', '\n', ' ', '\t', '#', '\\', '\'', '"', '$',
      '\x60', '*', '?', '[', '~', '\x7b'], isPlain d = false := by
      simp [isPlain, isAlphanumeric]
    rw [eq, none d mem] at h
    cases h
  simp only [List.mem_cons, List.not_mem_nil, or_false, forall_eq_or_imp, forall_eq] at loud
  constructor <;> simp [isBlank, isOperator, isMagic, loud]

/-- A plain character between two tokens begins a word. -/
theorem IsQuiet.begin {c : Char} (h : IsQuiet c) : Mode.begin c = .word [.inert c] true := by
  simp [Mode.begin, Mode.unquoted, h.blank, h.operator, h.hash, h.backslash, h.single, h.double,
    h.dollar, h.backquote, h.magic]

/-- A plain character goes on with a word. -/
theorem IsQuiet.step {c : Char} (h : IsQuiet c) (read : Word) (bare : Bool) :
    (Mode.word read bare).step c = ([], .word (read ++ [.inert c]) bare) := by
  simp [Mode.step, Mode.further, Mode.unquoted, h.blank, h.operator, h.backslash, h.single,
    h.double, h.dollar, h.backquote, h.magic]

theorem plain_read {cs : List Char} (plain : cs.all isPlain) (read : Word) (bare : Bool) :
    (Mode.word read bare).after cs = .word (read ++ cs.map .inert) bare ∧
      (Mode.word read bare).emits cs = [] := by
  induction cs generalizing read with
  | nil => exact ⟨by rw [List.map_nil, List.append_nil]; rfl, rfl⟩
  | cons c cs ih =>
      rw [List.all_cons, Bool.and_eq_true] at plain
      obtain ⟨first, rest⟩ := plain
      have step := (isQuiet_of_isPlain first).step read bare
      obtain ⟨after, emits⟩ := ih rest (read ++ [.inert c])
      refine ⟨?_, ?_⟩
      · show ((Mode.word read bare).step c).2.after cs = _
        rw [step, after, List.append_assoc]
        rfl
      · show ((Mode.word read bare).step c).1 ++ ((Mode.word read bare).step c).2.emits cs = _
        rw [step, emits]
        rfl

/-- In single quotes every character stands for itself, and an escaped quote for a quote. -/
theorem quoteBody_read (cs : List Char) (read : Word) :
    (Mode.single read).after (quoteBody cs) = .single (read ++ cs.map .inert) ∧
      (Mode.single read).emits (quoteBody cs) = [] := by
  induction cs generalizing read with
  | nil => exact ⟨by rw [List.map_nil, List.append_nil]; rfl, rfl⟩
  | cons c cs ih =>
      obtain ⟨after, emits⟩ := ih (read ++ [.inert c])
      rw [List.append_assoc] at after
      by_cases quote : c = '\''
      · -- the word is left for the escaped quote and entered again
        subst quote
        exact ⟨after, emits⟩
      · have step : (Mode.single read).step c = ([], .single (read ++ [.inert c])) := by
          show ([], if c = '\'' then _ else _) = _
          rw [if_neg quote]
        have body : quoteBody (c :: cs) = c :: quoteBody cs := if_neg quote
        rw [body]
        refine ⟨?_, ?_⟩
        · show ((Mode.single read).step c).2.after (quoteBody cs) = _
          rw [step]
          exact after
        · show ((Mode.single read).step c).1 ++ ((Mode.single read).step c).2.emits _ = _
          rw [step]
          exact emits

/-- **Quoting.** A quoted text spells the word that is the text. -/
theorem quote_spells (s : String) : Spells (quote s).toList (.ofText s) := by
  rw [quote, String.toList_ofList, quoteChars]
  split
  · rename_i h
    obtain ⟨c, cs, eq⟩ := List.exists_cons_of_ne_nil h.1
    unfold Word.ofText
    rw [eq] at h ⊢
    rw [List.all_cons, Bool.and_eq_true] at h
    obtain ⟨-, first, rest⟩ := h
    have quiet := isQuiet_of_isPlain first
    obtain ⟨after, emits⟩ := plain_read rest [.inert c] true
    exact spells_cons quiet.operator (quiet.begin ▸ after) (quiet.begin ▸ emits)
  · obtain ⟨after, emits⟩ := quoteBody_read s.toList []
    refine @spells_cons _ _ _ false rfl ?_ ?_
    · rw [Mode.after_append]
      show ((Mode.single []).after (quoteBody s.toList)).after ['\''] = _
      rw [after]
      rfl
    · rw [Mode.emits_append]
      show (Mode.single []).emits (quoteBody s.toList) ++
        ((Mode.single []).after (quoteBody s.toList)).emits ['\''] = _
      rw [emits, after]
      rfl

end AgentTrial.Shell

import AgentTrial.Proofs.Shell.Quote
import AgentTrial.Proofs.Text.Template

/-!
# Slots in commands

What the shell reads of a command whose slots stand as words of their own.

* **Shapes** — the tokens of such a command, with slots where words are put in (`Shape`).
* **Filling** — whatever words the values of the slots spell, the filled command is read as its
  shape with those words, and as nothing else (`exists_shape`).
-/

namespace AgentTrial.Shell

open Text.Template

/-- Read from a mode on, the slot begins where a word may begin and ends where a word ends, wherever
it occurs in the template. -/
def StandsAlone (m : Mode) (slot : String) (template : List Char) : Prop :=
  ∀ before after, template = before ++ (slot.toList ++ after) →
    (m.after before).IsFree ∧ EndsWord after

theorem standsAlone_iff {m : Mode} {slot : String} {template : List Char} :
    StandsAlone m slot template ↔ ∀ k ≤ template.length, slot.toList <+: template.drop k →
      (m.after (template.take k)).IsFree ∧ EndsWord (template.drop (k + slot.toList.length)) := by
  constructor
  · rintro alone k - ⟨after, here⟩
    have rest : template.drop (k + slot.toList.length) = after := by
      rw [← List.drop_drop, ← here, List.drop_left]
    rw [rest]
    exact alone _ _ (by rw [here, List.take_append_drop])
  · intro places before after parts
    have here := places before.length (by rw [parts, List.length_append]; omega)
    rw [parts, List.take_left, ← List.drop_drop, List.drop_left, List.drop_left] at here
    exact here (List.prefix_append ..)

instance (m : Mode) (slot : String) (template : List Char) :
    Decidable (StandsAlone m slot template) := decidable_of_iff _ standsAlone_iff.symm

/-- A token, or a slot where a word is put in. -/
inductive Place where
  | token (token : Token)
  | slot (name : String)
  deriving DecidableEq, Repr

/-- The token at a place when the slots are words. -/
def Place.fill (word : String → Word) : Place → Token
  | token t => t
  | slot name => .word (word name)

/-- The tokens of a command, with slots where words are put in. -/
abbrev Shape := List Place

/-- The tokens of a shape when its slots are words. -/
def Shape.fill (word : String → Word) (shape : Shape) : List Token := shape.map (Place.fill word)

section Shapes

variable {slots : List String} {slot : String} {m : Mode} {w : Word} {c : Char}
  {cs template : List Char}

theorem Shape.fill_append (word : String → Word) (tokens : List Token) (shape : Shape) :
    fill word (tokens.map .token ++ shape) = tokens ++ fill word shape := by
  rw [fill, List.map_append, List.map_map]
  exact congrArg (· ++ fill word shape) (List.map_id tokens)

/-- Tokens that are read are no slots. -/
theorem Shape.count_append (tokens : List Token) (shape : Shape) :
    List.count (.slot slot) (tokens.map .token ++ shape) = List.count (.slot slot) shape := by
  have none : Place.slot slot ∉ tokens.map .token := by simp
  rw [List.count_append, List.count_eq_zero.mpr none, Nat.zero_add]

theorem StandsAlone.of_cons (alone : StandsAlone m slot (c :: cs)) :
    StandsAlone (m.step c).2 slot cs := by
  intro before after parts
  exact alone (c :: before) after (by rw [parts]; rfl)

/-- After a slot that stands alone the others stand as if there were nothing before. -/
theorem StandsAlone.of_append {other : String} (spells : Spells slot.toList w) (free : m.IsFree)
    (ends : EndsWord cs) (alone : StandsAlone m other (slot.toList ++ cs)) :
    StandsAlone .between other cs := by
  intro before after parts
  obtain ⟨begins, rest⟩ := alone (slot.toList ++ before) after (by rw [parts, List.append_assoc])
  refine ⟨?_, rest⟩
  cases before with
  | nil => trivial
  | cons c before =>
      have ends : EndsWord (c :: before) := by
        intro d mem
        exact ends d (by rw [parts]; exact mem)
      rwa [spells.after_append free ends] at begins

/-- What ends a word still does when the slots after it are filled. -/
theorem EndsWord.substituteIn (braces : ∀ slot ∈ slots, InBraces slot) (ends : EndsWord cs)
    (value : String → String) : EndsWord (substituteIn slots value cs) := by
  cases cs with
  | nil => exact ends
  | cons c cs =>
      have apart : ∀ slot ∈ slots, ¬slot.toList <+: c :: cs := by
        intro slot mem here
        obtain ⟨body, chars, -⟩ := braces slot mem
        rw [chars, List.cons_prefix_cons] at here
        have blank := ends c rfl
        rw [← here.1] at blank
        revert blank
        decide
      rw [substituteIn_cons apart]
      exact ends

/-- **Filling.** A command whose slots stand alone has a shape, with as many slots as there are in the
command. -/
theorem exists_shape (braces : ∀ slot ∈ slots, InBraces slot)
    (own : ∀ slot ∈ slots, ∃ w, Spells slot.toList w)
    (alone : ∀ slot ∈ slots, StandsAlone m slot template) :
    ∃ shape? : Option Shape,
      (∀ shape ∈ shape?, ∀ slot ∈ slots, shape.count (.slot slot) = count slot template) ∧
        ∀ (value : String → String) (word : String → Word),
          (∀ slot ∈ slots, Spells (value slot).toList (word slot)) →
            m.lex (substituteIn slots value template) = shape?.map (Shape.fill word) := by
  induction template using template_induction braces generalizing m with
  | nil =>
      refine ⟨m.finish?.map (·.map .token ++ []), ?_, ?_⟩
      · intro shape mem slot here
        obtain ⟨tokens, -, rfl⟩ := Option.map_eq_some_iff.mp mem
        rw [Shape.count_append, count_nil (braces slot here)]
        rfl
      · intro value word spells
        have same : Shape.fill word ∘ (fun tokens => tokens.map .token ++ []) = id := by
          funext tokens
          exact (Shape.fill_append word tokens []).trans (List.append_nil tokens)
        rw [Option.map_map, same, Option.map_id]
        rfl
  | slot slot here cs ih =>
      obtain ⟨w, spells⟩ := own slot here
      obtain ⟨free, ends⟩ : m.IsFree ∧ EndsWord cs := alone slot here [] cs rfl
      obtain ⟨shape?, counts, reads⟩ := ih fun other mem =>
        (alone other mem).of_append spells free ends
      refine ⟨shape?.map (m.pending.map .token ++ .slot slot :: ·), ?_, ?_⟩
      · intro shape mem other there
        obtain ⟨shape, found, rfl⟩ := Option.map_eq_some_iff.mp mem
        rw [Shape.count_append, List.count_cons, counts shape found other there,
          count_slot_append (braces other there) (braces slot here)]
        simp only [beq_iff_eq, Place.slot.injEq, @eq_comm _ slot other]
      · intro value word spells
        rw [substituteIn_slot_append braces here,
          (spells slot here).lex_append free (ends.substituteIn braces value),
          reads value word spells, Option.map_map, Option.map_map]
        refine congrArg (Option.map · shape?) (funext fun shape => ?_)
        exact (Shape.fill_append word m.pending (.slot slot :: shape)).symm
  | char c cs apart ih =>
      obtain ⟨shape?, counts, reads⟩ := ih fun slot mem => (alone slot mem).of_cons
      refine ⟨shape?.map ((m.step c).1.map .token ++ ·), ?_, ?_⟩
      · intro shape mem slot here
        obtain ⟨shape, found, rfl⟩ := Option.map_eq_some_iff.mp mem
        rw [Shape.count_append, counts shape found slot here, count_cons, if_neg (apart slot here),
          Nat.add_zero]
      · intro value word spells
        rw [substituteIn_cons apart]
        show ((m.step c).2.lex _).map _ = _
        rw [reads value word spells, Option.map_map, Option.map_map]
        refine congrArg (Option.map · shape?) (funext fun shape => ?_)
        exact (Shape.fill_append word (m.step c).1 shape).symm

end Shapes

end AgentTrial.Shell

import EvpnGateway.Shell.Command
import Mathlib.Tactic
/-!
# What the shell reads

The rules by which the POSIX shell takes a command line apart, as far as it holds one simple command
of literal words, and what they make of quoted text.

* `Obstacle`: what else a command line may hold; `CommandReader`: words read so far and the quoting
  in force; `CommandReader.step`: one character; `readCommand`: the words of a command line;
* `foldlM_literal`, **`foldlM_shellQuote`**: literal characters and quoted texts add to the word
  that is read; `delivered`: a quoted text without its line feeds;
* **`Command.readCommand_text`**: commands of readable words; **`readCommand_shellQuote`**, and
  `line_feed_lost`: quoted texts.
-/

namespace EvpnGateway

/-! ## Reading a command line -/

/-- Why a command line is not one simple command of literal words. -/
inductive Obstacle where
  /-- No command line can hold the null character. -/
  | null
  /-- A control operator or a redirection; the end of a line ends a command. -/
  | operator (c : Char)
  /-- The expansion of a parameter or of arithmetic, or the output of another command. -/
  | expansion (c : Char)
  /-- A pattern for names of files. -/
  | pattern (c : Char)
  /-- The home directory of a user. -/
  | home
  | comment
  /-- A variable is given a value. -/
  | assignment
  | reservedWord (word : String)
  /-- A quote that is not closed, or a backslash with nothing behind it. -/
  | unfinished
  deriving DecidableEq, Repr

/-- How the next character is quoted. -/
inductive Quoting where
  | none
  /-- Behind a backslash. -/
  | escaped
  | single
  | double
  /-- Behind a backslash between double quotes. -/
  | doubleEscaped
  deriving DecidableEq, Repr

/-- A command line that is read from left to right. -/
structure CommandReader where
  /-- The words that have ended. -/
  words : List String := []
  /-- The word that has begun. -/
  word : Option (List Char) := none
  /-- Some of that word is quoted. -/
  isQuoted : Bool := false
  quoting : Quoting := .none
  deriving DecidableEq, Repr

namespace CommandReader

/-- A control operator or redirection starts with the character, or a line ends there. -/
def isOperator (c : Char) : Bool :=
  c = '|' || c = '&' || c = ';' || c = '<' || c = '>' || c = '(' || c = ')' || c = '\n'

/-- The character starts an expansion, between double quotes too. -/
def isExpansion (c : Char) : Bool := c = '$' || c = '\x60'

/-- The character has a meaning in names of files. -/
def isPattern (c : Char) : Bool := c = '*' || c = '?' || c = '['

/-- Words that are no commands where a command is due, unless they are quoted. -/
def reservedWords : List String :=
  ["!", "\x7b", "\x7d", "case", "do", "done", "elif", "else", "esac", "fi", "for", "if", "in",
    "then", "until", "while"]

/-- The name of a variable. -/
def isVariable : List Char → Bool
  | [] => false
  | first :: rest => (first.isAlpha || first = '_') && rest.all fun c => c.isAlphanum || c = '_'

/-- Adds characters to the word, which begins with them if none had begun. -/
def add (reader : CommandReader) (chars : List Char) : CommandReader :=
  { reader with word := some (reader.word.getD [] ++ chars) }

/-- A part of the word is quoted, and what comes next in this way. -/
def quote (reader : CommandReader) (quoting : Quoting) : CommandReader :=
  { reader with word := some (reader.word.getD []), isQuoted := true, quoting }

/-- Ends the word, if one had begun. -/
def endWord (reader : CommandReader) : Except Obstacle CommandReader :=
  match reader.word with
  | none => .ok reader
  | some word =>
    let word := String.ofList word
    if reader.words = [] ∧ ¬ reader.isQuoted ∧ word ∈ reservedWords then
      .error (.reservedWord word)
    else .ok { words := reader.words ++ [word] }

/-- Reads a character that is not quoted. -/
def stepBare (reader : CommandReader) (c : Char) : Except Obstacle CommandReader :=
  if c = '\\' then .ok { reader with quoting := .escaped }
  else if c = '"' then .ok (reader.quote .double)
  else if c = '\x27' then .ok (reader.quote .single)
  else if c = ' ' ∨ c = '\t' then reader.endWord
  else if isOperator c then .error (.operator c)
  else if isExpansion c then .error (.expansion c)
  else if isPattern c then .error (.pattern c)
  else if c = '#' ∧ reader.word = none then .error .comment
  else if c = '~' ∧ reader.word = none then .error .home
  else if c = '=' ∧ reader.words = [] ∧ ¬ reader.isQuoted ∧ reader.word.any isVariable then
    .error .assignment
  else .ok (reader.add [c])

/-- Reads one character. A backslash and a line feed are removed. Between double quotes a backslash
keeps its meaning only in front of the characters that have one there. -/
def step (reader : CommandReader) (c : Char) : Except Obstacle CommandReader :=
  if c = '\x00' then .error .null
  else match reader.quoting with
    | .none => reader.stepBare c
    | .escaped =>
      if c = '\n' then .ok { reader with quoting := .none }
      else .ok ((reader.quote .none).add [c])
    | .single => if c = '\x27' then .ok { reader with quoting := .none } else .ok (reader.add [c])
    | .double =>
      if c = '"' then .ok { reader with quoting := .none }
      else if c = '\\' then .ok { reader with quoting := .doubleEscaped }
      else if isExpansion c then .error (.expansion c)
      else .ok (reader.add [c])
    | .doubleEscaped =>
      let reader := { reader with quoting := .double }
      if c = '\n' then .ok reader
      else if isExpansion c ∨ c = '"' ∨ c = '\\' then .ok (reader.add [c])
      else .ok (reader.add ['\\', c])

/-- The words at the end of a command line. -/
def finish (reader : CommandReader) : Except Obstacle (List String) :=
  if reader.quoting = .none then reader.endWord.map CommandReader.words else .error .unfinished

end CommandReader

/-- The words of a command line that holds one simple command of literal words, else what is in the
way. -/
def readCommand (line : String) : Except Obstacle (List String) := do
  let reader ← line.toList.foldlM CommandReader.step {}
  reader.finish

/-! ## What is added to a word -/

/-- A text without its line feeds. -/
def delivered (text : String) : String := String.ofList (text.toList.filter (· ≠ '\n'))

theorem toList_delivered (text : String) :
    (delivered text).toList = text.toList.filter (· ≠ '\n') := String.toList_ofList

namespace CommandReader

variable {reader : CommandReader}

/-- Characters that mean nothing to the shell wherever they stand: letters and digits of ASCII and
a few marks. -/
def isLiteral (c : Char) : Bool :=
  c.isAlphanum || c = '/' || c = '-' || c = '_' || c = '.' || c = ':'

/-- Some characters, all of them literal. -/
def Literal (chars : List Char) : Prop := chars ≠ [] ∧ ∀ c ∈ chars, isLiteral c = true

instance (chars : List Char) : Decidable (Literal chars) :=
  decidable_of_iff (¬ chars.isEmpty ∧ chars.all isLiteral) (by simp [Literal])

theorem add_add (chars more : List Char) :
    (reader.add chars).add more = reader.add (chars ++ more) := by
  simp [add]

theorem step_literal {c : Char} (hbare : reader.quoting = .none) (h : isLiteral c = true) :
    reader.step c = .ok (reader.add [c]) := by
  have hne : ∀ {mark : Char}, isLiteral mark = false → c ≠ mark := by
    rintro mark hmark rfl
    simp [h] at hmark
  simp (disch := decide) [step, stepBare, hbare, isOperator, isExpansion, isPattern, hne]

theorem foldlM_literal (hbare : reader.quoting = .none) {chars : List Char} (h : Literal chars) :
    chars.foldlM step reader = .ok (reader.add chars) := by
  obtain ⟨hne, h⟩ := h
  induction chars generalizing reader with
  | nil => exact absurd rfl hne
  | cons c chars ih =>
    have hfirst := step_literal hbare (h c List.mem_cons_self)
    cases chars with
    | nil => simp [hfirst, bind, Except.bind, pure, Except.pure]
    | cons d chars =>
      have hrest := @ih (reader.add [c]) hbare (List.cons_ne_nil d chars)
        fun e he => h e (List.mem_cons_of_mem _ he)
      rw [List.foldlM_cons, hfirst]
      exact hrest.trans (by rw [add_add, List.singleton_append])

/-- Between double quotes an escaped character is added as it is, unless it is a line feed: the
backslash takes that with it. -/
theorem foldlM_shellEscape {c : Char} (hdouble : reader.quoting = .double)
    (hword : reader.word.isSome) (h : c ≠ '\x00') :
    (shellEscape c).foldlM step reader = .ok (reader.add ([c].filter (· ≠ '\n'))) := by
  obtain ⟨words, word | word, isQuoted, quoting⟩ := reader
  · cases hword
  obtain rfl : quoting = .double := hdouble
  by_cases hspecial : isShellSpecial c = true
  · simp only [isShellSpecial, Bool.or_eq_true, decide_eq_true_eq] at hspecial
    rcases hspecial with (((rfl | rfl) | rfl) | rfl) | rfl <;>
      simp [shellEscape, isShellSpecial, step, isExpansion, add, bind, Except.bind, pure,
        Except.pure]
  · have hne : ∀ {mark : Char}, isShellSpecial mark = true → c ≠ mark := by
      rintro mark hmark rfl
      exact hspecial hmark
    have hkept : [c].filter (· ≠ '\n') = [c] := by simp [@hne '\n' rfl]
    rw [hkept]
    simp (disch := decide) [shellEscape, hspecial, step, isExpansion, hne, h]

theorem foldlM_flatMap_shellEscape (hdouble : reader.quoting = .double)
    (hword : reader.word.isSome) {chars : List Char} (h : '\x00' ∉ chars) :
    (chars.flatMap shellEscape).foldlM step reader =
      .ok (reader.add (chars.filter (· ≠ '\n'))) := by
  induction chars generalizing reader with
  | nil =>
    obtain ⟨words, word | word, isQuoted, quoting⟩ := reader
    · cases hword
    simp [add, pure, Except.pure]
  | cons c chars ih =>
    rw [List.mem_cons, not_or] at h
    rw [List.flatMap_cons, List.foldlM_append, foldlM_shellEscape hdouble hword (Ne.symm h.1)]
    refine (@ih (reader.add _) hdouble rfl h.2).trans ?_
    rw [add_add, ← List.filter_append, List.singleton_append]

/-- **A quoted text is added to the word without its line feeds.** -/
theorem foldlM_shellQuote (hbare : reader.quoting = .none) {text : String}
    (h : '\x00' ∉ text.toList) : (shellQuote text).toList.foldlM step reader =
      .ok ((reader.quote .none).add (delivered text).toList) := by
  have hopen : reader.step '"' = .ok (reader.quote .double) := by
    simp [step, hbare, stepBare]
  have hinner := @foldlM_flatMap_shellEscape (reader.quote .double) rfl rfl _ h
  have hclose : ∀ chars, ((reader.quote .double).add chars).step '"' =
      .ok ((reader.quote .none).add chars) := fun _ => by simp [step, add, quote]
  rw [shellQuote, String.toList_ofList, shellQuoteChars, List.cons_append, List.foldlM_cons, hopen,
    toList_delivered]
  change ((text.toList.flatMap shellEscape ++ ['"']).foldlM step (reader.quote .double)) = _
  rw [List.foldlM_append, hinner]
  simp [bind, Except.bind, pure, Except.pure, hclose]

end CommandReader

open CommandReader

/-! ## Commands -/

namespace Word

/-- The text that a word of a command stands for. -/
def argument : Word → String
  | plain text => text
  | quoted text => delivered text

/-- The shell reads a word of a command as one word: plain words are literal characters, and quoted
ones hold no null character. -/
def IsReadable : Word → Prop
  | plain text => Literal text.toList
  | quoted text => '\x00' ∉ text.toList

instance : DecidablePred IsReadable
  | plain text => inferInstanceAs (Decidable (Literal text.toList))
  | quoted text => inferInstanceAs (Decidable ('\x00' ∉ text.toList))

/-- The word is taken for a part of the grammar where a command is due. -/
def isReserved : Word → Bool
  | plain text => text ∈ reservedWords
  | quoted _ => false

/-- The word is quoted. -/
def isQuoted : Word → Bool
  | plain _ => false
  | quoted _ => true

variable {word : Word} {words : List String}

theorem foldlM_text (h : word.IsReadable) : word.text.toList.foldlM step { words } =
    .ok { words, word := some word.argument.toList, isQuoted := word.isQuoted } := by
  cases word with
  | plain text => exact foldlM_literal rfl h
  | quoted text => exact foldlM_shellQuote rfl h

theorem endWord (h : words = [] → word.isReserved = false) : CommandReader.endWord
    { words, word := some word.argument.toList, isQuoted := word.isQuoted } =
      .ok { words := words ++ [word.argument] } := by
  cases word with
  | plain text =>
    have hword : ¬(words = [] ∧ text ∈ reservedWords) := by
      rintro ⟨hfirst, hreserved⟩
      simpa [isReserved, hreserved] using h hfirst
    simpa [CommandReader.endWord, argument, isQuoted] using hword
  | quoted text => simp [CommandReader.endWord, isQuoted]

end Word

namespace Command

variable {words : List String} {command : Command}

theorem foldlM_text (hne : command ≠ []) (hwords : ∀ word ∈ command, word.IsReadable)
    (htool : words = [] → ∀ word ∈ command.head?, word.isReserved = false) :
    (command.text.toList.foldlM step { words } >>= finish) =
      .ok (words ++ command.map Word.argument) := by
  rw [text, String.toList_intercalate]
  -- the last word apart: no blank follows it, and it ends with the line
  induction command generalizing words with
  | nil => exact absurd rfl hne
  | cons word rest ih =>
    have hread := @Word.foldlM_text word words (hwords word List.mem_cons_self)
    have hend := @Word.endWord word words fun hfirst => htool hfirst word rfl
    cases rest with
    | nil => simp [hread, hend, finish, bind, Except.bind, Except.map]
    | cons next rest =>
      have hfirst : (word.text.toList ++ " ".toList).foldlM step { words } =
          .ok { words := words ++ [word.argument] } := by
        rw [List.foldlM_append, hread]
        exact (bind_pure _).trans hend
      have hrest := @ih (words ++ [word.argument]) (List.cons_ne_nil next rest)
        (fun other hother => hwords other (List.mem_cons_of_mem _ hother)) (by simp)
      rw [List.map_cons, List.map_cons, List.map_cons, List.map_cons, List.intercalate_cons_cons,
        List.foldlM_append, hfirst]
      exact hrest.trans (by simp)

/-- **The shell reads a command as one simple command of its words.** -/
theorem readCommand_text (hne : command ≠ []) (hwords : ∀ word ∈ command, word.IsReadable)
    (htool : ∀ word ∈ command.head?, word.isReserved = false) :
    readCommand command.text = .ok (command.map Word.argument) :=
  foldlM_text hne hwords fun _ => htool

/-- Without the quotes a semicolon would end the command. -/
example : readCommand (text [.plain "/sbin/ip", .plain "x;reboot"]) = .error (.operator ';') := by
  decide

end Command

/-! ## Quoted texts -/

theorem delivered_eq_self_iff {text : String} : delivered text = text ↔ '\n' ∉ text.toList := by
  rw [delivered, ← String.toList_inj, String.toList_ofList, List.filter_eq_self]
  simp only [decide_eq_true_eq, ne_eq]
  exact ⟨fun h hmem => h _ hmem rfl, fun h c hc heq => h (heq ▸ hc)⟩

/-- **The shell reads a quoted text as one word**, which is the text without its line feeds. -/
theorem readCommand_shellQuote {text : String} (h : '\x00' ∉ text.toList) :
    readCommand (shellQuote text) = .ok [delivered text] ∧
      (delivered text = text ↔ '\n' ∉ text.toList) := by
  have hread := @Command.readCommand_text [.quoted text] (List.cons_ne_nil _ _)
    (by simpa [Word.IsReadable] using h) (by simp [Word.isReserved])
  rw [Command.text, List.map_singleton, String.intercalate_singleton] at hread
  exact ⟨hread, delivered_eq_self_iff⟩

theorem readCommand_shellQuote_marks : '\x00' ∉ "a$(b)\\\"".toList ∧
    readCommand (shellQuote "a$(b)\\\"") = .ok ["a$(b)\\\""] := by
  have hnull : '\x00' ∉ "a$(b)\\\"".toList := by decide
  obtain ⟨hread, hkept⟩ := readCommand_shellQuote hnull
  exact ⟨hnull, hkept.mpr (by decide) ▸ hread⟩

/-- The backslash that is written in front of a line feed makes the shell drop both. -/
theorem line_feed_lost : readCommand (shellQuote "a\nb") = .ok ["ab"] ∧
    readCommand (shellQuote "a\nb") ≠ .ok ["a\nb"] := by decide

end EvpnGateway

import Redline.Text.Split

/-!
# Scripts

A script is a list of pipelines of simple commands. Its words are made of plain text and of
parameters such as `$?`, with the usual rules of quoting: everything is plain between single quotes,
parameters count between double quotes, and a backslash makes the next character plain.

Reading takes two passes over the characters: the first one forms words and operators, the second
one commands.
-/

namespace Redline.Shell

/-! ## Scripts -/

/-- A part of a word. -/
inductive Piece
  /-- Plain text. -/
  | plain (text : List Char)
  /-- The value of a parameter; outside quotes it is cut at its white space. -/
  | parameter (name : List Char) (isQuoted : Bool)
deriving DecidableEq, Repr

/-- A word. -/
structure Word where
  /-- Its parts. -/
  pieces : List Piece
  /-- Whether quotes are part of it, so that it counts when it is empty. -/
  isQuoted : Bool
deriving DecidableEq, Repr

/-- A redirection of a stream. -/
structure Redirect where
  /-- The number of the stream. -/
  stream : Nat
  /-- The operator. -/
  operator : String
  /-- The file, or the number of another stream. -/
  target : Word
deriving DecidableEq, Repr

/-- A simple command. -/
structure SimpleCommand where
  /-- The number of the line on which it stands. -/
  line : Nat
  /-- Its name and arguments. -/
  words : List Word
  /-- Its redirections. -/
  redirects : List Redirect
deriving DecidableEq, Repr

/-- When a pipeline runs. -/
inductive Condition
  /-- Always. -/
  | always
  /-- When the one before it succeeded. -/
  | ifSuccess
  /-- When the one before it failed. -/
  | ifFailure
deriving DecidableEq, Repr

/-- A script: pipelines in order, each with its condition. -/
abbrev Script := List (Condition × List SimpleCommand)

/-- Why a text is no script. -/
inductive ScriptError
  /-- A quote is not closed. -/
  | unterminatedQuote
  /-- A token stands where none of its kind may stand. -/
  | unexpected (token : String)
deriving DecidableEq, Repr

/-- The wording of an error. -/
def ScriptError.message : ScriptError → String
  | .unterminatedQuote => "Syntax error: Unterminated quoted string"
  | .unexpected token => "Syntax error: " ++ token ++ " unexpected"

/-! ## Words and operators -/

/-- A word or an operator. -/
inductive Token
  | word (word : Word)
  | operator (text : String)
  /-- An operator that redirects a stream. -/
  | redirect (stream : Option Nat) (operator : String)
  | newline
deriving DecidableEq, Repr

/-- What is being read. -/
inductive Mode
  | normal
  | single
  | double
  | escaped (isQuoted : Bool)
  | dollar (isQuoted : Bool)
  | name (isQuoted : Bool) (reversed : List Char)
  | brace (isQuoted : Bool) (reversed : List Char)
  | comment
  | operator (first : Char) (stream : Option Nat)
deriving DecidableEq, Repr

/-- The state of the first pass. -/
structure Lexer where
  /-- The tokens read, in reverse. -/
  tokens : List Token := []
  /-- The word being read, with its parts in reverse. -/
  word : Option Word := none
  /-- What is being read. -/
  mode : Mode := .normal

namespace Lexer

/-- Adds a part to the word being read. -/
def addPiece (s : Lexer) (piece : Piece) : Lexer :=
  let word := s.word.getD ⟨[], false⟩
  { s with word := some { word with pieces := piece :: word.pieces } }

/-- Adds a plain character to the word being read. -/
def addChar (s : Lexer) (c : Char) : Lexer := s.addPiece (.plain [c])

/-- Marks the word being read as quoted. -/
def quoted (s : Lexer) : Lexer :=
  let word := s.word.getD ⟨[], false⟩
  { s with word := some { word with isQuoted := true } }

/-- Ends the word being read. -/
def endWord (s : Lexer) : Lexer :=
  match s.word with
  | none => s
  | some word =>
    { s with word := none, tokens := .word { word with pieces := word.pieces.reverse } :: s.tokens }

/-- Adds a token. -/
def addToken (s : Lexer) (token : Token) : Lexer := { s with tokens := token :: s.tokens }

/-- The mode inside or outside double quotes. -/
def back (isQuoted : Bool) : Mode := if isQuoted then .double else .normal

/-- The number of a stream, if the word being read is one. -/
def streamNumber? (s : Lexer) : Option Nat :=
  match s.word with
  | some ⟨[.plain [c]], false⟩ => if c.isDigit then some (c.toNat - '0'.toNat) else none
  | _ => none

/-- Reads a character outside quotes. -/
def readNormal (s : Lexer) (c : Char) : Lexer :=
  if c = '\'' then { s.quoted with mode := .single }
  else if c = '"' then { s.quoted with mode := .double }
  else if c = '\\' then { s with mode := .escaped false }
  else if c = '$' then { s with mode := .dollar false }
  else if c = '\n' then s.endWord.addToken .newline
  else if c = ' ' ∨ c = '\t' then s.endWord
  else if c = '#' ∧ s.word.isNone then { s with mode := .comment }
  else if c = '<' ∨ c = '>' then
    match s.streamNumber? with
    | some n => { s with word := none, mode := .operator c (some n) }
    | none => { s.endWord with mode := .operator c none }
  else if c = '&' ∨ c = '|' ∨ c = ';' then { s.endWord with mode := .operator c none }
  else if c = '(' ∨ c = ')' then s.endWord.addToken (.operator (String.singleton c))
  else s.addChar c

/-- Reads a character between double quotes. -/
def readDouble (s : Lexer) (c : Char) : Lexer :=
  if c = '"' then { s with mode := .normal }
  else if c = '\\' then { s with mode := .escaped true }
  else if c = '$' then { s with mode := .dollar true }
  else s.addChar c

/-- Reads a character in the mode inside or outside double quotes. -/
def readBack (isQuoted : Bool) (s : Lexer) (c : Char) : Lexer :=
  let s := { s with mode := back isQuoted }
  if isQuoted then s.readDouble c else s.readNormal c

/-- Ends the operator that begins with a character, when no longer one is there. -/
def endOperator (s : Lexer) (first : Char) (stream : Option Nat) : Lexer :=
  let text := String.singleton first
  let token := if first = '<' ∨ first = '>' then .redirect stream text else .operator text
  { s.addToken token with mode := .normal }

/-- Operators of two characters. -/
def isPair (first second : Char) : Bool :=
  (first == second && first != '<') || (second == '&' && (first == '<' || first == '>'))

/-- Reads the character after the first one of an operator. -/
def readOperator (s : Lexer) (first : Char) (stream : Option Nat) (c : Char) : Lexer :=
  if isPair first c then
    let text := String.ofList [first, c]
    let token := if first = '<' ∨ first = '>' then .redirect stream text else .operator text
    { s.addToken token with mode := .normal }
  else (s.endOperator first stream).readNormal c

/-- A character that a parameter's name may hold. -/
def isNameChar (c : Char) : Bool := c.isAlphanum || c == '_'

/-- Ends the name of a parameter. -/
def endName (s : Lexer) (isQuoted : Bool) (reversed : List Char) : Lexer :=
  { s.addPiece (.parameter reversed.reverse isQuoted) with mode := back isQuoted }

/-- Reads a character. -/
def read (s : Lexer) (c : Char) : Lexer :=
  match s.mode with
  | .normal => s.readNormal c
  | .single => if c = '\'' then { s with mode := .normal } else s.addChar c
  | .double => s.readDouble c
  | .escaped isQuoted =>
    let s := { s with mode := back isQuoted }
    if c = '\n' then s
    else if isQuoted ∧ ¬ "\"\\$\x60".toList.contains c then (s.addChar '\\').addChar c
    else (if isQuoted then s else s.quoted).addChar c
  | .dollar isQuoted =>
    if c = '\x7b' then { s with mode := .brace isQuoted [] }
    else if c.isDigit ∨ "$?#@*!-".toList.contains c then s.endName isQuoted [c]
    else if isNameChar c then { s with mode := .name isQuoted [c] }
    else (s.addChar '$').readBack isQuoted c
  | .name isQuoted reversed =>
    if isNameChar c then { s with mode := .name isQuoted (c :: reversed) }
    else (s.endName isQuoted reversed).readBack isQuoted c
  | .brace isQuoted reversed =>
    if c = '\x7d' then s.endName isQuoted reversed
    else { s with mode := .brace isQuoted (c :: reversed) }
  | .comment => if c = '\n' then { s.addToken .newline with mode := .normal } else s
  | .operator first stream => s.readOperator first stream c

/-- Ends the text. -/
def finish (s : Lexer) : Except ScriptError (List Token) :=
  match s.mode with
  | .single | .double | .escaped true | .brace _ _ | .dollar true | .name true _ =>
    .error .unterminatedQuote
  | .normal | .comment => .ok s.endWord.tokens.reverse
  | .escaped false => .ok (s.addChar '\\').endWord.tokens.reverse
  | .dollar false => .ok (s.addChar '$').endWord.tokens.reverse
  | .name false reversed => .ok (s.endName false reversed).endWord.tokens.reverse
  | .operator first stream => .ok (s.endOperator first stream).endWord.tokens.reverse

end Lexer

/-- The words and operators of a text. -/
def tokensOf (cs : List Char) : Except ScriptError (List Token) :=
  (cs.foldl Lexer.read {}).finish

/-! ## Commands -/

/-- The state of the second pass. -/
structure Reader where
  /-- The pipelines read, in reverse. -/
  done : Script := []
  /-- The condition of the pipeline being read. -/
  condition : Condition := .always
  /-- Its commands, in reverse. -/
  pipeline : List SimpleCommand := []
  /-- The words of the command being read, in reverse. -/
  words : List Word := []
  /-- Its redirections, in reverse. -/
  redirects : List Redirect := []
  /-- A redirection whose target is still to be read. -/
  pending : Option (Nat × String) := none
  /-- The number of the line. -/
  line : Nat := 1

namespace Reader

/-- Whether no command is being read. -/
def isBetween (s : Reader) : Bool := s.words.isEmpty && s.redirects.isEmpty && s.pending.isNone

/-- Ends the command being read; `token` is what ends it. -/
def endCommand (s : Reader) (token : String) : Except ScriptError Reader :=
  if s.isBetween ∨ s.pending.isSome then .error (.unexpected token)
  else .ok { s with
    pipeline := ⟨s.line, s.words.reverse, s.redirects.reverse⟩ :: s.pipeline
    words := []
    redirects := [] }

/-- Ends the pipeline being read; `next` is the condition of the next one. -/
def endPipeline (s : Reader) (token : String) (next : Condition) : Except ScriptError Reader := do
  let s ← s.endCommand token
  .ok { s with
    done := (s.condition, s.pipeline.reverse) :: s.done
    condition := next
    pipeline := [] }

/-- Reads a token. -/
def read (s : Reader) : Token → Except ScriptError Reader
  | .word word =>
    match s.pending with
    | none => .ok { s with words := word :: s.words }
    | some (stream, operator) =>
      .ok { s with redirects := ⟨stream, operator, word⟩ :: s.redirects, pending := none }
  | .redirect stream operator =>
    if s.pending.isSome then .error (.unexpected "redirection")
    else
      let usual := if operator.startsWith "<" then 0 else 1
      .ok { s with pending := some (stream.getD usual, operator) }
  | .newline =>
    if s.isBetween then .ok { s with line := s.line + 1 }
    else do
      let s ← s.endPipeline "newline" .always
      .ok { s with line := s.line + 1 }
  | .operator "|" => s.endCommand "\"|\""
  | .operator "&&" => s.endPipeline "\"&&\"" .ifSuccess
  | .operator "||" => s.endPipeline "\"||\"" .ifFailure
  | .operator text =>
    if text = ";" ∨ text = "&" then s.endPipeline ("\"" ++ text ++ "\"") .always
    else .error (.unexpected ("\"" ++ text ++ "\""))

/-- Ends the text. -/
def finish (s : Reader) : Except ScriptError Script :=
  if s.isBetween then
    if s.condition = .always ∧ s.pipeline.isEmpty then .ok s.done.reverse
    else .error (.unexpected "end of file")
  else do
    let s ← s.endPipeline "newline" .always
    .ok s.done.reverse

end Reader

/-- The script that a text denotes. -/
def scriptOf (text : String) : Except ScriptError Script := do
  let tokens ← tokensOf text.toList
  (← tokens.foldlM Reader.read {}).finish

end Redline.Shell

/-
Py.Shlex: `shlex.split` in its POSIX mode.

`split(s)` builds a lexer with `posix=True`, `whitespace_split=True` and
no comment characters, then reads tokens until the end. The lexer's
`state` attribute is `LexState`; `token` and `quoted` are the token under
construction (reversed here) and whether a quote was seen in it, which is
what lets `''` produce an empty token.
-/
import ChaosBlade.Py.Str

namespace ChaosBlade.Py.Shlex

def isBlank (c : Char) : Bool := c = ' ' ∨ c = '\t' ∨ c = '\r' ∨ c = '\n'

/-- The state to return to after an escaped character. -/
inductive Resume where
  | word
  | doubleQuote

inductive LexState where
  | blank
  | word
  | singleQuote
  | doubleQuote
  | escape (back : Resume)

def emit (tok : List Char) (quoted : Bool) (more : List (List Char)) : List (List Char) :=
  if tok.isEmpty && !quoted then more else tok.reverse :: more

def lex : LexState → List Char → Bool → List Char → Option (List (List Char))
  -- end of input
  | .blank, _, _, [] => some []
  | .word, tok, quoted, [] => some (emit tok quoted [])
  | .singleQuote, _, _, [] => none
  | .doubleQuote, _, _, [] => none
  | .escape _, _, _, [] => none
  -- between tokens
  | .blank, _, _, c :: cs =>
    if isBlank c then lex .blank [] false cs
    else if c = '\\' then lex (.escape .word) [] false cs
    else if c = '\'' then lex .singleQuote [] false cs
    else if c = '"' then lex .doubleQuote [] false cs
    else lex .word [c] false cs
  -- inside a token
  | .word, tok, quoted, c :: cs =>
    if isBlank c then (lex .blank [] false cs).map (emit tok quoted)
    else if c = '\'' then lex .singleQuote tok quoted cs
    else if c = '"' then lex .doubleQuote tok quoted cs
    else if c = '\\' then lex (.escape .word) tok quoted cs
    else lex .word (c :: tok) quoted cs
  | .singleQuote, tok, _, c :: cs =>
    if c = '\'' then lex .word tok true cs else lex .singleQuote (c :: tok) true cs
  | .doubleQuote, tok, _, c :: cs =>
    if c = '"' then lex .word tok true cs
    else if c = '\\' then lex (.escape .doubleQuote) tok true cs
    else lex .doubleQuote (c :: tok) true cs
  | .escape .word, tok, quoted, c :: cs => lex .word (c :: tok) quoted cs
  | .escape .doubleQuote, tok, quoted, c :: cs =>
    if c = '\\' ∨ c = '"' then lex .doubleQuote (c :: tok) quoted cs
    else lex .doubleQuote (c :: '\\' :: tok) quoted cs

def split (s : String) : Option (List String) :=
  (lex .blank [] false s.toList).map (List.map String.ofList)

def splitArgs (s : String) : List String := (split s).getD (splitWs s)

end ChaosBlade.Py.Shlex
